import RouteCache.Proofs.Cache.Retained
import RouteCache.Proofs.Router.Orderly
import RouteCache.Proofs.Router.Provenance
import RouteCache.Proofs.Router.Solo

/-!
Queries that are searched once. As long as the queries of a category are no more than its
cache has room for, the memo of each one that was searched stays through the insertion of
all the others, and through every expiry up to its last tick. So no query is searched twice.
What is counted is how many queries of the category have not been searched yet: a memo that
is stored leaves room for these, and each of them that is searched later is one less.
-/

namespace RouteCache

/-- The search answers every query that is asked, and with something usable. -/
def Search.Succeeds {σ : Type} (search : Search σ) (asked : Query → Prop) : Prop :=
  ∀ query memory, asked query →
    ∃ found after, search query memory = .ok found after ∧ found.verdict.isUsable = true

theorem Search.Succeeds.recorded {σ : Type} {search : Search σ} {asked : Query → Prop}
    (succeeds : search.Succeeds asked) : search.recorded.Succeeds asked := by
  intro query memory known
  obtain ⟨found, after, searched, usable⟩ := succeeds query memory.2 known
  refine ⟨found, (memory.1 ++ [⟨query, found⟩], after), ?_, usable⟩
  unfold Search.recorded
  rw [searched]

namespace Router

variable {settings : Settings} {σ : Type} {router after : Router settings σ} {search : Search σ}
  {asked : Query → Prop} {queries searched : List Query} {number : Nat} {clock last now : Tick}
  {query : Query} {answer : Answer}

/-- The number of queries of a category that have not been searched yet. -/
def pending (queries searched : List Query) (mover : UInt32) : Nat :=
  queries.countP fun query => decide (query.mover = mover ∧ query ∉ searched)

theorem pending_append_le (queries searched more : List Query) (mover : UInt32) :
    pending queries (searched ++ more) mover ≤ pending queries searched mover := by
  unfold pending
  apply List.countP_mono_left
  intro query _ counted
  simp only [List.mem_append, not_or, decide_eq_true_eq] at counted ⊢
  exact ⟨counted.1, counted.2.1⟩

theorem pending_append_lt (member : query ∈ queries) (fresh : query ∉ searched) :
    pending queries (searched ++ [query]) query.mover < pending queries searched query.mover := by
  obtain ⟨before, behind, rfl⟩ := List.append_of_mem member
  have first := pending_append_le before searched [query] query.mover
  have second := pending_append_le behind searched [query] query.mover
  unfold pending at first second ⊢
  rw [List.countP_append, List.countP_append, List.countP_cons_of_neg (by simp),
    List.countP_cons_of_pos (by simpa using fresh)]
  omega

/-- The memo of each query that was searched stays through the insertion of all queries of its
category that have not been searched yet, and through every expiry up to a tick. -/
def Secures (queries searched : List Query) (last : Tick) (router : Router settings σ) : Prop :=
  ∀ query ∈ searched,
    (router.shard query.mover).Retains query (pending queries searched query.mover) last

theorem secures_nil (queries : List Query) (last : Tick) (router : Router settings σ) :
    router.Secures queries [] last := by
  intro query member
  cases member

theorem shard_put_other (router : Router settings σ) {mover other : UInt32}
    (differs : other ≠ mover) (cache : Cache settings.policy) (memory : σ) :
    (⟨router.shards.put mover cache, memory⟩ : Router settings σ).shard other =
      router.shard other :=
  shard_congr (Shards.get?_put_other cache router.shards differs)

/-- One query. If it is searched then it was not searched before, and it joins those that
were. -/
theorem Secures.find (h : router.Secures queries searched last)
    (orderly : router.Orderly asked number clock) (separates : settings.Separates asked)
    (succeeds : search.Succeeds asked) (known : asked query) (member : query ∈ queries)
    (few : pending queries [] query.mover ≤ settings.policy.capacity.toNat)
    (late : last ≤ settings.policy.lastTick now)
    (found : Finds search query now router answer after) :
    (answer.origin = .cache ∧ after.Secures queries searched last) ∨
      ((∃ kept, answer.origin = .search kept) ∧ query ∉ searched ∧
        after.Secures queries (searched ++ [query]) last) := by
  cases found with
  | remembered looked =>
    left
    refine ⟨rfl, ?_⟩
    intro other earlier
    by_cases same : other.mover = query.mover
    · have stays := h other earlier
      rw [same] at stays ⊢
      rw [shard_put]
      exact stays.lookup looked
    · rw [shard_put_other router same]
      exact h other earlier
  | unusable looked result unusable =>
    obtain ⟨found, memory, searched', usable⟩ := succeeds query router.memory known
    rw [result] at searched'
    cases searched'
    exact absurd usable (by simp [unusable])
  | @offered _ _ _ _ outcome looked _ _ inserted =>
    right
    obtain rfl : outcome = .stored := orderly.stored separates known looked inserted
    have fresh : query ∉ searched := by
      intro earlier
      obtain ⟨memo, there⟩ := (h query earlier).found
      rw [← Cache.lookup_answer looked] at there
      cases there
    have fewer := pending_append_lt member fresh
    have most := pending_append_le queries [] searched query.mover
    rw [List.nil_append] at most
    refine ⟨⟨_, rfl⟩, fresh, ?_⟩
    intro other earlier
    rcases List.mem_append.mp earlier with old | new
    · by_cases same : other.mover = query.mover
      · have stays := h other old
        rw [same] at stays ⊢
        rw [shard_put]
        exact ((stays.mono fewer).lookup looked).insert inserted
      · rw [shard_put_other router same]
        exact (h other old).mono (pending_append_le queries searched [query] other.mover)
    · rw [List.mem_singleton.mp new, shard_put]
      have kept := ((orderly.shard query.mover).lookup looked).timely.keeps
      exact kept.retains_of_stored inserted (by omega) late

theorem Secures.expire (h : router.Secures queries searched last) (current : now ≤ last)
    {dropped : Nat} (expired : router.shards.expire now = .ok dropped after.shards) :
    after.Secures queries searched last := by
  intro query earlier
  obtain ⟨_, gone⟩ := expire_shard expired query.mover
  exact (h query earlier).expire current gone

/-! ### Runs -/

/-- The queries that a run searched, in that order. -/
def searchedIn (requests : List Request) (replies : List Reply) : List Query :=
  (searches requests replies).map (·.2.query)

theorem searchedIn_cons (request : Request) (requests : List Request) (reply : Reply)
    (replies : List Reply) :
    searchedIn (request :: requests) (reply :: replies) =
      searchedIn [request] [reply] ++ searchedIn requests replies := by
  unfold searchedIn
  rw [searches_cons, searches_cons request, List.map_append, List.map_append]
  simp [searches]

/-- A stretch of a run that asks certain queries only, all of which live until a certain
tick at least when they are searched, and that expires nothing after that tick. -/
structure Stretch (settings : Settings) (queries : List Query) (last : Tick)
    (requests : List Request) : Prop where
  asks : ∀ query now, .find query now ∈ requests → query ∈ queries
  lives : ∀ query now, .find query now ∈ requests → last ≤ settings.policy.lastTick now
  current : ∀ now, .expire now ∈ requests → now ≤ last

theorem Stretch.of_subset {requests fewer : List Request}
    (h : Stretch settings queries last requests) (part : fewer ⊆ requests) :
    Stretch settings queries last fewer where
  asks query now coming := h.asks query now (part coming)
  lives query now coming := h.lives query now (part coming)
  current now coming := h.current now (part coming)

/-- No category has more queries than its cache has room for. -/
def HasRoom (settings : Settings) (queries : List Query) : Prop :=
  ∀ query ∈ queries, pending queries [] query.mover ≤ settings.policy.capacity.toNat

/-- A run of an orderly router does not fault if the search succeeds. -/
theorem Orderly.exists_run (h : router.Orderly asked number clock)
    (separates : settings.Separates asked) (succeeds : search.Succeeds asked)
    {requests : List Request} (room : number + requests.length < UInt64.size)
    (known : ∀ query now, .find query now ∈ requests → asked query)
    (ordered : (clock :: requests.filterMap Request.findTick?).Pairwise (· ≤ ·)) :
    ∃ replies after, Router.serveAll search requests router = .ok replies after ∧
      ∃ last ∈ clock :: requests.filterMap Request.findTick?,
        after.Orderly asked (number + requests.length) last := by
  obtain ⟨last, member, orderly, faults⟩ := h.serveAll separates room known ordered search
  cases run : Router.serveAll search requests router with
  | ok replies after =>
    rw [run] at orderly
    exact ⟨replies, after, rfl, last, member, orderly⟩
  | error fault after =>
    rw [run] at faults
    obtain ⟨past, query, now, future, _, between, memory, rfl, _, searched⟩ := faults fault rfl
    obtain ⟨found, _, succeeded, _⟩ := succeeds query between.memory (known query now (by simp))
    rw [searched] at succeeded
    cases succeeded

theorem Secures.serve (h : router.Secures queries searched last) (nodup : searched.Nodup)
    (orderly : router.Orderly asked number clock) (separates : settings.Separates asked)
    (succeeds : search.Succeeds asked) (known : ∀ query ∈ queries, asked query)
    (spacious : HasRoom settings queries) {request : Request} {reply : Reply}
    (stretch : Stretch settings queries last [request])
    (served : Router.serve search request router = .ok reply after) :
    after.Secures queries (searched ++ searchedIn [request] [reply]) last ∧
      (searched ++ searchedIn [request] [reply]).Nodup := by
  cases request with
  | find query now =>
    obtain ⟨⟨result, origin⟩, rfl, found⟩ := of_serve_find served
    have member := stretch.asks query now List.mem_cons_self
    rcases h.find orderly separates succeeds (known query member) member (spacious query member)
      (stretch.lives query now List.mem_cons_self) found with
      ⟨rfl, secures⟩ | ⟨⟨kept, rfl⟩, fresh, secures⟩
    · rw [show searchedIn [.find query now] [.answered ⟨result, .cache⟩] = [] from rfl,
        List.append_nil]
      exact ⟨secures, nodup⟩
    · rw [show searchedIn [.find query now] [.answered ⟨result, .search kept⟩] = [query] from rfl]
      exact ⟨secures, nodup.append (List.nodup_singleton query) (List.disjoint_singleton.mpr fresh)⟩
  | expire now =>
    obtain ⟨dropped, rfl, expired, _⟩ := of_serve_expire served
    rw [show searchedIn [.expire now] [.expired dropped] = [] from rfl, List.append_nil]
    exact ⟨h.expire (stretch.current now List.mem_cons_self) expired, nodup⟩

/-- The queries that were searched before and in a stretch are all different. The induction is
on the requests, and the memos that are sure to stay are carried along. -/
theorem Secures.serveAll (h : router.Secures queries searched last) (nodup : searched.Nodup)
    (orderly : router.Orderly asked number clock) (separates : settings.Separates asked)
    (succeeds : search.Succeeds asked) (known : ∀ query ∈ queries, asked query)
    (spacious : HasRoom settings queries) {requests : List Request} {replies : List Reply}
    (stretch : Stretch settings queries last requests)
    (ordered : (clock :: requests.filterMap Request.findTick?).Pairwise (· ≤ ·))
    (run : Router.serveAll search requests router = .ok replies after) :
    after.Secures queries (searched ++ searchedIn requests replies) last ∧
      (searched ++ searchedIn requests replies).Nodup := by
  induction requests generalizing router searched replies number clock with
  | nil =>
    cases run
    rw [show searchedIn [] [] = [] from rfl, List.append_nil]
    exact ⟨h, nodup⟩
  | cons request requests ih =>
    obtain ⟨reply, between, others, served, remaining, rfl⟩ := of_serveAll_cons run
    obtain ⟨passed, later⟩ := ordered_cons ordered
    have one : Stretch settings queries last [request] := stretch.of_subset (by simp)
    have first : ∀ query now, request = .find query now → asked query := by
      rintro query now rfl
      exact known query (one.asks query now List.mem_cons_self)
    obtain ⟨secures, fresh⟩ := h.serve nodup orderly separates succeeds known spacious one served
    rw [searchedIn_cons, ← List.append_assoc]
    exact ih secures fresh (orderly.of_serve separates first passed served)
      (stretch.of_subset (List.subset_cons_self request requests)) later remaining

/-! ### Every query is searched -/

theorem asked_of_search {requests : List Request} {replies : List Reply} {made : Tick × Memo}
    (member : made ∈ searches requests replies) : .find made.2.query made.1 ∈ requests := by
  obtain ⟨⟨request, reply⟩, paired, told⟩ := List.mem_filterMap.mp member
  cases request with
  | expire now => cases told
  | find query now =>
    cases reply with
    | expired number => cases told
    | answered answer =>
      obtain ⟨found, origin⟩ := answer
      cases origin with
      | cache => cases told
      | search kept =>
        cases told
        exact (List.of_mem_zip paired).1

/-- A new router has searched every query that it was asked. What a cache answered was searched
before. -/
theorem mem_searchedIn_iff {memory : σ} {requests : List Request} {replies : List Reply}
    (run : serveAll search requests ({ memory } : Router settings σ) = .ok replies after) :
    query ∈ searchedIn requests replies ↔ ∃ now, .find query now ∈ requests := by
  constructor
  · intro member
    obtain ⟨made, told, rfl⟩ := List.mem_map.mp member
    exact ⟨made.1, asked_of_search told⟩
  · rintro ⟨now, coming⟩
    obtain ⟨past, future, rfl⟩ := List.append_of_mem coming
    obtain ⟨before, between, later, earlier, rest, rfl⟩ := of_serveAll_append run
    obtain ⟨reply, _, others, served, _, rfl⟩ := of_serveAll_cons rest
    obtain ⟨⟨found, origin⟩, rfl, answered⟩ := of_serve_find served
    have told (tick : Tick) (kept : Option Outcome)
        (there : (.find query tick, .answered ⟨found, .search kept⟩) ∈
          (past ++ .find query now :: future).zip
            (before ++ .answered ⟨found, origin⟩ :: others)) :
        query ∈ searchedIn (past ++ .find query now :: future)
          (before ++ .answered ⟨found, origin⟩ :: others) :=
      List.mem_map.mpr ⟨(tick, ⟨query, found⟩), List.mem_filterMap.mpr ⟨_, there, rfl⟩, rfl⟩
    rw [List.zip_append (length_of_serveAll earlier).symm] at told
    cases origin with
    | search kept => exact told now kept (by simp)
    | cache =>
      obtain ⟨_, _, tick, kept, split, _⟩ := find_remembered earlier (find_eq_ok_iff.mpr answered)
      exact told tick kept (by simp [split])

/-! ### No memo is lost -/

/-- As many memos are held as queries were searched whose memos are sure to stay. -/
theorem Secures.length_le (h : router.Secures queries searched last) (nodup : searched.Nodup)
    (orderly : router.Orderly asked number clock) :
    searched.length ≤ (router.shards.map fun shard => shard.2.report.held.toNat).sum := by
  let held : List Query := router.shards.flatMap fun shard => shard.2.entries.map (·.memo.query)
  have part : searched ⊆ held := by
    intro query member
    obtain ⟨entry, there, same⟩ := (h query member).mem_entries
    rcases router.shard_mem_or_empty query.mover with present | blank
    · exact List.mem_flatMap.mpr ⟨_, present, List.mem_map.mpr ⟨entry, there, same⟩⟩
    · rw [blank] at there
      cases there
  have length : held.length = (router.shards.map fun shard => shard.2.report.held.toNat).sum := by
    rw [List.length_flatMap]
    refine congrArg List.sum (List.map_congr_left ?_)
    intro shard member
    rw [List.length_map]
    exact (orderly shard member).timely.keeps.length_entries
  rw [← length]
  exact (List.subperm_of_subset nodup part).length_le

/-! ### Searched exactly once -/

def Request.query? : Request → Option Query
  | .find query _ => some query
  | .expire _ => none

/-- The queries that are asked, as often as they are asked. -/
def queriesOf (requests : List Request) : List Query := requests.filterMap Request.query?

theorem mem_queriesOf_iff {requests : List Request} :
    query ∈ queriesOf requests ↔ ∃ now, .find query now ∈ requests := by
  unfold queriesOf
  rw [List.mem_filterMap]
  constructor
  · rintro ⟨request, coming, same⟩
    cases request with
    | expire now => cases same
    | find other now =>
      cases same
      exact ⟨now, coming⟩
  · rintro ⟨now, coming⟩
    exact ⟨_, coming, rfl⟩

/-- The memos of a run live until the last tick of a memo of its first query. A run that asks
nothing may expire at any tick. -/
theorem exists_stretch {requests : List Request}
    (ordered : (requests.filterMap Request.findTick?).Pairwise (· ≤ ·))
    (current : ∀ first, (requests.filterMap Request.findTick?).head? = some first →
      ∀ tick, .expire tick ∈ requests → tick ≤ settings.policy.lastTick first) :
    ∃ last, Stretch settings (queriesOf requests).dedup last requests := by
  have asks : ∀ query now, .find query now ∈ requests → query ∈ (queriesOf requests).dedup :=
    fun query now coming => List.mem_dedup.mpr (mem_queriesOf_iff.mpr ⟨now, coming⟩)
  have tick : ∀ query now, .find query now ∈ requests →
      now ∈ requests.filterMap Request.findTick? :=
    fun query now coming => List.mem_filterMap.mpr ⟨_, coming, rfl⟩
  cases ticks : requests.filterMap Request.findTick? with
  | nil =>
    rw [ticks] at tick
    refine ⟨0xFFFFFFFFFFFFFFFF, asks, fun query now coming => ?_, fun now _ => ?_⟩
    · cases tick query now coming
    · exact UInt64.le_iff_toNat_le.mpr (Nat.le_pred_of_lt now.toNat_lt)
  | cons first others =>
    rw [ticks] at tick ordered current
    refine ⟨settings.policy.lastTick first, asks, fun query now coming => ?_, current first rfl⟩
    apply Register.lastTick_mono
    rcases List.mem_cons.mp (tick query now coming) with rfl | later
    · exact UInt64.le_refl _
    · exact (List.pairwise_cons.mp ordered).1 now later

/-- When as many memos are held as searches were made, nothing is left for the other counters. -/
theorem nothing_lost {requests : List Request} {replies : List Reply} {tally : Tally}
    (accounts : ∀ account, account.balance (fun occasion => (tally.number occasion).toNat)
      tally.held.toNat = turnover account requests replies)
    (held : (searches requests replies).length ≤ tally.held.toNat) :
    tally.evictions = 0 ∧ tally.expirations = 0 ∧ tally.collisions = 0 := by
  have offers : tally.collisions.toNat + tally.held.toNat + tally.evictions.toNat +
      tally.expirations.toNat = turnover .offers requests replies := accounts .offers
  have most : turnover .offers requests replies ≤ (searches requests replies).length :=
    List.countP_le_length
  have none (counter : UInt64) (zero : counter.toNat = 0) : counter = 0 := UInt64.toNat_inj.mp zero
  exact ⟨none _ (by omega), none _ (by omega), none _ (by omega)⟩

/-- A new router, with any settings and any search that succeeds, in any run in which no
category has more different queries than a cache has room for, these have slots of their own,
and nothing is expired after the tick until which a memo of the first query lives. The search
is asked each of the different queries exactly once. These searches are all the misses, and
nothing is evicted, expires or is refused for another query. -/
theorem serveAll_searches_once (settings : Settings) (search : Search σ) (memory : σ)
    (requests : List Request) (short : requests.length < UInt64.size)
    (succeeds : search.Succeeds (· ∈ queriesOf requests))
    (ordered : (requests.filterMap Request.findTick?).Pairwise (· ≤ ·))
    (few : ∀ mover, (queriesOf requests).dedup.countP (fun query => decide (query.mover = mover)) ≤
      max settings.capacity.toNat 1)
    (separate : ∀ q ∈ queriesOf requests, ∀ r ∈ queriesOf requests, q.mover = r.mover →
      settings.grid.slot q = settings.grid.slot r → q = r)
    (current : ∀ first, (requests.filterMap Request.findTick?).head? = some first →
      ∀ tick, .expire tick ∈ requests →
        tick.toNat ≤ min (first.toNat + settings.lifetime.toNat) (UInt64.size - 1)) :
    ∃ replies after tally,
      serveAll search.recorded requests
          ({ memory := ([], memory) } : Router settings (List Memo × σ)) = .ok replies after ∧
        (after.memory.1.map (·.query)).Perm (queriesOf requests).dedup ∧
        after.total = .ok tally ∧ tally.misses.toNat = (queriesOf requests).dedup.length ∧
        tally.evictions = 0 ∧ tally.expirations = 0 ∧ tally.collisions = 0 := by
  let start : Router settings (List Memo × σ) := { memory := ([], memory) }
  have separates : settings.Separates (· ∈ queriesOf requests) := by
    rintro mover q r ⟨first, rfl⟩ ⟨second, same⟩ shared
    rw [settings.place_policy] at shared
    exact separate q first r second same.symm shared
  have spacious : HasRoom settings (queriesOf requests).dedup := by
    intro query _
    rw [settings.capacity_policy]
    simpa [pending] using few query.mover
  obtain ⟨last, stretch⟩ : ∃ last, Stretch settings (queriesOf requests).dedup last requests := by
    apply exists_stretch ordered
    intro first there tick coming
    apply Register.le_lastTick_iff.mpr
    rw [settings.lifetime_policy]
    exact current first there tick coming
  have fresh : start.Orderly (· ∈ queriesOf requests) 0 0 := orderly_new _ 0 _
  have zero := pairwise_zero_cons ordered
  obtain ⟨replies, after, run, _, _, orderly⟩ := fresh.exists_run separates succeeds.recorded
    (by omega) (fun query now coming => mem_queriesOf_iff.mpr ⟨now, coming⟩) zero
  obtain ⟨secures, nodup⟩ := (secures_nil _ last start).serveAll List.nodup_nil fresh separates
    succeeds.recorded (fun query => List.mem_dedup.mp) spacious stretch zero run
  rw [List.nil_append] at secures nodup
  have once : (searchedIn requests replies).Perm (queriesOf requests).dedup := by
    apply (List.perm_ext_iff_of_nodup nodup (List.nodup_dedup _)).mpr
    intro query
    rw [mem_searchedIn_iff run, List.mem_dedup, mem_queriesOf_iff]
  have record : after.memory.1.map (·.query) = searchedIn requests replies := by
    rw [record_of_serveAll run, List.nil_append, List.map_map]
    rfl
  have made : (searches requests replies).length = (queriesOf requests).dedup.length := by
    rw [← once.length_eq, searchedIn, List.length_map]
  obtain ⟨tally, total, accounts, sum⟩ := exists_total_of_serveAll short run
  have misses : tally.misses.toNat = (searches requests replies).length := accounts .misses
  have held := secures.length_le nodup orderly
  rw [once.length_eq, ← made, ← sum] at held
  obtain ⟨evictions, expirations, collisions⟩ := nothing_lost accounts held
  exact ⟨replies, after, tally, run, record ▸ once, total, misses.trans made, evictions,
    expirations, collisions⟩

/-- Two categories with caches for two memos, in which memos would expire after tick 13. -/
theorem serveAll_searches_once_two_categories :
    let settings : Settings := { capacity := 2, lifetime := 10 }
    let search := Search.ofFunction fun query => ⟨{ cells := [query.goal] }, .approached⟩
    let start : Router settings (List Memo × Unit) := { memory := ([], ()) }
    let elsewhere : Query := { eastward 5 with mover := 2 }
    let requests : List Request := [.expire 12, .find (eastward 5) 3, .find elsewhere 3,
      .find (eastward 6) 3, .expire 13, .find (eastward 5) 90, .find (eastward 6) 95]
    requests.length < UInt64.size ∧ search.Succeeds (· ∈ queriesOf requests) ∧
      (requests.filterMap Request.findTick?).Pairwise (· ≤ ·) ∧
      ∃ replies after tally, serveAll search.recorded requests start = .ok replies after ∧
        (after.memory.1.map (·.query)).Perm [elsewhere, eastward 5, eastward 6] ∧
        after.total = .ok tally ∧ tally.misses.toNat = 3 ∧ tally.evictions = 0 ∧
        tally.expirations = 0 ∧ tally.collisions = 0 := by
  intro settings search start elsewhere requests
  have succeeds : search.Succeeds (· ∈ queriesOf requests) :=
    fun query memory _ => ⟨_, memory, rfl, rfl⟩
  have ordered : (requests.filterMap Request.findTick?).Pairwise (· ≤ ·) := by decide
  have different : (queriesOf requests).dedup = [elsewhere, eastward 5, eastward 6] := by
    decide +kernel
  have few : ∀ mover, (queriesOf requests).dedup.countP
      (fun query => decide (query.mover = mover)) ≤ max settings.capacity.toNat 1 := by
    intro mover
    rw [different]
    by_cases here : (1 : UInt32) = mover
    · subst here
      decide
    · have other : (eastward 5).mover ≠ mover ∧ (eastward 6).mover ≠ mover := ⟨here, here⟩
      have one : [elsewhere].countP (fun query => decide (query.mover = mover)) ≤ 1 :=
        List.countP_le_length
      apply Nat.le_trans _ (Nat.le_max_right _ _)
      simpa [List.countP_cons, other] using one
  have current : ∀ first, (requests.filterMap Request.findTick?).head? = some first →
      ∀ tick, .expire tick ∈ requests →
        tick.toNat ≤ min (first.toNat + settings.lifetime.toNat) (UInt64.size - 1) := by
    rintro _ ⟨⟩ tick coming
    simp only [requests, List.mem_cons, reduceCtorEq, Request.expire.injEq, List.not_mem_nil,
      or_false, false_or] at coming
    rcases coming with rfl | rfl <;> decide
  have once := serveAll_searches_once settings search () requests (by decide) succeeds ordered few
    (by decide +kernel) current
  rw [different] at once
  exact ⟨by decide, succeeds, ordered, once⟩

end Router

end RouteCache
