import RouteCache.Proofs.Cache.Orderly
import RouteCache.Proofs.Grid.Trips
import RouteCache.Proofs.Router.Balance
import RouteCache.Proofs.Router.Transparency

/-!
A router that is only asked queries which have slots of their own within their category.
Then no cache ever refuses a memo for another query: whatever is searched with success is
kept, and the same query asked again at once is answered from the cache. Nothing faults but
the search.

On a grid with no more cells than 32 bits can count all queries are of this kind whose cells
lie on the grid and whose radius depends on the category alone.
-/

namespace RouteCache

/-- No two of the queries that are asked share a slot, unless they differ in category. -/
def Settings.Separates (settings : Settings) (asked : Query → Prop) : Prop :=
  ∀ mover, settings.policy.place.Separates fun query => asked query ∧ query.mover = mover

namespace Router

variable {settings : Settings} {σ : Type} {router after : Router settings σ} {search : Search σ}
  {asked : Query → Prop} {number : Nat} {clock now : Tick} {query : Query} {answer : Answer}

/-- Every cache of the router is orderly after so many requests. -/
def Orderly (asked : Query → Prop) (number : Nat) (clock : Tick) (router : Router settings σ) :
    Prop :=
  ∀ shard ∈ router.shards,
    shard.2.Orderly (fun query => asked query ∧ query.mover = shard.1) number number clock

theorem orderly_new (asked : Query → Prop) (clock : Tick) (memory : σ) :
    ({ memory } : Router settings σ).Orderly asked 0 clock := by
  intro shard member
  cases member

theorem Orderly.mono (h : router.Orderly asked number clock) {more : Nat} (le : number ≤ more)
    (passed : clock ≤ now) : router.Orderly asked more now :=
  fun shard member => (h shard member).mono le le passed

theorem Orderly.shard (h : router.Orderly asked number clock) (mover : UInt32) :
    (router.shard mover).Orderly (fun query => asked query ∧ query.mover = mover) number number
      clock := by
  rcases router.shard_mem_or_empty mover with member | blank
  · exact h _ member
  · rw [blank]
    exact (Cache.orderly_empty _ clock).mono (Nat.zero_le _) (Nat.zero_le _) (UInt64.le_refl _)

theorem Orderly.put (h : router.Orderly asked number clock) (mover : UInt32)
    {cache : Cache settings.policy} {lookups inserts : Nat}
    (orderly : cache.Orderly (fun query => asked query ∧ query.mover = mover) lookups inserts now)
    (hl : lookups ≤ number + 1) (hi : inserts ≤ number + 1) (passed : clock ≤ now) (memory : σ) :
    (⟨router.shards.put mover cache, memory⟩ : Router settings σ).Orderly asked (number + 1)
      now := by
  intro shard member
  rcases Shards.mem_of_mem_put member with old | rfl
  · exact (h shard old).mono (Nat.le_succ _) (Nat.le_succ _) passed
  · exact orderly.mono hl hi (UInt64.le_refl _)

theorem Orderly.find (h : router.Orderly asked number clock)
    (separates : settings.Separates asked) (known : asked query) (passed : clock ≤ now)
    (found : Finds search query now router answer after) :
    after.Orderly asked (number + 1) now := by
  have shard := (h.shard query.mover).mono (Nat.le_refl _) (Nat.le_refl _) passed
  cases found with
  | remembered looked =>
    exact h.put query.mover (shard.lookup looked) (Nat.le_refl _) (Nat.le_succ _) passed _
  | unusable looked searched unusable =>
    exact h.put query.mover (shard.lookup looked) (Nat.le_refl _) (Nat.le_succ _) passed _
  | offered looked searched usable inserted =>
    have kept := (shard.lookup looked).insert (separates query.mover) ⟨known, rfl⟩ inserted
    exact h.put query.mover kept (Nat.le_refl _) (Nat.le_refl _) passed _

theorem Orderly.expire (h : router.Orderly asked number clock) {dropped : Nat}
    (expired : router.shards.expire now = .ok dropped after.shards) :
    after.Orderly asked number clock := by
  rintro ⟨mover, cache⟩ member
  obtain ⟨before, there, gone⟩ := Shards.of_mem_expire expired member
  exact (h _ there).expire gone

/-- A search that brings something usable is stored. -/
theorem Orderly.stored (h : router.Orderly asked number clock)
    (separates : settings.Separates asked) (known : asked query) {outcome : Outcome}
    {found : Found} {cache kept : Cache settings.policy}
    (looked : Cache.lookup query (router.shard query.mover) = .ok none cache)
    (inserted : Cache.insert ⟨query, found⟩ now cache = .ok outcome kept) :
    outcome = .stored := by
  have shard := h.shard query.mover
  have fresh : outcome ≠ .duplicate := shard.timely.keeps.not_duplicate looked inserted
  have apart : outcome ≠ .collided :=
    (shard.lookup looked).not_collided (separates query.mover) ⟨known, rfl⟩ inserted
  cases outcome with
  | stored => rfl
  | duplicate => exact absurd rfl fresh
  | collided => exact absurd rfl apart

/-- A query that was searched with success is answered from the cache when it is asked again
at once. -/
theorem Orderly.find_again (h : router.Orderly asked number clock)
    (separates : settings.Separates asked) (room : number + 1 < UInt64.size) (known : asked query)
    {result : Found} {kept : Option Outcome}
    (found : Finds search query now router ⟨result, .search kept⟩ after)
    (usable : result.verdict.isUsable = true) (later : Tick) :
    ∃ again, Router.find search query later after = .ok ⟨result, .cache⟩ again ∧
      again.memory = after.memory := by
  cases found with
  | unusable _ _ unusable => exact absurd usable (by simp [unusable])
  | @offered _ memory cache stored outcome looked searched _ inserted =>
    obtain rfl : outcome = .stored := h.stored separates known looked inserted
    have shard := (h.shard query.mover).timely
    obtain ⟨last, looked'⟩ := shard.lookup_of_stored room looked inserted
    rw [← shard_put router query.mover stored memory] at looked'
    exact ⟨_, find_of_memo search later looked', rfl⟩

theorem Orderly.collisions_total (h : router.Orderly asked number clock) {tally : Tally}
    (total : router.total = .ok tally) : tally.collisions = 0 := by
  obtain ⟨numbers, _⟩ := Tally.total_eq_ok_iff.mp total
  apply UInt64.toNat_inj.mp
  apply (numbers .collision).trans
  apply List.sum_eq_zero
  intro collisions member
  rw [List.map_map] at member
  obtain ⟨shard, there, rfl⟩ := List.mem_map.mp member
  exact congrArg UInt64.toNat (h shard there).uncollided

/-! ### Nothing faults but the search -/

theorem serve_expire_of_ok (search : Search σ) {dropped : Nat} {shards : Shards settings.policy}
    (expired : router.shards.expire now = .ok dropped shards) :
    serve search (.expire now) router = .ok (.expired dropped) { router with shards } := by
  have cleared : Router.expire now router = .ok dropped { router with shards } := by
    unfold Router.expire
    rw [expired]
  exact bind_of_ok cleared

theorem find_of_fault {fault : Fault} {memory : σ} {cache : Cache settings.policy}
    (looked : Cache.lookup query (router.shard query.mover) = .ok none cache)
    (searched : search query router.memory = .error fault memory) (now : Tick) :
    Router.find search query now router =
      .error fault ⟨router.shards.put query.mover cache, memory⟩ := by
  unfold Router.find
  rw [bind_of_ok (onShard_eq_ok looked)]
  refine bind_eq_error_iff.mpr (.inl ?_)
  unfold consult
  rw [searched]

/-- A query is answered, or else its search faults. -/
theorem Orderly.find_total (h : router.Orderly asked number clock)
    (room : number + 1 < UInt64.size) (passed : clock ≤ now) (search : Search σ) (query : Query) :
    (∃ answer after, Finds search query now router answer after) ∨
      ∃ fault memory after, search query router.memory = .error fault memory ∧
        Router.find search query now router = .error fault after ∧
        after.Orderly asked (number + 1) now := by
  have shard := (h.shard query.mover).mono (Nat.le_refl _) (Nat.le_refl _) passed
  obtain ⟨cache, looked⟩ := shard.timely.exists_lookup room (by omega) query
  cases found : (router.shard query.mover).find? query with
  | some memo =>
    rw [found] at looked
    exact .inl ⟨_, _, .remembered looked⟩
  | none =>
    rw [found] at looked
    cases searched : search query router.memory with
    | error fault memory =>
      refine .inr ⟨fault, memory, _, rfl, find_of_fault looked searched now, ?_⟩
      exact h.put query.mover (shard.lookup looked) (Nat.le_refl _) (Nat.le_succ _) passed _
    | ok result memory =>
      left
      cases usable : result.verdict.isUsable with
      | false => exact ⟨_, _, .unusable looked searched usable⟩
      | true =>
        obtain ⟨outcome, kept, inserted⟩ :=
          (shard.lookup looked).timely.exists_insert room room ⟨query, result⟩
        exact ⟨_, _, .offered looked searched usable inserted⟩

theorem Orderly.expire_total (h : router.Orderly asked number clock)
    (room : number < UInt64.size) (search : Search σ) (now : Tick) :
    ∃ dropped after, serve search (.expire now) router = .ok (.expired dropped) after := by
  have fine : ∀ shard ∈ router.shards, fault? (Cache.expire now shard.2) = none := by
    intro shard member
    obtain ⟨here, cleared, expired⟩ := (h shard member).timely.exists_expire room room now
    rw [expired]
    rfl
  exact ⟨_, _, serve_expire_of_ok search (Shards.expire_eq_ok_iff.mpr ⟨fine, rfl, rfl⟩)⟩

/-- The search faults at a query that a run has come to. -/
def StoppedBySearch (search : Search σ) (requests : List Request) (router : Router settings σ)
    (fault : Fault) : Prop :=
  ∃ past query now future replies between memory,
    requests = past ++ .find query now :: future ∧
      serveAll search past router = .ok replies between ∧
      search query between.memory = .error fault memory

theorem end_cons_of_ok {request : Request} {reply : Reply}
    (served : serve search request router = .ok reply after) (requests : List Request) :
    final (serveAll search (request :: requests) router) = final (serveAll search requests after) ∧
      fault? (serveAll search (request :: requests) router) =
        fault? (serveAll search requests after) := by
  cases rest : serveAll search requests after with
  | ok replies last =>
    rw [serveAll_cons_of_ok served rest]
    exact ⟨rfl, rfl⟩
  | error fault last =>
    unfold serveAll
    rw [bind_of_ok served, bind_eq_error_iff.mpr (.inl rest)]
    exact ⟨rfl, rfl⟩

theorem StoppedBySearch.cons {request : Request} {requests : List Request} {reply : Reply}
    {fault : Fault} (served : serve search request router = .ok reply after)
    (h : StoppedBySearch search requests after fault) :
    StoppedBySearch search (request :: requests) router fault := by
  obtain ⟨past, query, now, future, replies, between, memory, rfl, run, searched⟩ := h
  exact ⟨request :: past, query, now, future, reply :: replies, between, memory, rfl,
    serveAll_cons_of_ok served run, searched⟩

/-- The tick of the last query when one more request was served. -/
def Request.tickAfter (request : Request) (clock : Tick) : Tick := request.findTick?.getD clock

theorem ordered_cons {request : Request} {requests : List Request}
    (ordered : (clock :: (request :: requests).filterMap Request.findTick?).Pairwise (· ≤ ·)) :
    (∀ now, request.findTick? = some now → clock ≤ now) ∧
      (request.tickAfter clock :: requests.filterMap Request.findTick?).Pairwise (· ≤ ·) := by
  cases request with
  | find query now =>
    obtain ⟨below, later⟩ := List.pairwise_cons.mp ordered
    refine ⟨?_, later⟩
    rintro _ ⟨⟩
    exact below now List.mem_cons_self
  | expire now => exact ⟨fun _ none => (nomatch none), ordered⟩

theorem Orderly.of_serve (h : router.Orderly asked number clock)
    (separates : settings.Separates asked) {request : Request} {reply : Reply}
    (known : ∀ query now, request = .find query now → asked query)
    (passed : ∀ now, request.findTick? = some now → clock ≤ now)
    (served : Router.serve search request router = .ok reply after) :
    after.Orderly asked (number + 1) (request.tickAfter clock) := by
  cases request with
  | find query now =>
    obtain ⟨answer, rfl, found⟩ := of_serve_find served
    exact h.find separates (known query now rfl) (passed now rfl) found
  | expire now =>
    obtain ⟨dropped, rfl, expired, _⟩ := of_serve_expire served
    exact (h.expire expired).mono (Nat.le_succ _) (UInt64.le_refl _)

/-- A request is served, or else it is a query whose search faults. -/
theorem Orderly.serve_total (h : router.Orderly asked number clock)
    (room : number + 1 < UInt64.size) {request : Request}
    (passed : ∀ now, request.findTick? = some now → clock ≤ now) (search : Search σ) :
    (∃ reply after, serve search request router = .ok reply after) ∨
      ∃ query now fault memory after, request = .find query now ∧
        search query router.memory = .error fault memory ∧
        serve search request router = .error fault after ∧
        after.Orderly asked (number + 1) now := by
  cases request with
  | find query now =>
    rcases h.find_total room (passed now rfl) search query with
      ⟨answer, after, found⟩ | ⟨fault, memory, after, searched, stopped, orderly⟩
    · exact .inl ⟨.answered answer, after, bind_of_ok (find_eq_ok_iff.mpr found)⟩
    · exact .inr ⟨query, now, fault, memory, after, rfl, searched,
        bind_eq_error_iff.mpr (.inl stopped), orderly⟩
  | expire now =>
    obtain ⟨dropped, after, served⟩ := h.expire_total (by omega) search now
    exact .inl ⟨_, after, served⟩

/-- The induction is on the requests. The number of those that were served bounds the
counters, and the tick of the last query the deadlines. -/
theorem Orderly.serveAll (h : router.Orderly asked number clock)
    (separates : settings.Separates asked) {requests : List Request}
    (room : number + requests.length < UInt64.size)
    (known : ∀ query now, .find query now ∈ requests → asked query)
    (ordered : (clock :: requests.filterMap Request.findTick?).Pairwise (· ≤ ·))
    (search : Search σ) :
    ∃ last ∈ clock :: requests.filterMap Request.findTick?,
      (final (Router.serveAll search requests router)).Orderly asked (number + requests.length)
        last ∧
      ∀ fault, fault? (Router.serveAll search requests router) = some fault →
        StoppedBySearch search requests router fault := by
  induction requests generalizing router number clock with
  | nil => exact ⟨clock, List.mem_cons_self, h, by rintro fault ⟨⟩⟩
  | cons request requests ih =>
    rw [List.length_cons] at room
    obtain ⟨passed, later⟩ := ordered_cons ordered
    have first : ∀ query now, request = .find query now → asked query := by
      rintro query now rfl
      exact known query now List.mem_cons_self
    rcases h.serve_total (by omega) passed search with
      ⟨reply, between, served⟩ | ⟨query, now, fault, memory, after, rfl, searched, stopped, orderly⟩
    · have orderly := h.of_serve separates first passed served
      obtain ⟨last, member, kept, faults⟩ := ih orderly (by omega)
        (fun query now coming => known query now (List.mem_cons_of_mem _ coming)) later
      obtain ⟨same, alike⟩ := end_cons_of_ok served requests
      rw [same, alike]
      refine ⟨last, ?_, kept.mono (by rw [List.length_cons]; omega) (UInt64.le_refl _),
        fun fault ended => (faults fault ended).cons served⟩
      cases request with
      | find query now => exact List.mem_cons_of_mem _ member
      | expire now => exact member
    · have ended : Router.serveAll search (.find query now :: requests) router =
          .error fault after :=
        bind_eq_error_iff.mpr (.inl stopped)
      rw [ended]
      refine ⟨now, List.mem_cons_of_mem _ List.mem_cons_self,
        orderly.mono (by rw [List.length_cons]; omega) (UInt64.le_refl _), ?_⟩
      rintro _ ⟨⟩
      exact ⟨[], query, now, requests, [], router, memory, rfl, rfl, searched⟩

end Router

/-- On a grid with no more cells than 32 bits can count, the slots of queries of one category
differ if the queries lie on the grid and agree in their radii. -/
theorem Settings.separates_of_covers {settings : Settings} {asked : Query → Prop}
    (few : settings.grid.cells ≤ 4294967296)
    (inside : ∀ query, asked query →
      settings.grid.Covers query.start ∧ settings.grid.Covers query.goal)
    (radii : ∀ q r, asked q → asked r → q.mover = r.mover → q.radius = r.radius) :
    settings.Separates asked := by
  rintro mover q r ⟨first, rfl⟩ ⟨second, same⟩ shared
  obtain ⟨start, goal⟩ := inside q first
  obtain ⟨start', goal'⟩ := inside r second
  have radius := radii q r first second same.symm
  rw [settings.place_policy] at shared
  by_contra differ
  apply Grid.slot_separatesTrips_iff.mpr (Grid.base_separatesTrips few) q r start goal start' goal'
    radius same.symm ?_ shared
  intro trips
  obtain ⟨starts, goals⟩ := Prod.mk.inj trips
  apply differ
  cases q
  cases r
  rw [Query.mk.injEq]
  exact ⟨starts, goals, radius, same.symm⟩

namespace Router

variable {σ : Type}

theorem pairwise_zero_cons {ticks : List Tick} (ordered : ticks.Pairwise (· ≤ ·)) :
    (0 :: ticks).Pairwise (· ≤ ·) :=
  List.pairwise_cons.mpr ⟨fun _ _ => UInt64.le_iff_toNat_le.mpr (Nat.zero_le _), ordered⟩

/-- A new router on a grid with no more cells than 32 bits can count, with any other settings
and any search, in any run of queries on the grid that agree in their radii when they agree
in their categories. No cache counts a collision, however the run ends. Nothing faults but
the search. And whenever a search brings something usable, the same query at the same tick
is then answered from the cache, with the same result and without a search. -/
theorem serveAll_without_collisions (settings : Settings)
    (few : settings.width.toNat * settings.depth.toNat ≤ 4294967296) (search : Search σ)
    (memory : σ) (requests : List Request) (short : requests.length < UInt64.size)
    (ordered : (requests.filterMap Request.findTick?).Pairwise (· ≤ ·))
    (inside : ∀ query now, .find query now ∈ requests →
      settings.grid.Covers query.start ∧ settings.grid.Covers query.goal)
    (radii : ∀ q now r later, .find q now ∈ requests → .find r later ∈ requests →
      q.mover = r.mover → q.radius = r.radius) :
    let start : Router settings σ := { memory }
    (∀ mover tally, (final (serveAll search requests start)).report? mover = some tally →
      tally.collisions = 0) ∧
    (∀ fault, fault? (serveAll search requests start) = some fault →
      StoppedBySearch search requests start fault) ∧
    ∀ past query now future replies router found kept after,
      requests = past ++ .find query now :: future →
      serveAll search past start = .ok replies router →
      find search query now router = .ok ⟨found, .search kept⟩ after →
      found.verdict.isUsable = true →
      ∃ again, find search query now after = .ok ⟨found, .cache⟩ again ∧
        again.memory = after.memory := by
  intro start
  let asked : Query → Prop := fun query => ∃ now, .find query now ∈ requests
  have separates : settings.Separates asked := by
    apply Settings.separates_of_covers few
    · rintro query ⟨now, coming⟩
      exact inside query now coming
    · rintro q r ⟨now, coming⟩ ⟨later, coming'⟩ same
      exact radii q now r later coming coming' same
  have fresh : start.Orderly asked 0 0 := orderly_new asked 0 memory
  have zero := pairwise_zero_cons ordered
  obtain ⟨_, _, orderly, faults⟩ := fresh.serveAll separates (by omega)
    (fun query now coming => ⟨now, coming⟩) zero search
  refine ⟨?_, faults, ?_⟩
  · intro mover tally reported
    obtain ⟨cache, there, rfl⟩ := Option.map_eq_some_iff.mp reported
    exact (orderly _ (Shards.mem_of_get? there)).uncollided
  · rintro past query now future replies router found kept after rfl run answered usable
    rw [List.length_append, List.length_cons] at short
    rw [List.filterMap_append, ← List.cons_append] at zero
    obtain ⟨last, _, before, _⟩ := fresh.serveAll separates (by omega)
      (fun query now coming => ⟨now, List.mem_append_left _ coming⟩)
      (List.pairwise_append.mp zero).1 search
    rw [run] at before
    exact before.find_again separates (by omega) ⟨now, by simp⟩ (find_eq_ok_iff.mp answered) usable
      now

/-- In a cache for one memo a query is searched once more after another one, and kept. -/
theorem serveAll_without_collisions_one_memo :
    let settings : Settings := { capacity := 1 }
    let search := Search.scripted [.approached, .reached, .reached]
    let past : List Request := [.find (eastward 5) 3, .find (eastward 6) 3]
    let requests : List Request := past ++ [.find (eastward 5) 4, .expire 400]
    let start : Router settings Nat := { memory := 0 }
    requests.length < UInt64.size ∧
      (requests.filterMap Request.findTick?).Pairwise (· ≤ ·) ∧
      ∃ replies router found kept after again, serveAll search past start = .ok replies router ∧
        find search (eastward 5) 4 router = .ok ⟨found, .search kept⟩ after ∧
        find search (eastward 5) 4 after = .ok ⟨found, .cache⟩ again ∧
        again.memory = after.memory := by
  intro settings search past requests start
  have closed : ends (fun _ router => ends (fun answer _ =>
        decide (answer.origin = .search (some .stored) ∧ answer.found.verdict.isUsable = true))
        (find search (eastward 5) 4 router)) (serveAll search past start) = true := by
    decide +kernel
  obtain ⟨replies, router, run, reached⟩ := ends_iff.mp closed
  obtain ⟨⟨found, origin⟩, after, answered, last⟩ := ends_iff.mp reached
  obtain ⟨rfl, usable⟩ := of_decide_eq_true last
  have short : requests.length < UInt64.size := by decide
  have ordered : (requests.filterMap Request.findTick?).Pairwise (· ≤ ·) := by decide
  have asked : ∀ query now, .find query now ∈ requests →
      query = eastward 5 ∨ query = eastward 6 := by
    intro query now coming
    simp only [requests, past, List.cons_append, List.nil_append, List.mem_cons,
      Request.find.injEq, reduceCtorEq, List.not_mem_nil, or_false] at coming
    rcases coming with ⟨rfl, _⟩ | ⟨rfl, _⟩ | ⟨rfl, _⟩ <;> simp
  obtain ⟨_, _, kept⟩ := serveAll_without_collisions settings (by decide) search 0 requests short
    ordered
    (by
      intro query now coming
      rcases asked query now coming with rfl | rfl <;> decide)
    (by
      intro q now r later coming coming' _
      rcases asked q now coming with rfl | rfl <;>
        rcases asked r later coming' with rfl | rfl <;> rfl)
  obtain ⟨again, answer, same⟩ := kept past (eastward 5) 4 [.expire 400] replies router found _
    after rfl run answered usable
  exact ⟨short, ordered, replies, router, found, _, after, again, run, answered, answer, same⟩

end Router

end RouteCache
