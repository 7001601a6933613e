import RouteCache.Proofs.Cache.Timely
import RouteCache.Proofs.Router.Shards

/-!
Caching is not seen in the answers. If what a search finds depends on the query alone,
then a router answers every query with just that, at whatever ticks memos expire,
whichever queries share a slot and whatever the bits of a radius are. Nor does it
fault, as long as the ticks of the queries do not go back and there are fewer requests
than a word can count.
-/

namespace RouteCache

/-- A search never faults and what it finds is a function of the query. Its memory may
change all the same. -/
def Search.Computes {σ : Type} (search : Search σ) (f : Query → Found) : Prop :=
  ∀ query memory, ∃ after, search query memory = .ok (f query) after

namespace Router

def Request.findTick? : Request → Option Tick
  | .find _ now => some now
  | .expire _ => none

/-- What a request is answered when every query is searched. -/
def Request.searched (f : Query → Found) : Request → Option Found
  | .find query _ => some (f query)
  | .expire _ => none

/-- What a reply tells about a query. -/
def Reply.found? : Reply → Option Found
  | .answered answer => some answer.found
  | .expired _ => none

variable {settings : Settings} {σ : Type} {router : Router settings σ} {f : Query → Found}
  {number : Nat} {clock : Tick}

/-- Every cache of the router is faithful after so many requests. -/
def Faithful (f : Query → Found) (number : Nat) (clock : Tick) (router : Router settings σ) :
    Prop :=
  ∀ shard ∈ router.shards, shard.2.Faithful f number number clock

theorem Faithful.shard (h : router.Faithful f number clock) (mover : UInt32) :
    (router.shard mover).Faithful f number number clock := by
  rcases router.shard_mem_or_empty mover with member | blank
  · exact h _ member
  · rw [blank]
    exact (Cache.timely_empty _ clock).mono (Nat.zero_le _) (Nat.zero_le _) (UInt64.le_refl _)

theorem Faithful.put (h : router.Faithful f number clock) {now : Tick} (passed : clock ≤ now)
    {mover : UInt32} {cache : Cache settings.policy} {memory : σ}
    (faithful : cache.Faithful f (number + 1) (number + 1) now) :
    ({ shards := router.shards.put mover cache, memory } : Router settings σ).Faithful f
      (number + 1) now := by
  intro shard member
  rcases Shards.mem_of_mem_put member with old | new
  · exact (h shard old).mono (Nat.le_succ _) (Nat.le_succ _) passed
  · rw [new]
    exact faithful

theorem separatesRadii (settings : Settings) : settings.policy.place.SeparatesRadii := by
  unfold Settings.policy
  rw [Policy.place_bounded]
  exact settings.grid.slot_separatesRadii

/-- One query is answered by the function, wherever the answer comes from. -/
theorem Faithful.find (h : router.Faithful f number clock) {search : Search σ}
    (computes : search.Computes f) (room : number + 1 < UInt64.size) (query : Query) {now : Tick}
    (passed : clock ≤ now) :
    ∃ origin after, Router.find search query now router = .ok ⟨f query, origin⟩ after ∧
      after.Faithful f (number + 1) now := by
  have shard : (router.shard query.mover).Faithful f number number now :=
    (h.shard query.mover).mono (Nat.le_refl _) (Nat.le_refl _) passed
  obtain ⟨cache, looked⟩ := shard.exists_lookup room (by omega) query
  have counted := shard.lookup looked
  cases found : (router.shard query.mover).find? query with
  | some memo =>
    rw [found] at looked
    have told := shard.found (separatesRadii settings) found
    have answered := find_of_memo search now looked
    rw [told] at answered
    exact ⟨.cache, _, answered,
      h.put passed (counted.mono (Nat.le_refl _) (Nat.le_succ _) (UInt64.le_refl _))⟩
  | none =>
    rw [found] at looked
    obtain ⟨memory, searched⟩ := computes query router.memory
    cases usable : (f query).verdict.isUsable with
    | false =>
      exact ⟨.search none, _, find_of_unusable search now looked searched usable,
        h.put passed (counted.mono (Nat.le_refl _) (Nat.le_succ _) (UInt64.le_refl _))⟩
    | true =>
      obtain ⟨outcome, after, inserted⟩ := counted.exists_insert room room ⟨query, f query⟩
      have kept := counted.insert inserted rfl
      exact ⟨.search (some outcome), _,
        find_of_usable search now looked searched usable inserted, h.put passed kept⟩

theorem faithful_expire {shards : Shards settings.policy}
    (h : ∀ shard ∈ shards, shard.2.Faithful f number number clock) (room : number < UInt64.size)
    (now : Tick) :
    ∃ dropped after, shards.expire now = .ok dropped after ∧
      ∀ shard ∈ after, shard.2.Faithful f number number clock := by
  have fine : ∀ shard ∈ shards, fault? (Cache.expire now shard.2) = none := by
    intro shard member
    obtain ⟨here, cleared, expired⟩ := (h shard member).exists_expire room room now
    rw [expired]
    rfl
  have expired := Shards.expire_eq_ok_iff.mpr ⟨fine, rfl, rfl⟩
  refine ⟨_, _, expired, ?_⟩
  rintro ⟨mover, cache⟩ member
  obtain ⟨before, there, gone⟩ := Shards.of_mem_expire expired member
  exact (h _ there).expire gone

theorem Faithful.expire (h : router.Faithful f number clock) (room : number < UInt64.size)
    (now : Tick) :
    ∃ dropped after, Router.expire now router = .ok dropped after ∧
      after.Faithful f number clock := by
  obtain ⟨dropped, shards, expired, kept⟩ := faithful_expire h room now
  refine ⟨dropped, { router with shards }, ?_, kept⟩
  unfold Router.expire
  rw [expired]

/-- A run from a faithful router. The induction is on the requests; the number of
requests so far bounds the counters, and the tick of the last query the deadlines. -/
theorem Faithful.serveAll (h : router.Faithful f number clock) {search : Search σ}
    (computes : search.Computes f) {requests : List Request}
    (room : number + requests.length < UInt64.size)
    (ordered : (clock :: requests.filterMap Request.findTick?).Pairwise (· ≤ ·)) :
    ∃ replies after, Router.serveAll search requests router = .ok replies after ∧
      replies.map Reply.found? = requests.map (Request.searched f) := by
  induction requests generalizing router number clock with
  | nil => exact ⟨[], router, rfl, rfl⟩
  | cons request requests ih =>
    rw [List.length_cons] at room
    cases request with
    | find query now =>
      obtain ⟨below, tail⟩ := List.pairwise_cons.mp ordered
      have passed : clock ≤ now := below now List.mem_cons_self
      obtain ⟨origin, between, answered, kept⟩ := h.find computes (by omega) query passed
      obtain ⟨replies, after, remaining, same⟩ := ih kept (by omega) tail
      have served : serve search (.find query now) router =
          .ok (.answered ⟨f query, origin⟩) between := bind_of_ok answered
      refine ⟨_, after, serveAll_cons_of_ok served remaining, ?_⟩
      rw [List.map_cons, List.map_cons, same]
      rfl
    | expire now =>
      obtain ⟨dropped, between, expired, kept⟩ := h.expire (by omega) now
      obtain ⟨replies, after, remaining, same⟩ := ih kept (by omega) ordered
      have served : serve search (.expire now) router = .ok (.expired dropped) between :=
        bind_of_ok expired
      refine ⟨_, after, serveAll_cons_of_ok served remaining, ?_⟩
      rw [List.map_cons, List.map_cons, same]
      rfl

/-- A new router, with any settings and any search whose results depend on the query
alone, serves every run without a fault and answers as if every query were searched. -/
theorem serveAll_eq_searched (settings : Settings) (search : Search σ) (f : Query → Found)
    (computes : search.Computes f) (memory : σ) (requests : List Request)
    (short : requests.length < UInt64.size)
    (ordered : (requests.filterMap Request.findTick?).Pairwise (· ≤ ·)) :
    ∃ replies after,
      serveAll search requests ({ memory } : Router settings σ) = .ok replies after ∧
        replies.map Reply.found? = requests.map (Request.searched f) := by
  have start : ({ memory } : Router settings σ).Faithful f 0 0 := by
    intro shard member
    cases member
  apply start.serveAll computes (by omega)
  rw [List.pairwise_cons]
  exact ⟨fun tick _ => UInt64.le_iff_toNat_le.mpr (Nat.zero_le _), ordered⟩

theorem serveAll_eq_searched_signs :
    let f : Query → Found := fun query => ⟨{ radius := query.radius }, .reached⟩
    let positive : Query := { eastward 5 with radius := ⟨0⟩ }
    let negative : Query := { eastward 5 with radius := ⟨0x80000000⟩ }
    let undefined : Query := { eastward 5 with radius := ⟨0x7FC00000⟩ }
    let requests : List Request := [.find positive 1, .expire 400, .find positive 2,
      .find negative 2, .find undefined 4, .expire 0, .find undefined 9]
    let replies : List Reply := [.answered ⟨f positive, .search (some .stored)⟩, .expired 1,
      .answered ⟨f positive, .search (some .stored)⟩,
      .answered ⟨f negative, .search (some .stored)⟩,
      .answered ⟨f undefined, .search (some .stored)⟩, .expired 0,
      .answered ⟨f undefined, .cache⟩]
    (∀ query memory, ∃ after, Search.ofFunction f query memory = .ok (f query) after) ∧
      (requests.filterMap Request.findTick?).Pairwise (· ≤ ·) ∧
      ∃ after : Router {} Unit,
        serveAll (Search.ofFunction f) requests ({ memory := () } : Router {} Unit) =
            .ok replies after ∧
          replies.map Reply.found? = requests.map (Request.searched f) := by
  intro f positive negative undefined requests replies
  have computes : (Search.ofFunction f).Computes f := fun query memory => ⟨memory, rfl⟩
  have ordered : (requests.filterMap Request.findTick?).Pairwise (· ≤ ·) := by decide
  have run : answer? (serveAll (Search.ofFunction f) requests
      ({ memory := () } : Router {} Unit)) = some replies := by
    decide +kernel
  obtain ⟨last, ended⟩ := answer?_eq_some_iff.mp run
  obtain ⟨given, after, served, same⟩ :=
    serveAll_eq_searched {} (Search.ofFunction f) f computes () requests (by decide) ordered
  rw [ended] at served
  cases served
  exact ⟨computes, ordered, last, ended, same⟩

end Router

end RouteCache
