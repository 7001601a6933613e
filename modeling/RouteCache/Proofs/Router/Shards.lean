import Mathlib.Algebra.BigOperators.Group.List.Basic
import Mathlib.Algebra.Ring.Nat
import Mathlib.Data.List.Nodup
import RouteCache.Proofs.Router.Find

/-!
What holds over all caches of a router. Each category is listed once, so a cache is found
under a category exactly when it is listed there, and two lists that agree on every
category are rearrangements of each other. An expiry does to each cache what it would do
to that cache alone, up to the first that faults, and a sum over all caches changes by as
much as the one cache that is replaced.
-/

namespace RouteCache

theorem Cache.expire_number {policy : Policy} {now : Tick} {number : Nat}
    {cache after : Cache policy} (expired : Cache.expire now cache = .ok number after) :
    number = cache.deadlines.overdue now := by
  rw [Cache.expire_eq] at expired
  obtain ⟨_, _, _, finished⟩ := bind_eq_ok_iff.mp expired
  cases finished
  rfl

theorem Cache.expire_eq_ok {policy : Policy} {now : Tick} {cache : Cache policy}
    (fine : fault? (Cache.expire now cache) = none) :
    Cache.expire now cache =
      .ok (cache.deadlines.overdue now) (final (Cache.expire now cache)) := by
  cases ended : Cache.expire now cache with
  | ok number after =>
    rw [Cache.expire_number ended]
    rfl
  | error fault after =>
    rw [ended] at fine
    cases fine

namespace Shards

variable {policy : Policy} {shards first second : Shards policy} {mover : UInt32}
  {cache : Cache policy}

/-- Each category is listed once. -/
def Distinct (shards : Shards policy) : Prop := (shards.map (·.1)).Nodup

theorem get?_eq_none_iff : shards.get? mover = none ↔ mover ∉ shards.map (·.1) := by
  induction shards with
  | nil => simp [get?]
  | cons head rest ih =>
    obtain ⟨other, present⟩ := head
    by_cases same : other = mover
    · simp [get?, same]
    · have differs : mover ≠ other := fun equal => same equal.symm
      simp [get?, same, differs, ih]

/-- A new category goes to the end of the list. -/
theorem movers_put (mover : UInt32) (cache : Cache policy) (shards : Shards policy) :
    (shards.put mover cache).map (·.1) =
      if mover ∈ shards.map (·.1) then shards.map (·.1) else shards.map (·.1) ++ [mover] := by
  induction shards with
  | nil => simp [put]
  | cons head rest ih =>
    obtain ⟨other, present⟩ := head
    by_cases same : other = mover
    · simp [put, same]
    · have differs : mover ≠ other := fun equal => same equal.symm
      rw [put, if_neg same, List.map_cons, ih]
      simp only [List.map_cons, List.mem_cons, differs, false_or]
      split <;> simp

theorem Distinct.put (distinct : shards.Distinct) (mover : UInt32) (cache : Cache policy) :
    (shards.put mover cache).Distinct := by
  unfold Distinct at distinct ⊢
  rw [movers_put]
  split
  · exact distinct
  · rename_i fresh
    rw [List.nodup_append]
    refine ⟨distinct, by simp, ?_⟩
    intro other member last new
    rw [List.mem_singleton.mp new]
    rintro rfl
    exact fresh member

theorem get?_of_mem (distinct : shards.Distinct) (member : (mover, cache) ∈ shards) :
    shards.get? mover = some cache := by
  cases found : shards.get? mover with
  | none => exact absurd (List.mem_map_of_mem member) (get?_eq_none_iff.mp found)
  | some other =>
    have same := List.inj_on_of_nodup_map distinct (mem_of_get? found) member rfl
    cases same
    rfl

theorem perm_of_get? (one : first.Distinct) (two : second.Distinct)
    (same : ∀ mover, first.get? mover = second.get? mover) : first.Perm second := by
  apply (List.perm_ext_iff_of_nodup one.of_map two.of_map).mpr
  rintro ⟨mover, cache⟩
  constructor
  · intro member
    have found := get?_of_mem one member
    rw [same] at found
    exact mem_of_get? found
  · intro member
    have found := get?_of_mem two member
    rw [← same] at found
    exact mem_of_get? found

theorem get?_map (change : Cache policy → Cache policy) (shards : Shards policy)
    (mover : UInt32) :
    get? mover (shards.map fun shard => (shard.1, change shard.2)) =
      (shards.get? mover).map change := by
  induction shards with
  | nil => rfl
  | cons head rest ih =>
    obtain ⟨other, present⟩ := head
    by_cases same : other = mover <;> simp [get?, same, ih]

/-- A sum over all caches changes by as much as the cache that is replaced. A category that
is new replaces an empty cache. -/
theorem sum_put (weight : Cache policy → Nat) (blank : weight Cache.empty = 0) (mover : UInt32)
    (cache : Cache policy) (shards : Shards policy) :
    ((shards.put mover cache).map fun shard => weight shard.2).sum +
        weight ((shards.get? mover).getD Cache.empty) =
      (shards.map fun shard => weight shard.2).sum + weight cache := by
  induction shards with
  | nil => simp [put, get?, blank]
  | cons head rest ih =>
    obtain ⟨other, present⟩ := head
    by_cases same : other = mover
    · simp only [put, get?, same, if_true, List.map_cons, List.sum_cons, Option.getD_some]
      omega
    · simp only [put, get?, same, if_false, List.map_cons, List.sum_cons]
      omega

/-! ### Expiring -/

/-- An expiry of all caches succeeds when each succeeds. Each cache is left as an expiry of
it alone would leave it, and the numbers add up. -/
theorem expire_eq_ok_iff {now : Tick} {number : Nat} {after : Shards policy} :
    shards.expire now = .ok number after ↔
      (∀ shard ∈ shards, fault? (Cache.expire now shard.2) = none) ∧
        number = (shards.map fun shard => shard.2.deadlines.overdue now).sum ∧
        after = shards.map fun shard => (shard.1, final (Cache.expire now shard.2)) := by
  induction shards generalizing number after with
  | nil =>
    constructor
    · intro h
      cases h
      simp
    · rintro ⟨_, rfl, rfl⟩
      rfl
  | cons head rest ih =>
    obtain ⟨mover, cache⟩ := head
    unfold expire
    cases expired : Cache.expire now cache with
    | error fault left => simp [expired]
    | ok here left =>
      have count : here = cache.deadlines.overdue now := Cache.expire_number expired
      simp only [List.forall_mem_cons, List.map_cons, List.sum_cons, expired, fault?_ok,
        final_ok, true_and]
      cases remaining : expire now rest with
      | error fault others =>
        constructor
        · intro h
          cases h
        · rintro ⟨fine, _, _⟩
          have all : expire now rest = .ok _ _ := ih.mpr ⟨fine, rfl, rfl⟩
          rw [remaining] at all
          cases all
      | ok more others =>
        obtain ⟨fine, total, ended⟩ := ih.mp remaining
        constructor
        · intro h
          cases h
          rw [count, total, ended]
          exact ⟨fine, rfl, rfl⟩
        · rintro ⟨_, rfl, rfl⟩
          rw [← total, ← ended, ← count]

/-- An expiry that faults stops at the first cache whose expiry does. The caches before it
are left expired, it is left as its fault left it, and those after it are not touched. -/
theorem expire_eq_error_iff {now : Tick} {fault : Fault} {after : Shards policy} :
    shards.expire now = .error fault after ↔
      ∃ before mover cache left rest, shards = before ++ (mover, cache) :: rest ∧
        (∀ shard ∈ before, fault? (Cache.expire now shard.2) = none) ∧
        Cache.expire now cache = .error fault left ∧
        after = (before.map fun shard => (shard.1, final (Cache.expire now shard.2))) ++
          (mover, left) :: rest := by
  induction shards generalizing after with
  | nil =>
    constructor
    · intro h
      cases h
    · rintro ⟨before, _, _, _, _, same, _⟩
      simp at same
  | cons head rest ih =>
    obtain ⟨mover, cache⟩ := head
    unfold expire
    cases expired : Cache.expire now cache with
    | error cause left =>
      constructor
      · rintro ⟨⟩
        exact ⟨[], mover, cache, left, rest, rfl, by simp, expired, rfl⟩
      · rintro ⟨before, _, _, _, _, same, fine, failed, rfl⟩
        cases before with
        | nil =>
          cases same
          cases expired.symm.trans failed
          rfl
        | cons first before =>
          cases same
          have broken := fine _ List.mem_cons_self
          rw [expired] at broken
          cases broken
    | ok number left =>
      have fine : fault? (Cache.expire now cache) = none := by
        rw [expired, fault?_ok]
      constructor
      · intro h
        cases remaining : expire now rest with
        | ok more others =>
          rw [remaining] at h
          cases h
        | error cause others =>
          rw [remaining] at h
          cases h
          obtain ⟨before, last, stuck, stopped, behind, rfl, well, failed, rfl⟩ := ih.mp remaining
          refine ⟨(mover, cache) :: before, last, stuck, stopped, behind, rfl,
            List.forall_mem_cons.mpr ⟨fine, well⟩, failed, ?_⟩
          rw [List.map_cons, expired, final_ok, List.cons_append]
      · rintro ⟨before, last, stuck, stopped, behind, same, well, failed, rfl⟩
        cases before with
        | nil =>
          cases same
          cases expired.symm.trans failed
        | cons first before =>
          rw [List.cons_append] at same
          obtain ⟨rfl, rfl⟩ := List.cons.inj same
          have remaining : expire now (before ++ (last, stuck) :: behind) = .error fault _ :=
            ih.mpr ⟨before, last, stuck, stopped, behind, rfl,
              (List.forall_mem_cons.mp well).2, failed, rfl⟩
          rw [remaining, List.map_cons, expired, final_ok, List.cons_append]

theorem get?_expire {now : Tick} {number : Nat} {after : Shards policy}
    (expired : shards.expire now = .ok number after) (mover : UInt32) :
    after.get? mover =
      (shards.get? mover).map fun cache => final (Cache.expire now cache) := by
  obtain ⟨_, _, rfl⟩ := expire_eq_ok_iff.mp expired
  exact get?_map (fun cache => final (Cache.expire now cache)) shards mover

theorem movers_expire {now : Tick} {number : Nat} {after : Shards policy}
    (expired : shards.expire now = .ok number after) :
    after.map (·.1) = shards.map (·.1) := by
  obtain ⟨_, _, rfl⟩ := expire_eq_ok_iff.mp expired
  rw [List.map_map]
  rfl

/-- Each cache after an expiry was expired without a fault from the one before. -/
theorem of_mem_expire {now : Tick} {number : Nat} {after : Shards policy}
    (expired : shards.expire now = .ok number after) (member : (mover, cache) ∈ after) :
    ∃ before, (mover, before) ∈ shards ∧
      Cache.expire now before = .ok (before.deadlines.overdue now) cache := by
  obtain ⟨fine, _, rfl⟩ := expire_eq_ok_iff.mp expired
  obtain ⟨⟨other, before⟩, there, same⟩ := List.mem_map.mp member
  cases same
  exact ⟨before, there, Cache.expire_eq_ok (fine _ there)⟩

end Shards

namespace Router

variable {settings : Settings} {σ : Type} {router after : Router settings σ}
  {search : Search σ}

/-- The category that a request is for. -/
def Request.mover? : Request → Option UInt32
  | .find query _ => some query.mover
  | .expire _ => none

theorem Finds.shards {query : Query} {now : Tick} {answer : Answer}
    (h : Finds search query now router answer after) :
    ∃ cache, after.shards = router.shards.put query.mover cache := by
  cases h with
  | remembered looked => exact ⟨_, rfl⟩
  | unusable looked searched unusable => exact ⟨_, rfl⟩
  | offered looked searched usable inserted => exact ⟨_, rfl⟩

theorem distinct_of_serve {request : Request} {reply : Reply} (distinct : router.shards.Distinct)
    (served : serve search request router = .ok reply after) : after.shards.Distinct := by
  cases request with
  | find query now =>
    obtain ⟨answer, rfl, found⟩ := of_serve_find served
    obtain ⟨cache, shards⟩ := found.shards
    rw [shards]
    exact distinct.put query.mover cache
  | expire now =>
    obtain ⟨number, rfl, expired, _⟩ := of_serve_expire served
    unfold Shards.Distinct
    rw [Shards.movers_expire expired]
    exact distinct

/-- A category has a cache once it has been asked for, and not before. -/
theorem mem_movers_of_serve {request : Request} {reply : Reply}
    (served : serve search request router = .ok reply after) (mover : UInt32) :
    mover ∈ after.shards.map (·.1) ↔
      mover ∈ router.shards.map (·.1) ∨ request.mover? = some mover := by
  cases request with
  | find query now =>
    obtain ⟨answer, rfl, found⟩ := of_serve_find served
    obtain ⟨cache, shards⟩ := found.shards
    rw [shards, Shards.movers_put, Request.mover?, Option.some_inj, eq_comm]
    split
    · rename_i present
      refine ⟨.inl, ?_⟩
      rintro (seen | rfl)
      · exact seen
      · exact present
    · simp
  | expire now =>
    obtain ⟨number, rfl, expired, _⟩ := of_serve_expire served
    rw [Shards.movers_expire expired]
    simp [Request.mover?]

theorem distinct_of_serveAll {requests : List Request} {replies : List Reply}
    (distinct : router.shards.Distinct)
    (run : serveAll search requests router = .ok replies after) : after.shards.Distinct := by
  induction requests generalizing router replies with
  | nil =>
    cases run
    exact distinct
  | cons request requests ih =>
    obtain ⟨reply, between, others, served, remaining, _⟩ := of_serveAll_cons run
    exact ih (distinct_of_serve distinct served) remaining

theorem mem_movers_of_serveAll {requests : List Request} {replies : List Reply}
    (run : serveAll search requests router = .ok replies after) (mover : UInt32) :
    mover ∈ after.shards.map (·.1) ↔
      mover ∈ router.shards.map (·.1) ∨ mover ∈ requests.filterMap Request.mover? := by
  induction requests generalizing router replies with
  | nil =>
    cases run
    simp
  | cons request requests ih =>
    obtain ⟨reply, between, others, served, remaining, _⟩ := of_serveAll_cons run
    rw [ih remaining, mem_movers_of_serve served, or_assoc]
    simp only [List.mem_filterMap, List.mem_cons, exists_eq_or_imp]

end Router

end RouteCache
