import RouteCache.Cache.Basic

/-!
One cache for each category of movers, in the order in which the categories were
first seen. As long as nothing faults, what is computed over all of them does not depend
on that order. It decides which caches an expiry comes to before one that faults.
-/

namespace RouteCache

/-- The caches of the categories seen so far. -/
abbrev Shards (policy : Policy) := List (UInt32 × Cache policy)

namespace Shards

variable {policy : Policy}

/-- The cache of a category, if it has been seen. -/
def get? (mover : UInt32) : Shards policy → Option (Cache policy)
  | [] => none
  | (other, cache) :: rest => if other = mover then some cache else get? mover rest

/-- Replaces the cache of a category, or adds it as the last one. -/
def put (mover : UInt32) (cache : Cache policy) : Shards policy → Shards policy
  | [] => [(mover, cache)]
  | (other, present) :: rest =>
    if other = mover then (other, cache) :: rest else (other, present) :: put mover cache rest

/-- Expires memos in every cache, up to the first that faults. The answer is the number of
memos dropped. The caches keep what was done to them, also when a later one faults. -/
def expire (now : Tick) : Shards policy → EStateM.Result Fault (Shards policy) Nat
  | [] => .ok 0 []
  | (mover, cache) :: rest =>
    match Cache.expire now cache with
    | .error fault after => .error fault ((mover, after) :: rest)
    | .ok number after =>
      match expire now rest with
      | .error fault others => .error fault ((mover, after) :: others)
      | .ok more others => .ok (number + more) ((mover, after) :: others)

/-- The sum of what all caches report. -/
def total (shards : Shards policy) : Except Fault Tally :=
  Tally.total (shards.map fun (_, cache) => cache.report)

theorem get?_put_self (mover : UInt32) (cache : Cache policy) (shards : Shards policy) :
    (shards.put mover cache).get? mover = some cache := by
  induction shards with
  | nil => simp [put, get?]
  | cons head rest ih =>
    obtain ⟨first, present⟩ := head
    by_cases same : first = mover
    · simp [put, get?, same]
    · simpa [put, get?, same] using ih

theorem get?_put_other {mover other : UInt32} (cache : Cache policy) (shards : Shards policy)
    (h : other ≠ mover) : (shards.put mover cache).get? other = shards.get? other := by
  induction shards with
  | nil => simp [put, get?, h.symm]
  | cons head rest ih =>
    obtain ⟨first, present⟩ := head
    by_cases same : first = mover
    · simp [put, get?, same, h.symm]
    · simp [put, get?, same, ih]

end Shards

end RouteCache
