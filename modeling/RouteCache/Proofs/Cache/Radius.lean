import RouteCache.Proofs.Cache.Follows
import RouteCache.Proofs.Grid.Radius

/-!
A lookup does not compare radii, and a memo that is offered is compared in full. On a
grid the two comparisons come to the same: memos lie in the slots of their own
queries, and the grid keeps the radii of one trip apart, so the memo that a lookup
finds was stored for the very query that is looked up.
-/

namespace RouteCache

namespace Cache

variable {policy : Policy} {register : Register} {cache : Cache policy}

/-- Where radii are kept apart, a memo that answers a query is one of that query. -/
theorem query_of_find? (separates : policy.place.SeparatesRadii) (sound : register.Sound policy)
    (h : register.Describes cache) {query : Query} {memo : Memo}
    (found : cache.find? query = some memo) : memo.query = query := by
  obtain ⟨present, settles⟩ := find?_eq_some_iff.mp found
  obtain ⟨entry, member, placed, kept⟩ := h.entry_of_get? present
  have shared : policy.place memo.query = policy.place query := by
    rw [← placed, ← kept]
    exact sound.placed entry member
  exact separates memo.query query settles shared

theorem find?_isSome_iff (separates : policy.place.SeparatesRadii) (sound : register.Sound policy)
    (h : register.Describes cache) (query : Query) :
    (cache.find? query).isSome = true ↔
      ∃ present, cache.shelf.get? (policy.place query) = some present ∧ present.query = query := by
  constructor
  · intro found
    obtain ⟨memo, found⟩ := Option.isSome_iff_exists.mp found
    exact ⟨memo, (find?_eq_some_iff.mp found).1, query_of_find? separates sound h found⟩
  · rintro ⟨present, there, same⟩
    apply Option.isSome_iff_exists.mpr
    refine ⟨present, find?_eq_some_iff.mpr ⟨there, ?_⟩⟩
    unfold Memo.settles
    rw [same]
    exact Query.sameTrip_self query

/-- A cache with room is not changed before the memo is offered. -/
theorem insert_of_spare (spare : cache.deadlines.size < policy.capacity.toNat) (memo : Memo)
    (now : Tick) : insert memo now cache = offer memo now cache := by
  have surplus : cache.surplus = 0 := by
    unfold Cache.surplus
    omega
  have unchanged : makeRoom cache = .ok () cache := by
    rw [makeRoom_eq, surplus]
    rfl
  rw [insert_eq, bind_of_ok unchanged]

theorem insert_duplicate_iff (spare : cache.deadlines.size < policy.capacity.toNat) (memo : Memo)
    (now : Tick) :
    (∃ later, insert memo now cache = .ok .duplicate later) ↔
      ∃ present, cache.shelf.get? (policy.place memo.query) = some present ∧
        present.query = memo.query := by
  rw [insert_of_spare spare]
  cases there : cache.shelf.get? (policy.place memo.query) with
  | none =>
    rw [offer_of_vacant now there]
    constructor
    · rintro ⟨later, stored⟩
      obtain ⟨_, _, _, finished⟩ := bind_eq_ok_iff.mp stored
      cases finished
    · rintro ⟨present, taken, _⟩
      cases taken
  | some present =>
    rw [offer_of_occupied now there]
    constructor
    · rintro ⟨later, offered⟩
      split at offered
      · rename_i same
        exact ⟨present, rfl, same⟩
      · obtain ⟨_, _, _, finished⟩ := bind_eq_ok_iff.mp offered
        cases finished
    · rintro ⟨other, taken, same⟩
      cases taken
      exact ⟨cache, if_pos same⟩

theorem lookup_answer {query : Query} {answer : Option Memo} {after : Cache policy}
    (looked : lookup query cache = .ok answer after) : answer = cache.find? query := by
  rw [lookup_eq] at looked
  obtain ⟨_, _, _, finished⟩ := bind_eq_ok_iff.mp looked
  cases finished
  rfl

/-- A lookup only faults when the counter it would raise is full. -/
theorem lookup_fault {query : Query} {fault : Fault} {after : Cache policy}
    (looked : lookup query cache = .error fault after) :
    fault = .additionOverflow ∧
      (cache.tally.hits.toNat + 1 = UInt64.size ∨ cache.tally.misses.toNat + 1 = UInt64.size) := by
  rw [lookup_eq] at looked
  rcases bind_eq_error_iff.mp looked with refused | ⟨_, _, _, finished⟩
  · unfold count at refused
    split at refused
    · cases refused
    · rename_i cause counted
      cases refused
      obtain ⟨overflow, top⟩ := Tally.count_eq_error counted
      refine ⟨overflow, ?_⟩
      have hits := cache.tally.hits.toNat_lt
      have misses := cache.tally.misses.toNat_lt
      split at top
      · left
        exact Nat.le_antisymm hits top
      · right
        exact Nat.le_antisymm misses top
  · cases finished

/-- In every cache on a grid that was reached without a fault, a lookup only returns
memos of the very query, the radius included. If there is room, it returns one exactly
when the insertion of a memo for that query would be a duplicate. A lookup returns
unless its counter is full. -/
theorem lookup_iff_duplicate (grid : Grid) (requested : UInt64) (lifetime : Tick)
    (requests : List Request) (replies : List Reply)
    (cache : Cache (Policy.bounded grid.slot requested lifetime))
    (run : serveAll requests empty = .ok replies cache) (query : Query) :
    (∀ memo after, lookup query cache = .ok (some memo) after → memo.query = query) ∧
    (cache.deadlines.size < (Policy.bounded grid.slot requested lifetime).capacity.toNat →
      ∀ found now answer after, lookup query cache = .ok answer after →
        (answer.isSome = true ↔
          ∃ later, insert ⟨query, found⟩ now cache = .ok .duplicate later)) ∧
    ∀ fault after, lookup query cache = .error fault after →
      fault = .additionOverflow ∧
        (cache.tally.hits.toNat + 1 = UInt64.size ∨
          cache.tally.misses.toNat + 1 = UInt64.size) := by
  obtain ⟨_, sound, describes⟩ := Register.of_serveAll run
  have separates : (Policy.bounded grid.slot requested lifetime).place.SeparatesRadii := by
    rw [Policy.place_bounded]
    exact grid.slot_separatesRadii
  refine ⟨?_, ?_, fun fault after looked => lookup_fault looked⟩
  · intro memo after looked
    exact query_of_find? separates sound describes (lookup_answer looked).symm
  · intro spare found now answer after looked
    rw [lookup_answer looked, insert_duplicate_iff spare]
    exact find?_isSome_iff separates sound describes query

theorem lookup_iff_duplicate_eastward :
    let policy := Policy.bounded (Grid.slot ⟨8, 8⟩) 2 10
    ∃ cache : Cache policy,
      serveAll [.insert ⟨eastward 5, ⟨{}, .reached⟩⟩ 7] empty = .ok [.inserted .stored] cache ∧
        cache.deadlines.size < policy.capacity.toNat ∧
        ∃ later, insert ⟨eastward 5, ⟨{}, .approached⟩⟩ 9 cache = .ok .duplicate later := by
  intro policy
  refine ⟨_, rfl, by decide, ?_⟩
  have agree := (lookup_iff_duplicate ⟨8, 8⟩ 2 10 [.insert ⟨eastward 5, ⟨{}, .reached⟩⟩ 7] _ _ rfl
    (eastward 5)).2.1 (by decide) ⟨{}, .approached⟩ 9 _ _ rfl
  exact agree.mp rfl

/-- Where a placement does not keep radii apart the two comparisons part as well: the
memo of another query for the same trip is found, and yet it makes no duplicate. -/
theorem disagree_of_shared_slot (spare : cache.deadlines.size < policy.capacity.toNat)
    {query : Query} {present : Memo}
    (there : cache.shelf.get? (policy.place query) = some present)
    (trip : present.settles query = true) (differs : present.query ≠ query) (found : Found)
    (now : Tick) :
    cache.find? query = some present ∧
      ¬∃ later, insert ⟨query, found⟩ now cache = .ok .duplicate later := by
  refine ⟨find?_eq_some_iff.mpr ⟨there, trip⟩, ?_⟩
  rw [insert_duplicate_iff spare]
  rintro ⟨other, taken, same⟩
  rw [there] at taken
  cases taken
  exact differs same

example :
    let wider : Query := { eastward 5 with radius := Single.zero }
    answer? (serveAll [.insert ⟨eastward 5, ⟨{}, .reached⟩⟩ 0, .lookup wider,
        .insert ⟨wider, ⟨{}, .reached⟩⟩ 0]
        (empty : Cache (Policy.bounded (.constant 42) 100 210))) =
      some [.inserted .stored, .found (some ⟨eastward 5, ⟨{}, .reached⟩⟩),
        .inserted .collided] := by
  decide +kernel

end Cache

end RouteCache
