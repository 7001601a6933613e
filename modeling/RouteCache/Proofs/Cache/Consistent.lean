import RouteCache.Proofs.Cache.Follows

/-!
The shelf and the line of deadlines of a cache stay in step. `Cache.Consistent` says
how, and every run that has not faulted ends in a consistent cache. Requests may come
at any ticks, in any order, and collide as they like.

It follows that a run can only fault at a full counter or at a deadline out of order:
a slot seen empty is never found taken, and a memo that is to be dropped is there.
-/

namespace RouteCache

namespace Cache

variable {policy : Policy}

/-- The invariant of a cache, without mention of a register. -/
structure Consistent (cache : Cache policy) : Prop where
  distinct : (cache.deadlines.records.map (·.slot)).Nodup
  /-- The slots that hold a memo are those that a deadline waits for. -/
  occupied : ∀ slot, (∃ memo, cache.shelf.get? slot = some memo) ↔
    slot ∈ cache.deadlines.records.map (·.slot)
  /-- Every memo lies in the slot of its own query. -/
  placed : ∀ slot memo, cache.shelf.get? slot = some memo → policy.place memo.query = slot
  /-- No deadline is later than one behind it. -/
  ordered : cache.deadlines.records.Pairwise (·.last ≤ ·.last)
  /-- Memos, deadlines, the number kept and the number reported are as many. -/
  size : cache.size = cache.deadlines.size
  held : cache.tally.held.toNat = cache.deadlines.size
  reported : cache.report.held.toNat = cache.deadlines.size
  bounded : cache.deadlines.size ≤ policy.capacity.toNat

theorem Consistent.of_describes {register : Register} {cache : Cache policy}
    (sound : register.Sound policy) (h : register.Describes cache) : cache.Consistent := by
  have waiting := h.deadlines_size
  constructor
  · rw [h.slots]
    exact sound.distinct
  · intro slot
    rw [h.slots]
    constructor
    · rintro ⟨memo, found⟩
      obtain ⟨entry, member, placed, _⟩ := h.entry_of_get? found
      rw [← placed]
      exact List.mem_map_of_mem member
    · exact h.get?_of_mem
  · intro slot memo found
    obtain ⟨entry, member, placed, kept⟩ := h.entry_of_get? found
    rw [← kept, ← placed]
    exact sound.placed entry member
  · rw [h.waiting, List.pairwise_map]
    exact sound.ordered
  · rw [waiting]
    exact h.size
  · rw [waiting, h.held]
    exact sound.toNat_size
  · have size : cache.size = register.size := h.size
    unfold report Tally.withHeld
    rw [waiting, size]
    exact sound.toNat_size
  · rw [waiting]
    exact sound.bounded

/-- However a new cache is used, whatever its placement, the capacity asked for and
the lifetime: the capacity is at least one, the cache is consistent as long as no
request has faulted, and no request ever faults for an internal reason. -/
theorem serveAll_consistent (place : Placement) (requested : UInt64) (lifetime : Tick)
    (requests : List Request) :
    (Policy.bounded place requested lifetime).capacity.toNat = max requested.toNat 1 ∧
    (∀ replies (cache : Cache (Policy.bounded place requested lifetime)),
      serveAll requests empty = .ok replies cache → cache.Consistent) ∧
    ∀ fault (cache : Cache (Policy.bounded place requested lifetime)),
      serveAll requests empty = .error fault cache →
        fault ≠ .nothingWaiting ∧
          ∀ slot, fault ≠ .slotOccupied slot ∧ fault ≠ .memoMissing slot := by
  refine ⟨Policy.capacity_bounded place requested lifetime, ?_, ?_⟩
  · intro replies cache run
    obtain ⟨_, sound, describes⟩ := Register.of_serveAll run
    exact .of_describes sound describes
  · intro fault cache run
    have followed := Register.follows_from_empty (Policy.bounded place requested lifetime) requests
    rw [run] at followed
    cases followed with
    | full occasion overflow => simp
    | late broken => simp

/-- A cache for one memo under colliding placement, with ticks that go back, and a
cache with room in which such a tick is refused. -/
theorem serveAll_consistent_backwards :
    let requests : List Request := [.insert ⟨eastward 5, ⟨{}, .reached⟩⟩ 7,
      .insert ⟨eastward 6, ⟨{}, .reached⟩⟩ 3]
    let narrow := Policy.bounded (.constant 42) 0 10
    let wide := Policy.bounded (Grid.slot ⟨8, 8⟩) 3 10
    (∃ cache : Cache narrow, serveAll requests empty =
      .ok [.inserted .stored, .inserted .stored] cache ∧ cache.Consistent) ∧
    ∃ cache : Cache wide, serveAll requests empty = .error .outOfOrder cache ∧
      Fault.outOfOrder ≠ .nothingWaiting := by
  intro requests narrow wide
  constructor
  · exact ⟨_, rfl, (serveAll_consistent (.constant 42) 0 10 requests).2.1 _ _ rfl⟩
  · exact ⟨_, rfl, ((serveAll_consistent (Grid.slot ⟨8, 8⟩) 3 10 requests).2.2 _ _ rfl).1⟩

end Cache

end RouteCache
