import RouteCache.Proofs.Cache.Entries

/-!
The first memo in a slot wins. An insertion into a slot that is taken is refused, as a
duplicate or for another query, and the memo that is there stays with its deadline.

There is one exception. Room is made before the slot is looked at, also for a memo
that will be refused, so the oldest memo of a full cache is gone by then and the new
memo finds its slot vacant. `Cache.Leaving` names that case. In a cache for one memo it
is the only case.
-/

namespace RouteCache

namespace Cache

/-- Whether the memo of a slot is the oldest one of a full cache. -/
def Leaving {policy : Policy} (cache : Cache policy) (slot : Slot) : Prop :=
  cache.deadlines.size = policy.capacity.toNat ∧
    ∃ oldest, cache.deadlines.front? = some oldest ∧ oldest.slot = slot

end Cache

namespace Register

variable {policy : Policy} {register : Register} {cache : Cache policy}

theorem Describes.leaving_iff (h : register.Describes cache) (slot : Slot) :
    cache.Leaving slot ↔
      register.size = policy.capacity.toNat ∧
        ∃ oldest, register.entries.head? = some oldest ∧ oldest.slot = slot := by
  unfold Cache.Leaving Deadlines.front?
  rw [h.deadlines_size, h.waiting, List.head?_map]
  cases register.entries.head? <;> simp [Entry.deadline]

/-- In a sound register the deadline of an entry is the only one of its slot. -/
theorem Describes.deadline_mem_iff (h : register.Describes cache)
    (distinct : (register.entries.map (·.slot)).Nodup) {slot : Slot} {entry : Entry}
    (there : register.at? slot = some entry) (last : Tick) :
    ⟨slot, last⟩ ∈ cache.deadlines.records ↔ last = entry.last := by
  obtain ⟨member, placed⟩ := of_at?_eq_some there
  rw [h.waiting, List.mem_map]
  constructor
  · rintro ⟨other, waits, same⟩
    have placement : other.slot = slot := congrArg Deadline.slot same
    have found := at?_of_mem distinct waits
    rw [placement, there] at found
    cases found
    exact (congrArg Deadline.last same).symm
  · rintro rfl
    exact ⟨entry, member, by rw [← placed]; rfl⟩

theorem Describes.insert_of_occupied (h : register.Describes cache)
    (sound : register.Sound policy) (memo : Memo) (now : Tick) {entry : Entry}
    (there : register.at? (policy.place memo.query) = some entry)
    (stays : ¬cache.Leaving (policy.place memo.query)) :
    (∃ after, Cache.insert memo now cache =
        .ok (if entry.memo.query = memo.query then .duplicate else .collided) after ∧
      after.shelf.get? (policy.place memo.query) = some entry.memo ∧
      (∀ last, ⟨policy.place memo.query, last⟩ ∈ after.deadlines.records ↔
        ⟨policy.place memo.query, last⟩ ∈ cache.deadlines.records) ∧
      after.Answers entry.memo.query entry.memo) ∨
    ((∃ after, Cache.insert memo now cache = .error .additionOverflow after) ∧
      (cache.deadlines.size = policy.capacity.toNat ∧
          cache.tally.evictions.toNat + 1 = UInt64.size ∨
        entry.memo.query ≠ memo.query ∧ cache.tally.collisions.toNat + 1 = UInt64.size)) := by
  have spared : (register.makeRoom policy).at? (policy.place memo.query) = some entry := by
    refine at?_makeRoom there ?_ sound.distinct
    intro full oldest first same
    exact stays ((h.leaving_iff _).mpr ⟨full, oldest, first, same⟩)
  have inOrder : register.InOrder policy (.insert memo now) := by
    intro vacant
    rw [spared] at vacant
    cases vacant
  obtain ⟨outcome, entries⟩ := Register.insert_of_occupied now spared
  have kept : (register.insert policy memo now).2.at? (policy.place memo.query) = some entry := by
    unfold at? at spared ⊢
    rw [entries]
    exact spared
  have sound' := sound.insert inOrder
  have followed := h.insert sound memo now
  rw [outcome] at followed
  generalize Cache.insert memo now cache = result at followed
  cases followed with
  | done describes _ =>
    refine .inl ⟨_, rfl, ?_, ?_, describes.answers sound' (of_at?_eq_some kept).1⟩
    · rw [describes.memos, kept]
      rfl
    · intro last
      rw [describes.deadline_mem_iff sound'.distinct kept, h.deadline_mem_iff sound.distinct there]
  | full occasion overflow =>
    refine .inr ⟨⟨_, rfl⟩, ?_⟩
    rcases h.full_of_insert overflow with ⟨full, evictions⟩ | ⟨refused, collisions⟩
    · rw [h.deadlines_size]
      exact .inl ⟨full_of_surplus full, evictions⟩
    · refine .inr ⟨?_, collisions⟩
      intro same
      rw [outcome, if_pos same] at refused
      cases refused
  | late broken => exact absurd inOrder broken

theorem Describes.insert_of_leaving (h : register.Describes cache)
    (sound : register.Sound policy) (memo : Memo) (now : Tick)
    (leaving : cache.Leaving (policy.place memo.query)) :
    (∃ after, Cache.insert memo now cache = .ok .stored after ∧
      after.shelf.get? (policy.place memo.query) = some memo) ∨
    (∃ after, Cache.insert memo now cache = .error .outOfOrder after) ∨
    ((∃ after, Cache.insert memo now cache = .error .additionOverflow after) ∧
      cache.tally.evictions.toNat + 1 = UInt64.size) := by
  obtain ⟨full, oldest, first, same⟩ := (h.leaving_iff _).mp leaving
  have vacant : (register.makeRoom policy).at? (policy.place memo.query) = none := by
    rw [← same]
    exact at?_makeRoom_of_oldest full first sound.distinct
  have stored := insert_of_vacant now vacant
  have followed := h.insert sound memo now
  generalize Cache.insert memo now cache = result at followed
  cases followed with
  | done describes _ =>
    rw [stored] at describes ⊢
    refine .inl ⟨_, rfl, ?_⟩
    rw [describes.memos, at?_append, vacant]
    simp
  | full occasion overflow =>
    refine .inr (.inr ⟨⟨_, rfl⟩, ?_⟩)
    rcases h.full_of_insert overflow with ⟨_, evictions⟩ | ⟨refused, _⟩
    · exact evictions
    · rw [stored] at refused
      cases refused
  | late broken => exact .inr (.inl ⟨_, rfl⟩)

end Register

namespace Cache

variable {policy : Policy}

/-- In every cache that was reached without a fault: if a slot is taken, and not by the
oldest memo of a full cache, then a memo offered to it is refused, as a duplicate if it
is of the same query and else as a collision. The memo that is there stays, keeps its
deadline, and answers its query. The oldest memo of a full cache gives way instead, and
the memo that is offered is never refused. No counter can be raised beyond a word. -/
theorem insert_occupied (requests : List Request) (replies : List Reply) (cache : Cache policy)
    (run : serveAll requests empty = .ok replies cache) (memo present : Memo) (now : Tick)
    (occupied : cache.shelf.get? (policy.place memo.query) = some present) :
    (¬cache.Leaving (policy.place memo.query) →
      (∃ after, insert memo now cache =
          .ok (if present.query = memo.query then .duplicate else .collided) after ∧
        after.shelf.get? (policy.place memo.query) = some present ∧
        (∀ last, ⟨policy.place memo.query, last⟩ ∈ after.deadlines.records ↔
          ⟨policy.place memo.query, last⟩ ∈ cache.deadlines.records) ∧
        after.Answers present.query present) ∨
      ((∃ after, insert memo now cache = .error .additionOverflow after) ∧
        (cache.deadlines.size = policy.capacity.toNat ∧
            cache.tally.evictions.toNat + 1 = UInt64.size ∨
          present.query ≠ memo.query ∧ cache.tally.collisions.toNat + 1 = UInt64.size))) ∧
    (cache.Leaving (policy.place memo.query) →
      (∃ after, insert memo now cache = .ok .stored after ∧
        after.shelf.get? (policy.place memo.query) = some memo) ∨
      (∃ after, insert memo now cache = .error .outOfOrder after) ∨
      ((∃ after, insert memo now cache = .error .additionOverflow after) ∧
        cache.tally.evictions.toNat + 1 = UInt64.size)) := by
  obtain ⟨_, sound, describes⟩ := Register.of_serveAll run
  rw [describes.memos] at occupied
  obtain ⟨entry, there, rfl⟩ := Option.map_eq_some_iff.mp occupied
  exact ⟨describes.insert_of_occupied sound memo now there,
    describes.insert_of_leaving sound memo now⟩

/-- In a full cache the memo that is not the oldest one refuses a duplicate, although
another memo is evicted for it. -/
theorem insert_occupied_newest :
    let policy := Policy.bounded (Grid.slot ⟨8, 8⟩) 2 10
    let newest : Memo := ⟨eastward 6, ⟨{}, .reached⟩⟩
    ∃ cache : Cache policy,
      serveAll [.insert ⟨eastward 5, ⟨{}, .reached⟩⟩ 0, .insert newest 1] empty =
          .ok [.inserted .stored, .inserted .stored] cache ∧
        cache.deadlines.size = policy.capacity.toNat ∧
        cache.shelf.get? (policy.place newest.query) = some newest ∧
        ∃ after, insert ⟨eastward 6, ⟨{}, .approached⟩⟩ 2 cache = .ok .duplicate after ∧
          after.shelf.get? (policy.place newest.query) = some newest := by
  intro policy newest
  have closed : ends (fun replies (cache : Cache policy) =>
      replies = [.inserted .stored, .inserted .stored] ∧
        cache.deadlines.size = policy.capacity.toNat ∧
        cache.shelf.get? (policy.place newest.query) = some newest ∧
        cache.deadlines.front?.all (·.slot ≠ policy.place newest.query) ∧
        cache.tally = { held := 2 })
      (serveAll [.insert ⟨eastward 5, ⟨{}, .reached⟩⟩ 0, .insert newest 1] empty) := by
    decide +kernel
  obtain ⟨_, cache, run, reached⟩ := ends_iff.mp closed
  obtain ⟨rfl, full, occupied, younger, counts⟩ := of_decide_eq_true reached
  refine ⟨cache, run, full, occupied, ?_⟩
  have stays : ¬cache.Leaving (policy.place newest.query) := by
    rintro ⟨_, oldest, first, same⟩
    simp [first, same] at younger
  have refused := (insert_occupied _ _ _ run ⟨eastward 6, ⟨{}, .approached⟩⟩ newest 2 occupied).1
    stays
  rw [counts] at refused
  rcases refused with ⟨after, inserted, kept, _⟩ | ⟨_, ⟨_, evictions⟩ | ⟨_, collisions⟩⟩
  · exact ⟨after, inserted, kept⟩
  · exact absurd evictions (by decide)
  · exact absurd collisions (by decide)

/-- The oldest memo of a full cache is replaced by a memo of the same query. -/
theorem insert_replaces_oldest :
    let policy := Policy.bounded (Grid.slot ⟨8, 8⟩) 1 10
    let first : Memo := ⟨eastward 5, ⟨{}, .reached⟩⟩
    let second : Memo := ⟨eastward 5, ⟨{}, .approached⟩⟩
    ∃ cache after : Cache policy,
      serveAll [.insert first 0] empty = .ok [.inserted .stored] cache ∧
        cache.shelf.get? (policy.place second.query) = some first ∧ first.query = second.query ∧
        insert second 1 cache = .ok .stored after ∧
        after.shelf.get? (policy.place second.query) = some second ∧ second ≠ first := by
  intro policy first second
  have closed : ends (fun replies (cache : Cache policy) =>
      replies = [.inserted .stored] ∧
        cache.shelf.get? (policy.place second.query) = some first ∧
        ends (fun outcome after => outcome = .stored ∧
          after.shelf.get? (policy.place second.query) = some second) (insert second 1 cache))
      (serveAll [.insert first 0] empty) := by
    decide +kernel
  obtain ⟨_, cache, run, reached⟩ := ends_iff.mp closed
  obtain ⟨rfl, occupied, replaced⟩ := of_decide_eq_true reached
  obtain ⟨_, after, inserted, found⟩ := ends_iff.mp replaced
  obtain ⟨rfl, other⟩ := of_decide_eq_true found
  exact ⟨cache, after, run, occupied, rfl, inserted, other, by decide⟩

end Cache

end RouteCache
