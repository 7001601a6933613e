import RouteCache.Proofs.Cache.Counters

/-!
When a cache faults. Before as many requests as a word can count, a lookup and an
expiry never fault, and an insertion faults exactly when its deadline would stand
behind a later one: its slot is vacant once room has been made, and the newest memo
that still waits is kept for longer than the new one would be.

That cannot happen while the ticks of the insertions do not go back, however close
they come to the greatest word. Nor can it happen in a cache for one memo, because
nothing waits there once room has been made.
-/

namespace RouteCache

namespace Cache

/-- The tick of an insertion. -/
def Request.insertedAt? : Request → Option Tick
  | .insert _ now => some now
  | .lookup _ | .expire _ => none

/-- Whether a memo is to stand behind one that is kept longer, in a cache that has room. -/
def Late {policy : Policy} (roomy : Cache policy) (memo : Memo) (now : Tick) : Prop :=
  roomy.shelf.get? (policy.place memo.query) = none ∧
    ∃ newest, roomy.deadlines.back? = some newest ∧
      min (now.toNat + policy.lifetime.toNat) (UInt64.size - 1) < newest.last.toNat

end Cache

namespace Register

variable {policy : Policy} {register : Register} {cache : Cache policy}

theorem Describes.late_iff (h : register.Describes cache) (memo : Memo) (now : Tick) :
    cache.Late memo now ↔
      ¬(register.at? (policy.place memo.query) = none →
        register.Admits (policy.lastTick now)) := by
  have vacant : cache.shelf.get? (policy.place memo.query) = none ↔
      register.at? (policy.place memo.query) = none := by
    rw [h.memos, Option.map_eq_none_iff]
  have later : (∃ newest, cache.deadlines.back? = some newest ∧
      min (now.toNat + policy.lifetime.toNat) (UInt64.size - 1) < newest.last.toNat) ↔
      ¬register.Admits (policy.lastTick now) := by
    rw [h.admits_iff]
    simp only [← Nat.not_le, ← le_lastTick_iff, not_forall, exists_prop]
  unfold Cache.Late
  rw [vacant, later, Classical.not_imp]

/-! ### Insertions that keep the deadlines in order -/

/-- The induction carries along that nothing that waits is kept longer than what any
insertion to come would store. -/
theorem inOrderAll_of_monotone {requests : List Cache.Request}
    (monotone : (requests.filterMap (·.insertedAt?)).Pairwise (· ≤ ·))
    (early : ∀ entry ∈ register.entries, ∀ now ∈ requests.filterMap (·.insertedAt?),
      entry.last ≤ policy.lastTick now) :
    register.InOrderAll policy requests := by
  induction requests generalizing register with
  | nil => trivial
  | cons request requests ih =>
    cases request with
    | insert memo now =>
      obtain ⟨later, others⟩ := List.pairwise_cons.mp monotone
      constructor
      · intro vacant newest last
        have waits := (makeRoom_sublist policy register).subset (List.mem_of_getLast? last)
        exact early newest waits now List.mem_cons_self
      · apply ih others
        intro entry member next coming
        rcases mem_of_mem_insert member with old | new
        · exact early entry old next (List.mem_cons_of_mem now coming)
        · rw [new]
          exact lastTick_mono policy (later next coming)
    | lookup query => exact ⟨trivial, ih monotone early⟩
    | expire now =>
      refine ⟨trivial, ih monotone ?_⟩
      intro entry member
      exact early entry (List.mem_of_mem_filter member)

theorem inOrderAll_of_capacity_one (one : policy.capacity = 1) (sound : register.Sound policy)
    (requests : List Cache.Request) : register.InOrderAll policy requests := by
  induction requests generalizing register with
  | nil => trivial
  | cons request requests ih =>
    have inOrder : register.InOrder policy request := by
      cases request with
      | insert memo now =>
        have room := sound.size_makeRoom_lt
        have nothing : (register.makeRoom policy).entries = [] := by
          apply List.eq_nil_of_length_eq_zero
          rw [one] at room
          exact Nat.lt_one_iff.mp room
        intro vacant newest last
        rw [nothing] at last
        cases last
      | lookup query => trivial
      | expire now => trivial
    exact ⟨inOrder, ih (sound.serve inOrder)⟩

/-! ### Faults -/

theorem Describes.insert_fault_iff (h : register.Describes cache) (sound : register.Sound policy)
    (memo : Memo) (now : Tick)
    (fits : ∀ occasion, (register.insert policy memo now).2.counts occasion < UInt64.size) :
    ∃ roomy, Cache.makeRoom cache = .ok () roomy ∧
      ((∃ fault after, Cache.insert memo now cache = .error fault after) ↔
        roomy.Late memo now) ∧
      ∀ fault after, Cache.insert memo now cache = .error fault after →
        fault = .outOfOrder := by
  have fewer : ∀ occasion, (register.makeRoom policy).counts occasion < UInt64.size := by
    intro occasion
    exact Nat.lt_of_le_of_lt (counts_le_offer policy memo now _ occasion) (fits occasion)
  obtain ⟨roomy, made, described⟩ := (h.makeRoom sound).done_of_fits fewer trivial
  have inserted := h.insert sound memo now
  refine ⟨roomy, made, ?_⟩
  rw [described.late_iff]
  generalize Cache.insert memo now cache = result at inserted
  cases inserted with
  | done _ kept => exact ⟨⟨by simp, fun late => absurd kept late⟩, by simp⟩
  | full occasion overflow => exact absurd (fits occasion) (Nat.not_lt.mpr overflow)
  | late broken => exact ⟨⟨fun _ => broken, fun _ => ⟨_, _, rfl⟩⟩, by simp⟩

theorem ok_of_inOrderAll {requests : List Cache.Request} (short : requests.length < UInt64.size)
    (inOrder : empty.InOrderAll policy requests) :
    ∃ replies after, Cache.serveAll requests (Cache.empty : Cache policy) = .ok replies after := by
  obtain ⟨after, run, _⟩ := (follows_from_empty policy requests).done_of_fits
    (counts_serveAll_lt policy short) inOrder
  exact ⟨_, after, run⟩

end Register

namespace Cache

/-- In every cache that was reached without a fault, before as many requests as a word
can count: lookups and expiries do not fault, and an insertion does exactly when the
memo is late after room has been made, as a deadline out of order. So no run faults in
which the ticks of the insertions do not go back, and none in a cache for one memo. -/
theorem fault_iff_late (policy : Policy) :
    (∀ (requests : List Request) (replies : List Reply) (cache : Cache policy),
      serveAll requests empty = .ok replies cache → requests.length + 1 < UInt64.size →
        (∀ query, ∃ answer after, lookup query cache = .ok answer after) ∧
        (∀ now, ∃ number after, expire now cache = .ok number after) ∧
        ∀ memo now, ∃ roomy, makeRoom cache = .ok () roomy ∧
          ((∃ fault after, insert memo now cache = .error fault after) ↔
            roomy.Late memo now) ∧
          ∀ fault after, insert memo now cache = .error fault after → fault = .outOfOrder) ∧
    (∀ requests : List Request, requests.length < UInt64.size →
      (requests.filterMap (·.insertedAt?)).Pairwise (· ≤ ·) →
        ∃ replies after, serveAll requests (empty : Cache policy) = .ok replies after) ∧
    (policy.capacity = 1 → ∀ requests : List Request, requests.length < UInt64.size →
      ∃ replies after, serveAll requests (empty : Cache policy) = .ok replies after) := by
  refine ⟨?_, ?_, ?_⟩
  · intro requests replies cache run short
    obtain ⟨_, sound, describes⟩ := Register.of_serveAll run
    have fits (request : Request) := Register.counts_serve_serveAll_lt policy short request
    refine ⟨?_, ?_, ?_⟩
    · intro query
      obtain ⟨after, looked, _⟩ :=
        (describes.lookup query).done_of_fits (fits (.lookup query)) trivial
      exact ⟨_, after, looked⟩
    · intro now
      obtain ⟨after, expired, _⟩ :=
        (describes.expire sound now).done_of_fits (fits (.expire now)) trivial
      exact ⟨_, after, expired⟩
    · intro memo now
      exact describes.insert_fault_iff sound memo now (fits (.insert memo now))
  · intro requests short monotone
    apply Register.ok_of_inOrderAll short
    apply Register.inOrderAll_of_monotone monotone
    intro entry member
    cases member
  · intro one requests short
    exact Register.ok_of_inOrderAll short
      (Register.inOrderAll_of_capacity_one one (Register.sound_empty policy) requests)

/-- A memo that is late, a run close to the greatest word whose prunes go back, and a
cache for one memo whose ticks go back. -/
theorem fault_iff_late_backwards :
    let early : Memo := ⟨eastward 5, ⟨{}, .reached⟩⟩
    let other : Memo := ⟨eastward 6, ⟨{}, .reached⟩⟩
    let wide := Policy.bounded (Grid.slot ⟨8, 8⟩) 3 10
    let narrow := Policy.bounded (Grid.slot ⟨8, 8⟩) 0 10
    let top : Tick := 0xFFFFFFFFFFFFFFFF
    (∃ cache roomy : Cache wide, serveAll [.insert early 7] empty = .ok [.inserted .stored] cache ∧
      makeRoom cache = .ok () roomy ∧ roomy.Late other 3 ∧
        ∃ fault after, insert other 3 cache = .error fault after) ∧
    (∃ replies after, serveAll [.insert early (top - 1), .expire 2, .insert other top]
      (empty : Cache wide) = .ok replies after) ∧
    ∃ replies after, serveAll [.insert early 7, .insert other 3] (empty : Cache narrow) =
      .ok replies after := by
  intro early other wide narrow top
  obtain ⟨reached, monotone, _⟩ := fault_iff_late wide
  refine ⟨?_, monotone _ (by decide) (by decide),
    (fault_iff_late narrow).2.2 (by decide) _ (by decide)⟩
  refine ⟨_, _, rfl, rfl, ?_⟩
  obtain ⟨_, _, inserts⟩ := reached [.insert early 7] _ _ rfl (by decide)
  obtain ⟨roomy, made, faults, _⟩ := inserts other 3
  cases made
  rw [faults, and_self]
  exact ⟨by decide +kernel, _, rfl, by decide⟩

end Cache

end RouteCache
