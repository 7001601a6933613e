import RouteCache.Proofs.Cache.Register
import RouteCache.Proofs.Sequence

/-!
Every operation of a cache follows a register. A register describes a cache when the
two hold the same memos, in the same order, with the same counts. From there an
operation of the cache either does exactly what the operation of the register does,
or a counter is full, or a deadline would be out of order. The three internal faults
do not occur.
-/

namespace RouteCache

variable {policy : Policy} {register : Register} {cache : Cache policy}

structure Register.Describes (register : Register) (cache : Cache policy) : Prop where
  waiting : cache.deadlines.records = register.entries.map Entry.deadline
  memos : ∀ slot, cache.shelf.get? slot = (register.at? slot).map (·.memo)
  size : cache.shelf.size = register.size
  held : cache.tally.held = UInt64.ofNat register.size
  counts : ∀ occasion, (cache.tally.number occasion).toNat = register.counts occasion

/-- How an operation on a cache can end, when a register foretells its answer and
what it leaves behind: as foretold, or with a counter that is full, or because the
deadlines would not be in order. -/
inductive Follows {α : Type} (answer : α) (register : Register) (inOrder : Prop) :
    EStateM.Result Fault (Cache policy) α → Prop where
  | done {after : Cache policy} (describes : register.Describes after) (kept : inOrder) :
      Follows answer register inOrder (.ok answer after)
  | full {after : Cache policy} (occasion : Occasion)
      (overflow : UInt64.size ≤ register.counts occasion) :
      Follows answer register inOrder (.error .additionOverflow after)
  | late {after : Cache policy} (broken : ¬inOrder) :
      Follows answer register inOrder (.error .outOfOrder after)

namespace Follows

variable {α β : Type} {answer : α} {inOrder : Prop}

theorem congr {other : Prop} {result : EStateM.Result Fault (Cache policy) α}
    (h : Follows answer register inOrder result) (same : inOrder ↔ other) :
    Follows answer register other result := by
  rwa [← propext same]

/-- Two operations in sequence. A counter that the first one overflows stays too
large for the second, because counts only grow. -/
theorem bind {final : Register} {reply : β} {first second : Prop} {use : CacheM policy α}
    {next : α → CacheM policy β} (h : Follows answer register first (use cache))
    (hnext : ∀ between : Cache policy, register.Describes between → first →
      Follows reply final second (next answer between))
    (grows : ∀ occasion, register.counts occasion ≤ final.counts occasion) :
    Follows reply final (first ∧ second) ((use >>= next) cache) := by
  change Follows _ _ _ ((use >>= next).run cache)
  rw [EStateM.run_bind]
  change Follows _ _ _ (use.run cache) at h
  generalize use.run cache = result at h
  cases h with
  | done describes kept =>
    refine (hnext _ describes kept).congr ?_
    simp [kept]
  | full occasion overflow => exact .full occasion (Nat.le_trans overflow (grows occasion))
  | late broken => exact .late fun both => broken both.1

/-- An operation that stores nothing leaves the condition to the next one. -/
theorem bind_true {final : Register} {reply : β} {use : CacheM policy α}
    {next : α → CacheM policy β} (h : Follows answer register True (use cache))
    (hnext : ∀ between : Cache policy, register.Describes between →
      Follows reply final inOrder (next answer between))
    (grows : ∀ occasion, register.counts occasion ≤ final.counts occasion) :
    Follows reply final inOrder ((use >>= next) cache) := by
  have run := h.bind (fun between described _ => hnext between described) grows
  exact run.congr (by simp)

/-- Only the answer of an operation is changed. -/
theorem map {use : CacheM policy α} (h : Follows answer register inOrder (use cache))
    (f : α → β) :
    Follows (f answer) register inOrder ((use >>= fun result => pure (f result)) cache) := by
  have run : Follows (f answer) register (inOrder ∧ True)
      ((use >>= fun result => pure (f result)) cache) := by
    refine h.bind ?_ (fun _ => Nat.le_refl _)
    intro between described _
    exact .done described trivial
  exact run.congr (by simp)

theorem of_ok {given : α} {after : Cache policy}
    (h : Follows answer register inOrder (.ok given after)) :
    given = answer ∧ inOrder ∧ register.Describes after := by
  cases h with
  | done describes kept => exact ⟨rfl, kept, describes⟩

/-- Without a full counter and with deadlines in order the operation ends as foretold. -/
theorem done_of_fits {result : EStateM.Result Fault (Cache policy) α}
    (h : Follows answer register inOrder result)
    (fits : ∀ occasion, register.counts occasion < UInt64.size) (kept : inOrder) :
    ∃ after, result = .ok answer after ∧ register.Describes after := by
  cases h with
  | done describes _ => exact ⟨_, rfl, describes⟩
  | full occasion overflow => exact absurd (fits occasion) (Nat.not_lt.mpr overflow)
  | late broken => exact absurd kept broken

end Follows

namespace Register

theorem describes_empty : empty.Describes (Cache.empty : Cache policy) where
  waiting := rfl
  memos := fun slot => Shelf.get?_empty slot
  size := Shelf.size_empty
  held := rfl
  counts := by
    intro occasion
    cases occasion <;> rfl

theorem Describes.deadlines_size (h : register.Describes cache) :
    cache.deadlines.size = register.size := by
  unfold Deadlines.size Register.size
  rw [h.waiting, List.length_map]

theorem Describes.slots (h : register.Describes cache) :
    cache.deadlines.records.map (·.slot) = register.entries.map (·.slot) := by
  rw [h.waiting, List.map_map]
  rfl

theorem Describes.entry_of_get? (h : register.Describes cache) {slot : Slot} {memo : Memo}
    (found : cache.shelf.get? slot = some memo) :
    ∃ entry ∈ register.entries, entry.slot = slot ∧ entry.memo = memo := by
  rw [h.memos] at found
  obtain ⟨entry, there, kept⟩ := Option.map_eq_some_iff.mp found
  obtain ⟨member, placed⟩ := of_at?_eq_some there
  exact ⟨entry, member, placed, kept⟩

theorem Describes.get?_of_mem (h : register.Describes cache) {slot : Slot}
    (waits : slot ∈ register.entries.map (·.slot)) :
    ∃ memo, cache.shelf.get? slot = some memo := by
  obtain ⟨entry, member, placed⟩ := List.mem_map.mp waits
  rw [h.memos]
  cases there : register.at? slot with
  | some other => exact ⟨other.memo, rfl⟩
  | none => exact absurd placed (at?_eq_none_iff.mp there entry member)

/-- A sound register has no more entries than a word can count. -/
theorem Sound.toNat_size (sound : register.Sound policy) :
    (UInt64.ofNat register.size).toNat = register.size := by
  have bounded := sound.bounded
  have top : policy.capacity.toNat < UInt64.size := policy.capacity.toNat_lt
  exact UInt64.toNat_ofNat_of_lt' (Nat.lt_of_le_of_lt bounded top)

theorem Describes.find? (h : register.Describes cache) (query : Query) :
    cache.find? query = register.find? policy query := by
  unfold Cache.find? Register.find?
  rw [h.memos]

/-! ### Counting -/

/-- Counting changes the count of its occasion and nothing else. -/
theorem Describes.count (h : register.Describes cache) (occasion : Occasion) :
    Follows () (register.add occasion 1) True (Cache.count occasion cache) := by
  unfold Cache.count
  split
  · rename_i tally counted
    obtain ⟨one, others, held⟩ := Tally.number_of_count counted
    refine .done ⟨h.waiting, h.memos, h.size, held.trans h.held, ?_⟩ trivial
    intro other
    unfold add
    dsimp only
    split
    · rename_i same
      rw [same, one, h.counts]
    · rename_i differs
      rw [others other differs, h.counts]
  · rename_i fault refused
    obtain ⟨rfl, top⟩ := Tally.count_eq_error refused
    refine .full occasion ?_
    have value := h.counts occasion
    simp only [add, if_true]
    omega

/-! ### Dropping -/

/-- The oldest memo goes, which is the head of the register. -/
theorem Describes.dropOldest (h : register.Describes cache)
    (distinct : (register.entries.map (·.slot)).Nodup) (waiting : 0 < register.size) :
    Follows () (register.dropFront 1) True (Cache.dropOldest cache) := by
  obtain ⟨oldest, others, first⟩ := List.exists_cons_of_length_pos waiting
  have records : cache.deadlines.records = oldest.deadline :: others.map Entry.deadline := by
    rw [h.waiting, first, List.map_cons]
  have present : cache.shelf.get? oldest.deadline.slot = some oldest.memo := by
    rw [h.memos]
    simp [at?, first, Entry.deadline]
  have erased : (cache.shelf.erase oldest.deadline.slot).size = (register.dropFront 1).size := by
    have smaller := Shelf.size_erase_of_get? present
    have size := h.size
    rw [size_dropFront]
    omega
  rw [Cache.dropOldest_eq_ok records present]
  refine .done ⟨?_, ?_, erased, congrArg UInt64.ofNat erased, h.counts⟩ trivial
  · simp [dropFront, first]
  · intro slot
    rw [Shelf.get?_erase, at?_dropFront_one first distinct, h.memos]
    by_cases same : slot = oldest.slot <;> simp [same, Entry.deadline]

/-- Any number of memos goes from the front, each counted as it goes. The induction is
on that number, and each step drops one more head of the register. -/
theorem Describes.drop (h : register.Describes cache)
    (distinct : (register.entries.map (·.slot)).Nodup) {number : Nat}
    (enough : number ≤ register.size) (occasion : Occasion) :
    Follows () (register.discard occasion number) True (Cache.drop occasion number cache) := by
  induction number generalizing register cache with
  | zero =>
    rw [discard_zero]
    exact .done h trivial
  | succ number ih =>
    have sublist : (register.dropFront 1).entries.Sublist register.entries :=
      List.drop_sublist 1 register.entries
    have size := size_dropFront 1 register
    rw [← discard_discard_one]
    unfold Cache.drop
    refine (h.dropOldest distinct (by omega)).bind_true ?_ ?_
    · intro between described
      refine (described.count occasion).bind_true ?_ (counts_le_add occasion number _)
      intro later counted
      apply ih counted (distinct.sublist (sublist.map _))
      change number ≤ (register.dropFront 1).size
      omega
    · intro other
      exact Nat.le_trans (counts_le_add occasion 1 _ other)
        (counts_le_add occasion number _ other)

theorem Describes.makeRoom (h : register.Describes cache) (sound : register.Sound policy) :
    Follows () (register.makeRoom policy) True (Cache.makeRoom cache) := by
  rw [Cache.makeRoom_eq]
  have bounded := sound.bounded
  have positive := policy.capacity_pos
  have surplus : cache.surplus = register.size + 1 - policy.capacity.toNat := by
    unfold Cache.surplus
    rw [h.deadlines_size]
  unfold Register.makeRoom
  split
  · have one : cache.surplus = 1 := by omega
    rw [one]
    exact h.drop sound.distinct (by omega) .eviction
  · have none : cache.surplus = 0 := by omega
    rw [none]
    exact .done h trivial

/-! ### Storing -/

theorem Describes.admits_iff (h : register.Describes cache) (last : Tick) :
    register.Admits last ↔
      ∀ newest, cache.deadlines.back? = some newest → newest.last ≤ last := by
  unfold Admits Deadlines.back?
  rw [h.waiting, List.getLast?_map]
  cases register.entries.getLast? <;> simp [Entry.deadline]

/-- A memo whose slot is vacant goes to the end of the register. -/
theorem Describes.store (h : register.Describes cache) (memo : Memo) (now : Tick) {slot : Slot}
    (vacant : register.at? slot = none) :
    Follows () (register.append ⟨slot, memo, policy.lastTick now⟩)
      (register.Admits (policy.lastTick now)) (Cache.store slot memo now cache) := by
  have empty : cache.shelf.get? slot = none := by
    rw [h.memos, vacant]
    rfl
  obtain ⟨shelf, inserted⟩ : ∃ shelf, cache.shelf.insert? slot memo = some shelf := by
    unfold Shelf.insert?
    rw [empty]
    exact ⟨_, rfl⟩
  have size := Shelf.size_of_insert? inserted
  unfold Cache.store
  rw [inserted]
  dsimp only
  split
  · rename_i refused
    refine .late fun admits => ?_
    have pushed := Deadlines.push?_eq_some_iff.mpr ⟨(h.admits_iff _).mp admits,
      (rfl : (⟨cache.deadlines.records ++ [⟨slot, policy.lastTick now⟩]⟩ :
        Deadlines).records = _)⟩
    rw [refused] at pushed
    cases pushed
  · rename_i deadlines pushed
    obtain ⟨admits, records⟩ := Deadlines.push?_eq_some_iff.mp pushed
    have longer : shelf.size = (register.append ⟨slot, memo, policy.lastTick now⟩).size := by
      rw [size, h.size]
      simp [append, Register.size]
    refine .done ⟨?_, ?_, longer, congrArg UInt64.ofNat longer, h.counts⟩
      ((h.admits_iff _).mpr admits)
    · simp [append, records, h.waiting, Entry.deadline]
    · intro other
      rw [Shelf.get?_of_insert? inserted, h.memos, at?_append]
      by_cases same : other = slot
      · rw [same, vacant]
        simp
      · have differs : slot ≠ other := fun equal => same equal.symm
        simp [same, differs]

theorem Describes.offer (h : register.Describes cache) (memo : Memo) (now : Tick) :
    Follows (register.offer policy memo now).1 (register.offer policy memo now).2
      (register.at? (policy.place memo.query) = none → register.Admits (policy.lastTick now))
      (Cache.offer memo now cache) := by
  have view := h.memos (policy.place memo.query)
  cases occupied : register.at? (policy.place memo.query) with
  | none =>
    rw [occupied] at view
    rw [Cache.offer_of_vacant now view, offer_of_vacant now occupied]
    have run := (h.store memo now occupied).map fun _ => Outcome.stored
    exact run.congr (by simp)
  | some present =>
    rw [occupied] at view
    rw [Cache.offer_of_occupied now view, offer_of_occupied now occupied]
    split
    · exact .done h (fun vacant => nomatch vacant)
    · have run := (h.count .collision).map fun _ => Outcome.collided
      exact run.congr (by simp)

theorem Describes.insert (h : register.Describes cache) (sound : register.Sound policy)
    (memo : Memo) (now : Tick) :
    Follows (register.insert policy memo now).1 (register.insert policy memo now).2
      (register.InOrder policy (.insert memo now)) (Cache.insert memo now cache) := by
  rw [Cache.insert_eq]
  refine (h.makeRoom sound).bind_true ?_ (counts_le_offer policy memo now _)
  intro between described
  exact described.offer memo now

theorem Describes.of_insert (h : register.Describes cache) (sound : register.Sound policy)
    {memo : Memo} {now : Tick} {outcome : Outcome} {after : Cache policy}
    (inserted : Cache.insert memo now cache = .ok outcome after) :
    outcome = (register.insert policy memo now).1 ∧
      (register.insert policy memo now).2.Sound policy ∧
      (register.insert policy memo now).2.Describes after := by
  have followed := h.insert sound memo now
  rw [inserted] at followed
  obtain ⟨same, inOrder, described⟩ := followed.of_ok
  exact ⟨same, sound.insert inOrder, described⟩

/-! ### Looking up and expiring -/

theorem Describes.lookup (h : register.Describes cache) (query : Query) :
    Follows (register.lookup policy query).1 (register.lookup policy query).2 True
      (Cache.lookup query cache) := by
  rw [Cache.lookup_eq, h.find?]
  exact (h.count _).map fun _ => register.find? policy query

theorem Describes.overdue_eq (h : register.Describes cache) (sound : register.Sound policy)
    (now : Tick) : cache.deadlines.overdue now = (register.expire now).1 := by
  unfold Deadlines.overdue Register.expire
  rw [h.waiting, List.takeWhile_map, List.length_map]
  exact congrArg List.length (overdue_at_front sound.ordered now).1

/-- Expiry looks at the front only, and yet removes every overdue memo. -/
theorem Describes.expire (h : register.Describes cache) (sound : register.Sound policy)
    (now : Tick) :
    Follows (register.expire now).1 (register.expire now).2 True (Cache.expire now cache) := by
  have after : (register.expire now).2 = register.discard .expiration (register.expire now).1 := by
    unfold discard dropFront Register.expire
    dsimp only
    rw [(overdue_at_front sound.ordered now).2]
  have enough : (register.expire now).1 ≤ register.size := List.length_filter_le _ _
  rw [Cache.expire_eq, h.overdue_eq sound, after]
  exact (h.drop sound.distinct enough .expiration).map fun _ => (register.expire now).1

theorem Describes.of_lookup (h : register.Describes cache) (sound : register.Sound policy)
    {query : Query} {answer : Option Memo} {after : Cache policy}
    (looked : Cache.lookup query cache = .ok answer after) :
    answer = (register.lookup policy query).1 ∧
      (register.lookup policy query).2.Sound policy ∧
      (register.lookup policy query).2.Describes after := by
  have followed := h.lookup query
  rw [looked] at followed
  obtain ⟨same, _, described⟩ := followed.of_ok
  exact ⟨same, sound.of_sublist (List.Sublist.refl _), described⟩

theorem Describes.of_expire (h : register.Describes cache) (sound : register.Sound policy)
    {now : Tick} {number : Nat} {after : Cache policy}
    (expired : Cache.expire now cache = .ok number after) :
    number = (register.expire now).1 ∧ (register.expire now).2.Sound policy ∧
      (register.expire now).2.Describes after := by
  have followed := h.expire sound now
  rw [expired] at followed
  obtain ⟨same, _, described⟩ := followed.of_ok
  exact ⟨same, sound.of_sublist List.filter_sublist, described⟩

/-! ### Runs -/

/-- If a run does not fault, then neither does its first part. -/
theorem ok_of_serveAll_append {past future : List Cache.Request} {replies : List Cache.Reply}
    {after : Cache policy} (run : Cache.serveAll (past ++ future) cache = .ok replies after) :
    ∃ first between, Cache.serveAll past cache = .ok first between := by
  induction past generalizing cache replies after with
  | nil => exact ⟨[], cache, rfl⟩
  | cons request past ih =>
    rw [List.cons_append, Cache.serveAll_cons] at run
    obtain ⟨reply, between, served, rest⟩ := bind_eq_ok_iff.mp run
    obtain ⟨others, _, remaining, _⟩ := bind_eq_ok_iff.mp rest
    obtain ⟨first, last, earlier⟩ := ih remaining
    refine ⟨reply :: first, last, ?_⟩
    rw [Cache.serveAll_cons]
    exact bind_eq_ok_iff.mpr ⟨reply, between, served,
      bind_eq_ok_iff.mpr ⟨first, last, earlier, rfl⟩⟩

theorem Describes.serve (h : register.Describes cache) (sound : register.Sound policy)
    (request : Cache.Request) :
    Follows (register.serve policy request).1 (register.serve policy request).2
      (register.InOrder policy request) (Cache.serve request cache) := by
  cases request with
  | insert memo now => exact (h.insert sound memo now).map Cache.Reply.inserted
  | lookup query => exact (h.lookup query).map Cache.Reply.found
  | expire now => exact (h.expire sound now).map Cache.Reply.expired

/-- A run of a cache follows the run of the register. The induction is on the requests,
with the description and the invariant carried from each request to the next. -/
theorem Describes.serveAll (h : register.Describes cache) (sound : register.Sound policy)
    (requests : List Cache.Request) :
    Follows (register.serveAll policy requests).1 (register.serveAll policy requests).2
      (register.InOrderAll policy requests) (Cache.serveAll requests cache) := by
  induction requests generalizing register cache with
  | nil => exact .done h trivial
  | cons request requests ih =>
    rw [Cache.serveAll_cons]
    refine (h.serve sound request).bind ?_ (counts_le_serveAll policy requests _)
    intro between described inOrder
    exact (ih described (sound.serve inOrder)).map _

/-- A new cache follows the register that starts without entries. -/
theorem follows_from_empty (policy : Policy) (requests : List Cache.Request) :
    Follows (empty.serveAll policy requests).1 (empty.serveAll policy requests).2
      (empty.InOrderAll policy requests)
      (Cache.serveAll requests (Cache.empty : Cache policy)) :=
  describes_empty.serveAll (sound_empty policy) requests

/-- A request that was served without a fault did what the register does. -/
theorem Describes.of_serve (h : register.Describes cache) (sound : register.Sound policy)
    {request : Cache.Request} {reply : Cache.Reply} {after : Cache policy}
    (served : Cache.serve request cache = .ok reply after) :
    reply = (register.serve policy request).1 ∧ register.InOrder policy request ∧
      (register.serve policy request).2.Describes after := by
  have followed := h.serve sound request
  rw [served] at followed
  exact followed.of_ok

theorem Describes.of_serveAll (h : register.Describes cache) (sound : register.Sound policy)
    {requests : List Cache.Request} {replies : List Cache.Reply} {after : Cache policy}
    (run : Cache.serveAll requests cache = .ok replies after) :
    replies = (register.serveAll policy requests).1 ∧ register.InOrderAll policy requests ∧
      (register.serveAll policy requests).2.Describes after := by
  have followed := h.serveAll sound requests
  rw [run] at followed
  exact followed.of_ok

/-- A new cache that has run without a fault is described by the register that has run
in its place. -/
theorem of_serveAll {requests : List Cache.Request} {replies : List Cache.Reply}
    (run : Cache.serveAll requests (Cache.empty : Cache policy) = .ok replies cache) :
    (empty.serveAll policy requests).1 = replies ∧
      (empty.serveAll policy requests).2.Sound policy ∧
      (empty.serveAll policy requests).2.Describes cache := by
  obtain ⟨answers, inOrder, describes⟩ := describes_empty.of_serveAll (sound_empty policy) run
  exact ⟨answers.symm, (sound_empty policy).serveAll inOrder, describes⟩

end Register

end RouteCache
