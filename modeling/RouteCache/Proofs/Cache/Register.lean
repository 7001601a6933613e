import RouteCache.Cache.Basic

/-!
A cache seen as a single list. A register holds the entries of a cache, the oldest
first, and counts without bounds. Its operations are total functions: room is made by
dropping the head, a new entry goes to the end, and expiry removes every overdue
entry wherever it stands.

`Register.Sound` is the invariant: slots are distinct, every memo stands at the slot
of its own query, deadlines do not decrease, and the capacity is respected. Only the
storing of a memo can break it, namely the order of the deadlines, and
`Register.InOrder` says when it does not.
-/

namespace RouteCache

/-- The query for a way some cells to the east. -/
def eastward (cells : Int32) : Query := ⟨⟨0, 0⟩, ⟨cells, 0⟩, Single.eight, 1⟩

/-- A memo with its slot and the last tick at which it is kept. -/
structure Entry where
  slot : Slot
  memo : Memo
  last : Tick
deriving DecidableEq

def Entry.deadline (entry : Entry) : Deadline := ⟨entry.slot, entry.last⟩

/-- Entries, the oldest first, and how often each occasion was counted. -/
structure Register where
  entries : List Entry := []
  counts : Occasion → Nat := fun _ => 0

namespace Register

def empty : Register := {}

def size (register : Register) : Nat := register.entries.length

def at? (register : Register) (slot : Slot) : Option Entry :=
  register.entries.find? fun entry => decide (entry.slot = slot)

/-- Counts an occasion a number of times. -/
def add (occasion : Occasion) (number : Nat) (register : Register) : Register :=
  { register with
    counts := fun other =>
      if other = occasion then register.counts other + number else register.counts other }

/-- The memo that answers a query. -/
def find? (policy : Policy) (query : Query) (register : Register) : Option Memo :=
  ((register.at? (policy.place query)).map (·.memo)).filter (·.settles query)

def dropFront (number : Nat) (register : Register) : Register :=
  { register with entries := register.entries.drop number }

def discard (occasion : Occasion) (number : Nat) (register : Register) : Register :=
  (register.dropFront number).add occasion number

/-- Drops the head of a full register. -/
def makeRoom (policy : Policy) (register : Register) : Register :=
  if register.size = policy.capacity.toNat then register.discard .eviction 1 else register

def append (entry : Entry) (register : Register) : Register :=
  { register with entries := register.entries ++ [entry] }

/-- Appends a memo unless its slot is taken. -/
def offer (policy : Policy) (memo : Memo) (now : Tick) (register : Register) :
    Outcome × Register :=
  let slot := policy.place memo.query
  match register.at? slot with
  | some present =>
    if present.memo.query = memo.query then (.duplicate, register)
    else (.collided, register.add .collision 1)
  | none =>
    let last := UInt64.ofNat (min (now.toNat + policy.lifetime.toNat) (UInt64.size - 1))
    (.stored, register.append ⟨slot, memo, last⟩)

/-- Makes room and offers a memo. -/
def insert (policy : Policy) (memo : Memo) (now : Tick) (register : Register) :
    Outcome × Register :=
  (register.makeRoom policy).offer policy memo now

/-- Looks a query up and counts a hit or a miss. -/
def lookup (policy : Policy) (query : Query) (register : Register) : Option Memo × Register :=
  let found := register.find? policy query
  (found, register.add (if found.isSome then .hit else .miss) 1)

/-- Removes and counts every entry whose last tick has passed. -/
def expire (now : Tick) (register : Register) : Nat × Register :=
  let number := (register.entries.filter fun entry => decide (entry.last < now)).length
  let kept := register.entries.filter fun entry => !decide (entry.last < now)
  (number, { register with entries := kept }.add .expiration number)

def serve (policy : Policy) : Cache.Request → Register → Cache.Reply × Register
  | .insert memo now, register => (register.insert policy memo now).map .inserted id
  | .lookup query, register => (register.lookup policy query).map .found id
  | .expire now, register => (register.expire now).map .expired id

def serveAll (policy : Policy) : List Cache.Request → Register → List Cache.Reply × Register
  | [], register => ([], register)
  | request :: requests, register =>
    let first := register.serve policy request
    let others := serveAll policy requests first.2
    (first.1 :: others.1, others.2)

/-- Whether an entry with a last tick may stand behind the newest entry. -/
def Admits (register : Register) (last : Tick) : Prop :=
  ∀ newest, register.entries.getLast? = some newest → newest.last ≤ last

/-- Whether a request leaves the deadlines in order. Only the deadline of a memo that
is stored matters. -/
def InOrder (policy : Policy) : Cache.Request → Register → Prop
  | .insert memo now, register =>
    (register.makeRoom policy).at? (policy.place memo.query) = none →
      (register.makeRoom policy).Admits (policy.lastTick now)
  | .lookup _, _ => True
  | .expire _, _ => True

/-- Whether every request of a run leaves the deadlines in order. -/
def InOrderAll (policy : Policy) : List Cache.Request → Register → Prop
  | [], _ => True
  | request :: requests, register =>
    register.InOrder policy request ∧
      InOrderAll policy requests (register.serve policy request).2

structure Sound (policy : Policy) (register : Register) : Prop where
  distinct : (register.entries.map (·.slot)).Nodup
  placed : ∀ entry ∈ register.entries, policy.place entry.memo.query = entry.slot
  ordered : register.entries.Pairwise (·.last ≤ ·.last)
  bounded : register.size ≤ policy.capacity.toNat

variable {policy : Policy} {register : Register}

theorem lastTick_eq (policy : Policy) (now : Tick) :
    policy.lastTick now =
      UInt64.ofNat (min (now.toNat + policy.lifetime.toNat) (UInt64.size - 1)) := by
  apply UInt64.toNat_inj.mp
  have positive : 0 < UInt64.size := by decide
  have small : min (now.toNat + policy.lifetime.toNat) (UInt64.size - 1) < UInt64.size := by
    omega
  rw [Policy.lastTick, toNat_cappedAdd, UInt64.toNat_ofNat_of_lt' small]

theorem le_lastTick_iff {tick now : Tick} :
    tick ≤ policy.lastTick now ↔
      tick.toNat ≤ min (now.toNat + policy.lifetime.toNat) (UInt64.size - 1) := by
  unfold Policy.lastTick
  rw [UInt64.le_iff_toNat_le, toNat_cappedAdd]

theorem lastTick_mono (policy : Policy) {now later : Tick} (h : now ≤ later) :
    policy.lastTick now ≤ policy.lastTick later := by
  have kept := le_lastTick_iff.mp (UInt64.le_refl (policy.lastTick now))
  rw [UInt64.le_iff_toNat_le] at h
  rw [le_lastTick_iff]
  omega

theorem offer_of_vacant {memo : Memo} (now : Tick)
    (vacant : register.at? (policy.place memo.query) = none) :
    register.offer policy memo now =
      (.stored, register.append ⟨policy.place memo.query, memo, policy.lastTick now⟩) := by
  unfold offer
  dsimp only
  rw [vacant, lastTick_eq]

theorem offer_of_occupied {memo : Memo} {present : Entry} (now : Tick)
    (occupied : register.at? (policy.place memo.query) = some present) :
    register.offer policy memo now =
      if present.memo.query = memo.query then (.duplicate, register)
      else (.collided, register.add .collision 1) := by
  unfold offer
  dsimp only
  rw [occupied]

theorem at?_eq_none_iff {slot : Slot} :
    register.at? slot = none ↔ ∀ entry ∈ register.entries, entry.slot ≠ slot := by
  unfold at?
  simp only [List.find?_eq_none, decide_eq_true_eq, ne_eq]

theorem of_at?_eq_some {slot : Slot} {entry : Entry} (h : register.at? slot = some entry) :
    entry ∈ register.entries ∧ entry.slot = slot := by
  unfold at? at h
  have chosen := List.find?_some h
  exact ⟨List.mem_of_find?_eq_some h, of_decide_eq_true chosen⟩

theorem counts_le_add (occasion : Occasion) (number : Nat) (register : Register)
    (other : Occasion) : register.counts other ≤ (register.add occasion number).counts other := by
  unfold add
  dsimp only
  split <;> omega

theorem add_zero (occasion : Occasion) (register : Register) :
    register.add occasion 0 = register := by
  simp [add]

theorem discard_zero (occasion : Occasion) (register : Register) :
    register.discard occasion 0 = register := by
  simp [discard, dropFront, add_zero]

theorem discard_discard_one (occasion : Occasion) (number : Nat) (register : Register) :
    (register.discard occasion 1).discard occasion number =
      register.discard occasion (number + 1) := by
  unfold discard dropFront add
  congr 1
  · simp
  · funext other
    dsimp only
    split <;> omega

theorem size_dropFront (number : Nat) (register : Register) :
    (register.dropFront number).size = register.size - number := by
  simp [dropFront, size]

/-- The slot of a head that is dropped becomes vacant, and all others stay. -/
theorem at?_dropFront_one {oldest : Entry} {others : List Entry}
    (first : register.entries = oldest :: others)
    (distinct : (register.entries.map (·.slot)).Nodup) (slot : Slot) :
    (register.dropFront 1).at? slot =
      if slot = oldest.slot then none else register.at? slot := by
  rw [first, List.map_cons, List.nodup_cons] at distinct
  unfold dropFront at?
  rw [first]
  simp only [List.drop_succ_cons, List.drop_zero]
  by_cases same : slot = oldest.slot
  · rw [if_pos same, List.find?_eq_none]
    intro entry member
    simp only [decide_eq_true_eq]
    intro taken
    apply distinct.1
    rw [← same, ← taken]
    exact List.mem_map_of_mem member
  · have skipped : decide (oldest.slot = slot) = false :=
      decide_eq_false fun taken => same taken.symm
    rw [if_neg same, List.find?_cons, skipped]

/-- In order of their deadlines the overdue entries stand together at the front, so
removing them is dropping a front part. -/
theorem overdue_at_front {entries : List Entry} (ordered : entries.Pairwise (·.last ≤ ·.last))
    (now : Tick) :
    (entries.takeWhile fun entry => decide (entry.last < now)) =
        (entries.filter fun entry => decide (entry.last < now)) ∧
      entries.drop (entries.filter fun entry => decide (entry.last < now)).length =
        entries.filter fun entry => !decide (entry.last < now) := by
  induction entries with
  | nil => exact ⟨rfl, rfl⟩
  | cons first rest ih =>
    obtain ⟨below, tail⟩ := List.pairwise_cons.mp ordered
    by_cases overdue : first.last < now
    · obtain ⟨front, back⟩ := ih tail
      simp [overdue, front, back]
    · have current : ∀ entry ∈ rest, ¬entry.last < now := by
        intro entry member passed
        exact overdue (UInt64.lt_of_le_of_lt (below entry member) passed)
      have nothing : (rest.filter fun entry => decide (entry.last < now)) = [] := by
        apply List.filter_eq_nil_iff.mpr
        intro entry member
        simpa using current entry member
      have everything : (rest.filter fun entry => !decide (entry.last < now)) = rest := by
        apply List.filter_eq_self.mpr
        intro entry member
        simpa using current entry member
      simp [overdue, nothing, everything]

/-! ### The invariant along a run -/

theorem sound_empty (policy : Policy) : empty.Sound policy where
  distinct := List.nodup_nil
  placed := by
    intro entry member
    cases member
  ordered := List.Pairwise.nil
  bounded := Nat.zero_le _

/-- Whatever only removes entries keeps the invariant. -/
theorem Sound.of_sublist {fewer : Register} (sound : register.Sound policy)
    (h : fewer.entries.Sublist register.entries) : fewer.Sound policy where
  distinct := sound.distinct.sublist (h.map _)
  placed := fun entry member => sound.placed entry (h.subset member)
  ordered := sound.ordered.sublist h
  bounded := Nat.le_trans h.length_le sound.bounded

theorem makeRoom_sublist (policy : Policy) (register : Register) :
    (register.makeRoom policy).entries.Sublist register.entries := by
  unfold makeRoom
  split
  · exact List.drop_sublist 1 register.entries
  · exact List.Sublist.refl _

theorem Sound.makeRoom (sound : register.Sound policy) : (register.makeRoom policy).Sound policy :=
  sound.of_sublist (makeRoom_sublist policy register)

theorem Sound.size_makeRoom_lt (sound : register.Sound policy) :
    (register.makeRoom policy).size < policy.capacity.toNat := by
  have bounded := sound.bounded
  have positive := policy.capacity_pos
  unfold Register.makeRoom
  split
  · rename_i full
    have fewer := size_dropFront 1 register
    change (register.dropFront 1).size < _
    omega
  · rename_i spare
    omega

/-- In a sound register the newest entry has the greatest deadline. -/
theorem Sound.le_of_admits (sound : register.Sound policy) {last : Tick}
    (admits : register.Admits last) : ∀ entry ∈ register.entries, entry.last ≤ last := by
  intro entry member
  rcases List.eq_nil_or_concat register.entries with none | ⟨older, newest, split⟩
  · rw [none] at member
    cases member
  · rw [List.concat_eq_append] at split
    have ordered := sound.ordered
    have newest_le : newest.last ≤ last := admits newest (by rw [split]; simp)
    rw [split] at ordered member
    rcases List.mem_append.mp member with old | new
    · have below := (List.pairwise_append.mp ordered).2.2 entry old newest (by simp)
      exact UInt64.le_trans below newest_le
    · simp only [List.mem_singleton] at new
      rw [new]
      exact newest_le

theorem at?_append (entry : Entry) (slot : Slot) :
    (register.append entry).at? slot =
      (register.at? slot).or (if entry.slot = slot then some entry else none) := by
  unfold append at?
  rw [List.find?_append]
  by_cases same : entry.slot = slot <;> simp [same]

/-- An entry with a fresh slot and the greatest deadline keeps the invariant. -/
theorem Sound.append (sound : register.Sound policy) {entry : Entry}
    (spare : register.size < policy.capacity.toNat)
    (placed : policy.place entry.memo.query = entry.slot)
    (vacant : register.at? entry.slot = none) (admits : register.Admits entry.last) :
    (register.append entry).Sound policy := by
  have fresh := at?_eq_none_iff.mp vacant
  have below := sound.le_of_admits admits
  unfold Register.append
  constructor
  · rw [List.map_append, List.nodup_append]
    refine ⟨sound.distinct, by simp, ?_⟩
    intro slot old other new
    obtain ⟨earlier, member, rfl⟩ := List.mem_map.mp old
    simp only [List.map_cons, List.map_nil, List.mem_singleton] at new
    rw [new]
    exact fresh earlier member
  · intro other member
    rcases List.mem_append.mp member with old | new
    · exact sound.placed other old
    · simp only [List.mem_singleton] at new
      rw [new]
      exact placed
  · rw [List.pairwise_append]
    refine ⟨sound.ordered, by simp, ?_⟩
    intro earlier old other new
    simp only [List.mem_singleton] at new
    rw [new]
    exact below earlier old
  · simp only [size, List.length_append, List.length_singleton] at spare ⊢
    omega

theorem Sound.offer (sound : register.Sound policy) {memo : Memo} {now : Tick}
    (spare : register.size < policy.capacity.toNat)
    (inOrder : register.at? (policy.place memo.query) = none →
      register.Admits (policy.lastTick now)) :
    (register.offer policy memo now).2.Sound policy := by
  cases occupied : register.at? (policy.place memo.query) with
  | none =>
    rw [offer_of_vacant now occupied]
    exact sound.append spare rfl occupied (inOrder occupied)
  | some present =>
    rw [offer_of_occupied now occupied]
    split
    · exact sound
    · exact sound.of_sublist (List.Sublist.refl _)

/-- Every entry after an insertion was there before or is the new one. -/
theorem mem_of_mem_insert {memo : Memo} {now : Tick} {entry : Entry}
    (member : entry ∈ (register.insert policy memo now).2.entries) :
    entry ∈ register.entries ∨
      entry = ⟨policy.place memo.query, memo, policy.lastTick now⟩ := by
  have kept := (makeRoom_sublist policy register).subset
  unfold insert at member
  cases occupied : (register.makeRoom policy).at? (policy.place memo.query) with
  | none =>
    rw [offer_of_vacant now occupied] at member
    rcases List.mem_append.mp member with old | new
    · exact Or.inl (kept old)
    · exact Or.inr (List.mem_singleton.mp new)
  | some present =>
    rw [offer_of_occupied now occupied] at member
    left
    apply kept
    split at member <;> exact member

theorem Sound.insert (sound : register.Sound policy) {memo : Memo} {now : Tick}
    (inOrder : register.InOrder policy (.insert memo now)) :
    (register.insert policy memo now).2.Sound policy :=
  sound.makeRoom.offer sound.size_makeRoom_lt inOrder

theorem Sound.serve (sound : register.Sound policy) {request : Cache.Request}
    (inOrder : register.InOrder policy request) :
    (register.serve policy request).2.Sound policy := by
  cases request with
  | insert memo now => exact sound.insert inOrder
  | lookup query => exact sound.of_sublist (List.Sublist.refl _)
  | expire now => exact sound.of_sublist List.filter_sublist

theorem Sound.serveAll (sound : register.Sound policy) {requests : List Cache.Request}
    (inOrder : register.InOrderAll policy requests) :
    (register.serveAll policy requests).2.Sound policy := by
  induction requests generalizing register with
  | nil => exact sound
  | cons request requests ih => exact ih (sound.serve inOrder.1) inOrder.2

/-! ### Counts only grow -/

theorem counts_le_makeRoom (policy : Policy) (register : Register) (occasion : Occasion) :
    register.counts occasion ≤ (register.makeRoom policy).counts occasion := by
  unfold makeRoom
  split
  · exact counts_le_add _ _ (register.dropFront 1) _
  · exact Nat.le_refl _

theorem counts_le_offer (policy : Policy) (memo : Memo) (now : Tick) (register : Register)
    (occasion : Occasion) :
    register.counts occasion ≤ (register.offer policy memo now).2.counts occasion := by
  cases occupied : register.at? (policy.place memo.query) with
  | none =>
    rw [offer_of_vacant now occupied]
    exact Nat.le_refl _
  | some present =>
    rw [offer_of_occupied now occupied]
    split
    · exact Nat.le_refl _
    · exact counts_le_add _ _ _ _

theorem counts_le_serve (policy : Policy) (request : Cache.Request) (register : Register)
    (occasion : Occasion) :
    register.counts occasion ≤ (register.serve policy request).2.counts occasion := by
  cases request with
  | insert memo now =>
    exact Nat.le_trans (counts_le_makeRoom policy register occasion)
      (counts_le_offer policy memo now _ occasion)
  | lookup query => exact counts_le_add _ _ _ _
  | expire now => exact counts_le_add _ _ { register with entries := _ } _

theorem counts_le_serveAll (policy : Policy) (requests : List Cache.Request)
    (register : Register) (occasion : Occasion) :
    register.counts occasion ≤ (register.serveAll policy requests).2.counts occasion := by
  induction requests generalizing register with
  | nil => exact Nat.le_refl _
  | cons request requests ih =>
    exact Nat.le_trans (counts_le_serve policy request register occasion) (ih _)

end Register

end RouteCache
