import RouteCache.Grid.Slot

/-!
A memo answers every query for the same trip, whatever the radius. Answers are
exact all the same when the placement keeps the radii of one trip apart. The grid
does: its radius term is a product with an odd factor, so it can be undone, and the
other terms are equal for queries of one trip and cancel.
-/

namespace RouteCache

/-- Two queries for the same trip share a slot only if they are equal. -/
def Placement.SeparatesRadii (place : Placement) : Prop :=
  ∀ q r : Query, q.sameTrip r = true → place q = place r → q = r

theorem Query.sameTrip_iff {q r : Query} :
    q.sameTrip r = true ↔ q.start = r.start ∧ q.goal = r.goal ∧ q.mover = r.mover := by
  unfold sameTrip
  simp only [Bool.and_eq_true, decide_eq_true_eq, and_assoc]

theorem Query.sameTrip_self (q : Query) : q.sameTrip q = true :=
  sameTrip_iff.mpr ⟨rfl, rfl, rfl⟩

namespace Grid

theorem swapHalves_swapHalves (word : UInt64) : swapHalves (swapHalves word) = word := by
  apply UInt64.toBitVec_inj.mp
  apply BitVec.eq_of_getLsbD_eq
  intro i hi
  have h32 : (UInt64.toBitVec 32) % 64 = 32#64 := by decide
  simp only [swapHalves, UInt64.toBitVec_or, UInt64.toBitVec_shiftLeft,
    UInt64.toBitVec_shiftRight, h32, BitVec.shiftLeft_eq', BitVec.ushiftRight_eq',
    BitVec.toNat_ofNat, BitVec.getLsbD_or, BitVec.getLsbD_shiftLeft, BitVec.getLsbD_ushiftRight]
  rcases Nat.lt_or_ge i 32 with low | high
  · have inside : 32 + i < 64 := by omega
    have outside : 64 ≤ 32 + (32 + i) := by omega
    simp [hi, low, inside, BitVec.getLsbD_of_ge word.toBitVec _ outside]
  · have back : 32 + (i - 32) = i := by omega
    have lower : i - 32 < 32 := by omega
    have outside : 64 ≤ 32 + i := by omega
    simp [hi, Nat.not_lt.mpr high, back, lower, Nat.not_lt.mpr outside,
      BitVec.getLsbD_of_ge word.toBitVec _ (Nat.le_trans outside (Nat.le_add_left _ 32))]

/-- The factor of the radius is odd, so the radius can be read off the product. -/
theorem spreadRadius_injective {a b : Single} (h : spreadRadius a = spreadRadius b) : a = b := by
  have unit : (0x9E3779B97F4A7C15 : UInt64) * 0xF1DE83E19937733D = 1 := by decide
  have undone : a.bits.toUInt64 = b.bits.toUInt64 := by
    have product := congrArg (· * (0xF1DE83E19937733D : UInt64)) h
    simpa only [spreadRadius, UInt64.mul_assoc, unit, UInt64.mul_one] using product
  have bits : a.bits = b.bits := UInt32.toUInt64_inj.mp undone
  cases a
  cases b
  exact congrArg Single.mk bits

/-- The grid keeps the radii of one trip apart, for all dimensions and all cells. -/
theorem slot_separatesRadii (grid : Grid) : Placement.SeparatesRadii grid.slot := by
  intro q r trip shared
  obtain ⟨start, goal, mover⟩ := Query.sameTrip_iff.mp trip
  have base : grid.base q = grid.base r := by
    unfold Grid.base
    rw [start, goal]
  have swapped : swapHalves (spreadRadius q.radius) = swapHalves (spreadRadius r.radius) := by
    unfold slot at shared
    rw [base, mover] at shared
    have cancelled := (UInt64.xor_left_inj _).mp shared
    exact (UInt64.xor_right_inj _).mp cancelled
  have radius : q.radius = r.radius := by
    apply spreadRadius_injective
    have back := congrArg swapHalves swapped
    rwa [swapHalves_swapHalves, swapHalves_swapHalves] at back
  cases q
  cases r
  simp_all

end Grid

end RouteCache
