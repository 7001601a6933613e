import RouteCache.Fault

/-!
Arithmetic of fixed width. Counters are checked: a sum that does not fit into 64
bits is a fault. Deadlines are capped: such a sum stays at the greatest word.
Coordinates are reckoned in the integers and held to 32 signed bits after every
single operation, so that the first operation that leaves the range decides the
fault.
-/

namespace RouteCache

/-- The sum of two counters, if it is a word. -/
def checkedAdd (a b : UInt64) : Except Fault UInt64 :=
  if a.toNat + b.toNat < UInt64.size then .ok (a + b) else .error .additionOverflow

/-- The sum of two words, or the greatest word if the sum is none. -/
def cappedAdd (a b : UInt64) : UInt64 :=
  if a.toNat + b.toNat < UInt64.size then a + b else 0xFFFFFFFFFFFFFFFF

theorem toNat_cappedAdd (a b : UInt64) :
    (cappedAdd a b).toNat = min (a.toNat + b.toNat) (UInt64.size - 1) := by
  unfold cappedAdd
  split
  · rename_i fits
    rw [UInt64.toNat_add, Nat.mod_eq_of_lt fits]
    omega
  · rename_i tooLarge
    have top : (0xFFFFFFFFFFFFFFFF : UInt64).toNat = UInt64.size - 1 := rfl
    rw [top]
    omega

/-- A checked sum succeeds with exactly the word that is the sum. -/
theorem checkedAdd_eq_ok_iff {a b c : UInt64} :
    checkedAdd a b = .ok c ↔ c.toNat = a.toNat + b.toNat := by
  unfold checkedAdd
  split
  · rename_i fits
    have exact : (a + b).toNat = a.toNat + b.toNat := by
      rw [UInt64.toNat_add, Nat.mod_eq_of_lt fits]
    constructor
    · intro h
      cases h
      exact exact
    · intro h
      exact congrArg Except.ok (UInt64.toNat_inj.1 (exact.trans h.symm))
  · rename_i tooLarge
    have bound : c.toNat < UInt64.size := c.toNat_lt
    constructor
    · intro h
      cases h
    · intro h
      omega

/-- A checked sum fails with one fault, and only when the sum is no word. -/
theorem checkedAdd_eq_error_iff {a b : UInt64} {fault : Fault} :
    checkedAdd a b = .error fault ↔
      fault = .additionOverflow ∧ UInt64.size ≤ a.toNat + b.toNat := by
  unfold checkedAdd
  split
  · rename_i fits
    constructor
    · intro h
      cases h
    · rintro ⟨_, tooLarge⟩
      omega
  · rename_i tooLarge
    constructor
    · intro h
      cases h
      exact ⟨rfl, Nat.le_of_not_lt tooLarge⟩
    · rintro ⟨rfl, _⟩
      rfl

/-- The integers of 32 signed bits. -/
def Fits32 (value : Int) : Prop := -2147483648 ≤ value ∧ value < 2147483648

instance (value : Int) : Decidable (Fits32 value) :=
  inferInstanceAs (Decidable (_ ∧ _))

/-- The value itself if it fits into 32 signed bits, else the given fault. -/
def within32 (fault : Fault) (value : Int) : Except Fault Int :=
  if Fits32 value then .ok value else .error fault

theorem within32_eq_ok_iff {fault : Fault} {value result : Int} :
    within32 fault value = .ok result ↔ result = value ∧ Fits32 value := by
  unfold within32
  split
  · rename_i fits
    constructor
    · intro h
      cases h
      exact ⟨rfl, fits⟩
    · rintro ⟨rfl, _⟩
      rfl
  · rename_i outside
    constructor
    · intro h
      cases h
    · rintro ⟨_, fits⟩
      exact absurd fits outside

/-- The integer of 32 signed bits that agrees with a number in its low 32 bits. -/
def wrap32 (number : Nat) : Int := Int.bmod number 4294967296

/-- The remainder toward zero, which has the sign of the dividend. -/
def checkedRem (dividend divisor : Int) : Except Fault Int :=
  if divisor = 0 then .error .zeroDivisor else .ok (dividend.tmod divisor)

end RouteCache
