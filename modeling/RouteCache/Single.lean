import RouteCache.Decimal

/-!
Floating point values of 32 bits, kept as their bits. Two of them are equal as
values of this type when all bits agree, which is what makes a query the same as
another one. Comparison as numbers is a second, coarser relation: it identifies
the two zeros and sets a value that is no number apart from itself.
-/

namespace RouteCache

/-- A floating point value of 32 bits. -/
structure Single where
  bits : UInt32
deriving DecidableEq, Inhabited

namespace Single

def zero : Single := ⟨0⟩

def eight : Single := ⟨0x41000000⟩

def value (x : Single) : Decimal.Value := Decimal.Format.single.decode x.bits.toNat

/-- The bits below the sign. -/
def magnitudeBits (x : Single) : Nat := x.bits.toNat % Nat.pow 2 31

/-- An exponent field of ones above a fraction that is not zero. -/
def isNaN (x : Single) : Bool := 0x7F800000 < x.magnitudeBits

def isZero (x : Single) : Bool := x.magnitudeBits == 0

/-- Equality as numbers. -/
def sameNumber (x y : Single) : Bool :=
  !x.isNaN && !y.isNaN && (x.bits == y.bits || (x.isZero && y.isZero))

/-- The bits of the value nearest to a positive natural number, ties to even. A
mantissa that rounds up to a power of two carries into the exponent field. -/
def roundedBits (n : Nat) : Nat :=
  let exponent := n.log2
  let mantissa := Decimal.nearestEven (n * Nat.pow 2 23) (Nat.pow 2 exponent)
  if exponent < 128 then (exponent + 126) * Nat.pow 2 23 + mantissa else 0x7F800000

/-- The value nearest to an integer, ties to even. -/
def ofInt (n : Int) : Single :=
  if n = 0 then zero
  else
    let sign := if n < 0 then 0x80000000 else 0
    ⟨UInt32.ofNat (sign + roundedBits n.natAbs)⟩

/-- The whole part of the absolute value, and zero for values that are no finite
numbers. -/
def wholePart (x : Single) : Nat :=
  match x.value with
  | .finite _ magnitude => magnitude.floor
  | _ => 0

end Single

end RouteCache
