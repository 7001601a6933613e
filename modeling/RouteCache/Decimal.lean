/-!
Binary floating point as exact arithmetic, and its decimal text. The bits of a value are
read as a natural mantissa times a power of two, and everything that is said about its
text is said about those two numbers.
-/

namespace RouteCache.Decimal

/-- The natural number nearest to `numerator / denominator`. Of two that are
equally near it is the even one. -/
def nearestEven (numerator denominator : Nat) : Nat :=
  let below := numerator / denominator
  let rest := 2 * (numerator % denominator)
  if rest < denominator ∨ (rest = denominator ∧ below % 2 = 0) then below else below + 1

example : nearestEven 25 2 = 12 ∧ nearestEven 1 2 = 0 ∧ nearestEven 75 2 = 38 := by decide

/-! ### Binary values -/

/-- A binary interchange format, by the widths of its two lower fields. -/
structure Format where
  fractionBits : Nat
  exponentBits : Nat

def Format.single : Format := ⟨23, 8⟩

def Format.double : Format := ⟨52, 11⟩

/-- The number `mantissa * 2 ^ scale`. The value below it may be nearer than the
value above it: this is so at the powers of two, and is recorded here. -/
structure Magnitude where
  mantissa : Nat
  scale : Int
  narrowBelow : Bool
deriving DecidableEq

/-- What a pattern of bits stands for. -/
inductive Value where
  | nan
  | infinite (negative : Bool)
  | finite (negative : Bool) (magnitude : Magnitude)
deriving DecidableEq

/-- The scale of the least positive value of a format. -/
def Format.leastScale (format : Format) : Int :=
  2 - Int.pow 2 (format.exponentBits - 1) - format.fractionBits

/-- Reads a pattern of bits. An exponent field of ones marks the values that are
no numbers, and one of zeros the values without a leading one. -/
def Format.decode (format : Format) (bits : Nat) : Value :=
  let fraction := bits % Nat.pow 2 format.fractionBits
  let exponent := bits / Nat.pow 2 format.fractionBits % Nat.pow 2 format.exponentBits
  let negative := bits / Nat.pow 2 (format.fractionBits + format.exponentBits) % 2 == 1
  if exponent = Nat.pow 2 format.exponentBits - 1 then
    if fraction = 0 then .infinite negative else .nan
  else if exponent = 0 then
    .finite negative ⟨fraction, format.leastScale, false⟩
  else
    .finite negative
      ⟨Nat.pow 2 format.fractionBits + fraction, format.leastScale + (exponent - 1 : Int),
        fraction == 0 && exponent > 1⟩

/-- The greatest natural number that is not above the magnitude. -/
def Magnitude.floor (x : Magnitude) : Nat :=
  x.mantissa * Nat.pow 2 x.scale.toNat / Nat.pow 2 (-x.scale).toNat

/-!
### The fewest digits

The reals that round to a value form an interval around it. Decimals with one digit, then
two, and so on are tried until one of the two neighbours of the value on the decimal grid
lies in that interval. All comparisons are exact.
-/

/-- The number `digits * 10 ^ exponent`. -/
structure Digits where
  digits : Nat
  exponent : Int
deriving DecidableEq

/-- Compares `a * 10 ^ i` with `n * 2 ^ j`. -/
def compareScaled (a : Nat) (i : Int) (n : Nat) (j : Int) : Ordering :=
  compare (a * Nat.pow 10 i.toNat * Nat.pow 2 (-j).toNat)
    (n * Nat.pow 2 j.toNat * Nat.pow 10 (-i).toNat)

/-- Whether the decimal lies among the reals that round to `x`. The ends of the
interval belong to it when the mantissa is even. -/
def Magnitude.readsBack (x : Magnitude) (decimal : Digits) : Bool :=
  let lower := if x.narrowBelow then 4 * x.mantissa - 1 else 4 * x.mantissa - 2
  let upper := 4 * x.mantissa + 2
  let closed := x.mantissa % 2 == 0
  let fromLower := compareScaled decimal.digits decimal.exponent lower (x.scale - 2)
  let fromUpper := compareScaled decimal.digits decimal.exponent upper (x.scale - 2)
  (fromLower == .gt || (closed && fromLower == .eq)) &&
    (fromUpper == .lt || (closed && fromUpper == .eq))

/-- The least power of ten above `x`, as an exponent. The estimate from the
binary logarithm is too small by one or two, so a few steps up correct it. -/
def Magnitude.decimalScale (x : Magnitude) : Int :=
  let estimate := ((x.mantissa.log2 : Int) + x.scale) * 30103 / 100000 - 1
  let rec climb : Nat → Int → Int
    | 0, k => k
    | steps + 1, k =>
      if compareScaled 1 k x.mantissa x.scale == .gt then k else climb steps (k + 1)
  climb 5 estimate

/-- The value divided by `10 ^ grid`, as a fraction of natural numbers. -/
def Magnitude.over (x : Magnitude) (grid : Int) : Nat × Nat :=
  (x.mantissa * Nat.pow 2 x.scale.toNat * Nat.pow 10 (-grid).toNat,
    Nat.pow 2 (-x.scale).toNat * Nat.pow 10 grid.toNat)

/-- A decimal on the grid `10 ^ grid` that reads back to `x`: the nearer one of
the two neighbours, and of two equally near ones the even one. -/
def Magnitude.onGrid? (x : Magnitude) (grid : Int) : Option Digits :=
  let (numerator, denominator) := x.over grid
  let below := numerator / denominator
  let rest := 2 * (numerator % denominator)
  let lower : Digits := ⟨below, grid⟩
  let upper : Digits := ⟨below + 1, grid⟩
  match x.readsBack lower, x.readsBack upper with
  | true, true =>
    if rest < denominator ∨ (rest = denominator ∧ below % 2 = 0) then some lower
    else some upper
  | true, false => some lower
  | false, true => some upper
  | false, false => none

/-- Moves zeros at the end of the digits into the exponent. -/
def Digits.trimmed : Nat → Digits → Digits
  | 0, d => d
  | steps + 1, d =>
    if d.digits % 10 = 0 then Digits.trimmed steps ⟨d.digits / 10, d.exponent + 1⟩ else d

/-- The value itself as a decimal: every binary fraction is one. -/
def Magnitude.exact (x : Magnitude) : Digits :=
  ⟨x.mantissa * Nat.pow 2 x.scale.toNat * Nat.pow 5 (-x.scale).toNat, min x.scale 0⟩

/-- The fewest digits that read back to `x`, which is not zero. -/
def Magnitude.shortest (x : Magnitude) : Digits :=
  let scale := x.decimalScale
  let rec search : Nat → Int → Digits
    | 0, _ => x.exact
    | steps + 1, places =>
      match x.onGrid? (scale - places) with
      | some decimal => decimal.trimmed 20
      | none => search steps (places + 1)
  search 17 1

/-!
### Layout

Where positional notation ends and how an exponent is written. The decisions are one
record, so that an output format states its own.
-/

/-- The decisions of one output format. A number is written positionally when its
scientific exponent is at least `least` and below `bound`. -/
structure Notation where
  least : Int
  bound : Int
  plusSign : Bool

/-- Decimal digits with a point after the first `whole` of them. There is a digit
on either side of the point. -/
def positional (digits : List Char) (whole : Int) : List Char :=
  if whole ≤ 0 then
    '0' :: '.' :: List.replicate (-whole).toNat '0' ++ digits
  else if digits.length ≤ whole.toNat then
    digits ++ List.replicate (whole.toNat - digits.length) '0' ++ ['.', '0']
  else
    digits.take whole.toNat ++ '.' :: digits.drop whole.toNat

/-- Decimal digits with a point after the first of them, if there are more, and an
exponent. -/
def scientific (plusSign : Bool) (digits : List Char) (exponent : Int) : List Char :=
  let fraction := if digits.length ≤ 1 then [] else '.' :: digits.drop 1
  let sign := if exponent < 0 then ['-'] else if plusSign then ['+'] else []
  digits.take 1 ++ fraction ++ 'e' :: sign ++ (toString exponent.natAbs).toList

/-- The text of a positive decimal. -/
def Notation.layOut (rules : Notation) (decimal : Digits) : List Char :=
  let digits := (toString decimal.digits).toList
  let exponent := decimal.exponent + digits.length - 1
  if rules.least ≤ exponent ∧ exponent < rules.bound then
    positional digits (exponent + 1)
  else
    scientific rules.plusSign digits exponent

/-- The text of a finite value: a sign if the sign bit is set, also at zero, and
the fewest digits that read back. -/
def Notation.text (rules : Notation) (negative : Bool) (x : Magnitude) : String :=
  let sign := if negative then ['-'] else []
  let digits := if x.mantissa = 0 then ['0', '.', '0'] else rules.layOut x.shortest
  String.ofList (sign ++ digits)

end RouteCache.Decimal
