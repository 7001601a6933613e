import Mathlib.Data.List.DropRight
import RouteCache.Text

/-!
The language of numerals between white space. A text denotes a number if it is white
space, at most one plus sign, at least one digit and white space, in this order, and
the digits have that decimal value. The reader accepts these texts and no others, and
gives the number denoted when it is below the bound.
-/

namespace RouteCache.Text

/-- The code points with the Unicode property White_Space. -/
def whiteSpace : List Nat :=
  [0x9, 0xA, 0xB, 0xC, 0xD, 0x20, 0x85, 0xA0, 0x1680, 0x2000, 0x2001, 0x2002, 0x2003, 0x2004,
  0x2005, 0x2006, 0x2007, 0x2008, 0x2009, 0x200A, 0x2028, 0x2029, 0x202F, 0x205F, 0x3000]

/-- White space and nothing else. -/
def Blank (text : List Char) : Prop := ∀ c ∈ text, c.toNat ∈ whiteSpace

/-- An optional plus sign and at least one digit, with the decimal value of the
digits. -/
def Unsigned (text : List Char) (value : Nat) : Prop :=
  ∃ sign digits, text = sign ++ digits ∧ (sign = [] ∨ sign = ['+']) ∧ digits ≠ [] ∧
    (∀ c ∈ digits, c.isDigit = true) ∧ value = Nat.ofDigitChars 10 digits 0

/-- A numeral between white space, with its value. -/
def Denotes (text : List Char) (value : Nat) : Prop :=
  ∃ front core back, text = front ++ core ++ back ∧ Blank front ∧ Blank back ∧
    Unsigned core value

/-! White space at the ends -/

theorem isBlank_iff {c : Char} : isBlank c = true ↔ c.toNat ∈ whiteSpace := by
  simp only [isBlank, whiteSpace, Bool.or_eq_true, Bool.and_eq_true, decide_eq_true_eq,
    beq_iff_eq, List.mem_cons, List.not_mem_nil, or_false]
  omega

theorem blank_iff {text : List Char} : Blank text ↔ ∀ c ∈ text, isBlank c = true := by
  simp only [Blank, isBlank_iff]

theorem trim_eq (text : List Char) :
    trim text = (text.dropWhile isBlank).rdropWhile isBlank := rfl

theorem exists_blank_ends (text : List Char) :
    ∃ front back, text = front ++ trim text ++ back ∧ Blank front ∧ Blank back := by
  refine ⟨text.takeWhile isBlank, (text.dropWhile isBlank).rtakeWhile isBlank, ?_, ?_, ?_⟩
  · rw [trim_eq, List.append_assoc, List.rdropWhile_append_rtakeWhile,
      List.takeWhile_append_dropWhile]
  · exact blank_iff.mpr fun c hc => List.mem_takeWhile_imp hc
  · exact blank_iff.mpr fun c hc => List.mem_rtakeWhile_imp hc

/-- Of a text between white space, that has none itself, all is left. -/
theorem trim_between {front core back : List Char} (hfront : Blank front) (hback : Blank back)
    (hcore : ∀ c ∈ core, isBlank c = false) : trim (front ++ core ++ back) = core := by
  rw [blank_iff] at hfront hback
  have hdrop : (front ++ core ++ back).dropWhile isBlank = (core ++ back).dropWhile isBlank := by
    rw [List.append_assoc, List.dropWhile_append_of_pos hfront]
  rw [trim_eq, hdrop]
  cases core with
  | nil =>
    -- all of the text is white space, and is gone after the first removal
    have hnone : back.dropWhile isBlank = [] := List.dropWhile_eq_nil_iff.mpr hback
    rw [List.nil_append, hnone, List.rdropWhile_nil]
  | cons first rest =>
    have hback' : ∀ c ∈ back.reverse, isBlank c = true := fun c hc =>
      hback c (List.mem_reverse.mp hc)
    have hstart : (first :: rest ++ back).dropWhile isBlank = first :: rest ++ back :=
      List.dropWhile_cons_of_neg (by simp [hcore first List.mem_cons_self])
    have hend : (first :: rest ++ back).rdropWhile isBlank =
        (first :: rest).rdropWhile isBlank := by
      rw [List.rdropWhile, List.reverse_append, List.dropWhile_append_of_pos hback',
        ← List.rdropWhile]
    rw [hstart, hend]
    refine List.rdropWhile_eq_self_iff.mpr fun hne => ?_
    rw [hcore _ (List.getLast_mem hne)]
    exact Bool.false_ne_true

/-! Digits -/

theorem digit?_eq_some_iff {c : Char} {value : Nat} :
    digit? c = some value ↔ c.isDigit = true ∧ value = c.toNat - '0'.toNat := by
  rw [Char.isDigit_iff_toNat, digit?, Option.ite_none_right_eq_some, Option.some_inj,
    @eq_comm _ value]

theorem digits?_eq_some_iff {text : List Char} {high value : Nat} :
    digits? high text = some value ↔
      (∀ c ∈ text, c.isDigit = true) ∧ value = Nat.ofDigitChars 10 text high := by
  induction text generalizing high with
  | nil =>
    rw [digits?, Option.some_inj, Nat.ofDigitChars_nil, @eq_comm _ value]
    simp only [List.not_mem_nil, false_imp_iff, implies_true, true_and]
  | cons c rest ih =>
    rw [digits?, Option.bind_eq_some_iff, List.forall_mem_cons, Nat.ofDigitChars_cons]
    constructor
    · rintro ⟨_, hlow, hrest⟩
      obtain ⟨hc, rfl⟩ := digit?_eq_some_iff.mp hlow
      obtain ⟨hdigits, hvalue⟩ := ih.mp hrest
      exact ⟨⟨hc, hdigits⟩, hvalue⟩
    · rintro ⟨⟨hc, hdigits⟩, hvalue⟩
      exact ⟨_, digit?_eq_some_iff.mpr ⟨hc, rfl⟩, ih.mpr ⟨hdigits, hvalue⟩⟩

theorem isBlank_of_isDigit {c : Char} (h : c.isDigit = true) : isBlank c = false := by
  rw [Char.isDigit_iff_toNat] at h
  change 48 ≤ c.toNat ∧ c.toNat ≤ 57 at h
  simp only [isBlank, Bool.or_eq_false_iff, Bool.and_eq_false_iff, decide_eq_false_iff_not,
    beq_eq_false_iff_ne]
  omega

/-! Numerals -/

theorem digits?_filter_eq_some_iff {bound value : Nat} {digits : List Char} :
    (if digits.isEmpty then none else (digits? 0 digits).filter (· < bound)) = some value ↔
      (digits ≠ [] ∧ (∀ c ∈ digits, c.isDigit = true) ∧
        value = Nat.ofDigitChars 10 digits 0) ∧ value < bound := by
  rw [Option.ite_none_left_eq_some, Option.filter_eq_some_iff, digits?_eq_some_iff,
    List.isEmpty_iff, decide_eq_true_iff, and_assoc, and_assoc, and_assoc]

theorem numeral?_eq_some_iff {bound value : Nat} {text : List Char} :
    numeral? bound text = some value ↔ Unsigned text value ∧ value < bound := by
  simp only [numeral?]
  rw [digits?_filter_eq_some_iff]
  refine and_congr_left fun _ => ?_
  split
  · rename_i rest
    constructor
    · intro h
      exact ⟨['+'], rest, rfl, Or.inr rfl, h⟩
    · rintro ⟨sign, digits, htext, rfl | rfl, hne, hdigits, hvalue⟩
      · -- a plus sign is no digit
        obtain rfl : '+' :: rest = digits := htext
        exact absurd (hdigits '+' List.mem_cons_self) (by decide)
      · obtain rfl : rest = digits := (List.cons.inj htext).2
        exact ⟨hne, hdigits, hvalue⟩
  · rename_i hplus
    constructor
    · intro h
      exact ⟨[], text, rfl, Or.inl rfl, h⟩
    · rintro ⟨sign, digits, htext, rfl | rfl, h⟩
      · obtain rfl : text = digits := htext
        exact h
      · exact absurd htext (hplus digits)

theorem Unsigned.not_blank {text : List Char} {value : Nat} (h : Unsigned text value) :
    ∀ c ∈ text, isBlank c = false := by
  obtain ⟨sign, digits, rfl, hsign, -, hdigits, -⟩ := h
  intro c hc
  rcases List.mem_append.mp hc with hc | hc
  · obtain rfl | rfl := hsign
    · cases hc
    · obtain rfl := List.mem_singleton.mp hc
      decide
  · exact isBlank_of_isDigit (hdigits c hc)

/-- The text between the white space decides what is denoted. -/
theorem denotes_iff_unsigned_trim {text : List Char} {value : Nat} :
    Denotes text value ↔ Unsigned (trim text) value := by
  constructor
  · rintro ⟨front, core, back, rfl, hfront, hback, hcore⟩
    rwa [trim_between hfront hback hcore.not_blank]
  · intro h
    obtain ⟨front, back, htext, hfront, hback⟩ := exists_blank_ends text
    exact ⟨front, trim text, back, htext, hfront, hback, h⟩

theorem numeral?_trim_eq_some_iff {bound value : Nat} {text : List Char} :
    numeral? bound (trim text) = some value ↔ Denotes text value ∧ value < bound := by
  rw [numeral?_eq_some_iff, denotes_iff_unsigned_trim]

theorem denotes_repr {front back : List Char} (hfront : Blank front) (hback : Blank back)
    (value : Nat) : Denotes (front ++ value.repr.toList ++ back) value := by
  rw [Nat.toList_repr]
  exact ⟨front, Nat.toDigits 10 value, back, rfl, hfront, hback, [], Nat.toDigits 10 value, rfl,
    Or.inl rfl, Nat.toDigits_ne_nil,
    fun c hc => Nat.isDigit_of_mem_toDigits (by decide) (by decide) hc,
    Nat.ofDigitChars_ten_toDigits.symm⟩

end RouteCache.Text
