import Mathlib.Algebra.BigOperators.Group.List.Basic
import Mathlib.Algebra.Ring.Nat
import RouteCache.Cache.Tally
import RouteCache.Proofs.Sequence

/-!
The sum of many tallies. It is the sum in the natural numbers, field by field, and it
exists exactly when each of those sums is a word. Nothing else decides it, so neither
the order of the tallies nor the sums on the way matter.
-/

namespace RouteCache

namespace Tally

theorem ext_of_number {a b : Tally}
    (same : ∀ occasion, (a.number occasion).toNat = (b.number occasion).toNat)
    (held : a.held.toNat = b.held.toNat) : a = b := by
  have field (occasion : Occasion) : a.number occasion = b.number occasion :=
    UInt64.toNat_inj.mp (same occasion)
  obtain ⟨hits, misses, collisions, evictions, expirations, size⟩ := a
  obtain ⟨hits', misses', collisions', evictions', expirations', size'⟩ := b
  obtain rfl : hits = hits' := field .hit
  obtain rfl : misses = misses' := field .miss
  obtain rfl : collisions = collisions' := field .collision
  obtain rfl : evictions = evictions' := field .eviction
  obtain rfl : expirations = expirations' := field .expiration
  obtain rfl : size = size' := UInt64.toNat_inj.mp held
  rfl

theorem exists_of_lt {numbers : Occasion → Nat} {held : Nat}
    (words : ∀ occasion, numbers occasion < UInt64.size) (word : held < UInt64.size) :
    ∃ tally : Tally, (∀ occasion, (tally.number occasion).toNat = numbers occasion) ∧
      tally.held.toNat = held := by
  let field (occasion : Occasion) : UInt64 := UInt64.ofNat (numbers occasion)
  refine ⟨⟨field .hit, field .miss, field .collision, field .eviction, field .expiration,
    UInt64.ofNat held⟩, ?_, UInt64.toNat_ofNat_of_lt' word⟩
  intro occasion
  cases occasion <;> exact UInt64.toNat_ofNat_of_lt' (words _)

/-- Two tallies have a sum, and it is that one, when it is the sum of every field. -/
theorem add_eq_ok_iff {a b sum : Tally} :
    a.add b = .ok sum ↔
      (∀ occasion, (sum.number occasion).toNat =
        (a.number occasion).toNat + (b.number occasion).toNat) ∧
      sum.held.toNat = a.held.toNat + b.held.toNat := by
  unfold add
  simp only [except_bind_eq_ok_iff, checkedAdd_eq_ok_iff]
  constructor
  · rintro ⟨hits, hit, misses, miss, collisions, collision, evictions, eviction, expirations,
      expiration, held, size, same⟩
    cases same
    refine ⟨?_, size⟩
    intro occasion
    cases occasion
    · exact hit
    · exact miss
    · exact collision
    · exact eviction
    · exact expiration
  · rintro ⟨fields, size⟩
    exact ⟨_, fields .hit, _, fields .miss, _, fields .collision, _, fields .eviction, _,
      fields .expiration, _, size, rfl⟩

theorem foldlM_add_eq_ok_iff {tallies : List Tally} {start sum : Tally} :
    tallies.foldlM add start = .ok sum ↔
      (∀ occasion, (sum.number occasion).toNat = (start.number occasion).toNat +
        (tallies.map fun tally => (tally.number occasion).toNat).sum) ∧
      sum.held.toNat = start.held.toNat + (tallies.map (·.held.toNat)).sum := by
  induction tallies generalizing start with
  | nil =>
    simp only [List.foldlM_nil, List.map_nil, List.sum_nil, Nat.add_zero]
    constructor
    · intro same
      cases same
      exact ⟨fun _ => rfl, rfl⟩
    · rintro ⟨same, held⟩
      exact congrArg Except.ok (ext_of_number same held).symm
  | cons tally tallies ih =>
    simp only [List.foldlM_cons, except_bind_eq_ok_iff, ih, add_eq_ok_iff, List.map_cons,
      List.sum_cons]
    constructor
    · rintro ⟨between, ⟨first, size⟩, others, held⟩
      refine ⟨?_, by omega⟩
      intro occasion
      have one := first occasion
      have more := others occasion
      omega
    · rintro ⟨fields, size⟩
      -- no field of the first sum exceeds that of the whole one, which is a word
      have words (occasion : Occasion) :
          (start.number occasion).toNat + (tally.number occasion).toNat < UInt64.size := by
        have field := fields occasion
        have word := (sum.number occasion).toNat_lt_size
        omega
      have word := sum.held.toNat_lt_size
      obtain ⟨between, first, held⟩ := exists_of_lt words
        (show start.held.toNat + tally.held.toNat < UInt64.size by omega)
      refine ⟨between, ⟨first, held⟩, ?_, by omega⟩
      intro occasion
      have field := fields occasion
      have one := first occasion
      omega

theorem total_eq_ok_iff {tallies : List Tally} {sum : Tally} :
    total tallies = .ok sum ↔
      (∀ occasion, (sum.number occasion).toNat =
        (tallies.map fun tally => (tally.number occasion).toNat).sum) ∧
      sum.held.toNat = (tallies.map (·.held.toNat)).sum := by
  have zero (occasion : Occasion) : (({} : Tally).number occasion).toNat = 0 := by
    cases occasion <;> rfl
  have none : ({} : Tally).held.toNat = 0 := rfl
  unfold total
  rw [foldlM_add_eq_ok_iff]
  simp only [zero, none, Nat.zero_add]

theorem total_eq_ok_iff_of_perm {first second : List Tally} (same : first.Perm second)
    {sum : Tally} : total first = .ok sum ↔ total second = .ok sum := by
  have field (weight : Tally → Nat) : (first.map weight).sum = (second.map weight).sum :=
    (same.map weight).sum_nat
  simp only [total_eq_ok_iff, field]

/-- There is a total unless the sum of some field is too large for a word. -/
theorem exists_total_iff {tallies : List Tally} :
    (∃ sum, total tallies = .ok sum) ↔
      (∀ occasion,
        (tallies.map fun tally => (tally.number occasion).toNat).sum < UInt64.size) ∧
      (tallies.map (·.held.toNat)).sum < UInt64.size := by
  simp only [total_eq_ok_iff]
  constructor
  · rintro ⟨sum, fields, held⟩
    refine ⟨?_, held ▸ sum.held.toNat_lt_size⟩
    intro occasion
    rw [← fields occasion]
    exact (sum.number occasion).toNat_lt_size
  · rintro ⟨words, word⟩
    exact exists_of_lt words word

/-! ### Tallies without a total -/

/-- Whether the sum of some field is too large for a word. -/
def Overflow (tallies : List Tally) : Prop :=
  (∃ occasion,
    UInt64.size ≤ (tallies.map fun tally => (tally.number occasion).toNat).sum) ∨
  UInt64.size ≤ (tallies.map (·.held.toNat)).sum

theorem overflow_iff {tallies : List Tally} :
    Overflow tallies ↔ ¬∃ sum, total tallies = .ok sum := by
  rw [exists_total_iff, not_and_or, not_forall]
  simp only [Nat.not_lt]
  rfl

/-- A reckoning that has no fault but an addition that overflows. -/
def OnlyOverflows {α : Type} (reckoned : Except Fault α) : Prop :=
  ∀ fault, reckoned = .error fault → fault = .additionOverflow

theorem OnlyOverflows.bind {α β : Type} {first : Except Fault α} {next : α → Except Fault β}
    (h : OnlyOverflows first) (hnext : ∀ value, OnlyOverflows (next value)) :
    OnlyOverflows (first >>= next) := by
  intro fault failed
  rcases except_bind_eq_error_iff.mp failed with early | ⟨value, _, late⟩
  · exact h fault early
  · exact hnext value fault late

theorem onlyOverflows_ok {α : Type} (value : α) : OnlyOverflows (.ok value) := by
  intro fault failed
  cases failed

theorem onlyOverflows_checkedAdd (a b : UInt64) : OnlyOverflows (checkedAdd a b) :=
  fun _ failed => (checkedAdd_eq_error_iff.mp failed).1

theorem onlyOverflows_add (a b : Tally) : OnlyOverflows (a.add b) := by
  unfold add
  refine (onlyOverflows_checkedAdd _ _).bind fun hits => ?_
  refine (onlyOverflows_checkedAdd _ _).bind fun misses => ?_
  refine (onlyOverflows_checkedAdd _ _).bind fun collisions => ?_
  refine (onlyOverflows_checkedAdd _ _).bind fun evictions => ?_
  refine (onlyOverflows_checkedAdd _ _).bind fun expirations => ?_
  exact (onlyOverflows_checkedAdd _ _).bind fun held => onlyOverflows_ok _

theorem onlyOverflows_total (tallies : List Tally) : OnlyOverflows (total tallies) := by
  unfold total
  generalize ({} : Tally) = start
  induction tallies generalizing start with
  | nil => exact onlyOverflows_ok start
  | cons tally tallies ih =>
    rw [List.foldlM_cons]
    exact (onlyOverflows_add start tally).bind ih

theorem total_eq_error_iff {tallies : List Tally} {fault : Fault} :
    total tallies = .error fault ↔ fault = .additionOverflow ∧ Overflow tallies := by
  rw [overflow_iff]
  constructor
  · intro failed
    refine ⟨onlyOverflows_total tallies fault failed, ?_⟩
    rintro ⟨sum, added⟩
    rw [failed] at added
    cases added
  · rintro ⟨rfl, none⟩
    cases result : total tallies with
    | ok sum => exact absurd ⟨sum, result⟩ none
    | error cause => rw [onlyOverflows_total tallies cause result]

/-- The order of the tallies decides neither whether there is a total nor which. -/
theorem total_eq_of_perm {first second : List Tally} (same : first.Perm second) :
    total first = total second := by
  cases result : total second with
  | ok sum => exact (total_eq_ok_iff_of_perm same).mpr result
  | error fault =>
    rw [total_eq_error_iff, overflow_iff] at result ⊢
    simp only [total_eq_ok_iff_of_perm same]
    exact result

end Tally

end RouteCache
