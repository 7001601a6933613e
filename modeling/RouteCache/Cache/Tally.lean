import RouteCache.Arithmetic
import RouteCache.Decimal

/-!
What a cache has done so far. Each counter is a word and every addition to it is
checked. The number of memos held is not counted but set.
-/

namespace RouteCache

structure Tally where
  hits : UInt64 := 0
  misses : UInt64 := 0
  collisions : UInt64 := 0
  evictions : UInt64 := 0
  expirations : UInt64 := 0
  held : UInt64 := 0
deriving DecidableEq, Inhabited

inductive Occasion where
  /-- A query was answered by a memo. -/
  | hit
  /-- A query was not answered. -/
  | miss
  /-- A memo was refused because another query has its slot. -/
  | collision
  /-- A memo was dropped to make room. -/
  | eviction
  /-- A memo was dropped because its time had passed. -/
  | expiration
deriving DecidableEq

namespace Tally

/-- How often an occasion was counted. -/
def number (tally : Tally) : Occasion → UInt64
  | .hit => tally.hits
  | .miss => tally.misses
  | .collision => tally.collisions
  | .eviction => tally.evictions
  | .expiration => tally.expirations

def count (tally : Tally) : Occasion → Except Fault Tally
  | .hit => (checkedAdd tally.hits 1).map ({ tally with hits := · })
  | .miss => (checkedAdd tally.misses 1).map ({ tally with misses := · })
  | .collision => (checkedAdd tally.collisions 1).map ({ tally with collisions := · })
  | .eviction => (checkedAdd tally.evictions 1).map ({ tally with evictions := · })
  | .expiration => (checkedAdd tally.expirations 1).map ({ tally with expirations := · })

/-- Counting adds one to the number of its occasion and changes nothing else. -/
theorem number_of_count {tally after : Tally} {occasion : Occasion}
    (h : tally.count occasion = .ok after) :
    (after.number occasion).toNat = (tally.number occasion).toNat + 1 ∧
      (∀ other, other ≠ occasion → after.number other = tally.number other) ∧
      after.held = tally.held := by
  cases occasion <;>
  · simp only [count, Except.map] at h
    split at h
    · cases h
    · rename_i sum added
      cases h
      refine ⟨?_, ?_, rfl⟩
      · exact checkedAdd_eq_ok_iff.1 added
      · intro other differs
        cases other <;> simp_all [number]

/-- Counting fails only when the counter is full. -/
theorem count_eq_error {tally : Tally} {occasion : Occasion} {fault : Fault}
    (h : tally.count occasion = .error fault) :
    fault = .additionOverflow ∧ UInt64.size ≤ (tally.number occasion).toNat + 1 := by
  cases occasion <;>
  · simp only [count, Except.map] at h
    split at h
    · rename_i cause refused
      cases h
      exact checkedAdd_eq_error_iff.1 refused
    · cases h

def withHeld (tally : Tally) (size : Nat) : Tally := { tally with held := UInt64.ofNat size }

/-- Adds two tallies field by field. The first field whose sum is no word decides. -/
def add (a b : Tally) : Except Fault Tally := do
  let hits ← checkedAdd a.hits b.hits
  let misses ← checkedAdd a.misses b.misses
  let collisions ← checkedAdd a.collisions b.collisions
  let evictions ← checkedAdd a.evictions b.evictions
  let expirations ← checkedAdd a.expirations b.expirations
  let held ← checkedAdd a.held b.held
  return { hits, misses, collisions, evictions, expirations, held }

/-- The sum of many tallies, from the left. -/
def total (tallies : List Tally) : Except Fault Tally := tallies.foldlM add {}

/-- The share of lookups that were hits, in percent, and zero before any lookup. -/
def percentage (tally : Tally) : Except Fault Float := do
  let lookups ← checkedAdd tally.hits tally.misses
  if lookups = 0 then return 0
  else return tally.hits.toFloat * 100 / lookups.toFloat

/-- A percentage as a whole number, half to even, with the percent sign. -/
def percentText (percentage : Float) : String :=
  match Decimal.Format.double.decode percentage.toBits.toNat with
  | .finite _ x =>
    let rounded :=
      Decimal.nearestEven (x.mantissa * Nat.pow 2 x.scale.toNat) (Nat.pow 2 (-x.scale).toNat)
    toString rounded ++ "%"
  | _ => "NaN%"

end Tally

end RouteCache
