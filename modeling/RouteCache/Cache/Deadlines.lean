import RouteCache.Fault

/-!
Deadlines wait in the order in which their memos were stored. A deadline is only
ever appended behind one that is not later, so the overdue ones stand together at
the front.
-/

namespace RouteCache

/-- The slot of a memo and the last tick at which the memo is kept. -/
structure Deadline where
  slot : Slot
  last : Tick
deriving DecidableEq

/-- Deadlines, the oldest first. -/
structure Deadlines where
  records : List Deadline := []
deriving DecidableEq

namespace Deadlines

def empty : Deadlines := {}

def size (deadlines : Deadlines) : Nat := deadlines.records.length

def front? (deadlines : Deadlines) : Option Deadline := deadlines.records.head?

def back? (deadlines : Deadlines) : Option Deadline := deadlines.records.getLast?

/-- Whether a deadline may stand behind the newest one. -/
def admits (deadlines : Deadlines) (deadline : Deadline) : Bool :=
  deadlines.back?.all fun newest => decide (newest.last ≤ deadline.last)

/-- Appends a deadline, unless the newest one is later. -/
def push? (deadlines : Deadlines) (deadline : Deadline) : Option Deadlines :=
  if deadlines.admits deadline then some ⟨deadlines.records ++ [deadline]⟩ else none

def pop? (deadlines : Deadlines) : Option (Deadline × Deadlines) :=
  match deadlines.records with
  | [] => none
  | oldest :: others => some (oldest, ⟨others⟩)

/-- The number of deadlines at the front that have passed. -/
def overdue (deadlines : Deadlines) (now : Tick) : Nat :=
  (deadlines.records.takeWhile fun deadline => decide (deadline.last < now)).length

theorem push?_eq_some_iff {deadlines after : Deadlines} {deadline : Deadline} :
    deadlines.push? deadline = some after ↔
      (∀ newest, deadlines.back? = some newest → newest.last ≤ deadline.last) ∧
        after.records = deadlines.records ++ [deadline] := by
  have admitted : deadlines.admits deadline = true ↔
      ∀ newest, deadlines.back? = some newest → newest.last ≤ deadline.last := by
    unfold admits
    cases deadlines.back? <;> simp
  rw [← admitted]
  unfold push?
  cases deadlines.admits deadline with
  | false => simp
  | true =>
    obtain ⟨records⟩ := after
    simp [eq_comm]

end Deadlines

end RouteCache
