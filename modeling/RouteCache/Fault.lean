/-!
The ways in which a running cache, a search or the simulation can stop. A fault
is a cause; its wording is fixed once, in `Fault.message`. Slots and ticks are
words of 64 bits and are named here because every later module speaks of them.
-/

namespace RouteCache

/-- A place on the shelf of a cache, computed from a query. -/
abbrev Slot := UInt64

/-- A point of simulated time. -/
abbrev Tick := UInt64

/-- Why an operation stopped before it could answer. -/
inductive Fault where
  | additionOverflow
  | subtractionOverflow
  | multiplicationOverflow
  /-- The negation of the least number left its range. -/
  | negationOverflow
  | zeroDivisor
  /-- A deadline was appended behind a later one. -/
  | outOfOrder
  /-- A slot that was seen empty refused a memo. -/
  | slotOccupied (slot : Slot)
  /-- The oldest memo was to go, but none was waiting. -/
  | nothingWaiting
  /-- The oldest deadline names a slot that holds no memo. -/
  | memoMissing (slot : Slot)
deriving DecidableEq

def Fault.message : Fault → String
  | .additionOverflow => "attempt to add with overflow"
  | .subtractionOverflow => "attempt to subtract with overflow"
  | .multiplicationOverflow => "attempt to multiply with overflow"
  | .negationOverflow => "attempt to negate with overflow"
  | .zeroDivisor => "attempt to calculate the remainder with a divisor of zero"
  | .outOfOrder => "expiry queue out of order: tick went backwards"
  | .slotOccupied slot => "vacant slot " ++ toString slot ++ " reported occupied"
  | .nothingWaiting => "remove_front on empty expiry queue"
  | .memoMissing slot => "queued hash " ++ toString slot ++ " missing from store"

end RouteCache
