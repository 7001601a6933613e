import RouteCache.Arithmetic
import RouteCache.Route

/-!
Straight lines of cells. A line is walked from cell to cell with an error term that
tells how far the walk is from the true line, and each step goes to one of the eight
neighbours. Everything is reckoned in 32 signed bits.
-/

namespace RouteCache.Line

/-- The constants of a walk: the extent to the right or left, the negated extent up
or down, and the two directions. -/
structure Course where
  run : Int
  rise : Int
  stepX : Int
  stepY : Int

/-- Where a walk is, and its error term. -/
structure Position where
  x : Int
  y : Int
  error : Int

def Course.between (start goal : Cell) : Except Fault Course := do
  let across ← within32 .subtractionOverflow (goal.x.toInt - start.x.toInt)
  let run ← within32 .negationOverflow across.natAbs
  let along ← within32 .subtractionOverflow (goal.y.toInt - start.y.toInt)
  let climb ← within32 .negationOverflow along.natAbs
  return ⟨run, -climb, across.sign, along.sign⟩

/-- The number of steps of a walk, if none faults. -/
def Course.steps (course : Course) : Nat := max course.run.natAbs course.rise.natAbs

/-- One step. The doubled error term decides on each axis whether to move. -/
def Course.step (course : Course) (here : Position) : Except Fault Position := do
  let doubled ← within32 .multiplicationOverflow (2 * here.error)
  let sideways ←
    if course.rise ≤ doubled then do
      let error ← within32 .additionOverflow (here.error + course.rise)
      let x ← within32 .additionOverflow (here.x + course.stepX)
      pure { here with x, error }
    else pure here
  if doubled ≤ course.run then do
    let error ← within32 .additionOverflow (sideways.error + course.run)
    let y ← within32 .additionOverflow (sideways.y + course.stepY)
    pure { sideways with y, error }
  else pure sideways

/-- Walks on until the goal, and collects the cells, the last one first. -/
def Course.walk (course : Course) (goal : Cell) :
    Nat → Position → List Cell → Except Fault (List Cell)
  | 0, _, cells => .ok cells
  | steps + 1, position, cells =>
    if position.x = goal.x.toInt ∧ position.y = goal.y.toInt then .ok cells
    else do
      let next ← course.step position
      course.walk goal steps next (Cell.ofInts next.x next.y :: cells)

/-- The cells of the line, both ends included. -/
def trace (start goal : Cell) : Except Fault (List Cell) := do
  let course ← Course.between start goal
  let error ← within32 .additionOverflow (course.run + course.rise)
  let walked ← course.walk goal course.steps ⟨start.x.toInt, start.y.toInt, error⟩ [start]
  return walked.reverse

end RouteCache.Line
