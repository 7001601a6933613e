import RouteCache.Proofs.Grid.Course
import RouteCache.Proofs.Grid.Trips
import RouteCache.Search.Straight

/-!
The search along the straight line. It refuses cells outside its rectangle, the start before the
goal, and between two cells of the rectangle its route is the line, if that is steady. A grid is
such a rectangle as long as its dimensions fit into 32 signed bits.
-/

namespace RouteCache

theorem toInt_toInt32 {size : UInt32} (fits : size.toNat < 2147483648) :
    size.toInt32.toInt = size.toNat := by
  apply BitVec.toInt_eq_toNat_of_lt
  change 2 * size.toNat < 4294967296
  omega

/-- Whether a cell lies in the rectangle of the given dimensions that starts at the origin. -/
def Cell.Within (width depth : Int32) (cell : Cell) : Prop :=
  (0 ≤ cell.x.toInt ∧ cell.x.toInt < width.toInt) ∧
    (0 ≤ cell.y.toInt ∧ cell.y.toInt < depth.toInt)

theorem Cell.inside_iff_within {width depth : Int32} {cell : Cell} :
    cell.inside width depth = true ↔ cell.Within width depth := by
  have zero : (0 : Int32).toInt = 0 := rfl
  unfold Cell.inside Cell.Within
  simp only [Bool.and_eq_true, decide_eq_true_eq, Int32.le_iff_toInt_le, Int32.lt_iff_toInt_lt,
    zero, and_assoc]

/-- A cell lies on the grid when it lies in the rectangle of the signed dimensions. -/
theorem Grid.covers_iff_within {grid : Grid} {cell : Cell}
    (wide : grid.width.toNat < 2147483648) (deep : grid.depth.toNat < 2147483648) :
    grid.Covers cell ↔ cell.Within grid.width.toInt32 grid.depth.toInt32 := by
  unfold Grid.Covers Cell.Within
  rw [toInt_toInt32 wide, toInt_toInt32 deep]

namespace Search

theorem ofExcept_eq_ok {find : Query → Except Fault Found} {query : Query} {found : Found}
    (result : find query = .ok found) (memory : Unit) :
    ofExcept find query memory = .ok found memory := by
  unfold ofExcept
  rw [result]

variable {width depth : Int32} {query : Query}

theorem straight_of_outside (outside : ¬query.start.Within width depth) :
    straight width depth query = .ok ⟨{}, .failed⟩ := by
  rw [← Cell.inside_iff_within, Bool.not_eq_true] at outside
  unfold straight
  rw [outside]
  rfl

theorem straight_of_goal_outside (start : query.start.Within width depth)
    (outside : ¬query.goal.Within width depth) :
    straight width depth query = .ok ⟨{}, .goalOutside⟩ := by
  rw [← Cell.inside_iff_within] at start
  rw [← Cell.inside_iff_within, Bool.not_eq_true] at outside
  unfold straight
  rw [start, outside]
  rfl

/-- Between two cells of the rectangle all depends on the line. -/
theorem straight_of_within (start : query.start.Within width depth)
    (goal : query.goal.Within width depth) :
    straight width depth query = do
      let cells ← Line.trace query.start query.goal
      return ⟨routeOver query cells, .reached⟩ := by
  rw [← Cell.inside_iff_within] at start goal
  unfold straight
  rw [start, goal]
  rfl

/-- A way is found between cells of the rectangle only, and it is the line that was traced. -/
theorem of_straight_reached {route : Route}
    (found : straight width depth query = .ok ⟨route, .reached⟩) :
    (query.start.Within width depth ∧ query.goal.Within width depth) ∧
      Line.trace query.start query.goal = .ok route.cells := by
  by_cases start : query.start.Within width depth
  · by_cases goal : query.goal.Within width depth
    · rw [straight_of_within start goal] at found
      obtain ⟨cells, traced, same⟩ := except_bind_eq_ok_iff.mp found
      cases same
      exact ⟨⟨start, goal⟩, traced⟩
    · rw [straight_of_goal_outside start goal] at found
      cases found
  · rw [straight_of_outside start] at found
    cases found

theorem straight_of_steady (start : query.start.Within width depth)
    (goal : query.goal.Within width depth) (steady : Line.Steady query.start query.goal) :
    straight width depth query =
      .ok ⟨routeOver query (Line.cells query.start query.goal), .reached⟩ := by
  rw [straight_of_within start goal]
  exact except_bind_eq_ok_iff.mpr ⟨_, steady.trace_eq, rfl⟩

end Search

end RouteCache
