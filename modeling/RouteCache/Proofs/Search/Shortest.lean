import RouteCache.Proofs.Grid.Ways
import RouteCache.Proofs.Search.Straight

/-!
The search along the straight line finds shortest routes. In every rectangle that is no wider and
no deeper than a third of the range it answers every query: it fails for a start outside, refuses
a goal outside, and otherwise comes back with a way from the start to the goal that stays in the
rectangle, comes to no cell twice and has no more cells than any other way between the two.
-/

namespace RouteCache

/-- A rectangle holds all cells of a line if it holds both ends. -/
theorem Line.within_of_mem_cells {width depth : Int32} {start goal cell : Cell}
    (first : start.Within width depth) (last : goal.Within width depth)
    (member : cell ∈ cells start goal) : cell.Within width depth := by
  obtain ⟨steps, within, rfl⟩ := mem_cells_iff.mp member
  obtain ⟨⟨left, right⟩, top, bottom⟩ := after_between within
  obtain ⟨x, y⟩ := toInt_cellAfter within
  unfold Cell.Within at first last ⊢
  omega

theorem Line.distance_lt_of_within {width depth : Int32} {start goal : Cell} {size : Nat}
    (narrow : width.toInt ≤ size) (shallow : depth.toInt ≤ size)
    (first : start.Within width depth) (last : goal.Within width depth) :
    distance start goal < size := by
  unfold Cell.Within at first last
  unfold distance
  omega

namespace Search

/-- What a route for a query is when it is a shortest one in a rectangle: its cells, what it says
of them, and that no way has fewer. -/
structure Shortest (width depth : Int32) (query : Query) (route : Route) : Prop where
  way : Line.Way query.start query.goal route.cells
  within : ∀ cell ∈ route.cells, cell.Within width depth
  once : route.cells.Nodup
  length : route.cells.length = Line.distance query.start query.goal + 1
  least : ∀ others, Line.Way query.start query.goal others →
    route.cells.length ≤ others.length
  /-- The waypoints are the corners of the cells, the last one first. -/
  waypoints : route.waypoints = (route.cells.map Cell.corner).reverse
  as_many : route.waypoints.length = route.cells.length
  goal : route.goal = query.goal.corner
  goal_first : route.waypoints.head? = some route.goal
  radius : route.radius.bits = query.radius.bits
  /-- The cost is the number of steps. -/
  cost : route.cost = Single.ofInt (Line.distance query.start query.goal)

theorem shortest_routeOver {width depth : Int32} {query : Query}
    (start : query.start.Within width depth) (goal : query.goal.Within width depth) :
    Shortest width depth query (routeOver query (Line.cells query.start query.goal)) where
  way := Line.way_cells query.start query.goal
  within := fun _ member => Line.within_of_mem_cells start goal member
  once := Line.nodup_cells query.start query.goal
  length := Line.length_cells query.start query.goal
  least := fun _ way => Line.length_cells_le way
  waypoints := by
    unfold routeOver
    rw [List.map_reverse]
  as_many := by
    unfold routeOver
    rw [List.length_map, List.length_reverse]
  goal := rfl
  goal_first := by
    unfold routeOver
    rw [List.head?_map, List.head?_reverse, (Line.way_cells query.start query.goal).last]
    rfl
  radius := rfl
  cost := by
    unfold routeOver
    rw [Line.length_cells, Nat.add_sub_cancel]

/-- In a rectangle whose dimensions are at most a third of the range, negative ones included, the
search never faults. It fails without a route exactly when the start is outside the rectangle,
refuses the goal without a route exactly when the start is inside and the goal is not, and in all
other cases reaches the goal by a shortest route. -/
theorem straight_shortest (width depth : Int32) (narrow : width.toInt ≤ 715827883)
    (shallow : depth.toInt ≤ 715827883) (query : Query) :
    ∃ found, straight width depth query = .ok found ∧
      (found = ⟨{}, .failed⟩ ↔ ¬query.start.Within width depth) ∧
      (found = ⟨{}, .goalOutside⟩ ↔
        query.start.Within width depth ∧ ¬query.goal.Within width depth) ∧
      (found.verdict = .reached ↔
        query.start.Within width depth ∧ query.goal.Within width depth) ∧
      (found.verdict = .reached → Shortest width depth query found.route) := by
  by_cases start : query.start.Within width depth
  · by_cases goal : query.goal.Within width depth
    · have near := Line.distance_lt_of_within narrow shallow start goal
      have found := straight_of_steady start goal (Line.steady_of_near (Nat.le_of_lt near))
      exact ⟨_, found, by simp [start], by simp [goal], by simp [start, goal],
        fun _ => shortest_routeOver start goal⟩
    · exact ⟨_, straight_of_goal_outside start goal, by simp [start], by simp [start, goal],
        by simp [goal], by simp⟩
  · exact ⟨_, straight_of_outside start, by simp [start], by simp [start], by simp [start],
      by simp⟩

/-- In a rectangle of eight cells by six: two steps to a goal that is one row down, a goal beyond
the edge, and a start above it. -/
theorem straight_shortest_small :
    let query (start goal : Cell) : Query := ⟨start, goal, Single.eight, 1⟩
    (8 : Int32).toInt ≤ 715827883 ∧ (6 : Int32).toInt ≤ 715827883 ∧
      (∃ route, straight 8 6 (query ⟨1, 1⟩ ⟨3, 2⟩) = .ok ⟨route, .reached⟩ ∧
        route.cells = [⟨1, 1⟩, ⟨2, 2⟩, ⟨3, 2⟩] ∧
        Shortest 8 6 (query ⟨1, 1⟩ ⟨3, 2⟩) route) ∧
      ¬(⟨9, 1⟩ : Cell).Within 8 6 ∧ ¬(⟨1, -1⟩ : Cell).Within 8 6 := by
  intro query
  have narrow : (8 : Int32).toInt ≤ 715827883 := by decide
  have shallow : (6 : Int32).toInt ≤ 715827883 := by decide
  refine ⟨narrow, shallow, ?_, ?_, ?_⟩
  · obtain ⟨found, same, _, _, _, shortest⟩ :=
      straight_shortest 8 6 narrow shallow (query ⟨1, 1⟩ ⟨3, 2⟩)
    have closed : straight 8 6 (query ⟨1, 1⟩ ⟨3, 2⟩) =
        .ok ⟨routeOver (query ⟨1, 1⟩ ⟨3, 2⟩) [⟨1, 1⟩, ⟨2, 2⟩, ⟨3, 2⟩], .reached⟩ := by
      decide +kernel
    rw [closed] at same
    cases same
    exact ⟨_, closed, rfl, shortest rfl⟩
  · obtain ⟨found, same, _, refused, _⟩ :=
      straight_shortest 8 6 narrow shallow (query ⟨1, 1⟩ ⟨9, 1⟩)
    cases same
    exact (refused.mp rfl).2
  · obtain ⟨found, same, failed, _⟩ :=
      straight_shortest 8 6 narrow shallow (query ⟨1, -1⟩ ⟨3, 2⟩)
    cases same
    exact failed.mp rfl

end Search

end RouteCache
