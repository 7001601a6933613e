import RouteCache.Grid.Line
import RouteCache.Search.Basic

/-!
The search along the straight line from start to goal. It stands in for a search
that knows about obstacles.
-/

namespace RouteCache

/-- The length of a cell in the world. -/
def cellLength : Int := 16

/-- The corner of a cell in the world. -/
def Cell.corner (cell : Cell) : Waypoint where
  x := Single.ofInt (cell.x.toInt * cellLength)
  y := Single.zero
  z := Single.ofInt (cell.y.toInt * cellLength)

namespace Search

/-- The route over the given cells, which end at the goal of the query. -/
def routeOver (query : Query) (cells : List Cell) : Route where
  waypoints := cells.reverse.map Cell.corner
  cells := cells
  goal := query.goal.corner
  radius := query.radius
  cost := Single.ofInt (cells.length - 1 : Nat)

/-- Searches on a grid of the given dimensions. -/
def straight (width depth : Int32) (query : Query) : Except Fault Found :=
  if !query.start.inside width depth then .ok ⟨{}, .failed⟩
  else if !query.goal.inside width depth then .ok ⟨{}, .goalOutside⟩
  else do
    let cells ← Line.trace query.start query.goal
    return ⟨routeOver query cells, .reached⟩

end Search

end RouteCache
