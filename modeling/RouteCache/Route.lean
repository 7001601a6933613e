import RouteCache.Single

/-!
What is asked, what a search brings back, and what is remembered of it. A query asks for a
route between two cells for one category of movers, which may end anywhere within a radius
of the goal. A search answers with a route and a verdict on it, and a memo keeps the two
together.
-/

namespace RouteCache

/-!
### Cells

Coordinates are words of 32 signed bits and may lie outside any particular grid.
-/

structure Cell where
  x : Int32
  y : Int32
deriving DecidableEq, Inhabited

/-- The cell with the given integer coordinates, which wrap around. -/
def Cell.ofInts (x y : Int) : Cell := ⟨Int32.ofInt x, Int32.ofInt y⟩

/-- Whether a cell lies in the rectangle that starts at the origin. -/
def Cell.inside (cell : Cell) (width depth : Int32) : Bool :=
  decide (0 ≤ cell.x) && decide (cell.x < width) && decide (0 ≤ cell.y) && decide (cell.y < depth)

/-!
### Queries

Two queries are the same when they are equal, the radius bit for bit. There are two coarser
relations: `sameTrip` leaves the radius out, and `sameNumbers` compares the radius as a
number.
-/

structure Query where
  start : Cell
  goal : Cell
  radius : Single
  mover : UInt32
deriving DecidableEq, Inhabited

/-- Equality of everything but the radius. -/
def Query.sameTrip (q r : Query) : Bool :=
  decide (q.start = r.start) && decide (q.goal = r.goal) && decide (q.mover = r.mover)

/-- Equality with the radius compared as a number, so that a radius which is no
number makes a query differ from itself. -/
def Query.sameNumbers (q r : Query) : Bool :=
  q.sameTrip r && q.radius.sameNumber r.radius

/-!
### Routes

A route lists world positions with the goal first, and the cells that it crosses.
-/

structure Waypoint where
  x : Single := Single.zero
  y : Single := Single.zero
  z : Single := Single.zero
deriving DecidableEq, Inhabited

/-- A route, as a search made it. -/
structure Route where
  waypoints : List Waypoint := []
  cells : List Cell := []
  goal : Waypoint := {}
  radius : Single := Single.zero
  cost : Single := Single.zero
deriving DecidableEq, Inhabited

/-- How a search ended. -/
inductive Verdict where
  | reached
  /-- The goal cannot be reached, and the route leads as close as possible. -/
  | approached
  | unreachable
  /-- The goal lies outside the grid. -/
  | goalOutside
  /-- The query could not be searched. -/
  | failed
deriving DecidableEq, Inhabited

/-- Whether a search brought back a route that is worth keeping. -/
def Verdict.isUsable : Verdict → Bool
  | .reached | .approached => true
  | .unreachable | .goalOutside | .failed => false

structure Found where
  route : Route
  verdict : Verdict
deriving DecidableEq, Inhabited

/-- Equality of positions as numbers. -/
def Waypoint.sameNumbers (a b : Waypoint) : Bool :=
  a.x.sameNumber b.x && a.y.sameNumber b.y && a.z.sameNumber b.z

/-- Equality of routes with all floating point fields compared as numbers. -/
def Route.sameNumbers (a b : Route) : Bool :=
  a.waypoints.isEqv b.waypoints Waypoint.sameNumbers && decide (a.cells = b.cells) &&
    a.goal.sameNumbers b.goal && a.radius.sameNumber b.radius && a.cost.sameNumber b.cost

/-!
### Memos

A memo answers every query for the same trip. The radius is not looked at, so a placement
that keeps radii apart is what makes answers exact.
-/

/-- A remembered search. -/
structure Memo where
  query : Query
  found : Found
deriving DecidableEq, Inhabited

/-- Whether a memo may answer a query. -/
def Memo.settles (memo : Memo) (query : Query) : Bool := memo.query.sameTrip query

end RouteCache
