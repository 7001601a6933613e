import RouteCache.Fault
import RouteCache.Route

/-!
Searches. A search may remember what it did before, and may fault.
-/

namespace RouteCache

/-- A search with a memory of its own. -/
abbrev Search (σ : Type) := Query → EStateM Fault σ Found

namespace Search

/-- A search without memory that never faults. -/
def ofFunction (find : Query → Found) : Search Unit := fun query => return find query

def ofExcept (find : Query → Except Fault Found) : Search Unit := fun query memory =>
  match find query with
  | .ok found => .ok found memory
  | .error fault => .error fault memory

/-- The same search, with the number of searches so far in its memory. -/
def counted {σ : Type} (search : Search σ) : Search (Nat × σ) := fun query memory =>
  match search query memory.2 with
  | .ok found inner => .ok found (memory.1 + 1, inner)
  | .error fault inner => .error fault (memory.1 + 1, inner)

/-- A search that gives the listed verdicts in turn, over and over, with a route
that consists of the goal alone and costs the number of the search. The memory is
the number of searches so far. -/
def scripted (verdicts : List Verdict) : Search Nat := fun query calls =>
  let goal : Waypoint := ⟨Single.ofInt query.goal.x.toInt, Single.zero,
    Single.ofInt query.goal.y.toInt⟩
  let route : Route := {
    waypoints := [goal]
    cells := [query.goal]
    goal
    radius := query.radius
    cost := Single.ofInt (calls + 1) }
  let verdict := (verdicts[calls % verdicts.length]?).getD .failed
  .ok ⟨route, verdict⟩ (calls + 1)

end Search

end RouteCache
