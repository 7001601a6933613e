import RouteCache.Json
import RouteCache.Settings.Basic

/-!
What queries, routes, counters and settings are called when they are written down.
Members stand in a fixed order. A floating point value has the fewest digits that
read back to it, and a value that is no finite number is written as null.
-/

namespace RouteCache

namespace Json

/-- Values of 32 bits are written positionally from a millionth to below ten
trillions. -/
def singleNotation : Decimal.Notation := ⟨-6, 13, true⟩

/-- Values of 64 bits are written positionally over a longer range. -/
def doubleNotation : Decimal.Notation := ⟨-5, 16, true⟩

def ofValue (rules : Decimal.Notation) : Decimal.Value → Json
  | .finite negative x => .number (rules.text negative x)
  | .nan | .infinite _ => .null

/-- A floating point value of 32 bits. -/
def ofSingle (x : Single) : Json := ofValue singleNotation x.value

def ofFloat (x : Float) : Json :=
  ofValue doubleNotation (Decimal.Format.double.decode x.toBits.toNat)

end Json

def Verdict.name : Verdict → String
  | .reached => "Ok"
  | .approached => "PartialOk"
  | .unreachable => "CannotReach"
  | .goalOutside => "GoalOutOfRange"
  | .failed => "Error"

def Cell.toJson (cell : Cell) : Json :=
  .object [("x", .ofInt cell.x.toInt), ("y", .ofInt cell.y.toInt)]

def Waypoint.toJson (waypoint : Waypoint) : Json :=
  .object [("x", .ofSingle waypoint.x), ("y", .ofSingle waypoint.y), ("z", .ofSingle waypoint.z)]

def Query.toJson (query : Query) : Json :=
  .object [("start", query.start.toJson), ("goal", query.goal.toJson),
    ("goal_radius", .ofSingle query.radius), ("mover_category", .ofNat query.mover.toNat)]

def Route.toJson (route : Route) : Json :=
  .object [("waypoints", .array (route.waypoints.map Waypoint.toJson)),
    ("cells", .array (route.cells.map Cell.toJson)), ("goal", route.goal.toJson),
    ("goal_radius", .ofSingle route.radius), ("cost", .ofSingle route.cost)]

def Verdict.toJson (verdict : Verdict) : Json := .string verdict.name

/-- The counters with their names. -/
def Tally.members (tally : Tally) : List (String × Json) :=
  [("hits", .ofNat tally.hits.toNat), ("misses", .ofNat tally.misses.toNat),
    ("collisions", .ofNat tally.collisions.toNat), ("evictions", .ofNat tally.evictions.toNat),
    ("expirations", .ofNat tally.expirations.toNat), ("total_entries", .ofNat tally.held.toNat)]

/-- The settings with their names. -/
def Settings.members (settings : Settings) : List (String × Json) :=
  [("capacity", .ofNat settings.capacity.toNat),
    ("timeout_ticks", .ofNat settings.lifetime.toNat),
    ("blocks_x", .ofNat settings.width.toNat), ("blocks_z", .ofNat settings.depth.toNat),
    ("tick_interval_ms", .ofNat settings.tickMillis.toNat),
    ("sim_ticks", .ofNat settings.ticks.toNat)]

end RouteCache
