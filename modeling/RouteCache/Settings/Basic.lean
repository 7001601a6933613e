import RouteCache.Cache.Basic

/-!
The settings of a simulation and of the caches in it, and the reasons for which
settings are refused.
-/

namespace RouteCache

/-- The settings, with the values they have when nothing else is said. -/
structure Settings where
  /-- The greatest number of memos in a cache. -/
  capacity : UInt64 := 100
  /-- How many ticks a memo lives: seven seconds of thirty ticks. -/
  lifetime : UInt64 := 210
  width : UInt32 := 256
  depth : UInt32 := 256
  /-- The length of a tick in milliseconds. -/
  tickMillis : UInt64 := 33
  /-- The number of ticks that a simulation runs. -/
  ticks : UInt64 := 300
deriving DecidableEq, Inhabited

/-- The variables of the environment that hold settings. -/
inductive Variable where
  | capacity
  | lifetime
  | width
  | depth
  | tickMillis
  | ticks
deriving DecidableEq

def Variable.name : Variable → String
  | .capacity => "PATH_CACHE_CAPACITY"
  | .lifetime => "PATH_CACHE_TIMEOUT_TICKS"
  | .width => "PATH_CACHE_BLOCKS_X"
  | .depth => "PATH_CACHE_BLOCKS_Z"
  | .tickMillis => "SIM_TICK_MS"
  | .ticks => "SIM_TICKS"

/-- Why settings are refused. -/
inductive Refusal where
  /-- The text of a variable is no numeral of its range. -/
  | malformed (name : Variable) (text : String)
  /-- A cache needs room for one memo. -/
  | noCapacity
  /-- A grid needs cells. -/
  | emptyGrid (width depth : UInt32)
  /-- A tick has to last. -/
  | noInterval
deriving DecidableEq

namespace Settings

/-- Refuses settings with which neither a cache nor the simulation can work. -/
def check (settings : Settings) : Except Refusal Unit :=
  if settings.capacity = 0 then .error .noCapacity
  else if settings.width = 0 ∨ settings.depth = 0 then
    .error (.emptyGrid settings.width settings.depth)
  else if settings.tickMillis = 0 then .error .noInterval
  else .ok ()

/-- The grid by which the caches place queries. -/
def grid (settings : Settings) : Grid := ⟨settings.width, settings.depth⟩

/-- The policy of every cache in the simulation. -/
def policy (settings : Settings) : Policy :=
  Policy.bounded settings.grid.slot settings.capacity settings.lifetime

theorem place_policy (settings : Settings) : settings.policy.place = settings.grid.slot :=
  Policy.place_bounded _ _ _

theorem capacity_policy (settings : Settings) :
    settings.policy.capacity.toNat = max settings.capacity.toNat 1 :=
  Policy.capacity_bounded _ _ _

theorem lifetime_policy (settings : Settings) : settings.policy.lifetime = settings.lifetime :=
  Policy.lifetime_bounded _ _ _

end Settings

end RouteCache
