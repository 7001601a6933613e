import RouteCache.Export
import RouteCache.Router.Basic
import RouteCache.Search.Straight
import RouteCache.Settings.Environment

/-!
A headless simulation. Twelve units ask for a route at every tick, and every ninety
ticks they choose new goals, so most queries repeat while their memos live. After the
queries of a tick the caches expire memos.
-/

namespace RouteCache.Simulation

def unitCount : Nat := 12

def moverCount : UInt32 := 3

/-- How many ticks a unit keeps its goal. -/
def phaseTicks : UInt64 := 90

/-- The query of a unit at a tick. It is reckoned in 32 signed bits, from left to
right, on a square as wide as the smaller dimension of the grid. -/
def queryOf (settings : Settings) (unit : UInt32) (now : Tick) : Except Fault Query := do
  let phase := wrap32 (now / phaseTicks).toNat
  let spread := wrap32 (min settings.width.toNat settings.depth.toNat)
  let number := wrap32 unit.toNat
  let startX ← checkedRem (← within32 .multiplicationOverflow (number * 7)) spread
  let startY ← checkedRem (← within32 .multiplicationOverflow (number * 3)) spread
  let offsetX ← within32 .additionOverflow (startX + 11)
  let advanceX ← within32 .multiplicationOverflow (phase * 5)
  let goalX ← checkedRem (← within32 .additionOverflow (offsetX + advanceX)) spread
  let offsetY ← within32 .additionOverflow (startY + 17)
  let pace ← checkedRem number 4
  let advanceY ← within32 .multiplicationOverflow (pace * phase)
  let goalY ← checkedRem (← within32 .additionOverflow (offsetY + advanceY)) spread
  return {
    start := Cell.ofInts startX startY
    goal := Cell.ofInts goalX goalY
    radius := Single.eight
    mover := unit % moverCount }

def search (settings : Settings) : Search Unit :=
  Search.ofExcept (Search.straight settings.width.toInt32 settings.depth.toInt32)

/-- What a stretch of the simulation amounts to: the memos that expired, and the whole
parts of the costs of all routes together. -/
structure Totals where
  expired : Nat := 0
  cost : Nat := 0
deriving DecidableEq

variable {settings : Settings} {σ : Type}

/-- Asks for the routes of the given units, and adds up their costs. -/
def askAll (search : Search σ) (now : Tick) : List UInt32 → RouterM settings σ Nat
  | [] => return 0
  | unit :: others => do
    let query ← MonadExcept.ofExcept (queryOf settings unit now)
    let answer ← Router.find search query now
    return answer.found.route.cost.wholePart + (← askAll search now others)

def units : List UInt32 := (List.range unitCount).map UInt32.ofNat

/-- One tick: all units ask, and then memos expire. -/
def playTick (search : Search σ) (now : Tick) : RouterM settings σ Totals := do
  let cost ← askAll search now units
  let expired ← Router.expire now
  return { expired, cost }

/-- The given number of ticks, and what they add to the given totals. -/
def play (search : Search σ) : Nat → Tick → Totals → RouterM settings σ Totals
  | 0, _, totals => return totals
  | ticks + 1, now, totals => do
    let more ← playTick search now
    play search ticks (now + 1) ⟨totals.expired + more.expired, totals.cost + more.cost⟩

/-- The text of the report on a simulation that has ended. -/
def report (router : Router settings Unit) : Except Fault String := do
  let total ← router.total
  let percentage ← total.percentage
  let document := Json.sortedObject
    [("config", .sortedObject settings.members), ("hit_percentage", .ofFloat percentage),
      ("stats", .sortedObject total.members)]
  return document.pretty ++ "\n"

/-- How the program ends: its exit code and what it writes to its two outputs. -/
structure Ending where
  code : UInt32
  output : String
  errors : String
deriving DecidableEq

namespace Ending

/-- The end of a program that has done its work. -/
def success (output : String) : Ending := ⟨0, output, ""⟩

/-- The end of a program whose settings were refused. -/
def refused (context : String) (refusal : Refusal) : Ending :=
  ⟨1, "", "Error: " ++ context ++ "\n\nCaused by:\n    " ++ refusal.message ++ "\n"⟩

/-- The end of a program that has met a fault. -/
def faulted (fault : Fault) : Ending := ⟨101, "", fault.message ++ "\n"⟩

end Ending

/-- Reads the settings and checks them. -/
def load (environment : Environment) : Except Ending Settings :=
  match Settings.ofEnvironment environment with
  | .error refusal => .error (.refused "failed to load configuration" refusal)
  | .ok settings =>
    match settings.check with
    | .error refusal => .error (.refused "invalid configuration" refusal)
    | .ok () => .ok settings

/-- The whole program without the waiting between ticks. -/
def run (environment : Environment) : Ending :=
  match load environment with
  | .error ending => ending
  | .ok settings =>
    let start : Router settings Unit := { memory := () }
    match play (search settings) settings.ticks.toNat 0 {} start with
    | .error fault _ => .faulted fault
    | .ok _ router =>
      match report router with
      | .error fault => .faulted fault
      | .ok output => .success output

end RouteCache.Simulation
