import RouteCache.Simulation

/-!
The command line program: it runs the simulation in real time, one tick after the
other, and prints the report.
-/

namespace RouteCache

def processEnvironment : IO Environment := do
  let read (name : Variable) : IO Setting := do
    match ← IO.getEnv name.name with
    | some value => return .text value
    | none => return .unset
  let capacity ← read .capacity
  let lifetime ← read .lifetime
  let width ← read .width
  let depth ← read .depth
  let tickMillis ← read .tickMillis
  let ticks ← read .ticks
  return fun
    | .capacity => capacity
    | .lifetime => lifetime
    | .width => width
    | .depth => depth
    | .tickMillis => tickMillis
    | .ticks => ticks

/-- Plays the simulation, with a pause before each tick but the first. -/
def playInRealTime (settings : Settings) : IO Simulation.Ending := do
  let mut router : Router settings Unit := { memory := () }
  for tick in [0:settings.ticks.toNat] do
    if 0 < tick then
      IO.sleep (UInt32.ofNat (min settings.tickMillis.toNat 4294967295))
    match Simulation.playTick (Simulation.search settings) (UInt64.ofNat tick) router with
    | .ok _ after => router := after
    | .error fault _ => return .faulted fault
  match Simulation.report router with
  | .ok output => return .success output
  | .error fault => return .faulted fault

end RouteCache

open RouteCache in
/-- Runs the simulation with the settings of the environment. -/
def main : IO UInt32 := do
  let ending ← match Simulation.load (← processEnvironment) with
    | .error ending => pure ending
    | .ok settings => playInRealTime settings
  (← IO.getStdout).putStr ending.output
  (← IO.getStderr).putStr ending.errors
  return ending.code
