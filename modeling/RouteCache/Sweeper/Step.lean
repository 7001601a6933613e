import RouteCache.Router.Event
import RouteCache.Sweeper.Basic

/-!
What other users of a shared cache do beside the loop: they let time pass, with or
without the lock, use the cache, advance the clock, and stop the loop.
-/

namespace RouteCache

namespace Sweeper

variable {policy : Policy}

inductive Step where
  | sleep (millis : Nat)
  | advance
  /-- Stores a memo at the tick of the clock. -/
  | insert (memo : Memo)
  | lookup (query : Query)
  /-- Lets time pass with the lock taken. -/
  | hold (millis : Nat)
  /-- Stops the loop and lets one millisecond pass. -/
  | abort
deriving DecidableEq

inductive Reply where
  | slept
  | advanced (tick : Tick)
  | inserted (outcome : Outcome)
  | found (memo : Option Memo)
  /-- The number of memos just before the lock was freed. -/
  | held (size : Nat)
  | aborted
deriving DecidableEq

/-- Whether the loop does nothing any more. -/
def isFinished (sweeper : Sweeper policy) : Bool := decide (sweeper.phase = .ended)

def onCache {α : Type} (use : CacheM policy α) : EStateM Fault (Sweeper policy) α :=
  fun sweeper =>
    match use sweeper.cache with
    | .ok result cache => .ok result { sweeper with cache }
    | .error fault cache => .error fault { sweeper with cache }

/-- Advances the clock. It has moved also when there is no next tick to answer with. -/
def advance : EStateM Fault (Sweeper policy) Tick := fun sweeper =>
  let after := { sweeper with clock := sweeper.clock.advance }
  match sweeper.clock.next with
  | .ok tick => .ok tick after
  | .error fault => .error fault after

/-- Lets the loop act and takes down what it does. -/
def observe (act : Sweeper policy → List Happening × Sweeper policy) :
    EStateM Fault (Sweeper policy) (List Happening) := fun sweeper =>
  .ok (act sweeper).1 (act sweeper).2

/-- Takes one step. The answer comes with what the loop did meanwhile. -/
def serve : Step → EStateM Fault (Sweeper policy) (Reply × List Happening)
  | .sleep millis => do
    let target := (← get).now + millis
    let started ← observe start
    let happenings ← observe (runUntil target)
    return (.slept, started ++ happenings)
  | .advance => return (.advanced (← advance), [])
  | .insert memo => do
    return (.inserted (← onCache (Cache.insert memo (← get).clock.tick)), [])
  | .lookup query => do
    return (.found (← onCache (Cache.lookup query)), [])
  | .hold millis => do
    let target := (← get).now + millis
    let started ← observe start
    let locked ← observe (runLocked target)
    let size := (← get).cache.size
    let released ← observe release
    return (.held size, started ++ locked ++ released)
  | .abort => do
    modify fun sweeper => { sweeper with now := sweeper.now + 1, phase := .ended }
    return (.aborted, [])

/-- Takes steps in order, up to the first that faults. -/
def serveAll : List Step → EStateM Fault (Sweeper policy) (List (Reply × List Happening))
  | [] => return []
  | step :: steps => do
    let reply ← serve step
    return reply :: (← serveAll steps)

end Sweeper

/-- The events of something the loop does. -/
def Happening.events : Happening → List Event
  | .started _ => [.loopStarted]
  | .advanced _ _ => []
  | .expired _ tick number =>
    if number = 0 then [] else Event.ofExpiry tick number ++ [.loopExpired tick number]

/-- The events of a step: those of its use of the cache, or those of the loop. -/
def Sweeper.Step.events (policy : Policy) (step : Step) (reply : Reply)
    (happenings : List Happening) : List Event :=
  match step, reply with
  | .insert memo, .inserted outcome => Event.ofOutcome (policy.place memo.query) outcome
  | _, _ => happenings.flatMap Happening.events

end RouteCache
