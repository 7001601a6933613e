import RouteCache.Arithmetic
import RouteCache.Cache.Basic

/-!
The periodic loop that shares a cache with other users. Time is counted in
milliseconds. Whenever the loop is due it advances the clock by one tick, takes the
lock of the cache and expires memos at the new tick. While another user holds the
lock the loop waits with its tick in hand, and takes up no due times.

A due time that is taken up late by no more than the tolerance leaves the schedule
as it is. Any later, and the schedule starts again from the time of taking up.

What the loop does is reported as a list of happenings, each with its time.
-/

namespace RouteCache

/-! ### The clock, which only ever moves to the next tick -/

/-- A counter of ticks. -/
structure Clock where
  tick : Tick := 0
deriving DecidableEq

/-- Moves to the next tick, which is zero after the greatest word. -/
def Clock.advance (clock : Clock) : Clock := ⟨clock.tick + 1⟩

/-- The tick that a move answers with. It is reckoned apart from the clock, and a sum that
is no word is a fault, although the clock has moved by then. -/
def Clock.next (clock : Clock) : Except Fault Tick := checkedAdd clock.tick 1

theorem Clock.toNat_of_next {clock : Clock} {tick : Tick} (h : clock.next = .ok tick) :
    tick.toNat = clock.tick.toNat + 1 :=
  checkedAdd_eq_ok_iff.1 h

theorem Clock.le_of_next {clock : Clock} {tick : Tick} (h : clock.next = .ok tick) :
    clock.tick ≤ tick := by
  rw [UInt64.le_iff_toNat_le, toNat_of_next h]
  exact Nat.le_succ _

theorem Clock.full_of_next {clock : Clock} {fault : Fault} (h : clock.next = .error fault) :
    UInt64.size ≤ clock.tick.toNat + 1 :=
  (checkedAdd_eq_error_iff.1 h).2

/-- A move that answers comes to the tick that it answers with. -/
theorem Clock.advance_of_next {clock : Clock} {tick : Tick} (h : clock.next = .ok tick) :
    clock.advance = ⟨tick⟩ := by
  unfold next checkedAdd at h
  split at h
  · cases h
    rfl
  · cases h

/-! ### The loop -/

inductive Phase where
  | idle
  /-- It waits for a due time. -/
  | waiting (due : Nat)
  /-- It has advanced the clock to a tick and waits for the lock. -/
  | blocked (tick : Tick) (due : Nat)
  | ended
deriving DecidableEq

/-- A shared cache, the clock, and the loop that advances the one and expires memos in
the other. -/
structure Sweeper (policy : Policy) where
  /-- The time between two due times. -/
  interval : Nat
  now : Nat := 0
  clock : Clock := {}
  cache : Cache policy := {}
  phase : Phase := .idle

inductive Happening where
  | started (time : Nat)
  | advanced (time : Nat) (tick : Tick)
  | expired (time : Nat) (tick : Tick) (number : Nat)
deriving DecidableEq

namespace Sweeper

variable {policy : Policy}

/-- How late a due time may be taken up without any effect on the schedule. -/
def tolerance : Nat := 5

/-- The due time after one that was taken up at a time. -/
def nextDue (interval due time : Nat) : Nat :=
  if time ≤ due + tolerance then due + interval else time + interval

theorem lt_nextDue {interval due time : Nat} (positive : 0 < interval) (reached : due ≤ time) :
    due < nextDue interval due time := by
  unfold nextDue
  split <;> omega

/-- Starts the loop, if it has not run yet. There is no loop without an interval. -/
def start (sweeper : Sweeper policy) : List Happening × Sweeper policy :=
  match sweeper.phase with
  | .idle =>
    let phase := if sweeper.interval = 0 then .ended
      else .waiting (sweeper.now + sweeper.interval)
    ([.started sweeper.now], { sweeper with phase })
  | _ => ([], sweeper)

/-- Takes a due time up: advances the clock and waits for the lock. A clock that has no
next tick ends the loop. -/
def takeUp (due : Nat) (sweeper : Sweeper policy) : List Happening × Sweeper policy :=
  let now := max sweeper.now due
  let clock := sweeper.clock.advance
  let phase := match sweeper.clock.next with
    | .ok tick => .blocked tick (nextDue sweeper.interval due now)
    | .error _ => .ended
  ([.advanced now clock.tick], { sweeper with now, clock, phase })

theorem takeUp_of_next {sweeper : Sweeper policy} {tick : Tick}
    (next : sweeper.clock.next = .ok tick) (due : Nat) :
    sweeper.takeUp due = ([.advanced (max sweeper.now due) tick], { sweeper with
      now := max sweeper.now due
      clock := ⟨tick⟩
      phase := .blocked tick (nextDue sweeper.interval due (max sweeper.now due)) }) := by
  simp only [takeUp, next, Clock.advance_of_next next]

theorem takeUp_of_full {sweeper : Sweeper policy} {fault : Fault}
    (full : sweeper.clock.next = .error fault) (due : Nat) :
    sweeper.takeUp due = ([.advanced (max sweeper.now due) sweeper.clock.advance.tick],
      { sweeper with
        now := max sweeper.now due
        clock := sweeper.clock.advance
        phase := .ended }) := by
  simp only [takeUp, full]

/-- Gets the lock, if it waits for it, and expires memos. A fault ends the loop. -/
def proceed (sweeper : Sweeper policy) : List Happening × Sweeper policy :=
  match sweeper.phase with
  | .blocked tick due =>
    match Cache.expire tick sweeper.cache with
    | .ok number cache =>
      ([.expired sweeper.now tick number], { sweeper with cache, phase := .waiting due })
    | .error _ cache => ([], { sweeper with cache, phase := .ended })
  | _ => ([], sweeper)

theorem proceed_of_ok {sweeper : Sweeper policy} {tick : Tick} {due number : Nat}
    {cache : Cache policy} (blocked : sweeper.phase = .blocked tick due)
    (expired : Cache.expire tick sweeper.cache = .ok number cache) :
    sweeper.proceed = ([.expired sweeper.now tick number],
      { sweeper with cache, phase := .waiting due }) := by
  simp only [proceed, blocked, expired]

theorem proceed_of_error {sweeper : Sweeper policy} {tick : Tick} {due : Nat} {fault : Fault}
    {cache : Cache policy} (blocked : sweeper.phase = .blocked tick due)
    (failed : Cache.expire tick sweeper.cache = .error fault cache) :
    sweeper.proceed = ([], { sweeper with cache, phase := .ended }) := by
  simp only [proceed, blocked, failed]

/-- Takes up every due time until the given one, with the lock free. The number bounds
the due times, each of which is later than the one before. -/
def takeUpAll (limit : Nat) : Nat → Sweeper policy → List Happening × Sweeper policy
  | 0, sweeper => ([], sweeper)
  | number + 1, sweeper =>
    match sweeper.phase with
    | .waiting due =>
      if due ≤ limit then
        let (advances, blocked) := sweeper.takeUp due
        let (expiries, waiting) := blocked.proceed
        let (others, after) := takeUpAll limit number waiting
        (advances ++ expiries ++ others, after)
      else ([], sweeper)
    | _ => ([], sweeper)

/-- Lets the loop run with the lock free until a time. -/
def runUntil (time : Nat) (sweeper : Sweeper policy) : List Happening × Sweeper policy :=
  let (happenings, after) := takeUpAll time (time + 1) sweeper
  (happenings, { after with now := time })

/-- Lets the loop run with the lock taken until a time. It takes up one due time at
most. -/
def runLocked (time : Nat) (sweeper : Sweeper policy) : List Happening × Sweeper policy :=
  match sweeper.phase with
  | .waiting due =>
    if due ≤ time then
      let (happenings, after) := sweeper.takeUp due
      (happenings, { after with now := time })
    else ([], { sweeper with now := time })
  | _ => ([], { sweeper with now := time })

theorem runLocked_of_reached {sweeper : Sweeper policy} {due time : Nat}
    (waits : sweeper.phase = .waiting due) (reached : due ≤ time) :
    sweeper.runLocked time =
      ((sweeper.takeUp due).1, { (sweeper.takeUp due).2 with now := time }) := by
  unfold runLocked
  rw [waits]
  exact if_pos reached

theorem runLocked_of_ahead {sweeper : Sweeper policy} {time : Nat}
    (ahead : ∀ due, sweeper.phase = .waiting due → time < due) :
    sweeper.runLocked time = ([], { sweeper with now := time }) := by
  unfold runLocked
  split
  · rename_i due waits
    exact if_neg (Nat.not_le.2 (ahead due waits))
  · rfl

/-- Frees the lock, and lets the loop run as far as it gets at this time. -/
def release (sweeper : Sweeper policy) : List Happening × Sweeper policy :=
  let (expiries, waiting) := sweeper.proceed
  let (others, after) := waiting.runUntil waiting.now
  (expiries ++ others, after)

end Sweeper

end RouteCache
