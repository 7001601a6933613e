import RouteCache.Sweeper.Step

/-!
All that can happen to a shared cache, one move at a time. A step that lets time pass is
many moves of the loop: it starts, takes a due time up, gets the lock, and time passes
between. Every other step is one move. `Move` says once what each of them does, so that
whatever every move keeps is kept by every run, in whatever order its steps and the moves
of the loop come.

A move leaves a trace of its deeds. Nothing here bounds the number of moves, so the clock
and the counters of the cache may be full.
-/

namespace RouteCache

namespace Sweeper

variable {policy : Policy}

/-- Something that was done to the clock, to the cache or to the loop. -/
inductive Deed where
  | loop (happening : Happening)
  /-- A step moved the clock to a tick. -/
  | advanced (tick : Tick)
  /-- A step used the cache. -/
  | asked (request : Cache.Request) (reply : Cache.Reply)
  /-- A step stopped the loop. -/
  | stopped
deriving DecidableEq

/-- What the loop did. -/
def happenings (log : List Deed) : List Happening :=
  log.filterMap fun
    | .loop happening => some happening
    | _ => none

@[simp] theorem happenings_append (first second : List Deed) :
    happenings (first ++ second) = happenings first ++ happenings second :=
  List.filterMap_append

theorem happenings_loop (done : List Happening) : happenings (done.map .loop) = done := by
  rw [happenings, List.filterMap_map]
  exact List.filterMap_some

/-- The times at which the loop advanced the clock. -/
def advances (log : List Deed) : List Nat :=
  (happenings log).filterMap fun
    | .advanced time _ => some time
    | _ => none

@[simp] theorem advances_append (first second : List Deed) :
    advances (first ++ second) = advances first ++ advances second := by
  rw [advances, happenings_append, List.filterMap_append]
  rfl

/-- How often steps advanced the clock. -/
def prompts (log : List Deed) : Nat :=
  log.countP fun
    | .advanced _ => true
    | _ => false

@[simp] theorem prompts_append (first second : List Deed) :
    prompts (first ++ second) = prompts first + prompts second :=
  List.countP_append

/-- How often steps used the cache. -/
def uses (log : List Deed) : Nat :=
  log.countP fun
    | .asked _ _ => true
    | _ => false

@[simp] theorem uses_append (first second : List Deed) :
    uses (first ++ second) = uses first + uses second :=
  List.countP_append

/-- All uses of the cache with their replies, those by the loop among them. -/
def dealings (log : List Deed) : List (Cache.Request × Cache.Reply) :=
  log.filterMap fun
    | .asked request reply => some (request, reply)
    | .loop (.expired _ tick number) => some (.expire tick, .expired number)
    | _ => none

@[simp] theorem dealings_append (first second : List Deed) :
    dealings (first ++ second) = dealings first ++ dealings second :=
  List.filterMap_append

/-- The loop does not wait for the lock. -/
def Free (sweeper : Sweeper policy) : Prop := ∀ tick due, sweeper.phase ≠ .blocked tick due

/-- One move. The parameter says whether time may pass while the loop waits for the lock. -/
inductive Move (stalls : Prop) : Sweeper policy → List Deed → Sweeper policy → Prop where
  | start {sweeper : Sweeper policy} (idle : sweeper.phase = .idle)
      (positive : 0 < sweeper.interval) :
      Move stalls sweeper [.loop (.started sweeper.now)]
        { sweeper with phase := .waiting (sweeper.now + sweeper.interval) }
  /-- There is no loop without an interval. -/
  | refuse {sweeper : Sweeper policy} (idle : sweeper.phase = .idle)
      (zero : sweeper.interval = 0) :
      Move stalls sweeper [.loop (.started sweeper.now)] { sweeper with phase := .ended }
  | takeUp {sweeper : Sweeper policy} {due : Nat} {tick : Tick}
      (waits : sweeper.phase = .waiting due) (next : sweeper.clock.next = .ok tick) :
      Move stalls sweeper [.loop (.advanced (max sweeper.now due) tick)] { sweeper with
        now := max sweeper.now due
        clock := ⟨tick⟩
        phase := .blocked tick (nextDue sweeper.interval due (max sweeper.now due)) }
  /-- The clock has no next tick. -/
  | overrun {sweeper : Sweeper policy} {due : Nat} {fault : Fault}
      (waits : sweeper.phase = .waiting due) (full : sweeper.clock.next = .error fault) :
      Move stalls sweeper [.loop (.advanced (max sweeper.now due) sweeper.clock.advance.tick)]
        { sweeper with
          now := max sweeper.now due
          clock := sweeper.clock.advance
          phase := .ended }
  | expire {sweeper : Sweeper policy} {tick : Tick} {due number : Nat} {cache : Cache policy}
      (blocked : sweeper.phase = .blocked tick due)
      (expired : Cache.expire tick sweeper.cache = .ok number cache) :
      Move stalls sweeper [.loop (.expired sweeper.now tick number)]
        { sweeper with cache, phase := .waiting due }
  /-- A fault of the cache ends the loop. -/
  | fail {sweeper : Sweeper policy} {tick : Tick} {due : Nat} {fault : Fault}
      {cache : Cache policy} (blocked : sweeper.phase = .blocked tick due)
      (failed : Cache.expire tick sweeper.cache = .error fault cache) :
      Move stalls sweeper [] { sweeper with cache, phase := .ended }
  | pass {sweeper : Sweeper policy} {time : Nat} (later : sweeper.now ≤ time)
      (free : sweeper.Free) (ahead : ∀ due, sweeper.phase = .waiting due → time < due) :
      Move stalls sweeper [] { sweeper with now := time }
  /-- Time passes while a user has the lock for which the loop waits. -/
  | stall {sweeper : Sweeper policy} {time : Nat} (allowed : stalls)
      (later : sweeper.now ≤ time) (blocked : ¬sweeper.Free) :
      Move stalls sweeper [] { sweeper with now := time }
  | advance {sweeper : Sweeper policy} {tick : Tick} (next : sweeper.clock.next = .ok tick) :
      Move stalls sweeper [.advanced tick] { sweeper with clock := ⟨tick⟩ }
  | insert {sweeper : Sweeper policy} {memo : Memo} {outcome : Outcome} {cache : Cache policy}
      (inserted : Cache.insert memo sweeper.clock.tick sweeper.cache = .ok outcome cache) :
      Move stalls sweeper [.asked (.insert memo sweeper.clock.tick) (.inserted outcome)]
        { sweeper with cache }
  | lookup {sweeper : Sweeper policy} {query : Query} {memo : Option Memo}
      {cache : Cache policy} (looked : Cache.lookup query sweeper.cache = .ok memo cache) :
      Move stalls sweeper [.asked (.lookup query) (.found memo)] { sweeper with cache }
  /-- The loop is not stopped while it waits for the lock. -/
  | stop {sweeper : Sweeper policy} (free : sweeper.Free) :
      Move stalls sweeper [.stopped] { sweeper with now := sweeper.now + 1, phase := .ended }

/-- Any number of moves, with all their deeds. -/
inductive Moves (stalls : Prop) (start : Sweeper policy) :
    List Deed → Sweeper policy → Prop where
  | none : Moves stalls start [] start
  | more {log deeds : List Deed} {between after : Sweeper policy}
      (moves : Moves stalls start log between) (move : Move stalls between deeds after) :
      Moves stalls start (log ++ deeds) after

variable {stalls : Prop} {sweeper between after : Sweeper policy} {log deeds : List Deed}

theorem Move.moves (move : Move stalls sweeper deeds after) : Moves stalls sweeper deeds after :=
  .more .none move

/-- No move leaves more than one deed. -/
theorem Move.deeds_eq (move : Move stalls sweeper deeds after) :
    deeds = [] ∨ ∃ deed, deeds = [deed] := by
  cases move with
  | fail _ _ => exact .inl rfl
  | pass _ _ _ => exact .inl rfl
  | stall _ _ _ => exact .inl rfl
  | _ => exact .inr ⟨_, rfl⟩

theorem Moves.trans (first : Moves stalls sweeper log between)
    (second : Moves stalls between deeds after) : Moves stalls sweeper (log ++ deeds) after := by
  induction second with
  | none =>
    rw [List.append_nil]
    exact first
  | more _ move ih =>
    rw [← List.append_assoc]
    exact .more ih move

/-- The due time for which the loop waits, or will wait when it has had the lock. -/
def due? (sweeper : Sweeper policy) : Option Nat :=
  match sweeper.phase with
  | .waiting due | .blocked _ due => some due
  | .idle | .ended => none

theorem due?_of_waiting {due : Nat} (waits : sweeper.phase = .waiting due) :
    sweeper.due? = some due := by
  simp only [due?, waits]

theorem due?_of_blocked {tick : Tick} {due : Nat} (blocked : sweeper.phase = .blocked tick due) :
    sweeper.due? = some due := by
  simp only [due?, blocked]

/-- The loop has an interval, and its next due time is no further away than that. -/
def Near (sweeper : Sweeper policy) : Prop :=
  ∀ due, sweeper.due? = some due →
    0 < sweeper.interval ∧ due ≤ sweeper.now + sweeper.interval

theorem Near.positive (near : sweeper.Near) {due : Nat} (waits : sweeper.phase = .waiting due) :
    0 < sweeper.interval :=
  (near due (due?_of_waiting waits)).1

theorem nextDue_le (interval due time : Nat) (reached : due ≤ time) :
    nextDue interval due time ≤ time + interval := by
  unfold nextDue
  split <;> omega

theorem add_le_nextDue (interval due time : Nat) :
    due + interval ≤ nextDue interval due time := by
  unfold nextDue
  split <;> omega

theorem add_le_nextDue_add (interval due time : Nat) :
    time + interval ≤ nextDue interval due time + tolerance := by
  unfold nextDue
  split <;> omega

/-- Neither a passing of time nor anything else puts the next due time further away. -/
theorem Move.near (move : Move stalls sweeper deeds after) (near : sweeper.Near) :
    after.Near := by
  intro next waits
  cases move with
  | start idle positive =>
    cases waits
    exact ⟨positive, Nat.le_refl _⟩
  | takeUp waited _ =>
    cases waits
    exact ⟨near.positive waited, nextDue_le _ _ _ (Nat.le_max_right _ _)⟩
  | expire blocked expired =>
    cases waits
    exact near _ (due?_of_blocked blocked)
  | pass later _ _ =>
    obtain ⟨positive, close⟩ := near next waits
    exact ⟨positive, Nat.le_trans close (Nat.add_le_add_right later _)⟩
  | stall _ later _ =>
    obtain ⟨positive, close⟩ := near next waits
    exact ⟨positive, Nat.le_trans close (Nat.add_le_add_right later _)⟩
  | advance _ => exact near next waits
  | insert _ => exact near next waits
  | lookup _ => exact near next waits
  | refuse _ _ => cases waits
  | overrun _ _ => cases waits
  | fail _ _ => cases waits
  | stop _ => cases waits

theorem Moves.near (moves : Moves stalls sweeper log after) (near : sweeper.Near) :
    after.Near := by
  induction moves with
  | none => exact near
  | more _ move ih => exact move.near ih

theorem Move.interval_eq (move : Move stalls sweeper deeds after) :
    after.interval = sweeper.interval := by
  cases move <;> rfl

theorem Moves.interval_eq (moves : Moves stalls sweeper log after) :
    after.interval = sweeper.interval := by
  induction moves with
  | none => rfl
  | more _ move ih => rw [move.interval_eq, ih]

/-- Between two steps the loop does not wait for the lock, and the due time for which it
waits has not come. -/
structure Settled (sweeper : Sweeper policy) : Prop where
  free : sweeper.Free
  ahead : ∀ due, sweeper.phase = .waiting due → sweeper.now < due
  near : sweeper.Near

theorem settled_new (interval : Nat) : ({ interval } : Sweeper policy).Settled where
  free := by
    intro tick due blocked
    cases blocked
  ahead := by
    intro due waits
    cases waits
  near := by
    intro due waits
    cases waits

theorem settled_of_ended (ended : sweeper.phase = .ended) : sweeper.Settled where
  free := by
    intro tick due blocked
    rw [ended] at blocked
    cases blocked
  ahead := by
    intro due waits
    rw [ended] at waits
    cases waits
  near := by
    intro due waits
    simp only [due?, ended] at waits
    cases waits

end Sweeper

end RouteCache
