import RouteCache.Proofs.Sequence
import RouteCache.Proofs.Sweeper.Moves

/-!
A run of steps is made of moves. First what the loop does by itself while time passes, with
the lock free and with the lock taken, then each step, then all steps of a run.

`chronicle` is the trace of a run. One that a fault cuts short is that of the steps before
the fault, so what every move keeps can be said of it whether or not the run faults.
-/

namespace RouteCache

namespace Sweeper

variable {policy : Policy} {stalls : Prop} {sweeper between after : Sweeper policy}

/-- The deeds of a step that was taken at a tick, as its answer tells them. -/
def Step.deeds (tick : Tick) : Step → Reply × List Happening → List Deed
  | .advance, (.advanced next, _) => [.advanced next]
  | .insert memo, (.inserted outcome, _) => [.asked (.insert memo tick) (.inserted outcome)]
  | .lookup query, (.found memo, _) => [.asked (.lookup query) (.found memo)]
  | .abort, _ => [.stopped]
  | _, (_, happenings) => happenings.map .loop

/-- The deeds of a run in their order, up to the first step that faults. -/
def chronicle : List Step → Sweeper policy → List Deed
  | [], _ => []
  | step :: steps, sweeper =>
    match serve step sweeper with
    | .ok answer after => step.deeds sweeper.clock.tick answer ++ chronicle steps after
    | .error _ _ => []

/-! ### What the loop does is made of moves -/

section

variable (stalls)

theorem moves_start (sweeper : Sweeper policy) :
    Moves stalls sweeper (sweeper.start.1.map .loop) sweeper.start.2 := by
  cases phase : sweeper.phase with
  | idle =>
    by_cases zero : sweeper.interval = 0
    · have started : sweeper.start =
          ([.started sweeper.now], { sweeper with phase := .ended }) := by
        simp only [start, phase, if_pos zero]
      rw [started]
      exact (Move.refuse phase zero).moves
    · have started : sweeper.start = ([.started sweeper.now],
          { sweeper with phase := .waiting (sweeper.now + sweeper.interval) }) := by
        simp only [start, phase, if_neg zero]
      rw [started]
      exact (Move.start phase (Nat.pos_of_ne_zero zero)).moves
  | _ =>
    simp only [start, phase]
    exact .none

theorem moves_takeUp {due : Nat} (waits : sweeper.phase = .waiting due) :
    Moves stalls sweeper ((sweeper.takeUp due).1.map .loop) (sweeper.takeUp due).2 := by
  cases next : sweeper.clock.next with
  | ok tick =>
    rw [takeUp_of_next next]
    exact (Move.takeUp waits next).moves
  | error fault =>
    rw [takeUp_of_full next]
    exact (Move.overrun waits next).moves

/-- Having taken up a due time the loop waits for the lock, or has ended. -/
theorem phase_takeUp (sweeper : Sweeper policy) (due : Nat) :
    (∃ tick, (sweeper.takeUp due).2.phase =
      .blocked tick (nextDue sweeper.interval due (max sweeper.now due))) ∨
    (sweeper.takeUp due).2.phase = .ended := by
  cases next : sweeper.clock.next with
  | ok tick =>
    rw [takeUp_of_next next]
    exact .inl ⟨tick, rfl⟩
  | error fault =>
    rw [takeUp_of_full next]
    exact .inr rfl

theorem moves_proceed (sweeper : Sweeper policy) :
    Moves stalls sweeper (sweeper.proceed.1.map .loop) sweeper.proceed.2 := by
  cases phase : sweeper.phase with
  | blocked tick due =>
    cases expired : Cache.expire tick sweeper.cache with
    | ok number cache =>
      rw [proceed_of_ok phase expired]
      exact (Move.expire phase expired).moves
    | error fault cache =>
      rw [proceed_of_error phase expired]
      exact (Move.fail phase expired).moves
  | _ =>
    simp only [proceed, phase]
    exact .none

/-- Having had the lock the loop waits for the next due time, or has ended. -/
theorem phase_proceed {tick : Tick} {due : Nat} (blocked : sweeper.phase = .blocked tick due) :
    sweeper.proceed.2.phase = .waiting due ∨ sweeper.proceed.2.phase = .ended := by
  cases expired : Cache.expire tick sweeper.cache with
  | ok number cache =>
    rw [proceed_of_ok blocked expired]
    exact .inl rfl
  | error fault cache =>
    rw [proceed_of_error blocked expired]
    exact .inr rfl

theorem now_proceed (sweeper : Sweeper policy) : sweeper.proceed.2.now = sweeper.now := by
  unfold proceed
  split
  · split <;> rfl
  · rfl

theorem free_of_phase {phase : Phase} (same : sweeper.phase = phase)
    (free : ∀ tick due, phase ≠ .blocked tick due) : sweeper.Free := by
  intro tick due blocked
  exact free tick due (same.symm.trans blocked)

theorem free_proceed (sweeper : Sweeper policy) : sweeper.proceed.2.Free := by
  cases phase : sweeper.phase with
  | blocked tick due =>
    rcases phase_proceed phase with waits | ended
    · exact free_of_phase waits (by simp)
    · exact free_of_phase ended (by simp)
  | _ =>
    simp only [proceed, phase]
    exact free_of_phase phase (by simp)

/-- With the lock free the loop is done with a due time at once, and the next one is later. -/
theorem moves_round {due : Nat} (waits : sweeper.phase = .waiting due)
    (positive : 0 < sweeper.interval) :
    Moves stalls sweeper
      ((sweeper.takeUp due).1.map .loop ++ (sweeper.takeUp due).2.proceed.1.map .loop)
      (sweeper.takeUp due).2.proceed.2 ∧
    ∀ next, (sweeper.takeUp due).2.proceed.2.phase = .waiting next → due < next := by
  refine ⟨(moves_takeUp stalls waits).trans (moves_proceed stalls _), ?_⟩
  intro next waiting
  rcases phase_takeUp sweeper due with ⟨tick, blocked⟩ | ended
  · rcases phase_proceed blocked with again | ended
    · rw [again] at waiting
      cases waiting
      exact lt_nextDue positive (Nat.le_max_right _ _)
    · rw [ended] at waiting
      cases waiting
  · simp only [proceed, ended] at waiting
    cases waiting

/-- With the lock free the loop takes up all that is due. The induction is on the number of
due times that are left, and each is later than the one before. -/
theorem moves_takeUpAll {limit number : Nat} (early : sweeper.now ≤ limit)
    (free : sweeper.Free) (near : sweeper.Near)
    (enough : ∀ due, sweeper.phase = .waiting due → limit < due + number) :
    Moves stalls sweeper ((takeUpAll limit number sweeper).1.map .loop)
      (takeUpAll limit number sweeper).2 ∧
    (takeUpAll limit number sweeper).2.now ≤ limit ∧
    (takeUpAll limit number sweeper).2.Free ∧
    ∀ due, (takeUpAll limit number sweeper).2.phase = .waiting due → limit < due := by
  induction number generalizing sweeper with
  | zero => exact ⟨.none, early, free, enough⟩
  | succ number ih =>
    cases phase : sweeper.phase with
    | waiting due =>
      by_cases reached : due ≤ limit
      · obtain ⟨moves, later⟩ := moves_round stalls phase (near.positive phase)
        have now : (sweeper.takeUp due).2.proceed.2.now = max sweeper.now due := now_proceed _
        have soon : (sweeper.takeUp due).2.proceed.2.now ≤ limit := by
          rw [now]
          exact Nat.max_le.mpr ⟨early, reached⟩
        have fewer : ∀ next, (sweeper.takeUp due).2.proceed.2.phase = .waiting next →
            limit < next + number := by
          intro next waits
          have further := later next waits
          have bound := enough due phase
          omega
        obtain ⟨others, last, unblocked, behind⟩ := ih soon (free_proceed _)
          (moves.near near) fewer
        simp only [takeUpAll, phase, if_pos reached, List.map_append]
        exact ⟨moves.trans others, last, unblocked, behind⟩
      · simp only [takeUpAll, phase, if_neg reached]
        refine ⟨.none, early, free, ?_⟩
        intro next waits
        cases waits
        omega
    | _ =>
      simp only [takeUpAll, phase]
      refine ⟨.none, early, free, ?_⟩
      intro next waits
      cases waits

theorem moves_runUntil {time : Nat} (early : sweeper.now ≤ time) (free : sweeper.Free)
    (near : sweeper.Near) :
    Moves stalls sweeper ((sweeper.runUntil time).1.map .loop) (sweeper.runUntil time).2 ∧
    (sweeper.runUntil time).2.Settled := by
  have enough : ∀ due, sweeper.phase = .waiting due → time < due + (time + 1) := by
    intro due _
    omega
  obtain ⟨moves, last, unblocked, behind⟩ := moves_takeUpAll stalls early free near enough
  have passed := Moves.more moves (.pass last unblocked behind)
  rw [List.append_nil] at passed
  exact ⟨passed, unblocked, behind, passed.near near⟩

theorem reached_or_ahead (sweeper : Sweeper policy) (time : Nat) :
    (∃ due, sweeper.phase = .waiting due ∧ due ≤ time) ∨
      ∀ due, sweeper.phase = .waiting due → time < due := by
  cases phase : sweeper.phase with
  | waiting due =>
    rcases Nat.lt_or_ge time due with ahead | reached
    · right
      intro next waits
      cases waits
      exact ahead
    · exact .inl ⟨due, rfl, reached⟩
  | _ =>
    right
    intro next waits
    cases waits

/-- While a user has the lock the loop takes up one due time at most, and then time passes
whatever it waits for. -/
theorem moves_runLocked {time : Nat} (early : sweeper.now ≤ time) (free : sweeper.Free)
    (allowed : stalls) :
    Moves stalls sweeper ((sweeper.runLocked time).1.map .loop) (sweeper.runLocked time).2 := by
  rcases reached_or_ahead sweeper time with ⟨due, waits, reached⟩ | ahead
  · rw [runLocked_of_reached waits reached]
    have taken := moves_takeUp stalls waits
    have soon : (sweeper.takeUp due).2.now ≤ time := Nat.max_le.mpr ⟨early, reached⟩
    rw [← List.append_nil ((sweeper.takeUp due).1.map Deed.loop)]
    rcases phase_takeUp sweeper due with ⟨tick, blocked⟩ | ended
    · exact .more taken (.stall allowed soon fun free => free _ _ blocked)
    · refine .more taken (.pass soon (free_of_phase ended (by simp)) ?_)
      intro next waiting
      rw [ended] at waiting
      cases waiting
  · rw [runLocked_of_ahead ahead]
    exact (Move.pass early free ahead).moves

/-- With the lock free again the loop catches up at once. -/
theorem moves_release (near : sweeper.Near) :
    Moves stalls sweeper (sweeper.release.1.map .loop) sweeper.release.2 ∧
    sweeper.release.2.Settled := by
  have first := moves_proceed stalls sweeper
  obtain ⟨others, settled⟩ := moves_runUntil stalls (Nat.le_refl _)
    (free_proceed sweeper) (first.near near)
  have both := first.trans others
  rw [← List.map_append] at both
  exact ⟨both, settled⟩

theorem free_start (free : sweeper.Free) : sweeper.start.2.Free := by
  unfold start
  split
  · refine free_of_phase rfl ?_
    intro tick due
    split <;> simp
  · exact free

theorem now_start (sweeper : Sweeper policy) : sweeper.start.2.now = sweeper.now := by
  unfold start
  split <;> rfl

end

/-! ### Steps and runs -/

theorem serve_sleep (millis : Nat) (sweeper : Sweeper policy) :
    serve (.sleep millis) sweeper =
      .ok (.slept, sweeper.start.1 ++ (sweeper.start.2.runUntil (sweeper.now + millis)).1)
        (sweeper.start.2.runUntil (sweeper.now + millis)).2 := rfl

theorem serve_hold (millis : Nat) (sweeper : Sweeper policy) :
    serve (.hold millis) sweeper =
      .ok (.held (sweeper.start.2.runLocked (sweeper.now + millis)).2.cache.size,
          sweeper.start.1 ++ (sweeper.start.2.runLocked (sweeper.now + millis)).1 ++
            (sweeper.start.2.runLocked (sweeper.now + millis)).2.release.1)
        (sweeper.start.2.runLocked (sweeper.now + millis)).2.release.2 := rfl

theorem serve_abort (sweeper : Sweeper policy) :
    serve .abort sweeper =
      .ok (.aborted, []) { sweeper with now := sweeper.now + 1, phase := .ended } := rfl

theorem onCache_eq_ok_iff {α : Type} {use : CacheM policy α} {answer : α} :
    onCache use sweeper = .ok answer after ↔
      ∃ cache, use sweeper.cache = .ok answer cache ∧ after = { sweeper with cache } := by
  unfold onCache
  cases used : use sweeper.cache with
  | ok result cache =>
    constructor
    · intro same
      cases same
      exact ⟨cache, rfl, rfl⟩
    · rintro ⟨_, same, rfl⟩
      cases same
      rfl
  | error fault cache =>
    constructor
    · intro same
      cases same
    · rintro ⟨_, same, _⟩
      cases same

theorem serve_insert_iff {memo : Memo} {answer : Reply × List Happening} :
    serve (.insert memo) sweeper = .ok answer after ↔
      ∃ outcome cache, Cache.insert memo sweeper.clock.tick sweeper.cache = .ok outcome cache ∧
        answer = (.inserted outcome, []) ∧ after = { sweeper with cache } := by
  change (onCache (Cache.insert memo sweeper.clock.tick) >>= fun outcome =>
    pure (Reply.inserted outcome, [])) sweeper = _ ↔ _
  rw [bind_pure_eq_ok_iff]
  constructor
  · rintro ⟨outcome, used, rfl⟩
    obtain ⟨cache, inserted, rfl⟩ := onCache_eq_ok_iff.mp used
    exact ⟨outcome, cache, inserted, rfl, rfl⟩
  · rintro ⟨outcome, cache, inserted, rfl, rfl⟩
    exact ⟨outcome, onCache_eq_ok_iff.mpr ⟨cache, inserted, rfl⟩, rfl⟩

theorem serve_lookup_iff {query : Query} {answer : Reply × List Happening} :
    serve (.lookup query) sweeper = .ok answer after ↔
      ∃ memo cache, Cache.lookup query sweeper.cache = .ok memo cache ∧
        answer = (.found memo, []) ∧ after = { sweeper with cache } := by
  change (onCache (Cache.lookup query) >>= fun memo => pure (Reply.found memo, [])) sweeper =
    _ ↔ _
  rw [bind_pure_eq_ok_iff]
  constructor
  · rintro ⟨memo, used, rfl⟩
    obtain ⟨cache, looked, rfl⟩ := onCache_eq_ok_iff.mp used
    exact ⟨memo, cache, looked, rfl, rfl⟩
  · rintro ⟨memo, cache, looked, rfl, rfl⟩
    exact ⟨memo, onCache_eq_ok_iff.mpr ⟨cache, looked, rfl⟩, rfl⟩

theorem advance_eq_ok_iff {tick : Tick} :
    advance sweeper = .ok tick after ↔
      sweeper.clock.next = .ok tick ∧ after = { sweeper with clock := ⟨tick⟩ } := by
  unfold advance
  cases next : sweeper.clock.next with
  | ok other =>
    simp only [Clock.advance_of_next next]
    constructor
    · intro same
      cases same
      exact ⟨rfl, rfl⟩
    · rintro ⟨same, rfl⟩
      cases same
      rfl
  | error fault =>
    constructor
    · intro same
      cases same
    · rintro ⟨same, _⟩
      cases same

theorem serve_advance_iff {answer : Reply × List Happening} :
    serve .advance sweeper = .ok answer after ↔
      ∃ tick, sweeper.clock.next = .ok tick ∧ answer = (.advanced tick, []) ∧
        after = { sweeper with clock := ⟨tick⟩ } := by
  change (advance >>= fun tick => pure (Reply.advanced tick, [])) sweeper = _ ↔ _
  rw [bind_pure_eq_ok_iff]
  constructor
  · rintro ⟨tick, advanced, rfl⟩
    obtain ⟨next, rfl⟩ := advance_eq_ok_iff.mp advanced
    exact ⟨tick, next, rfl, rfl⟩
  · rintro ⟨tick, next, rfl, rfl⟩
    exact ⟨tick, advance_eq_ok_iff.mpr ⟨next, rfl⟩, rfl⟩

/-- Whether a step lets time pass, with or without the lock. -/
def Step.lapses : Step → Bool
  | .sleep _ | .hold _ => true
  | .advance | .insert _ | .lookup _ | .abort => false

/-- A step that lets time pass starts the loop, and the loop goes on from there. -/
theorem moves_of_lapse {step : Step} {answer : Reply × List Happening}
    (settled : sweeper.Settled) (lapses : step.lapses = true)
    (allowed : ∀ millis, step = .hold millis → stalls)
    (served : serve step sweeper = .ok answer after) :
    ∃ done, step.deeds sweeper.clock.tick answer = (sweeper.start.1 ++ done).map .loop ∧
      Moves stalls sweeper.start.2 (done.map .loop) after ∧ after.Settled := by
  have free := free_start settled.free
  have near := (moves_start stalls sweeper).near settled.near
  have soon (millis : Nat) : sweeper.start.2.now ≤ sweeper.now + millis := by
    rw [now_start]
    exact Nat.le_add_right _ _
  cases step with
  | sleep millis =>
    rw [serve_sleep] at served
    cases served
    exact ⟨_, rfl, moves_runUntil stalls (soon millis) free near⟩
  | hold millis =>
    rw [serve_hold] at served
    cases served
    have locked := moves_runLocked stalls (soon millis) free (allowed millis rfl)
    obtain ⟨released, last⟩ := moves_release stalls (locked.near near)
    have both := locked.trans released
    rw [← List.map_append] at both
    refine ⟨_, ?_, both, last⟩
    rw [← List.append_assoc]
    rfl
  | _ => cases lapses

/-- A step is made of moves. Only a hold of the lock makes the loop wait for it. -/
theorem moves_of_serve {step : Step} {answer : Reply × List Happening}
    (settled : sweeper.Settled) (allowed : ∀ millis, step = .hold millis → stalls)
    (served : serve step sweeper = .ok answer after) :
    Moves stalls sweeper (step.deeds sweeper.clock.tick answer) after ∧ after.Settled := by
  have lapse (lapses : step.lapses = true) :
      Moves stalls sweeper (step.deeds sweeper.clock.tick answer) after ∧ after.Settled := by
    obtain ⟨done, deeds, moves, last⟩ := moves_of_lapse settled lapses allowed served
    rw [deeds, List.map_append]
    exact ⟨(moves_start stalls sweeper).trans moves, last⟩
  cases step with
  | sleep millis => exact lapse rfl
  | hold millis => exact lapse rfl
  | abort =>
    rw [serve_abort] at served
    cases served
    exact ⟨(Move.stop settled.free).moves, settled_of_ended rfl⟩
  | advance =>
    obtain ⟨tick, next, rfl, rfl⟩ := serve_advance_iff.mp served
    exact ⟨(Move.advance next).moves, settled.free, settled.ahead, settled.near⟩
  | insert memo =>
    obtain ⟨outcome, cache, inserted, rfl, rfl⟩ := serve_insert_iff.mp served
    exact ⟨(Move.insert inserted).moves, settled.free, settled.ahead, settled.near⟩
  | lookup query =>
    obtain ⟨memo, cache, looked, rfl, rfl⟩ := serve_lookup_iff.mp served
    exact ⟨(Move.lookup looked).moves, settled.free, settled.ahead, settled.near⟩

theorem serveAll_cons_iff (step : Step) (steps : List Step) (sweeper : Sweeper policy)
    {answers : List (Reply × List Happening)} :
    serveAll (step :: steps) sweeper = .ok answers after ↔
      ∃ answer between others, serve step sweeper = .ok answer between ∧
        serveAll steps between = .ok others after ∧ answers = answer :: others := by
  change (serve step >>= fun answer => serveAll steps >>= fun others =>
    pure (answer :: others)) sweeper = _ ↔ _
  rw [bind_eq_ok_iff]
  constructor
  · rintro ⟨answer, between, served, rest⟩
    obtain ⟨others, _, rest, same⟩ := bind_eq_ok_iff.mp rest
    cases same
    exact ⟨answer, between, others, served, rest, rfl⟩
  · rintro ⟨answer, between, others, served, rest, rfl⟩
    exact ⟨answer, between, served, bind_eq_ok_iff.mpr ⟨others, after, rest, rfl⟩⟩

theorem chronicle_of_serve {step : Step} {answer : Reply × List Happening}
    (served : serve step sweeper = .ok answer after) (steps : List Step) :
    chronicle (step :: steps) sweeper =
      step.deeds sweeper.clock.tick answer ++ chronicle steps after := by
  simp only [chronicle, served]

variable (stalls) in
/-- A run is made of moves, and if nothing faults they come to where the run ends. -/
theorem moves_chronicle (steps : List Step) (settled : sweeper.Settled)
    (allowed : ∀ millis, .hold millis ∈ steps → stalls) :
    ∃ last, Moves stalls sweeper (chronicle steps sweeper) last ∧ last.Settled ∧
      ∀ answers after, serveAll steps sweeper = .ok answers after → after = last := by
  induction steps generalizing sweeper with
  | nil =>
    refine ⟨sweeper, .none, settled, ?_⟩
    intro answers after served
    cases served
    rfl
  | cons step steps ih =>
    cases served : serve step sweeper with
    | ok answer between =>
      obtain ⟨first, settled⟩ := moves_of_serve settled
        (fun millis same => allowed millis (by simp [same])) served
      obtain ⟨last, others, rested, ends⟩ := ih settled
        (fun millis member => allowed millis (List.mem_cons_of_mem _ member))
      rw [chronicle_of_serve served]
      refine ⟨last, first.trans others, rested, ?_⟩
      intro answers after all
      obtain ⟨_, _, answers, same, rest, _⟩ := (serveAll_cons_iff step steps sweeper).mp all
      rw [served] at same
      cases same
      exact ends answers after rest
    | error fault between =>
      simp only [chronicle, served]
      refine ⟨sweeper, .none, settled, ?_⟩
      intro answers after all
      obtain ⟨_, _, _, same, _⟩ := (serveAll_cons_iff step steps sweeper).mp all
      rw [served] at same
      cases same

/-- A run of a new loop is made of moves. The loop waits for the lock only if a step holds it. -/
theorem moves_of_run (policy : Policy) (interval : Nat) (steps : List Step) :
    let new : Sweeper policy := { interval }
    ∃ last, Moves (∃ millis, .hold millis ∈ steps) new (chronicle steps new) last ∧
      last.Settled ∧ ∀ answers after, serveAll steps new = .ok answers after → after = last :=
  moves_chronicle _ steps (settled_new interval) fun millis member => ⟨millis, member⟩

end Sweeper

end RouteCache
