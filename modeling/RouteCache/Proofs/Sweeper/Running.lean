import RouteCache.Proofs.Cache.Dealings
import RouteCache.Proofs.Cache.Timely
import RouteCache.Proofs.Sweeper.Runs

/-!
Runs that are short enough for the clock and the counters of the cache. The clock has moved
once for each advance of the loop and each prompt, the cache is the one that all its uses
come to when they are made one after another, and no memo in it is of a later tick than the
clock shows. So nothing is out of order and nothing overflows: no step faults, and the loop
ends only when it is stopped or has no interval.
-/

namespace RouteCache

namespace Sweeper

/-- Fewer uses of the cache and fewer moves of the clock than a word can count. -/
structure Fits (log : List Deed) : Prop where
  uses : uses log < UInt64.size
  ticks : (advances log).length + prompts log < UInt64.size

theorem Fits.of_append {first second : List Deed} (fits : Fits (first ++ second)) :
    Fits first where
  uses := by
    have all := fits.uses
    rw [uses_append] at all
    omega
  ticks := by
    have all := fits.ticks
    rw [advances_append, List.length_append, prompts_append] at all
    omega

variable {policy : Policy} {stalls : Prop} {sweeper after : Sweeper policy}
  {log deeds : List Deed}

/-- What holds after all that a log tells, as long as it fits. -/
structure Running (log : List Deed) (sweeper : Sweeper policy) : Prop where
  clock : sweeper.clock.tick.toNat = (advances log).length + prompts log
  timely : sweeper.cache.Timely (fun _ => True) (uses log) (uses log) sweeper.clock.tick
  dealt : Cache.Dealt (dealings log) sweeper.cache
  alive : sweeper.phase = .ended → sweeper.interval = 0 ∨ .stopped ∈ log

theorem running_new (interval : Nat) : Running [] ({ interval } : Sweeper policy) where
  clock := rfl
  timely := Cache.timely_empty _ _
  dealt := rfl
  alive := by
    intro ended
    cases ended

theorem Running.alive_later (running : Running log sweeper) (deeds : List Deed)
    (ended : sweeper.phase = .ended) : sweeper.interval = 0 ∨ .stopped ∈ log ++ deeds :=
  (running.alive ended).imp_right (List.mem_append_left deeds)

/-- Deeds that neither move the clock nor use the cache count for nothing. -/
theorem Running.quiet (running : Running log sweeper) (unmoved : advances deeds = [])
    (unprompted : prompts deeds = 0) (unused : uses deeds = 0) (undealt : dealings deeds = [])
    (clock : after.clock = sweeper.clock) (cache : after.cache = sweeper.cache)
    (alive : after.phase = .ended → after.interval = 0 ∨ .stopped ∈ log ++ deeds) :
    Running (log ++ deeds) after where
  clock := by
    rw [advances_append, prompts_append, unmoved, unprompted, clock, List.append_nil]
    exact running.clock
  timely := by
    rw [uses_append, unused, clock, cache]
    exact running.timely
  dealt := by
    rw [dealings_append, undealt, List.append_nil, cache]
    exact running.dealt
  alive := alive

/-- Deeds that move the clock to its next tick. -/
theorem Running.ticked (running : Running log sweeper) {tick : Tick}
    (next : sweeper.clock.next = .ok tick)
    (once : (advances deeds).length + prompts deeds = 1) (unused : uses deeds = 0)
    (undealt : dealings deeds = []) (clock : after.clock = ⟨tick⟩)
    (cache : after.cache = sweeper.cache)
    (alive : after.phase = .ended → after.interval = 0 ∨ .stopped ∈ log ++ deeds) :
    Running (log ++ deeds) after where
  clock := by
    rw [advances_append, List.length_append, prompts_append, clock, Clock.toNat_of_next next,
      running.clock]
    omega
  timely := by
    rw [uses_append, unused, clock, cache]
    exact running.timely.mono (Nat.le_refl _) (Nat.le_refl _) (Clock.le_of_next next)
  dealt := by
    rw [dealings_append, undealt, List.append_nil, cache]
    exact running.dealt
  alive := alive

/-- Deeds that use the cache. -/
theorem Running.used (running : Running log sweeper) {request : Cache.Request}
    {reply : Cache.Reply} (unmoved : advances deeds = []) (unprompted : prompts deeds = 0)
    (dealt : dealings deeds = [(request, reply)]) (clock : after.clock = sweeper.clock)
    (served : Cache.serve request sweeper.cache = .ok reply after.cache)
    (timely : after.cache.Timely (fun _ => True) (uses log + uses deeds)
      (uses log + uses deeds) sweeper.clock.tick)
    (alive : after.phase = .ended → after.interval = 0 ∨ .stopped ∈ log ++ deeds) :
    Running (log ++ deeds) after where
  clock := by
    rw [advances_append, prompts_append, unmoved, unprompted, clock, List.append_nil]
    exact running.clock
  timely := by
    rw [uses_append, clock]
    exact timely
  dealt := by
    rw [dealings_append, dealt]
    exact Cache.dealt_concat_iff.mpr ⟨sweeper.cache, running.dealt, served⟩
  alive := alive

/-- A clock that is about to be advanced has a next tick. -/
theorem Running.not_full (running : Running log sweeper) {time : Nat} {tick : Tick}
    (fits : Fits (log ++ [.loop (.advanced time tick)])) (fault : Fault) :
    sweeper.clock.next ≠ .error fault := by
  intro full
  have most := Clock.full_of_next full
  have ticks : (advances log).length + 1 + prompts log < UInt64.size := by
    have all := fits.ticks
    rw [advances_append, List.length_append, prompts_append] at all
    exact all
  rw [running.clock] at most
  omega

theorem Running.not_failed (running : Running log sweeper) (fits : Fits log) (tick : Tick)
    (fault : Fault) (cache : Cache policy) :
    Cache.expire tick sweeper.cache ≠ .error fault cache := by
  intro failed
  obtain ⟨number, left, expired⟩ := running.timely.exists_expire fits.uses fits.uses tick
  rw [expired] at failed
  cases failed

/-- Every move of a log that fits keeps the clock and the cache in step with the log. -/
theorem Move.running (move : Move stalls sweeper deeds after) (running : Running log sweeper)
    (fits : Fits (log ++ deeds)) : Running (log ++ deeds) after := by
  cases move with
  | start idle positive =>
    refine running.quiet rfl rfl rfl rfl rfl rfl ?_
    intro ended
    cases ended
  | refuse idle zero => exact running.quiet rfl rfl rfl rfl rfl rfl fun _ => .inl zero
  | takeUp waits next =>
    refine running.ticked next rfl rfl rfl rfl rfl ?_
    intro ended
    cases ended
  | overrun waits full => exact absurd full (running.not_full fits _)
  | expire blocked expired =>
    refine running.used rfl rfl rfl rfl (Cache.serve_expire_iff.mpr ⟨_, expired, rfl⟩)
      (running.timely.expire expired) ?_
    intro ended
    cases ended
  | fail blocked failed => exact absurd failed (running.not_failed fits.of_append _ _ _)
  | pass later free ahead =>
    exact running.quiet rfl rfl rfl rfl rfl rfl (running.alive_later [])
  | stall allowed later blocked =>
    exact running.quiet rfl rfl rfl rfl rfl rfl (running.alive_later [])
  | advance next =>
    exact running.ticked next rfl rfl rfl rfl rfl (running.alive_later _)
  | insert inserted =>
    refine running.used rfl rfl rfl rfl (Cache.serve_insert_iff.mpr ⟨_, inserted, rfl⟩) ?_
      (running.alive_later _)
    exact (running.timely.insert inserted trivial).mono (Nat.le_succ _) (Nat.le_refl _)
      (UInt64.le_refl _)
  | lookup looked =>
    refine running.used rfl rfl rfl rfl (Cache.serve_lookup_iff.mpr ⟨_, looked, rfl⟩) ?_
      (running.alive_later _)
    exact (running.timely.lookup looked).mono (Nat.le_refl _) (Nat.le_succ _)
      (UInt64.le_refl _)
  | stop free =>
    refine running.quiet rfl rfl rfl rfl rfl rfl ?_
    intro _
    exact .inr (List.mem_append_right _ (List.mem_singleton_self _))

theorem Moves.running {start : Sweeper policy} {before : List Deed}
    (moves : Moves stalls start log after) (running : Running before start)
    (fits : Fits (before ++ log)) : Running (before ++ log) after := by
  induction moves with
  | none =>
    rw [List.append_nil]
    exact running
  | more _ move ih =>
    rw [← List.append_assoc] at fits ⊢
    exact move.running (ih fits.of_append) fits

/-- What every move of a log that fits keeps is kept by all of them. -/
theorem Moves.carry {P : List Deed → Sweeper policy → Prop}
    (moves : Moves stalls sweeper log after) (running : Running [] sweeper) (fits : Fits log)
    (first : P [] sweeper)
    (step : ∀ log between deeds last, Move stalls between deeds last → Running log between →
      Fits (log ++ deeds) → P log between → P (log ++ deeds) last) : P log after := by
  induction moves with
  | none => exact first
  | more moves move ih =>
    exact step _ _ _ _ move (moves.running running fits.of_append) fits (ih fits.of_append)

/-! ### Nothing faults -/

/-- A step uses the cache once at most, and only the one that prompts the clock counts as a
prompt. What the loop did meanwhile is in its answer. -/
theorem counts_deeds {step : Step} {answer : Reply × List Happening}
    (served : serve step sweeper = .ok answer after) :
    uses (step.deeds sweeper.clock.tick answer) ≤ 1 ∧
      prompts (step.deeds sweeper.clock.tick answer) = [step].count .advance ∧
      happenings (step.deeds sweeper.clock.tick answer) = answer.2 := by
  have unused (done : List Happening) : uses (done.map .loop) ≤ 1 := by
    rw [uses, List.countP_map]
    exact Nat.le_trans (Nat.le_of_eq (List.countP_eq_zero.mpr fun _ _ => Bool.false_ne_true))
      (Nat.zero_le _)
  have unprompted (done : List Happening) : prompts (done.map .loop) = 0 := by
    rw [prompts, List.countP_map]
    exact List.countP_eq_zero.mpr fun _ _ => Bool.false_ne_true
  cases step with
  | sleep millis =>
    rw [serve_sleep] at served
    cases served
    exact ⟨unused _, unprompted _, happenings_loop _⟩
  | hold millis =>
    rw [serve_hold] at served
    cases served
    exact ⟨unused _, unprompted _, happenings_loop _⟩
  | abort =>
    rw [serve_abort] at served
    cases served
    exact ⟨Nat.zero_le _, rfl, rfl⟩
  | advance =>
    obtain ⟨tick, _, rfl, _⟩ := serve_advance_iff.mp served
    exact ⟨Nat.zero_le _, rfl, rfl⟩
  | insert memo =>
    obtain ⟨outcome, cache, _, rfl, _⟩ := serve_insert_iff.mp served
    exact ⟨Nat.le_refl _, rfl, rfl⟩
  | lookup query =>
    obtain ⟨answered, cache, _, rfl, _⟩ := serve_lookup_iff.mp served
    exact ⟨Nat.le_refl _, rfl, rfl⟩

theorem count_cons_eq (step : Step) (steps : List Step) :
    (step :: steps).count .advance = [step].count .advance + steps.count .advance := by
  rw [← List.singleton_append, List.count_append]

/-- The trace of a run that does not fault shows every prompt and no more uses of the cache
than there are steps, and what the loop did is in the answers. -/
theorem counts_chronicle {steps : List Step} {answers : List (Reply × List Happening)}
    (run : serveAll steps sweeper = .ok answers after) :
    uses (chronicle steps sweeper) ≤ steps.length ∧
      prompts (chronicle steps sweeper) = steps.count .advance ∧
      happenings (chronicle steps sweeper) = answers.flatMap (·.2) := by
  induction steps generalizing sweeper answers with
  | nil =>
    cases run
    exact ⟨Nat.le_refl _, rfl, rfl⟩
  | cons step steps ih =>
    obtain ⟨answer, between, others, served, rest, rfl⟩ :=
      (serveAll_cons_iff step steps sweeper).mp run
    obtain ⟨used, prompted, done⟩ := counts_deeds served
    obtain ⟨more, later, told⟩ := ih rest
    rw [chronicle_of_serve served, uses_append, prompts_append, happenings_append, prompted,
      done, later, told, count_cons_eq step steps, List.flatMap_cons, List.length_cons,
      Nat.add_comm steps.length]
    exact ⟨Nat.add_le_add used more, rfl, rfl⟩

/-- There is room for one more use of the cache or one more prompt, so a step that asks for
it does not fault. -/
theorem Running.exists_serve (running : Running log sweeper) (step : Step)
    (short : uses log + 1 < UInt64.size)
    (few : (advances log).length + prompts log + [step].count .advance < UInt64.size) :
    ∃ answer after, serve step sweeper = .ok answer after := by
  cases step with
  | sleep millis => exact ⟨_, _, serve_sleep millis sweeper⟩
  | hold millis => exact ⟨_, _, serve_hold millis sweeper⟩
  | abort => exact ⟨_, _, serve_abort sweeper⟩
  | advance =>
    cases next : sweeper.clock.next with
    | ok tick => exact ⟨_, _, serve_advance_iff.mpr ⟨tick, next, rfl, rfl⟩⟩
    | error fault =>
      have most := Clock.full_of_next next
      rw [running.clock] at most
      exact absurd few (Nat.not_lt.mpr most)
  | insert memo =>
    obtain ⟨outcome, cache, inserted⟩ :=
      running.timely.exists_insert (Nat.lt_of_succ_lt short) short memo
    exact ⟨_, _, serve_insert_iff.mpr ⟨outcome, cache, inserted, rfl, rfl⟩⟩
  | lookup query =>
    obtain ⟨cache, looked⟩ :=
      running.timely.exists_lookup short (Nat.lt_of_succ_lt short) query
    exact ⟨_, _, serve_lookup_iff.mpr ⟨_, cache, looked, rfl, rfl⟩⟩

/-- As long as the clock and the counters have room for the steps that are left, none of them
faults. -/
theorem Running.exists_serveAll (running : Running log sweeper) (settled : sweeper.Settled)
    {steps : List Step} (short : uses log + steps.length < UInt64.size)
    (few : (advances (log ++ chronicle steps sweeper)).length + prompts log +
      steps.count .advance < UInt64.size) :
    ∃ answers after, serveAll steps sweeper = .ok answers after ∧
      Running (log ++ chronicle steps sweeper) after := by
  induction steps generalizing sweeper log with
  | nil =>
    simp only [chronicle, List.append_nil]
    exact ⟨[], sweeper, rfl, running⟩
  | cons step steps ih =>
    have counts := count_cons_eq step steps
    have room : (advances log).length + prompts log + [step].count .advance < UInt64.size := by
      rw [advances_append, List.length_append] at few
      omega
    rw [List.length_cons] at short
    obtain ⟨answer, between, served⟩ := running.exists_serve step (by omega) room
    obtain ⟨used, prompted, _⟩ := counts_deeds served
    rw [chronicle_of_serve served, ← List.append_assoc] at few ⊢
    have sum : prompts (log ++ step.deeds sweeper.clock.tick answer) + steps.count .advance =
        prompts log + (step :: steps).count .advance := by
      rw [prompts_append, prompted, counts, Nat.add_assoc]
    have left : uses (log ++ step.deeds sweeper.clock.tick answer) + steps.length <
        UInt64.size := by
      rw [uses_append]
      omega
    rw [Nat.add_assoc, ← sum, ← Nat.add_assoc] at few
    have fits : Fits (log ++ step.deeds sweeper.clock.tick answer) := by
      refine ⟨Nat.lt_of_le_of_lt (Nat.le_add_right _ _) left, ?_⟩
      rw [advances_append, List.length_append] at few
      omega
    obtain ⟨moves, settled⟩ := moves_of_serve settled (fun _ _ => trivial) served
    obtain ⟨answers, after, run, ran⟩ := ih (moves.running running fits) settled left few
    exact ⟨answer :: answers, after,
      (serveAll_cons_iff step steps sweeper).mpr ⟨answer, between, answers, served, run, rfl⟩, ran⟩

/-- Fewer steps, and fewer moves of the clock, than a word can count. -/
structure Brief (policy : Policy) (interval : Nat) (steps : List Step) : Prop where
  short : steps.length < UInt64.size
  few : (advances (chronicle steps ({ interval } : Sweeper policy))).length +
    steps.count .advance < UInt64.size

/-- What there is to say of a run that is brief. -/
structure Ran (interval : Nat) (steps : List Step) (answers : List (Reply × List Happening))
    (after : Sweeper policy) : Prop where
  run : serveAll steps ({ interval } : Sweeper policy) = .ok answers after
  moves : Moves (∃ millis, .hold millis ∈ steps) { interval }
    (chronicle steps ({ interval } : Sweeper policy)) after
  fits : Fits (chronicle steps ({ interval } : Sweeper policy))
  running : Running (chronicle steps ({ interval } : Sweeper policy)) after
  settled : after.Settled

/-- A brief run does not fault. -/
theorem Brief.exists_ran {interval : Nat} {steps : List Step}
    (brief : Brief policy interval steps) :
    ∃ answers, ∃ after : Sweeper policy, Ran interval steps answers after := by
  have short : uses [] + steps.length < UInt64.size := by
    rw [show uses [] = 0 from rfl, Nat.zero_add]
    exact brief.short
  obtain ⟨answers, after, run, running⟩ :=
    (running_new interval).exists_serveAll (settled_new interval) short brief.few
  obtain ⟨last, moves, rested, ends⟩ := moves_of_run policy interval steps
  obtain ⟨used, prompted, _⟩ := counts_chronicle run
  obtain rfl := ends answers after run
  refine ⟨answers, after, run, moves, ⟨Nat.lt_of_le_of_lt used brief.short, ?_⟩, running, rested⟩
  rw [prompted]
  exact brief.few

end Sweeper

end RouteCache
