import RouteCache.Proofs.Sweeper.Rounds
import RouteCache.Proofs.Sweeper.Running

/-!
The ticks of a run. Whoever advances the clock, the ticks that are handed out are one, two,
three and so on, so the clock shows how often it was advanced, and no tick is handed out
twice. Every tick that the loop gets is the tick of one round. The loop has no part in a
cache that a user holds the lock of, and no part in anything once it is stopped.
-/

namespace RouteCache

namespace Sweeper

variable {policy : Policy} {stalls : Prop} {sweeper after : Sweeper policy}
  {log deeds : List Deed} {interval : Nat}

/-- The ticks that were handed out, to the loop and to the steps. -/
def ticks (log : List Deed) : List Tick :=
  log.filterMap fun
    | .loop (.advanced _ tick) => some tick
    | .advanced tick => some tick
    | _ => none

theorem ticks_append (first second : List Deed) :
    ticks (first ++ second) = ticks first ++ ticks second :=
  List.filterMap_append

/-- The ticks that were handed out to the loop. -/
def loopTicks (happenings : List Happening) : List Tick :=
  happenings.filterMap fun
    | .advanced _ tick => some tick
    | _ => none

theorem loopTicks_sublist (log : List Deed) : (loopTicks (happenings log)).Sublist (ticks log) := by
  induction log with
  | nil => exact List.Sublist.refl _
  | cons deed log ih =>
    cases deed with
    | loop happening =>
      cases happening with
      | started time => exact ih
      | advanced time tick => exact ih.cons_cons tick
      | expired time tick number => exact ih
    | advanced tick => exact ih.cons tick
    | asked request reply => exact ih
    | stopped => exact ih

/-! ### One tick after another -/

theorem ticks_ticked (counted : (ticks log).map (·.toNat) = List.range' 1 sweeper.clock.tick.toNat)
    {tick : Tick} (next : sweeper.clock.next = .ok tick) :
    (ticks log ++ [tick]).map (·.toNat) = List.range' 1 tick.toNat := by
  rw [List.map_append, counted, Clock.toNat_of_next next, List.range'_1_concat, List.map_singleton,
    Clock.toNat_of_next next, Nat.add_comm 1]

theorem ticks_quiet {number : Nat} (none : ticks deeds = [])
    (counted : (ticks log).map (·.toNat) = List.range' 1 number) :
    (ticks log ++ ticks deeds).map (·.toNat) = List.range' 1 number := by
  rw [none, List.append_nil]
  exact counted

/-- Whoever advances the clock is handed out the tick after the last one. -/
theorem Move.ticks (move : Move stalls sweeper deeds after) (running : Running log sweeper)
    (fits : Fits (log ++ deeds))
    (counted : (ticks log).map (·.toNat) = List.range' 1 sweeper.clock.tick.toNat) :
    (Sweeper.ticks (log ++ deeds)).map (·.toNat) = List.range' 1 after.clock.tick.toNat := by
  rw [ticks_append]
  cases move with
  | takeUp waits next => exact ticks_ticked counted next
  | advance next => exact ticks_ticked counted next
  | overrun waits full => exact absurd full (running.not_full fits _)
  | _ => exact ticks_quiet rfl counted

/-! ### Whole rounds -/

/-- How often the loop expired memos. -/
def expiries (log : List Deed) : Nat :=
  (happenings log).countP fun
    | .expired _ _ _ => true
    | _ => false

theorem expiries_append (first second : List Deed) :
    expiries (first ++ second) = expiries first + expiries second := by
  rw [expiries, happenings_append, List.countP_append]
  rfl

/-- Whether the loop has a tick at which it has not expired memos yet. -/
def pending (sweeper : Sweeper policy) : Nat :=
  match sweeper.phase with
  | .blocked _ _ => 1
  | _ => 0

theorem pending_of_free (free : sweeper.Free) : sweeper.pending = 0 := by
  unfold pending
  split
  · rename_i tick due blocked
    exact absurd blocked (free tick due)
  · rfl

theorem Move.balanced (move : Move stalls sweeper deeds after) (running : Running log sweeper)
    (fits : Fits (log ++ deeds))
    (balanced : (advances log).length = expiries log + sweeper.pending) :
    (advances (log ++ deeds)).length = expiries (log ++ deeds) + after.pending := by
  rw [advances_append, List.length_append, expiries_append]
  cases move with
  | start idle positive =>
    simp only [pending, idle] at balanced
    exact balanced
  | refuse idle zero =>
    simp only [pending, idle] at balanced
    exact balanced
  | takeUp waits next =>
    simp only [pending, waits] at balanced
    rw [balanced]
    rfl
  | overrun waits full => exact absurd full (running.not_full fits _)
  | expire blocked expired =>
    simp only [pending, blocked] at balanced
    rw [balanced]
    rfl
  | fail blocked failed => exact absurd failed (running.not_failed fits.of_append _ _ _)
  | stop free =>
    rw [pending_of_free free] at balanced
    exact balanced
  | _ => exact balanced

/-- What a log that fits tells of the ticks and of the loop. -/
structure Ticked (log : List Deed) (sweeper : Sweeper policy) : Prop where
  counted : (ticks log).map (·.toNat) = List.range' 1 sweeper.clock.tick.toNat
  balanced : (advances log).length = expiries log + sweeper.pending

theorem Ticked.length_ticks (ticked : Ticked log sweeper) :
    (ticks log).length = sweeper.clock.tick.toNat := by
  rw [← List.length_map, ticked.counted, List.length_range']

theorem Moves.ticked (moves : Moves stalls sweeper log after) (running : Running [] sweeper)
    (fits : Fits log) (ticked : Ticked [] sweeper) : Ticked log after := by
  refine moves.carry running fits ticked ?_
  intro _ _ _ _ move ran fits ⟨counted, balanced⟩
  exact ⟨move.ticks ran fits counted, move.balanced ran fits balanced⟩

/-! ### A loop that is stopped -/

theorem Move.ended (move : Move stalls sweeper deeds after) (ended : sweeper.phase = .ended) :
    after.phase = .ended ∧ happenings deeds = [] := by
  cases move with
  | start idle _ => rw [idle] at ended; cases ended
  | refuse idle _ => rw [idle] at ended; cases ended
  | takeUp waits _ => rw [waits] at ended; cases ended
  | overrun waits _ => rw [waits] at ended; cases ended
  | expire blocked _ => rw [blocked] at ended; cases ended
  | fail blocked _ => rw [blocked] at ended; cases ended
  | stop _ => exact ⟨rfl, rfl⟩
  | _ => exact ⟨ended, rfl⟩

/-- A loop that was stopped has ended, and has done nothing since. -/
structure Silent (log : List Deed) (sweeper : Sweeper policy) : Prop where
  ended : .stopped ∈ log → sweeper.phase = .ended
  after : log.Pairwise fun earlier later =>
    earlier = .stopped → ∀ happening, later ≠ .loop happening

theorem Move.silent (move : Move stalls sweeper deeds after) (silent : Silent log sweeper) :
    Silent (log ++ deeds) after where
  ended := by
    intro member
    rcases List.mem_append.mp member with old | new
    · exact (move.ended (silent.ended old)).1
    · cases move with
      | stop _ => rfl
      | _ => simp at new
  after := by
    refine List.pairwise_append.mpr ⟨silent.after, ?_, ?_⟩
    · rcases move.deeds_eq with rfl | ⟨deed, rfl⟩
      · exact .nil
      · exact List.pairwise_singleton _ _
    · rintro earlier before later member rfl happening rfl
      have done : happenings deeds = [] := (move.ended (silent.ended before)).2
      have told : happening ∈ happenings deeds := List.mem_filterMap.mpr ⟨_, member, rfl⟩
      rw [done] at told
      cases told

theorem Moves.silent (moves : Moves stalls sweeper log after) : Silent log after := by
  induction moves with
  | none =>
    refine ⟨?_, .nil⟩
    intro member
    cases member
  | more _ move ih => exact move.silent ih

/-! ### A cache that a user holds the lock of -/

/-- What there is at a time until which the lock has been held since now. -/
def heldUntil (time : Nat) (sweeper : Sweeper policy) : Sweeper policy :=
  (sweeper.start.2.runLocked time).2

theorem start_shared (sweeper : Sweeper policy) :
    sweeper.start.2.cache = sweeper.cache ∧ sweeper.start.2.clock = sweeper.clock := by
  unfold start
  split <;> exact ⟨rfl, rfl⟩

theorem runLocked_shared (time : Nat) (sweeper : Sweeper policy) :
    (sweeper.runLocked time).2.cache = sweeper.cache ∧
      ((sweeper.runLocked time).2.clock = sweeper.clock ∨
        (sweeper.runLocked time).2.clock = sweeper.clock.advance) := by
  rcases reached_or_ahead sweeper time with ⟨due, waits, reached⟩ | ahead
  · rw [runLocked_of_reached waits reached]
    exact ⟨rfl, .inr rfl⟩
  · rw [runLocked_of_ahead ahead]
    exact ⟨rfl, .inl rfl⟩

theorem heldUntil_shared (time : Nat) (sweeper : Sweeper policy) :
    (sweeper.heldUntil time).cache = sweeper.cache ∧
      ((sweeper.heldUntil time).clock = sweeper.clock ∨
        (sweeper.heldUntil time).clock = sweeper.clock.advance) := by
  have locked := runLocked_shared time sweeper.start.2
  rw [(start_shared sweeper).1, (start_shared sweeper).2] at locked
  exact locked

/-- A hold ends with the lock being freed after so long, and answers with the memos that
there were before it. -/
theorem serve_hold_eq (millis : Nat) (sweeper : Sweeper policy) :
    ∃ happenings, serve (.hold millis) sweeper =
      .ok (.held sweeper.cache.size, happenings)
        (sweeper.heldUntil (sweeper.now + millis)).release.2 := by
  have same : (sweeper.start.2.runLocked (sweeper.now + millis)).2.cache = sweeper.cache :=
    (heldUntil_shared _ sweeper).1
  rw [serve_hold, same]
  exact ⟨_, rfl⟩

/-! ### The ledger -/

theorem ticked_new (interval : Nat) : Ticked [] ({ interval } : Sweeper policy) := ⟨rfl, rfl⟩

theorem loopTicks_append (first second : List Happening) :
    loopTicks (first ++ second) = loopTicks first ++ loopTicks second :=
  List.filterMap_append

theorem loopTicks_rounds (rounds : List Round) :
    loopTicks (rounds.flatMap Round.happenings) = rounds.map (·.tick) := by
  induction rounds with
  | nil => rfl
  | cons round rounds ih =>
    rw [List.flatMap_cons, loopTicks_append, ih]
    rfl

theorem length_advances (log : List Deed) :
    (advances log).length = (loopTicks (happenings log)).length := by
  unfold advances
  induction happenings log with
  | nil => rfl
  | cons happening others ih =>
    cases happening with
    | advanced time tick => exact congrArg (· + 1) ih
    | _ => exact ih

theorem countP_rounds {expires : Happening → Bool}
    (advanced : ∀ time tick, expires (.advanced time tick) = false)
    (expired : ∀ time tick number, expires (.expired time tick number) = true)
    (rounds : List Round) : (rounds.flatMap Round.happenings).countP expires = rounds.length := by
  induction rounds with
  | nil => rfl
  | cons round rounds ih =>
    rw [List.flatMap_cons, List.countP_append, ih, Round.happenings, List.countP_cons_of_neg,
      List.countP_cons_of_pos, List.countP_nil, List.length_cons, Nat.add_comm]
    · exact expired _ _ _
    · rw [advanced]
      exact Bool.false_ne_true

/-- Where the loop has expired memos as often as it has advanced the clock, nothing comes
after the rounds. -/
theorem Tale.whole {rounds : List Round} {rest : List Happening}
    (tale : Tale stalls interval (happenings log) rounds rest)
    (form : rest = [] ∨ ∃ time tick, rest = [.advanced time tick])
    (balanced : (advances log).length = expiries log) :
    rest = [] ∧ loopTicks (happenings log) = rounds.map (·.tick) := by
  obtain ⟨opening, start, told⟩ := tale.told
  have advanced : loopTicks (happenings log) = rounds.map (·.tick) ++ loopTicks rest := by
    rw [told, loopTicks_append, loopTicks_append, loopTicks_rounds]
    rcases start with rfl | ⟨time, rfl⟩ <;> rfl
  have expired : expiries log = rounds.length := by
    unfold expiries
    rw [told, List.countP_append, List.countP_append, countP_rounds (fun _ _ => rfl)
      fun _ _ _ => rfl]
    rcases start with rfl | ⟨time, rfl⟩ <;> rcases form with rfl | ⟨time, tick, rfl⟩ <;>
      exact Nat.zero_add _
  rw [length_advances, advanced, expired, List.length_append, List.length_map] at balanced
  rcases form with rfl | ⟨time, tick, rfl⟩
  · exact ⟨rfl, advanced.trans (List.append_nil _)⟩
  · exact absurd balanced (Nat.succ_ne_self _)

/-- In a run that is brief no step faults, and what the loop does is its start and whole
rounds. The clock has been advanced once in each round and once by each prompt. The ticks of
the rounds grow, and are one, two, three and so on if nobody else advances the clock. The
cache is what all uses of it come to one after another, those by the loop among them. While
the lock is held the cache stays as it is, and the clock is advanced once at most. Once the
loop is stopped it does nothing any more. -/
theorem serveAll_ticks (policy : Policy) (interval : Nat) (steps : List Step)
    (brief : Brief policy interval steps) :
    let log := chronicle steps ({ interval } : Sweeper policy)
    ∃ answers after opening, ∃ rounds : List Round,
      serveAll steps ({ interval } : Sweeper policy) = .ok answers after ∧
      answers.flatMap (·.2) = opening ++ rounds.flatMap Round.happenings ∧
      (opening = [] ∨ ∃ time, opening = [.started time]) ∧
      after.clock.tick.toNat = rounds.length + steps.count .advance ∧
      (rounds.map (·.tick)).Pairwise (· < ·) ∧
      (steps.count .advance = 0 →
        (rounds.map (·.tick)).map (·.toNat) = List.range' 1 rounds.length) ∧
      Cache.Dealt (dealings log) after.cache ∧
      (∀ millis,
        (∃ happenings, serve (.hold millis) after = .ok (.held after.cache.size, happenings)
          (after.heldUntil (after.now + millis)).release.2) ∧
        ∀ time, time ≤ after.now + millis →
          (after.heldUntil time).cache = after.cache ∧
          ((after.heldUntil time).clock = after.clock ∨
            (after.heldUntil time).clock = after.clock.advance)) ∧
      log.Pairwise fun earlier later =>
        earlier = .stopped → ∀ happening, later ≠ .loop happening := by
  intro log
  obtain ⟨answers, after, ran⟩ := brief.exists_ran
  obtain ⟨_, prompted, told⟩ := counts_chronicle ran.run
  have ticked : Ticked log after :=
    ran.moves.ticked (running_new interval) ran.fits (ticked_new interval)
  have balanced : (advances log).length = expiries log := by
    rw [ticked.balanced, pending_of_free ran.settled.free, Nat.add_zero]
  obtain ⟨rounds, rest, tale, form⟩ := exists_tale policy interval steps
  obtain ⟨rfl, mine⟩ := tale.whole form balanced
  obtain ⟨opening, start, parts⟩ := tale.told
  have length : (advances log).length = rounds.length := by
    rw [length_advances, mine, List.length_map]
  have shown : after.clock.tick.toNat = rounds.length + steps.count .advance := by
    rw [ran.running.clock, length, prompted]
  have part : (rounds.map (·.tick)).Sublist (ticks log) := mine ▸ loopTicks_sublist log
  refine ⟨answers, after, opening, rounds, ran.run, ?_, start, shown, ?_, ?_,
    ran.running.dealt, ?_, ran.moves.silent.after⟩
  · rw [← told, parts, List.append_nil]
  · have growing : ((ticks log).map (·.toNat)).Pairwise (· < ·) := by
      rw [ticked.counted]
      exact List.pairwise_lt_range'
    exact (List.pairwise_map.mp growing).sublist part |>.imp UInt64.lt_iff_toNat_lt.mpr
  · intro alone
    have all : rounds.map (·.tick) = ticks log := by
      apply part.eq_of_length
      rw [ticked.length_ticks, shown, alone, List.length_map, Nat.add_zero]
    rw [all, ticked.counted, shown, alone, Nat.add_zero]
  · intro millis
    exact ⟨serve_hold_eq millis after, fun time _ => heldUntil_shared time after⟩

/-- Three rounds beside one prompt. The second waits for the lock, and the third comes as soon
as the lock is free. -/
theorem serveAll_ticks_held :
    let policy := Policy.bounded (Grid.slot ⟨8, 8⟩) 10 1
    let steps : List Step := [.sleep 12, .advance, .hold 25, .abort, .sleep 30]
    Brief policy 10 steps ∧ ∃ answers after, ∃ rounds : List Round,
      serveAll steps ({ interval := 10 } : Sweeper policy) = .ok answers after ∧
      rounds.map (·.tick) = [1, 3, 4] ∧ (rounds.map (·.tick)).Pairwise (· < ·) ∧
      after.clock.tick.toNat = rounds.length + 1 := by
  intro policy steps
  have brief : Brief policy 10 steps := ⟨by decide, by decide +kernel⟩
  obtain ⟨answers, after, opening, rounds, run, told, start, shown, growing, _⟩ :=
    serveAll_ticks policy 10 steps brief
  have closed : ends (fun answers _ => loopTicks (answers.flatMap (·.2)) = [1, 3, 4])
      (serveAll steps ({ interval := 10 } : Sweeper policy)) := by
    decide +kernel
  obtain ⟨_, _, same, mine⟩ := ends_iff.mp closed
  rw [run] at same
  cases same
  refine ⟨brief, answers, after, rounds, run, ?_, growing, shown⟩
  have mine := of_decide_eq_true mine
  rw [told, loopTicks_append, loopTicks_rounds] at mine
  rcases start with rfl | ⟨time, rfl⟩ <;> exact mine

end Sweeper

end RouteCache
