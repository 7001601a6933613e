import RouteCache.Proofs.Sweeper.Running

/-!
The schedule of the loop. Its plan is the times at which it advanced the clock and the next
due time after them. The times of the plan are an interval apart, up to the tolerance, and
none of them is ahead of the schedule that the loop set out with. A run in which nobody holds
the lock keeps to that schedule. A due time that was missed is made up for at once, so
between two steps the next due time is ahead, and by no more than an interval.
-/

namespace RouteCache

namespace Sweeper

variable {policy : Policy} {stalls : Prop} {sweeper after : Sweeper policy}
  {log deeds : List Deed} {start interval time : Nat} {times : List Nat}

/-! ### Lists of times -/

/-- Each time is an interval after the one before, up to the tolerance. -/
def Apart (interval : Nat) (times : List Nat) : Prop :=
  times.Pairwise fun earlier later => earlier + interval ≤ later + tolerance

/-- No time is ahead of its turn, and without stalls each comes in turn. -/
def Paced (stalls : Prop) (start interval : Nat) (times : List Nat) : Prop :=
  ∀ number time, times[number]? = some time →
    start + (number + 1) * interval ≤ time ∧
      (¬stalls → time = start + (number + 1) * interval)

theorem Apart.concat (apart : Apart interval times)
    (later : ∀ earlier ∈ times, earlier + interval ≤ time + tolerance) :
    Apart interval (times ++ [time]) := by
  refine List.pairwise_append.mpr ⟨apart, List.pairwise_singleton _ _, ?_⟩
  intro earlier member last isLast
  rw [List.mem_singleton.mp isLast]
  exact later earlier member

theorem Apart.of_concat (apart : Apart interval (times ++ [time])) :
    Apart interval times ∧ ∀ earlier ∈ times, earlier + interval ≤ time + tolerance := by
  obtain ⟨before, _, across⟩ := List.pairwise_append.mp apart
  exact ⟨before, fun earlier member => across earlier member time (List.mem_singleton_self _)⟩

theorem paced_nil : Paced stalls start interval [] := by
  intro number time there
  cases there

theorem Paced.shorten {more : List Nat} (paced : Paced stalls start interval more)
    (part : times <+: more) : Paced stalls start interval times := by
  obtain ⟨rest, rfl⟩ := part
  intro number time there
  apply paced number time
  obtain ⟨inside, _⟩ := List.getElem?_eq_some_iff.mp there
  rw [List.getElem?_append_left inside]
  exact there

theorem Paced.concat (paced : Paced stalls start interval times)
    (late : start + (times.length + 1) * interval ≤ time)
    (inTurn : ¬stalls → time = start + (times.length + 1) * interval) :
    Paced stalls start interval (times ++ [time]) := by
  intro number last there
  rcases Nat.lt_or_ge number times.length with inside | outside
  · rw [List.getElem?_append_left inside] at there
    exact paced number last there
  · rw [List.getElem?_append_right outside, List.getElem?_singleton] at there
    split at there
    · cases there
      have here : number = times.length := by omega
      rw [here]
      exact ⟨late, inTurn⟩
    · cases there

theorem Paced.of_concat (paced : Paced stalls start interval (times ++ [time])) :
    start + (times.length + 1) * interval ≤ time ∧
      (¬stalls → time = start + (times.length + 1) * interval) :=
  paced times.length time List.getElem?_concat_length

/-! ### The plan -/

/-- The times at which the loop advanced the clock, and the next due time. -/
def plan (log : List Deed) (sweeper : Sweeper policy) : List Nat :=
  advances log ++ sweeper.due?.toList

theorem plan_of_waiting (log : List Deed) {due : Nat} (waits : sweeper.phase = .waiting due) :
    plan log sweeper = advances log ++ [due] := by
  rw [plan, due?_of_waiting waits, Option.toList_some]

structure Punctual (stalls : Prop) (log : List Deed) (sweeper : Sweeper policy) : Prop where
  idle : sweeper.phase = .idle → happenings log = []
  apart : Apart sweeper.interval (plan log sweeper)
  paced : ∀ start, .started start ∈ happenings log →
    Paced stalls start sweeper.interval (plan log sweeper)
  /-- Without stalls no due time is missed. -/
  prompt : ¬stalls → ∀ due, sweeper.due? = some due → sweeper.now ≤ due

theorem punctual_new (interval : Nat) : Punctual stalls [] ({ interval } : Sweeper policy) where
  idle := fun _ => rfl
  apart := .nil
  paced := by
    intro start member
    cases member
  prompt := by
    intro _ due waits
    cases waits

/-- Without stalls a due time is taken up when it comes. -/
theorem Punctual.max_eq (punctual : Punctual stalls log sweeper) {due : Nat}
    (waits : sweeper.phase = .waiting due) (unstalled : ¬stalls) : max sweeper.now due = due :=
  Nat.max_eq_right (punctual.prompt unstalled due (due?_of_waiting waits))

/-- A loop that starts has not advanced the clock yet. -/
theorem Punctual.advances_started (punctual : Punctual stalls log sweeper)
    (idle : sweeper.phase = .idle) (time : Nat) :
    advances (log ++ [.loop (.started time)]) = [] := by
  rw [advances_append, advances, punctual.idle idle]
  rfl

/-- What leaves the plan as it is, or gives up its last time. -/
theorem Punctual.later (punctual : Punctual stalls log sweeper)
    (interval : after.interval = sweeper.interval) (unmoved : advances deeds = [])
    (unstarted : ∀ start, .started start ∉ happenings deeds)
    (awake : after.phase ≠ .idle ∨ after.phase = sweeper.phase ∧ happenings deeds = [])
    (due : after.due? = sweeper.due? ∨ after.due? = none)
    (prompt : ¬stalls → ∀ due, after.due? = some due → after.now ≤ due) :
    Punctual stalls (log ++ deeds) after := by
  have part : plan (log ++ deeds) after <+: plan log sweeper := by
    rw [plan, plan, advances_append, unmoved, List.append_nil]
    rcases due with same | none
    · exact same ▸ List.prefix_refl _
    · rw [none, Option.toList_none, List.append_nil]
      exact List.prefix_append _ _
  refine ⟨?_, ?_, ?_, prompt⟩
  · intro idle
    rcases awake with awake | ⟨same, quiet⟩
    · exact absurd idle awake
    · rw [happenings_append, quiet, List.append_nil]
      exact punctual.idle (same.symm.trans idle)
  · rw [interval]
    exact punctual.apart.sublist part.sublist
  · intro start member
    rw [happenings_append, List.mem_append] at member
    rw [interval]
    exact (punctual.paced start (member.resolve_right (unstarted start))).shorten part

/-- The plan once the due time at hand is taken up. -/
theorem Punctual.taken (punctual : Punctual stalls log sweeper) {due : Nat}
    (waits : sweeper.phase = .waiting due) :
    Apart sweeper.interval (advances log ++ [max sweeper.now due]) ∧
      ∀ start, .started start ∈ happenings log →
        Paced stalls start sweeper.interval (advances log ++ [max sweeper.now due]) := by
  have reached : due ≤ max sweeper.now due := Nat.le_max_right _ _
  have apart := punctual.apart
  rw [plan_of_waiting log waits] at apart
  obtain ⟨before, across⟩ := apart.of_concat
  refine ⟨before.concat ?_, ?_⟩
  · intro earlier member
    exact Nat.le_trans (across earlier member) (Nat.add_le_add_right reached _)
  · intro start member
    have paced := punctual.paced start member
    rw [plan_of_waiting log waits] at paced
    obtain ⟨late, inTurn⟩ := paced.of_concat
    refine (paced.shorten (List.prefix_append _ _)).concat (Nat.le_trans late reached) ?_
    intro unstalled
    rw [punctual.max_eq waits unstalled]
    exact inTurn unstalled

/-- The due time after one that was taken up follows it in the plan. -/
theorem Punctual.planned (punctual : Punctual stalls log sweeper) {due : Nat}
    (waits : sweeper.phase = .waiting due) :
    let times := advances log ++ [max sweeper.now due]
    let next := nextDue sweeper.interval due (max sweeper.now due)
    Apart sweeper.interval (times ++ [next]) ∧
      (∀ start, .started start ∈ happenings log →
        Paced stalls start sweeper.interval (times ++ [next])) ∧
      (¬stalls → max sweeper.now due ≤ next) := by
  intro times next
  obtain ⟨apart, paced⟩ := punctual.taken waits
  have further : due + sweeper.interval ≤ next := add_le_nextDue _ _ _
  have regular (unstalled : ¬stalls) : next = due + sweeper.interval := by
    have early : max sweeper.now due ≤ due + tolerance := by
      rw [punctual.max_eq waits unstalled]
      exact Nat.le_add_right _ _
    exact if_pos early
  refine ⟨apart.concat ?_, ?_, ?_⟩
  · intro earlier member
    have before := punctual.apart
    rw [plan_of_waiting log waits] at before
    rcases List.mem_append.mp member with old | last
    · exact Nat.le_trans (before.of_concat.2 earlier old)
        (Nat.add_le_add_right (Nat.le_trans (Nat.le_add_right _ _) further) _)
    · rw [List.mem_singleton.mp last]
      exact add_le_nextDue_add _ _ _
  · intro start member
    have old := punctual.paced start member
    rw [plan_of_waiting log waits] at old
    obtain ⟨late, inTurn⟩ := old.of_concat
    have length : times.length = (advances log).length + 1 := List.length_append
    apply (paced start member).concat
    · rw [length, Nat.succ_mul]
      omega
    · intro unstalled
      rw [length, Nat.succ_mul, regular unstalled, inTurn unstalled, Nat.add_assoc]
  · intro unstalled
    rw [punctual.max_eq waits unstalled]
    exact Nat.le_trans (Nat.le_add_right _ _) further

theorem Free.waiting (free : sweeper.Free) {due : Nat} (waits : sweeper.due? = some due) :
    sweeper.phase = .waiting due := by
  cases phase : sweeper.phase with
  | waiting next =>
    cases (due?_of_waiting phase).symm.trans waits
    rfl
  | blocked tick next => exact absurd phase (free tick next)
  | _ =>
    simp only [due?, phase] at waits
    cases waits

/-- The plan of a loop that has just started is its first due time. -/
theorem Punctual.started (punctual : Punctual stalls log sweeper)
    (idle : sweeper.phase = .idle) :
    Punctual stalls (log ++ [.loop (.started sweeper.now)])
      { sweeper with phase := .waiting (sweeper.now + sweeper.interval) } := by
  have unmoved := punctual.advances_started idle sweeper.now
  refine ⟨?_, ?_, ?_, ?_⟩
  · intro waits
    cases waits
  · rw [plan, unmoved]
    exact List.pairwise_singleton _ _
  · intro start member
    rw [happenings_append, punctual.idle idle] at member
    cases List.mem_singleton.mp member
    rw [plan, unmoved]
    have first : sweeper.now + sweeper.interval =
        sweeper.now + (([] : List Nat).length + 1) * sweeper.interval := by
      rw [List.length_nil, Nat.zero_add, Nat.one_mul]
    exact paced_nil.concat (Nat.le_of_eq first.symm) fun _ => first
  · intro _ due waits
    cases waits
    exact Nat.le_add_right _ _

theorem mem_of_started_mem {start time : Nat} {tick : Tick}
    (member : .started start ∈ happenings (log ++ [.loop (.advanced time tick)])) :
    .started start ∈ happenings log := by
  rw [happenings_append, List.mem_append] at member
  refine member.resolve_right ?_
  intro last
  cases List.mem_singleton.mp last

/-- Every move keeps to the plan. -/
theorem Move.punctual (move : Move stalls sweeper deeds after)
    (punctual : Punctual stalls log sweeper) : Punctual stalls (log ++ deeds) after := by
  have prompt := punctual.prompt
  cases move with
  | start idle positive => exact punctual.started idle
  | refuse idle zero =>
    have unmoved := punctual.advances_started idle sweeper.now
    refine ⟨?_, ?_, ?_, ?_⟩
    · intro ended
      cases ended
    · rw [plan, unmoved]
      exact .nil
    · intro start _
      rw [plan, unmoved]
      exact paced_nil
    · intro _ due waits
      cases waits
  | takeUp waits next =>
    obtain ⟨apart, paced, early⟩ := punctual.planned waits
    refine ⟨?_, ?_, ?_, ?_⟩
    · intro blocked
      cases blocked
    · rw [plan, advances_append]
      exact apart
    · intro start member
      rw [plan, advances_append]
      exact paced start (mem_of_started_mem member)
    · intro unstalled due blocked
      cases blocked
      exact early unstalled
  | overrun waits full =>
    obtain ⟨apart, paced⟩ := punctual.taken waits
    refine ⟨?_, ?_, ?_, ?_⟩
    · intro ended
      cases ended
    · rw [plan, advances_append]
      exact (List.append_nil _).symm ▸ apart
    · intro start member
      rw [plan, advances_append]
      exact (List.append_nil _).symm ▸ paced start (mem_of_started_mem member)
    · intro _ due waits
      cases waits
  | expire blocked expired =>
    refine punctual.later rfl rfl ?_ (.inl (by simp)) (.inl (due?_of_blocked blocked).symm) ?_
    · intro start member
      cases List.mem_singleton.mp member
    · intro unstalled due waits
      cases waits
      exact prompt unstalled _ (due?_of_blocked blocked)
  | fail blocked failed =>
    refine punctual.later rfl rfl (fun _ => List.not_mem_nil) (.inl (by simp)) (.inr rfl) ?_
    intro _ due waits
    cases waits
  | pass later free ahead =>
    refine punctual.later rfl rfl (fun _ => List.not_mem_nil) (.inr ⟨rfl, rfl⟩) (.inl rfl) ?_
    intro _ due waits
    exact Nat.le_of_lt (ahead due (free.waiting waits))
  | stall allowed later blocked =>
    refine punctual.later rfl rfl (fun _ => List.not_mem_nil) (.inr ⟨rfl, rfl⟩) (.inl rfl) ?_
    intro unstalled
    exact absurd allowed unstalled
  | advance next =>
    exact punctual.later rfl rfl (fun _ => List.not_mem_nil) (.inr ⟨rfl, rfl⟩) (.inl rfl) prompt
  | insert inserted =>
    exact punctual.later rfl rfl (fun _ => List.not_mem_nil) (.inr ⟨rfl, rfl⟩) (.inl rfl) prompt
  | lookup looked =>
    exact punctual.later rfl rfl (fun _ => List.not_mem_nil) (.inr ⟨rfl, rfl⟩) (.inl rfl) prompt
  | stop free =>
    refine punctual.later rfl rfl (fun _ => List.not_mem_nil) (.inl (by simp)) (.inr rfl) ?_
    intro _ due waits
    cases waits

theorem Moves.punctual (moves : Moves stalls sweeper log after)
    (punctual : Punctual stalls [] sweeper) : Punctual stalls log after := by
  induction moves with
  | none => exact punctual
  | more _ move ih => exact move.punctual ih

/-! ### A loop that has started -/

theorem Move.begun (move : Move stalls sweeper deeds after)
    (begun : sweeper.phase ≠ .idle →
      (∃ start, .started start ∈ happenings log) ∨ .stopped ∈ log) :
    after.phase ≠ .idle →
      (∃ start, .started start ∈ happenings (log ++ deeds)) ∨ .stopped ∈ log ++ deeds := by
  intro awake
  have carry (before : sweeper.phase ≠ .idle) :
      (∃ start, .started start ∈ happenings (log ++ deeds)) ∨ .stopped ∈ log ++ deeds := by
    refine (begun before).imp ?_ (List.mem_append_left _)
    rintro ⟨start, member⟩
    rw [happenings_append]
    exact ⟨start, List.mem_append_left _ member⟩
  cases move with
  | start idle positive =>
    rw [happenings_append]
    exact .inl ⟨_, List.mem_append_right _ (List.mem_singleton_self _)⟩
  | refuse idle zero =>
    rw [happenings_append]
    exact .inl ⟨_, List.mem_append_right _ (List.mem_singleton_self _)⟩
  | takeUp waits next => exact carry (by simp [waits])
  | overrun waits full => exact carry (by simp [waits])
  | expire blocked expired => exact carry (by simp [blocked])
  | fail blocked failed => exact carry (by simp [blocked])
  | stop free => exact .inr (List.mem_append_right _ (List.mem_singleton_self _))
  | _ => exact carry awake

theorem Moves.begun (moves : Moves stalls sweeper log after) (idle : sweeper.phase = .idle) :
    after.phase ≠ .idle → (∃ start, .started start ∈ happenings log) ∨ .stopped ∈ log := by
  induction moves with
  | none => exact fun awake => absurd idle awake
  | more _ move ih => exact move.begun ih

theorem Move.awake (move : Move stalls sweeper deeds after) (awake : sweeper.phase ≠ .idle) :
    after.phase ≠ .idle := by
  cases move with
  | start idle positive => exact absurd idle awake
  | refuse idle zero => exact absurd idle awake
  | pass later free ahead => exact awake
  | stall allowed later blocked => exact awake
  | advance next => exact awake
  | insert inserted => exact awake
  | lookup looked => exact awake
  | _ => exact fun idle => by cases idle

theorem Moves.awake (moves : Moves stalls sweeper log after) (awake : sweeper.phase ≠ .idle) :
    after.phase ≠ .idle := by
  induction moves with
  | none => exact awake
  | more _ move ih => exact move.awake ih

theorem awake_start (sweeper : Sweeper policy) : sweeper.start.2.phase ≠ .idle := by
  unfold start
  split
  · change (if sweeper.interval = 0 then Phase.ended else _) ≠ .idle
    split <;> exact fun idle => by cases idle
  · assumption

/-- A run with a step that lets time pass has started the loop. -/
theorem awake_of_serveAll {steps : List Step} {answers : List (Reply × List Happening)}
    (settled : sweeper.Settled)
    (woken : sweeper.phase ≠ .idle ∨ ∃ step ∈ steps, step.lapses = true)
    (run : serveAll steps sweeper = .ok answers after) : after.phase ≠ .idle := by
  induction steps generalizing sweeper answers with
  | nil =>
    cases run
    exact woken.resolve_right (by simp)
  | cons step steps ih =>
    obtain ⟨answer, between, others, served, rest, rfl⟩ :=
      (serveAll_cons_iff step steps sweeper).mp run
    obtain ⟨moves, settled'⟩ := moves_of_serve settled (fun _ _ => trivial) served
    refine ih settled' ?_ rest
    rcases woken with awake | ⟨other, member, lapses⟩
    · exact .inl (moves.awake awake)
    · rcases List.mem_cons.mp member with rfl | later
      · obtain ⟨_, _, moves, _⟩ := moves_of_lapse settled lapses (fun _ _ => trivial) served
        exact .inl (moves.awake (awake_start sweeper))
      · exact .inr ⟨other, later, lapses⟩

theorem stopped_mem_deeds {step : Step} {tick : Tick} {answer : Reply × List Happening}
    (member : .stopped ∈ step.deeds tick answer) : step = .abort := by
  unfold Step.deeds at member
  split at member
  · cases List.mem_singleton.mp member
  · cases List.mem_singleton.mp member
  · cases List.mem_singleton.mp member
  · rfl
  · obtain ⟨_, _, same⟩ := List.mem_map.mp member
    cases same

theorem stopped_mem_chronicle {steps : List Step}
    (member : .stopped ∈ chronicle steps sweeper) : .abort ∈ steps := by
  induction steps generalizing sweeper with
  | nil => cases member
  | cons step steps ih =>
    unfold chronicle at member
    split at member
    · rename_i answer between served
      rcases List.mem_append.mp member with here | later
      · rw [stopped_mem_deeds here]
        exact List.mem_cons_self
      · exact List.mem_cons_of_mem _ (ih later)
    · cases member

/-- A brief run whose loop has an interval and is not stopped leaves the loop waiting, if it
ever let time pass. -/
theorem Ran.waiting {interval : Nat} {steps : List Step}
    {answers : List (Reply × List Happening)} (ran : Ran interval steps answers after)
    (positive : 0 < interval) (unstopped : .abort ∉ steps)
    (lapses : ∃ step ∈ steps, step.lapses = true) :
    ∃ start due, .started start ∈ happenings (chronicle steps ({ interval } : Sweeper policy)) ∧
      after.phase = .waiting due := by
  have silent : .stopped ∉ chronicle steps ({ interval } : Sweeper policy) :=
    fun member => unstopped (stopped_mem_chronicle member)
  have awake : after.phase ≠ .idle :=
    awake_of_serveAll (settled_new interval) (.inr lapses) ran.run
  obtain ⟨start, started⟩ := (ran.moves.begun rfl awake).resolve_right silent
  cases phase : after.phase with
  | idle => exact absurd phase awake
  | waiting due => exact ⟨start, due, started, rfl⟩
  | blocked tick due => exact absurd phase (ran.settled.free tick due)
  | ended =>
    rcases ran.running.alive phase with zero | stopped
    · rw [ran.moves.interval_eq] at zero
      exact absurd zero (Nat.ne_of_gt positive)
    · exact absurd stopped silent

/-- In every run the loop advances the clock for the first time an interval after its start,
or later, and so on: no advance is ahead of its turn, and in a run in which nobody holds the
lock each comes in turn. Of two advances the later comes an interval after the earlier, but
for the tolerance. Whenever a step has ended, the next due time is ahead, and no further
than an interval. In a brief run there is a next due time once a step has let time pass. -/
theorem advances_on_schedule (policy : Policy) (interval : Nat) (steps : List Step)
    (positive : 0 < interval) (unstopped : .abort ∉ steps) :
    let log := chronicle steps ({ interval } : Sweeper policy)
    (∀ start, .started start ∈ happenings log →
      ∀ number time, (advances log)[number]? = some time →
        start + (number + 1) * interval ≤ time ∧
          ((∀ millis, .hold millis ∉ steps) → time = start + (number + 1) * interval)) ∧
    ((advances log).Pairwise fun earlier later => earlier + interval ≤ later + tolerance) ∧
    (∀ answers after, serveAll steps ({ interval } : Sweeper policy) = .ok answers after →
      ∀ due, after.phase = .waiting due → after.now < due ∧ due ≤ after.now + interval) ∧
    (Brief policy interval steps → ∃ answers after,
      serveAll steps ({ interval } : Sweeper policy) = .ok answers after ∧
        ((∃ step ∈ steps, step.lapses = true) →
          ∃ start due, .started start ∈ happenings log ∧ after.phase = .waiting due)) := by
  intro log
  obtain ⟨last, moves, settled, ends⟩ := moves_of_run policy interval steps
  have punctual := moves.punctual (punctual_new interval)
  have same : last.interval = interval := moves.interval_eq
  have part : advances log <+: plan log last := List.prefix_append _ _
  refine ⟨?_, ?_, ?_, ?_⟩
  · intro start started number time there
    have paced := (punctual.paced start started).shorten part number time there
    rw [same] at paced
    exact ⟨paced.1, fun unheld => paced.2 fun ⟨millis, held⟩ => unheld millis held⟩
  · have apart := punctual.apart
    rw [same] at apart
    exact apart.sublist part.sublist
  · intro answers after run due waits
    obtain rfl := ends answers after run
    refine ⟨settled.ahead due waits, ?_⟩
    have near := (settled.near due (due?_of_waiting waits)).2
    rw [same] at near
    exact near
  · intro brief
    obtain ⟨answers, after, ran⟩ := brief.exists_ran
    exact ⟨answers, after, ran.run, ran.waiting positive unstopped⟩

/-- An interval within the tolerance, and a hold over three due times. The first is taken up in
time and waits for the lock, and the other two are made up for at once. -/
theorem advances_on_schedule_short :
    let policy := Policy.bounded (Grid.slot ⟨8, 8⟩) 10 1
    let steps : List Step := [.sleep 4, .hold 10, .sleep 2]
    let log := chronicle steps ({ interval := 3 } : Sweeper policy)
    0 < 3 ∧ .abort ∉ steps ∧ advances log = [3, 6, 14, 14, 15] ∧
      ((advances log).Pairwise fun earlier later => earlier + 3 ≤ later + tolerance) ∧
      ∃ answers after due, serveAll steps ({ interval := 3 } : Sweeper policy) = .ok answers after ∧
        after.phase = .waiting due ∧ after.now < due ∧ due ≤ after.now + 3 := by
  intro policy steps log
  have unstopped : .abort ∉ steps := by decide
  have brief : Brief policy 3 steps := ⟨by decide, by decide +kernel⟩
  obtain ⟨_, apart, ahead, waiting⟩ :=
    advances_on_schedule policy 3 steps (by decide) unstopped
  obtain ⟨answers, after, run, waits⟩ := waiting brief
  obtain ⟨start, due, _, phase⟩ := waits ⟨.sleep 4, List.mem_cons_self, rfl⟩
  exact ⟨by decide, unstopped, by decide +kernel, apart, answers, after, due, run, phase,
    ahead answers after run due phase⟩

end Sweeper

end RouteCache
