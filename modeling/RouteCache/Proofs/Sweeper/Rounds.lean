import RouteCache.Proofs.Cache.Register
import RouteCache.Proofs.Sweeper.Runs

/-!
The rounds of the loop. In each it takes a due time up, which advances the clock, gets the
lock, and expires memos at the tick to which it advanced. What the loop does in any run is
its start, whole rounds one after another, and at most one round that a fault cuts short.

A round is taken up at the due time or later, and the next due time is an interval after
that, up to the tolerance. So the times of taking up are apart. The times at which memos
are expired need not be: a round that waited for the lock is followed at once by the next,
if that is due by then. But of three rounds the outer two are.
-/

namespace RouteCache

namespace Sweeper

structure Round where
  /-- When the due time was taken up. -/
  taken : Nat
  tick : Tick
  /-- When the loop got the lock. -/
  locked : Nat
  number : Nat

/-- A round advances the clock once and expires memos once, at the same tick. -/
def Round.happenings (round : Round) : List Happening :=
  [.advanced round.taken round.tick, .expired round.locked round.tick round.number]

/-- A later round is taken up when the earlier one has had the lock, and an interval after
the earlier one was taken up, but for the tolerance. -/
def Round.Before (interval : Nat) (earlier later : Round) : Prop :=
  earlier.locked ≤ later.taken ∧ earlier.taken + interval ≤ later.taken + tolerance

/-- The loop did whole rounds, and something else after them. -/
structure Tale (stalls : Prop) (interval : Nat) (done : List Happening) (rounds : List Round)
    (rest : List Happening) : Prop where
  told : ∃ opening, (opening = [] ∨ ∃ time, opening = [.started time]) ∧
    done = opening ++ rounds.flatMap Round.happenings ++ rest
  apart : rounds.Pairwise (Round.Before interval)
  /-- A round waits for the lock only while a user has it. -/
  waits : ∀ round ∈ rounds, round.taken ≤ round.locked ∧ (round.locked = round.taken ∨ stalls)

variable {policy : Policy} {stalls : Prop} {sweeper after : Sweeper policy}
  {log deeds : List Deed} {interval : Nat} {done : List Happening} {rounds : List Round}

theorem tale_nil : Tale stalls interval [] [] [] where
  told := ⟨[], .inl rfl, rfl⟩
  apart := .nil
  waits := by
    intro round member
    cases member

theorem tale_started (time : Nat) : Tale stalls interval [.started time] [] [] where
  told := ⟨[.started time], .inr ⟨time, rfl⟩, rfl⟩
  apart := .nil
  waits := by
    intro round member
    cases member

theorem Tale.advanced (tale : Tale stalls interval done rounds []) (time : Nat) (tick : Tick) :
    Tale stalls interval (done ++ [.advanced time tick]) rounds [.advanced time tick] where
  told := by
    obtain ⟨opening, form, rfl⟩ := tale.told
    exact ⟨opening, form, by rw [List.append_nil]⟩
  apart := tale.apart
  waits := tale.waits

theorem Tale.expired {taken locked number : Nat} {tick : Tick}
    (tale : Tale stalls interval done rounds [.advanced taken tick])
    (before : ∀ round ∈ rounds, round.Before interval ⟨taken, tick, locked, number⟩)
    (waits : taken ≤ locked ∧ (locked = taken ∨ stalls)) :
    Tale stalls interval (done ++ [.expired locked tick number])
      (rounds ++ [⟨taken, tick, locked, number⟩]) [] where
  told := by
    obtain ⟨opening, form, rfl⟩ := tale.told
    refine ⟨opening, form, ?_⟩
    rw [List.flatMap_append, List.flatMap_singleton, Round.happenings]
    simp only [List.append_assoc, List.append_nil, List.cons_append, List.nil_append]
  apart := by
    rw [List.pairwise_append]
    refine ⟨tale.apart, List.pairwise_singleton _ _, ?_⟩
    intro round member last isLast
    rw [List.mem_singleton.mp isLast]
    exact before round member
  waits := by
    intro round member
    rcases List.mem_append.mp member with old | last
    · exact tale.waits round old
    · rw [List.mem_singleton.mp last]
      exact waits

/-- What the log tells in each phase of the loop, and how the times of the rounds lie to the
time at hand and to the next due time. -/
def Story (stalls : Prop) (log : List Deed) (sweeper : Sweeper policy) : Prop :=
  match sweeper.phase with
  | .idle => happenings log = []
  | .waiting due => ∃ rounds, Tale stalls sweeper.interval (happenings log) rounds [] ∧
      ∀ round ∈ rounds, round.locked ≤ sweeper.now ∧
        round.taken + sweeper.interval ≤ due + tolerance
  | .blocked tick due => ∃ rounds taken,
      Tale stalls sweeper.interval (happenings log) rounds [.advanced taken tick] ∧
      (∀ round ∈ rounds, round.locked ≤ taken ∧
        round.taken + sweeper.interval ≤ min taken due + tolerance) ∧
      taken + sweeper.interval ≤ due + tolerance ∧
      taken ≤ sweeper.now ∧ (sweeper.now = taken ∨ stalls)
  | .ended => ∃ rounds rest, Tale stalls sweeper.interval (happenings log) rounds rest ∧
      (rest = [] ∨ ∃ time tick, rest = [.advanced time tick])

/-- Whatever the phase, the loop did whole rounds and perhaps the first half of another. -/
theorem Story.exists_tale (story : Story stalls log sweeper) :
    ∃ rounds rest, Tale stalls sweeper.interval (happenings log) rounds rest ∧
      (rest = [] ∨ ∃ time tick, rest = [.advanced time tick]) := by
  cases phase : sweeper.phase with
  | idle =>
    simp only [Story, phase] at story
    rw [story]
    exact ⟨[], [], tale_nil, .inl rfl⟩
  | waiting due =>
    simp only [Story, phase] at story
    obtain ⟨rounds, tale, _⟩ := story
    exact ⟨rounds, [], tale, .inl rfl⟩
  | blocked tick due =>
    simp only [Story, phase] at story
    obtain ⟨rounds, taken, tale, _⟩ := story
    exact ⟨rounds, _, tale, .inr ⟨taken, tick, rfl⟩⟩
  | ended =>
    simp only [Story, phase] at story
    exact story

/-- Whatever the loop has no part in tells no more of it. -/
theorem Story.quiet (story : Story stalls log sweeper) (none : happenings deeds = [])
    (interval : after.interval = sweeper.interval) (phase : after.phase = sweeper.phase)
    (now : after.now = sweeper.now ∨ sweeper.now ≤ after.now ∧ (sweeper.Free ∨ stalls)) :
    Story stalls (log ++ deeds) after := by
  have later : sweeper.now ≤ after.now := by
    rcases now with same | ⟨later, _⟩
    · exact Nat.le_of_eq same.symm
    · exact later
  unfold Story at story ⊢
  rw [phase, interval, happenings_append, none, List.append_nil]
  split at story
  · exact story
  · obtain ⟨rounds, tale, behind⟩ := story
    refine ⟨rounds, tale, fun round member => ⟨?_, (behind round member).2⟩⟩
    exact Nat.le_trans (behind round member).1 later
  · rename_i tick due blocked
    obtain ⟨rounds, taken, tale, behind, next, early, waits⟩ := story
    refine ⟨rounds, taken, tale, behind, next, Nat.le_trans early later, ?_⟩
    rcases now with same | ⟨_, free | allowed⟩
    · rw [same]
      exact waits
    · exact absurd blocked (free tick due)
    · exact .inr allowed
  · exact story

/-- Every move tells the story on. -/
theorem Move.story (move : Move stalls sweeper deeds after) (near : sweeper.Near)
    (story : Story stalls log sweeper) : Story stalls (log ++ deeds) after := by
  cases move with
  | start idle positive =>
    simp only [Story, idle] at story
    simp only [Story, happenings_append, story, List.nil_append]
    refine ⟨[], tale_started _, ?_⟩
    intro round member
    cases member
  | refuse idle zero =>
    simp only [Story, idle] at story
    simp only [Story, happenings_append, story, List.nil_append]
    exact ⟨[], [], tale_started _, .inl rfl⟩
  | @takeUp due tick waits next =>
    simp only [Story, waits] at story
    obtain ⟨rounds, tale, behind⟩ := story
    simp only [Story, happenings_append]
    refine ⟨rounds, _, tale.advanced _ tick, ?_, add_le_nextDue_add _ _ _, Nat.le_refl _, .inl rfl⟩
    intro round member
    obtain ⟨locked, apart⟩ := behind round member
    have reached : due ≤ max sweeper.now due := Nat.le_max_right _ _
    have later : due < nextDue sweeper.interval due (max sweeper.now due) :=
      lt_nextDue (near.positive waits) reached
    exact ⟨Nat.le_trans locked (Nat.le_max_left _ _), by omega⟩
  | overrun waits full =>
    simp only [Story, waits] at story
    obtain ⟨rounds, tale, _⟩ := story
    simp only [Story, happenings_append]
    exact ⟨rounds, _, tale.advanced _ _, .inr ⟨_, _, rfl⟩⟩
  | @expire tick due number cache blocked expired =>
    simp only [Story, blocked] at story
    obtain ⟨rounds, taken, tale, behind, next, early, waits⟩ := story
    simp only [Story, happenings_append]
    refine ⟨_, tale.expired ?_ ⟨early, waits⟩, ?_⟩
    · intro round member
      obtain ⟨locked, apart⟩ := behind round member
      exact ⟨locked, Nat.le_trans apart (Nat.add_le_add_right (Nat.min_le_left _ _) _)⟩
    · intro round member
      rcases List.mem_append.mp member with old | last
      · obtain ⟨locked, apart⟩ := behind round old
        exact ⟨Nat.le_trans locked early,
          Nat.le_trans apart (Nat.add_le_add_right (Nat.min_le_right _ _) _)⟩
      · rw [List.mem_singleton.mp last]
        exact ⟨Nat.le_refl _, next⟩
  | fail blocked failed =>
    simp only [Story, blocked] at story
    obtain ⟨rounds, taken, tale, _⟩ := story
    simp only [Story, List.append_nil]
    exact ⟨rounds, _, tale, .inr ⟨_, _, rfl⟩⟩
  | pass later free ahead => exact story.quiet rfl rfl rfl (.inr ⟨later, .inl free⟩)
  | stall allowed later blocked => exact story.quiet rfl rfl rfl (.inr ⟨later, .inr allowed⟩)
  | advance next => exact story.quiet rfl rfl rfl (.inl rfl)
  | insert inserted => exact story.quiet rfl rfl rfl (.inl rfl)
  | lookup looked => exact story.quiet rfl rfl rfl (.inl rfl)
  | stop free =>
    obtain ⟨rounds, rest, tale, form⟩ := story.exists_tale
    have none : happenings [Deed.stopped] = [] := rfl
    simp only [Story, happenings_append, none, List.append_nil]
    exact ⟨rounds, rest, tale, form⟩

theorem Moves.story (moves : Moves stalls sweeper log after) (near : sweeper.Near)
    (idle : sweeper.phase = .idle) : Story stalls log after := by
  induction moves with
  | none =>
    simp only [Story, idle]
    rfl
  | more moves move ih => exact move.story (moves.near near) ih

/-- What the loop does in a run is whole rounds, and perhaps the first half of another. -/
theorem exists_tale (policy : Policy) (interval : Nat) (steps : List Step) :
    ∃ rounds rest, Tale (∃ millis, .hold millis ∈ steps) interval
        (happenings (chronicle steps ({ interval } : Sweeper policy))) rounds rest ∧
      (rest = [] ∨ ∃ time tick, rest = [.advanced time tick]) := by
  obtain ⟨last, moves, _⟩ := moves_of_run policy interval steps
  have tale := (moves.story (settled_new interval).near rfl).exists_tale
  rw [moves.interval_eq] at tale
  exact tale

/-- Memos are expired at two times that are apart, unless the earlier round waited. -/
theorem Round.Before.apart {earlier later : Round} (before : earlier.Before interval later)
    (unhindered : earlier.locked = earlier.taken) (waits : later.taken ≤ later.locked) :
    earlier.locked + interval ≤ later.locked + tolerance := by
  rw [unhindered]
  exact Nat.le_trans before.2 (Nat.add_le_add_right waits _)

/-- Of three rounds the outer two expire memos at times that are apart, whichever waited. -/
theorem Round.Before.apart_of_two {first second third : Round}
    (before : first.Before interval second) (next : second.Before interval third)
    (waits : third.taken ≤ third.locked) :
    first.locked + interval ≤ third.locked + tolerance := calc
  first.locked + interval ≤ second.taken + interval := Nat.add_le_add_right before.1 _
  _ ≤ third.taken + tolerance := next.2
  _ ≤ third.locked + tolerance := Nat.add_le_add_right waits _

/-- What the loop does in a run is its start, whole rounds, and perhaps the first half of
another. A round is taken up when the one before has had the lock, and an interval after
the one before was taken up, but for the tolerance. So the times at which memos are expired
are as far apart, unless the earlier round waited for the lock, and of three such times the
outer two always are. No round waits in a run in which nobody holds the lock. -/
theorem expiries_apart (policy : Policy) (interval : Nat) (steps : List Step) :
    ∃ opening rounds rest,
      happenings (chronicle steps ({ interval } : Sweeper policy)) =
        opening ++ rounds.flatMap Round.happenings ++ rest ∧
      (opening = [] ∨ ∃ time, opening = [.started time]) ∧
      (rest = [] ∨ ∃ time tick, rest = [.advanced time tick]) ∧
      (∀ round ∈ rounds, round.taken ≤ round.locked ∧
        ((∀ millis, .hold millis ∉ steps) → round.locked = round.taken)) ∧
      rounds.Pairwise (fun earlier later => earlier.Before interval later ∧
        (earlier.locked = earlier.taken →
          earlier.locked + interval ≤ later.locked + tolerance)) ∧
      ∀ first second third, [first, second, third].Sublist rounds →
        first.locked + interval ≤ third.locked + tolerance := by
  obtain ⟨rounds, rest, tale, last⟩ := exists_tale policy interval steps
  obtain ⟨opening, first, told⟩ := tale.told
  refine ⟨opening, rounds, rest, told, first, last, ?_, ?_, ?_⟩
  · intro round member
    obtain ⟨later, same | ⟨millis, held⟩⟩ := tale.waits round member
    · exact ⟨later, fun _ => same⟩
    · exact ⟨later, fun unheld => absurd held (unheld millis)⟩
  · refine tale.apart.imp_of_mem ?_
    intro earlier later _ member before
    exact ⟨before, fun unhindered => before.apart unhindered (tale.waits later member).1⟩
  · intro first second third part
    have apart := tale.apart.sublist part
    have third_waits := (tale.waits third (part.subset (by simp))).1
    simp only [List.pairwise_cons, List.mem_cons, List.not_mem_nil, or_false, forall_eq_or_imp,
      forall_eq] at apart
    exact apart.1.1.apart_of_two apart.2.1 third_waits

/-- Memos are expired twice at one time, one of them at each, when the lock is held past two
due times. -/
theorem expired_twice_at_once :
    let policy := Policy.bounded (Grid.slot ⟨8, 8⟩) 10 1
    let steps : List Step := [.insert ⟨eastward 5, ⟨{}, .reached⟩⟩, .advance,
      .insert ⟨eastward 6, ⟨{}, .reached⟩⟩, .hold 27]
    happenings (chronicle steps ({ interval := 10 } : Sweeper policy)) =
      [.started 0, .advanced 10 2, .expired 27 2 1, .advanced 27 3, .expired 27 3 1] := by
  decide +kernel

end Sweeper

end RouteCache
