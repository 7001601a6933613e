import RouteCache.Grid.Line
import RouteCache.Proofs.Sequence

/-!
The walk along a line in closed form. After a number of steps it has come as far along each
axis as those steps are in proportion to the longer one, rounded to the nearest cell, and
the error term is what that rounding leaves over. So the error term stays within three times
half of the longer extent less the shorter one, and the walk ends at the goal. It does not come
there any sooner, so a bound on its steps is never what ends it.

A line is steady when the doubled error term fits all along. Then nothing overflows, and all
lines are steady whose longer extent is at most a third of the range. Conversely a walk that
has not overflowed had an error term whose double fits at every step.
-/

namespace RouteCache

theorem within32_of_fits {fault : Fault} {value : Int} (fits : Fits32 value) :
    within32 fault value = .ok value :=
  within32_eq_ok_iff.mpr ⟨rfl, fits⟩

namespace Line

/-- How far a walk has come along an axis after a number of steps. -/
def progress (extent longer steps : Nat) : Nat := (2 * extent * steps + longer) / (2 * longer)

section Progress

variable {extent longer steps place : Nat}

theorem progress_eq_iff (positive : 0 < longer) :
    progress extent longer steps = place ↔
      2 * (longer * place) ≤ 2 * (extent * steps) + longer ∧
        2 * (extent * steps) + longer < 2 * (longer * place) + 2 * longer := by
  unfold progress
  rw [Nat.div_eq_iff (by omega), Nat.mul_comm place, Nat.mul_assoc, Nat.mul_assoc]
  omega

theorem progress_level (longer steps : Nat) : progress 0 longer steps = 0 := by
  rcases Nat.eq_zero_or_pos longer with rfl | positive
  · simp [progress]
  · exact (progress_eq_iff positive).mpr (by omega)

theorem progress_zero (extent longer : Nat) : progress extent longer 0 = 0 := by
  rcases Nat.eq_zero_or_pos longer with rfl | positive
  · simp [progress]
  · exact (progress_eq_iff positive).mpr (by omega)

/-- Along the longer axis every step counts. -/
theorem progress_longer (positive : 0 < longer) : progress longer longer steps = steps := by
  rw [progress_eq_iff positive]
  omega

theorem progress_longer_of_le (within : steps ≤ longer) :
    progress longer longer steps = steps := by
  rcases Nat.eq_zero_or_pos longer with rfl | positive
  · rw [progress_level]
    omega
  · exact progress_longer positive

theorem progress_end (positive : 0 < longer) : progress extent longer longer = extent := by
  rw [progress_eq_iff positive, Nat.mul_comm extent]
  omega

theorem progress_le (within : steps ≤ longer) : progress extent longer steps ≤ extent := by
  rcases Nat.eq_zero_or_pos longer with rfl | positive
  · obtain rfl : steps = 0 := by omega
    rw [progress_zero]
    exact Nat.zero_le extent
  · obtain ⟨low, _⟩ := (progress_eq_iff positive).mp (rfl : progress extent longer steps = _)
    have part : extent * steps ≤ longer * extent := by
      rw [Nat.mul_comm longer]
      exact Nat.mul_le_mul_left extent within
    have close : longer * progress extent longer steps < longer * (extent + 1) := by
      rw [Nat.mul_succ]
      omega
    exact Nat.le_of_lt_succ (Nat.lt_of_mul_lt_mul_left close)

/-- Along the shorter axis a step counts when the rounding goes up. -/
theorem progress_succ (positive : 0 < longer) (shorter : extent ≤ longer) :
    progress extent longer (steps + 1) = progress extent longer steps +
      if 2 * (longer * progress extent longer steps) + longer ≤ 2 * (extent * steps) + 2 * extent
      then 1 else 0 := by
  obtain ⟨low, high⟩ := (progress_eq_iff positive).mp (rfl : progress extent longer steps = _)
  rw [progress_eq_iff positive]
  split <;>
  · simp only [Nat.mul_succ, Nat.add_zero]
    omega

end Progress

namespace Course

/-- The course with the given extents and directions. -/
def spanning (across climb : Nat) (stepX stepY : Int) : Course := ⟨across, -climb, stepX, stepY⟩

/-- The error term of a walk after a number of steps. -/
def deviation (across climb steps : Nat) : Int :=
  (across * (progress climb (max across climb) steps + 1) : Nat) -
    (climb * (progress across (max across climb) steps + 1) : Nat)

/-- Where a walk is after a number of steps. -/
def place (across climb : Nat) (stepX stepY : Int) (start : Cell) (steps : Nat) : Position where
  x := start.x.toInt + progress across (max across climb) steps * stepX
  y := start.y.toInt + progress climb (max across climb) steps * stepY
  error := deviation across climb steps

/-- Where a step leads, without regard to overflow. -/
def next (course : Course) (here : Position) : Position :=
  { x := here.x + if course.rise ≤ 2 * here.error then course.stepX else 0
    y := here.y + if 2 * here.error ≤ course.run then course.stepY else 0
    error := here.error + (if course.rise ≤ 2 * here.error then course.rise else 0) +
      if 2 * here.error ≤ course.run then course.run else 0 }

theorem step_eq_next {course : Course} {here : Position} (doubled : Fits32 (2 * here.error))
    (lowered : course.rise ≤ 2 * here.error → Fits32 (here.error + course.rise))
    (x : Fits32 (course.next here).x) (y : Fits32 (course.next here).y)
    (error : Fits32 (course.next here).error) : course.step here = .ok (course.next here) := by
  unfold step
  rw [within32_of_fits doubled]
  unfold next at x y error ⊢
  by_cases sideways : course.rise ≤ 2 * here.error <;>
    by_cases along : 2 * here.error ≤ course.run <;>
  · simp only [sideways, along, if_true, if_false, Int.add_zero, true_implies]
      at lowered x y error ⊢
    simp only [within32_of_fits, lowered, x, y, error, sideways, along, if_true, if_false, bind,
      Except.bind, pure, Except.pure]

/-- A step that does not fault leads there, and the doubled error term fits. -/
theorem of_step {course : Course} {here there : Position} (stepped : course.step here = .ok there) :
    there = course.next here ∧ Fits32 (2 * here.error) := by
  unfold step at stepped
  obtain ⟨doubled, double, moved⟩ := except_bind_eq_ok_iff.mp stepped
  obtain ⟨rfl, fits⟩ := within32_eq_ok_iff.mp double
  refine ⟨?_, fits⟩
  unfold next
  by_cases sideways : course.rise ≤ 2 * here.error <;>
    by_cases along : 2 * here.error ≤ course.run <;>
  simp only [sideways, along, if_true, if_false, Int.add_zero, except_bind_eq_ok_iff,
    within32_eq_ok_iff, pure, Except.pure, Except.ok.injEq, exists_eq_left, exists_eq_left',
    and_assoc] at moved ⊢
  · obtain ⟨_, _, _, _, rfl⟩ := moved
    rfl
  · obtain ⟨_, _, rfl⟩ := moved
    rfl
  · obtain ⟨_, _, rfl⟩ := moved
    rfl
  · exact moved.symm

variable {across climb steps : Nat}

theorem deviation_level (across steps : Nat) : deviation across 0 steps = across := by
  unfold deviation
  rw [progress_level]
  omega

theorem deviation_upright (climb steps : Nat) : deviation 0 climb steps = -climb := by
  unfold deviation
  rw [progress_level]
  omega

/-- The error term never leaves three times half of the longer extent, less the shorter. -/
theorem deviation_bounds (positive : 0 < max across climb) (steps : Nat) :
    (2 * min across climb : Nat) - (3 * max across climb : Nat) ≤
        2 * deviation across climb steps ∧
      2 * deviation across climb steps ≤
        (3 * max across climb : Nat) - (2 * min across climb : Nat) := by
  unfold deviation
  rcases Nat.le_total climb across with flat | steep
  · rw [Nat.max_eq_left flat] at positive ⊢
    obtain ⟨low, high⟩ := (progress_eq_iff positive).mp (rfl : progress climb across steps = _)
    rw [progress_longer positive, Nat.mul_succ, Nat.mul_succ]
    omega
  · rw [Nat.max_eq_right steep] at positive ⊢
    obtain ⟨low, high⟩ := (progress_eq_iff positive).mp (rfl : progress across climb steps = _)
    rw [progress_longer positive, Nat.mul_succ, Nat.mul_succ]
    omega

/-- Whether a walk over these extents is steady: the doubled error term always fits. -/
structure Steady (across climb : Nat) : Prop where
  across_le : across ≤ 1073741824
  climb_le : climb ≤ 1073741824
  doubled : ∀ steps, Fits32 (2 * deviation across climb steps)

theorem steady_level (narrow : across < 1073741824) : Steady across 0 where
  across_le := Nat.le_of_lt narrow
  climb_le := Nat.zero_le _
  doubled := by
    intro steps
    rw [deviation_level]
    unfold Fits32
    omega

theorem steady_upright (shallow : climb ≤ 1073741824) : Steady 0 climb where
  across_le := Nat.zero_le _
  climb_le := shallow
  doubled := by
    intro steps
    rw [deviation_upright]
    unfold Fits32
    omega

/-- A third of the range is near enough, since a walk that is not straight along an axis has
one to spare on the shorter side. -/
theorem steady_of_near (near : max across climb ≤ 715827883) : Steady across climb := by
  rcases Nat.eq_zero_or_pos climb with rfl | climbs
  · exact steady_level (by omega)
  · rcases Nat.eq_zero_or_pos across with rfl | crosses
    · exact steady_upright (by omega)
    · refine ⟨by omega, by omega, ?_⟩
      intro steps
      have bounds := deviation_bounds (show 0 < max across climb by omega) steps
      unfold Fits32
      omega

/-- The error term tells along which axes the next step makes progress. -/
theorem progress_of_deviation (more : steps < max across climb) :
    progress across (max across climb) (steps + 1) = progress across (max across climb) steps +
        (if -(climb : Int) ≤ 2 * deviation across climb steps then 1 else 0) ∧
      progress climb (max across climb) (steps + 1) = progress climb (max across climb) steps +
        if 2 * deviation across climb steps ≤ across then 1 else 0 := by
  have positive : 0 < max across climb := Nat.zero_lt_of_lt more
  unfold deviation
  rw [progress_succ positive (Nat.le_max_left _ _), progress_succ positive (Nat.le_max_right _ _)]
  rcases Nat.le_total climb across with flat | steep
  · rw [Nat.max_eq_left flat] at positive ⊢
    obtain ⟨low, high⟩ := (progress_eq_iff positive).mp (rfl : progress climb across steps = _)
    rw [progress_longer positive, Nat.mul_succ, Nat.mul_succ]
    constructor <;> split <;> split <;> omega
  · rw [Nat.max_eq_right steep] at positive ⊢
    obtain ⟨low, high⟩ := (progress_eq_iff positive).mp (rfl : progress across climb steps = _)
    rw [progress_longer positive, Nat.mul_succ, Nat.mul_succ]
    constructor <;> split <;> split <;> omega

/-- One step leads from each place to the next. -/
theorem next_place (stepX stepY : Int) (start : Cell) (more : steps < max across climb) :
    (spanning across climb stepX stepY).next (place across climb stepX stepY start steps) =
      place across climb stepX stepY start (steps + 1) := by
  obtain ⟨sideways, along⟩ := progress_of_deviation more
  unfold next spanning place
  dsimp only
  rw [Position.mk.injEq]
  refine ⟨?_, ?_, ?_⟩
  · rw [sideways]
    split <;> simp [Int.add_mul, Int.add_assoc]
  · rw [along]
    split <;> simp [Int.add_mul, Int.add_assoc]
  · conv => rhs; unfold deviation
    rw [sideways, along]
    split <;> split <;> simp [deviation, Nat.mul_add] <;> omega

/-- A step of a steady walk does not overflow. -/
theorem Steady.step_place (steady : Steady across climb) {stepX stepY : Int} {start : Cell}
    (more : steps < max across climb)
    (x : Fits32 (place across climb stepX stepY start (steps + 1)).x)
    (y : Fits32 (place across climb stepX stepY start (steps + 1)).y) :
    (spanning across climb stepX stepY).step (place across climb stepX stepY start steps) =
      .ok (place across climb stepX stepY start (steps + 1)) := by
  obtain ⟨narrow, shallow, doubled⟩ := steady
  have here := doubled steps
  have there := doubled (steps + 1)
  unfold Fits32 at here there
  rw [← next_place stepX stepY start more] at x y ⊢
  apply step_eq_next
  · exact doubled steps
  · unfold Fits32 place spanning
    dsimp only
    omega
  · exact x
  · exact y
  · rw [next_place stepX stepY start more]
    unfold Fits32 place
    dsimp only
    omega

end Course

/-! ### The line between two cells -/

variable {start goal : Cell} {steps : Nat}

/-- The distance along the longer axis. -/
def distance (start goal : Cell) : Nat :=
  max (goal.x.toInt - start.x.toInt).natAbs (goal.y.toInt - start.y.toInt).natAbs

/-- The course between two cells, without regard to overflow. -/
def course (start goal : Cell) : Course :=
  .spanning (goal.x.toInt - start.x.toInt).natAbs (goal.y.toInt - start.y.toInt).natAbs
    (goal.x.toInt - start.x.toInt).sign (goal.y.toInt - start.y.toInt).sign

/-- Where the walk between two cells is after a number of steps. -/
def after (start goal : Cell) (steps : Nat) : Position :=
  Course.place (goal.x.toInt - start.x.toInt).natAbs (goal.y.toInt - start.y.toInt).natAbs
    (goal.x.toInt - start.x.toInt).sign (goal.y.toInt - start.y.toInt).sign start steps

/-- The cell that the walk between two cells comes to after a number of steps. -/
def cellAfter (start goal : Cell) (steps : Nat) : Cell :=
  Cell.ofInts (after start goal steps).x (after start goal steps).y

/-- The cells that the walk between two cells comes to, both ends included. -/
def cells (start goal : Cell) : List Cell :=
  (List.range (distance start goal + 1)).map (cellAfter start goal)

/-- A coordinate that moves towards another, and not beyond it, stays between the two. -/
theorem move_between {first last : Int} {way : Nat} (within : way ≤ (last - first).natAbs) :
    min first last ≤ first + way * (last - first).sign ∧
      first + way * (last - first).sign ≤ max first last := by
  rcases Int.lt_trichotomy (last - first) 0 with back | same | ahead
  · rw [Int.sign_eq_neg_one_of_neg back]
    omega
  · rw [same, Int.sign_zero]
    omega
  · rw [Int.sign_eq_one_of_pos ahead]
    omega

/-- Between two words all coordinates are words. -/
theorem fits_between {first last : Int32} {value : Int}
    (between : min first.toInt last.toInt ≤ value ∧ value ≤ max first.toInt last.toInt) :
    Fits32 value := by
  have low := first.le_toInt
  have high := first.toInt_lt
  have low' := last.le_toInt
  have high' := last.toInt_lt
  unfold Fits32
  omega

/-- The walk stays in the rectangle of which its ends are two corners. -/
theorem after_between (within : steps ≤ distance start goal) :
    (min start.x.toInt goal.x.toInt ≤ (after start goal steps).x ∧
        (after start goal steps).x ≤ max start.x.toInt goal.x.toInt) ∧
      min start.y.toInt goal.y.toInt ≤ (after start goal steps).y ∧
        (after start goal steps).y ≤ max start.y.toInt goal.y.toInt :=
  ⟨move_between (progress_le within), move_between (progress_le within)⟩

theorem after_fits (within : steps ≤ distance start goal) :
    Fits32 (after start goal steps).x ∧ Fits32 (after start goal steps).y := by
  obtain ⟨x, y⟩ := after_between within
  exact ⟨fits_between x, fits_between y⟩

theorem after_zero (start goal : Cell) :
    after start goal 0 = ⟨start.x.toInt, start.y.toInt,
      (course start goal).run + (course start goal).rise⟩ := by
  unfold after Course.place Course.deviation course Course.spanning
  rw [progress_zero, progress_zero]
  simp [Int.sub_eq_add_neg]

theorem cellAfter_zero (start goal : Cell) : cellAfter start goal 0 = start := by
  simp [cellAfter, after_zero, Cell.ofInts]

/-- The walk ends at the goal. -/
theorem after_distance (start goal : Cell) :
    (after start goal (distance start goal)).x = goal.x.toInt ∧
      (after start goal (distance start goal)).y = goal.y.toInt := by
  rcases Nat.eq_zero_or_pos (distance start goal) with none | positive
  · rw [none, after_zero]
    unfold distance at none
    dsimp only
    omega
  · have along (extent : Nat) :
        progress extent (distance start goal) (distance start goal) = extent :=
      progress_end positive
    unfold distance at along
    unfold after Course.place distance
    dsimp only
    rw [along, along, Int.mul_comm, Int.sign_mul_natAbs, Int.mul_comm, Int.sign_mul_natAbs]
    omega

/-- Along the longer axis the walk comes one cell further with every step. -/
theorem longer_after (within : steps ≤ distance start goal) :
    ((goal.y.toInt - start.y.toInt).natAbs ≤ (goal.x.toInt - start.x.toInt).natAbs →
      (after start goal steps).x =
        start.x.toInt + steps * (goal.x.toInt - start.x.toInt).sign) ∧
    ((goal.x.toInt - start.x.toInt).natAbs ≤ (goal.y.toInt - start.y.toInt).natAbs →
      (after start goal steps).y =
        start.y.toInt + steps * (goal.y.toInt - start.y.toInt).sign) := by
  unfold distance at within
  unfold after Course.place
  constructor
  · intro flat
    rw [Nat.max_eq_left flat] at within ⊢
    rw [progress_longer_of_le within]
  · intro steep
    rw [Nat.max_eq_right steep] at within ⊢
    rw [progress_longer_of_le within]

theorem mul_sign_ne {way : Nat} {delta : Int} (short : way < delta.natAbs) :
    way * delta.sign ≠ delta := by
  rcases Int.lt_trichotomy delta 0 with back | rfl | ahead
  · rw [Int.sign_eq_neg_one_of_neg back]
    omega
  · cases short
  · rw [Int.sign_eq_one_of_pos ahead]
    omega

/-- The walk does not come to the goal before its end, because every step counts along the
longer axis. -/
theorem after_ne_goal (more : steps < distance start goal) :
    ¬((after start goal steps).x = goal.x.toInt ∧ (after start goal steps).y = goal.y.toInt) := by
  rintro ⟨x, y⟩
  obtain ⟨flat, steep⟩ := longer_after (Nat.le_of_lt more)
  unfold distance at more
  rcases Nat.le_total (goal.y.toInt - start.y.toInt).natAbs (goal.x.toInt - start.x.toInt).natAbs
    with shallow | upright
  · rw [flat shallow] at x
    rw [Nat.max_eq_left shallow] at more
    exact mul_sign_ne more (by omega)
  · rw [steep upright] at y
    rw [Nat.max_eq_right upright] at more
    exact mul_sign_ne more (by omega)

/-- Each step of the walk leads from where it is to where it is next, if it does not fault, and
its doubled error term fits then. -/
theorem of_step_after (more : steps < distance start goal) {there : Position}
    (stepped : (course start goal).step (after start goal steps) = .ok there) :
    there = after start goal (steps + 1) ∧ Fits32 (2 * (after start goal steps).error) := by
  obtain ⟨next, doubled⟩ := Course.of_step stepped
  exact ⟨next.trans (Course.next_place _ _ start more), doubled⟩

theorem eq_course_of_between {found : Course} (between : Course.between start goal = .ok found) :
    found = course start goal := by
  unfold Course.between at between
  simp only [except_bind_eq_ok_iff, within32_eq_ok_iff] at between
  obtain ⟨_, ⟨rfl, _⟩, _, ⟨rfl, _⟩, _, ⟨rfl, _⟩, _, ⟨rfl, _⟩, same⟩ := between
  cases same
  rfl

theorem course_steps (start goal : Cell) : (course start goal).steps = distance start goal := by
  unfold course Course.spanning Course.steps distance
  rw [Int.natAbs_neg, Int.natAbs_natCast, Int.natAbs_natCast]

/-- The bound on the number of steps is never what ends a walk: with whatever is added to it,
the walk comes to the same end. The induction is on the steps that remain, and after the last of
them the walk is at the goal. -/
theorem walk_add {remaining : Nat} (whole : steps + remaining = distance start goal)
    (extra : Nat) (cells : List Cell) :
    (course start goal).walk goal (remaining + extra) (after start goal steps) cells =
      (course start goal).walk goal remaining (after start goal steps) cells := by
  induction remaining generalizing steps cells with
  | zero =>
    obtain rfl : steps = distance start goal := by omega
    cases extra with
    | zero => rfl
    | succ extra =>
      unfold Course.walk
      rw [if_pos (after_distance start goal)]
  | succ remaining ih =>
    have more : steps < distance start goal := by omega
    rw [Nat.succ_add]
    unfold Course.walk
    rw [if_neg (after_ne_goal more), if_neg (after_ne_goal more)]
    cases stepped : (course start goal).step (after start goal steps) with
    | error fault => rfl
    | ok there =>
      obtain ⟨rfl, _⟩ := of_step_after more stepped
      exact ih (by omega) _

/-- A walk that has not faulted had room for its doubled error term at each of its steps. -/
theorem doubled_of_walk {remaining : Nat} (whole : steps + remaining = distance start goal)
    {cells found : List Cell}
    (walked : (course start goal).walk goal remaining (after start goal steps) cells = .ok found)
    {later : Nat} (reached : steps ≤ later) (more : later < distance start goal) :
    Fits32 (2 * (after start goal later).error) := by
  induction remaining generalizing steps cells with
  | zero => omega
  | succ remaining ih =>
    have ahead : steps < distance start goal := by omega
    unfold Course.walk at walked
    rw [if_neg (after_ne_goal ahead)] at walked
    obtain ⟨there, stepped, onward⟩ := except_bind_eq_ok_iff.mp walked
    obtain ⟨rfl, doubled⟩ := of_step_after ahead stepped
    rcases Nat.eq_or_lt_of_le reached with rfl | beyond
    · exact doubled
    · exact ih (by omega) onward beyond

/-- A line that is traced has been walked from its start, with a bound of as many steps as the
longer extent counts. -/
theorem walk_of_trace {cells : List Cell} (traced : trace start goal = .ok cells) :
    Course.between start goal = .ok (course start goal) ∧
      (course start goal).walk goal (distance start goal) (after start goal 0) [start] =
        .ok cells.reverse := by
  unfold trace at traced
  simp only [except_bind_eq_ok_iff, within32_eq_ok_iff] at traced
  obtain ⟨_, between, _, ⟨rfl, _⟩, walked, onward, same⟩ := traced
  obtain rfl := eq_course_of_between between
  obtain rfl : walked.reverse = cells := Except.ok.inj same
  rw [course_steps, ← after_zero] at onward
  rw [List.reverse_reverse]
  exact ⟨between, onward⟩

theorem doubled_of_trace {cells : List Cell} (traced : trace start goal = .ok cells)
    (more : steps < distance start goal) : Fits32 (2 * (after start goal steps).error) :=
  doubled_of_walk (Nat.zero_add _) (walk_of_trace traced).2 (Nat.zero_le steps) more

/-- Whether the walk along a line comes to an end by itself, with these cells. It does when no
bound on its steps, from their greatest number on, makes a difference. -/
def Ends (start goal : Cell) (cells : List Cell) : Prop :=
  ∃ course, Course.between start goal = .ok course ∧
    ∀ bound, course.steps ≤ bound →
      course.walk goal bound ⟨start.x.toInt, start.y.toInt, course.run + course.rise⟩ [start] =
        .ok cells.reverse

/-- A line that is traced without a fault is traced to its end. -/
theorem ends_of_trace {cells : List Cell} (traced : trace start goal = .ok cells) :
    Ends start goal cells := by
  obtain ⟨between, walked⟩ := walk_of_trace traced
  refine ⟨course start goal, between, ?_⟩
  intro bound enough
  rw [course_steps] at enough
  obtain ⟨extra, rfl⟩ := Nat.exists_eq_add_of_le enough
  rw [← after_zero, walk_add (Nat.zero_add _), walked]

/-- Whether the line between two cells is steady. -/
def Steady (start goal : Cell) : Prop :=
  Course.Steady (goal.x.toInt - start.x.toInt).natAbs (goal.y.toInt - start.y.toInt).natAbs

theorem steady_of_near (near : distance start goal ≤ 715827883) : Steady start goal :=
  Course.steady_of_near near

namespace Steady

variable (steady : Steady start goal)

include steady

theorem between_eq : Course.between start goal = .ok (course start goal) := by
  obtain ⟨across, climb, _⟩ := steady
  have fits (value : Int) (small : value.natAbs ≤ 1073741824) : Fits32 value := by
    unfold Fits32
    omega
  unfold Course.between
  simp only [except_bind_eq_ok_iff, within32_eq_ok_iff]
  exact ⟨_, ⟨rfl, fits _ across⟩, _, ⟨rfl, fits _ (Int.natAbs_natCast _ ▸ across)⟩,
    _, ⟨rfl, fits _ climb⟩, _, ⟨rfl, fits _ (Int.natAbs_natCast _ ▸ climb)⟩, rfl⟩

/-- The induction is on the steps that remain. The walk is where the closed form says, and
this is not the goal before the last step. -/
theorem walk_after {remaining : Nat} (whole : steps + remaining = distance start goal)
    (cells : List Cell) :
    (course start goal).walk goal remaining (after start goal steps) cells =
      .ok (((List.range' (steps + 1) remaining).map (cellAfter start goal)).reverse ++ cells) := by
  induction remaining generalizing steps cells with
  | zero => rfl
  | succ remaining ih =>
    have more : steps < distance start goal := by omega
    obtain ⟨x, y⟩ := after_fits (Nat.succ_le_of_lt more)
    have step : (course start goal).step (after start goal steps) =
        .ok (after start goal (steps + 1)) :=
      Course.Steady.step_place steady more x y
    unfold Course.walk
    rw [if_neg (after_ne_goal more), except_bind_eq_ok_iff]
    refine ⟨_, step, (ih (by omega) _).trans ?_⟩
    rw [List.range'_succ]
    simp [cellAfter]

theorem walk_eq :
    (course start goal).walk goal (distance start goal)
      ⟨start.x.toInt, start.y.toInt, (course start goal).run + (course start goal).rise⟩ [start] =
        .ok (cells start goal).reverse := by
  have walked := steady.walk_after (Nat.zero_add (distance start goal)) [start]
  rw [after_zero] at walked
  rw [walked, cells, List.range_eq_range', List.range'_succ, List.map_cons, cellAfter_zero,
    List.reverse_cons]

/-- The line between two cells is traced without a fault if it is steady. -/
theorem trace_eq : trace start goal = .ok (cells start goal) := by
  have small : Fits32 ((course start goal).run + (course start goal).rise) := by
    obtain ⟨across, climb, _⟩ := steady
    unfold Fits32 course Course.spanning
    dsimp only
    omega
  have walked := steady.walk_eq
  rw [← course_steps] at walked
  unfold trace
  simp only [except_bind_eq_ok_iff]
  refine ⟨_, steady.between_eq, _, within32_of_fits small, _, walked, ?_⟩
  rw [List.reverse_reverse]
  rfl

end Steady

end Line

end RouteCache
