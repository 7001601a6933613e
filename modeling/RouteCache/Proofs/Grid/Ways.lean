import Mathlib.Data.List.Nodup
import Mathlib.Data.List.Range
import RouteCache.Proofs.Grid.Course

/-!
Ways over the plane of cells. A way leads from cell to cell, and each is one of the eight
neighbours of the one before. No step of a way comes nearer to the goal by more than one cell
along either axis, so a way has more cells than the longer distance between its ends counts.

The cells of a line are a way that has no more than that. It never comes back to a cell, since
every step counts along the longer axis, and it stays in the rectangle between its ends.
-/

namespace RouteCache

/-- Whether two cells are among the eight neighbours of each other. -/
structure Cell.Neighbours (a b : Cell) : Prop where
  apart : a ≠ b
  beside : (b.x.toInt - a.x.toInt).natAbs ≤ 1
  along : (b.y.toInt - a.y.toInt).natAbs ≤ 1

namespace Line

/-- Whether some cells lead from neighbour to neighbour, from the start to the goal. -/
structure Way (start goal : Cell) (cells : List Cell) : Prop where
  first : cells.head? = some start
  last : cells.getLast? = some goal
  linked : cells.IsChain Cell.Neighbours

variable {start goal : Cell} {steps : Nat}

theorem distance_self (cell : Cell) : distance cell cell = 0 := by
  unfold distance
  omega

/-- A step to a neighbour shortens the distance by one at most. -/
theorem distance_le_succ {next : Cell} (h : start.Neighbours next) (goal : Cell) :
    distance start goal ≤ distance next goal + 1 := by
  have shortened {a b c : Int} (one : (b - a).natAbs ≤ 1) :
      (c - a).natAbs ≤ (c - b).natAbs + 1 := by
    omega
  unfold distance
  apply Nat.max_le.mpr
  constructor
  · exact Nat.le_trans (shortened h.beside) (Nat.succ_le_succ (Nat.le_max_left _ _))
  · exact Nat.le_trans (shortened h.along) (Nat.succ_le_succ (Nat.le_max_right _ _))

/-- Every way has more cells than the distance between its ends. The induction is on the way,
which is shorter by one cell from the neighbour of the start on. -/
theorem Way.distance_lt_length {cells : List Cell} (way : Way start goal cells) :
    distance start goal < cells.length := by
  induction cells generalizing start with
  | nil => cases way.first
  | cons here cells ih =>
    obtain ⟨first, last, linked⟩ := way
    obtain rfl : here = start := Option.some.inj first
    cases cells with
    | nil =>
      obtain rfl : here = goal := Option.some.inj last
      rw [distance_self]
      exact Nat.zero_lt_one
    | cons next cells =>
      obtain ⟨neighbours, onward⟩ := List.isChain_cons_cons.mp linked
      have rest := ih ⟨rfl, by rwa [List.getLast?_cons_cons] at last, onward⟩
      have nearer := distance_le_succ neighbours goal
      rw [List.length_cons]
      omega

/-! ### The cells of a line -/

theorem length_cells (start goal : Cell) :
    (cells start goal).length = distance start goal + 1 := by
  rw [cells, List.length_map, List.length_range]

theorem mem_cells_iff {cell : Cell} :
    cell ∈ cells start goal ↔ ∃ steps, steps ≤ distance start goal ∧
      cellAfter start goal steps = cell := by
  unfold cells
  simp only [List.mem_map, List.mem_range, Nat.lt_succ_iff]

/-- On the way the coordinates of a cell do not wrap. -/
theorem toInt_cellAfter (within : steps ≤ distance start goal) :
    (cellAfter start goal steps).x.toInt = (after start goal steps).x ∧
      (cellAfter start goal steps).y.toInt = (after start goal steps).y := by
  obtain ⟨⟨left, right⟩, top, bottom⟩ := after_fits within
  exact ⟨Int32.toInt_ofInt_of_le left right, Int32.toInt_ofInt_of_le top bottom⟩

theorem cellAfter_distance (start goal : Cell) :
    cellAfter start goal (distance start goal) = goal := by
  obtain ⟨x, y⟩ := after_distance start goal
  simp [cellAfter, x, y, Cell.ofInts]

theorem cellAfter_injective {other : Nat} (within : steps ≤ distance start goal)
    (within' : other ≤ distance start goal)
    (same : cellAfter start goal steps = cellAfter start goal other) : steps = other := by
  obtain ⟨x, y⟩ := toInt_cellAfter within
  obtain ⟨x', y'⟩ := toInt_cellAfter within'
  rw [same] at x y
  obtain ⟨flat, steep⟩ := longer_after within
  obtain ⟨flat', steep'⟩ := longer_after within'
  have counts {delta : Int} (far : distance start goal = delta.natAbs)
      (level : steps * delta.sign = other * delta.sign) : steps = other := by
    rcases Int.lt_trichotomy delta 0 with back | rfl | ahead
    · rw [Int.sign_eq_neg_one_of_neg back] at level
      omega
    · omega
    · rw [Int.sign_eq_one_of_pos ahead] at level
      omega
  rcases Nat.le_total (goal.y.toInt - start.y.toInt).natAbs (goal.x.toInt - start.x.toInt).natAbs
    with shallow | upright
  · refine counts (Nat.max_eq_left shallow) ?_
    have := flat shallow
    have := flat' shallow
    omega
  · refine counts (Nat.max_eq_right upright) ?_
    have := steep upright
    have := steep' upright
    omega

/-- One more step changes a coordinate by one at most. -/
theorem natAbs_progress_le {extent longer : Nat} {sign first : Int} (unit : sign.natAbs ≤ 1)
    (positive : 0 < longer) (shorter : extent ≤ longer) (steps : Nat) :
    ((first + progress extent longer (steps + 1) * sign) -
      (first + progress extent longer steps * sign)).natAbs ≤ 1 := by
  rw [progress_succ positive shorter]
  split
  · rw [Int.natCast_add, Int.add_mul]
    omega
  · rw [Nat.add_zero]
    omega

theorem neighbours_cellAfter (more : steps < distance start goal) :
    (cellAfter start goal steps).Neighbours (cellAfter start goal (steps + 1)) := by
  have positive : 0 < distance start goal := Nat.zero_lt_of_lt more
  have unit (delta : Int) : delta.sign.natAbs ≤ 1 := by
    rw [Int.natAbs_sign]
    split <;> omega
  obtain ⟨x, y⟩ := toInt_cellAfter (Nat.le_of_lt more)
  obtain ⟨x', y'⟩ := toInt_cellAfter (Nat.succ_le_of_lt more)
  refine ⟨?_, ?_, ?_⟩
  · intro same
    have := cellAfter_injective (Nat.le_of_lt more) (Nat.succ_le_of_lt more) same
    omega
  · rw [x, x']
    exact natAbs_progress_le (unit _) positive (Nat.le_max_left _ _) steps
  · rw [y, y']
    exact natAbs_progress_le (unit _) positive (Nat.le_max_right _ _) steps

theorem way_cells (start goal : Cell) : Way start goal (cells start goal) where
  first := by
    unfold cells
    rw [List.range_succ_eq_map, List.map_cons, List.head?_cons, cellAfter_zero]
  last := by
    unfold cells
    rw [List.range_succ, List.map_append, List.map_singleton, List.getLast?_concat,
      cellAfter_distance]
  linked := by
    unfold cells
    rw [List.isChain_map, List.isChain_range_succ]
    intro steps more
    exact neighbours_cellAfter more

theorem nodup_cells (start goal : Cell) : (cells start goal).Nodup := by
  unfold cells
  refine List.Nodup.map_on ?_ List.nodup_range
  intro steps within other within' same
  rw [List.mem_range] at within within'
  exact cellAfter_injective (Nat.le_of_lt_succ within) (Nat.le_of_lt_succ within') same

/-- No way between two cells has fewer cells than the line. -/
theorem length_cells_le {others : List Cell} (way : Way start goal others) :
    (cells start goal).length ≤ others.length := by
  rw [length_cells]
  exact way.distance_lt_length

end Line

end RouteCache
