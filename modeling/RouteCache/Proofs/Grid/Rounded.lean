import RouteCache.Proofs.Grid.Ways

/-!
The line between two cells is the true line, rounded. A cell of it lies as many steps along the
longer axis as it has cells before it, and along the shorter axis the share of those steps that
belongs to it, rounded to the nearest whole step, with a half rounded up. That holds as long as
the longer extent is at most a third of what 32 signed bits can hold, wherever the two cells lie.
-/

namespace RouteCache

namespace Line

variable {start goal : Cell} {steps : Nat}

/-- Where a cell of the rounded line lies, for both ways in which one axis can be the longer. -/
structure Rounded (start goal : Cell) (steps : Nat) (cell : Cell) : Prop where
  flat : (goal.y.toInt - start.y.toInt).natAbs ≤ (goal.x.toInt - start.x.toInt).natAbs →
    cell.x.toInt = start.x.toInt + steps * (goal.x.toInt - start.x.toInt).sign ∧
    cell.y.toInt = start.y.toInt +
      ((2 * steps * (goal.y.toInt - start.y.toInt).natAbs +
          (goal.x.toInt - start.x.toInt).natAbs) /
        (2 * (goal.x.toInt - start.x.toInt).natAbs) : Nat) * (goal.y.toInt - start.y.toInt).sign
  steep : (goal.x.toInt - start.x.toInt).natAbs ≤ (goal.y.toInt - start.y.toInt).natAbs →
    cell.y.toInt = start.y.toInt + steps * (goal.y.toInt - start.y.toInt).sign ∧
    cell.x.toInt = start.x.toInt +
      ((2 * steps * (goal.x.toInt - start.x.toInt).natAbs +
          (goal.y.toInt - start.y.toInt).natAbs) /
        (2 * (goal.y.toInt - start.y.toInt).natAbs) : Nat) * (goal.x.toInt - start.x.toInt).sign

theorem rounded_cellAfter (within : steps ≤ distance start goal) :
    Rounded start goal steps (cellAfter start goal steps) := by
  obtain ⟨x, y⟩ := toInt_cellAfter within
  obtain ⟨flat, steep⟩ := longer_after within
  constructor
  · intro shallow
    refine ⟨x.trans (flat shallow), ?_⟩
    rw [y]
    unfold after Course.place progress
    dsimp only
    rw [Nat.max_eq_left shallow, Nat.mul_right_comm 2 steps]
  · intro upright
    refine ⟨y.trans (steep upright), ?_⟩
    rw [x]
    unfold after Course.place progress
    dsimp only
    rw [Nat.max_eq_right upright, Nat.mul_right_comm 2 steps]

/-- The line between any two cells whose extents are at most a third of the range is traced
without a fault, and the walk along it ends by itself. It has one cell more than the longer extent
counts, each of them is where the rounded line has it, and together they are a way from the start
to the goal, from neighbour to neighbour, that comes to no cell twice. -/
theorem trace_rounded (start goal : Cell) (near : distance start goal ≤ 715827882) :
    ∃ cells, trace start goal = .ok cells ∧ Ends start goal cells ∧
      cells.length = distance start goal + 1 ∧
      (∀ (steps : Nat) (cell : Cell), cells[steps]? = some cell →
        Rounded start goal steps cell) ∧
      Way start goal cells ∧ cells.Nodup := by
  have steady := steady_of_near (Nat.le_succ_of_le near)
  refine ⟨cells start goal, steady.trace_eq, ends_of_trace steady.trace_eq, length_cells start goal, ?_,
    way_cells start goal, nodup_cells start goal⟩
  intro steps cell there
  unfold cells at there
  rw [List.getElem?_map, Option.map_eq_some_iff] at there
  obtain ⟨number, chosen, rfl⟩ := there
  obtain ⟨small, rfl⟩ := List.getElem?_eq_some_iff.mp chosen
  rw [List.length_range] at small
  rw [List.getElem_range]
  exact rounded_cellAfter (Nat.le_of_lt_succ small)

/-- A steep line up and to the left, with a half that is rounded up on the way. -/
theorem trace_rounded_steep :
    let start : Cell := ⟨2, -1⟩
    let goal : Cell := ⟨1, 3⟩
    distance start goal ≤ 715827882 ∧
      trace start goal = .ok [⟨2, -1⟩, ⟨2, 0⟩, ⟨1, 1⟩, ⟨1, 2⟩, ⟨1, 3⟩] ∧
      Rounded start goal 2 ⟨1, 1⟩ ∧
      Way start goal [⟨2, -1⟩, ⟨2, 0⟩, ⟨1, 1⟩, ⟨1, 2⟩, ⟨1, 3⟩] := by
  intro start goal
  have near : distance start goal ≤ 715827882 := by decide
  have traced : trace start goal = .ok [⟨2, -1⟩, ⟨2, 0⟩, ⟨1, 1⟩, ⟨1, 2⟩, ⟨1, 3⟩] := by decide
  obtain ⟨cells, same, _, _, rounded, way, _⟩ := trace_rounded start goal near
  rw [traced] at same
  cases same
  exact ⟨near, traced, rounded 2 _ rfl, way⟩

end Line

end RouteCache
