import RouteCache.Proofs.Search.Straight
import RouteCache.Simulation

/-!
The queries of the units in closed form. A unit asks the same query throughout a phase. As
long as the number of the phase is small enough for its multiples to fit, no step of the
reckoning overflows, all cells lie on a square that fits on the grid, and the straight line
finds a way. The bound on the ticks is that of the last unit, whose goal is the first to leave
the 32 bits.
-/

namespace RouteCache

theorem wrap32_of_lt {number : Nat} (small : number < 2147483648) : wrap32 number = number := by
  apply Int.bmod_eq_of_le_mul_two <;> omega

/-! A reckoning in small numbers is one in natural numbers. -/

theorem within32_of_eq {fault : Fault} {value : Int} (number : Nat) (same : value = number)
    (small : number < 2147483648) : within32 fault value = .ok (number : Int) := by
  apply within32_eq_ok_iff.mpr
  refine ⟨same.symm, ?_⟩
  unfold Fits32
  omega

theorem checkedRem_of_eq {dividend : Int} {divisor : Nat} (number : Nat)
    (same : dividend = number) (positive : 0 < divisor) :
    checkedRem dividend divisor = .ok (number % divisor : Nat) := by
  unfold checkedRem
  rw [if_neg (by omega), same, Int.ofNat_tmod]

namespace Simulation

variable {settings : Settings} {unit : UInt32} {now : Tick} {phase : Nat}

/-- The width of the square on which the units move. -/
def spread (settings : Settings) : Nat := min settings.width.toNat settings.depth.toNat

/-- The query of a unit in a phase. -/
def queryIn (settings : Settings) (phase : Nat) (unit : UInt32) : Query where
  start := Cell.ofInts (unit.toNat * 7 % spread settings : Nat)
    (unit.toNat * 3 % spread settings : Nat)
  goal := Cell.ofInts
    ((unit.toNat * 7 % spread settings + 11 + phase * 5) % spread settings : Nat)
    ((unit.toNat * 3 % spread settings + 17 + unit.toNat % 4 * phase) % spread settings : Nat)
  radius := Single.eight
  mover := unit % moverCount

/-- The phase that a tick belongs to. -/
def phaseOf (now : Tick) : Nat := now.toNat / phaseTicks.toNat

theorem queryOf_eq (small : unit.toNat < unitCount) (early : now.toNat < 38654704080)
    (positive : 0 < spread settings) (fits : spread settings < 2147483648) :
    queryOf settings unit now = .ok (queryIn settings (phaseOf now) unit) := by
  unfold unitCount at small
  have phases : phaseOf now < 429496712 := Nat.div_lt_of_lt_mul early
  have hphase : wrap32 (now / phaseTicks).toNat = phaseOf now := by
    rw [UInt64.toNat_div]
    exact wrap32_of_lt (Nat.lt_trans phases (by decide))
  have hspread : wrap32 (min settings.width.toNat settings.depth.toNat) = spread settings :=
    wrap32_of_lt fits
  have hunit : wrap32 unit.toNat = unit.toNat := wrap32_of_lt (by omega)
  have first := Nat.mod_le (unit.toNat * 7) (spread settings)
  have second := Nat.mod_le (unit.toNat * 3) (spread settings)
  have pace : unit.toNat % 4 * phaseOf now ≤ 3 * phaseOf now :=
    Nat.mul_le_mul_right _ (by omega)
  unfold queryOf
  simp only [hphase, hspread, hunit, except_bind_eq_ok_iff]
  exact ⟨_, within32_of_eq (unit.toNat * 7) rfl (by omega), _, checkedRem_of_eq _ rfl positive,
    _, within32_of_eq (unit.toNat * 3) rfl (by omega), _, checkedRem_of_eq _ rfl positive,
    _, within32_of_eq (unit.toNat * 7 % spread settings + 11) rfl (by omega),
    _, within32_of_eq (phaseOf now * 5) rfl (by omega),
    _, within32_of_eq (unit.toNat * 7 % spread settings + 11 + phaseOf now * 5) rfl (by omega),
    _, checkedRem_of_eq _ rfl positive,
    _, within32_of_eq (unit.toNat * 3 % spread settings + 17) rfl (by omega),
    _, checkedRem_of_eq unit.toNat rfl (by decide : 0 < 4),
    _, within32_of_eq (unit.toNat % 4 * phaseOf now) rfl (by omega),
    _, within32_of_eq (unit.toNat * 3 % spread settings + 17 + unit.toNat % 4 * phaseOf now) rfl
      (by omega),
    _, checkedRem_of_eq _ rfl positive, rfl⟩

/-! ### The square -/

/-- Whether a cell lies on the square. -/
def OnSquare (settings : Settings) (cell : Cell) : Prop :=
  (0 ≤ cell.x.toInt ∧ cell.x.toInt < spread settings) ∧
    (0 ≤ cell.y.toInt ∧ cell.y.toInt < spread settings)

theorem onSquare_ofInts {column row : Nat} (fits : spread settings < 2147483648)
    (x : column < spread settings) (y : row < spread settings) :
    OnSquare settings (Cell.ofInts column row) := by
  unfold OnSquare Cell.ofInts
  dsimp only
  rw [Int32.toInt_ofInt_of_le (by omega) (by omega), Int32.toInt_ofInt_of_le (by omega) (by omega)]
  omega

theorem queryIn_onSquare (positive : 0 < spread settings) (fits : spread settings < 2147483648)
    (phase : Nat) (unit : UInt32) :
    OnSquare settings (queryIn settings phase unit).start ∧
      OnSquare settings (queryIn settings phase unit).goal :=
  ⟨onSquare_ofInts fits (Nat.mod_lt _ positive) (Nat.mod_lt _ positive),
    onSquare_ofInts fits (Nat.mod_lt _ positive) (Nat.mod_lt _ positive)⟩

theorem OnSquare.covers {cell : Cell} (h : OnSquare settings cell) : settings.grid.Covers cell := by
  have narrow : spread settings ≤ settings.width.toNat := Nat.min_le_left _ _
  have shallow : spread settings ≤ settings.depth.toNat := Nat.min_le_right _ _
  obtain ⟨⟨left, right⟩, top, bottom⟩ := h
  unfold Grid.Covers Settings.grid
  dsimp only
  omega

theorem OnSquare.distance_lt {start goal : Cell} (h : OnSquare settings start)
    (h' : OnSquare settings goal) : Line.distance start goal < spread settings := by
  obtain ⟨⟨left, right⟩, top, bottom⟩ := h
  obtain ⟨⟨left', right'⟩, top', bottom'⟩ := h'
  unfold Line.distance
  omega

/-- On a square that is not too wide the straight line answers every query of a unit. -/
theorem search_queryIn (wide : settings.width.toNat < 2147483648)
    (deep : settings.depth.toNat < 2147483648) (positive : 0 < spread settings)
    (near : spread settings ≤ 715827883) (phase : Nat) (unit : UInt32) (memory : Unit) :
    ∃ found, search settings (queryIn settings phase unit) memory = .ok found memory ∧
      found.verdict = .reached ∧
        Line.Ends (queryIn settings phase unit).start (queryIn settings phase unit).goal
          found.route.cells := by
  obtain ⟨start, goal⟩ := queryIn_onSquare positive (by omega) phase unit
  have apart := start.distance_lt goal
  have straight := Search.straight_of_steady ((Grid.covers_iff_within wide deep).mp start.covers)
    ((Grid.covers_iff_within wide deep).mp goal.covers) (Line.steady_of_near (by omega))
  exact ⟨_, Search.ofExcept_eq_ok straight memory, rfl,
    Line.ends_of_trace (Search.of_straight_reached straight).2⟩

/-! ### All queries of the units -/

/-- Before the phases grow too large the units ask only what can be answered: on a grid whose
dimensions fit into 32 signed bits and which is not too wide in both directions, no step of
forming a query overflows, both cells lie on the square, and the search finds the goal
without a fault, along a line whose walk ends by itself. -/
theorem queryOf_answered (settings : Settings)
    (wide : 1 ≤ settings.width.toNat ∧ settings.width.toNat ≤ 2147483647)
    (deep : 1 ≤ settings.depth.toNat ∧ settings.depth.toNat ≤ 2147483647)
    (near : min settings.width.toNat settings.depth.toNat ≤ 715827883) (unit : UInt32)
    (small : unit.toNat < unitCount) (now : Tick) (early : now.toNat < 38654704080) :
    ∃ query, queryOf settings unit now = .ok query ∧
      OnSquare settings query.start ∧ OnSquare settings query.goal ∧
        ∃ found, search settings query () = .ok found () ∧ found.verdict = .reached ∧
          Line.Ends query.start query.goal found.route.cells := by
  have positive : 0 < spread settings := by
    unfold spread
    omega
  have narrow : spread settings < 2147483648 := Nat.lt_of_le_of_lt near (by decide)
  obtain ⟨start, goal⟩ := queryIn_onSquare positive narrow (phaseOf now) unit
  exact ⟨_, queryOf_eq small early positive narrow, start, goal,
    search_queryIn (by omega) (by omega) positive near (phaseOf now) unit ()⟩

/-- The last unit at the last tick, on the largest of these grids. -/
theorem queryOf_answered_last :
    let settings : Settings := { width := 2147483647, depth := 715827883 }
    ∃ query, queryOf settings 11 38654704079 = .ok query ∧
      OnSquare settings query.start ∧ OnSquare settings query.goal ∧
        ∃ found, search settings query () = .ok found () ∧ found.verdict = .reached ∧
          Line.Ends query.start query.goal found.route.cells := by
  intro settings
  exact queryOf_answered settings (by decide) (by decide) (by decide) 11 (by decide)
    38654704079 (by decide)

end Simulation

end RouteCache
