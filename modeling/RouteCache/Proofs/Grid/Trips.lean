import RouteCache.Proofs.Grid.Radius

/-!
When a grid keeps trips apart. The cells on a grid are numbered without gaps, and a pair of
them is a number of two digits to the base of the number of cells. As long as all of these
numbers are words, different pairs of cells have different base indices, and so have queries
of one radius and category different slots. On a grid with more cells than 32 bits can count
the numbers wrap: some pair of cells makes exactly 64 bits, and shares its base index with
the pair that is the first cell twice.
-/

namespace RouteCache

namespace Grid

variable {grid : Grid} {cell other : Cell}

/-- Whether a cell lies on the grid. -/
def Covers (grid : Grid) (cell : Cell) : Prop :=
  (0 ≤ cell.x.toInt ∧ cell.x.toInt < grid.width.toNat) ∧
    (0 ≤ cell.y.toInt ∧ cell.y.toInt < grid.depth.toNat)

instance (grid : Grid) (cell : Cell) : Decidable (grid.Covers cell) :=
  inferInstanceAs (Decidable (_ ∧ _))

/-- The number of cells on the grid. -/
def cells (grid : Grid) : Nat := grid.width.toNat * grid.depth.toNat

/-- The number of a cell on the grid, row by row, without wrapping. -/
def rank (grid : Grid) (cell : Cell) : Nat :=
  cell.x.toInt.toNat + cell.y.toInt.toNat * grid.width.toNat

/-- The cell with a number. -/
def cellAt (grid : Grid) (number : Nat) : Cell :=
  Cell.ofInts (number % grid.width.toNat : Nat) (number / grid.width.toNat : Nat)

/-- Whether a numbering of queries tells any two trips on the grid apart, when radius and
category are the same. -/
def SeparatesTrips (grid : Grid) (number : Query → UInt64) : Prop :=
  ∀ q r : Query, grid.Covers q.start → grid.Covers q.goal → grid.Covers r.start →
    grid.Covers r.goal → q.radius = r.radius → q.mover = r.mover →
      (q.start, q.goal) ≠ (r.start, r.goal) → number q ≠ number r

/-- The digits of a number of two digits can be read off it. -/
theorem digits_unique {base low high low' high' : Nat} (small : low < base) (small' : low' < base)
    (same : low + high * base = low' + high' * base) : low = low' ∧ high = high' := by
  have lows : (low + high * base) % base = (low' + high' * base) % base := by rw [same]
  rw [Nat.add_mul_mod_self_right, Nat.add_mul_mod_self_right, Nat.mod_eq_of_lt small,
    Nat.mod_eq_of_lt small'] at lows
  refine ⟨lows, ?_⟩
  rw [lows] at same
  exact Nat.eq_of_mul_eq_mul_right (Nat.zero_lt_of_lt small) (Nat.add_left_cancel same)

theorem digits_lt {base count low high : Nat} (small : low < base) (few : high < count) :
    low + high * base < base * count := by
  have below : (high + 1) * base ≤ count * base := Nat.mul_le_mul_right base few
  rw [Nat.succ_mul, Nat.mul_comm count] at below
  omega

/-! ### Numbering the cells -/

theorem Covers.rank_lt (h : grid.Covers cell) : grid.rank cell < grid.cells := by
  obtain ⟨⟨_, right⟩, _, bottom⟩ := h
  exact digits_lt (by omega) (by omega)

theorem rank_injective (h : grid.Covers cell) (h' : grid.Covers other)
    (same : grid.rank cell = grid.rank other) : cell = other := by
  obtain ⟨⟨left, right⟩, top, bottom⟩ := h
  obtain ⟨⟨left', right'⟩, top', bottom'⟩ := h'
  obtain ⟨columns, rows⟩ := digits_unique (by omega) (by omega) same
  have x : cell.x = other.x := Int32.toInt_inj.mp (by omega)
  have y : cell.y = other.y := Int32.toInt_inj.mp (by omega)
  cases cell
  cases other
  rw [Cell.mk.injEq]
  exact ⟨x, y⟩

theorem word_of_nonneg {value : Int} (h : 0 ≤ value) :
    UInt64.ofInt value = UInt64.ofNat value.toNat := by
  obtain ⟨number, rfl⟩ := Int.eq_ofNat_of_zero_le h
  apply UInt64.toNat_inj.mp
  simp only [UInt64.ofInt, UInt64.toNat_ofNat', Int.toNat_natCast]
  omega

theorem extent_eq {size : UInt32} (positive : 0 < size.toNat) :
    extent size = UInt64.ofNat size.toNat := by
  have nonzero : size ≠ 0 := by
    rintro rfl
    exact Nat.lt_irrefl 0 positive
  unfold extent
  rw [if_neg nonzero]
  exact (UInt64.ofNat_toNat (x := size.toUInt64)).symm

theorem Covers.index_eq (h : grid.Covers cell) :
    grid.index cell = UInt64.ofNat (grid.rank cell) := by
  obtain ⟨⟨left, right⟩, top, bottom⟩ := h
  unfold index rank
  rw [word_of_nonneg left, word_of_nonneg top, extent_eq (by omega), UInt64.ofNat_add,
    UInt64.ofNat_mul, UInt64.add_comm]

theorem base_eq {q : Query} (start : grid.Covers q.start) (goal : grid.Covers q.goal) :
    grid.base q = UInt64.ofNat (grid.rank q.start + grid.rank q.goal * grid.cells) := by
  have wide : 0 < grid.width.toNat := by
    obtain ⟨⟨left, right⟩, _⟩ := start
    omega
  have deep : 0 < grid.depth.toNat := by
    obtain ⟨_, top, bottom⟩ := start
    omega
  unfold base cells
  rw [start.index_eq, goal.index_eq, extent_eq wide, extent_eq deep, ← UInt64.ofNat_mul,
    ← UInt64.ofNat_mul, ← UInt64.ofNat_add]

/-- Every number below the number of cells is that of a cell, if the coordinates of all
cells fit. -/
theorem covers_cellAt (wide : grid.width.toNat ≤ 2147483648)
    (deep : grid.depth.toNat ≤ 2147483648) {number : Nat} (small : number < grid.cells) :
    grid.Covers (grid.cellAt number) ∧ grid.rank (grid.cellAt number) = number := by
  have positive : 0 < grid.width.toNat := Nat.pos_of_mul_pos_right (Nat.zero_lt_of_lt small)
  have right : number % grid.width.toNat < grid.width.toNat := Nat.mod_lt _ positive
  have bottom : number / grid.width.toNat < grid.depth.toNat := Nat.div_lt_of_lt_mul small
  have digits := Nat.mod_add_div' number grid.width.toNat
  unfold Covers rank cellAt Cell.ofInts
  generalize number % grid.width.toNat = column at right digits ⊢
  generalize number / grid.width.toNat = row at bottom digits ⊢
  rw [Int32.toInt_ofInt_of_le (by omega) (by omega), Int32.toInt_ofInt_of_le (by omega) (by omega),
    Int.toNat_natCast, Int.toNat_natCast]
  exact ⟨⟨⟨by omega, by omega⟩, by omega, by omega⟩, digits⟩

/-! ### Numbering the trips -/

/-- With no more cells than 32 bits can count, no base index wraps. -/
theorem base_separatesTrips (few : grid.cells ≤ 4294967296) : grid.SeparatesTrips grid.base := by
  intro q r start goal start' goal' _ _ differ shared
  have square : grid.cells * grid.cells ≤ UInt64.size := Nat.mul_le_mul few few
  have below := digits_lt start.rank_lt goal.rank_lt
  have below' := digits_lt start'.rank_lt goal'.rank_lt
  rw [base_eq start goal, base_eq start' goal', ← UInt64.toNat_inj,
    UInt64.toNat_ofNat_of_lt' (by omega), UInt64.toNat_ofNat_of_lt' (by omega)] at shared
  obtain ⟨starts, goals⟩ := digits_unique start.rank_lt start'.rank_lt shared
  apply differ
  rw [rank_injective start start' starts, rank_injective goal goal' goals]

/-- With more cells than that, the digits of what 64 bits wrap at are those of a pair of
cells. Its base index is the one of the pair that is the first cell twice. -/
theorem exists_shared_base (wide : grid.width.toNat ≤ 2147483648)
    (deep : grid.depth.toNat ≤ 2147483648) (many : 4294967296 < grid.cells) :
    ¬grid.SeparatesTrips grid.base := by
  have most : grid.cells ≤ 4611686018427387904 := Nat.mul_le_mul wide deep
  obtain ⟨low, high, wrap, small, small', positive⟩ :
      ∃ low high, low + high * grid.cells = UInt64.size ∧ low < grid.cells ∧
        high < grid.cells ∧ 0 < high := by
    have square : UInt64.size < grid.cells * grid.cells :=
      Nat.lt_of_lt_of_le (by decide) (Nat.mul_le_mul many many)
    exact ⟨_, _, Nat.mod_add_div' UInt64.size grid.cells, Nat.mod_lt _ (by omega),
      Nat.div_lt_of_lt_mul square,
      Nat.div_pos (Nat.le_trans most (by decide)) (by omega)⟩
  obtain ⟨start, starts⟩ := covers_cellAt wide deep small
  obtain ⟨goal, goals⟩ := covers_cellAt wide deep small'
  obtain ⟨first, zero⟩ := covers_cellAt wide deep (Nat.zero_lt_of_lt small)
  intro separates
  let trip : Query := ⟨grid.cellAt low, grid.cellAt high, Single.zero, 0⟩
  let still : Query := ⟨grid.cellAt 0, grid.cellAt 0, Single.zero, 0⟩
  refine separates trip still start goal first first rfl rfl ?_ ?_
  · intro same
    have equal : grid.rank (grid.cellAt high) = grid.rank (grid.cellAt 0) :=
      congrArg grid.rank (Prod.mk.inj same).2
    omega
  · have wrapped : grid.base trip = UInt64.ofNat (low + high * grid.cells) := by
      rw [base_eq (q := trip) start goal, starts, goals]
    have unmoved : grid.base still = UInt64.ofNat (0 + 0 * grid.cells) := by
      rw [base_eq (q := still) first first, zero]
    rw [wrapped, unmoved, wrap, Nat.zero_mul]
    rfl

/-- Radius and category only add the same bits to two base indices. -/
theorem slot_separatesTrips_iff :
    grid.SeparatesTrips grid.slot ↔ grid.SeparatesTrips grid.base := by
  have cancel : ∀ q r : Query, q.radius = r.radius → q.mover = r.mover →
      (grid.slot q = grid.slot r ↔ grid.base q = grid.base r) := by
    intro q r radius mover
    unfold slot
    rw [radius, mover, UInt64.xor_left_inj, UInt64.xor_left_inj]
  constructor
  · intro h q r start goal start' goal' radius mover differ shared
    exact h q r start goal start' goal' radius mover differ ((cancel q r radius mover).mpr shared)
  · intro h q r start goal start' goal' radius mover differ shared
    exact h q r start goal start' goal' radius mover differ ((cancel q r radius mover).mp shared)

/-- On a grid whose coordinates all fit, queries of one radius and category for different
trips have different slots exactly as long as there are no more cells than 32 bits can
count. The same holds of their base indices. -/
theorem separatesTrips_iff (grid : Grid)
    (wide : 1 ≤ grid.width.toNat ∧ grid.width.toNat ≤ 2147483648)
    (deep : 1 ≤ grid.depth.toNat ∧ grid.depth.toNat ≤ 2147483648) :
    (grid.width.toNat * grid.depth.toNat ≤ 4294967296 ↔ grid.SeparatesTrips grid.slot) ∧
      (grid.width.toNat * grid.depth.toNat ≤ 4294967296 ↔ grid.SeparatesTrips grid.base) := by
  have exact : grid.cells ≤ 4294967296 ↔ grid.SeparatesTrips grid.base := by
    refine ⟨base_separatesTrips, ?_⟩
    intro separates
    by_cases few : grid.cells ≤ 4294967296
    · exact few
    · exact absurd separates (exists_shared_base wide.2 deep.2 (Nat.lt_of_not_le few))
  exact ⟨exact.trans slot_separatesTrips_iff.symm, exact⟩

/-- The largest square grid that keeps trips apart, and the grid with one row more. -/
theorem separatesTrips_iff_square :
    (65536 : UInt32).toNat * (65536 : UInt32).toNat ≤ 4294967296 ∧
      (⟨65536, 65536⟩ : Grid).SeparatesTrips (Grid.slot ⟨65536, 65536⟩) ∧
      ¬(⟨65536, 65537⟩ : Grid).SeparatesTrips (Grid.slot ⟨65536, 65537⟩) := by
  have square := (separatesTrips_iff ⟨65536, 65536⟩ (by decide) (by decide)).1
  have larger := (separatesTrips_iff ⟨65536, 65537⟩ (by decide) (by decide)).1
  refine ⟨by decide, square.mp (by decide), ?_⟩
  intro separates
  exact absurd (larger.mpr separates) (by decide)

end Grid

end RouteCache
