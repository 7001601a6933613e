import RouteCache.Proofs.Search.Straight
import RouteCache.Simulation

/-!
Which settings the search can work with. Settings are accepted with any dimensions that are not
zero, but the search reckons in 32 signed bits. A dimension that has no place there becomes a
negative one, and all cells of the grid are outside then. On other grids a line can be so long
that its doubled error term overflows.

`Settings.Traversable` says how large a grid can be: for accepted settings it holds exactly when
the search finds the way between any two cells of the grid. On every grid whose dimensions fit,
two cells that are not too far apart are still no trouble.
-/

namespace RouteCache

/-- Whether the grid is small enough, or a single row or column that is not too long, for all
lines on it to be steady. -/
def Settings.Traversable (settings : Settings) : Prop :=
  (settings.width.toNat ≤ 715827884 ∧ settings.depth.toNat ≤ 715827884) ∨
    (settings.depth.toNat = 1 ∧ settings.width.toNat ≤ 1073741824) ∨
    (settings.width.toNat = 1 ∧ settings.depth.toNat ≤ 1073741825)

theorem Settings.positive_of_check {settings : Settings} (accepted : settings.check = .ok ()) :
    0 < settings.width.toNat ∧ 0 < settings.depth.toNat := by
  have positive {size : UInt32} (nonzero : size ≠ 0) : 0 < size.toNat :=
    Nat.pos_of_ne_zero fun zero => nonzero (UInt32.toNat_inj.mp zero)
  unfold Settings.check at accepted
  split at accepted
  · cases accepted
  · split at accepted
    · cases accepted
    · rename_i nonzero
      exact ⟨positive fun zero => nonzero (.inl zero), positive fun zero => nonzero (.inr zero)⟩

/-- A dimension that is positive as a signed word is the same number as a word. -/
theorem lt_of_toInt32_pos {size : UInt32} (positive : 0 < size.toInt32.toInt) :
    size.toNat < 2147483648 := by
  have value : size.toInt32.toInt = Int.bmod size.toNat 4294967296 := BitVec.toInt_eq_toNat_bmod _
  have bound := size.toNat_lt
  rw [value, Int.bmod_def] at positive
  omega

namespace Simulation

variable {settings : Settings} {query : Query}

/-- Whether the search finds a way for a query, without a fault, along a line whose walk ends
by itself. -/
def Reaches (settings : Settings) (query : Query) : Prop :=
  ∃ route, search settings query () = .ok ⟨route, .reached⟩ () ∧
    Line.Ends query.start query.goal route.cells

/-- A way that is found is found along such a line. -/
theorem reaches_iff : Reaches settings query ↔
    ∃ route, Search.straight settings.width.toInt32 settings.depth.toInt32 query =
      .ok ⟨route, .reached⟩ := by
  constructor
  · rintro ⟨route, searched, _⟩
    unfold search Search.ofExcept at searched
    split at searched
    · rename_i found answered
      cases searched
      exact ⟨route, answered⟩
    · cases searched
  · rintro ⟨route, found⟩
    exact ⟨route, Search.ofExcept_eq_ok found (),
      Line.ends_of_trace (Search.of_straight_reached found).2⟩

theorem reaches_of_steady (wide : settings.width.toNat < 2147483648)
    (deep : settings.depth.toNat < 2147483648) (start : settings.grid.Covers query.start)
    (goal : settings.grid.Covers query.goal) (steady : Line.Steady query.start query.goal) :
    Reaches settings query := by
  have first := (Grid.covers_iff_within wide deep).mp start
  have last := (Grid.covers_iff_within wide deep).mp goal
  exact reaches_iff.mpr ⟨_, Search.straight_of_steady first last steady⟩

theorem steady_of_traversable (traversable : settings.Traversable)
    (start : settings.grid.Covers query.start) (goal : settings.grid.Covers query.goal) :
    Line.Steady query.start query.goal := by
  unfold Grid.Covers Settings.grid at start goal
  dsimp only at start goal
  rcases traversable with ⟨narrow, shallow⟩ | ⟨row, short⟩ | ⟨column, short⟩
  · apply Line.steady_of_near
    unfold Line.distance
    omega
  · have level : (query.goal.y.toInt - query.start.y.toInt).natAbs = 0 := by omega
    unfold Line.Steady
    rw [level]
    exact Line.Course.steady_level (by omega)
  · have upright : (query.goal.x.toInt - query.start.x.toInt).natAbs = 0 := by omega
    unfold Line.Steady
    rw [upright]
    exact Line.Course.steady_upright (by omega)

/-- A way was found between cells of the rectangle only, and the doubled error term of the line
between them did not overflow. -/
theorem Reaches.of_search (reaches : Reaches settings query) :
    (query.start.Within settings.width.toInt32 settings.depth.toInt32 ∧
        query.goal.Within settings.width.toInt32 settings.depth.toInt32) ∧
      ∀ steps, steps < Line.distance query.start query.goal →
        Fits32 (2 * (Line.after query.start query.goal steps).error) := by
  obtain ⟨route, found⟩ := reaches_iff.mp reaches
  obtain ⟨within, traced⟩ := Search.of_straight_reached found
  exact ⟨within, fun steps more => Line.doubled_of_trace traced more⟩

/-- The query from the first cell of the grid to the one in a column and a row. -/
def fromOrigin (column row : Nat) : Query := ⟨⟨0, 0⟩, Cell.ofInts column row, Single.eight, 0⟩

/-- If the search finds a way to every cell, then the grid is traversable. On a larger one there
is a line from the first cell along which the doubled error term overflows: a single row or column
that is too long at once, a longer line when the walk has left its first row or column. -/
theorem traversable_of_reaches (wide : 0 < settings.width.toNat) (deep : 0 < settings.depth.toNat)
    (reaches : ∀ query, settings.grid.Covers query.start → settings.grid.Covers query.goal →
      Reaches settings query) : settings.Traversable := by
  have origin : settings.grid.Covers ⟨0, 0⟩ := by
    have zero : (0 : Int32).toInt = 0 := rfl
    unfold Grid.Covers Settings.grid
    dsimp only
    rw [zero]
    omega
  obtain ⟨⟨⟨⟨_, left⟩, _, top⟩, _⟩, _⟩ := (reaches ⟨⟨0, 0⟩, ⟨0, 0⟩, Single.eight, 0⟩ origin
    origin).of_search
  have narrow := lt_of_toInt32_pos (show 0 < settings.width.toInt32.toInt from left)
  have shallow := lt_of_toInt32_pos (show 0 < settings.depth.toInt32.toInt from top)
  have doubled (column row : Nat) (x : column < settings.width.toNat)
      (y : row < settings.depth.toNat) {steps : Nat}
      (more : steps < Line.distance (fromOrigin column row).start (fromOrigin column row).goal) :
      Fits32 (2 *
        (Line.after (fromOrigin column row).start (fromOrigin column row).goal steps).error) := by
    have goal : settings.grid.Covers (fromOrigin column row).goal := by
      unfold Grid.Covers Settings.grid fromOrigin Cell.ofInts
      dsimp only
      rw [Int32.toInt_ofInt_of_le (by omega) (by omega),
        Int32.toInt_ofInt_of_le (by omega) (by omega)]
      omega
    exact (reaches (fromOrigin column row) origin goal).of_search.2 steps more
  have row : settings.width.toNat ≤ 1073741824 := Nat.le_of_not_lt fun beyond =>
    absurd (doubled 1073741824 0 beyond deep (show 0 < _ by decide +kernel)) (by decide +kernel)
  have column : settings.depth.toNat ≤ 1073741825 := Nat.le_of_not_lt fun beyond =>
    absurd (doubled 0 1073741825 wide beyond (show 0 < _ by decide +kernel)) (by decide +kernel)
  have flat (second : 1 < settings.depth.toNat) : settings.width.toNat ≤ 715827884 :=
    Nat.le_of_not_lt fun beyond => absurd
      (doubled 715827884 1 beyond second (show 357913942 < _ by decide +kernel))
      (by decide +kernel)
  have steep (second : 1 < settings.width.toNat) : settings.depth.toNat ≤ 715827884 :=
    Nat.le_of_not_lt fun beyond => absurd
      (doubled 1 715827884 second beyond (show 357913942 < _ by decide +kernel))
      (by decide +kernel)
  unfold Settings.Traversable
  omega

/-- Accepted settings are no promise that the search works. It finds a way between any two cells
of the grid exactly when the grid is traversable. On a grid whose dimensions fit into 32 signed
bits it still finds one between any two cells that are not too far apart. -/
theorem search_reaches_iff (settings : Settings) (accepted : settings.check = .ok ()) :
    ((∀ query, settings.grid.Covers query.start → settings.grid.Covers query.goal →
        Reaches settings query) ↔ settings.Traversable) ∧
      (settings.width.toNat < 2147483648 → settings.depth.toNat < 2147483648 →
        ∀ query, settings.grid.Covers query.start → settings.grid.Covers query.goal →
          Line.distance query.start query.goal ≤ 715827883 → Reaches settings query) := by
  obtain ⟨wide, deep⟩ := settings.positive_of_check accepted
  refine ⟨⟨traversable_of_reaches wide deep, ?_⟩, ?_⟩
  · intro traversable query start goal
    have narrow : settings.width.toNat < 2147483648 := by
      unfold Settings.Traversable at traversable
      omega
    have shallow : settings.depth.toNat < 2147483648 := by
      unfold Settings.Traversable at traversable
      omega
    exact reaches_of_steady narrow shallow start goal
      (steady_of_traversable traversable start goal)
  · intro narrow shallow query start goal near
    exact reaches_of_steady narrow shallow start goal (Line.steady_of_near near)

/-- The usual settings, and settings with a wide grid on which near cells are found. -/
theorem search_reaches_iff_usual :
    let usual : Settings := {}
    let wide : Settings := { width := 2147483647, depth := 2147483647 }
    let near : Query := ⟨⟨2147483646, 5⟩, ⟨2147483640, 9⟩, Single.eight, 0⟩
    usual.check = .ok () ∧ usual.Traversable ∧
      (∀ query, usual.grid.Covers query.start → usual.grid.Covers query.goal →
        Reaches usual query) ∧
      wide.check = .ok () ∧ Line.distance near.start near.goal ≤ 715827883 ∧
        Reaches wide near := by
  intro usual wide near
  have traversable : usual.Traversable := .inl ⟨by decide, by decide⟩
  have close : Line.distance near.start near.goal ≤ 715827883 := by decide
  exact ⟨rfl, traversable, (search_reaches_iff usual rfl).1.mpr traversable, rfl, close,
    (search_reaches_iff wide rfl).2 (by decide) (by decide) near (by decide) (by decide) close⟩

/-- Two settings that are accepted. With a width that is no signed word the search fails between
two cells of the grid that are next to each other, and with the greatest width that is one it
faults between two cells that are half of it apart. -/
theorem search_fails_on_wide_grid :
    let unsigned : Settings := { width := 2147483648, depth := 1 }
    let signed : Settings := { width := 2147483647, depth := 1 }
    let next : Query := ⟨⟨0, 0⟩, ⟨1, 0⟩, Single.eight, 0⟩
    let far : Query := ⟨⟨0, 0⟩, ⟨1073741824, 0⟩, Single.eight, 0⟩
    (unsigned.check = .ok () ∧ unsigned.grid.Covers next.start ∧
        unsigned.grid.Covers next.goal ∧
        search unsigned next () = .ok ⟨{}, .failed⟩ ()) ∧
      signed.check = .ok () ∧ signed.grid.Covers far.start ∧ signed.grid.Covers far.goal ∧
        search signed far () = .error .multiplicationOverflow () :=
  ⟨⟨rfl, by decide, by decide, rfl⟩, rfl, by decide, by decide, rfl⟩

end Simulation

end RouteCache
