import RouteCache.Fault
import RouteCache.Route

/-!
Where a query is placed. The cells of a query are numbered row by row, the pair of
them gives a base index, and the radius and the mover category are mixed into it.
All arithmetic wraps at 64 bits. Different queries may share a slot.
-/

namespace RouteCache

/-- A rule that gives each query its slot. -/
abbrev Placement := Query → Slot

/-- The dimensions by which cells are numbered. Zero counts as one. -/
structure Grid where
  width : UInt32
  depth : UInt32
deriving DecidableEq

namespace Grid

/-- A dimension as a word, at least one. -/
def extent (size : UInt32) : UInt64 := if size = 0 then 1 else size.toUInt64

/-- The number of a cell, row by row. A negative coordinate wraps. -/
def index (grid : Grid) (cell : Cell) : UInt64 :=
  UInt64.ofInt cell.y.toInt * extent grid.width + UInt64.ofInt cell.x.toInt

def base (grid : Grid) (q : Query) : UInt64 :=
  grid.index q.start + grid.index q.goal * (extent grid.width * extent grid.depth)

/-- Spreads the bits of the radius. The factor is odd, so no two radii agree. -/
def spreadRadius (radius : Single) : UInt64 := radius.bits.toUInt64 * 0x9E3779B97F4A7C15

def swapHalves (word : UInt64) : UInt64 := word <<< 32 ||| word >>> 32

def spreadMover (mover : UInt32) : UInt64 := (mover.toUInt64 + 1) * 0xC2B2AE3D27D4EB4F

/-- The slot of a query on the grid. -/
def slot (grid : Grid) : Placement := fun q =>
  grid.base q ^^^ swapHalves (spreadRadius q.radius) ^^^ spreadMover q.mover

end Grid

namespace Placement

def constant (slot : Slot) : Placement := fun _ => slot

/-- Keeps the given bits of another placement. -/
def masked (mask : Slot) (placement : Placement) : Placement := fun q => placement q &&& mask

/-- Places a query as if its radius were zero. -/
def withoutRadius (placement : Placement) : Placement :=
  fun q => placement { q with radius := Single.zero }

end Placement

end RouteCache
