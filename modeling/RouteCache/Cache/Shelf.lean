import RouteCache.Fault
import RouteCache.Route
import Std.Data.TreeMap

/-!
A shelf holds at most one memo in each slot. The view is `get?`, and each operation
has one lemma that says what it does to that view and one for the size.
-/

namespace RouteCache

/-- Memos by slot. -/
structure Shelf where
  memos : Std.TreeMap Slot Memo := ∅

namespace Shelf

def empty : Shelf := {}

def get? (shelf : Shelf) (slot : Slot) : Option Memo := shelf.memos[slot]?

def size (shelf : Shelf) : Nat := shelf.memos.size

def isEmpty (shelf : Shelf) : Bool := shelf.memos.isEmpty

/-- Puts a memo into a slot, unless the slot is taken. -/
def insert? (shelf : Shelf) (slot : Slot) (memo : Memo) : Option Shelf :=
  match shelf.get? slot with
  | some _ => none
  | none => some ⟨shelf.memos.insert slot memo⟩

def erase (shelf : Shelf) (slot : Slot) : Shelf := ⟨shelf.memos.erase slot⟩

@[simp] theorem get?_empty (slot : Slot) : empty.get? slot = none := by
  simp [empty, get?]

@[simp] theorem size_empty : empty.size = 0 := by
  simp [empty, size]

theorem get?_of_insert? {shelf after : Shelf} {slot : Slot} {memo : Memo}
    (h : shelf.insert? slot memo = some after) (other : Slot) :
    after.get? other = if other = slot then some memo else shelf.get? other := by
  unfold insert? at h
  split at h
  · cases h
  · cases h
    simp only [get?, Std.TreeMap.getElem?_insert, Std.LawfulEqCmp.compare_eq_iff_eq]
    simp only [eq_comm]

theorem size_of_insert? {shelf after : Shelf} {slot : Slot} {memo : Memo}
    (h : shelf.insert? slot memo = some after) : after.size = shelf.size + 1 := by
  unfold insert? at h
  split at h
  · cases h
  · rename_i vacant
    cases h
    have absent : slot ∉ shelf.memos := by simpa [get?] using vacant
    simp [size, Std.TreeMap.size_insert, absent]

@[simp] theorem get?_erase (shelf : Shelf) (slot other : Slot) :
    (shelf.erase slot).get? other = if other = slot then none else shelf.get? other := by
  simp only [erase, get?, Std.TreeMap.getElem?_erase, Std.LawfulEqCmp.compare_eq_iff_eq]
  simp only [eq_comm]

theorem size_erase_of_get? {shelf : Shelf} {slot : Slot} {memo : Memo}
    (h : shelf.get? slot = some memo) : (shelf.erase slot).size + 1 = shelf.size := by
  have present : slot ∈ shelf.memos := by
    rw [Std.TreeMap.mem_iff_isSome_getElem?]
    exact Option.isSome_iff_exists.2 ⟨memo, h⟩
  have inhabited : shelf.memos.isEmpty = false :=
    Std.TreeMap.isEmpty_eq_false_iff_exists_mem.2 ⟨slot, present⟩
  have positive : shelf.memos.size ≠ 0 := by
    simpa [Std.TreeMap.isEmpty_eq_size_eq_zero] using inhabited
  simp only [size, erase, Std.TreeMap.size_erase, Std.TreeMap.contains_iff_mem, present, if_true]
  omega

end Shelf

end RouteCache
