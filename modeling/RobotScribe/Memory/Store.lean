/-
# Storage

A slot is a place that holds one value.  Two variables that are bound to one slot are two
names of the same place: what is written through one is read through the other.
-/
import RobotScribe.Value.Basic

namespace RobotScribe

/-- A place in a store. -/
structure Slot where
  /-- The number of the place, in the order in which places were made. -/
  index : Nat
deriving DecidableEq, Repr, Inhabited

/-- The values of all slots that were ever made. -/
structure Store where
  /-- The value of each slot, by its number. -/
  cells : Array Value
deriving DecidableEq, Repr, Inhabited

namespace Store

/-- A store without slots. -/
def empty : Store := ⟨#[]⟩

/-- Whether a slot was made in a store. -/
def Has (store : Store) (slot : Slot) : Prop := slot.index < store.cells.size

/-- The value in a slot.  A slot that was never made holds no value. -/
def read (store : Store) (slot : Slot) : Value := store.cells.getD slot.index Value.void

/-- The slot that is made next. -/
def next (store : Store) : Slot := ⟨store.cells.size⟩

/-- A store with one more slot, `store.next`, that holds a value. -/
def alloc (store : Store) (value : Value) : Store := ⟨store.cells.push value⟩

/-- Replaces the value in a slot. -/
def write (store : Store) (slot : Slot) (value : Value) : Store :=
  ⟨store.cells.setIfInBounds slot.index value⟩

/-- Gives back the slots that were made last, down to a number of slots. -/
def shrink (store : Store) (count : Nat) : Store := ⟨store.cells.shrink count⟩

/-- The number of slots. -/
def size (store : Store) : Nat := store.cells.size

/-- Replaces the values in some slots, one after the other. -/
def writeAll (store : Store) (values : List (Slot × Value)) : Store :=
  values.foldl (fun store entry => store.write entry.1 entry.2) store

theorem read_write_self {store : Store} {slot : Slot} (h : store.Has slot) (value : Value) :
    (store.write slot value).read slot = value := by
  have hi : slot.index < store.cells.size := h
  simp [read, write, Array.getD_eq_getD_getElem?, hi]

theorem read_write_of_ne {store : Store} {slot other : Slot} (h : slot ≠ other) (value : Value) :
    (store.write slot value).read other = store.read other := by
  have hi : slot.index ≠ other.index := fun e => h (by cases slot; cases other; simp_all)
  simp [read, write, Array.getD_eq_getD_getElem?, Array.getElem?_setIfInBounds_ne hi]

theorem read_alloc_next (store : Store) (value : Value) :
    (store.alloc value).read store.next = value := by
  simp [read, alloc, next, Array.getD_eq_getD_getElem?]

theorem read_alloc_of_has {store : Store} {slot : Slot} (h : store.Has slot) (value : Value) :
    (store.alloc value).read slot = store.read slot := by
  have hi : slot.index < store.cells.size := h
  simp [read, alloc, Array.getD_eq_getD_getElem?, Array.getElem?_push, Nat.ne_of_lt hi]

theorem read_shrink {store : Store} {slot : Slot} {count : Nat} (h : slot.index < count) :
    (store.shrink count).read slot = store.read slot := by
  have same : (store.cells.shrink count)[slot.index]? = store.cells[slot.index]? := by
    rw [← Array.getElem?_toList, ← Array.getElem?_toList, Array.toList_shrink,
      List.getElem?_take_of_lt h]
  simp only [read, shrink, Array.getD_eq_getD_getElem?, same]

@[simp] theorem has_write {store : Store} {slot other : Slot} {value : Value} :
    (store.write slot value).Has other ↔ store.Has other := by
  simp [Has, write]

end Store

end RobotScribe
