/-
# Array elements

Reading and storing one element of an array.  A store past the end makes the array longer and
fills the gap with zeros or with `false`.
-/
import RobotScribe.Value.Basic

namespace RobotScribe

/-- The position that an index names, if it is not negative. -/
def position? (index : Int64) : Option Nat := if 0 ≤ index then some index.toInt.toNat else none

/-- An array with an item stored at a position; the gap before it is filled as needed. -/
def storeAt {α : Type} (gap : α) (items : Array α) (i : Nat) (item : α) : Array α :=
  (items ++ Array.replicate (i + 1 - items.size) gap).setIfInBounds i item

/-- An item of an array at an index, if the array has one there. -/
def itemAt? {α : Type} (items : Array α) (index : Int64) : Option α :=
  (position? index).bind fun i => items[i]?

namespace Value

/-- An empty array that can hold an element. -/
def emptyArrayFor (element : Value) : Except Fault Value :=
  match element.payload with
  | .integer _ => .ok (integers #[])
  | .boolean _ => .ok (booleans #[])
  | _ => .error (.typeMismatch "integer or boolean" element.kind)

/-- The element of an array at an index. -/
def element (array : Value) (index : Int64) : Except Fault Value :=
  match array.payload with
  | .integers items =>
    match itemAt? items index with
    | some n => .ok (integer n)
    | none => .error (.indexOutOfBounds index items.size)
  | .booleans items =>
    match itemAt? items index with
    | some b => .ok (boolean b)
    | none => .error (.indexOutOfBounds index items.size)
  | _ => .error (.typeMismatch "array" array.kind)

/-- The array with an element stored at an index.  The text of the result shows it as it is
now.  A negative index is refused before anything else is looked at. -/
def storeElement (array : Value) (index : Int64) (element : Value) : Except Fault Value :=
  match position? index with
  | none => .error (.indexOutOfBounds index array.length)
  | some i =>
    match array.payload, element.payload with
    | .integers items, .integer n => .ok (integers (storeAt 0 items i n))
    | .booleans items, .boolean b => .ok (booleans (storeAt false items i b))
    | .integers _, _ => .error (.typeMismatch "numerical" element.kind)
    | .booleans _, _ => .error (.typeMismatch "boolean" element.kind)
    | _, _ => .error (.typeMismatch "array" array.kind)

/-- The kind of the elements of a value read as an array; integers unless it holds truth
values. -/
def elementKind (array : Value) : TypeKind :=
  match array.kind with
  | .arrayBool => .boolean
  | _ => .integer

end Value

theorem size_storeAt {α : Type} (gap : α) (items : Array α) (i : Nat) (item : α) :
    (storeAt gap items i item).size = max items.size (i + 1) := by
  simp [storeAt]
  omega

theorem getElem?_storeAt_self {α : Type} (gap : α) (items : Array α) (i : Nat) (item : α) :
    (storeAt gap items i item)[i]? = some item := by
  have h : i < items.size + (i + 1 - items.size) := by omega
  simp [storeAt, h]

theorem getElem?_storeAt_of_ne {α : Type} {gap : α} {items : Array α} {i j : Nat} {item : α}
    (h : i ≠ j) :
    (storeAt gap items i item)[j]? =
      if j < items.size then items[j]? else if j < i + 1 then some gap else none := by
  rw [storeAt, Array.getElem?_setIfInBounds_ne h, Array.getElem?_append]
  split
  · rfl
  · next past =>
    have same : j - items.size < i + 1 - items.size ↔ j < i + 1 := by omega
    simp [Array.getElem?_replicate, same]

end RobotScribe
