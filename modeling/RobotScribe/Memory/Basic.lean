/-
# The memory of a running program

The memory is a stack of frames, one for each function that is running, over one store.  A
frame binds names to slots.  Names are looked up in the top frame alone: a function sees
nothing of its caller's variables but the slots that were bound to its reference parameters.
-/
import RobotScribe.Memory.Store
import RobotScribe.Value.Elements

namespace RobotScribe

/-- The names of one running function. -/
structure Frame where
  /-- The function that is running. -/
  function : String
  /-- The line of the call that started it. -/
  callLine : UInt32
  /-- The slot of each variable; a name is bound at most once. -/
  bindings : List (String × Slot)
deriving DecidableEq, Repr, Inhabited

namespace Frame

/-- The slot that a name is bound to. -/
def slot? (frame : Frame) (name : String) : Option Slot := frame.bindings.lookup name

/-- Binds a name to a slot, in place of any slot that it was bound to. -/
def bind (frame : Frame) (name : String) (slot : Slot) : Frame :=
  { frame with bindings := (name, slot) :: frame.bindings.filter (·.1 != name) }

end Frame

/-- The frames of the running functions over the store of their variables. -/
structure Memory where
  /-- The frames, the latest first. -/
  frames : List Frame
  /-- The values of all slots. -/
  store : Store
deriving DecidableEq, Repr, Inhabited

namespace Memory

/-- The memory before anything runs. -/
def empty : Memory := ⟨[], Store.empty⟩

/-- The number of frames. -/
def depth (m : Memory) : Nat := m.frames.length

/-- Puts a frame without variables on top. -/
def push (m : Memory) (function : String) (callLine : UInt32) : Memory :=
  { m with frames := ⟨function, callLine, []⟩ :: m.frames }

/-- Takes the top frame away, if there is one. -/
def pop (m : Memory) : Memory := { m with frames := m.frames.tail }

/-! ## Variables -/

/-- The slot of a variable of the top frame. -/
def slot? (m : Memory) (name : String) : Option Slot :=
  m.frames.head?.bind fun frame => frame.slot? name

/-- The value of a variable of the top frame. -/
def get? (m : Memory) (name : String) : Option Value := (m.slot? name).map m.store.read

/-- The value of a variable of the top frame, which has to have one. -/
def get (m : Memory) (name : String) : Except Fault Value :=
  match m.get? name with
  | some value => .ok value
  | none => .error (.undefinedVariable name)

/-- Makes a slot that holds a value; it is `m.store.next`. -/
def alloc (m : Memory) (value : Value) : Memory := { m with store := m.store.alloc value }

/-- Replaces the value in a slot. -/
def write (m : Memory) (slot : Slot) (value : Value) : Memory :=
  { m with store := m.store.write slot value }

/-- Binds a name of the top frame to a slot. -/
def bind (m : Memory) (name : String) (slot : Slot) : Memory :=
  match m.frames with
  | [] => m
  | frame :: below => { m with frames := frame.bind name slot :: below }

/-- Gives a variable of the top frame a value.  A variable that has a slot keeps it, so every
other name of that slot sees the new value; any other variable gets a slot of its own. -/
def define (m : Memory) (name : String) (value : Value) : Memory :=
  match m.frames with
  | [] => m
  | frame :: _ =>
    match frame.slot? name with
    | some slot => m.write slot value
    | none =>
      let slot := m.store.next
      (m.alloc value).bind name slot

/-- Stores an element of an array variable.  A variable without a value becomes an array of
the element's kind first, unless the store fails. -/
def storeElement (m : Memory) (name : String) (index : Int64) (element : Value) :
    Except Fault Memory :=
  match m.slot? name with
  | some slot => do
    let array ← (m.store.read slot).storeElement index element
    return m.write slot array
  | none => do
    let array ← Value.emptyArrayFor element
    let array ← array.storeElement index element
    return m.define name array

/-! ## Taking back -/

/-- The names of a frame with the slot of each, and the values of those slots. -/
structure Snapshot where
  /-- The slot of each name. -/
  bindings : List (String × Slot)
  /-- The value of each of those slots. -/
  values : List (Slot × Value)
deriving DecidableEq, Repr

/-- The names of the top frame as they are now. -/
def snapshot (m : Memory) : Snapshot :=
  match m.frames with
  | [] => ⟨[], []⟩
  | frame :: _ =>
    ⟨frame.bindings, frame.bindings.map fun binding => (binding.2, m.store.read binding.2)⟩

/-- Puts the top frame back to a snapshot: the same names, each with the same slot and the same
value. -/
def restore (m : Memory) (saved : Snapshot) : Memory :=
  match m.frames with
  | [] => m
  | frame :: below =>
    ⟨{ frame with bindings := saved.bindings } :: below, m.store.writeAll saved.values⟩

/-- Gives back the slots that were made last, down to a number of slots. -/
def shrink (m : Memory) (count : Nat) : Memory := { m with store := m.store.shrink count }

/-! ## Backtrace -/

/-- A frame with the line that it has reached. -/
def backtraceEntry (function : String) (line : UInt32) : String :=
  function ++ " (line " ++ toString line ++ ")"

/-- The frames with the line that each has reached, the latest first.  A frame waits at the
line of the call that started the frame above it. -/
def backtraceEntries : List Frame → UInt32 → List String
  | [], _ => []
  | frame :: below, line =>
    backtraceEntry frame.function line :: backtraceEntries below frame.callLine

/-- The backtrace of a memory whose top frame has reached a line.  A limit keeps the latest
frames and marks the cut. -/
def backtrace (m : Memory) (line : UInt32) (limit : Option Nat) : String :=
  let entries := backtraceEntries m.frames line
  let shown := match limit with
    | some limit => if limit < entries.length then entries.take limit ++ ["..."] else entries
    | none => entries
  String.intercalate "\n" shown

end Memory

namespace Frame

@[simp] theorem slot?_bind_self (frame : Frame) (name : String) (slot : Slot) :
    (frame.bind name slot).slot? name = some slot := by
  simp [slot?, bind]

theorem slot?_bind_of_ne (frame : Frame) {name other : String} (h : other ≠ name) (slot : Slot) :
    (frame.bind name slot).slot? other = frame.slot? other := by
  have hne : (other == name) = false := by simpa using h
  simp only [slot?, bind, List.lookup_cons, hne]
  induction frame.bindings with
  | nil => rfl
  | cons binding rest ih =>
    obtain ⟨key, old⟩ := binding
    by_cases hk : key = name
    · subst hk
      simpa [List.lookup_cons, hne] using ih
    · simp [hk, List.lookup_cons, ih]

end Frame

end RobotScribe
