/-
# The state of an evaluation

An evaluation reads and changes a machine: the memory, the transcript, the rest of the input,
the call trace, and the line that is being executed.  It ends with a result or with a fault,
and the machine it has reached is kept in both cases.  It may also run out of fuel, and then
there is no machine to speak of.

All that an evaluation can do to a machine is done by the operations of this file, and each of
them comes with an equation that says what it does.
-/
import RobotScribe.CallTrace
import RobotScribe.Input
import RobotScribe.Memory.Basic
import RobotScribe.Transcript

namespace RobotScribe

/-- The state that an evaluation reads and changes. -/
structure Machine where
  /-- The frames of the running functions and their variables. -/
  memory : Memory
  /-- The transcript as far as it is written. -/
  transcript : Transcript
  /-- What is left of the input. -/
  input : Input
  /-- The call trace, if one is kept. -/
  trace : Option CallTrace
  /-- The line that is being executed. -/
  line : UInt32
deriving Inhabited

/-- A computation on a machine that ends with a result or a fault, or runs out of fuel. -/
abbrev Eval := ExceptT Fault (StateT Machine Option)

namespace Eval

variable {α β : Type}

/-! ## Outcomes -/

/-- The computation that does not come to an end with the fuel it has. -/
def outOfFuel : Eval α := fun _ => none

/-- The computation that gives the outcome of a test and leaves the machine alone. -/
def ofExcept (outcome : Except Fault α) : Eval α := fun m => some (outcome, m)

/-- The outcome of a test.  In code that is written out without being run, a fault that comes
from data is answered by a stand-in. -/
def orStandIn (phase : Phase) (fallback : α) (outcome : Except Fault α) : Except Fault α :=
  match outcome with
  | .ok a => .ok a
  | .error fault =>
    if phase = .dry ∧ fault.comesFromData = true then .ok fallback else .error fault

/-! ## The line -/

/-- The line that is being executed. -/
def currentLine : Eval UInt32 := fun m => some (.ok m.line, m)

/-- Goes on at a line. -/
def setLine (line : UInt32) : Eval Unit := fun m => some (.ok (), { m with line })

/-- Goes on at the line where a node starts, if that is known. -/
def enterSpan (span : Span) : Eval Unit :=
  if span.isKnown then setLine span.startLine else pure ()

/-! ## The transcript -/

/-- Writes a label. -/
def label (text : String) : Eval Unit := fun m =>
  some (.ok (), { m with transcript := m.transcript.label text })

/-- Writes an instruction, if the phase writes. -/
def emit (here : Cursor) (text : String) : Eval Unit := fun m =>
  some (.ok (), { m with transcript := m.transcript.emit here text })

/-- Writes the call of a block. -/
def mark (here : Cursor) (text : String) : Eval Unit := fun m =>
  some (.ok (), { m with transcript := m.transcript.mark here text })

/-! ## Variables -/

/-- The value of a variable, or the fault that it has none. -/
def lookup (name : String) : Eval (Except Fault Value) := fun m =>
  some (.ok (m.memory.get name), m)

/-- The slot of a variable, if it has one. -/
def slotOf (name : String) : Eval (Option Slot) := fun m => some (.ok (m.memory.slot? name), m)

/-- Makes a slot that holds a value. -/
def newSlot (value : Value) : Eval Slot := fun m =>
  let slot := m.memory.store.next
  some (.ok slot, { m with memory := m.memory.alloc value })

/-- The values in some slots. -/
def readSlots (slots : List Slot) : Eval (List Value) := fun m =>
  some (.ok (slots.map m.memory.store.read), m)

/-- Gives a variable a value. -/
def define (name : String) (value : Value) : Eval Unit := fun m =>
  some (.ok (), { m with memory := m.memory.define name value })

/-- Stores an element of an array variable, and gives the outcome. -/
def storeElement (name : String) (index : Int64) (element : Value) :
    Eval (Except Fault Unit) := fun m =>
  match m.memory.storeElement name index element with
  | .ok memory => some (.ok (.ok ()), { m with memory })
  | .error fault => some (.ok (.error fault), m)

/-! ## Frames -/

/-- Puts a frame for a function on top. -/
def pushFrame (function : String) (callLine : UInt32) : Eval Unit := fun m =>
  some (.ok (), { m with memory := m.memory.push function callLine })

/-- Takes the top frame away. -/
def popFrame : Eval Unit := fun m => some (.ok (), { m with memory := m.memory.pop })

/-- Binds names of the top frame to slots, pair by pair. -/
def bindSlots (bindings : List (String × Slot)) : Eval Unit := fun m =>
  let memory := bindings.foldl (fun memory entry => memory.bind entry.1 entry.2) m.memory
  some (.ok (), { m with memory })

/-- Runs a computation and takes back what it did to the memory, whether it fails or not: the
top frame goes back to what it was, and the slots that were made are given back.  A computation
that does not fail also goes on at the line where it started. -/
def takingBack (body : Eval Unit) : Eval Unit := fun m =>
  let saved := m.memory.snapshot
  let count := m.memory.store.size
  let line := m.line
  match body m with
  | none => none
  | some (.ok (), m) =>
    some (.ok (), { m with memory := (m.memory.restore saved).shrink count, line })
  | some (.error fault, m) =>
    some (.error fault, { m with memory := (m.memory.restore saved).shrink count })

/-! ## Input and trace -/

/-- The next integer of the input. -/
def nextInteger : Eval Int64 := fun m =>
  let (outcome, input) := m.input.nextInteger
  some (outcome, { m with input })

/-- Does something to the call trace, if one is kept. -/
def tracing (record : CallTrace → Except Fault Unit × CallTrace) : Eval Unit := fun m =>
  match m.trace with
  | none => some (.ok (), m)
  | some trace =>
    let (outcome, trace) := record trace
    some (outcome, { m with trace := some trace })

/-- Records a call in the trace. -/
def traceCall (function : Function) (args : List Slot) (line : UInt32) : Eval Unit := do
  let values ← readSlots args
  tracing fun trace => trace.call function values line

/-- Records a return in the trace. -/
def traceReturn (function : Function) (result : Value) (args : List Slot) (line : UInt32) :
    Eval Unit := do
  let values ← readSlots args
  tracing fun trace => trace.giveBack function result values line

/-! ## What the operations do -/

theorem bind_apply (x : Eval α) (f : α → Eval β) (m : Machine) :
    (x >>= f) m = match x m with
      | none => none
      | some (.ok a, m') => f a m'
      | some (.error fault, m') => some (.error fault, m') := by
  change ((x m).bind fun p => ExceptT.bindCont f p.1 p.2) = _
  cases x m with
  | none => rfl
  | some p =>
    obtain ⟨outcome, m'⟩ := p
    cases outcome <;> rfl

@[simp] theorem pure_apply (a : α) (m : Machine) : (pure a : Eval α) m = some (.ok a, m) := rfl

@[simp] theorem throw_apply (fault : Fault) (m : Machine) :
    (throw fault : Eval α) m = some (.error fault, m) := rfl

@[simp] theorem outOfFuel_apply (m : Machine) : (outOfFuel : Eval α) m = none := rfl

@[simp] theorem ofExcept_apply (outcome : Except Fault α) (m : Machine) :
    ofExcept outcome m = some (outcome, m) := rfl

@[simp] theorem orStandIn_ok (phase : Phase) (fallback a : α) :
    orStandIn phase fallback (.ok a) = .ok a := rfl

/-- Code that runs has all its faults. -/
theorem orStandIn_of_executes {phase : Phase} (h : phase.executes = true) (fallback : α)
    (outcome : Except Fault α) : orStandIn phase fallback outcome = outcome := by
  cases outcome with
  | ok a => rfl
  | error fault =>
    have hne : phase ≠ .dry := by
      rintro rfl
      cases h
    simp [orStandIn, hne]

end Eval

end RobotScribe
