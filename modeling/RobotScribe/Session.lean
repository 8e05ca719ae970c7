/-
# Sessions

A session holds a program that has been loaded, and lets it be prepared and run, any number of
times and in any order.  What one operation leaves behind (the transcript, the rest of the
input, the frames of a failed run) is there for the next one.
-/
import RobotScribe.Evaluation.Evaluate
import RobotScribe.Declarations
import RobotScribe.Settings

namespace RobotScribe

/-- A program that has been loaded, and the state that its operations have reached. -/
structure Session where
  /-- The functions of the program. -/
  declarations : Declarations
  /-- How the session is set up. -/
  settings : Settings
  /-- Whether the functions have been prepared, or an attempt at it has been made. -/
  prepared : Bool
  /-- The state that the operations have reached. -/
  machine : Machine
deriving Inhabited

namespace Session

/-- The name of the function where a program starts. -/
def mainName : String := "main"

/-! ## Loading -/

/-- The machine before anything runs. -/
def initialMachine (input : Input) (trace : Option CallTrace) : Machine :=
  ⟨.empty, .empty, input, trace, 0⟩

/-- Loads a program.  A name that is declared twice is found first.  If the settings name a
path for the trace it is opened next, and a path that does not open is a fault at line zero. -/
def load (program : Program) (settings : Settings) (input : Input)
    (openTrace : String → Except Fault Sink) : Except LocatedFault Session := do
  let declarations ← Declarations.ofProgram program
  let trace ← match settings.trace with
    | none => pure none
    | some path =>
      match openTrace path with
      | .ok sink => pure (some (CallTrace.ofSink sink))
      | .error fault => throw ⟨fault, 0⟩
  return ⟨declarations, settings, false, initialMachine input trace⟩

/-- The session with its trace going to a sink, whatever the settings say. -/
def withTraceSink (s : Session) (sink : Sink) : Session :=
  { s with machine := { s.machine with trace := some (.ofSink sink) } }

/-! ## Operations -/

open Eval in
/-- Runs the main function without arguments, between the labels of the main program. -/
def runMain (functions : String → Option Function) (fuel : Nat) : Eval Unit := do
  label "MainProgram:"
  match functions mainName with
  | none => throw (.undeclaredFunction mainName)
  | some function => do
    let _ ← runFunction functions fuel (.top .live) function []
    label "End"

open Eval in
/-- Gives every parameter of a function a stand-in of its declared kind. -/
def defineStandIns : List Param → Eval Unit
  | [] => pure ()
  | param :: rest => do
    define param.name.name (.standIn param.kind param.name.name)
    defineStandIns rest

open Eval in
/-- Writes one function as a block of its own. -/
def prepareFunction (functions : String → Option Function) (fuel : Nat) (function : Function) :
    Eval Unit := do
  label (function.name.name ++ ":")
  -- nothing calls the block, so its frame waits at the line where the last one ended
  let line ← currentLine
  pushFrame function.name.name line
  setLine function.span.startLine
  defineStandIns function.params
  let _ ← stmts functions fuel (Cursor.top .dry).deeper function.body.stmts
  popFrame
  label "Return"

/-- Writes functions as blocks, one after the other. -/
def prepareAll (functions : String → Option Function) (fuel : Nat) : List Function → Eval Unit
  | [] => pure ()
  | function :: rest => do
    prepareFunction functions fuel function
    prepareAll functions fuel rest

/-- The functions that are written as blocks: all but the main function. -/
def preparable (s : Session) : List Function :=
  s.declarations.functions.filter (·.name.name != mainName)

/-- Carries out an evaluation.  A fault is located at the line that it has reached. -/
def perform (s : Session) (operation : Eval Unit) :
    Option (Except LocatedFault Unit × Session) :=
  match operation s.machine with
  | none => none
  | some (.ok (), machine) => some (.ok (), { s with machine })
  | some (.error fault, machine) => some (.error ⟨fault, machine.line⟩, { s with machine })

/-- Runs the program. -/
def run (s : Session) (fuel : Nat) : Option (Except LocatedFault Unit × Session) :=
  s.perform (runMain s.declarations.find? fuel)

/-- Writes every function but the main one as a block, in source order.  Only the first attempt
does anything, even if it fails. -/
def prepare (s : Session) (fuel : Nat) : Option (Except LocatedFault Unit × Session) :=
  if s.prepared then some (.ok (), s)
  else { s with prepared := true }.perform (prepareAll s.declarations.find? fuel s.preparable)

/-! ## What can be seen -/

/-- The lines of the transcript. -/
def lines (s : Session) : List String := s.machine.transcript.lines s.settings.indentWidth

/-- The lines of the transcript from a given position on. -/
def linesFrom (s : Session) (start : Nat) : List String :=
  s.machine.transcript.linesFrom start s.settings.indentWidth

/-- The line that the last operation has reached. -/
def currentLine (s : Session) : UInt32 := s.machine.line

/-- The value of a variable of the latest frame that is still there. -/
def valueOf? (s : Session) (name : String) : Option Value := s.machine.memory.get? name

/-- The backtrace of the frames that are still there.  Without a limit of its own it has the
limit of the settings. -/
def backtrace (s : Session) (limit : Option Nat) : String :=
  s.machine.memory.backtrace s.machine.line (limit.or s.settings.backtraceLimit)

/-- The state of a session as it is shown. -/
def describe (s : Session) : String :=
  "Interpreter \x7b functions: " ++ toString s.declarations.length
    ++ ", depth: " ++ toString s.machine.memory.depth
    ++ ", instructions: " ++ toString s.machine.transcript.length
    ++ ", line: " ++ toString s.machine.line
    ++ ", prepared: " ++ Payload.showBool s.prepared ++ " \x7d"

/-- A second preparation changes nothing. -/
theorem prepare_of_prepared {s : Session} (h : s.prepared = true) (fuel : Nat) :
    s.prepare fuel = some (.ok (), s) := by
  simp [prepare, h]

end Session

end RobotScribe
