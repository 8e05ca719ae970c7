/-
# The call trace

The trace has one line for each call and one for each return, indented by the nesting of the
calls.  It is written to a sink, which may refuse bytes beyond its capacity.  Once the function
at the root has returned, the sink is closed and nothing more is written.
-/
import RobotScribe.Value.Basic

namespace RobotScribe

/-- Where a trace is written to. -/
structure Sink where
  /-- The bytes that were accepted. -/
  stored : ByteArray
  /-- How many bytes are accepted in total; no number means no bound. -/
  capacity : Option Nat
  /-- Whether the last step, which makes the bytes durable, succeeds. -/
  flushes : Bool
deriving Inhabited

namespace Sink

/-- An empty sink that never fails. -/
def unbounded : Sink := ⟨.empty, none, true⟩

/-- An empty sink that accepts so many bytes and no more. -/
def bounded (capacity : Nat) : Sink := ⟨.empty, some capacity, true⟩

/-- An empty sink that accepts all bytes and fails when it is flushed. -/
def unflushable : Sink := ⟨.empty, none, false⟩

/-- Writes a text.  A sink without room for all of it stores what fits and fails. -/
def write (sink : Sink) (text : String) : Except Fault Unit × Sink :=
  let bytes := text.toUTF8
  let fits := match sink.capacity with
    | none => bytes.size
    | some capacity => capacity - sink.stored.size
  if bytes.size ≤ fits then (.ok (), { sink with stored := sink.stored ++ bytes })
  else
    (.error (.io "sink full"), { sink with stored := sink.stored ++ bytes.extract 0 fits })

/-- Makes the stored bytes durable, or fails. -/
def flush (sink : Sink) : Except Fault Unit :=
  if sink.flushes then .ok () else .error (.io "flush refused")

end Sink

/-- A trace in the making. -/
structure CallTrace where
  /-- Where it is written to. -/
  sink : Sink
  /-- How many calls are open, less one. -/
  nesting : Int
  /-- Whether the sink has been closed. -/
  closed : Bool
deriving Inhabited

namespace CallTrace

/-- A trace before the first call. -/
def ofSink (sink : Sink) : CallTrace := ⟨sink, -1, false⟩

/-- The indentation of a line: one mark for each call around it. -/
def indent (nesting : Int) : String :=
  String.join (List.replicate nesting.toNat "|   ")

/-- A parameter with its value; a reference parameter has an ampersand before it. -/
def argumentText (param : Param) (value : Value) : String :=
  (if param.isReference then "&" else "") ++ param.name.name ++ "=" ++ value.display

/-- The line of a program that a trace line refers to. -/
def lineText (line : UInt32) : String := "<line " ++ toString line ++ ">"

/-- Where a call comes from; the call at the root comes from outside of the program. -/
def siteText (nesting : Int) (line : UInt32) : String :=
  if nesting = 0 then "<entry point>" else lineText line

/-- The line of a call, without its indentation. -/
def callText (function : Function) (args : List Value) (nesting : Int) (line : UInt32) :
    String :=
  function.name.name ++ "(" ++ Text.listForm (List.zipWith argumentText function.params args)
    ++ ") " ++ siteText nesting line

/-- The result of a function in the line of its return, if there is one. -/
def resultText (result : Value) : String :=
  if result.isVoid then "" else " " ++ result.display

/-- The last values of the reference parameters in the line of a return. -/
def referenceTexts (params : List Param) (args : List Value) : String :=
  String.join (((params.zip args).filter (·.1.isReference)).map fun entry =>
    ", " ++ argumentText entry.1 entry.2)

/-- The line of a return, without its indentation. -/
def returnText (function : Function) (result : Value) (args : List Value) (line : UInt32) :
    String :=
  "return" ++ resultText result ++ referenceTexts function.params args ++ " " ++ lineText line

/-- Writes a line, unless the sink has been closed. -/
def writeLine (trace : CallTrace) (text : String) : Except Fault Unit × CallTrace :=
  if trace.closed then (.ok (), trace)
  else
    let (outcome, sink) := trace.sink.write (text ++ "\n")
    (outcome, { trace with sink })

/-- Closes the sink once no call is open. -/
def closeAtRoot (trace : CallTrace) : Except Fault Unit × CallTrace :=
  if trace.closed || 0 ≤ trace.nesting then (.ok (), trace)
  else
    match trace.sink.flush with
    | .ok () => (.ok (), { trace with closed := true })
    | .error fault => (.error fault, trace)

/-- Records a call with the values of its arguments, from a line of the caller. -/
def call (trace : CallTrace) (function : Function) (args : List Value) (line : UInt32) :
    Except Fault Unit × CallTrace :=
  let inner := { trace with nesting := trace.nesting + 1 }
  inner.writeLine (indent inner.nesting ++ callText function args inner.nesting line)

/-- Records a return with the result and the last values of the arguments, from a line of the
function.  The return of the root closes the sink. -/
def giveBack (trace : CallTrace) (function : Function) (result : Value) (args : List Value)
    (line : UInt32) : Except Fault Unit × CallTrace :=
  let outer := { trace with nesting := trace.nesting - 1 }
  -- the line stands at the depth of the call that returns
  match outer.writeLine (indent trace.nesting ++ returnText function result args line) with
  | (.ok (), written) => written.closeAtRoot
  | (.error fault, written) => (.error fault, written)

/-- The state of a trace as it is shown. -/
def describe (trace : CallTrace) : String :=
  "Tracer \x7b nesting: " ++ toString trace.nesting ++ ", closed: "
    ++ Payload.showBool trace.closed ++ " \x7d"

/-- A closed trace stays as it is. -/
theorem writeLine_closed {trace : CallTrace} (h : trace.closed = true) (text : String) :
    trace.writeLine text = (.ok (), trace) := by
  simp [writeLine, h]

end CallTrace

end RobotScribe
