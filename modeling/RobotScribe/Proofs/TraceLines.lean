/-
# The lines of a call trace

A call trace is a text, but it is written line by line, and each line tells of one call or of
one return.  This file says what the lines look like, and that a trace whose sink never fails
gets exactly one line for each call and one for each return that is recorded.

The lines are also read back: calls and returns are paired by their nesting, from the first line
on, and the calls that have no return so far are kept.
-/
import RobotScribe.CallTrace
import Mathlib.Tactic.Lemma

namespace RobotScribe

/-! ## Sinks that never fail -/

/-- A sink that accepts every text, and that can be flushed. -/
structure Sink.NeverFails (sink : Sink) : Prop where
  unbounded : sink.capacity = none
  flushes : sink.flushes = true

namespace Sink

variable {sink : Sink}

lemma NeverFails.write_eq (never : sink.NeverFails) (text : String) :
    sink.write text = (.ok (), { sink with stored := sink.stored ++ text.toUTF8 }) := by
  simp [write, never.unbounded]

lemma NeverFails.flush_eq (never : sink.NeverFails) : sink.flush = .ok () := by
  simp [flush, never.flushes]

end Sink

/-! ## Lines -/

/-- A line of a call trace.  Its depth is the number of calls around it. -/
inductive TraceLine where
  /-- A call: its depth, the function, the values of its arguments, and the line that it is made
  from. -/
  | call (depth : Int) (function : Function) (args : List Value) (line : UInt32)
  /-- A return: its depth, the function, its result, the last values of its arguments, and the
  line that it is made from. -/
  | giveBack (depth : Int) (function : Function) (result : Value) (args : List Value)
      (line : UInt32)

namespace TraceLine

/-- The mark that stands at the start of a line for each call around it. -/
def mark : String := "|   "

/-- A parameter with the value of its argument; a reference parameter has an ampersand. -/
def binding (entry : Param × Value) : String :=
  (if entry.1.isReference then "&" else "") ++ entry.1.name.name ++ "=" ++ entry.2.display

/-- Where a call is made from.  The call that no other call is around has no such line. -/
def site (depth : Int) (line : UInt32) : String :=
  if depth = 0 then "<entry point>" else "<line " ++ toString line ++ ">"

/-- What a line looks like. -/
def text : TraceLine → String
  | call depth function args line =>
    String.join (List.replicate depth.toNat mark) ++ function.name.name ++ "("
      ++ String.intercalate ", " ((function.params.zip args).map binding) ++ ") "
      ++ site depth line ++ "\n"
  | giveBack depth function result args line =>
    String.join (List.replicate depth.toNat mark) ++ "return"
      ++ (if result.isVoid then "" else " " ++ result.display)
      ++ String.join (((function.params.zip args).filter (·.1.isReference)).map (", " ++ binding ·))
      ++ " <line " ++ toString line ++ ">\n"

/-- The name of the function that a line calls, if it is the line of a call. -/
def callee? : TraceLine → Option String
  | call _ function _ _ => some function.name.name
  | giveBack .. => none

/-- What lines look like, one after the other. -/
def textOf (lines : List TraceLine) : String := String.join (lines.map text)

/-- The names of the functions that are called in some lines, in order. -/
def callees (lines : List TraceLine) : List String := lines.filterMap callee?

@[simp] lemma textOf_nil : textOf [] = "" := rfl

lemma textOf_append (lines more : List TraceLine) :
    textOf (lines ++ more) = textOf lines ++ textOf more := by
  simp [textOf]

@[simp] lemma callees_append (lines more : List TraceLine) :
    callees (lines ++ more) = callees lines ++ callees more :=
  List.filterMap_append

/-! ### What is recorded -/

lemma text_call (depth : Int) (function : Function) (args : List Value) (line : UInt32) :
    (call depth function args line).text =
      CallTrace.indent depth ++ CallTrace.callText function args depth line ++ "\n" := by
  have bindings : List.zipWith CallTrace.argumentText function.params args =
      (function.params.zip args).map binding := by
    rw [← List.map_uncurry_zip_eq_zipWith]
    rfl
  have site_eq : CallTrace.siteText depth line = site depth line := by
    simp [CallTrace.siteText, site, CallTrace.lineText]
  simp only [text, mark, CallTrace.indent, CallTrace.callText, Text.listForm, bindings, site_eq,
    String.append_assoc]

lemma text_giveBack (depth : Int) (function : Function) (result : Value) (args : List Value)
    (line : UInt32) :
    (giveBack depth function result args line).text =
      CallTrace.indent depth ++ CallTrace.returnText function result args line ++ "\n" := by
  simp only [text, mark, binding, CallTrace.indent, CallTrace.returnText, CallTrace.resultText,
    CallTrace.referenceTexts, CallTrace.argumentText, CallTrace.lineText, String.append_assoc]
  rfl

end TraceLine

/-! ## Traces -/

open TraceLine

namespace CallTrace

variable {trace : CallTrace} {calls : Nat} {lines more : List TraceLine}

/-- A trace with more lines in its sink. -/
def adding (trace : CallTrace) (lines : List TraceLine) : CallTrace :=
  { trace with sink := { trace.sink with stored := trace.sink.stored ++ (textOf lines).toUTF8 } }

@[simp] lemma adding_nil (trace : CallTrace) : trace.adding [] = trace := by
  simp [adding]

@[simp] lemma adding_adding (trace : CallTrace) (lines more : List TraceLine) :
    (trace.adding lines).adding more = trace.adding (lines ++ more) := by
  simp [adding, textOf_append, ByteArray.append_assoc]

lemma neverFails_adding (never : trace.sink.NeverFails) (lines : List TraceLine) :
    (trace.adding lines).sink.NeverFails :=
  ⟨never.unbounded, never.flushes⟩

/-- The trace in a state where so many calls are open. -/
def inside (trace : CallTrace) (calls : Nat) : CallTrace := { trace with nesting := calls - 1 }

lemma inside_adding (trace : CallTrace) (lines : List TraceLine) (calls : Nat) :
    (trace.adding lines).inside calls = (trace.inside calls).adding lines := rfl

@[simp] lemma inside_inside (trace : CallTrace) (calls other : Nat) :
    (trace.inside calls).inside other = trace.inside other := rfl

/-- A trace that is kept, with so many calls open. -/
structure Keeps (trace : CallTrace) (calls : Nat) : Prop where
  nesting : trace.nesting = calls - 1
  unclosed : trace.closed = false
  never : trace.sink.NeverFails

lemma Keeps.adding (keeps : trace.Keeps calls) (lines : List TraceLine) :
    (trace.adding lines).Keeps calls :=
  ⟨keeps.nesting, keeps.unclosed, neverFails_adding keeps.never lines⟩

lemma Keeps.inside (keeps : trace.Keeps calls) (other : Nat) : (trace.inside other).Keeps other :=
  ⟨rfl, keeps.unclosed, keeps.never⟩

lemma Keeps.inside_self (keeps : trace.Keeps calls) : trace.inside calls = trace := by
  rw [CallTrace.inside, ← keeps.nesting]

/-- A trace before the first call. -/
lemma Keeps.ofSink {sink : Sink} (never : sink.NeverFails) : (CallTrace.ofSink sink).Keeps 0 :=
  ⟨rfl, rfl, never⟩

/-! ### Records -/

/-- The lines that a record adds: once a trace has been closed there are none. -/
def noted (trace : CallTrace) (entry : TraceLine) : List TraceLine :=
  if trace.closed then [] else [entry]

lemma noted_of_closed (closed : trace.closed = true) (entry : TraceLine) :
    trace.noted entry = [] := by
  rw [noted, if_pos closed]

lemma noted_of_unclosed (unclosed : trace.closed = false) (entry : TraceLine) :
    trace.noted entry = [entry] := by
  rw [noted, unclosed, if_neg Bool.false_ne_true]

section

variable (never : trace.sink.NeverFails)
include never

/-- A line that is written is noted. -/
lemma writeLine_eq {text : String} {entry : TraceLine} (looks : entry.text = text ++ "\n") :
    trace.writeLine text = (.ok (), trace.adding (trace.noted entry)) := by
  cases closed : trace.closed with
  | true => rw [writeLine_closed closed, noted_of_closed closed, adding_nil]
  | false =>
    simp [writeLine, closed, never.write_eq, noted_of_unclosed closed, adding, textOf, looks]

/-- A call is noted one level deeper. -/
lemma call_eq (function : Function) (args : List Value) (line : UInt32) :
    trace.call function args line = (.ok (), { trace with nesting := trace.nesting + 1 }.adding
      (trace.noted (.call (trace.nesting + 1) function args line))) := by
  have inner : ({ trace with nesting := trace.nesting + 1 } : CallTrace).sink.NeverFails := never
  rw [call, writeLine_eq inner (text_call _ function args line)]
  rfl

/-- A trace is closed when no call is open. -/
lemma closeAtRoot_eq :
    trace.closeAtRoot =
      (.ok (), { trace with closed := trace.closed || decide (trace.nesting < 0) }) := by
  obtain ⟨sink, nesting, closed⟩ := trace
  rw [closeAtRoot, never.flush_eq]
  cases closed with
  | true => rfl
  | false =>
    by_cases inside : 0 ≤ nesting
    · simp [inside, Int.not_lt.mpr inside]
    · simp [inside, Int.not_le.mp inside]

/-- A return is noted at the depth of its call.  When no call is open any more the trace is
closed. -/
lemma giveBack_eq (function : Function) (result : Value) (args : List Value) (line : UInt32) :
    trace.giveBack function result args line =
      (.ok (), { { trace with nesting := trace.nesting - 1 }.adding
          (trace.noted (.giveBack trace.nesting function result args line)) with
        closed := trace.closed || decide (trace.nesting - 1 < 0) }) := by
  have outer : ({ trace with nesting := trace.nesting - 1 } : CallTrace).sink.NeverFails := never
  rw [giveBack, writeLine_eq outer (text_giveBack _ function result args line)]
  dsimp only
  rw [closeAtRoot_eq (neverFails_adding outer _)]
  rfl

end

/-- A call adds its line, at the depth of the calls that are open. -/
lemma Keeps.call_eq (keeps : trace.Keeps calls) (function : Function) (args : List Value)
    (line : UInt32) :
    trace.call function args line =
      (.ok (), (trace.inside (calls + 1)).adding [.call calls function args line]) := by
  have nesting : trace.nesting + 1 = calls := by
    rw [keeps.nesting]
    omega
  have inner : { trace with nesting := trace.nesting + 1 } = trace.inside (calls + 1) := by
    simp [CallTrace.inside, nesting]
  rw [CallTrace.call_eq keeps.never, inner, noted_of_unclosed keeps.unclosed, nesting]

/-- A return adds its line, at the depth of its call.  With the last call the trace is closed. -/
lemma Keeps.giveBack_eq (keeps : trace.Keeps (calls + 1)) (function : Function) (result : Value)
    (args : List Value) (line : UInt32) :
    trace.giveBack function result args line = (.ok (), { (trace.inside calls).adding
      [.giveBack calls function result args line] with closed := calls == 0 }) := by
  have nesting : trace.nesting = calls := by
    rw [keeps.nesting]
    omega
  have outer : { trace with nesting := trace.nesting - 1 } = trace.inside calls := by
    simp [CallTrace.inside, nesting]
  have closes : (trace.closed || decide (trace.nesting - 1 < 0)) = (calls == 0) := by
    rw [keeps.unclosed, nesting, Bool.false_or, Bool.eq_iff_iff, decide_eq_true_iff, beq_iff_eq]
    omega
  rw [CallTrace.giveBack_eq keeps.never, outer, noted_of_unclosed keeps.unclosed, closes, nesting]

end CallTrace

/-! ## Pairing calls and returns -/

/-- A call without a return: the name of the function, and the line that it is made from. -/
structure OpenCall where
  /-- The name of the function. -/
  function : String
  /-- The line that the call is made from. -/
  line : UInt32
deriving DecidableEq, Repr

/-- The calls that have no return after some lines, the latest first, if `calls` had none before.
A call has to be nested in all these calls, and a return, which belongs to the latest of them, in
all the others. -/
def unreturned : List OpenCall → List TraceLine → Option (List OpenCall)
  | calls, [] => some calls
  | calls, .call depth function _ line :: rest =>
    if depth = calls.length then unreturned (⟨function.name.name, line⟩ :: calls) rest else none
  | [], .giveBack .. :: _ => none
  | _ :: calls, .giveBack depth .. :: rest =>
    if depth = calls.length then unreturned calls rest else none

end RobotScribe
