/-
# The calls that a trace tells of

Calls are nested in calls, so those that have returned form trees, and the lines of a tree are
those that were recorded in the course of its call.  Code that comes to its end adds the lines of
trees to a trace, one tree for each call that it has made (`Recorded`).  Code that a fault stops
may leave calls behind that have no return.  These are exactly the calls whose frames it leaves
behind (`Unfinished`).

Both are one effect, `recording`.  A call is what changes the nesting, so the induction is on
the fuel and all of its content is in `runFunction_ok` and `runFunction_error`; these hold of
the call at the root, too, where no call is open before.
-/
import RobotScribe.Proofs.TraceLines
import RobotScribe.Proofs.Footprint

namespace RobotScribe

open Eval

/-! ## Trees -/

/-- A call that has returned: its function, the values of its arguments and the line that it was
made from, the calls that were made in the course of it, its result, the last values of its
arguments and the line that it returned from. -/
inductive CallTree where
  | node (function : Function) (args : List Value) (line : UInt32) (inner : List CallTree)
      (result : Value) (lastArgs : List Value) (lastLine : UInt32)

namespace CallTree

mutual

/-- The lines of a tree with so many calls around it. -/
def lines (depth : Nat) : CallTree → List TraceLine
  | .node function args line inner result lastArgs lastLine =>
    .call depth function args line ::
      (allLines (depth + 1) inner ++ [.giveBack depth function result lastArgs lastLine])

/-- The lines of some trees, one after the other. -/
def allLines (depth : Nat) : List CallTree → List TraceLine
  | [] => []
  | tree :: rest => tree.lines depth ++ allLines depth rest

end

lemma allLines_append (depth : Nat) (trees more : List CallTree) :
    allLines depth (trees ++ more) = allLines depth trees ++ allLines depth more := by
  induction trees with
  | nil => rfl
  | cons tree rest ih => simp [allLines, ih]

mutual

/-- In the lines of a tree all calls have their returns. -/
lemma unreturned_lines (calls : List OpenCall) (rest : List TraceLine) :
    ∀ tree : CallTree,
      unreturned calls (tree.lines calls.length ++ rest) = unreturned calls rest
  | .node function args line inner result lastArgs lastLine => by
    have inside := unreturned_allLines (⟨function.name.name, line⟩ :: calls)
      (.giveBack calls.length function result lastArgs lastLine :: rest) inner
    rw [List.length_cons] at inside
    simp [lines, unreturned, inside]

/-- In the lines of some trees all calls have their returns. -/
lemma unreturned_allLines (calls : List OpenCall) (rest : List TraceLine) :
    ∀ trees : List CallTree,
      unreturned calls (allLines calls.length trees ++ rest) = unreturned calls rest
  | [] => rfl
  | tree :: trees => by
    rw [allLines, List.append_assoc, unreturned_lines calls _ tree,
      unreturned_allLines calls rest trees]

end

/-- A tree of calls that were made.  Its function is declared, and it was run, in a phase in
which code runs, on slots that held the values of the arguments in the beginning and in the end.
What its body has added to the trace are the lines of the inner trees, which are trees of calls
that were made. -/
inductive Performed (functions : String → Option Function) : Nat → CallTree → Prop where
  | node {depth fuel : Nat} {body : Cursor} {name : String} {function : Function}
      {slots : List Slot} {before entered ended : Machine} {flow : Flow} {trace : CallTrace}
      {inner : List CallTree} (declared : functions name = some function)
      (runs : body.phase.executes = true)
      (enters : enter function slots before.line before = some (.ok (), entered))
      (ran : stmts functions fuel body function.body.stmts entered = some (.ok flow, ended))
      (starts : entered.trace = some trace)
      (ends : ended.trace = some (trace.adding (allLines (depth + 1) inner)))
      (performed : ∀ tree ∈ inner, Performed functions (depth + 1) tree) :
      Performed functions depth (.node function (slots.map before.memory.store.read) before.line
        inner (flow.getD .void) (slots.map ended.memory.store.read) ended.line)

end CallTree

open CallTree

/-! ## Frames -/

namespace Memory

/-- The calls whose frames are there, the latest first. -/
def openCalls (m : Memory) : List OpenCall :=
  m.frames.map fun frame => ⟨frame.function, frame.callLine⟩

/-- Code that comes to its end neither adds a frame nor takes one away. -/
lemma Evolves.openCalls_eq {old new : Memory} (h : old.Evolves new) :
    new.openCalls = old.openCalls := by
  obtain ⟨oldFrames, oldStore⟩ := old
  obtain ⟨newFrames, newStore⟩ := new
  cases h.frames with
  | none => rfl
  | top below grows => simp [openCalls, grows.function_eq, grows.callLine_eq]

lemma openCalls_enter (m : Memory) (function : String) (callLine : UInt32)
    (bindings : List (String × Slot)) :
    (m.enter function callLine bindings).openCalls = ⟨function, callLine⟩ :: m.openCalls := by
  have named : ∀ frame : Frame, (frame.bindAll bindings).function = frame.function ∧
      (frame.bindAll bindings).callLine = frame.callLine := by
    induction bindings with
    | nil => exact fun _ => ⟨rfl, rfl⟩
    | cons entry rest ih => exact fun frame => ih (frame.bind entry.1 entry.2)
  simp [openCalls, enter, named]

end Memory

/-! ## What code adds to a trace -/

variable (functions : String → Option Function)

/-- What code that comes to its end has recorded.  The trace is looked at where some calls are
open, since no code stands outside of all functions. -/
structure Recorded (m n : Machine) : Prop where
  openCalls_eq : n.memory.openCalls = m.memory.openCalls
  recorded : ∀ {trace calls}, m.trace = some trace → trace.Keeps calls → 0 < calls →
    ∃ trees, n.trace = some (trace.adding (allLines calls trees)) ∧
      ∀ tree ∈ trees, tree.Performed functions calls

/-- What code that a fault stops has recorded, if so many calls were open: the calls that have
no return are those whose frames are left. -/
def Unfinished (calls : Nat) (trace : CallTrace) (m n : Machine) : Prop :=
  ∃ lines opened, n.trace = some ((trace.inside (calls + opened.length)).adding lines) ∧
    n.memory.openCalls = opened ++ m.memory.openCalls ∧
    ∀ outer : List OpenCall, outer.length = calls →
      unreturned outer lines = some (opened ++ outer)

variable {functions} {l m n : Machine}

namespace Recorded

lemma of_trace_eq (trace : n.trace = m.trace) (evolves : m.memory.Evolves n.memory) :
    Recorded functions m n := by
  refine ⟨evolves.openCalls_eq, fun {k calls} kept _ _ => ⟨[], ?_, by simp⟩⟩
  rw [trace, kept, allLines, CallTrace.adding_nil]

lemma refl (m : Machine) : Recorded functions m m := of_trace_eq rfl (.refl _)

lemma trans (first : Recorded functions l m) (second : Recorded functions m n) :
    Recorded functions l n := by
  refine ⟨second.openCalls_eq.trans first.openCalls_eq, fun {trace calls} kept keeps open' => ?_⟩
  obtain ⟨trees, between, performed⟩ := first.recorded kept keeps open'
  obtain ⟨trees', ends, performed'⟩ := second.recorded between (keeps.adding _) open'
  refine ⟨trees ++ trees', ?_, fun tree mem => ?_⟩
  · rw [ends, CallTrace.adding_adding, allLines_append]
  · rcases List.mem_append.mp mem with mem | mem
    · exact performed tree mem
    · exact performed' tree mem

lemma unfinished (h : Recorded functions m n) {trace : CallTrace} {calls : Nat}
    (kept : m.trace = some trace) (keeps : trace.Keeps calls) (open' : 0 < calls) :
    Unfinished calls trace m n := by
  obtain ⟨trees, ends, -⟩ := h.recorded kept keeps open'
  refine ⟨allLines calls trees, [], ?_, h.openCalls_eq, ?_⟩
  · rw [ends, List.length_nil, Nat.add_zero, keeps.inside_self]
  · rintro outer rfl
    simpa [unreturned] using unreturned_allLines outer [] trees

/-- Calls that have returned come before those that are unfinished. -/
lemma trans_unfinished (first : Recorded functions l m) {trace : CallTrace} {calls : Nat}
    (kept : l.trace = some trace) (keeps : trace.Keeps calls) (open' : 0 < calls)
    (second : ∀ {trace}, m.trace = some trace → trace.Keeps calls → Unfinished calls trace m n) :
    Unfinished calls trace l n := by
  obtain ⟨trees, between, -⟩ := first.recorded kept keeps open'
  obtain ⟨lines, opened, ends, frames, pairs⟩ := second between (keeps.adding _)
  refine ⟨allLines calls trees ++ lines, opened, ?_, ?_, ?_⟩
  · rw [ends, CallTrace.inside_adding, CallTrace.adding_adding]
  · rw [frames, first.openCalls_eq]
  · rintro outer rfl
    rw [unreturned_allLines, pairs outer rfl]

end Recorded

/-- The effect of code on the trace. -/
def recording (functions : String → Option Function) : Effect where
  done := Recorded functions
  stopped m n := ∀ ⦃trace calls⦄, m.trace = some trace → trace.Keeps calls → 0 < calls →
    Unfinished calls trace m n
  done_refl := .refl
  done_trans := .trans
  stopped_of_done h _ _ := h.unfinished
  stopped_trans first second _ _ kept keeps open' :=
    first.trans_unfinished kept keeps open' fun kept' keeps' => second kept' keeps' open'

namespace Recording

variable {α : Type} {x : Eval α} {fuel calls : Nat} {trace : CallTrace} {here body : Cursor}
  {function : Function} {slots : List Slot}

/-- Dry code leaves the trace alone. -/
lemma of_dry (here : Cursor) (dry : here.phase = .dry) (h : (footprint here).Allows x) :
    (recording functions).Allows x := by
  refine .of_done fun m outcome n ran => ?_
  obtain ⟨memory, -, trace⟩ := Footprint.keeps_of_dry dry h ran
  exact .of_trace_eq trace memory

lemma walkable : Walkable (fun _ => recording functions) fun _ => True where
  setLine _ line := of_dry (.top .dry) rfl (Footprint.setLine line)
  newSlot _ value := of_dry (.top .dry) rfl (Footprint.newSlot value)
  define _ _ name value := of_dry (.top .dry) rfl (Footprint.define name value)
  storeElement _ _ name index element :=
    of_dry (.top .dry) rfl (Footprint.storeElement name index element)
  emit here _ text := of_dry (.top .dry) rfl (Footprint.emit here text)
  nextInteger _ _ _ := .of_done fun m outcome n ran => by
    cases ran
    exact .of_trace_eq rfl (.refl _)
  entered_deeper _ _ := trivial
  entered_silent _ _ _ := trivial
  of_deeper _ _ _ h := h
  of_silent _ _ _ _ h := h

/-- The evaluator has this effect, with so much fuel. -/
abbrev Walked (functions : String → Option Function) (fuel : Nat) : Prop :=
  RobotScribe.Walked functions (fun _ => recording functions) (fun _ => True) fuel

/-! ## Calls -/

/-- Entering a function adds the line of its call. -/
lemma enter_eq {callLine : UInt32} (kept : m.trace = some trace) (keeps : trace.Keeps calls) :
    enter function slots callLine m = some (.ok (), { m with
      memory := m.memory.enter function.name.name callLine
        ((function.params.map (·.name.name)).zip slots)
      line := function.span.startLine
      trace := some ((trace.inside (calls + 1)).adding
        [.call calls function (slots.map m.memory.store.read) callLine]) }) :=
  Footprint.enter_of_traced (Footprint.tracing_of_kept kept (keeps.call_eq function _ callLine))

/-- Leaving a function adds the line of its return. -/
lemma leave_eq {callLine : UInt32} {result : Value} (kept : m.trace = some trace)
    (keeps : trace.Keeps (calls + 1)) :
    leave function slots callLine result m = some (.ok result, { m with
      memory := m.memory.pop
      line := callLine
      trace := some { (trace.inside calls).adding [.giveBack calls function result
        (slots.map m.memory.store.read) m.line] with closed := calls == 0 } }) :=
  Footprint.leave_of_traced
    (Footprint.tracing_of_kept kept (keeps.giveBack_eq function result _ m.line))

section

variable (ih : ∀ less < fuel, Walked functions less)
include ih

/-- A function that comes to its end has added the lines of a tree to the trace.  At the root
the trace has been closed. -/
lemma runFunction_ok {name : String} {value : Value} (declared : functions name = some function)
    (runs : body.phase.executes = true) (kept : m.trace = some trace)
    (keeps : trace.Keeps calls)
    (ran : runFunction functions fuel body function slots m = some (.ok value, n)) :
    ∃ tree inner lastLine, tree = CallTree.node function (slots.map m.memory.store.read) m.line
        inner value (slots.map n.memory.store.read) lastLine ∧
      tree.Performed functions calls ∧
      n.trace = some { trace.adding (tree.lines calls) with closed := calls == 0 } := by
  cases fuel with
  | zero => cases ran
  | succ fuel =>
    have walked := ih fuel (Nat.lt_succ_self fuel)
    rw [runFunction_succ, currentLine_bind] at ran
    have entered : enter function slots m.line m = _ := enter_eq kept keeps
    rw [bind_of_ok entered] at ran
    obtain ⟨flow, ended, evaluated, left⟩ := bind_eq_ok.mp ran
    have recorded : Recorded functions _ ended := walked.stmts body.deeper trivial _ evaluated
    -- the body runs with one more call open, and what it has recorded are the inner trees
    have keeps' := (keeps.inside (calls + 1)).adding
      [.call calls function (slots.map m.memory.store.read) m.line]
    obtain ⟨inner, ends, performed⟩ := recorded.recorded rfl keeps' (Nat.succ_pos calls)
    rw [leave_eq ends (keeps'.adding _)] at left
    cases left
    refine ⟨_, inner, ended.line, rfl, ?_, ?_⟩
    · exact .node declared (by simpa using runs) entered evaluated rfl ends performed
    · simp only [CallTrace.inside_adding, CallTrace.inside_inside, keeps.inside_self,
        CallTrace.adding_adding, CallTree.lines, List.cons_append, List.nil_append]
      rfl

/-- The call of a function that a fault stops has no return, and neither have those that are left
in its body.  The records of the call and of the return cannot have stopped it. -/
lemma runFunction_error {fault : Fault} (kept : m.trace = some trace) (keeps : trace.Keeps calls)
    (ran : runFunction functions fuel body function slots m = some (.error fault, n)) :
    Unfinished calls trace m n := by
  cases fuel with
  | zero => cases ran
  | succ fuel =>
    have walked := ih fuel (Nat.lt_succ_self fuel)
    rw [runFunction_succ, currentLine_bind] at ran
    have entered : enter function slots m.line m = _ := enter_eq kept keeps
    rw [bind_of_ok entered] at ran
    have keeps' := (keeps.inside (calls + 1)).adding
      [.call calls function (slots.map m.memory.store.read) m.line]
    rcases bind_eq_error.mp ran with stopped | ⟨flow, ended, evaluated, left⟩
    · obtain ⟨lines, opened, ends, frames, pairs⟩ :=
        walked.stmts body.deeper trivial _ stopped rfl keeps' (Nat.succ_pos calls)
      -- this call is around all those that its body has left behind
      refine ⟨.call calls function (slots.map m.memory.store.read) m.line :: lines,
        opened ++ [⟨function.name.name, m.line⟩], ?_, ?_, ?_⟩
      · rw [ends, CallTrace.inside_adding, CallTrace.inside_inside, CallTrace.adding_adding,
          List.length_append, List.length_singleton, Nat.add_right_comm, Nat.add_assoc]
        rfl
      · simp [frames, Memory.openCalls_enter]
      · rintro outer rfl
        simp [unreturned, pairs (⟨function.name.name, m.line⟩ :: outer) rfl]
    · have recorded : Recorded functions _ ended := walked.stmts body.deeper trivial _ evaluated
      obtain ⟨inner, ends, -⟩ := recorded.recorded rfl keeps' (Nat.succ_pos calls)
      rw [leave_eq ends (keeps'.adding _)] at left
      cases left

lemma runFunction_of {name : String} (declared : functions name = some function)
    (runs : body.phase.executes = true) (slots : List Slot) :
    (recording functions).Allows (runFunction functions fuel body function slots) := by
  intro m outcome n ran
  cases outcome with
  | ok value =>
    obtain ⟨above, called, returned⟩ := (Footprint.callDoes functions ran).memory
    have frames : n.memory.frames = m.memory.frames := by
      rw [called.frames, returned value rfl, List.nil_append]
    refine ⟨by rw [Memory.openCalls, frames, Memory.openCalls], ?_⟩
    intro trace calls kept keeps open'
    obtain ⟨tree, inner, lastLine, -, performed, ends⟩ :=
      runFunction_ok ih declared runs kept keeps ran
    refine ⟨[tree], ?_, by simpa using performed⟩
    have unclosed : (calls == 0) = trace.closed := by
      rw [keeps.unclosed, beq_eq_false_iff_ne]
      exact Nat.ne_of_gt open'
    rw [ends, unclosed, allLines, allLines, List.append_nil]
    rfl
  | error fault => exact fun trace calls kept keeps _ => runFunction_error ih kept keeps ran

lemma call_of (here : Cursor) (site : Call) :
    (recording functions).Allows (call functions fuel here site) := by
  cases fuel with
  | zero => exact .outOfFuel
  | succ fuel =>
    have walked := ih fuel (Nat.lt_succ_self fuel)
    have lesser : ∀ less < fuel, Walked functions less :=
      fun less lt => ih less (Nat.lt_succ_of_lt lt)
    have marks : (recording functions).Allows (mark here (Text.callForm site.name.name)) :=
      of_dry (.top .dry) rfl (Footprint.mark here _)
    refine .call (fun function => walked.arguments here function _ _) ?_ fun _ _ _ => marks
    intro function declared _ slots
    exact .bind marks fun _ => runFunction_of lesser declared rfl slots

end

variable (functions)

/-- **Traces tell of calls.**  Code that comes to its end adds the lines of calls that have
returned.  Where a fault stops code, the calls that have no return are those whose frames it
leaves. -/
theorem walked (fuel : Nat) : Walked functions fuel := by
  refine RobotScribe.walked walkable (fun fuel ih => call_of ih) ?_ fuel
  intro fuel ih here _ runs statements flow
  refine .leaveOut (fun _ => ?_) flow
  refine of_dry (.top .dry) rfl (Footprint.of_onlyWrites fun m outcome n ran => ?_)
  exact (Footprint.onlyWrites_of_writeOut functions ran).1

end Recording

end RobotScribe
