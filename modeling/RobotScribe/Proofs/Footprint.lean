/-
# What the evaluator does to a machine

Code in any phase makes the memory evolve, and it adds to the transcript.  Dry code, besides,
leaves the input and the call trace alone, and it never leaves a frame behind: it makes no
call.  Both are one effect, `footprint`, and the evaluator has it throughout.

The calls need care, since a called function writes to slots that its caller has handed over.
These are slots of variables of the caller, or slots that were made for the call, so that a
call with its arguments is again no more than the caller could have done by itself.
-/
import RobotScribe.Proofs.Effects
import RobotScribe.Proofs.Storage

namespace RobotScribe

namespace Machine

/-- The lines of the transcript. -/
def written (m : Machine) : List Entry := m.transcript.entries.toList

/-- What code in a phase does on the way to a result. -/
structure Proceeds (phase : Phase) (m n : Machine) : Prop where
  memory : m.memory.Evolves n.memory
  written : m.written <+: n.written
  dry : phase = .dry → n.input = m.input ∧ n.trace = m.trace

/-- What code in a phase does on the way to a fault. -/
structure Halts (phase : Phase) (m n : Machine) : Prop where
  memory : m.memory.Strands n.memory
  written : m.written <+: n.written
  dry : phase = .dry → m.memory.Evolves n.memory ∧ n.input = m.input ∧ n.trace = m.trace

/-- A change of the transcript and of the line alone. -/
structure OnlyWrites (m n : Machine) : Prop where
  memory : n.memory = m.memory
  input : n.input = m.input
  trace : n.trace = m.trace
  written : m.written <+: n.written

variable {phase : Phase} {l m n : Machine}

lemma Proceeds.refl (phase : Phase) (m : Machine) : Proceeds phase m m :=
  ⟨.refl _, List.prefix_rfl, fun _ => ⟨rfl, rfl⟩⟩

lemma Proceeds.trans (h : Proceeds phase l m) (h' : Proceeds phase m n) :
    Proceeds phase l n := by
  refine ⟨h.memory.trans h'.memory, h.written.trans h'.written, fun dry => ?_⟩
  obtain ⟨input, trace⟩ := h.dry dry
  obtain ⟨input', trace'⟩ := h'.dry dry
  exact ⟨input'.trans input, trace'.trans trace⟩

lemma Proceeds.halts (h : Proceeds phase m n) : Halts phase m n :=
  ⟨h.memory.strands, h.written, fun dry => ⟨h.memory, h.dry dry⟩⟩

lemma Proceeds.trans_halts (h : Proceeds phase l m) (h' : Halts phase m n) :
    Halts phase l n := by
  refine ⟨h.memory.trans_strands h'.memory, h.written.trans h'.written, fun dry => ?_⟩
  obtain ⟨input, trace⟩ := h.dry dry
  obtain ⟨memory', input', trace'⟩ := h'.dry dry
  exact ⟨h.memory.trans memory', input'.trans input, trace'.trans trace⟩

lemma OnlyWrites.proceeds (h : OnlyWrites m n) (phase : Phase) : Proceeds phase m n := by
  refine ⟨?_, h.written, fun _ => ⟨h.input, h.trace⟩⟩
  rw [h.memory]
  exact .refl _

lemma OnlyWrites.emit (here : Cursor) (text : String) (m : Machine) :
    OnlyWrites m { m with transcript := m.transcript.emit here text } := by
  refine ⟨rfl, rfl, rfl, ?_⟩
  simp only [Machine.written, Transcript.emit]
  split
  · rw [Transcript.toList_add]
    exact List.prefix_append _ _
  · exact List.prefix_rfl

lemma OnlyWrites.mark (here : Cursor) (text : String) (m : Machine) :
    OnlyWrites m { m with transcript := m.transcript.mark here text } := by
  refine ⟨rfl, rfl, rfl, ?_⟩
  simp only [Machine.written, Transcript.mark, Transcript.toList_add]
  exact List.prefix_append _ _

end Machine

open Machine

/-- The effect of code at a cursor; only the phase matters. -/
def footprint (here : Cursor) : Effect where
  done := Proceeds here.phase
  stopped := Halts here.phase
  done_refl := Proceeds.refl here.phase
  done_trans := Proceeds.trans
  stopped_of_done := Proceeds.halts
  stopped_trans := Proceeds.trans_halts

namespace Footprint

open Eval

variable {α β : Type} {here : Cursor} {m n : Machine}

/-- Whatever has the footprint of some code has that of any code that runs. -/
lemma of_executes {x : Eval α} (h : (footprint here).Allows x) {there : Cursor}
    (runs : there.phase.executes = true) : (footprint there).Allows x := by
  have wet : there.phase ≠ .dry := Phase.ne_dry_of_executes runs
  intro m outcome n ran
  have related := h ran
  cases outcome with
  | ok a =>
    have proceeds : Proceeds here.phase m n := related
    exact ⟨proceeds.memory, proceeds.written, fun dry => absurd dry wet⟩
  | error fault =>
    have halts : Halts here.phase m n := related
    exact ⟨halts.memory, halts.written, fun dry => absurd dry wet⟩

/-- Dry code, whatever it comes to, leaves the input and the trace alone. -/
lemma keeps_of_dry {x : Eval α} (dry : here.phase = .dry) (h : (footprint here).Allows x)
    {outcome : Except Fault α} (ran : x m = some (outcome, n)) :
    m.memory.Evolves n.memory ∧ n.input = m.input ∧ n.trace = m.trace := by
  have related := h ran
  cases outcome with
  | ok a =>
    have proceeds : Proceeds here.phase m n := related
    exact ⟨proceeds.memory, proceeds.dry dry⟩
  | error fault =>
    have halts : Halts here.phase m n := related
    exact halts.dry dry

/-! ## The operations -/

lemma of_onlyWrites {x : Eval α}
    (h : ∀ ⦃m outcome n⦄, x m = some (outcome, n) → OnlyWrites m n) :
    (footprint here).Allows x :=
  .of_done fun _ _ _ ran => (h ran).proceeds here.phase

lemma setLine (line : UInt32) : (footprint here).Allows (setLine line) := by
  refine of_onlyWrites fun m outcome n ran => ?_
  cases ran
  exact ⟨rfl, rfl, rfl, List.prefix_rfl⟩

lemma emit (there : Cursor) (text : String) : (footprint here).Allows (emit there text) := by
  refine of_onlyWrites fun m outcome n ran => ?_
  cases ran
  exact .emit there text m

lemma mark (there : Cursor) (text : String) : (footprint here).Allows (mark there text) := by
  refine of_onlyWrites fun m outcome n ran => ?_
  cases ran
  exact .mark there text m

lemma define (name : String) (value : Value) : (footprint here).Allows (define name value) := by
  refine .of_done fun m outcome n ran => ?_
  cases ran
  exact ⟨.define m.memory name value, List.prefix_rfl, fun _ => ⟨rfl, rfl⟩⟩

lemma newSlot (value : Value) : (footprint here).Allows (newSlot value) := by
  refine .of_done fun m outcome n ran => ?_
  cases ran
  exact ⟨.alloc m.memory value, List.prefix_rfl, fun _ => ⟨rfl, rfl⟩⟩

lemma storeElement (name : String) (index : Int64) (element : Value) :
    (footprint here).Allows (storeElement name index element) := by
  refine .of_done fun m outcome n ran => ?_
  unfold Eval.storeElement at ran
  cases stored : m.memory.storeElement name index element with
  | ok memory =>
    rw [stored] at ran
    cases ran
    exact ⟨.storeElement stored, List.prefix_rfl, fun _ => ⟨rfl, rfl⟩⟩
  | error fault =>
    rw [stored] at ran
    cases ran
    exact .refl here.phase m

lemma nextInteger (runs : here.phase.executes = true) :
    (footprint here).Allows nextInteger := by
  refine .of_done fun m outcome n ran => ?_
  cases ran
  exact ⟨.refl _, List.prefix_rfl, fun dry => absurd dry (Phase.ne_dry_of_executes runs)⟩

/-- Code in every phase has a footprint. -/
lemma walkable : Walkable footprint fun _ => True where
  setLine _ line := setLine line
  newSlot _ value := newSlot value
  define _ _ name value := define name value
  storeElement _ _ name index element := storeElement name index element
  emit here _ text := emit here text
  nextInteger _ _ runs := nextInteger runs
  entered_deeper _ _ := trivial
  of_deeper _ _ _ h := h
  entered_silent _ _ _ := trivial
  of_silent _ _ _ runs h := of_executes h runs

/-! ## Taking back -/

/-- **What is taken back leaves only its lines.** -/
lemma onlyWrites_of_takingBack {body : Eval Unit} (dry : here.phase = .dry)
    (h : (footprint here).Allows body) {outcome : Except Fault Unit}
    (ran : takingBack body m = some (outcome, n)) :
    OnlyWrites m n ∧ (outcome = .ok () → n.line = m.line) := by
  obtain ⟨l, walked, rfl⟩ := takingBack_eq_some.mp ran
  cases outcome with
  | error fault =>
    have halts : Halts here.phase m l := h walked
    obtain ⟨memory, input, trace⟩ := halts.dry dry
    refine ⟨⟨memory.restore_snapshot, input, trace, halts.written⟩, ?_⟩
    rintro ⟨⟩
  | ok =>
    have proceeds : Proceeds here.phase m l := h walked
    obtain ⟨input, trace⟩ := proceeds.dry dry
    exact ⟨⟨proceeds.memory.restore_snapshot, input, trace, proceeds.written⟩, fun _ => rfl⟩

/-! ## Entering and leaving a function -/

lemma tracing_eq {record : CallTrace → Except Fault Unit × CallTrace}
    {outcome : Except Fault Unit} (ran : tracing record m = some (outcome, n)) :
    ∃ trace, n = { m with trace } := by
  unfold tracing at ran
  split at ran
  · cases ran
    exact ⟨m.trace, rfl⟩
  · next trace _ =>
    cases ran
    exact ⟨some (record trace).2, rfl⟩

/-- What is recorded in a trace that is kept, if that does not fail. -/
lemma tracing_of_kept {record : CallTrace → Except Fault Unit × CallTrace}
    {trace recorded : CallTrace} (kept : m.trace = some trace)
    (records : record trace = (.ok (), recorded)) :
    tracing record m = some (.ok (), { m with trace := some recorded }) := by
  simp [tracing, kept, records]

lemma traceCall_eq {function : Function} {slots : List Slot} {line : UInt32}
    {outcome : Except Fault Unit} (ran : traceCall function slots line m = some (outcome, n)) :
    ∃ trace, n = { m with trace } :=
  tracing_eq ran

lemma traceReturn_eq {function : Function} {result : Value} {slots : List Slot} {line : UInt32}
    {outcome : Except Fault Unit}
    (ran : traceReturn function result slots line m = some (outcome, n)) :
    ∃ trace, n = { m with trace } :=
  tracing_eq ran

/-- A function is entered once its call has been recorded. -/
lemma enter_of_traced {function : Function} {slots : List Slot} {callLine : UInt32}
    (traced : traceCall function slots callLine m = some (.ok (), n)) :
    enter function slots callLine m = some (.ok (), { n with
      memory := n.memory.enter function.name.name callLine
        ((function.params.map (·.name.name)).zip slots)
      line := function.span.startLine }) := by
  have bound := Memory.foldl_bind ((function.params.map (·.name.name)).zip slots)
    ⟨function.name.name, callLine, []⟩ n.memory.frames n.memory.store
  refine (bind_of_ok traced).trans ?_
  simp only [bind_apply, pushFrame_apply, setLine_apply, bindSlots, Memory.push, bound]
  rfl

lemma enter_eq_ok {function : Function} {slots : List Slot} {callLine : UInt32}
    (ran : enter function slots callLine m = some (.ok (), n)) :
    ∃ trace, n = { m with
      memory := m.memory.enter function.name.name callLine
        ((function.params.map (·.name.name)).zip slots)
      line := function.span.startLine
      trace } := by
  obtain ⟨_, l, traced, -⟩ := bind_eq_ok.mp ran
  rw [enter_of_traced traced] at ran
  obtain ⟨trace, rfl⟩ := traceCall_eq traced
  cases ran
  exact ⟨trace, rfl⟩

lemma enter_eq_error {function : Function} {slots : List Slot} {callLine : UInt32}
    {fault : Fault} (ran : enter function slots callLine m = some (.error fault, n)) :
    ∃ trace, n = { m with trace } := by
  rcases bind_eq_error.mp ran with traced | ⟨_, l, -, entered⟩
  · exact traceCall_eq traced
  · simp [bind_apply, bindSlots] at entered

/-- A function is left once its return has been recorded. -/
lemma leave_of_traced {function : Function} {slots : List Slot} {callLine : UInt32}
    {result : Value} (traced : traceReturn function result slots m.line m = some (.ok (), n)) :
    leave function slots callLine result m =
      some (.ok result, { n with memory := n.memory.pop, line := callLine }) := by
  rw [leave, currentLine_bind]
  exact bind_of_ok traced

lemma leave_eq_ok {function : Function} {slots : List Slot} {callLine : UInt32}
    {result value : Value} (ran : leave function slots callLine result m = some (.ok value, n)) :
    value = result ∧
      ∃ trace, n = { m with memory := m.memory.pop, line := callLine, trace } := by
  obtain ⟨_, l, traced, left⟩ := bind_eq_ok.mp ran
  obtain ⟨_, l', traced', left'⟩ := bind_eq_ok.mp left
  cases traced
  obtain ⟨trace, rfl⟩ := traceReturn_eq traced'
  cases left'
  exact ⟨rfl, trace, rfl⟩

lemma leave_eq_error {function : Function} {slots : List Slot} {callLine : UInt32}
    {result : Value} {fault : Fault}
    (ran : leave function slots callLine result m = some (.error fault, n)) :
    ∃ trace, n = { m with trace } := by
  rcases bind_eq_error.mp ran with traced | ⟨_, l, traced, left⟩
  · cases traced
  · cases traced
    rcases bind_eq_error.mp left with traced' | ⟨_, l', -, left'⟩
    · exact traceReturn_eq traced'
    · cases left'

/-! ## Calls -/

variable (functions : String → Option Function)

/-- All parts of the evaluator have the footprint of their phase, with so much fuel. -/
abbrev Contained (fuel : Nat) : Prop := Walked functions footprint (fun _ => True) fuel

/-- What a call does to a machine, from the slots of its arguments on. -/
structure CallDoes (slots : List Slot) (outcome : Except Fault Value) (m n : Machine) :
    Prop where
  memory : ∃ above, Memory.Called slots above m.memory n.memory ∧
    ∀ value, outcome = .ok value → above = []
  written : m.written <+: n.written

variable {functions} {fuel : Nat} {function : Function} {slots : List Slot}

/-- The slot of an argument is that of a variable, or it is new. -/
lemma handed_of_argument (ih : ∀ less < fuel, Contained functions less) {param : Param}
    {arg : Expr} {slot : Slot}
    (ran : argument functions fuel here function param arg m = some (.ok slot, n)) :
    m.memory.Handed n.memory slot := by
  have new : ∀ {l : Machine} {value : Value},
      Eval.newSlot value l = some (.ok slot, n) → l.memory.Handed n.memory slot := by
    intro l value made
    cases made
    exact Or.inr ⟨Nat.le_refl _, by simp [Memory.alloc, Store.size, Store.alloc, Store.next]⟩
  cases fuel with
  | zero => cases ran
  | succ fuel =>
    rw [argument] at ran
    split at ran
    · cases named : arg.variableName? with
      | none =>
        rw [named] at ran
        cases ran
      | some name =>
        rw [named] at ran
        obtain ⟨found, l, looked, ran⟩ := bind_eq_ok.mp ran
        cases looked
        cases bound : m.memory.slot? name with
        | some found =>
          rw [bound] at ran
          cases ran
          exact Or.inl ⟨name, bound⟩
        | none =>
          simp only [bound] at ran
          split at ran
          · exact new ran
          · cases ran
    · obtain ⟨value, l, evaluated, ran⟩ := bind_eq_ok.mp ran
      have contained := ih fuel (Nat.lt_succ_self fuel)
      have evolves : Proceeds here.phase m l := contained.expr here arg evaluated
      exact evolves.memory.trans_handed (new ran)

lemma handed_of_arguments (ih : ∀ less < fuel, Contained functions less) {params : List Param}
    {args : List Expr}
    (ran : arguments functions fuel here function params args m = some (.ok slots, n)) :
    ∀ slot ∈ slots, m.memory.Handed n.memory slot := by
  induction params generalizing fuel args m slots with
  | nil =>
    cases fuel with
    | zero => cases ran
    | succ fuel =>
      unfold arguments at ran
      cases ran
      simp
  | cons param params rest =>
    cases fuel with
    | zero => cases ran
    | succ fuel =>
      unfold arguments at ran
      cases args with
      | nil =>
        cases ran
        simp
      | cons arg args =>
        obtain ⟨first, l, evaluated, ran⟩ := bind_eq_ok.mp ran
        obtain ⟨others, l', evaluated', ran⟩ := bind_eq_ok.mp ran
        cases ran
        have contained := ih fuel (Nat.lt_succ_self fuel)
        have lesser : ∀ less < fuel, Contained functions less :=
          fun less lt => ih less (Nat.lt_succ_of_lt lt)
        have before : Proceeds here.phase m l := contained.argument _ _ _ _ evaluated
        have after : Proceeds here.phase l n := contained.arguments _ _ _ _ evaluated'
        intro slot mem
        rcases List.mem_cons.mp mem with rfl | mem
        · exact (handed_of_argument lesser evaluated).trans_evolves after.memory
        · exact before.memory.trans_handed (rest lesser evaluated' slot mem)

lemma callDoes_of_runFunction (ih : ∀ less < fuel, Contained functions less) {body : Cursor}
    {outcome : Except Fault Value}
    (ran : runFunction functions fuel body function slots m = some (outcome, n)) :
    CallDoes slots outcome m n := by
  have handed : ∀ slot ∈ ((function.params.map (·.name.name)).zip slots).map Prod.snd,
      slot ∈ slots := by
    intro slot mem
    obtain ⟨⟨name, slot'⟩, zipped, rfl⟩ := List.mem_map.mp mem
    exact (List.of_mem_zip zipped).2
  cases fuel with
  | zero => cases ran
  | succ fuel =>
    have contained := ih fuel (Nat.lt_succ_self fuel)
    rw [runFunction_succ] at ran
    cases outcome with
    | ok value =>
      obtain ⟨callLine, _, line, ran⟩ := bind_eq_ok.mp ran
      cases line
      obtain ⟨_, l, entered, ran⟩ := bind_eq_ok.mp ran
      obtain ⟨flow, l', ran', left⟩ := bind_eq_ok.mp ran
      obtain ⟨trace, rfl⟩ := enter_eq_ok entered
      have proceeds : Proceeds _ _ l' := contained.stmts _ trivial _ ran'
      obtain ⟨-, trace', rfl⟩ := leave_eq_ok left
      obtain ⟨frame, called⟩ := Memory.Called.of_evolves proceeds.memory handed
      exact ⟨⟨[], called.pop, fun _ _ => rfl⟩, proceeds.written⟩
    | error fault =>
      rcases bind_eq_error.mp ran with line | ⟨callLine, _, line, ran⟩
      · cases line
      cases line
      rcases bind_eq_error.mp ran with entered | ⟨_, l, entered, ran⟩
      · obtain ⟨trace, rfl⟩ := enter_eq_error entered
        exact ⟨⟨[], .refl _ _, by simp⟩, List.prefix_rfl⟩
      obtain ⟨trace, rfl⟩ := enter_eq_ok entered
      rcases bind_eq_error.mp ran with ran' | ⟨flow, l', ran', left⟩
      · have halts : Halts _ _ n := contained.stmts _ trivial _ ran'
        obtain ⟨above, called⟩ := Memory.Called.of_strands halts.memory handed
        exact ⟨⟨above, called, by simp⟩, halts.written⟩
      · have proceeds : Proceeds _ _ l' := contained.stmts _ trivial _ ran'
        obtain ⟨trace', rfl⟩ := leave_eq_error left
        obtain ⟨frame, called⟩ := Memory.Called.of_evolves proceeds.memory handed
        exact ⟨⟨[frame], called, by simp⟩, proceeds.written⟩

/-- A call that runs, seen from before its arguments. -/
lemma relates_of_callDoes {outcome : Except Fault Value} {l : Machine}
    (runs : here.phase.executes = true) (gathered : Proceeds here.phase m l)
    (handed : ∀ slot ∈ slots, m.memory.Handed l.memory slot)
    (does : CallDoes slots outcome l n) : (footprint here).Relates outcome m n := by
  obtain ⟨⟨above, called, returned⟩, written⟩ := does
  have wet : here.phase ≠ .dry := Phase.ne_dry_of_executes runs
  cases outcome with
  | ok value =>
    obtain rfl := returned value rfl
    exact ⟨gathered.memory.trans_called handed called, gathered.written.trans written,
      fun dry => absurd dry wet⟩
  | error fault =>
    exact ⟨gathered.memory.strands_of_called handed called, gathered.written.trans written,
      fun dry => absurd dry wet⟩

lemma call_of (ih : ∀ less < fuel, Contained functions less) (here : Cursor) (site : Call) :
    (footprint here).Allows (call functions fuel here site) := by
  cases fuel with
  | zero => exact .outOfFuel
  | succ fuel =>
    have contained := ih fuel (Nat.lt_succ_self fuel)
    have lesser : ∀ less < fuel, Contained functions less :=
      fun less lt => ih less (Nat.lt_succ_of_lt lt)
    cases declared : functions site.name.name with
    | none =>
      rw [call_of_undeclared functions declared]
      exact .throw _
    | some function =>
      rw [call_of_declared functions declared]
      split
      · exact .throw _
      by_cases runs : here.phase.executes = true
      · simp only [runs, if_true]
        refine .bind_of (contained.arguments here function _ _) ?_
        intro m slots l outcome n gathered ran
        have before : Proceeds here.phase m l := contained.arguments here function _ _ gathered
        have marked := OnlyWrites.mark here (Text.callForm site.name.name) l
        have proceeds := before.trans (marked.proceeds here.phase)
        have handed := handed_of_arguments lesser gathered
        rw [bind_apply, mark_apply] at ran
        cases outcome with
        | ok value =>
          obtain ⟨result, _, called, ran⟩ := bind_eq_ok.mp ran
          cases ran
          have does := callDoes_of_runFunction lesser called
          have related := relates_of_callDoes runs proceeds handed does
          exact related
        | error fault =>
          rcases bind_eq_error.mp ran with called | ⟨result, _, -, ran⟩
          · have does := callDoes_of_runFunction lesser called
            have related := relates_of_callDoes runs proceeds handed does
            exact related
          · cases ran
      · simp only [runs]
        refine .bind (contained.arguments here function _ _) fun slots => ?_
        exact .bind (mark here _) fun _ => .pure _

/-! ## All code -/

lemma onlyWrites_of_writeOut_of (ih : ∀ less < fuel, Contained functions less)
    {statements : List Stmt} {outcome : Except Fault Unit}
    (ran : writeOut functions fuel here statements m = some (outcome, n)) :
    OnlyWrites m n ∧ (outcome = .ok () → n.line = m.line) := by
  cases fuel with
  | zero => cases ran
  | succ fuel =>
    rw [writeOut] at ran
    have contained := ih fuel (Nat.lt_succ_self fuel)
    have written := contained.stmts (here.inPhase .dry) trivial statements
    exact onlyWrites_of_takingBack rfl (written.bind fun _ => .pure ()) ran

variable (functions)

/-- **The evaluator has the footprint of its phase.** -/
theorem contained (fuel : Nat) : Contained functions fuel := by
  refine walked walkable (fun fuel ih => call_of ih) ?_ fuel
  intro fuel ih here _ runs statements flow
  refine .leaveOut (fun _ => of_onlyWrites fun m outcome n ran => ?_) flow
  exact (onlyWrites_of_writeOut_of ih ran).1

/-- What every call of a function does. -/
lemma callDoes {body : Cursor} {outcome : Except Fault Value}
    (ran : runFunction functions fuel body function slots m = some (outcome, n)) :
    CallDoes slots outcome m n :=
  callDoes_of_runFunction (fun less _ => contained functions less) ran

/-- Code that is written out leaves only its lines. -/
lemma onlyWrites_of_writeOut {statements : List Stmt} {outcome : Except Fault Unit}
    (ran : writeOut functions fuel here statements m = some (outcome, n)) :
    OnlyWrites m n ∧ (outcome = .ok () → n.line = m.line) :=
  onlyWrites_of_writeOut_of (fun less _ => contained functions less) ran

end Footprint

end RobotScribe
