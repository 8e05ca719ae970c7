/-
# What becomes of a trace

Code changes the trace of a machine only by recording calls and returns, and dry code does not
change it at all.  So what holds of a trace and is kept when a call or a return is recorded is
kept by all code.  This is one more effect of the evaluator, `keeping`.

Where the sink of a trace never fails, no function is stopped by a record.
-/
import RobotScribe.Proofs.Footprint
import RobotScribe.Proofs.TraceLines

namespace RobotScribe

open Eval

/-- A property of a trace, or of there being none, that is kept by what is recorded. -/
structure CallTrace.Stable (P : Option CallTrace → Prop) : Prop where
  call : ∀ {trace}, P (some trace) → ∀ function args line,
    P (some (trace.call function args line).2)
  giveBack : ∀ {trace}, P (some trace) → ∀ function result args line,
    P (some (trace.giveBack function result args line).2)

/-- The effect of code that keeps a property of the trace. -/
def keeping (P : Option CallTrace → Prop) : Effect where
  done m n := P m.trace → P n.trace
  stopped m n := P m.trace → P n.trace
  done_refl _ holds := holds
  done_trans first second holds := second (first holds)
  stopped_of_done h := h
  stopped_trans first second holds := second (first holds)

namespace Keeping

variable {α : Type} {P : Option CallTrace → Prop} {functions : String → Option Function}
  {fuel : Nat} {x : Eval α}

lemma of_kept (h : ∀ ⦃m outcome n⦄, x m = some (outcome, n) → P m.trace → P n.trace) :
    (keeping P).Allows x :=
  .of_done h

lemma kept (h : (keeping P).Allows x) {m n : Machine} {outcome : Except Fault α}
    (ran : x m = some (outcome, n)) : P m.trace → P n.trace :=
  h.done id ran

lemma of_trace_eq (h : ∀ ⦃m outcome n⦄, x m = some (outcome, n) → n.trace = m.trace) :
    (keeping P).Allows x :=
  of_kept fun _ _ _ ran holds => by rwa [h ran]

lemma of_quiet (quiet : Quiet x) : (keeping P).Allows x :=
  of_trace_eq fun _ _ _ ran => (quiet ran).2

lemma readSlots (slots : List Slot) : (keeping P).Allows (readSlots slots) := by
  refine of_trace_eq fun m outcome n ran => ?_
  cases ran
  rfl

lemma mark (here : Cursor) (text : String) : (keeping P).Allows (mark here text) := by
  refine of_trace_eq fun m outcome n ran => ?_
  cases ran
  rfl

lemma label (text : String) : (keeping P).Allows (label text) := by
  refine of_trace_eq fun m outcome n ran => ?_
  cases ran
  rfl

/-- Where no trace is kept nothing is recorded. -/
lemma tracing {record : CallTrace → Except Fault Unit × CallTrace}
    (stable : ∀ {trace}, P (some trace) → P (some (record trace).2)) :
    (keeping P).Allows (tracing record) := by
  refine of_kept fun m outcome n ran holds => ?_
  unfold Eval.tracing at ran
  cases kept : m.trace with
  | none =>
    rw [kept] at ran
    cases ran
    exact holds
  | some trace =>
    rw [kept] at ran holds
    cases ran
    exact stable holds

section

variable (stable : CallTrace.Stable P)
include stable

lemma enter (function : Function) (slots : List Slot) (callLine : UInt32) :
    (keeping P).Allows (enter function slots callLine) := by
  have traces : (keeping P).Allows (traceCall function slots callLine) :=
    .bind (readSlots slots) fun values =>
      tracing fun holds => stable.call holds function values callLine
  refine .bind traces fun _ => of_trace_eq fun m outcome n ran => ?_
  simp only [bind_apply, pushFrame_apply, setLine_apply, bindSlots, Option.some.injEq,
    Prod.mk.injEq] at ran
  rw [← ran.2]

lemma leave (function : Function) (slots : List Slot) (callLine : UInt32) (result : Value) :
    (keeping P).Allows (leave function slots callLine result) := by
  have traces : ∀ line, (keeping P).Allows (traceReturn function result slots line) :=
    fun line => .bind (readSlots slots) fun values =>
      tracing fun holds => stable.giveBack holds function result values line
  refine .bind .currentLine fun line => .bind (traces line) fun _ => ?_
  refine of_trace_eq fun m outcome n ran => ?_
  simp only [bind_apply, popFrame_apply, setLine_apply, pure_apply, Option.some.injEq,
    Prod.mk.injEq] at ran
  rw [← ran.2]

end

lemma emit (here : Cursor) (text : String) : (keeping P).Allows (emit here text) := by
  refine of_trace_eq fun m outcome n ran => ?_
  cases ran
  rfl

lemma walkable : Walkable (fun _ => keeping P) fun _ => True :=
  .of_quiet (fun _ _ _ quiet => of_quiet quiet) (fun here _ text => emit here text)
    (fun _ _ => trivial) (fun _ _ _ => trivial) (fun _ _ _ h => h) fun _ _ _ _ h => h

/-- The evaluator keeps a property of the trace, with so much fuel. -/
abbrev Walked (P : Option CallTrace → Prop) (functions : String → Option Function) (fuel : Nat) :
    Prop :=
  RobotScribe.Walked functions (fun _ => keeping P) (fun _ => True) fuel

section

variable (stable : CallTrace.Stable P)
include stable

lemma runFunction_of (ih : ∀ less < fuel, Walked P functions less) (body : Cursor)
    (function : Function) (slots : List Slot) :
    (keeping P).Allows (runFunction functions fuel body function slots) := by
  cases fuel with
  | zero => exact .outOfFuel
  | succ fuel =>
    have walked := ih fuel (Nat.lt_succ_self fuel)
    rw [runFunction_succ]
    refine .bind .currentLine fun callLine => ?_
    refine .bind (enter stable function slots callLine) fun _ => ?_
    refine .bind (walked.stmts body.deeper trivial _) fun flow => ?_
    exact leave stable function slots callLine _

lemma call_of (ih : ∀ less < fuel, Walked P functions less) (here : Cursor) (site : Call) :
    (keeping P).Allows (call functions fuel here site) := by
  cases fuel with
  | zero => exact .outOfFuel
  | succ fuel =>
    have walked := ih fuel (Nat.lt_succ_self fuel)
    have lesser : ∀ less < fuel, Walked P functions less :=
      fun less lt => ih less (Nat.lt_succ_of_lt lt)
    refine .call (fun function => walked.arguments here function _ _) ?_ fun _ _ _ => mark here _
    intro function _ _ slots
    exact .bind (mark here _) fun _ => runFunction_of stable lesser _ function slots

variable (functions)

/-- **Code keeps whatever recording keeps.**  Code that is written out leaves the trace as it
is. -/
theorem walked (fuel : Nat) : Walked P functions fuel := by
  refine RobotScribe.walked walkable (fun fuel ih => call_of stable ih) ?_ fuel
  intro fuel ih here _ runs statements flow
  refine .leaveOut (fun _ => of_trace_eq fun m outcome n ran => ?_) flow
  exact (Footprint.onlyWrites_of_writeOut functions ran).1.trace

lemma runFunction (fuel : Nat) (body : Cursor) (function : Function) (slots : List Slot) :
    (keeping P).Allows (runFunction functions fuel body function slots) :=
  runFunction_of stable (fun less _ => walked functions stable less) body function slots

end

end Keeping

/-! ## Traces that never fail -/

section

variable {trace : CallTrace} {m : Machine} {function : Function} {slots : List Slot}
  {callLine : UInt32}

lemma enter_of_neverFails (kept : m.trace = some trace) (never : trace.sink.NeverFails) :
    enter function slots callLine m = some (.ok (), { m with
      memory := m.memory.enter function.name.name callLine
        ((function.params.map (·.name.name)).zip slots)
      line := function.span.startLine
      trace := some ({ trace with nesting := trace.nesting + 1 }.adding (trace.noted
        (.call (trace.nesting + 1) function (slots.map m.memory.store.read) callLine))) }) :=
  Footprint.enter_of_traced
    (Footprint.tracing_of_kept kept (CallTrace.call_eq never function _ callLine))

lemma leave_of_neverFails {result : Value} (kept : m.trace = some trace)
    (never : trace.sink.NeverFails) :
    leave function slots callLine result m = some (.ok result, { m with
      memory := m.memory.pop
      line := callLine
      trace := some { { trace with nesting := trace.nesting - 1 }.adding (trace.noted
          (.giveBack trace.nesting function result (slots.map m.memory.store.read) m.line)) with
        closed := trace.closed || decide (trace.nesting - 1 < 0) } }) :=
  Footprint.leave_of_traced
    (Footprint.tracing_of_kept kept (CallTrace.giveBack_eq never function result _ m.line))

end

/-! ## Code without a trace -/

/-- The effect of code that does not start a trace. -/
def untraced : Effect where
  done m n := m.trace = none → n.trace = none
  stopped m n := m.trace = none → n.trace = none
  done_refl _ none := none
  done_trans first second none := second (first none)
  stopped_of_done h := h
  stopped_trans first second none := second (first none)

namespace Untraced

lemma runFunction (functions : String → Option Function) (fuel : Nat) (body : Cursor)
    (function : Function) (slots : List Slot) :
    untraced.Allows (runFunction functions fuel body function slots) := by
  have stable : CallTrace.Stable (· = none) := ⟨by simp, by simp⟩
  exact Keeping.runFunction functions stable fuel body function slots

end Untraced

end RobotScribe
