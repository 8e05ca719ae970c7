/-
# Open calls

A trace is closed by the return that leaves no call open.  Whatever else code does, it keeps what
recording keeps, and this goes for each point that it comes to (`Into.trace_kept`).  So between
operations a trace that has not been closed has had no more returns than calls, and at each point
of a run but the first one some call is open in it (`Session.Passes.inCall`).

This is said of traces whose sink never fails.  Where the last return cannot be written, the trace
stays open with no call in it.
-/
import RobotScribe.Proofs.Points
import Mathlib.Tactic.SplitIfs

namespace RobotScribe

open Eval

/-! ## What recording keeps -/

/-- Whether a sink can fail is not changed by what is written to it. -/
@[simp]
lemma Sink.neverFails_write (sink : Sink) (text : String) :
    (sink.write text).2.NeverFails ↔ sink.NeverFails := by
  have same : (sink.write text).2.capacity = sink.capacity ∧
      (sink.write text).2.flushes = sink.flushes := by
    unfold write
    dsimp only
    split_ifs
    · exact ⟨rfl, rfl⟩
    · exact ⟨rfl, rfl⟩
  refine ⟨fun never => ⟨?_, ?_⟩, fun never => ⟨?_, ?_⟩⟩
  · exact same.1.symm.trans never.unbounded
  · exact same.2.symm.trans never.flushes
  · exact same.1.trans never.unbounded
  · exact same.2.trans never.flushes

namespace CallTrace

section

variable (trace : CallTrace) (function : Function) (result : Value) (args : List Value)
  (line : UInt32)

@[simp]
lemma neverFails_writeLine (text : String) :
    (trace.writeLine text).2.sink.NeverFails ↔ trace.sink.NeverFails := by
  unfold writeLine
  split
  · rfl
  · exact Sink.neverFails_write _ _

@[simp]
lemma sink_closeAtRoot : trace.closeAtRoot.2.sink = trace.sink := by
  unfold closeAtRoot
  split
  · rfl
  · split
    · rfl
    · rfl

@[simp]
lemma neverFails_call :
    (trace.call function args line).2.sink.NeverFails ↔ trace.sink.NeverFails := by
  simp [call]

@[simp]
lemma neverFails_giveBack :
    (trace.giveBack function result args line).2.sink.NeverFails ↔ trace.sink.NeverFails := by
  let outer := { trace with nesting := trace.nesting - 1 }
  let text := indent trace.nesting ++ returnText function result args line
  have written : (outer.writeLine text).2.sink.NeverFails ↔ trace.sink.NeverFails :=
    outer.neverFails_writeLine text
  rw [← written, giveBack]
  split
  · next ran =>
    rw [ran, sink_closeAtRoot]
  · next ran => rw [ran]

end

/-- If the sink of a trace never fails, then neither does the sink that it had at first. -/
lemma stable_lasting (sink : Sink) :
    Stable fun trace => ∀ ⦃kept⦄, trace = some kept → kept.sink.NeverFails → sink.NeverFails where
  call := by
    rintro trace lasting function args line _ ⟨⟩ never
    exact lasting rfl ((neverFails_call _ _ _ _).mp never)
  giveBack := by
    rintro trace lasting function result args line _ ⟨⟩ never
    exact lasting rfl ((neverFails_giveBack _ _ _ _ _).mp never)

/-- As long as a trace is open, so many calls are open in it, unless its sink may fail. -/
def OpenIn (calls : Nat) (trace : Option CallTrace) : Prop :=
  ∀ ⦃kept⦄, trace = some kept → kept.sink.NeverFails → kept.closed = false →
    (calls : Int) - 1 ≤ kept.nesting

/-- The return that leaves no call open is the one that closes the trace. -/
lemma stable_openIn {calls : Nat} (few : calls ≤ 1) : Stable (OpenIn calls) where
  call := by
    rintro trace opened function args line _ ⟨⟩ never unclosed
    have lasts := (neverFails_call trace function args line).mp never
    rw [call_eq lasts] at unclosed ⊢
    have before : (calls : Int) - 1 ≤ trace.nesting := opened rfl lasts unclosed
    exact Int.le_trans before (Int.le_add_one (Int.le_refl _))
  giveBack := by
    rintro trace opened function result args line _ ⟨⟩ never unclosed
    have lasts := (neverFails_giveBack trace function result args line).mp never
    rw [giveBack_eq lasts] at unclosed ⊢
    have inside : ¬trace.nesting - 1 < 0 := of_decide_eq_false (Bool.or_eq_false_iff.mp unclosed).2
    have after : (calls : Int) - 1 ≤ trace.nesting - 1 := by omega
    exact after

end CallTrace

/-! ## From point to point -/

namespace Keeping

variable {P : Option CallTrace → Prop} {functions : String → Option Function} {fuel : Nat}

/-- Going on at the line of a node keeps the trace. -/
lemma enterSpan (span : Span) : (keeping P).Allows (enterSpan span) :=
  walkable.enterSpan (.top .live) span

variable (stable : CallTrace.Stable P)
include stable

lemma test (here : Cursor) (span : Span) (word : String) (condition : Expr) :
    (keeping P).Allows (test functions fuel here span word condition) := by
  refine .bind (enterSpan span) fun _ => ?_
  refine .bind ((walked functions stable fuel).expr here condition) fun value => ?_
  exact .bind (.ofExcept _) fun _ => .bind (emit here _) fun _ => .pure _

lemma gather (here : Cursor) (function : Function) (site : Call) :
    (keeping P).Allows (gather functions fuel here function site) := by
  refine .bind ((walked functions stable fuel).arguments here function _ _) fun slots => ?_
  exact .bind (mark here _) fun _ => .pure _

end Keeping

/-- **A point that is come to has a trace in which everything is kept** that recording keeps. -/
theorem Into.trace_kept {P : Option CallTrace → Prop} {functions : String → Option Function}
    {p q : Point} (stable : CallTrace.Stable P) (into : Into functions p q)
    (holds : P p.machine.trace) : P q.machine.trace := by
  have walked := Keeping.walked functions stable
  cases into with
  | form enters | assigned enters | condition enters | loopCondition enters | given enters
  | printed enters | numbers enters | painted enters | reading enters | performed enters =>
    exact Keeping.kept (Keeping.enterSpan _) enters holds
  | index | call | sense | left | operand | inner | direction | arguments | argument | byValue
  | stmt | number | branch | branchOut | rounds | dryRound | loopOut | round | dry => exact holds
  | right done => exact Keeping.kept ((walked _).expr _ _) done holds
  | runFunction declared fits runs gathered =>
    exact Keeping.kept (Keeping.gather stable _ _ _) gathered holds
  | nextArguments done => exact Keeping.kept ((walked _).argument _ _ _ _) done holds
  | body entered => exact Keeping.kept (Keeping.enter stable _ _ _) entered holds
  | nextStmts done | restOut done => exact Keeping.kept ((walked _).stmt _ trivial _) done holds
  | position done =>
    exact Keeping.kept (.bind (Keeping.enterSpan _) fun _ => (walked _).expr _ _) done holds
  | thenBranch tested | firstRound tested =>
    exact Keeping.kept (Keeping.test stable _ _ _ _) tested holds
  | elseBranch done =>
    refine Keeping.kept (.bind (Keeping.test stable _ _ _ _) fun taken => ?_) done holds
    refine .bind ((walked _).branch _ trivial _ _) fun _ => ?_
    exact .bind (Keeping.emit _ _) fun _ => .pure _
  | nextNumbers done =>
    exact Keeping.kept (.bind ((walked _).expr _ _) fun _ => .ofExcept _) done holds
  | retest done => exact Keeping.kept ((walked _).stmts _ trivial _) done holds
  | again done again =>
    have before := Keeping.kept ((walked _).stmts _ trivial _) done holds
    exact Keeping.kept (.bind ((walked _).expr _ _) fun _ => .ofExcept _) again before

lemma ComesTo.trace_kept {P : Option CallTrace → Prop} {functions : String → Option Function}
    {p q : Point} (stable : CallTrace.Stable P) (comes : ComesTo functions p q)
    (holds : P p.machine.trace) : P q.machine.trace := by
  induction comes with
  | refl => exact holds
  | tail _ into ih => exact into.trace_kept stable ih

/-! ## Sessions -/

namespace Session

variable {s : Session} {fuel : Nat} {p : Point}

/-- Between operations a trace has had no more returns than calls. -/
lemma Reached.openIn (reached : s.Reached) : CallTrace.OpenIn 0 s.machine.trace := by
  have stable := CallTrace.stable_openIn (Nat.zero_le 1)
  induction reached with
  | load loaded =>
    obtain ⟨declarations, trace, -, rfl, ⟨-, rfl⟩ | ⟨path, sink, -, -, rfl⟩⟩ := eq_of_load loaded
    · rintro _ ⟨⟩
    · rintro _ ⟨⟩ _ _
      exact Int.le_refl _
  | withTraceSink sink before ih =>
    rintro _ ⟨⟩ _ _
    exact Int.le_refl _
  | @run s t fuel outcome before ran ih =>
    have operates : s.operate .run fuel = some (outcome, t) := ran
    exact Leads.trace_kept stable (.operate .start operates) ih
  | @prepare s t fuel outcome before ran ih =>
    have operates : s.operate .prepare fuel = some (outcome, t) := ran
    exact Leads.trace_kept stable (.operate .start operates) ih

/-- A function is entered with its own call open. -/
lemma openIn_of_enter {function : Function} {slots : List Slot} {callLine : UInt32}
    {m n : Machine} (opened : CallTrace.OpenIn 0 m.trace)
    (entered : enter function slots callLine m = some (.ok (), n)) :
    CallTrace.OpenIn 1 n.trace := by
  intro kept traced never unclosed
  cases before : m.trace with
  | none =>
    have stable : CallTrace.Stable (· = none) := ⟨by simp, by simp⟩
    cases traced.symm.trans (Keeping.kept (Keeping.enter stable _ _ _) entered before)
  | some trace =>
    have same : ∀ ⦃kept⦄, m.trace = some kept → kept.sink.NeverFails → trace.sink.NeverFails := by
      intro kept traced never
      cases before.symm.trans traced
      exact never
    have lasting := Keeping.enter (CallTrace.stable_lasting trace.sink) function slots callLine
    have lasts : trace.sink.NeverFails := Keeping.kept lasting entered same traced never
    rw [enter_of_neverFails before lasts] at entered
    cases entered
    cases traced
    have above : (0 : Int) - 1 ≤ trace.nesting := opened before lasts unclosed
    exact Int.add_le_add_right above 1

/-- **At each point of a run but the first one, some call is open** in a trace that is open.  The
first point is that of the call itself. -/
theorem Passes.inCall (passes : s.Passes fuel p) (reached : s.Reached) :
    (∃ main, p = ⟨fuel, .runFunction (.top .live) main [], s.started⟩) ∨
      CallTrace.OpenIn 1 p.machine.trace := by
  obtain ⟨main, -, comes⟩ := passes
  rcases comes.cases_head with rfl | ⟨q, first, comes⟩
  · exact Or.inl ⟨main, rfl⟩
  · right
    refine ComesTo.trace_kept (CallTrace.stable_openIn (Nat.le_refl 1)) comes ?_
    cases first with
    | body entered =>
      have between : CallTrace.OpenIn 0 s.started.trace := reached.openIn
      exact openIn_of_enter between entered

/-- Some call is open where a run comes to statements. -/
lemma Passes.nested_of_stmts {rest : Nat} {here : Cursor} {statements : List Stmt} {m : Machine}
    {trace : CallTrace} (passes : s.Passes fuel ⟨rest, .stmts here statements, m⟩)
    (reached : s.Reached) (kept : m.trace = some trace) (never : trace.sink.NeverFails)
    (unclosed : trace.closed = false) : 0 ≤ trace.nesting := by
  rcases passes.inCall reached with ⟨main, first⟩ | opened
  · cases first
  · exact opened kept never unclosed

end Session

end RobotScribe
