/-
# Computations, taken apart

The evaluator is written with the operations of the machine and with binds.  This file says
how a bind comes to a result or to a fault, what each operation does, and what the parts of
the evaluator are that have names of their own in proofs: entering and leaving a function, the
second branch of a conditional, and the code that is left out.
-/
import RobotScribe.Evaluation.Evaluate
import Mathlib.Tactic.Lemma

namespace RobotScribe

namespace Eval

variable {α β : Type} {m n : Machine}

/-! ## Binds -/

/-- A bind comes to a result through a result of its first part. -/
lemma bind_eq_ok {x : Eval α} {f : α → Eval β} {b : β} :
    (x >>= f) m = some (.ok b, n) ↔
      ∃ a l, x m = some (.ok a, l) ∧ f a l = some (.ok b, n) := by
  rw [bind_apply]
  rcases x m with _ | ⟨fault | a, l⟩
  · simp
  · simp
  · constructor
    · intro h
      exact ⟨a, l, rfl, h⟩
    · rintro ⟨_, _, ⟨⟩, h⟩
      exact h

/-- A bind is stopped in its first part, or after a result of it. -/
lemma bind_eq_error {x : Eval α} {f : α → Eval β} {fault : Fault} :
    (x >>= f) m = some (.error fault, n) ↔
      x m = some (.error fault, n) ∨
        ∃ a l, x m = some (.ok a, l) ∧ f a l = some (.error fault, n) := by
  rw [bind_apply]
  rcases x m with _ | ⟨fault' | a, l⟩
  · simp
  · simp
  · constructor
    · intro h
      exact Or.inr ⟨a, l, rfl, h⟩
    · rintro (stopped | ⟨_, _, ⟨⟩, h⟩)
      · cases stopped
      · exact h

/-- A bind goes on after a result of its first part. -/
lemma bind_of_ok {x : Eval α} {f : α → Eval β} {a : α} (h : x m = some (.ok a, n)) :
    (x >>= f) m = f a n := by
  rw [bind_apply, h]

/-- A bind ends with a fault of its first part. -/
lemma bind_of_error {x : Eval α} {f : α → Eval β} {fault : Fault}
    (h : x m = some (.error fault, n)) : (x >>= f) m = some (.error fault, n) := by
  rw [bind_apply, h]

/-- A bind comes to an end with a fault of its first part, or after a result of it. -/
lemma bind_eq_some {x : Eval α} {f : α → Eval β} {outcome : Except Fault β} :
    (x >>= f) m = some (outcome, n) ↔
      (∃ fault, outcome = .error fault ∧ x m = some (.error fault, n)) ∨
        ∃ a l, x m = some (.ok a, l) ∧ f a l = some (outcome, n) := by
  cases outcome with
  | ok b => simp [bind_eq_ok]
  | error fault => simp [bind_eq_error]

/-! ## The operations -/

lemma currentLine_bind {f : UInt32 → Eval β} : (currentLine >>= f) m = f m.line m := rfl

@[simp] lemma setLine_apply (line : UInt32) :
    setLine line m = some (.ok (), { m with line }) := rfl

@[simp] lemma mark_apply (here : Cursor) (text : String) :
    mark here text m = some (.ok (), { m with transcript := m.transcript.mark here text }) := rfl

@[simp] lemma pushFrame_apply (function : String) (callLine : UInt32) :
    pushFrame function callLine m =
      some (.ok (), { m with memory := m.memory.push function callLine }) := rfl

@[simp] lemma popFrame_apply :
    popFrame m = some (.ok (), { m with memory := m.memory.pop }) := rfl

/-- The machine that is left when what led from one machine to another is taken back.  The line
goes back, too, unless a fault has stopped the computation. -/
def takenBack (m : Machine) (outcome : Except Fault Unit) (l : Machine) : Machine :=
  { l with
    memory := (l.memory.restore m.memory.snapshot).shrink m.memory.store.size
    line := match outcome with
      | .ok () => m.line
      | .error _ => l.line }

lemma takingBack_eq_some {body : Eval Unit} {outcome : Except Fault Unit} :
    takingBack body m = some (outcome, n) ↔
      ∃ l, body m = some (outcome, l) ∧ n = takenBack m outcome l := by
  unfold takingBack takenBack
  rcases body m with _ | ⟨fault | ⟨⟨⟩⟩, l⟩
  · simp
  all_goals
    constructor
    · rintro ⟨⟩
      exact ⟨_, rfl, rfl⟩
    · rintro ⟨_, ⟨⟩, rfl⟩
      rfl

/-! ## Parts of the evaluator -/

/-- Enters a function: its frame is put on top, with the parameters bound to the slots that
were handed over. -/
def enter (function : Function) (slots : List Slot) (callLine : UInt32) : Eval Unit := do
  traceCall function slots callLine
  pushFrame function.name.name callLine
  setLine function.span.startLine
  bindSlots ((function.params.map (·.name.name)).zip slots)

/-- Leaves a function, and goes on at the line of its call. -/
def leave (function : Function) (slots : List Slot) (callLine : UInt32) (result : Value) :
    Eval Value := do
  let returnLine ← currentLine
  traceReturn function result slots returnLine
  popFrame
  setLine callLine
  return result

/-- Does something at the line of a node, and goes back to the line where it started. -/
def atSpan (span : Span) (x : Eval α) : Eval α := do
  let outer ← currentLine
  enterSpan span
  let a ← x
  setLine outer
  return a

variable (functions : String → Option Function) {fuel : Nat} {here : Cursor}

lemma expr_succ (e : Expr) :
    expr functions (fuel + 1) here e = atSpan e.span (form functions fuel here e) := by
  rw [expr]
  rfl

/-- Writes or runs the second branch of a conditional, if it has one, after the first. -/
def secondBranch (fuel : Nat) (here : Cursor) (elseBlock : Option Block) (taken : Bool)
    (first : Flow) : Eval Flow :=
  match elseBlock with
  | none => pure first
  | some elseBlock => do
    emit here "else"
    let second ← branch functions fuel here elseBlock (!taken)
    return first.or second

lemma runFunction_succ (body : Cursor) (function : Function) (slots : List Slot) :
    runFunction functions (fuel + 1) body function slots = (do
      let callLine ← currentLine
      enter function slots callLine
      let flow ← stmts functions fuel body.deeper function.body.stmts
      leave function slots callLine (flow.getD .void)) := by
  rw [runFunction]
  simp [enter, leave]

lemma call_of_undeclared {site : Call} (undeclared : functions site.name.name = none) :
    call functions (fuel + 1) here site = throw (.undeclaredFunction site.name.name) := by
  rw [call, undeclared]

lemma call_of_declared {site : Call} {function : Function}
    (declared : functions site.name.name = some function) :
    call functions (fuel + 1) here site =
      if site.args.length ≠ function.params.length then
        throw (.arityMismatch function.name.name function.params.length site.args.length)
      else do
        let slots ← arguments functions fuel here function function.params site.args
        mark here (Text.callForm site.name.name)
        if here.phase.executes then
          let result ← runFunction functions fuel here.calledBody function slots
          return result.withText (Text.callForm site.name.name)
        else return callStandIn function (Text.callForm site.name.name) := by
  rw [call, declared]
  rfl

lemma stmt_ifThen (condition : Expr) (thenBlock : Block) (elseBlock : Option Block)
    (span : Span) :
    stmt functions (fuel + 1) here (.ifThen condition thenBlock elseBlock span) = (do
      enterSpan span
      let value ← expr functions fuel here condition
      let taken ← ofExcept value.expectBool
      emit here ("if " ++ value.text)
      let first ← branch functions fuel here thenBlock taken
      let flow ← secondBranch functions fuel here elseBlock taken first
      emit here "endif"
      return flow) := by
  rw [stmt]
  cases elseBlock <;> simp [secondBranch, Stmt.span]

/-! ## Code that runs and dry code -/

/-- What becomes of code that follows a `return`, or that stands in a branch or loop that is
not entered: it is written if the code around it is live. -/
def leaveOut (fuel : Nat) (here : Cursor) (statements : List Stmt) (flow : Flow) : Eval Flow :=
  match here.phase with
  | .live => do
    writeOut functions fuel here statements
    return flow
  | _ => return flow

lemma stmts_cons_of_executes (runs : here.phase.executes = true) (s : Stmt) (rest : List Stmt) :
    stmts functions (fuel + 1) here (s :: rest) = (do
      match ← stmt functions fuel here s with
      | none => stmts functions fuel here rest
      | some value => leaveOut functions fuel here rest (some value)) := by
  rw [stmts]
  unfold leaveOut
  cases phase : here.phase with
  | dry =>
    rw [phase] at runs
    cases runs
  | live => rfl
  | silent => rfl

lemma stmts_cons_of_dry (dry : here.phase = .dry) (s : Stmt) (rest : List Stmt) :
    stmts functions (fuel + 1) here (s :: rest) = (do
      let _ ← stmt functions fuel here s
      stmts functions fuel here rest) := by
  rw [stmts]
  congr 1
  funext flow
  cases flow with
  | none => rfl
  | some value => simp only [dry]

lemma branch_of_executes (runs : here.phase.executes = true) (block : Block) (taken : Bool) :
    branch functions (fuel + 1) here block taken =
      if taken then stmts functions fuel here.deeper block.stmts
      else leaveOut functions fuel here.deeper block.stmts none := by
  unfold branch leaveOut
  rw [Cursor.phase_deeper]
  cases phase : here.phase with
  | dry =>
    rw [phase] at runs
    cases runs
  | live => cases taken <;> rfl
  | silent => cases taken <;> rfl

lemma branch_of_dry (dry : here.phase = .dry) (block : Block) (taken : Bool) :
    branch functions (fuel + 1) here block taken = (do
      let _ ← stmts functions fuel here.deeper block.stmts
      return none) := by
  unfold branch
  rw [dry]

lemma firstRound_of_executes (runs : here.phase.executes = true) (condition : Expr)
    (body : Block) (entered : Bool) :
    firstRound functions (fuel + 1) here condition body entered =
      if entered then rounds functions fuel here condition body
      else leaveOut functions fuel here.deeper body.stmts none := by
  unfold firstRound leaveOut
  rw [Cursor.phase_deeper]
  cases phase : here.phase with
  | dry =>
    rw [phase] at runs
    cases runs
  | live => cases entered <;> rfl
  | silent => cases entered <;> rfl

lemma firstRound_of_dry (dry : here.phase = .dry) (condition : Expr) (body : Block)
    (entered : Bool) :
    firstRound functions (fuel + 1) here condition body entered = (do
      let _ ← stmts functions fuel here.deeper body.stmts
      return none) := by
  unfold firstRound
  rw [dry]

end Eval

namespace Phase

variable {phase other : Phase}

lemma ne_dry_of_executes (runs : phase.executes = true) : phase ≠ .dry := by
  rintro rfl
  cases runs

lemma eq_dry_of_executes (stays : phase.executes = false) : phase = .dry := by
  cases phase with
  | dry => rfl
  | live => cases stays
  | silent => cases stays

/-- Whether code is dry is whether it runs. -/
lemma eq_dry_iff (same : phase.executes = other.executes) : phase = .dry ↔ other = .dry := by
  constructor
  · rintro rfl
    exact eq_dry_of_executes same.symm
  · rintro rfl
    exact eq_dry_of_executes same

lemma orStandIn_congr {α : Type} (same : phase.executes = other.executes) (fallback : α)
    (outcome : Except Fault α) :
    Eval.orStandIn phase fallback outcome = Eval.orStandIn other fallback outcome := by
  cases outcome with
  | ok a => rfl
  | error fault => simp only [Eval.orStandIn, eq_dry_iff same]

lemma printed_of_executes (runs : phase.executes = true) (value : Value) :
    Eval.printed phase value = value.display := by
  cases phase with
  | dry => cases runs
  | live => rfl
  | silent => rfl

lemma printed_congr (same : phase.executes = other.executes) (value : Value) :
    Eval.printed phase value = Eval.printed other value := by
  cases runs : phase.executes with
  | false => rw [eq_dry_of_executes runs, eq_dry_of_executes (same.symm.trans runs)]
  | true => rw [printed_of_executes runs, printed_of_executes (same.symm.trans runs)]

end Phase

end RobotScribe
