/-
# Conditions that are not boolean

A condition is tested when its statement is entered (`FirstTest`), and if the statement is a loop,
again after each round (`Retest`).  A run that tests a condition which comes to a value of another
kind fails.  The fault is located at the line to which the condition has gone back.  At the first
test, this is the line of the statement.  After a round, it is the line where the round has ended:
that of the loop only if the body has entered no other one.
-/
import RobotScribe.Proofs.Lines
import RobotScribe.Proofs.Stops

namespace RobotScribe

open Eval

/-! ## Tests -/

/-- A conditional or a loop with a given span is entered, and its condition is tested. -/
inductive FirstTest (span : Span) : Point → Point → Prop where
  | ifThen {fuel here condition thenBlock elseBlock m n}
    (enters : enterSpan span m = some (.ok (), n)) :
    FirstTest span ⟨fuel + 1, .stmt here (.ifThen condition thenBlock elseBlock span), m⟩
      ⟨fuel, .expr here condition, n⟩
  | whileDo {fuel here condition body m n} (enters : enterSpan span m = some (.ok (), n)) :
    FirstTest span ⟨fuel + 1, .stmt here (.whileDo condition body span), m⟩
      ⟨fuel, .expr here condition, n⟩

section

variable (functions : String → Option Function) (span : Span) (condition : Expr) (body : Block)

/-- A loop is entered, and after a number of rounds it starts another one. -/
inductive Round : Point → Point → Prop where
  | first {fuel here m n} (runs : here.phase.executes = true)
    (tested : test functions (fuel + 1) here span "while " condition m = some (.ok true, n)) :
    Round ⟨fuel + 2, .stmt here (.whileDo condition body span), m⟩
      ⟨fuel, .rounds here condition body, n⟩
  | next {p fuel here l m n} (round : Round p ⟨fuel + 1, .rounds here condition body, m⟩)
    (done : stmts functions fuel here.deeper body.stmts m = some (.ok none, l))
    (holds : (do
      let value ← expr functions fuel (here.inPhase .silent) condition
      Eval.ofExcept value.expectBool) l = some (.ok true, n)) :
    Round p ⟨fuel, .rounds (here.inPhase .silent) condition body, n⟩

/-- A loop is entered, and after a round its condition is tested again. -/
inductive Retest (p : Point) : Point → Prop where
  | mk {fuel here m n} (round : Round functions span condition body p
      ⟨fuel + 1, .rounds here condition body, m⟩)
    (done : stmts functions fuel here.deeper body.stmts m = some (.ok none, n)) :
    Retest p ⟨fuel, .expr (here.inPhase .silent) condition, n⟩

end

section

variable {functions : String → Option Function} {span : Span} {condition : Expr} {body : Block}
  {p q : Point}

lemma Round.comesTo (round : Round functions span condition body p q) : ComesTo functions p q := by
  induction round with
  | first runs tested => exact .tail (.single (.firstRound tested)) (.rounds runs)
  | next round done holds ih => exact ih.tail (.again done holds)

/-! ### Where a test is made -/

lemma line_of_enterSpan {m n : Machine} (known : span.isKnown = true)
    (enters : enterSpan span m = some (.ok (), n)) : n.line = span.startLine := by
  rw [enterSpan, if_pos known] at enters
  cases enters
  rfl

lemma FirstTest.line_eq (tests : FirstTest span p q) (known : span.isKnown = true) :
    q.machine.line = span.startLine := by
  cases tests with
  | ifThen enters => exact line_of_enterSpan known enters
  | whileDo enters => exact line_of_enterSpan known enters

lemma line_of_test {fuel : Nat} {here : Cursor} {word : String} {holds : Bool} {m n : Machine}
    (known : span.isKnown = true)
    (tested : test functions fuel here span word condition m = some (.ok holds, n)) :
    n.line = span.startLine := by
  obtain ⟨⟨⟩, l, enters, tested⟩ := bind_eq_ok.mp tested
  have back : GoesBack (do
      let value ← expr functions fuel here condition
      let holds ← Eval.ofExcept value.expectBool
      emit here (word ++ value.text)
      return holds) :=
    .bind (expr_goesOn functions fuel here condition) fun _ =>
      .bind (.ofExcept _) fun _ => .bind (.emit _ _) fun _ => .pure _
  exact (back.line_eq tested).trans (line_of_enterSpan known enters)

/-- A round starts at the line of its loop, or at a line in the body. -/
lemma Round.line (round : Round functions span condition body p q) (known : span.isKnown = true) :
    q.machine.line = span.startLine ∨ LineIn body.stmts q.machine.line := by
  induction round with
  | first runs tested => exact Or.inl (line_of_test known tested)
  | @next p fuel here l m n round done holds ih =>
    have back : GoesBack (do
        let value ← expr functions fuel (here.inPhase .silent) condition
        Eval.ofExcept value.expectBool) :=
      .bind (expr_goesOn functions fuel _ condition) fun _ => .ofExcept _
    change n.line = _ ∨ LineIn _ n.line
    rw [back.line_eq holds]
    rcases line_after_stmts done with stays | inside
    · exact stays ▸ ih
    · exact Or.inr inside

lemma Retest.line (tests : Retest functions span condition body p q)
    (known : span.isKnown = true) :
    q.machine.line = span.startLine ∨ LineIn body.stmts q.machine.line := by
  cases tests with
  | mk round done =>
    rcases line_after_stmts done with stays | inside
    · exact stays ▸ round.line known
    · exact Or.inr inside

/-! ## Faults -/

lemma Value.expectBool_of_kind {value : Value} (unlike : value.kind ≠ .boolean) :
    value.expectBool = .error (.typeMismatch "boolean" value.kind) := by
  obtain ⟨payload, text⟩ := value
  cases payload with
  | boolean b => exact absurd rfl unlike
  | _ => rfl

/-- A point at which an expression is evaluated, and yields a value. -/
def Point.Yields (functions : String → Option Function) (p : Point) (value : Value) : Prop :=
  ∃ here e n, p.task = .expr here e ∧
    expr functions p.fuel here e p.machine = some (.ok value, n)

/-- A run fails with a fault at a line. -/
def Session.FailsAt (s : Session) (fuel : Nat) (fault : Fault) (line : UInt32) : Prop :=
  ∃ t, s.run fuel = some (.error ⟨fault, line⟩, t)

variable {value : Value}

/-- A test of a condition stops where the condition has been evaluated. -/
lemma stopsWith_test {fuel : Nat} {here : Cursor} {m n : Machine} {α : Type}
    {rest : Value → Bool → Eval α}
    (done : expr functions fuel here condition m = some (.ok value, n))
    (unlike : value.kind ≠ .boolean) :
    StopsWith (do
      let value ← expr functions fuel here condition
      let holds ← Eval.ofExcept value.expectBool
      rest value holds) m (some ⟨.typeMismatch "boolean" value.kind, m.line⟩) := by
  have line := GoesBack.line_eq (expr_goesOn functions fuel here condition) done
  refine .after done (.bind ⟨n, ?_, line⟩)
  rw [Value.expectBool_of_kind unlike]
  rfl

lemma FirstTest.stops (tests : FirstTest span p q) (yields : q.Yields functions value)
    (unlike : value.kind ≠ .boolean) :
    p.StopsWith functions (some ⟨.typeMismatch "boolean" value.kind, q.machine.line⟩) := by
  cases tests with
  | ifThen enters =>
    obtain ⟨_, _, _, ⟨⟩, done⟩ := yields
    change Eval.StopsWith (stmt functions _ _ _) _ _
    rw [stmt_ifThen]
    exact .after enters (stopsWith_test done unlike)
  | whileDo enters =>
    obtain ⟨_, _, _, ⟨⟩, done⟩ := yields
    change Eval.StopsWith (stmt functions _ _ _) _ _
    rw [stmt]
    exact .after enters (stopsWith_test done unlike)

/-- A loop whose condition is tested again stops in a round. -/
lemma Retest.stops (tests : Retest functions span condition body p q)
    (yields : q.Yields functions value) (unlike : value.kind ≠ .boolean) :
    p.StopsWith functions (some ⟨.typeMismatch "boolean" value.kind, q.machine.line⟩) := by
  cases tests with
  | @mk fuel here m n round done =>
    refine Point.StopsWith.of_comesTo ?_ round.comesTo
    obtain ⟨_, _, _, ⟨⟩, done'⟩ := yields
    change Eval.StopsWith (rounds functions (fuel + 1) here condition body) m _
    rw [rounds]
    exact .after done (stopsWith_test done' unlike)

end

/-- **Where a condition of another kind than `boolean` is reported.**  Take a conditional or a loop
with a known position, in any function that a run passes through.  If its condition comes to a value
of another kind when the statement is entered, then the run fails, at the line of the statement.
If the condition of a loop does so after any number of rounds, then the run fails, at the line
where the last round has ended.  That line is the line of the loop or of a statement in its body. -/
theorem Session.condition_fault_lines {s : Session} {fuel : Nat} {p q : Point} {span : Span}
    {value : Value} (passes : s.Passes fuel p) (known : span.isKnown = true)
    (yields : q.Yields s.declarations.find? value) (unlike : value.kind ≠ .boolean) :
    (FirstTest span p q →
      s.FailsAt fuel (.typeMismatch "boolean" value.kind) span.startLine) ∧
    ∀ condition body, Retest s.declarations.find? span condition body p q →
      s.FailsAt fuel (.typeMismatch "boolean" value.kind) q.machine.line ∧
        (q.machine.line = span.startLine ∨ LineIn body.stmts q.machine.line) := by
  constructor
  · intro tests
    rw [← tests.line_eq known]
    exact run_of_stops passes (tests.stops yields unlike)
  · intro condition body tests
    exact ⟨run_of_stops passes (tests.stops yields unlike), tests.line known⟩

/-! ### A loop whose condition changes its kind -/

/-- A body that makes an integer of the condition. -/
def fickleBody : Block :=
  .ofStmts [.assign (.var ⟨"c", .ofLine 4⟩) (.integer 1 (.ofLine 4)) (.ofLine 4)]

/-- The condition. -/
def fickleCondition : Expr := .var "c" (.ofLine 3)

/-- A program with a loop at line 3, the condition of which is no truth value after a round. -/
def fickleProgram : Program where
  functions :=
    [⟨⟨"main", .ofLine 1⟩, [], none,
      .ofStmts [.assign (.var ⟨"c", .ofLine 2⟩) (.boolean true (.ofLine 2)) (.ofLine 2),
        .whileDo fickleCondition fickleBody (.ofLine 3)],
      .ofLine 1⟩]
  span := .ofLine 1

/-- The session of that program. -/
def fickleSession : Session :=
  ⟨⟨fickleProgram.functions⟩, .standard, false, Session.initialMachine ⟨[], []⟩ none⟩

/-- The machine in which the loop is entered. -/
def atFickleLoop : Machine :=
  { fickleSession.started with
    memory := (fickleSession.started.memory.enter "main" 0 []).define "c" (.boolean true)
    transcript := fickleSession.started.transcript.emit (Cursor.top .live).deeper "c = true"
    line := 2 }

/-- The machine in which the first round starts. -/
def inFickleLoop : Machine :=
  { atFickleLoop with
    transcript := atFickleLoop.transcript.emit (Cursor.top .live).deeper "while c"
    line := 3 }

/-- The machine in which the first round ends. -/
def afterFickleRound : Machine :=
  { inFickleLoop with
    memory := inFickleLoop.memory.define "c" (.integer 1)
    transcript := inFickleLoop.transcript.emit (Cursor.top .live).deeper.deeper "c = 1"
    line := 4 }

lemma passes_fickleLoop : fickleSession.Passes 20
    ⟨17, .stmt (Cursor.top .live).deeper (.whileDo fickleCondition fickleBody (.ofLine 3)),
      atFickleLoop⟩ := by
  let entered : Machine :=
    { fickleSession.started with
      memory := fickleSession.started.memory.enter "main" 0 []
      line := 1 }
  have assigned : stmt fickleSession.declarations.find? 18 (Cursor.top .live).deeper
      (.assign (.var ⟨"c", .ofLine 2⟩) (.boolean true (.ofLine 2)) (.ofLine 2)) entered =
    some (.ok none, atFickleLoop) := rfl
  exact ⟨_, rfl,
    .tail (.tail (.tail .refl (.body rfl)) (.nextStmts assigned (Or.inl rfl))) .stmt⟩

lemma retest_fickleLoop :
    Retest fickleSession.declarations.find? (.ofLine 3) fickleCondition fickleBody
      ⟨17, .stmt (Cursor.top .live).deeper (.whileDo fickleCondition fickleBody (.ofLine 3)),
        atFickleLoop⟩
      ⟨14, .expr ((Cursor.top .live).deeper.inPhase .silent) fickleCondition,
        afterFickleRound⟩ := by
  have tested : test fickleSession.declarations.find? 16 (Cursor.top .live).deeper (.ofLine 3)
    "while " fickleCondition atFickleLoop = some (.ok true, inFickleLoop) := rfl
  have done : stmts fickleSession.declarations.find? 14 (Cursor.top .live).deeper.deeper
    fickleBody.stmts inFickleLoop = some (.ok none, afterFickleRound) := rfl
  exact .mk (.first rfl tested) done

lemma yields_fickleCondition :
    Point.Yields fickleSession.declarations.find?
      ⟨14, .expr ((Cursor.top .live).deeper.inPhase .silent) fickleCondition, afterFickleRound⟩
      ((Value.integer 1).withText "c") :=
  ⟨_, _, _, rfl, rfl⟩

/-- The run fails at line 4, where the loop is at line 3. -/
theorem Session.condition_fault_lines_fickle :
    fickleSession.FailsAt 20 (.typeMismatch "boolean" .integer) 4 ∧
      LineIn fickleBody.stmts 4 := by
  have known : (Span.ofLine 3).isKnown = true := rfl
  obtain ⟨-, again⟩ := Session.condition_fault_lines passes_fickleLoop known yields_fickleCondition
    (by decide)
  obtain ⟨fails, line⟩ := again _ _ retest_fickleLoop
  exact ⟨fails, line.resolve_left (by decide)⟩

/-- It is not true of a retest that the fault is reported at the line of the loop. -/
theorem Session.retest_fault_elsewhere :
    ¬∀ (s : Session) (fuel : Nat) (p q : Point) (span : Span) (condition : Expr) (body : Block)
      (value : Value), s.Reached → s.Passes fuel p → span.isKnown = true →
      Retest s.declarations.find? span condition body p q →
      q.Yields s.declarations.find? value → value.kind ≠ .boolean →
      s.FailsAt fuel (.typeMismatch "boolean" value.kind) span.startLine := by
  intro located
  have loaded : Session.load fickleProgram .standard ⟨[], []⟩ (fun _ => .error (.io "")) =
    .ok fickleSession := rfl
  have known : (Span.ofLine 3).isKnown = true := rfl
  obtain ⟨t, failed⟩ := located _ _ _ _ _ _ _ _ (.load loaded) passes_fickleLoop known
    retest_fickleLoop yields_fickleCondition (by decide)
  have fails : (fickleSession.run 20).map Prod.fst =
      some (.error ⟨.typeMismatch "boolean" .integer, 4⟩) := by decide +kernel
  rw [failed] at fails
  cases fails

end RobotScribe
