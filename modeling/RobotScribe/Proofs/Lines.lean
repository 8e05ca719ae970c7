/-
# The line after a computation

A computation that is not stopped by a fault goes on at the line where it started, or at a line that
it has entered in between (`GoesOn`).  Expressions and calls go back to the line where they started.
Statements do not: they go on at the line that was entered last, which is the line of one of them or
of a statement inside of them (`LineIn`).
-/
import RobotScribe.Proofs.Computation

namespace RobotScribe

/-- There is a statement with a known position at a line: it is one of some statements, or it is in
a block of one of them. -/
inductive LineIn : List Stmt → UInt32 → Prop where
  | statement {s statements} (mem : s ∈ statements) (known : s.span.isKnown = true) :
    LineIn statements s.span.startLine
  | thenBlock {condition block elseBlock span statements line}
    (mem : .ifThen condition block elseBlock span ∈ statements) (inside : LineIn block.stmts line) :
    LineIn statements line
  | elseBlock {condition thenBlock block span statements line}
    (mem : .ifThen condition thenBlock (some block) span ∈ statements)
    (inside : LineIn block.stmts line) : LineIn statements line
  | body {condition block span statements line}
    (mem : .whileDo condition block span ∈ statements) (inside : LineIn block.stmts line) :
    LineIn statements line

lemma LineIn.mono {statements more : List Stmt} {line : UInt32} (h : LineIn statements line)
    (sub : statements ⊆ more) : LineIn more line := by
  cases h with
  | statement mem known => exact .statement (sub mem) known
  | thenBlock mem inside => exact .thenBlock (sub mem) inside
  | elseBlock mem inside => exact .elseBlock (sub mem) inside
  | body mem inside => exact .body (sub mem) inside

namespace Eval

variable {α β : Type}

/-- Unless a fault stops it, a computation goes on at the line where it started, or at one of some
other lines. -/
def GoesOn (lines : UInt32 → Prop) (x : Eval α) : Prop :=
  ∀ ⦃m a n⦄, x m = some (.ok a, n) → n.line = m.line ∨ lines n.line

/-- Unless a fault stops it, a computation goes on at the line where it started. -/
abbrev GoesBack (x : Eval α) : Prop := GoesOn (fun _ => False) x

lemma GoesBack.line_eq {x : Eval α} (back : GoesBack x) {m n : Machine} {a : α}
    (done : x m = some (.ok a, n)) : n.line = m.line :=
  (back done).resolve_right not_false

namespace GoesOn

variable {lines : UInt32 → Prop}

/-! ## Ways to go on -/

lemma outOfFuel : GoesOn lines (outOfFuel : Eval α) := by
  intro m a n done
  cases done

lemma bind {x : Eval α} {f : α → Eval β} (first : GoesOn lines x)
    (second : ∀ a, GoesOn lines (f a)) : GoesOn lines (x >>= f) := by
  intro m b n done
  obtain ⟨a, l, done, done'⟩ := bind_eq_ok.mp done
  rcases second a done' with back | entered
  · exact back ▸ first done
  · exact Or.inr entered

/-- A computation that leaves the line alone. -/
lemma of_step {x : Eval α} (outcome : Machine → Except Fault α) (step : Machine → Machine)
    (steps : ∀ m, x m = some (outcome m, step m)) (keeps : ∀ m, (step m).line = m.line) :
    GoesOn lines x := by
  intro m a n done
  obtain rfl : step m = n := (Prod.ext_iff.mp (Option.some.inj ((steps m).symm.trans done))).2
  exact Or.inl (keeps m)

lemma ofExcept (outcome : Except Fault α) : GoesOn lines (ofExcept outcome) :=
  of_step (fun _ => outcome) id (fun _ => rfl) fun _ => rfl

lemma pure (a : α) : GoesOn lines (pure a : Eval α) := ofExcept (.ok a)

lemma throw (fault : Fault) : GoesOn lines (throw fault : Eval α) := ofExcept (.error fault)

lemma slotOf (name : String) : GoesOn lines (slotOf name) :=
  of_step (fun m => .ok (m.memory.slot? name)) id (fun _ => rfl) fun _ => rfl

lemma newSlot (value : Value) : GoesOn lines (newSlot value) :=
  of_step (fun m => .ok m.memory.store.next) (fun m => { m with memory := m.memory.alloc value })
    (fun _ => rfl) fun _ => rfl

lemma define (name : String) (value : Value) : GoesOn lines (define name value) :=
  of_step (fun _ => .ok ()) (fun m => { m with memory := m.memory.define name value })
    (fun _ => rfl) fun _ => rfl

lemma storeElement (name : String) (index : Int64) (element : Value) :
    GoesOn lines (storeElement name index element) := by
  intro m a n done
  unfold Eval.storeElement at done
  split at done
  · cases done
    exact Or.inl rfl
  · cases done
    exact Or.inl rfl

lemma nextInteger : GoesOn lines nextInteger :=
  of_step (fun m => m.input.nextInteger.1) (fun m => { m with input := m.input.nextInteger.2 })
    (fun _ => rfl) fun _ => rfl

lemma emit (here : Cursor) (text : String) : GoesOn lines (emit here text) :=
  of_step (fun _ => .ok ()) (fun m => { m with transcript := m.transcript.emit here text })
    (fun _ => rfl) fun _ => rfl

lemma mark (here : Cursor) (text : String) : GoesOn lines (mark here text) :=
  of_step (fun _ => .ok ()) (fun m => { m with transcript := m.transcript.mark here text })
    (fun _ => rfl) fun _ => rfl

lemma enterSpan {span : Span} (known : span.isKnown = true → lines span.startLine) :
    GoesOn lines (enterSpan span) := by
  intro m a n done
  unfold Eval.enterSpan at done
  split at done
  · cases done
    exact Or.inr (known ‹_›)
  · cases done
    exact Or.inl rfl

lemma atSpan (span : Span) (x : Eval α) : GoesOn lines (atSpan span x) := by
  intro m a n done
  rw [Eval.atSpan, currentLine_bind] at done
  obtain ⟨_, _, _, done⟩ := bind_eq_ok.mp done
  obtain ⟨_, _, _, done⟩ := bind_eq_ok.mp done
  cases done
  exact Or.inl rfl

lemma takingBack (body : Eval Unit) : GoesOn lines (takingBack body) := by
  intro m a n done
  obtain ⟨l, -, rfl⟩ := takingBack_eq_some.mp done
  exact Or.inl rfl

end GoesOn

/-! ## Expressions and calls -/

section

variable {lines : UInt32 → Prop} (functions : String → Option Function) (fuel : Nat) (here : Cursor)

lemma expr_goesOn (e : Expr) : GoesOn lines (expr functions fuel here e) := by
  cases fuel with
  | zero => exact .outOfFuel
  | succ fuel =>
    rw [expr_succ]
    exact .atSpan _ _

lemma sense_goesOn (sensor : Sensor) : GoesOn lines (sense functions fuel here sensor) := by
  cases fuel with
  | zero => exact .outOfFuel
  | succ fuel =>
    cases sensor with
    | look direction =>
      rw [sense]
      exact .bind (expr_goesOn functions fuel here direction) fun _ =>
        .bind (.ofExcept _) fun _ => .pure _
    | _ => exact .pure _

lemma argument_goesOn (function : Function) (param : Param) (arg : Expr) :
    GoesOn lines (argument functions fuel here function param arg) := by
  cases fuel with
  | zero => exact .outOfFuel
  | succ fuel =>
    rw [argument]
    split
    · split
      · exact .throw _
      · refine .bind (.slotOf _) fun slot => ?_
        cases slot with
        | some slot => exact .pure slot
        | none =>
          dsimp only
          split
          · exact .newSlot _
          · exact .throw _
    · exact .bind (expr_goesOn functions fuel here arg) fun value => .newSlot value

lemma arguments_goesOn (function : Function) (params : List Param) (args : List Expr) :
    GoesOn lines (arguments functions fuel here function params args) := by
  induction fuel generalizing params args with
  | zero => exact .outOfFuel
  | succ fuel ih =>
    unfold arguments
    split
    · exact .bind (argument_goesOn functions fuel here function _ _) fun slot =>
        .bind (ih _ _) fun slots => .pure _
    · exact .pure _

lemma runFunction_goesOn (function : Function) (slots : List Slot) :
    GoesOn lines (runFunction functions fuel here function slots) := by
  cases fuel with
  | zero => exact .outOfFuel
  | succ fuel =>
    intro m result n done
    rw [runFunction_succ, currentLine_bind] at done
    obtain ⟨_, _, -, done⟩ := bind_eq_ok.mp done
    obtain ⟨flow, l, -, done⟩ := bind_eq_ok.mp done
    rw [leave, currentLine_bind] at done
    obtain ⟨_, _, -, done⟩ := bind_eq_ok.mp done
    obtain ⟨_, _, -, done⟩ := bind_eq_ok.mp done
    cases done
    exact Or.inl rfl

lemma call_goesOn (site : Call) : GoesOn lines (call functions fuel here site) := by
  cases fuel with
  | zero => exact .outOfFuel
  | succ fuel =>
    cases declared : functions site.name.name with
    | none =>
      rw [call_of_undeclared functions declared]
      exact .throw _
    | some function =>
      rw [call_of_declared functions declared]
      split
      · exact .throw _
      · refine .bind (arguments_goesOn functions fuel here function _ _) fun slots =>
          .bind (.mark _ _) fun _ => ?_
        split
        · exact .bind (runFunction_goesOn functions fuel _ function slots) fun _ => .pure _
        · exact .pure _

lemma numbers_goesOn (args : List Expr) : GoesOn lines (numbers functions fuel here args) := by
  induction fuel generalizing args with
  | zero => exact .outOfFuel
  | succ fuel ih =>
    unfold numbers
    split
    · exact .pure _
    · exact .bind (expr_goesOn functions fuel here _) fun _ =>
        .bind (.ofExcept _) fun _ => .bind (ih _) fun _ => .pure _

lemma writeOut_goesOn (statements : List Stmt) :
    GoesOn lines (writeOut functions fuel here statements) := by
  cases fuel with
  | zero => exact .outOfFuel
  | succ fuel =>
    rw [writeOut]
    exact .takingBack _

lemma leaveOut_goesOn (statements : List Stmt) (flow : Flow) :
    GoesOn lines (leaveOut functions fuel here statements flow) := by
  unfold leaveOut
  split
  · exact .bind (writeOut_goesOn functions fuel here statements) fun _ => .pure flow
  · exact .pure flow

end

/-! ## Statements -/

/-- Statements go on at the line where they started, or at that of a statement among them. -/
structure Lined (functions : String → Option Function) (fuel : Nat) : Prop where
  stmts {lines} (here : Cursor) (statements : List Stmt)
    (known : ∀ line, LineIn statements line → lines line) :
    GoesOn lines (stmts functions fuel here statements)
  stmt {lines} (here : Cursor) (s : Stmt) (known : ∀ line, LineIn [s] line → lines line) :
    GoesOn lines (stmt functions fuel here s)
  branch {lines} (here : Cursor) (block : Block) (taken : Bool)
    (known : ∀ line, LineIn block.stmts line → lines line) :
    GoesOn lines (branch functions fuel here block taken)
  firstRound {lines} (here : Cursor) (condition : Expr) (body : Block) (entered : Bool)
    (known : ∀ line, LineIn body.stmts line → lines line) :
    GoesOn lines (firstRound functions fuel here condition body entered)
  rounds {lines} (here : Cursor) (condition : Expr) (body : Block)
    (known : ∀ line, LineIn body.stmts line → lines line) :
    GoesOn lines (rounds functions fuel here condition body)

namespace Lined

section

variable {functions : String → Option Function} {fuel : Nat} {lines : UInt32 → Prop}
  (ih : Lined functions fuel) (here : Cursor)
include ih

lemma stmts_succ (statements : List Stmt) (known : ∀ line, LineIn statements line → lines line) :
    GoesOn lines (Eval.stmts functions (fuel + 1) here statements) := by
  cases statements with
  | nil =>
    rw [Eval.stmts]
    exact .pure none
  | cons s rest =>
    have first := ih.stmt here s fun line inside => known line (inside.mono (by simp))
    have others := ih.stmts here rest fun line inside => known line (inside.mono (by simp))
    rw [Eval.stmts]
    refine .bind first fun flow => ?_
    cases flow with
    | none => exact others
    | some value =>
      dsimp only
      split
      · exact others
      · exact .bind (writeOut_goesOn functions fuel here rest) fun _ => .pure _
      · exact .pure _

lemma stmt_succ (s : Stmt) (known : ∀ line, LineIn [s] line → lines line) :
    GoesOn lines (Eval.stmt functions (fuel + 1) here s) := by
  have value (e : Expr) : GoesOn lines (expr functions fuel here e) :=
    expr_goesOn functions fuel here e
  have entered : GoesOn lines (enterSpan s.span) :=
    .enterSpan fun placed => known _ (.statement List.mem_cons_self placed)
  cases s with
  | assign target e span =>
    cases target with
    | var target =>
      rw [Eval.stmt]
      exact .bind entered fun _ => .bind (value e) fun _ => .bind (.emit _ _) fun _ =>
        .bind (.define _ _) fun _ => .pure _
    | element array index =>
      rw [Eval.stmt]
      exact .bind entered fun _ => .bind (value e) fun _ => .bind (value index) fun _ =>
        .bind (.ofExcept _) fun _ => .bind (.emit _ _) fun _ =>
          .bind (.storeElement _ _ _) fun _ => .bind (.ofExcept _) fun _ => .pure _
  | ifThen condition thenBlock elseBlock span =>
    have first (taken : Bool) := ih.branch here thenBlock taken fun line inside =>
      known line (.thenBlock List.mem_cons_self inside)
    rw [stmt_ifThen]
    refine .bind entered fun _ => .bind (value condition) fun _ => .bind (.ofExcept _) fun taken =>
      .bind (.emit _ _) fun _ => .bind (first taken) fun flow => .bind ?_ fun _ =>
        .bind (.emit _ _) fun _ => .pure _
    cases elseBlock with
    | none => exact .pure flow
    | some elseBlock =>
      have second := ih.branch here elseBlock (!taken) fun line inside =>
        known line (.elseBlock List.mem_cons_self inside)
      exact .bind (.emit _ _) fun _ => .bind second fun _ => .pure _
  | whileDo condition body span =>
    have round (entered : Bool) := ih.firstRound here condition body entered fun line inside =>
      known line (.body List.mem_cons_self inside)
    rw [Eval.stmt]
    exact .bind entered fun _ => .bind (value condition) fun _ => .bind (.ofExcept _) fun running =>
      .bind (.emit _ _) fun _ => .bind (round running) fun _ => .bind (.emit _ _) fun _ => .pure _
  | giveBack given span =>
    cases given with
    | none =>
      rw [Eval.stmt]
      exact .bind entered fun _ => .bind (.emit _ _) fun _ => .pure _
    | some e =>
      rw [Eval.stmt]
      exact .bind entered fun _ => .bind (value e) fun _ => .bind (.emit _ _) fun _ => .pure _
  | read target span =>
    rw [Eval.stmt]
    refine .bind entered fun _ => ?_
    split
    · exact .bind .nextInteger fun _ => .bind (.define _ _) fun _ => .pure _
    · exact .bind (.define _ _) fun _ => .pure _
  | write e span =>
    rw [Eval.stmt]
    exact .bind entered fun _ => .bind (value e) fun _ => .bind (.emit _ _) fun _ => .pure _
  | actuate actuator args span =>
    rw [Eval.stmt]
    exact .bind entered fun _ => .bind (numbers_goesOn functions fuel here args) fun _ =>
      .bind (.emit _ _) fun _ => .pure _
  | paint color span =>
    rw [Eval.stmt]
    exact .bind entered fun _ => .bind (value color) fun _ => .bind (.ofExcept _) fun _ =>
      .bind (.emit _ _) fun _ => .pure _
  | pen down span =>
    rw [Eval.stmt]
    exact .bind entered fun _ => .bind (.emit _ _) fun _ => .pure _
  | sense sensor span =>
    rw [Eval.stmt]
    exact .bind entered fun _ => .bind (sense_goesOn functions fuel here sensor) fun _ =>
      .bind (.emit _ _) fun _ => .pure _
  | call site =>
    rw [Eval.stmt]
    exact .bind entered fun _ => .bind (call_goesOn functions fuel here site) fun _ => .pure _

lemma branch_succ (block : Block) (taken : Bool)
    (known : ∀ line, LineIn block.stmts line → lines line) :
    GoesOn lines (Eval.branch functions (fuel + 1) here block taken) := by
  have inside := ih.stmts here.deeper block.stmts known
  cases runs : here.phase.executes with
  | true =>
    rw [branch_of_executes functions runs]
    split
    · exact inside
    · exact leaveOut_goesOn functions fuel _ _ _
  | false =>
    rw [branch_of_dry functions (Phase.eq_dry_of_executes runs)]
    exact .bind inside fun _ => .pure _

lemma firstRound_succ (condition : Expr) (body : Block) (entered : Bool)
    (known : ∀ line, LineIn body.stmts line → lines line) :
    GoesOn lines (Eval.firstRound functions (fuel + 1) here condition body entered) := by
  cases runs : here.phase.executes with
  | true =>
    rw [firstRound_of_executes functions runs]
    split
    · exact ih.rounds here condition body known
    · exact leaveOut_goesOn functions fuel _ _ _
  | false =>
    rw [firstRound_of_dry functions (Phase.eq_dry_of_executes runs)]
    exact .bind (ih.stmts here.deeper body.stmts known) fun _ => .pure _

lemma rounds_succ (condition : Expr) (body : Block)
    (known : ∀ line, LineIn body.stmts line → lines line) :
    GoesOn lines (Eval.rounds functions (fuel + 1) here condition body) := by
  rw [Eval.rounds]
  refine .bind (ih.stmts here.deeper body.stmts known) fun flow => ?_
  cases flow with
  | some value => exact .pure _
  | none =>
    refine .bind (expr_goesOn functions fuel _ condition) fun _ =>
      .bind (.ofExcept _) fun again => ?_
    split
    · exact ih.rounds _ condition body known
    · exact .pure _

end

theorem everywhere (functions : String → Option Function) (fuel : Nat) : Lined functions fuel := by
  induction fuel with
  | zero =>
    constructor
    all_goals
      intros
      exact .outOfFuel
  | succ fuel ih =>
    exact
      { stmts := fun here => ih.stmts_succ here
        stmt := fun here => ih.stmt_succ here
        branch := fun here => ih.branch_succ here
        firstRound := fun here => ih.firstRound_succ here
        rounds := fun here => ih.rounds_succ here }

end Lined

/-- After statements, the line is the one before them, or that of a statement among them. -/
theorem line_after_stmts {functions : String → Option Function} {fuel : Nat} {here : Cursor}
    {statements : List Stmt} {m n : Machine} {flow : Flow}
    (done : stmts functions fuel here statements m = some (.ok flow, n)) :
    n.line = m.line ∨ LineIn statements n.line :=
  (Lined.everywhere functions fuel).stmts here statements (fun _ inside => inside) done

end Eval

end RobotScribe
