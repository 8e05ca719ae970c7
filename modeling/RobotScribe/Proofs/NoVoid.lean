/-
# No variable is without a value

What is assigned, read, stored in an array, returned or handed over as a copy has been computed by
an expression, and an expression has a value, for a call in an expression has to yield one.  Slots
that are handed over as they are have names in the caller's frame.  So no evaluation stores `void`:
by induction over the fuel, each part of the evaluator keeps the variables of the frames above the
base filled (`Upholds`).

A dry call has no slots to speak of.  What it is handed may be `void`, if a parameter is declared
so, but it is not made.
-/
import RobotScribe.Proofs.Filled
import RobotScribe.Proofs.Footprint
import RobotScribe.Proofs.Points

namespace RobotScribe

/-! ## Computations -/

namespace Eval

/-- What is upheld when a computation ends.  After a fault frames may be left behind, and they are
furnished, too. -/
inductive Upheld {α : Type} (base : List Frame) (holds : α → Prop) (m n : Machine) :
    Except Fault α → Prop where
  | ok {a : α} (inside : n.memory.Inside base)
      (keeps : Store.Keeps m.memory.store n.memory.store) (result : holds a) :
      Upheld base holds m n (.ok a)
  | error {fault : Fault} (furnished : n.memory.Furnished base) :
      Upheld base holds m n (.error fault)

/-- A computation that gives values to variables only, and whose result is as it should be. -/
def Upholds {α : Type} (base : List Frame) (x : Eval α) (holds : α → Prop) : Prop :=
  ∀ ⦃m outcome n⦄, m.memory.Inside base → x m = some (outcome, n) →
    Upheld base holds m n outcome

/-- A result that is a value. -/
abbrev Full (value : Value) : Prop := value.isVoid = false

/-- Any result. -/
abbrev Any {α : Type} (_ : α) : Prop := True

section

variable {α β : Type} {base : List Frame} {holds : α → Prop} {holds' : β → Prop}

lemma Upheld.furnished {m n : Machine} {outcome : Except Fault α}
    (h : Upheld base holds m n outcome) : n.memory.Furnished base := by
  cases h with
  | ok inside keeps result => exact inside.furnished
  | error furnished => exact furnished

lemma Upheld.after {l m n : Machine} {outcome : Except Fault α}
    (keeps : Store.Keeps l.memory.store m.memory.store) (h : Upheld base holds m n outcome) :
    Upheld base holds l n outcome := by
  cases h with
  | ok inside later result => exact .ok inside (keeps.trans later) result
  | error furnished => exact .error furnished

end

namespace Upholds

variable {α β : Type} {base : List Frame} {functions : String → Option Function} {fuel : Nat}
  {here : Cursor} {holds : α → Prop} {holds' : β → Prop}

/-- A computation that leaves the memory alone. -/
lemma of_step {x : Eval α} (result : Machine → Except Fault α) (step : Machine → Machine)
    (steps : ∀ m, x m = some (result m, step m)) (kept : ∀ m, (step m).memory = m.memory)
    (as : ∀ m : Machine, m.memory.Inside base → ∀ a, result m = .ok a → holds a) :
    Upholds base x holds := by
  intro m outcome n inside ran
  rw [steps] at ran
  cases ran
  cases stop : result m with
  | error fault =>
    refine .error ?_
    rw [kept]
    exact inside.furnished
  | ok a =>
    refine .ok ?_ ?_ (as m inside a stop)
    · rw [kept]
      exact inside
    · rw [kept]
      exact .refl _

lemma bind {x : Eval α} {f : α → Eval β} (first : Upholds base x holds)
    (second : ∀ a, holds a → Upholds base (f a) holds') : Upholds base (x >>= f) holds' := by
  intro m outcome n inside ran
  rcases bind_eq_some.mp ran with ⟨fault, rfl, stopped⟩ | ⟨a, l, done, ran⟩
  · exact .error (first inside stopped).furnished
  · cases first inside done with
    | ok inside' keeps result => exact (second a result inside' ran).after keeps

lemma outOfFuel : Upholds base (outOfFuel : Eval α) holds := fun _ _ _ _ ran => by cases ran

lemma ofExcept {outcome : Except Fault α} (as : ∀ a, outcome = .ok a → holds a) :
    Upholds base (ofExcept outcome) holds :=
  of_step (fun _ => outcome) id (fun _ => rfl) (fun _ => rfl) fun _ _ => as

lemma pure {a : α} (result : holds a) : Upholds base (pure a : Eval α) holds :=
  ofExcept fun b same => by
    cases same
    exact result

lemma throw (fault : Fault) : Upholds base (throw fault : Eval α) holds :=
  ofExcept fun a same => by cases same

/-- What stands in for a value is a value. -/
lemma orStandIn (phase : Phase) {fallback : Value} {outcome : Except Fault Value}
    (standsIn : Full fallback) (as : ∀ value, outcome = .ok value → Full value) :
    Upholds base (Eval.ofExcept (orStandIn phase fallback outcome)) Full := by
  refine ofExcept fun a same => ?_
  cases outcome with
  | ok b => exact as a same
  | error fault =>
    unfold Eval.orStandIn at same
    dsimp only at same
    split at same
    · cases same
      exact standsIn
    · cases same

lemma test {outcome : Except Fault α} : Upholds base (Eval.ofExcept outcome) Any :=
  ofExcept fun _ _ => trivial

lemma setLine (line : UInt32) : Upholds base (setLine line) Any :=
  of_step (fun _ => .ok ()) ({ · with line }) (fun _ => rfl) (fun _ => rfl) fun _ _ _ _ => trivial

lemma currentLine : Upholds base currentLine Any :=
  of_step (fun m => .ok m.line) id (fun _ => rfl) (fun _ => rfl) fun _ _ _ _ => trivial

lemma enterSpan (span : Span) : Upholds base (enterSpan span) Any := by
  unfold Eval.enterSpan
  split
  · exact setLine _
  · exact pure trivial

lemma emit (here : Cursor) (text : String) : Upholds base (emit here text) Any :=
  of_step (fun _ => .ok ()) (fun m => { m with transcript := m.transcript.emit here text })
    (fun _ => rfl) (fun _ => rfl) fun _ _ _ _ => trivial

lemma nextInteger : Upholds base nextInteger Any :=
  of_step (fun m => m.input.nextInteger.1) (fun m => { m with input := m.input.nextInteger.2 })
    (fun _ => rfl) (fun _ => rfl) fun _ _ _ _ => trivial

lemma lookup (name : String) :
    Upholds base (lookup name) fun found => ∀ value, found = .ok value → Full value :=
  of_step (fun m => .ok (m.memory.get name)) id (fun _ => rfl) (fun _ => rfl)
    fun m inside found same value has => by
      cases same
      exact inside.full_of_get has

lemma define (name : String) {value : Value} (full : Full value) :
    Upholds base (define name value) Any := by
  intro m outcome n inside ran
  cases ran
  obtain ⟨inside', keeps⟩ := inside.define name full
  exact .ok inside' keeps trivial

lemma storeElement (name : String) (index : Int64) (element : Value) :
    Upholds base (storeElement name index element) Any := by
  intro m outcome n inside ran
  unfold Eval.storeElement at ran
  split at ran
  · next memory stored =>
    cases ran
    obtain ⟨inside', keeps⟩ := inside.storeElement stored
    exact .ok inside' keeps trivial
  · cases ran
    exact .ok inside (.refl _) trivial

end Upholds

/-! ## The evaluator -/

/-- Slots that hold values. -/
abbrev Holds (m : Machine) (slots : List Slot) : Prop :=
  ∀ slot ∈ slots, Full (m.memory.store.read slot)

/-- Each part of the evaluator upholds the invariant, with so much fuel.  The slots that are
gathered for a call hold values, unless the call is not made. -/
structure Valued (functions : String → Option Function) (base : List Frame) (fuel : Nat) :
    Prop where
  expr (here : Cursor) (e : Expr) : Upholds base (expr functions fuel here e) Full
  form (here : Cursor) (e : Expr) : Upholds base (form functions fuel here e) Full
  sense (here : Cursor) (sensor : Sensor) : Upholds base (sense functions fuel here sensor) Full
  call (here : Cursor) (site : Call) : Upholds base (call functions fuel here site) Any
  arguments (here : Cursor) (function : Function) (params : List Param) (args : List Expr)
    ⦃m outcome n⦄ (inside : m.memory.Inside base)
    (ran : arguments functions fuel here function params args m = some (outcome, n)) :
    Upheld base (fun slots => here.phase.executes = true → Holds n slots) m n outcome
  argument (here : Cursor) (function : Function) (param : Param) (arg : Expr)
    ⦃m outcome n⦄ (inside : m.memory.Inside base)
    (ran : argument functions fuel here function param arg m = some (outcome, n)) :
    Upheld base (fun slot => here.phase.executes = true → Full (n.memory.store.read slot)) m n
      outcome
  runFunction (body : Cursor) (function : Function) (slots : List Slot) ⦃m outcome n⦄
    (furnished : m.memory.Furnished base) (full : Holds m slots)
    (ran : runFunction functions fuel body function slots m = some (outcome, n)) :
    n.memory.Furnished base ∧
      ∀ value, outcome = .ok value → Store.Keeps m.memory.store n.memory.store
  stmts (here : Cursor) (statements : List Stmt) :
    Upholds base (stmts functions fuel here statements) Any
  stmt (here : Cursor) (s : Stmt) : Upholds base (stmt functions fuel here s) Any
  branch (here : Cursor) (block : Block) (taken : Bool) :
    Upholds base (branch functions fuel here block taken) Any
  firstRound (here : Cursor) (condition : Expr) (body : Block) (entered : Bool) :
    Upholds base (firstRound functions fuel here condition body entered) Any
  rounds (here : Cursor) (condition : Expr) (body : Block) :
    Upholds base (rounds functions fuel here condition body) Any
  numbers (here : Cursor) (args : List Expr) :
    Upholds base (numbers functions fuel here args) Any

/-- Code that is written out leaves the memory as it was. -/
lemma upholds_writeOut {functions : String → Option Function} {fuel : Nat} {base : List Frame}
    (here : Cursor) (statements : List Stmt) :
    Upholds base (writeOut functions fuel here statements) Any := by
  intro m outcome n inside ran
  obtain ⟨writes, -⟩ := Footprint.onlyWrites_of_writeOut functions ran
  have memory : n.memory = m.memory := writes.memory
  cases outcome with
  | error fault => exact .error (memory ▸ inside.furnished)
  | ok done => exact .ok (memory ▸ inside) (memory ▸ .refl _) trivial

lemma upholds_leaveOut {functions : String → Option Function} {fuel : Nat} {base : List Frame}
    (here : Cursor) (statements : List Stmt) (flow : Flow) :
    Upholds base (leaveOut functions fuel here statements flow) Any := by
  unfold leaveOut
  split
  · exact .bind (upholds_writeOut here statements) fun _ _ => .pure trivial
  · exact .pure trivial

/-- The body of a function starts inside, with the slots that were handed over. -/
lemma inside_of_enter {base : List Frame} {function : Function} {slots : List Slot}
    {callLine : UInt32} {m n : Machine} (furnished : m.memory.Furnished base)
    (full : Holds m slots) (entered : enter function slots callLine m = some (.ok (), n)) :
    n.memory.Inside base := by
  obtain ⟨trace, rfl⟩ := Footprint.enter_eq_ok entered
  refine furnished.enter _ _ fun slot mem => ?_
  obtain ⟨⟨name, bound⟩, zipped, rfl⟩ := List.mem_map.mp mem
  exact full _ (List.of_mem_zip zipped).2

namespace Valued

variable {functions : String → Option Function} {base : List Frame} {fuel : Nat}

section

variable (ih : Valued functions base fuel)
include ih

lemma expr_succ (here : Cursor) (e : Expr) :
    Upholds base (Eval.expr functions (fuel + 1) here e) Full := by
  rw [Eval.expr]
  refine .bind .currentLine fun outer _ => .bind (.enterSpan _) fun _ _ => ?_
  exact .bind (ih.form here e) fun value full => .bind (.setLine _) fun _ _ => .pure full

/-- A call has to yield a value, and everything else that is put together yields one. -/
lemma form_succ (here : Cursor) (e : Expr) :
    Upholds base (Eval.form functions (fuel + 1) here e) Full := by
  cases e with
  | integer n span => exact .pure rfl
  | boolean b span => exact .pure rfl
  | string s span => exact .pure rfl
  | color c span => exact .pure rfl
  | var name span =>
    rw [Eval.form]
    refine .bind (.lookup name) fun found full => ?_
    exact .bind (.orStandIn _ rfl full) fun value full => .pure full
  | element array index span =>
    rw [Eval.form]
    refine .bind (ih.expr here index) fun _ _ => .bind .test fun i _ => ?_
    refine .bind (.lookup array.name) fun found full => ?_
    refine .bind (.orStandIn _ rfl full) fun items _ => ?_
    refine .bind (.orStandIn _ (Value.isVoid_standIn_elementKind _ _) fun _ read => ?_)
      fun element full => .pure full
    exact Value.isVoid_element read
  | call site span =>
    rw [Eval.form]
    refine .bind (ih.call here site) fun value _ => ?_
    cases void : value.isVoid with
    | true => exact .throw _
    | false => exact .pure void
  | sense sensor span =>
    rw [Eval.form]
    exact ih.sense here sensor
  | binary left op right span =>
    cases op with
    | logical op =>
      rw [Eval.form]
      refine .bind (ih.expr here left) fun lhs full => .bind .test fun l _ => ?_
      split
      · exact .pure full
      · refine .bind (ih.expr here right) fun rhs _ => ?_
        exact .bind .test fun r _ => .pure rfl
    | arithmetic op =>
      rw [Eval.form]
      refine .bind (ih.expr here left) fun _ _ => .bind (ih.expr here right) fun _ _ => ?_
      exact .orStandIn _ rfl fun _ => Value.isVoid_arithmetic
    | relational op =>
      rw [Eval.form]
      refine .bind (ih.expr here left) fun _ _ => .bind (ih.expr here right) fun _ _ => ?_
      exact .ofExcept fun _ => Value.isVoid_relational
    | bitwise op =>
      rw [Eval.form]
      refine .bind (ih.expr here left) fun _ _ => .bind (ih.expr here right) fun _ _ => ?_
      exact .ofExcept fun _ => Value.isVoid_bitwise
  | unary op operand span =>
    rw [Eval.form]
    exact .bind (ih.expr here operand) fun _ _ => .ofExcept fun _ => Value.isVoid_unary
  | paren inner span =>
    rw [Eval.form]
    exact .bind (ih.expr here inner) fun _ full => .pure full

lemma sense_succ (here : Cursor) (sensor : Sensor) :
    Upholds base (Eval.sense functions (fuel + 1) here sensor) Full := by
  cases sensor with
  | look direction =>
    rw [Eval.sense]
    exact .bind (ih.expr here direction) fun _ _ => .bind .test fun _ _ => .pure rfl
  | _ => exact .pure rfl

/-- The slot of a variable holds its value, and a new slot holds the value of the argument. -/
lemma argument_succ (here : Cursor) (function : Function) (param : Param) (arg : Expr)
    ⦃m outcome n⦄ (inside : m.memory.Inside base)
    (ran : Eval.argument functions (fuel + 1) here function param arg m = some (outcome, n)) :
    Upheld base (fun slot => here.phase.executes = true → Full (n.memory.store.read slot)) m n
      outcome := by
  rw [Eval.argument] at ran
  split at ran
  · cases named : arg.variableName? with
    | none =>
      rw [named] at ran
      cases ran
      exact .error inside.furnished
    | some name =>
      rw [named] at ran
      rcases bind_eq_some.mp ran with ⟨fault, rfl, stopped⟩ | ⟨found, l, looked, ran⟩
      · cases stopped
      · cases looked
        cases bound : m.memory.slot? name with
        | some slot =>
          rw [bound] at ran
          cases ran
          exact .ok inside (.refl _) fun _ => inside.full_of_slot? bound
        | none =>
          simp only [bound] at ran
          split at ran
          · next dry =>
            cases ran
            refine .ok (inside.alloc _) (Store.keeps_alloc _ _) fun runs => ?_
            exact absurd dry (Phase.ne_dry_of_executes runs)
          · cases ran
            exact .error inside.furnished
  · rcases bind_eq_some.mp ran with ⟨fault, rfl, stopped⟩ | ⟨value, l, evaluated, ran⟩
    · exact .error (ih.expr here arg inside stopped).furnished
    · cases ih.expr here arg inside evaluated with
      | ok inside' keeps full =>
        cases ran
        refine .ok (inside'.alloc _) (keeps.trans (Store.keeps_alloc _ _)) fun _ => ?_
        have held : (l.memory.store.alloc value).read l.memory.store.next = value :=
          Store.read_alloc_next _ _
        exact (congrArg Value.isVoid held).trans full

lemma arguments_succ (here : Cursor) (function : Function) (params : List Param)
    (args : List Expr) ⦃m outcome n⦄ (inside : m.memory.Inside base)
    (ran : Eval.arguments functions (fuel + 1) here function params args m = some (outcome, n)) :
    Upheld base (fun slots => here.phase.executes = true → Holds n slots) m n outcome := by
  unfold Eval.arguments at ran
  cases params with
  | nil =>
    cases ran
    exact .ok inside (.refl _) fun _ _ mem => by cases mem
  | cons param params =>
    cases args with
    | nil =>
      cases ran
      exact .ok inside (.refl _) fun _ _ mem => by cases mem
    | cons arg args =>
      rcases bind_eq_some.mp ran with ⟨fault, rfl, stopped⟩ | ⟨slot, l, first, ran⟩
      · exact .error (ih.argument here function param arg inside stopped).furnished
      cases ih.argument here function param arg inside first with
      | ok inside' keeps held =>
        rcases bind_eq_some.mp ran with ⟨fault, rfl, stopped⟩ | ⟨slots, l', others, ran⟩
        · exact .error (ih.arguments here function params args inside' stopped).furnished
        cases ih.arguments here function params args inside' others with
        | ok inside'' keeps' held' =>
          cases ran
          refine .ok inside'' (keeps.trans keeps') fun runs => ?_
          intro other mem
          rcases List.mem_cons.mp mem with rfl | mem
          · exact keeps' _ (held runs)
          · exact held' runs other mem

lemma gather (here : Cursor) (function : Function) (site : Call) ⦃m outcome n⦄
    (inside : m.memory.Inside base)
    (ran : Eval.gather functions fuel here function site m = some (outcome, n)) :
    Upheld base (fun slots => here.phase.executes = true → Holds n slots) m n outcome := by
  unfold Eval.gather at ran
  rcases bind_eq_some.mp ran with ⟨fault, rfl, stopped⟩ | ⟨slots, l, gathered, marked⟩
  · exact .error (ih.arguments here function _ _ inside stopped).furnished
  · cases ih.arguments here function _ _ inside gathered with
    | ok inside' keeps held =>
      cases marked
      exact .ok inside' keeps held

/-- A function that comes to its end leaves the frames as they were. -/
lemma call_succ (here : Cursor) (site : Call) :
    Upholds base (Eval.call functions (fuel + 1) here site) Any := by
  cases declared : functions site.name.name with
  | none =>
    rw [call_of_undeclared functions declared]
    exact .throw _
  | some function =>
    by_cases fits : site.args.length = function.params.length
    · rw [call_eq_gather declared fits]
      intro m outcome n inside ran
      rcases bind_eq_some.mp ran with ⟨fault, rfl, stopped⟩ | ⟨slots, l, gathered, ran⟩
      · exact .error (ih.gather here function site inside stopped).furnished
      cases ih.gather here function site inside gathered with
      | ok inside' keeps held =>
        split at ran
        · next runs =>
          rcases bind_eq_some.mp ran with ⟨fault, rfl, stopped⟩ | ⟨value, l', ended, ran⟩
          · exact .error
              (ih.runFunction _ function slots inside'.furnished (held runs) stopped).1
          · obtain ⟨-, kept⟩ :=
              ih.runFunction _ function slots inside'.furnished (held runs) ended
            obtain ⟨above, called, returned⟩ := (Footprint.callDoes functions ended).memory
            obtain rfl := returned value rfl
            cases ran
            have keeps' := kept value rfl
            exact .ok (inside'.of_frames called.frames keeps') (keeps.trans keeps') trivial
        · cases ran
          exact .ok inside' keeps trivial
    · rw [call_of_declared functions declared, if_pos fits]
      exact .throw _

lemma runFunction_succ (body : Cursor) (function : Function) (slots : List Slot) ⦃m outcome n⦄
    (furnished : m.memory.Furnished base) (full : Holds m slots)
    (ran : Eval.runFunction functions (fuel + 1) body function slots m = some (outcome, n)) :
    n.memory.Furnished base ∧
      ∀ value, outcome = .ok value → Store.Keeps m.memory.store n.memory.store := by
  rw [Eval.runFunction_succ, currentLine_bind] at ran
  rcases bind_eq_some.mp ran with ⟨fault, rfl, stopped⟩ | ⟨_, l, entered, ran⟩
  · obtain ⟨trace, rfl⟩ := Footprint.enter_eq_error stopped
    exact ⟨furnished, by simp⟩
  have inside := inside_of_enter furnished full entered
  obtain ⟨trace, rfl⟩ := Footprint.enter_eq_ok entered
  rcases bind_eq_some.mp ran with ⟨fault, rfl, stopped⟩ | ⟨flow, l', done, ran⟩
  · exact ⟨(ih.stmts _ _ inside stopped).furnished, by simp⟩
  cases ih.stmts _ _ inside done with
  | ok inside' keeps _ =>
    cases outcome with
    | error fault =>
      obtain ⟨trace', rfl⟩ := Footprint.leave_eq_error ran
      exact ⟨inside'.furnished, by simp⟩
    | ok value =>
      obtain ⟨-, trace', rfl⟩ := Footprint.leave_eq_ok ran
      exact ⟨inside'.pop, fun _ _ => keeps⟩

lemma stmts_succ (here : Cursor) (statements : List Stmt) :
    Upholds base (Eval.stmts functions (fuel + 1) here statements) Any := by
  cases statements with
  | nil => exact .pure trivial
  | cons s rest =>
    cases runs : here.phase.executes with
    | true =>
      rw [stmts_cons_of_executes functions runs]
      refine .bind (ih.stmt here s) fun flow _ => ?_
      cases flow with
      | none => exact ih.stmts here rest
      | some value => exact upholds_leaveOut here rest (some value)
    | false =>
      rw [stmts_cons_of_dry functions (Phase.eq_dry_of_executes runs)]
      exact .bind (ih.stmt here s) fun _ _ => ih.stmts here rest

lemma branch_succ (here : Cursor) (block : Block) (taken : Bool) :
    Upholds base (Eval.branch functions (fuel + 1) here block taken) Any := by
  cases runs : here.phase.executes with
  | true =>
    rw [branch_of_executes functions runs]
    split
    · exact ih.stmts _ _
    · exact upholds_leaveOut _ _ _
  | false =>
    rw [branch_of_dry functions (Phase.eq_dry_of_executes runs)]
    exact .bind (ih.stmts _ _) fun _ _ => .pure trivial

lemma firstRound_succ (here : Cursor) (condition : Expr) (body : Block) (entered : Bool) :
    Upholds base (Eval.firstRound functions (fuel + 1) here condition body entered) Any := by
  cases runs : here.phase.executes with
  | true =>
    rw [firstRound_of_executes functions runs]
    split
    · exact ih.rounds _ _ _
    · exact upholds_leaveOut _ _ _
  | false =>
    rw [firstRound_of_dry functions (Phase.eq_dry_of_executes runs)]
    exact .bind (ih.stmts _ _) fun _ _ => .pure trivial

/-- The condition of a loop is tested again in silent code. -/
lemma retest (here : Cursor) (condition : Expr) :
    Upholds base (do
      let value ← Eval.expr functions fuel (here.inPhase .silent) condition
      Eval.ofExcept value.expectBool) Any :=
  .bind (ih.expr _ condition) fun _ _ => .test

lemma rounds_succ (here : Cursor) (condition : Expr) (body : Block) :
    Upholds base (Eval.rounds functions (fuel + 1) here condition body) Any := by
  rw [Eval.rounds]
  refine .bind (ih.stmts _ _) fun flow _ => ?_
  cases flow with
  | some value => exact .pure trivial
  | none =>
    refine .bind (ih.expr _ condition) fun _ _ => .bind .test fun again _ => ?_
    split
    · exact ih.rounds _ _ _
    · exact .pure trivial

lemma numbers_succ (here : Cursor) (args : List Expr) :
    Upholds base (Eval.numbers functions (fuel + 1) here args) Any := by
  cases args with
  | nil => exact .pure trivial
  | cons arg args =>
    rw [Eval.numbers]
    refine .bind (ih.expr here arg) fun _ _ => .bind .test fun _ _ => ?_
    exact .bind (ih.numbers here args) fun _ _ => .pure trivial

lemma test (here : Cursor) (span : Span) (word : String) (condition : Expr) :
    Upholds base (Eval.test functions fuel here span word condition) Any := by
  refine .bind (.enterSpan _) fun _ _ => .bind (ih.expr here condition) fun _ _ => ?_
  exact .bind .test fun _ _ => .bind (.emit _ _) fun _ _ => .pure trivial

/-- The first branch of a conditional, and the word before the second. -/
lemma beforeElse (here : Cursor) (span : Span) (condition : Expr) (thenBlock : Block) :
    Upholds base (do
      let taken ← Eval.test functions fuel here span "if " condition
      let _ ← Eval.branch functions fuel here thenBlock taken
      Eval.emit here "else"
      return taken) Any := by
  refine .bind (ih.test here span _ condition) fun taken _ => ?_
  exact .bind (ih.branch here thenBlock taken) fun _ _ => .bind (.emit _ _) fun _ _ => .pure trivial

/-- An argument that has to be an integer. -/
lemma number (here : Cursor) (arg : Expr) :
    Upholds base (do
      let value ← Eval.expr functions fuel here arg
      Eval.ofExcept value.expectInt) Any :=
  .bind (ih.expr here arg) fun _ _ => .test

lemma secondBranch (here : Cursor) (elseBlock : Option Block) (taken : Bool) (first : Flow) :
    Upholds base (Eval.secondBranch functions fuel here elseBlock taken first) Any := by
  cases elseBlock with
  | none => exact .pure trivial
  | some block =>
    exact .bind (.emit _ _) fun _ _ => .bind (ih.branch here block _) fun _ _ => .pure trivial

/-- What a statement gives to a variable is the value of an expression, or an integer. -/
lemma stmt_succ (here : Cursor) (s : Stmt) :
    Upholds base (Eval.stmt functions (fuel + 1) here s) Any := by
  cases s with
  | assign target value span =>
    cases target with
    | var target =>
      rw [Eval.stmt]
      refine .bind (.enterSpan _) fun _ _ => .bind (ih.expr here value) fun v full => ?_
      exact .bind (.emit _ _) fun _ _ => .bind (.define _ full) fun _ _ => .pure trivial
    | element array index =>
      rw [Eval.stmt]
      refine .bind (.enterSpan _) fun _ _ => .bind (ih.expr here value) fun _ _ => ?_
      refine .bind (ih.expr here index) fun _ _ => .bind .test fun _ _ => ?_
      refine .bind (.emit _ _) fun _ _ => .bind (.storeElement _ _ _) fun _ _ => ?_
      exact .bind .test fun _ _ => .pure trivial
  | ifThen condition thenBlock elseBlock span =>
    rw [stmt_ifThen_eq_test]
    refine .bind (ih.test here span _ condition) fun taken _ => ?_
    refine .bind (ih.branch here thenBlock taken) fun first _ => ?_
    refine .bind (ih.secondBranch here elseBlock taken first) fun _ _ => ?_
    exact .bind (.emit _ _) fun _ _ => .pure trivial
  | whileDo condition body span =>
    rw [stmt_whileDo_eq_test]
    refine .bind (ih.test here span _ condition) fun entered _ => ?_
    refine .bind (ih.firstRound here condition body entered) fun _ _ => ?_
    exact .bind (.emit _ _) fun _ _ => .pure trivial
  | giveBack value span =>
    cases value with
    | none =>
      rw [Eval.stmt]
      exact .bind (.enterSpan _) fun _ _ => .bind (.emit _ _) fun _ _ => .pure trivial
    | some value =>
      rw [Eval.stmt]
      refine .bind (.enterSpan _) fun _ _ => .bind (ih.expr here value) fun _ _ => ?_
      exact .bind (.emit _ _) fun _ _ => .pure trivial
  | read target span =>
    rw [Eval.stmt]
    refine .bind (.enterSpan _) fun _ _ => ?_
    dsimp only
    split
    · exact .bind .nextInteger fun _ _ => .bind (.define _ rfl) fun _ _ => .pure trivial
    · exact .bind (.define _ rfl) fun _ _ => .pure trivial
  | write value span =>
    rw [Eval.stmt]
    refine .bind (.enterSpan _) fun _ _ => .bind (ih.expr here value) fun _ _ => ?_
    exact .bind (.emit _ _) fun _ _ => .pure trivial
  | actuate actuator args span =>
    rw [Eval.stmt]
    refine .bind (.enterSpan _) fun _ _ => .bind (ih.numbers here args) fun _ _ => ?_
    exact .bind (.emit _ _) fun _ _ => .pure trivial
  | paint color span =>
    rw [Eval.stmt]
    refine .bind (.enterSpan _) fun _ _ => .bind (ih.expr here color) fun _ _ => ?_
    exact .bind .test fun _ _ => .bind (.emit _ _) fun _ _ => .pure trivial
  | pen down span =>
    rw [Eval.stmt]
    exact .bind (.enterSpan _) fun _ _ => .bind (.emit _ _) fun _ _ => .pure trivial
  | sense sensor span =>
    rw [Eval.stmt]
    refine .bind (.enterSpan _) fun _ _ => .bind (ih.sense here sensor) fun _ _ => ?_
    exact .bind (.emit _ _) fun _ _ => .pure trivial
  | call site =>
    rw [Eval.stmt]
    exact .bind (.enterSpan _) fun _ _ => .bind (ih.call here site) fun _ _ => .pure trivial

end

/-- **No evaluation stores `void`, and no expression yields it.** -/
theorem everywhere (functions : String → Option Function) (base : List Frame) (fuel : Nat) :
    Valued functions base fuel := by
  induction fuel with
  | zero =>
    exact {
      expr := fun _ _ => .outOfFuel
      form := fun _ _ => .outOfFuel
      sense := fun _ _ => .outOfFuel
      call := fun _ _ => .outOfFuel
      arguments := fun _ _ _ _ _ _ _ _ ran => by cases ran
      argument := fun _ _ _ _ _ _ _ _ ran => by cases ran
      runFunction := fun _ _ _ _ _ _ _ _ ran => by cases ran
      stmts := fun _ _ => .outOfFuel
      stmt := fun _ _ => .outOfFuel
      branch := fun _ _ _ => .outOfFuel
      firstRound := fun _ _ _ _ => .outOfFuel
      rounds := fun _ _ _ => .outOfFuel
      numbers := fun _ _ => .outOfFuel }
  | succ fuel ih =>
    exact {
      expr := ih.expr_succ
      form := ih.form_succ
      sense := ih.sense_succ
      call := ih.call_succ
      arguments := ih.arguments_succ
      argument := ih.argument_succ
      runFunction := ih.runFunction_succ
      stmts := ih.stmts_succ
      stmt := ih.stmt_succ
      branch := ih.branch_succ
      firstRound := ih.firstRound_succ
      rounds := ih.rounds_succ
      numbers := ih.numbers_succ }

end Valued

end Eval

end RobotScribe
