/-
# Positions affect reported lines only

The line that an evaluation has reached is saved, changed and put back all over the evaluator.  It
is handed to frames and to the trace, and nothing else is done with it.  So a program does the same
as the program without its places: by induction over the fuel, each part of the evaluator comes to
the same for both, whatever the lines are (`Eval.Coincide`).

Two programs that differ in places alone have one form without places, and are compared by way of
it.
-/
import RobotScribe.Proofs.Positions
import RobotScribe.Proofs.Transparency

namespace RobotScribe

namespace Eval

/-- Two computations that come to the same in machines that are the same but for lines. -/
def Coincide {α : Type} (x y : Eval α) : Prop :=
  ∀ ⦃m n : Machine⦄, m.SameButLines n →
    Option.Rel (fun p q => p.1 = q.1 ∧ p.2.SameButLines q.2) (x m) (y n)

namespace Coincide

variable {α β : Type} {functions : String → Option Function} {fuel : Nat} {here : Cursor}

/-! ## The operations -/

/-- Two computations that take one step each. -/
lemma of_step {x y : Eval α} (result result' : Machine → Except Fault α)
    (step step' : Machine → Machine) (steps : ∀ m, x m = some (result m, step m))
    (steps' : ∀ n, y n = some (result' n, step' n))
    (same : ∀ ⦃m n : Machine⦄, m.SameButLines n →
      result m = result' n ∧ (step m).SameButLines (step' n)) : Coincide x y := by
  intro m n alike
  rw [steps, steps']
  exact .some (same alike)

lemma bind {x y : Eval α} {f g : α → Eval β} (first : Coincide x y)
    (second : ∀ a, Coincide (f a) (g a)) : Coincide (x >>= f) (y >>= g) := by
  intro m n alike
  have stops := first alike
  rw [bind_apply, bind_apply]
  generalize x m = left at stops ⊢
  generalize y n = right at stops ⊢
  cases stops with
  | none => exact .none
  | @some p q stops =>
    obtain ⟨outcome, m'⟩ := p
    obtain ⟨outcome', n'⟩ := q
    obtain ⟨rfl, alike'⟩ := stops
    cases outcome with
    | error fault => exact .some ⟨rfl, alike'⟩
    | ok a => exact second a alike'

/-- What is done with the line has to be the same for any two lines. -/
lemma currentLine_bind {f g : UInt32 → Eval β}
    (second : ∀ line line', Coincide (f line) (g line')) :
    Coincide (currentLine >>= f) (currentLine >>= g) := by
  intro m n alike
  rw [Eval.currentLine_bind, Eval.currentLine_bind]
  exact second m.line n.line alike

lemma symm {x y : Eval α} (h : Coincide x y) : Coincide y x := by
  intro m n alike
  have stops := h alike.symm
  generalize x n = left at stops ⊢
  generalize y m = right at stops ⊢
  cases stops with
  | none => exact .none
  | some stops => exact .some ⟨stops.1.symm, stops.2.symm⟩

/-- Each machine that is related to another one is related to itself. -/
lemma trans {x y z : Eval α} (h : Coincide x y) (h' : Coincide y z) : Coincide x z := by
  intro m n alike
  have first := h alike
  have second := h' (alike.symm.trans alike)
  generalize x m = left at first ⊢
  generalize y n = mid at first second
  generalize z n = right at second ⊢
  cases first with
  | none => exact second
  | some stops =>
    cases second with
    | some stops' => exact .some ⟨stops.1.trans stops'.1, stops.2.trans stops'.2⟩

lemma outOfFuel : Coincide (outOfFuel : Eval α) outOfFuel := fun _ _ _ => .none

lemma ofExcept (outcome : Except Fault α) : Coincide (ofExcept outcome) (ofExcept outcome) :=
  of_step _ _ id id (fun _ => rfl) (fun _ => rfl) fun _ _ alike => ⟨rfl, alike⟩

lemma pure (a : α) : Coincide (pure a : Eval α) (pure a) := ofExcept (.ok a)

lemma throw (fault : Fault) : Coincide (throw fault : Eval α) (throw fault) :=
  ofExcept (.error fault)

lemma setLine (line line' : UInt32) : Coincide (setLine line) (setLine line') :=
  of_step _ _ _ _ (fun _ => rfl) (fun _ => rfl) fun _ _ alike =>
    ⟨rfl, alike.memory, alike.transcript, alike.input, alike.trace⟩

/-- Whether the place of a node is known decides about the line alone. -/
lemma enterSpan (span span' : Span) : Coincide (enterSpan span) (enterSpan span') := by
  refine of_step (fun _ => .ok ()) (fun _ => .ok ())
    (fun m => { m with line := if span.isKnown then span.startLine else m.line })
    (fun n => { n with line := if span'.isKnown then span'.startLine else n.line }) ?_ ?_ ?_
  · intro m
    unfold Eval.enterSpan
    split <;> rfl
  · intro n
    unfold Eval.enterSpan
    split <;> rfl
  · exact fun m n alike => ⟨rfl, alike.memory, alike.transcript, alike.input, alike.trace⟩

lemma lookup (name : String) : Coincide (lookup name) (lookup name) :=
  of_step _ _ id id (fun _ => rfl) (fun _ => rfl) fun _ _ alike =>
    ⟨congrArg Except.ok (alike.get name), alike⟩

lemma slotOf (name : String) : Coincide (slotOf name) (slotOf name) :=
  of_step _ _ id id (fun _ => rfl) (fun _ => rfl) fun _ _ alike =>
    ⟨congrArg Except.ok (alike.slot? name), alike⟩

lemma newSlot (value : Value) : Coincide (newSlot value) (newSlot value) :=
  of_step _ _ _ _ (fun _ => rfl) (fun _ => rfl) fun _ _ alike =>
    ⟨congrArg (Except.ok ·.next) alike.store, alike.withMemory <| by
      rw [Memory.unplaced_alloc, Memory.unplaced_alloc, alike.memory]⟩

lemma readSlots (slots : List Slot) : Coincide (readSlots slots) (readSlots slots) :=
  of_step _ _ id id (fun _ => rfl) (fun _ => rfl) fun _ _ alike =>
    ⟨congrArg (fun store => Except.ok (slots.map store.read)) alike.store, alike⟩

lemma define (name : String) (value : Value) : Coincide (define name value) (define name value) :=
  of_step _ _ _ _ (fun _ => rfl) (fun _ => rfl) fun _ _ alike =>
    ⟨rfl, alike.withMemory <| by rw [Memory.unplaced_define, Memory.unplaced_define, alike.memory]⟩

lemma storeElement (name : String) (index : Int64) (element : Value) :
    Coincide (storeElement name index element) (storeElement name index element) := by
  intro m n alike
  have same : (m.memory.storeElement name index element).map Memory.unplaced =
      (n.memory.storeElement name index element).map Memory.unplaced := by
    rw [← Memory.storeElement_unplaced, alike.memory, Memory.storeElement_unplaced]
  unfold Eval.storeElement
  generalize m.memory.storeElement name index element = left at same ⊢
  generalize n.memory.storeElement name index element = right at same ⊢
  cases left with
  | error fault =>
    cases right with
    | error fault' =>
      cases same
      exact .some ⟨rfl, alike⟩
    | ok memory' => cases same
  | ok memory =>
    cases right with
    | error fault' => cases same
    | ok memory' => exact .some ⟨rfl, alike.withMemory (Except.ok.inj same)⟩

lemma nextInteger : Coincide nextInteger nextInteger :=
  of_step (fun m => m.input.nextInteger.1) (fun n => n.input.nextInteger.1)
    (fun m => { m with input := m.input.nextInteger.2 })
    (fun n => { n with input := n.input.nextInteger.2 }) (fun _ => rfl) (fun _ => rfl)
    fun _ _ alike => ⟨congrArg (·.nextInteger.1) alike.input, alike.memory, alike.transcript,
      congrArg (·.nextInteger.2) alike.input, alike.trace⟩

/-- Something is done to the transcript. -/
lemma writes {x : Eval Unit} (change : Transcript → Transcript)
    (steps : ∀ m, x m = some (.ok (), { m with transcript := change m.transcript })) :
    Coincide x x :=
  of_step _ _ _ _ steps steps fun _ _ alike =>
    ⟨rfl, alike.memory, congrArg change alike.transcript, alike.input, alike.trace⟩

lemma label (text : String) : Coincide (label text) (label text) :=
  writes (·.label text) fun _ => rfl

lemma emit (here : Cursor) (text : String) : Coincide (emit here text) (emit here text) :=
  writes (·.emit here text) fun _ => rfl

lemma mark (here : Cursor) (text : String) : Coincide (mark here text) (mark here text) :=
  writes (·.mark here text) fun _ => rfl

lemma pushFrame (function : String) (line line' : UInt32) :
    Coincide (pushFrame function line) (pushFrame function line') :=
  of_step _ _ _ _ (fun _ => rfl) (fun _ => rfl) fun _ _ alike =>
    ⟨rfl, alike.withMemory <| by rw [Memory.unplaced_push, Memory.unplaced_push, alike.memory]⟩

lemma popFrame : Coincide popFrame popFrame :=
  of_step _ _ _ _ (fun _ => rfl) (fun _ => rfl) fun _ _ alike =>
    ⟨rfl, alike.withMemory <| by rw [Memory.unplaced_pop, Memory.unplaced_pop, alike.memory]⟩

lemma bindSlots (bindings : List (String × Slot)) :
    Coincide (bindSlots bindings) (bindSlots bindings) :=
  of_step _ _ _ _ (fun _ => rfl) (fun _ => rfl) fun _ _ alike =>
    ⟨rfl, alike.withMemory <| by
      rw [Memory.unplaced_bindAll, Memory.unplaced_bindAll, alike.memory]⟩

/-- What is taken back is the same, since the memories are the same but for lines. -/
lemma takingBack {x y : Eval Unit} (body : Coincide x y) :
    Coincide (takingBack x) (takingBack y) := by
  intro m n alike
  have stops := body alike
  unfold Eval.takingBack
  generalize x m = left at stops ⊢
  generalize y n = right at stops ⊢
  cases stops with
  | none => exact .none
  | @some p q stops =>
    obtain ⟨outcome, m'⟩ := p
    obtain ⟨outcome', n'⟩ := q
    obtain ⟨rfl, alike'⟩ := stops
    have restored :
        ((m'.memory.restore m.memory.snapshot).shrink m.memory.store.size).unplaced =
          ((n'.memory.restore n.memory.snapshot).shrink n.memory.store.size).unplaced := by
      simp only [Memory.unplaced_shrink, Memory.unplaced_restore, alike'.memory, alike.snapshot,
        alike.store]
    cases outcome with
    | error fault => exact .some ⟨rfl, alike'.withMemory restored⟩
    | ok done =>
      exact .some ⟨rfl, restored, alike'.transcript, alike'.input, alike'.trace⟩

/-- Something is recorded, which cannot fail. -/
lemma tracing {record record' : CallTrace → Except Fault Unit × CallTrace}
    (records : ∀ trace trace', CallTrace.SameButLines trace trace' →
      (record trace).1 = .ok () ∧ (record' trace').1 = .ok () ∧
        CallTrace.SameButLines (record trace).2 (record' trace').2) :
    Coincide (tracing record) (tracing record') := by
  intro m n alike
  have traces := alike.trace
  unfold Eval.tracing
  generalize m.trace = left at traces ⊢
  generalize n.trace = right at traces ⊢
  cases traces with
  | none => exact .some ⟨rfl, alike⟩
  | @some trace trace' same =>
    obtain ⟨done, done', same'⟩ := records trace trace' same
    exact .some ⟨done.trans done'.symm, alike.memory, alike.transcript, alike.input, .some same'⟩

/-! ## Calls -/

lemma enter (function : Function) (slots : List Slot) (line line' : UInt32) :
    Coincide (enter function slots line) (enter function.unplaced slots line') := by
  have names : function.unplaced.params.map (·.name.name) = function.params.map (·.name.name) := by
    rw [Function.params_unplaced, List.map_map]
    rfl
  unfold Eval.enter
  rw [names]
  refine .bind (.bind (readSlots slots) fun values => tracing fun _ _ same => ?_) fun _ => ?_
  · exact same.call function values line line'
  · exact .bind (pushFrame _ _ _) fun _ => .bind (setLine _ _) fun _ => bindSlots _

lemma leave (function : Function) (slots : List Slot) (line line' : UInt32) (result : Value) :
    Coincide (leave function slots line result) (leave function.unplaced slots line' result) := by
  refine currentLine_bind fun at_ at_' => ?_
  refine .bind (.bind (readSlots slots) fun values => tracing fun _ _ same => ?_) fun _ => ?_
  · exact same.giveBack function result values at_ at_'
  · exact .bind popFrame fun _ => .bind (setLine _ _) fun _ => pure _

end Coincide

/-! ## The evaluator -/

/-- The functions of a program without their places. -/
def unplaced (functions : String → Option Function) : String → Option Function :=
  fun name => (functions name).map Function.unplaced

/-- Each part of the evaluator comes to the same for a program and for the program without its
places. -/
structure Unplaceable (functions : String → Option Function) (fuel : Nat) : Prop where
  expr (here : Cursor) (e : Expr) :
    Coincide (expr functions fuel here e) (expr (unplaced functions) fuel here e.unplaced)
  form (here : Cursor) (e : Expr) :
    Coincide (form functions fuel here e) (form (unplaced functions) fuel here e.unplaced)
  sense (here : Cursor) (sensor : Sensor) :
    Coincide (sense functions fuel here sensor)
      (sense (unplaced functions) fuel here sensor.unplaced)
  call (here : Cursor) (site : Call) :
    Coincide (call functions fuel here site) (call (unplaced functions) fuel here site.unplaced)
  arguments (here : Cursor) (function : Function) (params : List Param) (args : List Expr) :
    Coincide (arguments functions fuel here function params args)
      (arguments (unplaced functions) fuel here function.unplaced (params.map Param.unplaced)
        (exprsUnplaced args))
  argument (here : Cursor) (function : Function) (param : Param) (arg : Expr) :
    Coincide (argument functions fuel here function param arg)
      (argument (unplaced functions) fuel here function.unplaced param.unplaced arg.unplaced)
  runFunction (body : Cursor) (function : Function) (slots : List Slot) :
    Coincide (runFunction functions fuel body function slots)
      (runFunction (unplaced functions) fuel body function.unplaced slots)
  stmts (here : Cursor) (statements : List Stmt) :
    Coincide (stmts functions fuel here statements)
      (stmts (unplaced functions) fuel here (stmtsUnplaced statements))
  stmt (here : Cursor) (s : Stmt) :
    Coincide (stmt functions fuel here s) (stmt (unplaced functions) fuel here s.unplaced)
  branch (here : Cursor) (block : Block) (taken : Bool) :
    Coincide (branch functions fuel here block taken)
      (branch (unplaced functions) fuel here block.unplaced taken)
  firstRound (here : Cursor) (condition : Expr) (body : Block) (entered : Bool) :
    Coincide (firstRound functions fuel here condition body entered)
      (firstRound (unplaced functions) fuel here condition.unplaced body.unplaced entered)
  rounds (here : Cursor) (condition : Expr) (body : Block) :
    Coincide (rounds functions fuel here condition body)
      (rounds (unplaced functions) fuel here condition.unplaced body.unplaced)
  numbers (here : Cursor) (args : List Expr) :
    Coincide (numbers functions fuel here args)
      (numbers (unplaced functions) fuel here (exprsUnplaced args))
  writeOut (here : Cursor) (statements : List Stmt) :
    Coincide (writeOut functions fuel here statements)
      (writeOut (unplaced functions) fuel here (stmtsUnplaced statements))

namespace Unplaceable

variable {functions : String → Option Function} {fuel : Nat}

section

variable (ih : Unplaceable functions fuel) (here : Cursor)
include ih

lemma expr_succ (e : Expr) :
    Coincide (Eval.expr functions (fuel + 1) here e)
      (Eval.expr (unplaced functions) (fuel + 1) here e.unplaced) := by
  rw [Eval.expr, Eval.expr]
  refine .currentLine_bind fun outer outer' => .bind (.enterSpan _ _) fun _ => ?_
  exact .bind (ih.form here e) fun _ => .bind (.setLine _ _) fun _ => .pure _

lemma form_succ (e : Expr) :
    Coincide (Eval.form functions (fuel + 1) here e)
      (Eval.form (unplaced functions) (fuel + 1) here e.unplaced) := by
  cases e with
  | integer n span => exact .pure _
  | boolean b span => exact .pure _
  | string s span => exact .pure _
  | color c span => exact .pure _
  | var name span =>
    rw [Expr.unplaced, Eval.form, Eval.form]
    exact .bind (.lookup name) fun _ => .bind (.ofExcept _) fun _ => .pure _
  | element array index span =>
    rw [Expr.unplaced, Eval.form, Eval.form]
    refine .bind (ih.expr here index) fun _ => .bind (.ofExcept _) fun _ => ?_
    refine .bind (.lookup array.name) fun _ => .bind (.ofExcept _) fun _ => ?_
    exact .bind (.ofExcept _) fun _ => .pure _
  | call site span =>
    rw [Expr.unplaced, Eval.form, Eval.form, Call.name_unplaced]
    refine .bind (ih.call here site) fun value => ?_
    split
    · exact .bind (.throw _) fun _ => .pure _
    · exact .pure _
  | sense sensor span =>
    rw [Expr.unplaced, Eval.form, Eval.form]
    exact ih.sense here sensor
  | binary left op right span =>
    rw [Expr.unplaced]
    cases op with
    | logical op =>
      rw [Eval.form, Eval.form]
      refine .bind (ih.expr here left) fun lhs => .bind (.ofExcept _) fun l => ?_
      split
      · exact .pure _
      · exact .bind (ih.expr here right) fun _ => .bind (.ofExcept _) fun _ => .pure _
    | arithmetic op =>
      rw [Eval.form, Eval.form]
      exact .bind (ih.expr here left) fun _ => .bind (ih.expr here right) fun _ => .ofExcept _
    | relational op =>
      rw [Eval.form, Eval.form]
      exact .bind (ih.expr here left) fun _ => .bind (ih.expr here right) fun _ => .ofExcept _
    | bitwise op =>
      rw [Eval.form, Eval.form]
      exact .bind (ih.expr here left) fun _ => .bind (ih.expr here right) fun _ => .ofExcept _
  | unary op operand span =>
    rw [Expr.unplaced, Eval.form, Eval.form]
    exact .bind (ih.expr here operand) fun _ => .ofExcept _
  | paren inner span =>
    rw [Expr.unplaced, Eval.form, Eval.form]
    exact .bind (ih.expr here inner) fun _ => .pure _

lemma sense_succ (sensor : Sensor) :
    Coincide (Eval.sense functions (fuel + 1) here sensor)
      (Eval.sense (unplaced functions) (fuel + 1) here sensor.unplaced) := by
  cases sensor with
  | look direction =>
    rw [Sensor.unplaced, Eval.sense, Eval.sense]
    exact .bind (ih.expr here direction) fun _ => .bind (.ofExcept _) fun _ => .pure _
  | _ => exact .pure _

lemma call_succ (site : Call) :
    Coincide (Eval.call functions (fuel + 1) here site)
      (Eval.call (unplaced functions) (fuel + 1) here site.unplaced) := by
  cases declared : functions site.name.name with
  | none =>
    have undeclared : unplaced functions site.unplaced.name.name = none := by
      rw [Call.name_unplaced, unplaced, declared]
      rfl
    rw [call_of_undeclared functions declared, call_of_undeclared _ undeclared,
      Call.name_unplaced]
    exact .throw _
  | some function =>
    have declared' : unplaced functions site.unplaced.name.name = some function.unplaced := by
      rw [Call.name_unplaced, unplaced, declared]
      rfl
    rw [call_of_declared functions declared, call_of_declared _ declared', Call.args_unplaced,
      Call.name_unplaced, Function.name_unplaced, Function.params_unplaced,
      length_exprsUnplaced, List.length_map]
    split
    · exact .throw _
    · refine .bind (ih.arguments here function function.params site.args) fun slots => ?_
      refine .bind (.mark _ _) fun _ => ?_
      split
      · exact .bind (ih.runFunction _ function slots) fun _ => .pure _
      · exact .pure _

lemma arguments_succ (function : Function) (params : List Param) (args : List Expr) :
    Coincide (Eval.arguments functions (fuel + 1) here function params args)
      (Eval.arguments (unplaced functions) (fuel + 1) here function.unplaced
        (params.map Param.unplaced) (exprsUnplaced args)) := by
  cases params with
  | nil => exact .pure _
  | cons param params =>
    cases args with
    | nil => exact .pure _
    | cons arg args =>
      rw [List.map_cons, exprsUnplaced, Eval.arguments, Eval.arguments]
      refine .bind (ih.argument here function param arg) fun slot => ?_
      exact .bind (ih.arguments here function params args) fun slots => .pure _

lemma argument_succ (function : Function) (param : Param) (arg : Expr) :
    Coincide (Eval.argument functions (fuel + 1) here function param arg)
      (Eval.argument (unplaced functions) (fuel + 1) here function.unplaced param.unplaced
        arg.unplaced) := by
  rw [Eval.argument, Eval.argument, Param.isReference_unplaced, Expr.variableName?_unplaced]
  split
  · cases arg.variableName? with
    | none => exact .throw _
    | some name =>
      refine .bind (.slotOf name) fun found => ?_
      cases found with
      | some slot => exact .pure slot
      | none =>
        dsimp only
        split
        · exact .newSlot _
        · exact .throw _
  · exact .bind (ih.expr here arg) fun value => .newSlot value

lemma runFunction_succ (body : Cursor) (function : Function) (slots : List Slot) :
    Coincide (Eval.runFunction functions (fuel + 1) body function slots)
      (Eval.runFunction (unplaced functions) (fuel + 1) body function.unplaced slots) := by
  rw [Eval.runFunction_succ, Eval.runFunction_succ, Function.body_unplaced, Block.stmts_unplaced]
  refine .currentLine_bind fun line line' => .bind (.enter _ _ _ _) fun _ => ?_
  exact .bind (ih.stmts _ _) fun _ => .leave _ _ _ _ _

lemma writeOut_succ (statements : List Stmt) :
    Coincide (Eval.writeOut functions (fuel + 1) here statements)
      (Eval.writeOut (unplaced functions) (fuel + 1) here (stmtsUnplaced statements)) := by
  rw [Eval.writeOut, Eval.writeOut]
  exact .takingBack (.bind (ih.stmts _ _) fun _ => .pure ())

lemma leaveOut (statements : List Stmt) (flow : Flow) :
    Coincide (Eval.leaveOut functions fuel here statements flow)
      (Eval.leaveOut (unplaced functions) fuel here (stmtsUnplaced statements) flow) := by
  unfold Eval.leaveOut
  split
  · exact .bind (ih.writeOut here statements) fun _ => .pure flow
  · exact .pure flow

lemma stmts_succ (statements : List Stmt) :
    Coincide (Eval.stmts functions (fuel + 1) here statements)
      (Eval.stmts (unplaced functions) (fuel + 1) here (stmtsUnplaced statements)) := by
  cases statements with
  | nil => exact .pure none
  | cons s rest =>
    rw [stmtsUnplaced]
    cases runs : here.phase.executes with
    | true =>
      rw [stmts_cons_of_executes _ runs, stmts_cons_of_executes _ runs]
      refine .bind (ih.stmt here s) fun flow => ?_
      cases flow with
      | none => exact ih.stmts here rest
      | some value => exact ih.leaveOut here rest (some value)
    | false =>
      have dry := Phase.eq_dry_of_executes runs
      rw [stmts_cons_of_dry _ dry, stmts_cons_of_dry _ dry]
      exact .bind (ih.stmt here s) fun _ => ih.stmts here rest

lemma branch_succ (block : Block) (taken : Bool) :
    Coincide (Eval.branch functions (fuel + 1) here block taken)
      (Eval.branch (unplaced functions) (fuel + 1) here block.unplaced taken) := by
  cases runs : here.phase.executes with
  | true =>
    rw [branch_of_executes _ runs, branch_of_executes _ runs, Block.stmts_unplaced]
    split
    · exact ih.stmts _ _
    · exact ih.leaveOut _ _ _
  | false =>
    have dry := Phase.eq_dry_of_executes runs
    rw [branch_of_dry _ dry, branch_of_dry _ dry, Block.stmts_unplaced]
    exact .bind (ih.stmts _ _) fun _ => .pure none

lemma firstRound_succ (condition : Expr) (body : Block) (entered : Bool) :
    Coincide (Eval.firstRound functions (fuel + 1) here condition body entered)
      (Eval.firstRound (unplaced functions) (fuel + 1) here condition.unplaced body.unplaced
        entered) := by
  cases runs : here.phase.executes with
  | true =>
    rw [firstRound_of_executes _ runs, firstRound_of_executes _ runs, Block.stmts_unplaced]
    split
    · exact ih.rounds _ _ _
    · exact ih.leaveOut _ _ _
  | false =>
    have dry := Phase.eq_dry_of_executes runs
    rw [firstRound_of_dry _ dry, firstRound_of_dry _ dry, Block.stmts_unplaced]
    exact .bind (ih.stmts _ _) fun _ => .pure none

lemma rounds_succ (condition : Expr) (body : Block) :
    Coincide (Eval.rounds functions (fuel + 1) here condition body)
      (Eval.rounds (unplaced functions) (fuel + 1) here condition.unplaced body.unplaced) := by
  rw [Eval.rounds, Eval.rounds, Block.stmts_unplaced]
  refine .bind (ih.stmts _ _) fun flow => ?_
  cases flow with
  | some value => exact .pure _
  | none =>
    refine .bind (ih.expr _ condition) fun value => .bind (.ofExcept _) fun again => ?_
    split
    · exact ih.rounds _ _ _
    · exact .pure none

lemma numbers_succ (args : List Expr) :
    Coincide (Eval.numbers functions (fuel + 1) here args)
      (Eval.numbers (unplaced functions) (fuel + 1) here (exprsUnplaced args)) := by
  cases args with
  | nil => exact .pure []
  | cons arg args =>
    rw [exprsUnplaced, Eval.numbers, Eval.numbers]
    refine .bind (ih.expr here arg) fun _ => .bind (.ofExcept _) fun _ => ?_
    exact .bind (ih.numbers here args) fun _ => .pure _

lemma secondBranch (elseBlock : Option Block) (taken : Bool) (first : Flow) :
    Coincide (Eval.secondBranch functions fuel here elseBlock taken first)
      (Eval.secondBranch (unplaced functions) fuel here (elseBlock.map Block.unplaced) taken
        first) := by
  cases elseBlock with
  | none => exact .pure first
  | some block =>
    exact .bind (.emit _ _) fun _ => .bind (ih.branch here block _) fun _ => .pure _

lemma stmt_succ (s : Stmt) :
    Coincide (Eval.stmt functions (fuel + 1) here s)
      (Eval.stmt (unplaced functions) (fuel + 1) here s.unplaced) := by
  cases s with
  | assign target value span =>
    cases target with
    | var target =>
      rw [Stmt.unplaced, Target.unplaced, Eval.stmt, Eval.stmt]
      refine .bind (.enterSpan _ _) fun _ => .bind (ih.expr here value) fun _ => ?_
      exact .bind (.emit _ _) fun _ => .bind (.define _ _) fun _ => .pure none
    | element array index =>
      rw [Stmt.unplaced, Target.unplaced, Eval.stmt, Eval.stmt]
      refine .bind (.enterSpan _ _) fun _ => .bind (ih.expr here value) fun _ => ?_
      refine .bind (ih.expr here index) fun _ => .bind (.ofExcept _) fun _ => ?_
      refine .bind (.emit _ _) fun _ => .bind (.storeElement _ _ _) fun _ => ?_
      exact .bind (.ofExcept _) fun _ => .pure none
  | ifThen condition thenBlock elseBlock span =>
    have unplaced_eq : (Stmt.ifThen condition thenBlock elseBlock span).unplaced =
        .ifThen condition.unplaced thenBlock.unplaced (elseBlock.map Block.unplaced)
          .unknown := by
      cases elseBlock <;> rw [Stmt.unplaced] <;> rfl
    rw [unplaced_eq, Eval.stmt_ifThen, Eval.stmt_ifThen]
    refine .bind (.enterSpan _ _) fun _ => .bind (ih.expr here condition) fun _ => ?_
    refine .bind (.ofExcept _) fun taken => .bind (.emit _ _) fun _ => ?_
    refine .bind (ih.branch here thenBlock taken) fun first => ?_
    refine .bind (ih.secondBranch here elseBlock taken first) fun _ => ?_
    exact .bind (.emit _ _) fun _ => .pure _
  | whileDo condition body span =>
    rw [Stmt.unplaced, Eval.stmt, Eval.stmt]
    refine .bind (.enterSpan _ _) fun _ => .bind (ih.expr here condition) fun _ => ?_
    refine .bind (.ofExcept _) fun entered => .bind (.emit _ _) fun _ => ?_
    refine .bind (ih.firstRound here condition body entered) fun _ => ?_
    exact .bind (.emit _ _) fun _ => .pure _
  | giveBack value span =>
    cases value with
    | none =>
      rw [Stmt.unplaced, Option.map_none, Eval.stmt, Eval.stmt]
      exact .bind (.enterSpan _ _) fun _ => .bind (.emit _ _) fun _ => .pure _
    | some value =>
      rw [Stmt.unplaced, Option.map_some, Eval.stmt, Eval.stmt]
      refine .bind (.enterSpan _ _) fun _ => .bind (ih.expr here value) fun _ => ?_
      exact .bind (.emit _ _) fun _ => .pure _
  | read target span =>
    rw [Stmt.unplaced, Eval.stmt, Eval.stmt]
    refine .bind (.enterSpan _ _) fun _ => ?_
    dsimp only
    split
    · exact .bind .nextInteger fun _ => .bind (.define _ _) fun _ => .pure none
    · exact .bind (.define _ _) fun _ => .pure none
  | write value span =>
    rw [Stmt.unplaced, Eval.stmt, Eval.stmt]
    refine .bind (.enterSpan _ _) fun _ => .bind (ih.expr here value) fun _ => ?_
    exact .bind (.emit _ _) fun _ => .pure none
  | actuate actuator args span =>
    rw [Stmt.unplaced, Eval.stmt, Eval.stmt]
    refine .bind (.enterSpan _ _) fun _ => .bind (ih.numbers here args) fun _ => ?_
    exact .bind (.emit _ _) fun _ => .pure none
  | paint color span =>
    rw [Stmt.unplaced, Eval.stmt, Eval.stmt]
    refine .bind (.enterSpan _ _) fun _ => .bind (ih.expr here color) fun _ => ?_
    exact .bind (.ofExcept _) fun _ => .bind (.emit _ _) fun _ => .pure none
  | pen down span =>
    rw [Stmt.unplaced, Eval.stmt, Eval.stmt]
    exact .bind (.enterSpan _ _) fun _ => .bind (.emit _ _) fun _ => .pure none
  | sense sensor span =>
    rw [Stmt.unplaced, Eval.stmt, Eval.stmt]
    refine .bind (.enterSpan _ _) fun _ => .bind (ih.sense here sensor) fun _ => ?_
    exact .bind (.emit _ _) fun _ => .pure none
  | call site =>
    rw [Stmt.unplaced, Eval.stmt, Eval.stmt]
    exact .bind (.enterSpan _ _) fun _ => .bind (ih.call here site) fun _ => .pure none

end

/-- **Places decide nothing.** -/
theorem everywhere (functions : String → Option Function) (fuel : Nat) :
    Unplaceable functions fuel := by
  induction fuel with
  | zero =>
    exact {
      expr := fun _ _ => .outOfFuel
      form := fun _ _ => .outOfFuel
      sense := fun _ _ => .outOfFuel
      call := fun _ _ => .outOfFuel
      arguments := fun _ _ _ _ => .outOfFuel
      argument := fun _ _ _ _ => .outOfFuel
      runFunction := fun _ _ _ => .outOfFuel
      stmts := fun _ _ => .outOfFuel
      stmt := fun _ _ => .outOfFuel
      branch := fun _ _ _ => .outOfFuel
      firstRound := fun _ _ _ _ => .outOfFuel
      rounds := fun _ _ _ => .outOfFuel
      numbers := fun _ _ => .outOfFuel
      writeOut := fun _ _ => .outOfFuel }
  | succ fuel ih =>
    exact {
      expr := ih.expr_succ
      form := ih.form_succ
      sense := ih.sense_succ
      call := ih.call_succ
      arguments := ih.arguments_succ
      argument := ih.argument_succ
      runFunction := ih.runFunction_succ
      stmts := ih.stmts_succ
      stmt := ih.stmt_succ
      branch := ih.branch_succ
      firstRound := ih.firstRound_succ
      rounds := ih.rounds_succ
      numbers := ih.numbers_succ
      writeOut := ih.writeOut_succ }

end Unplaceable

end Eval

/-! ## Operations -/

namespace Session

open Eval

/-- A session without lines: the places of its program, the lines of its calls and its current line
are forgotten. -/
def unplaced (s : Session) : Session where
  declarations := s.declarations.unplaced
  settings := s.settings
  prepared := s.prepared
  machine := { s.machine with memory := s.machine.memory.unplaced, line := 0 }

section

variable {functions : String → Option Function} {fuel : Nat}

lemma coincide_defineStandIns (params : List Param) :
    Coincide (defineStandIns params) (defineStandIns (params.map Param.unplaced)) := by
  induction params with
  | nil => exact .pure ()
  | cons param rest ih => exact .bind (.define _ _) fun _ => ih

lemma coincide_prepareFunction (function : Function) :
    Coincide (prepareFunction functions fuel function)
      (prepareFunction (Eval.unplaced functions) fuel function.unplaced) := by
  unfold prepareFunction
  rw [Function.name_unplaced, Function.params_unplaced, Function.body_unplaced,
    Block.stmts_unplaced]
  refine .bind (.label _) fun _ => .currentLine_bind fun line line' => ?_
  refine .bind (.pushFrame _ _ _) fun _ => .bind (.setLine _ _) fun _ => ?_
  refine .bind (coincide_defineStandIns _) fun _ => ?_
  refine .bind ((Unplaceable.everywhere functions fuel).stmts _ _) fun _ => ?_
  exact .bind .popFrame fun _ => .label _

lemma coincide_prepareAll (list : List Function) :
    Coincide (prepareAll functions fuel list)
      (prepareAll (Eval.unplaced functions) fuel (list.map Function.unplaced)) := by
  induction list with
  | nil => exact .pure ()
  | cons function rest ih => exact .bind (coincide_prepareFunction function) fun _ => ih

lemma coincide_runMain :
    Coincide (runMain functions fuel) (runMain (Eval.unplaced functions) fuel) := by
  unfold runMain
  refine .bind (.label _) fun _ => ?_
  rw [Eval.unplaced]
  cases functions mainName with
  | none => exact .throw _
  | some main =>
    exact .bind ((Unplaceable.everywhere functions fuel).runFunction _ main []) fun _ => .label _

end

variable {s t : Session} {op : Operation} {fuel : Nat}

/-- An operation comes to the same as in a session that has no lines. -/
lemma coincide_activity :
    Coincide (s.activity fuel op) (s.unplaced.activity fuel op) := by
  have found : s.unplaced.declarations.find? = Eval.unplaced s.declarations.find? :=
    funext s.declarations.find?_unplaced
  have others : s.unplaced.preparable = s.preparable.map Function.unplaced := by
    simp only [preparable, unplaced, Declarations.unplaced, List.filter_map]
    rfl
  cases op with
  | run =>
    rw [activity, activity, found]
    exact coincide_runMain
  | prepare =>
    have prepared : s.unplaced.prepared = s.prepared := rfl
    rw [activity, activity, found, others, prepared]
    split
    · exact .pure ()
    · exact coincide_prepareAll _

/-- Two sessions that are the same but for places in their programs and for lines. -/
structure SameButLines (s t : Session) : Prop where
  declarations : s.declarations.unplaced = t.declarations.unplaced
  settings : s.settings = t.settings
  prepared : s.prepared = t.prepared
  machine : s.machine.SameButLines t.machine

/-- An operation has the same outcome in both sessions, up to lines. -/
lemma SameButLines.operate (h : SameButLines s t) (op : Operation) (fuel : Nat) :
    Option.Rel
      (fun p q => p.1.mapError (·.fault) = q.1.mapError (·.fault) ∧ SameButLines p.2 q.2)
      (s.operate op fuel) (t.operate op fuel) := by
  have alike : s.unplaced.activity fuel op = t.unplaced.activity fuel op := by
    have declarations : s.unplaced.declarations = t.unplaced.declarations := h.declarations
    have prepared : s.unplaced.prepared = t.unplaced.prepared := h.prepared
    cases op with
    | run => rw [activity, activity, declarations]
    | prepare => rw [activity, activity, preparable, preparable, declarations, prepared]
  have coincide : Coincide (s.activity fuel op) (t.activity fuel op) := by
    have there : Coincide (t.activity fuel op) (s.unplaced.activity fuel op) :=
      alike ▸ coincide_activity
    exact coincide_activity.trans there.symm
  have stops := coincide h.machine
  rw [operate_eq_map, operate_eq_map]
  generalize s.activity fuel op s.machine = left at stops ⊢
  generalize t.activity fuel op t.machine = right at stops ⊢
  cases stops with
  | none => exact .none
  | @some p q stops =>
    obtain ⟨outcome, m⟩ := p
    obtain ⟨outcome', n⟩ := q
    obtain ⟨rfl, machine⟩ := stops
    refine .some ⟨?_, h.declarations, h.settings, ?_, machine⟩
    · cases outcome <;> rfl
    · rw [h.prepared]

/-! ## Sequences of operations -/

/-- What can be seen of two sessions after an operation is the same, but for line numbers. -/
structure SeenAlikeButLines (p q : Except LocatedFault Unit × Session) : Prop where
  /-- Both operations succeed, or both fail with the same fault. -/
  outcome : p.1.mapError (·.fault) = q.1.mapError (·.fault)
  lines : p.2.lines = q.2.lines
  valueOf? : ∀ name, p.2.valueOf? name = q.2.valueOf? name
  /-- There are frames for the same functions, with the same slots for their variables, and the
  slots hold the same values. -/
  memory : p.2.machine.memory.unplaced = q.2.machine.memory.unplaced
  depth : p.2.machine.memory.depth = q.2.machine.memory.depth
  functions : p.2.machine.memory.frames.map (·.function) =
    q.2.machine.memory.frames.map (·.function)
  /-- The backtraces are the same once every line in them is zero. -/
  backtrace : ∀ limit, p.2.unplaced.backtrace limit = q.2.unplaced.backtrace limit
  input : p.2.machine.input = q.2.machine.input
  trace : Option.Rel (fun trace trace' => Renumbered trace.sink.stored trace'.sink.stored)
    p.2.machine.trace q.2.machine.trace

lemma SameButLines.seenAlike {p q : Except LocatedFault Unit × Session}
    (outcome : p.1.mapError (·.fault) = q.1.mapError (·.fault)) (h : SameButLines p.2 q.2) :
    SeenAlikeButLines p q := by
  have functions : p.2.machine.memory.frames.map (·.function) =
      q.2.machine.memory.frames.map (·.function) := by
    have same := congrArg (·.frames.map Frame.function) h.machine.memory
    simp only [Memory.unplaced, List.map_map] at same
    exact same
  refine ⟨outcome, ?_, fun name => ?_, h.machine.memory, ?_, functions, fun limit => ?_,
    h.machine.input, ?_⟩
  · rw [Session.lines, Session.lines, h.machine.transcript, h.settings]
  · rw [Session.valueOf?, ← Memory.get?_unplaced, h.machine.memory, Memory.get?_unplaced]
    rfl
  · simpa only [Memory.depth, List.length_map] using congrArg List.length functions
  · simp only [Session.backtrace, unplaced, h.machine.memory, h.settings]
  · have traces := h.machine.trace
    generalize p.2.machine.trace = left at traces ⊢
    generalize q.2.machine.trace = right at traces ⊢
    cases traces with
    | none => exact .none
    | some same => exact .some same.stored

lemma SameButLines.history (h : SameButLines s t) (ops : List (Operation × Nat)) :
    Option.Rel (List.Forall₂ SeenAlikeButLines) (s.history ops) (t.history ops) := by
  induction ops generalizing s t with
  | nil => exact .some .nil
  | cons entry rest ih =>
    obtain ⟨op, fuel⟩ := entry
    have first := h.operate op fuel
    simp only [Session.history]
    generalize s.operate op fuel = left at first ⊢
    generalize t.operate op fuel = right at first ⊢
    cases first with
    | none => exact .none
    | @some p q related =>
      obtain ⟨outcome, alike⟩ := related
      have later := ih alike
      simp only [Option.bind_eq_bind, Option.bind_some]
      generalize p.2.history rest = left at later ⊢
      generalize q.2.history rest = right at later ⊢
      cases later with
      | none => exact .none
      | some seen => exact .some (.cons (alike.seenAlike outcome) seen)

lemma SameButLines.withTraceSink (h : SameButLines s t) {sink : Sink} (never : sink.NeverFails) :
    SameButLines (s.withTraceSink sink) (t.withTraceSink sink) :=
  ⟨h.declarations, h.settings, h.prepared, h.machine.memory, h.machine.transcript, h.machine.input,
    .some ⟨rfl, rfl, .refl _, never, never⟩⟩

/-! ## Loading -/

/-- Two programs are both loaded, into sessions that are related, or both are refused with the same
fault. -/
inductive LoadedAlike (Alike : Session → Session → Prop) :
    Except LocatedFault Session → Except LocatedFault Session → Prop where
  | loaded {s t : Session} (alike : Alike s t) : LoadedAlike Alike (.ok s) (.ok t)
  | refused (fault : Fault) (line line' : UInt32) :
      LoadedAlike Alike (.error ⟨fault, line⟩) (.error ⟨fault, line'⟩)

/-- Programs that are the same without their places declare the same functions, or the same
function twice. -/
lemma ofProgram_alike {p q : Program} (same : p.unplaced = q.unplaced) :
    (∃ name line line',
      Declarations.ofProgram p = .error ⟨.duplicateDefinition name, line⟩ ∧
      Declarations.ofProgram q = .error ⟨.duplicateDefinition name, line'⟩) ∨
    ∃ declarations declarations' : Declarations,
      Declarations.ofProgram p = .ok declarations ∧
      Declarations.ofProgram q = .ok declarations' ∧
      declarations.unplaced = declarations'.unplaced := by
  have functions : p.functions.map Function.unplaced = q.functions.map Function.unplaced :=
    congrArg Program.functions same
  have repeated : (Declarations.firstRepeated? [] p.functions).map Function.unplaced =
      (Declarations.firstRepeated? [] q.functions).map Function.unplaced := by
    rw [← Declarations.firstRepeated?_unplaced, functions, Declarations.firstRepeated?_unplaced]
  unfold Declarations.ofProgram
  generalize Declarations.firstRepeated? [] p.functions = left at repeated ⊢
  generalize Declarations.firstRepeated? [] q.functions = right at repeated ⊢
  cases left with
  | none =>
    cases right with
    | none => exact Or.inr ⟨_, _, rfl, rfl, congrArg Declarations.mk functions⟩
    | some g => cases repeated
  | some f =>
    cases right with
    | none => cases repeated
    | some g =>
      have named : f.name.name = g.name.name :=
        congrArg (·.name.name) (Option.some.inj repeated)
      refine Or.inl ⟨f.name.name, f.span.startLine, g.span.startLine, rfl, ?_⟩
      rw [named]

/-- The trace that the settings ask for is opened in the same way for both programs. -/
lemma load_alike {p q : Program} (same : p.unplaced = q.unplaced) (settings : Settings)
    (input : Input) (openTrace : String → Except Fault Sink)
    (never : ∀ path sink, settings.trace = some path → openTrace path = .ok sink →
      sink.NeverFails) :
    LoadedAlike SameButLines (load p settings input openTrace)
      (load q settings input openTrace) := by
  unfold load
  rcases ofProgram_alike same with ⟨name, line, line', declared, declared'⟩ |
    ⟨declarations, declarations', declared, declared', alike⟩
  · rw [declared, declared']
    exact .refused _ _ _
  · rw [declared, declared']
    cases named : settings.trace with
    | none => exact .loaded ⟨alike, rfl, rfl, rfl, rfl, rfl, .none⟩
    | some path =>
      cases opens : openTrace path with
      | error fault =>
        simp only [bind, Except.bind, opens]
        exact .refused fault 0 0
      | ok sink =>
        have lasts := never path sink named opens
        simp only [bind, Except.bind, opens]
        exact .loaded ⟨alike, rfl, rfl, rfl, rfl, rfl, .some ⟨rfl, rfl, .refl _, lasts, lasts⟩⟩

/-- **Positions affect reported lines only.**  Take two programs that are the same without their
places, and load them with the same settings and the same input, so that no trace is kept or its
sink never fails.  Both are loaded, or both are refused with the same fault.  If they are loaded,
then whatever operations are carried out, one after the other and each with the same fuel, they
come to the same up to line numbers: the outcomes, the lines of the transcript, the variables, the
frames, the backtraces, the rest of the input and the trace.  The same holds when both sessions are
given a trace sink that never fails. -/
theorem positions_affect_only_lines {p q : Program} (same : p.unplaced = q.unplaced)
    (settings : Settings) (input : Input) (openTrace : String → Except Fault Sink)
    (never : ∀ path sink, settings.trace = some path → openTrace path = .ok sink →
      sink.NeverFails) :
    LoadedAlike
      (fun s t => ∀ ops,
        Option.Rel (List.Forall₂ SeenAlikeButLines) (s.history ops) (t.history ops) ∧
        ∀ sink : Sink, sink.NeverFails →
          Option.Rel (List.Forall₂ SeenAlikeButLines) ((s.withTraceSink sink).history ops)
            ((t.withTraceSink sink).history ops))
      (load p settings input openTrace) (load q settings input openTrace) := by
  have alike := load_alike same settings input openTrace never
  generalize load p settings input openTrace = left at alike ⊢
  generalize load q settings input openTrace = right at alike ⊢
  cases alike with
  | loaded alike =>
    exact .loaded fun ops =>
      ⟨alike.history ops, fun sink lasts => (alike.withTraceSink lasts).history ops⟩
  | refused fault line line' => exact .refused fault line line'

/-- A program that divides by a number that it reads, in a function of its own.  Its lines start
after so many others. -/
def quotientAfter (lines : UInt32) : Program where
  functions :=
    [⟨⟨"main", .unknown⟩, [], none,
      ⟨[.read ⟨"x", .unknown⟩ (.ofLine (lines + 2)),
        .assign (.var ⟨"y", .unknown⟩)
          (.call ⟨⟨"quotient", .unknown⟩, [.var "x" .unknown], .unknown⟩ .unknown)
          (.ofLine (lines + 3))], .unknown⟩, .ofLine (lines + 1)⟩,
     ⟨⟨"quotient", .unknown⟩, [.byValue ⟨"n", .unknown⟩], some .integer,
      ⟨[.giveBack
          (some (.binary (.integer 12 .unknown) (.arithmetic .div) (.var "n" .unknown) .unknown))
          (.ofLine (lines + 6))], .unknown⟩, .ofLine (lines + 5)⟩]
  span := .unknown

/-- The sessions of that program, with a trace and two numbers to read. -/
def quotientSession (lines : UInt32) : Session :=
  ⟨⟨(quotientAfter lines).functions⟩, .standard, false,
    initialMachine ⟨["3", "0"], []⟩ (some (.ofSink .unbounded))⟩

/-- The lines of the faults in a history. -/
def faultLines (history : List (Except LocatedFault Unit × Session)) : List (Option UInt32) :=
  history.map fun stop => match stop.1 with
    | .ok () => none
    | .error fault => some fault.line

theorem positions_affect_only_lines_quotient : ∃ first second,
    (quotientSession 0).history [(.prepare, 16), (.run, 16), (.run, 16)] = some first ∧
    (quotientSession 10).history [(.prepare, 16), (.run, 16), (.run, 16)] = some second ∧
    List.Forall₂ SeenAlikeButLines first second ∧
    faultLines first = [none, none, some 6] ∧ faultLines second = [none, none, some 16] := by
  have same : (quotientAfter 0).unplaced = (quotientAfter 10).unplaced := rfl
  have alike := positions_affect_only_lines same .standard ⟨["3", "0"], []⟩
    (fun path => .error (.io path)) (by simp [Settings.standard])
  have loaded : ∀ lines, load (quotientAfter lines) .standard ⟨["3", "0"], []⟩
      (fun path => .error (.io path)) =
        .ok ⟨⟨(quotientAfter lines).functions⟩, .standard, false,
          initialMachine ⟨["3", "0"], []⟩ none⟩ := fun _ => rfl
  rw [loaded, loaded] at alike
  cases alike with
  | loaded alike =>
    obtain ⟨-, traced⟩ := alike [(.prepare, 16), (.run, 16), (.run, 16)]
    have seen := traced .unbounded ⟨rfl, rfl⟩
    have ends : ((quotientSession 0).history [(.prepare, 16), (.run, 16), (.run, 16)]).map
        faultLines = some [none, none, some 6] := by decide +kernel
    have ends' : ((quotientSession 10).history [(.prepare, 16), (.run, 16), (.run, 16)]).map
        faultLines = some [none, none, some 16] := by decide +kernel
    obtain ⟨first, ran, faults⟩ := Option.map_eq_some_iff.mp ends
    obtain ⟨second, ran', faults'⟩ := Option.map_eq_some_iff.mp ends'
    refine ⟨first, second, ran, ran', ?_, faults, faults'⟩
    change Option.Rel (List.Forall₂ SeenAlikeButLines) ((quotientSession 0).history _)
      ((quotientSession 10).history _) at seen
    rw [ran, ran'] at seen
    cases seen with
    | some seen => exact seen

end Session

end RobotScribe
