/-
# Unrolling a loop

A loop can be unrolled by one round: test its condition, and if that holds, run its body and then
the loop.  In silent code, this makes no difference but for places.  The loop after the first round
stands deeper, and it enters its own line again.

A loop comes to its end with some amount of fuel, and its unrolled form with another one.  So both
are compared with forms that have the same fuel in all of their parts (`restOfLoop`), from which
they differ only by that (`Eval.Below`).  These forms are related by the same code in other places.
-/
import RobotScribe.Proofs.Fuel
import RobotScribe.Proofs.Relocation

namespace RobotScribe

namespace Eval

variable {α β : Type}

/-! ## Computations that come further -/

/-- Whatever the first computation comes to, the second one comes to as well. -/
def Below (x y : Eval α) : Prop := ∀ ⦃m p⦄, x m = some p → y m = some p

namespace Below

lemma refl (x : Eval α) : Below x x := fun _ _ ran => ran

lemma trans {x y z : Eval α} (first : Below x y) (second : Below y z) : Below x z :=
  fun _ _ ran => second (first ran)

lemma outOfFuel (y : Eval α) : Below outOfFuel y := by
  intro m p ran
  cases ran

lemma bind {x y : Eval α} {f g : α → Eval β} (first : Below x y)
    (second : ∀ a, Below (f a) (g a)) : Below (x >>= f) (y >>= g) := by
  rintro m ⟨outcome, m'⟩ ran
  rcases bind_eq_some.mp ran with ⟨fault, rfl, stopped⟩ | ⟨a, l, done, ran⟩
  · exact bind_of_error (first stopped)
  · rw [bind_of_ok (first done)]
    exact second a ran

lemma of_repeats {x y : Eval α} (h : Repeats (fun s t => s = t) x y) : Below x y :=
  fun _ _ ran => h.eq_some ran

end Below

section

variable (functions : String → Option Function) {fuel fuel' : Nat} {here : Cursor}

lemma below_expr (le : fuel ≤ fuel') (e : Expr) :
    Below (expr functions fuel here e) (expr functions fuel' here e) :=
  fun _ _ ran => expr_of_le functions le ran

lemma below_stmts (le : fuel ≤ fuel') (statements : List Stmt) :
    Below (stmts functions fuel here statements) (stmts functions fuel' here statements) :=
  fun _ _ ran => stmts_of_le functions le ran

lemma below_stmt (le : fuel ≤ fuel') (s : Stmt) :
    Below (stmt functions fuel here s) (stmt functions fuel' here s) := by
  obtain ⟨extra, rfl⟩ := Nat.exists_eq_add_of_le le
  exact .of_repeats ((Repeats.everywhere appends_eq functions extra fuel).stmt ⟨rfl, rfl⟩ s)

lemma below_rounds (le : fuel ≤ fuel') (runs : here.phase.executes = true) (condition : Expr)
    (body : Block) :
    Below (rounds functions fuel here condition body)
      (rounds functions fuel' here condition body) := by
  obtain ⟨extra, rfl⟩ := Nat.exists_eq_add_of_le le
  have everywhere := Repeats.everywhere appends_eq functions extra fuel
  exact .of_repeats (everywhere.rounds ⟨rfl, rfl⟩ runs condition body)

end

/-! ## One part after another -/

/-- Goes on with a second part, unless the first one ends with a `return`. -/
def andThen (first second : Eval Flow) : Eval Flow := do
  match ← first with
  | none => second
  | some value => return some value

lemma andThen_none (second : Eval Flow) : andThen (pure none) second = second := by
  simp [andThen]

lemma none_andThen (first : Eval Flow) : andThen first (pure none) = first := by
  have same : (fun flow : Flow => match flow with
      | none => (pure none : Eval Flow)
      | some value => pure (some value)) = pure := by
    funext flow
    cases flow <;> rfl
  unfold andThen
  rw [same, bind_pure]

lemma andThen_assoc (first second third : Eval Flow) :
    andThen (andThen first second) third = andThen first (andThen second third) := by
  unfold andThen
  rw [bind_assoc]
  congr 1
  funext flow
  cases flow <;> simp

lemma Below.andThen {first first' second second' : Eval Flow} (below : Below first first')
    (below' : Below second second') : Below (andThen first second) (andThen first' second') := by
  refine below.bind fun flow => ?_
  cases flow with
  | none => exact below'
  | some value => exact .refl _

lemma Relocates.andThen {bounded : Prop} {first first' second second' : Eval Flow}
    (h : Relocates bounded first first') (h' : Relocates bounded second second') :
    Relocates bounded (andThen first second) (andThen first' second') := by
  refine h.bind fun flow => ?_
  cases flow with
  | none => exact h'
  | some value => exact .pure _

/-! ## Silent code -/

section

variable (functions : String → Option Function) {fuel fuel' : Nat} {here : Cursor}

/-- Does something if a condition holds. -/
def guarded (fuel : Nat) (here : Cursor) (condition : Expr) (x : Eval Flow) : Eval Flow := do
  let value ← expr functions fuel here condition
  let holds ← ofExcept value.expectBool
  if holds then x else return none

/-- What a loop does when it has entered its line: it tests its condition, and so on. -/
def restOfLoop (fuel : Nat) (here : Cursor) (condition : Expr) (body : Block) : Eval Flow :=
  guarded functions fuel here condition (rounds functions fuel here condition body)

lemma Below.guarded {x y : Eval Flow} (le : fuel ≤ fuel') (h : Below x y) (condition : Expr) :
    Below (guarded functions fuel here condition x) (guarded functions fuel' here condition y) := by
  refine (below_expr functions le condition).bind fun value => (Below.refl _).bind fun holds => ?_
  cases holds with
  | true => exact h
  | false => exact .refl _

variable (silent : here.phase = .silent)
include silent

lemma emit_of_silent (text : String) : emit here text = pure () := by
  funext m
  simp [emit, Transcript.emit, silent, Phase.emits]

lemma executes_of_silent : here.phase.executes = true := by
  rw [silent]
  rfl

lemma leaveOut_of_silent (statements : List Stmt) (flow : Flow) :
    leaveOut functions fuel here statements flow = pure flow := by
  unfold leaveOut
  rw [silent]

lemma stmts_cons_of_silent (s : Stmt) (rest : List Stmt) :
    stmts functions (fuel + 1) here (s :: rest) =
      andThen (stmt functions fuel here s) (stmts functions fuel here rest) := by
  rw [stmts_cons_of_executes functions (executes_of_silent silent)]
  simp only [leaveOut_of_silent functions silent]
  rfl

lemma rounds_of_silent (condition : Expr) (body : Block) :
    rounds functions (fuel + 1) here condition body =
      andThen (stmts functions fuel here.deeper body.stmts)
        (restOfLoop functions fuel here condition body) := by
  have same : here.inPhase .silent = here := by
    rw [← silent]
    rfl
  rw [rounds, same, andThen]
  congr 1
  funext flow
  cases flow <;> rfl

lemma stmt_whileDo_of_silent (condition : Expr) (body : Block) (span : Span) :
    stmt functions (fuel + 2) here (.whileDo condition body span) =
      enterSpan span >>= fun _ => guarded functions (fuel + 1) here condition
        (rounds functions fuel here condition body) := by
  have inside : here.deeper.phase = .silent := silent
  rw [stmt]
  simp only [emit_of_silent silent, firstRound_of_executes functions (executes_of_silent silent),
    leaveOut_of_silent functions inside, pure_bind, bind_pure]
  rfl

lemma stmt_ifThen_of_silent (condition : Expr) (block : Block) :
    stmt functions (fuel + 2) here (.ifThen condition block none .unknown) =
      guarded functions (fuel + 1) here condition
        (stmts functions fuel here.deeper block.stmts) := by
  have inside : here.deeper.phase = .silent := silent
  rw [stmt_ifThen]
  simp only [emit_of_silent silent, branch_of_executes functions (executes_of_silent silent),
    leaveOut_of_silent functions inside, secondBranch, pure_bind, bind_pure]
  rfl

/-! ### Statements in two parts -/

/-- Statements come to no more than their parts do. -/
lemma stmts_append_below (fuel : Nat) (front back : List Stmt) :
    Below (stmts functions fuel here (front ++ back))
      (andThen (stmts functions fuel here front) (stmts functions fuel here back)) := by
  induction front generalizing fuel with
  | nil =>
    cases fuel with
    | zero => exact .outOfFuel _
    | succ fuel =>
      rw [List.nil_append, stmts, andThen_none]
      exact .refl _
  | cons s rest ih =>
    cases fuel with
    | zero => exact .outOfFuel _
    | succ fuel =>
      rw [List.cons_append, stmts_cons_of_silent functions silent,
        stmts_cons_of_silent functions silent, andThen_assoc]
      refine (Below.refl _).andThen ((ih fuel).trans ((Below.refl _).andThen ?_))
      exact below_stmts functions (Nat.le_succ fuel) back

/-- Statements come to all that their parts do, with some more fuel. -/
lemma below_stmts_append (fuel : Nat) (front back : List Stmt) :
    Below (andThen (stmts functions fuel here front) (stmts functions fuel here back))
      (stmts functions (fuel + front.length) here (front ++ back)) := by
  induction front generalizing fuel with
  | nil =>
    cases fuel with
    | zero => exact .outOfFuel _
    | succ fuel =>
      rw [stmts, andThen_none]
      exact .refl _
  | cons s rest ih =>
    cases fuel with
    | zero => exact .outOfFuel _
    | succ fuel =>
      have longer : fuel + 1 + (s :: rest).length = fuel + 1 + rest.length + 1 := rfl
      rw [stmts_cons_of_silent functions silent, andThen_assoc, longer, List.cons_append,
        stmts_cons_of_silent functions silent]
      refine Below.andThen (below_stmt functions (by omega) s) (Below.trans ?_ (ih (fuel + 1)))
      exact (below_stmts functions (Nat.le_succ fuel) rest).andThen (.refl _)

/-! ## The two forms of a loop -/

/-- A loop, round by round: after the first one it does what is left of it. -/
def rolled (fuel : Nat) (here : Cursor) (condition : Expr) (body : Block) (span : Span) :
    Eval Flow :=
  enterSpan span >>= fun _ => guarded functions fuel here condition
    (andThen (stmts functions fuel here.deeper body.stmts)
      (restOfLoop functions fuel here condition body))

/-- The unrolled loop: after the first round it enters the line of the loop, which stands deeper. -/
def unrolled (fuel : Nat) (here : Cursor) (condition : Expr) (body : Block) (span : Span) :
    Eval Flow :=
  guarded functions fuel here condition
    (andThen (stmts functions fuel here.deeper body.stmts)
      (enterSpan span >>= fun _ => restOfLoop functions fuel here.deeper condition body))

variable (condition : Expr) (body : Block) (span : Span)

lemma whileDo_below_rolled (fuel : Nat) :
    Below (stmt functions fuel here (.whileDo condition body span))
      (rolled functions (fuel + 2) here condition body span) := by
  refine (below_stmt functions (show fuel ≤ fuel + 3 by omega) _).trans ?_
  rw [stmt_whileDo_of_silent functions silent, rounds_of_silent functions silent]
  refine (Below.refl _).bind fun _ => Below.guarded functions (Nat.le_refl _) ?_ condition
  refine (below_stmts functions (by omega) _).andThen ?_
  exact Below.guarded functions (by omega)
    (below_rounds functions (by omega) (executes_of_silent silent) _ _) condition

lemma rolled_below_whileDo (fuel : Nat) :
    Below (rolled functions fuel here condition body span)
      (stmt functions (fuel + 3) here (.whileDo condition body span)) := by
  rw [stmt_whileDo_of_silent functions silent, rounds_of_silent functions silent]
  refine (Below.refl _).bind fun _ => Below.guarded functions (by omega) ?_ condition
  exact .refl _

lemma stmts_singleton_of_silent (s : Stmt) :
    stmts functions (fuel + 2) here [s] = stmt functions (fuel + 1) here s := by
  rw [stmts_cons_of_silent functions silent, stmts, none_andThen]

lemma ifThen_below_unrolled (blockSpan : Span) (fuel : Nat) :
    Below
      (stmt functions fuel here (.ifThen condition
        ⟨body.stmts ++ [.whileDo condition body span], blockSpan⟩ none .unknown))
      (unrolled functions (fuel + 1) here condition body span) := by
  refine (below_stmt functions (show fuel ≤ fuel + 2 by omega) _).trans ?_
  rw [stmt_ifThen_of_silent functions silent]
  refine Below.guarded functions (Nat.le_refl _) ?_ condition
  have inside : here.deeper.phase = .silent := silent
  refine (stmts_append_below functions inside fuel _ _).trans ?_
  refine (below_stmts functions (by omega) _).andThen ?_
  -- the loop in the branch is a statement of its own
  refine (below_stmts functions (show fuel ≤ fuel + 3 by omega) _).trans ?_
  rw [stmts_singleton_of_silent functions inside, stmt_whileDo_of_silent functions inside]
  refine (Below.refl _).bind fun _ => Below.guarded functions (Nat.le_refl _) ?_ condition
  exact below_rounds functions (by omega) (executes_of_silent inside) _ _

lemma unrolled_below_ifThen (blockSpan : Span) (fuel : Nat) :
    Below (unrolled functions fuel here condition body span)
      (stmt functions (fuel + 3 + body.stmts.length + 2) here (.ifThen condition
        ⟨body.stmts ++ [.whileDo condition body span], blockSpan⟩ none .unknown)) := by
  have inside : here.deeper.phase = .silent := silent
  rw [stmt_ifThen_of_silent functions silent]
  refine Below.guarded functions (by omega) ?_ condition
  refine Below.trans ?_ (below_stmts_append functions inside (fuel + 3) _ _)
  refine (below_stmts functions (by omega) _).andThen ?_
  rw [stmts_singleton_of_silent functions inside, stmt_whileDo_of_silent functions inside]
  exact (Below.refl _).bind fun _ => Below.guarded functions (by omega) (.refl _) condition

end

/-! ## The same but for places -/

section

variable {bounded : Prop} {functions : String → Option Function} {here there : Cursor}

lemma Relocates.guarded {x y : Eval Flow} (silent : here.phase = .silent)
    (silent' : there.phase = .silent) (h : Relocates bounded x y) (fuel : Nat) (condition : Expr) :
    Relocates bounded (guarded functions fuel here condition x)
      (guarded functions fuel there condition y) := by
  refine ((everywhere bounded functions fuel).expr ⟨silent, silent'⟩ condition).bind fun value => ?_
  refine (ofExcept _).bind fun holds => ?_
  cases holds with
  | true => exact h
  | false => exact .pure _

lemma relocates_restOfLoop (silent : here.phase = .silent) (silent' : there.phase = .silent)
    (fuel : Nat) (condition : Expr) (body : Block) :
    Relocates bounded (restOfLoop functions fuel here condition body)
      (restOfLoop functions fuel there condition body) := by
  have runs : here.phase.executes = true := executes_of_silent silent
  exact .guarded silent silent'
    ((Relocates.everywhere bounded functions fuel).rounds ⟨silent, silent'⟩ runs condition body)
    fuel condition

lemma rolled_relocates_unrolled (silent : here.phase = .silent) (fuel : Nat) (condition : Expr)
    (body : Block) (span : Span) :
    Relocates bounded (rolled functions fuel here condition body span)
      (unrolled functions fuel here condition body span) := by
  have everywhere := Relocates.everywhere bounded functions fuel
  refine .enterSpan_bind span (.guarded silent silent ?_ fuel condition)
  have inside : here.deeper.phase = .silent := silent
  refine Relocates.andThen (everywhere.stmts ⟨inside, inside⟩ _) (.bind_enterSpan span ?_)
  exact relocates_restOfLoop silent inside fuel condition body

lemma unrolled_relocates_rolled (silent : here.phase = .silent) (fuel : Nat) (condition : Expr)
    (body : Block) (span : Span) :
    Relocates bounded (unrolled functions fuel here condition body span)
      (rolled functions fuel here condition body span) := by
  have everywhere := Relocates.everywhere bounded functions fuel
  refine .bind_enterSpan span (.guarded silent silent ?_ fuel condition)
  have inside : here.deeper.phase = .silent := silent
  refine Relocates.andThen (everywhere.stmts ⟨inside, inside⟩ _) (.enterSpan_bind span ?_)
  exact relocates_restOfLoop inside silent fuel condition body

end

/-! ## Unrolling -/

section

variable (functions : String → Option Function)

/-- A statement comes to an end, given enough fuel. -/
def Completes (here : Cursor) (s : Stmt) (m : Machine) (p : Except Fault Flow × Machine) : Prop :=
  ∃ fuel, stmt functions fuel here s m = some p

/-- A statement has no more than one end. -/
lemma Completes.unique {here : Cursor} {s : Stmt} {m : Machine} {p q : Except Fault Flow × Machine}
    (ends : Completes functions here s m p) (ends' : Completes functions here s m q) : p = q := by
  obtain ⟨fuel, ran⟩ := ends
  obtain ⟨fuel', ran'⟩ := ends'
  have longer := below_stmt functions (Nat.le_max_left fuel fuel') s ran
  have longer' := below_stmt functions (Nat.le_max_right fuel fuel') s ran'
  exact Option.some.inj (longer.symm.trans longer')

/-- What can be seen of two machines is the same, but for what says where something is. -/
structure SeenAlike (m n : Machine) : Prop where
  /-- There are frames for the same functions, with the same slots for their variables, and the
  slots hold the same values. -/
  memory : m.memory.unplaced = n.memory.unplaced
  get? : ∀ name, m.memory.get? name = n.memory.get? name
  input : m.input = n.input
  lines : ∀ width, (m.transcript.lines width).map Text.flush =
    (n.transcript.lines width).map Text.flush
  trace : Option.Rel (fun trace trace' => Renumbered trace.sink.stored trace'.sink.stored)
    m.trace n.trace

lemma seenAlike {bounded : Prop} {m n : Machine} (h : m.SameButPlaces bounded n) :
    SeenAlike m n := by
  refine ⟨h.memory, fun name => ?_, h.input, Transcript.flush_lines_of_unindented_eq h.transcript,
    ?_⟩
  · rw [← Memory.get?_unplaced, h.memory, Memory.get?_unplaced]
  · have traces := h.trace
    generalize m.trace = left at traces ⊢
    generalize n.trace = right at traces ⊢
    cases traces with
    | none => exact .none
    | some same => exact .some same.stored

/-- With some amount of fuel, a statement comes to no more than a computation, and with another one
a second statement comes to all that a related computation comes to. -/
inductive FormsRelate (bounded : Prop) (here : Cursor) (s s' : Stmt) (fuel : Nat) : Prop where
  | intro {x y : Eval Flow} {fuel' : Nat} (below : Below (stmt functions fuel here s) x)
      (relates : Relocates bounded x y) (below' : Below y (stmt functions fuel' here s'))

/-- Where a statement comes to an end, another one whose forms are related comes to the same end,
unless the trace has no room for one of them. -/
lemma Completes.matched {here : Cursor} {s s' : Stmt} {m n : Machine}
    {outcome : Except Fault Flow} (ends : Completes functions here s m (outcome, n))
    (forms : ∀ fuel, FormsRelate functions m.HasBoundedTrace here s s' fuel) :
    (∃ n', Completes functions here s' m (outcome, n') ∧ SeenAlike n n') ∨
      m.HasBoundedTrace ∧
        (outcome = .error Sink.full ∨
          ∃ n', Completes functions here s' m (.error Sink.full, n')) := by
  obtain ⟨fuel, ran⟩ := ends
  obtain ⟨below, relates, below'⟩ := forms fuel
  rcases relates (Machine.SameButPlaces.refl m) (below ran) with
    ⟨n', done, alike⟩ | ⟨room, full | ⟨n', done⟩⟩
  · exact Or.inl ⟨n', ⟨_, below' done⟩, seenAlike alike⟩
  · exact Or.inr ⟨room, Or.inl full⟩
  · exact Or.inr ⟨room, Or.inr ⟨n', _, below' done⟩⟩

/-- Two statements do the same but for places: none of them comes to an end, or both do, with the
same result or the same fault. -/
def EndAlike (here : Cursor) (s s' : Stmt) (m : Machine) : Prop :=
  ((∀ p, ¬Completes functions here s m p) ∧ ∀ p, ¬Completes functions here s' m p) ∨
    ∃ outcome n n', Completes functions here s m (outcome, n) ∧
      Completes functions here s' m (outcome, n') ∧ SeenAlike n n'

/-- **A loop can be unrolled by one round.**  In silent code, at any depth and in any state, take a
loop, and a conditional whose branch has the statements of its body and then the loop.  Either none
of them comes to an end, or both do, with the same result or the same fault.  Then they leave the
same frames and variables, the same rest of the input, the same transcript but for indentation, and
the same trace but for the numbers of program lines.  The only exception is a trace whose room is
bounded, and that is full at the end of one of them. -/
theorem loop_unrolls (condition : Expr) (body : Block) (span blockSpan : Span) (depth : Nat)
    (m : Machine) :
    let here : Cursor := ⟨depth, .silent⟩
    let loop : Stmt := .whileDo condition body span
    let once : Stmt := .ifThen condition ⟨body.stmts ++ [loop], blockSpan⟩ none .unknown
    EndAlike functions here loop once m ∨
      m.HasBoundedTrace ∧ ∃ n, Completes functions here loop m (.error Sink.full, n) ∨
        Completes functions here once m (.error Sink.full, n) := by
  intro here loop once
  have silent : here.phase = .silent := rfl
  by_cases ends : ∃ p, Completes functions here loop m p
  · obtain ⟨⟨outcome, n⟩, ends⟩ := ends
    have forms fuel : FormsRelate functions m.HasBoundedTrace here loop once fuel := .intro
      (whileDo_below_rolled functions silent condition body span fuel)
      (rolled_relocates_unrolled silent _ condition body span)
      (unrolled_below_ifThen functions silent condition body span blockSpan _)
    rcases ends.matched functions forms with ⟨n', ends', alike⟩ | ⟨room, rfl | ⟨n', ends'⟩⟩
    · exact Or.inl (Or.inr ⟨outcome, n, n', ends, ends', alike⟩)
    · exact Or.inr ⟨room, n, Or.inl ends⟩
    · exact Or.inr ⟨room, n', Or.inr ends'⟩
  · by_cases ends' : ∃ p, Completes functions here once m p
    · obtain ⟨⟨outcome, n⟩, ends'⟩ := ends'
      have forms fuel : FormsRelate functions m.HasBoundedTrace here once loop fuel := .intro
        (ifThen_below_unrolled functions silent condition body span blockSpan fuel)
        (unrolled_relocates_rolled silent _ condition body span)
        (rolled_below_whileDo functions silent condition body span _)
      rcases ends'.matched functions forms with ⟨n', done, -⟩ | ⟨room, rfl | ⟨n', done⟩⟩
      · exact absurd ⟨_, done⟩ ends
      · exact Or.inr ⟨room, n, Or.inr ends'⟩
      · exact absurd ⟨_, done⟩ ends
    · exact Or.inl (Or.inl ⟨fun p done => ends ⟨p, done⟩, fun p done => ends' ⟨p, done⟩⟩)

end

/-! ## A trace without room -/

/-- A function that returns `false`. -/
def refusing : Function where
  name := ⟨"g", .unknown⟩
  params := []
  returns := some .boolean
  body := ⟨[.giveBack (some (.boolean false .unknown)) .unknown], .unknown⟩
  span := .ofLine 3

/-- A call of that function, at a place that is not known. -/
def asking : Expr := .call ⟨⟨"g", .unknown⟩, [], .unknown⟩ .unknown

/-- A main function at line 9, with a trace that has room for two lines. -/
def cramped : Machine :=
  ⟨⟨[⟨"main", 0, []⟩], ⟨#[]⟩⟩, .empty, ⟨[], []⟩, some ⟨.bounded 43, 0, false⟩, 9⟩

/-- The unrolled loop may come to its end where the trace of the loop is full: a loop at line 100
tests its condition at this line, and the conditional tests it at line 9, which is shorter. -/
theorem loop_unrolls_not_in_bounded_trace :
    ¬∀ (functions : String → Option Function) (condition : Expr) (body : Block)
      (span blockSpan : Span) (depth : Nat) (m : Machine),
        EndAlike functions ⟨depth, .silent⟩ (.whileDo condition body span)
          (.ifThen condition ⟨body.stmts ++ [.whileDo condition body span], blockSpan⟩ none
            .unknown) m := by
  intro unrolls
  have alike := unrolls (fun _ => some refusing) asking ⟨[], .unknown⟩ (.ofLine 100) .unknown 1
    cramped
  have loop : (stmt (fun _ => some refusing) 9 ⟨1, .silent⟩
      (.whileDo asking ⟨[], .unknown⟩ (.ofLine 100)) cramped).map (·.1.toOption) = some none := by
    decide +kernel
  have once : (stmt (fun _ => some refusing) 9 ⟨1, .silent⟩
      (.ifThen asking ⟨[] ++ [.whileDo asking ⟨[], .unknown⟩ (.ofLine 100)], .unknown⟩ none
        .unknown) cramped).map (·.1.toOption) = some (some none) := by
    decide +kernel
  obtain ⟨p, full, failed⟩ := Option.map_eq_some_iff.mp loop
  obtain ⟨q, done, returned⟩ := Option.map_eq_some_iff.mp once
  rcases alike with ⟨-, endless⟩ | ⟨outcome, l, l', ends, ends', -⟩
  · exact endless _ ⟨9, done⟩
  · cases Completes.unique _ ends ⟨9, full⟩
    cases Completes.unique _ ends' ⟨9, done⟩
    cases failed.symm.trans returned

end Eval

end RobotScribe
