/-
# The translation is complete

A list of statements has a serialization: the lines of the instructions that it stands for,
each statement once and in order.  When live code comes to its end it has written a
serialization of all its statements, and between its lines nothing but calls of blocks.  Which
branches were taken, how many rounds a loop made and where the code returned does not matter,
since the code that did not run was written out, and the later rounds were silent.
-/
import RobotScribe.Proofs.Markers
import RobotScribe.Proofs.Rendering

namespace RobotScribe

open Eval Machine

/-! ## Serializations -/

mutual

/-- The lines that a statement can be written as, at a depth. -/
inductive Serializes : Nat → Stmt → List Entry → Prop where
  | assign {depth : Nat} (target : Ident) {value : Expr} (span : Span) {text : String}
      (renders : Renders value text) :
      Serializes depth (.assign (.var target) value span)
        [.instruction depth (Text.assignForm target.name text)]
  | store {depth : Nat} (array : Ident) {index value : Expr} (span : Span) {i text : String}
      (place : Renders index i) (renders : Renders value text) :
      Serializes depth (.assign (.element array index) value span)
        [.instruction depth (Text.assignForm (Text.elementForm array.name i) text)]
  | ifThen {depth : Nat} {condition : Expr} {thenBlock : Block} (span : Span) {text : String}
      {lines : List Entry} (renders : Renders condition text)
      (first : SerializesAll (depth + 1) thenBlock.stmts lines) :
      Serializes depth (.ifThen condition thenBlock none span)
        (.instruction depth ("if " ++ text) :: (lines ++ [.instruction depth "endif"]))
  | ifElse {depth : Nat} {condition : Expr} {thenBlock elseBlock : Block} (span : Span)
      {text : String} {lines lines' : List Entry} (renders : Renders condition text)
      (first : SerializesAll (depth + 1) thenBlock.stmts lines)
      (second : SerializesAll (depth + 1) elseBlock.stmts lines') :
      Serializes depth (.ifThen condition thenBlock (some elseBlock) span)
        (.instruction depth ("if " ++ text) :: (lines ++
          (.instruction depth "else" :: (lines' ++ [.instruction depth "endif"]))))
  | whileDo {depth : Nat} {condition : Expr} {body : Block} (span : Span) {text : String}
      {lines : List Entry} (renders : Renders condition text)
      (inner : SerializesAll (depth + 1) body.stmts lines) :
      Serializes depth (.whileDo condition body span)
        (.instruction depth ("while " ++ text) :: (lines ++ [.instruction depth "wend"]))
  | giveBack {depth : Nat} (span : Span) :
      Serializes depth (.giveBack none span) [.instruction depth "Return"]
  | giveBackValue {depth : Nat} {value : Expr} (span : Span) {text : String}
      (renders : Renders value text) :
      Serializes depth (.giveBack (some value) span) [.instruction depth ("Return " ++ text)]
  | read {depth : Nat} (target : Ident) (span : Span) : Serializes depth (.read target span) []
  /-- What is printed is not said here: it depends on the phase. -/
  | write {depth : Nat} (value : Expr) (span : Span) (text : String) :
      Serializes depth (.write value span) [.instruction depth ("print " ++ text)]
  | actuate {depth : Nat} (actuator : Actuator) {args : List Expr} (span : Span)
      {texts : List String} (renders : List.Forall₂ Renders args texts) :
      Serializes depth (.actuate actuator args span)
        [.instruction depth (commandForm actuator texts)]
  | paint {depth : Nat} {color : Expr} (span : Span) {text : String}
      (renders : Renders color text) :
      Serializes depth (.paint color span) [.instruction depth ("rPen " ++ text)]
  | pen {depth : Nat} (down : Bool) (span : Span) :
      Serializes depth (.pen down span) [.instruction depth (penForm down)]
  | sense {depth : Nat} {sensor : Sensor} (span : Span) {text : String}
      (reads : Reads sensor text) :
      Serializes depth (.sense sensor span) [.instruction depth text]
  | call {depth : Nat} (site : Call) : Serializes depth (.call site) []

/-- The lines that a list of statements can be written as: those of the statements, in order. -/
inductive SerializesAll : Nat → List Stmt → List Entry → Prop where
  | nil {depth : Nat} : SerializesAll depth [] []
  | cons {depth : Nat} {s : Stmt} {rest : List Stmt} {lines lines' : List Entry}
      (first : Serializes depth s lines) (others : SerializesAll depth rest lines') :
      SerializesAll depth (s :: rest) (lines ++ lines')

end

/-! ## What computations write -/

/-- The lines that are not calls of blocks. -/
def instructions (lines : List Entry) : List Entry := lines.filter fun entry => !entry.isMarker

@[simp] lemma instructions_append (lines lines' : List Entry) :
    instructions (lines ++ lines') = instructions lines ++ instructions lines' :=
  List.filter_append lines lines'

lemma instructions_eq_nil {functions : String → Option Function} {depth : Nat}
    {lines : List Entry} (marks : ∀ entry ∈ lines, CallsBlock functions depth entry) :
    instructions lines = [] := by
  refine List.filter_eq_nil_iff.mpr fun entry mem => ?_
  obtain ⟨level, name, rfl, -⟩ := marks entry mem
  simp [Entry.isMarker]

variable (functions : String → Option Function)

/-- Whatever a computation comes to, the instructions that it has added have a property, and
all other lines that it has added call blocks. -/
def Writes {α : Type} (depth : Nat) (P : List Entry → Prop) (x : Eval α) : Prop :=
  ∀ ⦃m a n⦄, x m = some (.ok a, n) → ∃ added, n.written = m.written ++ added ∧
    P (instructions added) ∧
    ∀ entry ∈ added, entry.isMarker = true → CallsBlock functions depth entry

namespace Writes

variable {functions} {α β : Type} {depth : Nat} {P Q : List Entry → Prop} {x : Eval α}
  {f : α → Eval β}

lemma outOfFuel : Writes functions depth P (outOfFuel : Eval α) := by
  intro m a n ran
  cases ran

lemma mono (h : Writes functions depth P x) (weaken : ∀ lines, P lines → Q lines) :
    Writes functions depth Q x := by
  intro m a n ran
  obtain ⟨added, written, lines, marks⟩ := h ran
  exact ⟨added, written, weaken _ lines, marks⟩

lemma shallower {deep : Nat} (le : depth ≤ deep) (h : Writes functions deep P x) :
    Writes functions depth P x := by
  intro m a n ran
  obtain ⟨added, written, lines, marks⟩ := h ran
  exact ⟨added, written, lines, fun entry mem marker => (marks entry mem marker).shallower le⟩

/-- What writes only calls writes no instruction. -/
lemma of_marking (h : (marking functions depth).Allows x) (none : P []) :
    Writes functions depth P x := by
  intro m a n ran
  obtain ⟨added, written, marks⟩ : MarksOnly functions depth m n := h ran
  refine ⟨added, written, ?_, fun entry mem _ => marks entry mem⟩
  rw [instructions_eq_nil marks]
  exact none

/-- One part after the other, where the second one may use a property of the result. -/
lemma bind_result {R : α → Prop} (first : Writes functions depth P x) (result : Yields R x)
    (second : ∀ a lines, R a → P lines →
      Writes functions depth (fun lines' => Q (lines ++ lines')) (f a)) :
    Writes functions depth Q (x >>= f) := by
  intro m b n ran
  obtain ⟨a, l, ran, ran'⟩ := bind_eq_ok.mp ran
  obtain ⟨added, written, lines, marks⟩ := first ran
  obtain ⟨added', written', lines', marks'⟩ := second a _ (result ran) lines ran'
  refine ⟨added ++ added', by rw [written', written, List.append_assoc], ?_, ?_⟩
  · rw [instructions_append]
    exact lines'
  · intro entry mem marker
    rcases List.mem_append.mp mem with mem | mem
    · exact marks entry mem marker
    · exact marks' entry mem marker

lemma bind (first : Writes functions depth P x)
    (second : ∀ a lines, P lines →
      Writes functions depth (fun lines' => Q (lines ++ lines')) (f a)) :
    Writes functions depth Q (x >>= f) :=
  bind_result (R := fun _ => True) first (fun _ _ _ _ => trivial)
    fun a lines _ h => second a lines h

/-- A first part that writes only calls, and the property of its results. -/
lemma after_result {R : α → Prop} (first : (marking functions depth).Allows x)
    (result : Yields R x) (second : ∀ a, R a → Writes functions depth Q (f a)) :
    Writes functions depth Q (x >>= f) := by
  have silent : Writes functions depth (fun lines => lines = []) x := of_marking first rfl
  refine bind_result silent result ?_
  rintro a lines holds rfl
  exact second a holds

/-- A first part that writes only calls. -/
lemma after (first : (marking functions depth).Allows x)
    (second : ∀ a, Writes functions depth Q (f a)) : Writes functions depth Q (x >>= f) :=
  after_result (R := fun _ => True) first (fun _ _ _ _ => trivial) fun a _ => second a

/-- A last part that writes only calls. -/
lemma before (first : Writes functions depth P x)
    (second : ∀ a, (marking functions depth).Allows (f a)) :
    Writes functions depth P (x >>= f) := by
  refine bind first fun a lines h => of_marking (second a) ?_
  rw [List.append_nil]
  exact h

/-- An instruction in code that is written. -/
lemma emit {here : Cursor} (emits : here.phase.emits = true) (text : String)
    {f : Unit → Eval β}
    (second : Writes functions here.depth
      (fun lines => Q (.instruction here.depth text :: lines)) (f ())) :
    Writes functions here.depth Q (emit here text >>= f) := by
  have first : Writes functions here.depth
      (fun lines => lines = [.instruction here.depth text]) (Eval.emit here text) := by
    intro m a n ran
    cases ran
    refine ⟨[.instruction here.depth text], ?_, rfl, ?_⟩
    · simp [Machine.written, Transcript.emit, emits]
    · intro entry mem marker
      rw [List.mem_singleton.mp mem] at marker
      cases marker
  refine bind first ?_
  rintro ⟨⟩ lines rfl
  exact second

/-- What is taken back stays written. -/
lemma takingBack {body : Eval Unit} (h : Writes functions depth P body) :
    Writes functions depth P (takingBack body) := by
  intro m a n ran
  obtain ⟨l, walked, rfl⟩ := takingBack_eq_some.mp ran
  obtain ⟨added, written, rest⟩ := h walked
  exact ⟨added, written, rest⟩

end Writes

/-! ## The induction -/

/-- Code that is written, be it run or not, writes a serialization of itself, with so much
fuel. -/
structure Translated (fuel : Nat) : Prop where
  stmts : ∀ here : Cursor, here.phase.emits = true → ∀ statements,
    Writes functions here.depth (SerializesAll here.depth statements)
      (stmts functions fuel here statements)
  stmt : ∀ here : Cursor, here.phase.emits = true → ∀ s,
    Writes functions here.depth (Serializes here.depth s) (stmt functions fuel here s)
  branch : ∀ here : Cursor, here.phase.emits = true → ∀ block taken,
    Writes functions here.depth (SerializesAll (here.depth + 1) block.stmts)
      (branch functions fuel here block taken)
  firstRound : ∀ here : Cursor, here.phase.emits = true → ∀ condition body entered,
    Writes functions here.depth (SerializesAll (here.depth + 1) body.stmts)
      (firstRound functions fuel here condition body entered)
  rounds : ∀ here : Cursor, here.phase.emits = true → ∀ condition body,
    Writes functions here.depth (SerializesAll (here.depth + 1) body.stmts)
      (rounds functions fuel here condition body)
  writeOut : ∀ here statements,
    Writes functions here.depth (SerializesAll here.depth statements)
      (writeOut functions fuel here statements)

namespace Translated

variable {functions} {fuel : Nat} {here : Cursor}

/-- An expression writes only calls, and its value carries its text. -/
lemma after_expr {β : Type} {Q : List Entry → Prop} {f : Value → Eval β} {e : Expr}
    (second : ∀ value, Renders e value.text → Writes functions here.depth Q (f value)) :
    Writes functions here.depth Q (expr functions fuel here e >>= f) :=
  .after_result ((Marking.marked functions fuel).expr here e)
    ((rendered functions fuel).expr here e) second

/-- A test leaves the transcript alone. -/
lemma after_test {α β : Type} {Q : List Entry → Prop} {outcome : Except Fault α}
    {f : α → Eval β} (second : ∀ a, Writes functions here.depth Q (f a)) :
    Writes functions here.depth Q (Eval.ofExcept outcome >>= f) :=
  .after (.ofExcept outcome) second

lemma after_enterSpan {β : Type} {Q : List Entry → Prop} {span : Span} {f : Unit → Eval β}
    (second : Writes functions here.depth Q (f ())) :
    Writes functions here.depth Q (enterSpan span >>= f) :=
  .after ((Marking.walkable functions).enterSpan here span) fun _ => second

/-- An instruction and no more. -/
lemma of_emit (emits : here.phase.emits = true) {P : List Entry → Prop} {text : String}
    {flow : Flow} (line : P [.instruction here.depth text]) :
    Writes functions here.depth P (do
      emit here text
      return flow) :=
  .emit emits text (.of_marking (.pure flow) line)

variable (ih : Translated functions fuel)
include ih

lemma writeOut_succ (statements : List Stmt) :
    Writes functions here.depth (SerializesAll here.depth statements)
      (Eval.writeOut functions (fuel + 1) here statements) := by
  rw [Eval.writeOut]
  exact .takingBack (.before (ih.stmts (here.inPhase .dry) rfl statements) fun _ => .pure ())

variable (emits : here.phase.emits = true)
include emits

lemma stmts_succ (statements : List Stmt) :
    Writes functions here.depth (SerializesAll here.depth statements)
      (Eval.stmts functions (fuel + 1) here statements) := by
  cases statements with
  | nil => exact .of_marking (.pure none) .nil
  | cons s rest =>
    rw [Eval.stmts]
    refine .bind (ih.stmt here emits s) fun flow lines first => ?_
    have others : ∀ lines', SerializesAll here.depth rest lines' →
        SerializesAll here.depth (s :: rest) (lines ++ lines') := fun _ h => .cons first h
    cases flow with
    | none => exact (ih.stmts here emits rest).mono others
    | some value =>
      cases phase : here.phase with
      | dry => exact (ih.stmts here emits rest).mono others
      | live => exact .before ((ih.writeOut here rest).mono others) fun _ => .pure _
      | silent =>
        rw [phase] at emits
        cases emits

/-- A block is written one level deeper, whether it runs or not. -/
lemma block (block : Block) :
    Writes functions here.depth (SerializesAll (here.depth + 1) block.stmts)
        (Eval.stmts functions fuel here.deeper block.stmts) ∧
      Writes functions here.depth (SerializesAll (here.depth + 1) block.stmts)
        (Eval.writeOut functions fuel here.deeper block.stmts) := by
  have le : here.depth ≤ here.deeper.depth := Nat.le_succ here.depth
  exact ⟨(ih.stmts here.deeper emits block.stmts).shallower le,
    (ih.writeOut here.deeper block.stmts).shallower le⟩

lemma branch_succ (block : Block) (taken : Bool) :
    Writes functions here.depth (SerializesAll (here.depth + 1) block.stmts)
      (Eval.branch functions (fuel + 1) here block taken) := by
  obtain ⟨ran, unrun⟩ := ih.block emits block
  unfold Eval.branch
  split
  · exact .before ran fun _ => .pure none
  · exact ran
  · exact .before unrun fun _ => .pure none
  · next silent =>
    rw [silent] at emits
    cases emits

lemma firstRound_succ (condition : Expr) (body : Block) (entered : Bool) :
    Writes functions here.depth (SerializesAll (here.depth + 1) body.stmts)
      (Eval.firstRound functions (fuel + 1) here condition body entered) := by
  obtain ⟨ran, unrun⟩ := ih.block emits body
  unfold Eval.firstRound
  split
  · exact .before ran fun _ => .pure none
  · exact ih.rounds here emits condition body
  · exact .before unrun fun _ => .pure none
  · next silent =>
    rw [silent] at emits
    cases emits

/-- Only the first round of a loop is written. -/
lemma rounds_succ (condition : Expr) (body : Block) :
    Writes functions here.depth (SerializesAll (here.depth + 1) body.stmts)
      (Eval.rounds functions (fuel + 1) here condition body) := by
  have marked := Marking.marked functions fuel
  rw [Eval.rounds]
  refine .before (ih.block emits body).1 fun flow => ?_
  cases flow with
  | some value => exact .pure _
  | none =>
    refine .bind (marked.expr (here.inPhase .silent) condition) fun value => ?_
    refine .bind (.ofExcept _) fun again => ?_
    split
    · exact marked.rounds (here.inPhase .silent) rfl rfl condition body
    · exact .pure none

lemma stmt_succ (s : Stmt) :
    Writes functions here.depth (Serializes here.depth s)
      (Eval.stmt functions (fuel + 1) here s) := by
  have marked := Marking.marked functions fuel
  cases s with
  | assign target value span =>
    cases target with
    | var target =>
      rw [Eval.stmt]
      refine after_enterSpan (after_expr fun value text => .emit emits _ ?_)
      refine .of_marking ?_ (.assign target span text)
      exact .bind (Marking.define _ _) fun _ => .pure none
    | element array index =>
      rw [Eval.stmt]
      refine after_enterSpan (after_expr fun value text => after_expr fun index place => ?_)
      refine after_test fun i => .emit emits _ ?_
      refine .of_marking ?_ (.store array span place text)
      exact .bind (Marking.storeElement _ _ _) fun _ => .bind (.ofExcept _) fun _ => .pure none
  | ifThen condition thenBlock elseBlock span =>
    rw [Eval.stmt_ifThen]
    refine after_enterSpan (after_expr fun value text => after_test fun taken => ?_)
    refine .emit emits _ (.bind (ih.branch here emits thenBlock taken) fun first lines inner => ?_)
    cases elseBlock with
    | none => exact .after (.pure first) fun flow => of_emit emits (.ifThen span text inner)
    | some elseBlock =>
      have second : Writes functions here.depth
          (fun lines' => ∃ block, lines' = .instruction here.depth "else" :: block ∧
            SerializesAll (here.depth + 1) elseBlock.stmts block)
          (Eval.secondBranch functions fuel here (some elseBlock) taken first) := by
        refine .emit emits _ (.before ?_ fun _ => .pure _)
        exact (ih.branch here emits elseBlock _).mono fun block written => ⟨block, rfl, written⟩
      refine .bind second ?_
      rintro flow _ ⟨block, rfl, inner'⟩
      exact of_emit emits (.ifElse span text inner inner')
  | whileDo condition body span =>
    rw [Eval.stmt]
    refine after_enterSpan (after_expr fun value text => after_test fun entered => ?_)
    refine .emit emits _ (.bind (ih.firstRound here emits condition body entered) ?_)
    intro flow lines inner
    exact of_emit emits (.whileDo span text inner)
  | giveBack value span =>
    cases value with
    | none =>
      rw [Eval.stmt]
      exact after_enterSpan (of_emit emits (.giveBack span))
    | some value =>
      rw [Eval.stmt]
      exact after_enterSpan (after_expr fun value text => of_emit emits (.giveBackValue span text))
  | read target span =>
    rw [Eval.stmt]
    refine after_enterSpan (.of_marking ?_ (.read target span))
    dsimp only
    split
    · exact .bind Marking.nextInteger fun _ => .bind (Marking.define _ _) fun _ => .pure none
    · exact .bind (Marking.define _ _) fun _ => .pure none
  | write value span =>
    rw [Eval.stmt]
    exact after_enterSpan (after_expr fun result _ => of_emit emits (.write value span _))
  | actuate actuator args span =>
    rw [Eval.stmt]
    refine after_enterSpan (.after_result (marked.numbers here args)
      ((rendered functions fuel).numbers here args) fun texts renders => ?_)
    exact of_emit emits (.actuate actuator span renders)
  | paint color span =>
    rw [Eval.stmt]
    refine after_enterSpan (after_expr fun value text => after_test fun _ => ?_)
    exact of_emit emits (.paint span text)
  | pen down span =>
    rw [Eval.stmt]
    exact after_enterSpan (of_emit emits (.pen down span))
  | sense sensor span =>
    rw [Eval.stmt]
    refine after_enterSpan (.after_result (marked.sense here sensor)
      ((rendered functions fuel).sense here sensor) fun reading reads => ?_)
    exact of_emit emits (.sense span reads)
  | call site =>
    rw [Eval.stmt]
    refine after_enterSpan (.of_marking ?_ (.call site))
    exact .bind (marked.call here site) fun _ => .pure none

end Translated

/-- Code that is written writes a serialization of itself. -/
theorem translated (fuel : Nat) : Translated functions fuel := by
  induction fuel with
  | zero =>
    exact ⟨fun _ _ _ => .outOfFuel, fun _ _ _ => .outOfFuel, fun _ _ _ _ => .outOfFuel,
      fun _ _ _ _ _ => .outOfFuel, fun _ _ _ _ => .outOfFuel, fun _ _ => .outOfFuel⟩
  | succ fuel ih =>
    exact {
      stmts := fun _ emits => ih.stmts_succ emits
      stmt := fun _ emits => ih.stmt_succ emits
      branch := fun _ emits => ih.branch_succ emits
      firstRound := fun _ emits => ih.firstRound_succ emits
      rounds := fun _ emits => ih.rounds_succ emits
      writeOut := fun _ => ih.writeOut_succ }

/-- **The translation that live code writes is complete.**  When it comes to its end, the
lines that it has added are a serialization of all its statements, and between them calls of
declared functions, which stand no less deep than the code. -/
theorem live_code_serializes {fuel depth : Nat} {statements : List Stmt} {m n : Machine}
    {flow : Flow} (ran : stmts functions fuel ⟨depth, .live⟩ statements m = some (.ok flow, n)) :
    ∃ added : List Entry,
      (∀ width, n.transcript.lines width =
        m.transcript.lines width ++ added.map (Entry.render width)) ∧
      SerializesAll depth statements (added.filter fun entry => !entry.isMarker) ∧
      ∀ entry ∈ added, entry.isMarker = true → ∃ level name,
        entry = .marker level (Text.callForm name) ∧ depth ≤ level ∧
          (functions name).isSome = true := by
  have translated := translated functions fuel
  obtain ⟨added, written, serializes, marks⟩ :=
    translated.stmts ⟨depth, .live⟩ rfl statements ran
  refine ⟨added, fun width => ?_, serializes, marks⟩
  have entries : n.transcript.entries.toList = m.transcript.entries.toList ++ added := written
  simp only [Transcript.lines, Transcript.linesFrom, List.drop_zero, entries, List.map_append]

/-! ## A loop, a branch and a return -/

/-- A function that does nothing. -/
def stepping : Function := ⟨⟨"step", .unknown⟩, [], none, ⟨[], .unknown⟩, .unknown⟩

/-- A loop of two rounds with a call, and a branch that returns after a loop that is not
entered.  The condition of the branch is decided by its left operand. -/
def detour : List Stmt :=
  [.assign (.var ⟨"i", .unknown⟩) (.integer 0 .unknown) .unknown,
   .whileDo (.binary (.var "i" .unknown) (.relational .less) (.integer 2 .unknown) .unknown)
      ⟨[.call ⟨⟨"step", .unknown⟩, [], .unknown⟩,
        .assign (.var ⟨"i", .unknown⟩)
          (.binary (.var "i" .unknown) (.arithmetic .add) (.integer 1 .unknown) .unknown)
          .unknown], .unknown⟩ .unknown,
   .ifThen
      (.binary
        (.binary (.var "i" .unknown) (.relational .eq) (.integer 2 .unknown) .unknown)
        (.logical .or) (.var "q" .unknown) .unknown)
      ⟨[.whileDo (.boolean false .unknown)
          ⟨[.assign (.var ⟨"j", .unknown⟩) (.var "i" .unknown) .unknown], .unknown⟩ .unknown,
        .giveBack (some (.var "i" .unknown)) .unknown], .unknown⟩
      (some ⟨[.pen false .unknown], .unknown⟩) .unknown,
   .write (.integer 3 .unknown) .unknown]

/-- A main function that starts. -/
def starting : Machine := ⟨⟨[⟨"main", 0, []⟩], ⟨#[]⟩⟩, .empty, ⟨[], []⟩, none, 0⟩

theorem live_code_serializes_detour : ∃ (flow : Flow) (n : Machine) (added : List Entry),
    stmts (fun _ => some stepping) 22 ⟨1, .live⟩ detour starting = some (.ok flow, n) ∧
    n.transcript.lines 2 =
      ["  i = 0", "  while i < 2", "    step()", "    i = i + 1", "    step()", "  wend",
        "  if i == 2", "    while false", "      j = i", "    wend", "    Return i", "  else",
        "    rPen Up", "  endif", "  print 3"] ∧
    n.transcript.lines 2 = added.map (Entry.render 2) ∧
    SerializesAll 1 detour (added.filter fun entry => !entry.isMarker) := by
  have live : (stmts (fun _ => some stepping) 22 ⟨1, .live⟩ detour starting).map
      (fun stop => (stop.1.isOk, stop.2.transcript.lines 2)) = some (true,
      ["  i = 0", "  while i < 2", "    step()", "    i = i + 1", "    step()", "  wend",
        "  if i == 2", "    while false", "      j = i", "    wend", "    Return i", "  else",
        "    rPen Up", "  endif", "  print 3"]) := by
    decide +kernel
  obtain ⟨⟨outcome, n⟩, ran, seen⟩ := Option.map_eq_some_iff.mp live
  obtain ⟨ends, lines⟩ := Prod.mk.inj seen
  cases outcome with
  | error fault => cases ends
  | ok flow =>
    obtain ⟨added, written, serializes, -⟩ := live_code_serializes _ ran
    exact ⟨flow, n, added, ran, lines, written 2, serializes⟩

end RobotScribe
