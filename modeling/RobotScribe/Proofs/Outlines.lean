/-
# The outline of written code

Where the lines of a piece of code stand is known before it runs.  Its outline has a heading for
each line of an instruction: the depth of the line, and the word that it starts with.  The lines of
nested blocks stand one level deeper.

Code that is written has written its outline when it comes to its end, whatever branches it takes,
and a first part of the outline when a fault stops it.  Besides, it writes calls of blocks, which
stand no less deep than the code itself, however far down they are made.
-/
import RobotScribe.Proofs.Translation

namespace RobotScribe

open Eval Machine

/-! ## Outlines -/

/-- What is known of the line of an instruction before the code runs. -/
inductive Heading where
  /-- The line as a whole. -/
  | whole (depth : Nat) (text : String)
  /-- The word that the line starts with; it may be empty. -/
  | opening (depth : Nat) (word : String)
deriving DecidableEq, Repr

/-- A line has a heading. -/
inductive Heading.Fits : Heading → Entry → Prop where
  | whole (depth : Nat) (text : String) : Fits (.whole depth text) (.instruction depth text)
  | opening (depth : Nat) (word rest : String) :
      Fits (.opening depth word) (.instruction depth (word ++ rest))

lemma Heading.Fits.any (depth : Nat) (text : String) :
    Heading.Fits (.opening depth "") (.instruction depth text) := by
  have fits := Heading.Fits.opening depth "" text
  rw [String.empty_append] at fits
  exact fits

mutual

/-- The outline of a statement at a depth. -/
def Stmt.outline (depth : Nat) : Stmt → List Heading
  | .ifThen _ thenBlock elseBlock _ =>
    .opening depth "if " :: (thenBlock.outline (depth + 1) ++ (elseOutline depth elseBlock
      ++ [.whole depth "endif"]))
  | .whileDo _ body _ =>
    .opening depth "while " :: (body.outline (depth + 1) ++ [.whole depth "wend"])
  | .giveBack none _ => [.whole depth "Return"]
  | .giveBack (some _) _ => [.opening depth "Return "]
  | .write .. => [.opening depth "print "]
  | .pen down _ => [.whole depth (penForm down)]
  | .assign .. | .actuate .. | .paint .. | .sense .. => [.opening depth ""]
  | .read .. | .call _ => []

/-- The outline of a block. -/
def Block.outline (depth : Nat) : Block → List Heading
  | ⟨stmts, _⟩ => outlineOf depth stmts

/-- The outline of an optional second branch; the branch itself stands one level deeper. -/
def elseOutline (depth : Nat) : Option Block → List Heading
  | none => []
  | some block => .whole depth "else" :: block.outline (depth + 1)

/-- The outline of some statements, in order. -/
def outlineOf (depth : Nat) : List Stmt → List Heading
  | [] => []
  | s :: rest => s.outline depth ++ outlineOf depth rest

end

lemma Block.outline_eq (depth : Nat) (block : Block) :
    block.outline depth = outlineOf depth block.stmts := by
  cases block
  rfl

/-- A line that is no label, and is indented as deep as that or deeper. -/
def Entry.Indented (depth : Nat) (entry : Entry) : Prop :=
  (∀ text, entry ≠ .label text) ∧ depth ≤ entry.depth

/-! ## What computations write -/

/-- However a computation ends, the instructions that it has added have the headings of a first part
of an outline, of all of it if there is a result; and what it has added is indented. -/
def Sketches {α : Type} (depth : Nat) (outline : List Heading) (x : Eval α) : Prop :=
  ∀ ⦃m outcome n⦄, x m = some (outcome, n) → ∃ added headings,
    n.written = m.written ++ added ∧ headings <+: outline ∧
    List.Forall₂ Heading.Fits headings (instructions added) ∧
    (∀ a, outcome = .ok a → headings = outline) ∧ ∀ entry ∈ added, entry.Indented depth

namespace Sketches

variable {α β : Type} {depth : Nat} {outline outline' : List Heading} {x : Eval α} {f : α → Eval β}

lemma outOfFuel : Sketches depth outline (outOfFuel : Eval α) := by
  intro m outcome n ran
  cases ran

lemma shallower {deep : Nat} (le : depth ≤ deep) (h : Sketches deep outline x) :
    Sketches depth outline x := by
  intro m outcome n ran
  obtain ⟨added, headings, written, pre, fits, all, indented⟩ := h ran
  refine ⟨added, headings, written, pre, fits, all, fun entry mem => ?_⟩
  exact ⟨(indented entry mem).1, Nat.le_trans le (indented entry mem).2⟩

/-- What writes only calls has an empty outline. -/
lemma of_marking (functions : String → Option Function)
    (h : (marking functions depth).Allows x) :
    Sketches depth [] x := by
  intro m outcome n ran
  obtain ⟨added, written, marks⟩ : MarksOnly functions depth m n := h.done id ran
  refine ⟨added, [], written, List.nil_prefix, ?_, fun _ _ => rfl, fun entry mem => ?_⟩
  · rw [instructions_eq_nil marks]
    exact .nil
  · obtain ⟨level, name, rfl, below, -⟩ := marks entry mem
    exact ⟨nofun, below⟩

lemma bind (first : Sketches depth outline x) (second : ∀ a, Sketches depth outline' (f a)) :
    Sketches depth (outline ++ outline') (x >>= f) := by
  intro m outcome n ran
  rcases bind_eq_some.mp ran with ⟨fault, rfl, stopped⟩ | ⟨a, l, done, ran'⟩
  · obtain ⟨added, headings, written, part, fits, -, indented⟩ := first stopped
    exact ⟨added, headings, written, part.trans (List.prefix_append _ _), fits, nofun, indented⟩
  · obtain ⟨added, headings, written, -, fits, all, indented⟩ := first done
    obtain ⟨added', headings', written', part', fits', all', indented'⟩ := second a ran'
    -- the second part goes on only if the first one has written its whole outline
    obtain rfl := all a rfl
    refine ⟨added ++ added', headings ++ headings', by rw [written', written, List.append_assoc],
      (List.prefix_append_right_inj headings).mpr part', ?_, fun b done => ?_, fun entry mem => ?_⟩
    · rw [instructions_append]
      exact List.rel_append fits fits'
    · rw [all' b done]
    · rcases List.mem_append.mp mem with mem | mem
      · exact indented entry mem
      · exact indented' entry mem

/-- A first part that writes only calls. -/
lemma after {functions : String → Option Function} (first : (marking functions depth).Allows x)
    (second : ∀ a, Sketches depth outline (f a)) : Sketches depth outline (x >>= f) :=
  bind (of_marking functions first) second

/-- A last part that writes only calls. -/
lemma before (functions : String → Option Function) (first : Sketches depth outline x)
    (second : ∀ a, (marking functions depth).Allows (f a)) :
    Sketches depth outline (x >>= f) := by
  have both := bind first fun a => of_marking functions (second a)
  rw [List.append_nil] at both
  exact both

/-- An instruction in code that is written. -/
lemma emit {here : Cursor} (emits : here.phase.emits = true) {heading : Heading} {text : String}
    (fits : heading.Fits (.instruction here.depth text)) :
    Sketches here.depth [heading] (emit here text) := by
  intro m outcome n ran
  cases ran
  refine ⟨[.instruction here.depth text], [heading], ?_, List.prefix_refl _, .cons fits .nil,
    fun _ _ => rfl, fun entry mem => ?_⟩
  · simp [Machine.written, Transcript.emit, emits]
  · rw [List.mem_singleton.mp mem]
    refine ⟨fun _ label => ?_, Nat.le_refl _⟩
    cases label

/-- What is taken back stays written. -/
lemma takingBack {body : Eval Unit} (h : Sketches depth outline body) :
    Sketches depth outline (takingBack body) := by
  intro m outcome n ran
  obtain ⟨l, walked, rfl⟩ := takingBack_eq_some.mp ran
  have sketched := h walked
  exact sketched

end Sketches

/-! ## The induction -/

variable (functions : String → Option Function)

/-- Code that is written, be it run or not, writes its outline, with so much fuel. -/
structure Sketched (fuel : Nat) : Prop where
  stmts : ∀ here : Cursor, here.phase.emits = true → ∀ statements,
    Sketches here.depth (outlineOf here.depth statements) (stmts functions fuel here statements)
  stmt : ∀ here : Cursor, here.phase.emits = true → ∀ s,
    Sketches here.depth (s.outline here.depth) (stmt functions fuel here s)
  branch : ∀ here : Cursor, here.phase.emits = true → ∀ block taken,
    Sketches here.depth (block.outline (here.depth + 1)) (branch functions fuel here block taken)
  firstRound : ∀ here : Cursor, here.phase.emits = true → ∀ condition body entered,
    Sketches here.depth (body.outline (here.depth + 1))
      (firstRound functions fuel here condition body entered)
  rounds : ∀ here : Cursor, here.phase.emits = true → ∀ condition body,
    Sketches here.depth (body.outline (here.depth + 1))
      (rounds functions fuel here condition body)
  writeOut : ∀ here statements,
    Sketches here.depth (outlineOf here.depth statements)
      (writeOut functions fuel here statements)

namespace Sketched

variable {functions} {fuel : Nat} {here : Cursor}

/-- An expression writes only calls. -/
lemma after_expr {β : Type} {outline : List Heading} {f : Value → Eval β} {e : Expr}
    (second : ∀ value, Sketches here.depth outline (f value)) :
    Sketches here.depth outline (expr functions fuel here e >>= f) :=
  .after ((Marking.marked functions fuel).expr here e) second

/-- A test leaves the transcript alone. -/
lemma after_test {α β : Type} {outline : List Heading} {outcome : Except Fault α}
    {f : α → Eval β} (second : ∀ a, Sketches here.depth outline (f a)) :
    Sketches here.depth outline (Eval.ofExcept outcome >>= f) :=
  .bind (.of_marking (fun _ => none) (.ofExcept outcome)) second

lemma after_enterSpan {β : Type} {outline : List Heading} {span : Span} {f : Unit → Eval β}
    (second : Sketches here.depth outline (f ())) :
    Sketches here.depth outline (enterSpan span >>= f) :=
  .after ((Marking.walkable fun _ => none).enterSpan here span) fun _ => second

/-- An instruction, and then no more lines. -/
lemma of_emit (emits : here.phase.emits = true) {heading : Heading} {text : String}
    (fits : heading.Fits (.instruction here.depth text)) (flow : Flow) :
    Sketches here.depth [heading] (do
      emit here text
      return flow) :=
  .before (fun _ => none) (.emit emits fits) fun _ => .pure flow

variable (ih : Sketched functions fuel)
include ih

lemma writeOut_succ (statements : List Stmt) :
    Sketches here.depth (outlineOf here.depth statements)
      (Eval.writeOut functions (fuel + 1) here statements) := by
  rw [Eval.writeOut]
  exact .takingBack (.before functions
    (ih.stmts (here.inPhase .dry) rfl statements) fun _ => .pure ())

variable (emits : here.phase.emits = true)
include emits

lemma stmts_succ (statements : List Stmt) :
    Sketches here.depth (outlineOf here.depth statements)
      (Eval.stmts functions (fuel + 1) here statements) := by
  cases statements with
  | nil => exact .of_marking functions (.pure none)
  | cons s rest =>
    rw [Eval.stmts]
    refine .bind (ih.stmt here emits s) fun flow => ?_
    cases flow with
    | none => exact ih.stmts here emits rest
    | some value =>
      -- what follows a return is written, too: dry code goes on, and live code writes it out
      cases phase : here.phase with
      | dry => exact ih.stmts here emits rest
      | live => exact .before functions (ih.writeOut here rest) fun _ => .pure _
      | silent =>
        rw [phase] at emits
        cases emits

/-- A block is written one level deeper, whether it runs or not. -/
lemma block (block : Block) :
    Sketches here.depth (block.outline (here.depth + 1))
        (Eval.stmts functions fuel here.deeper block.stmts) ∧
      Sketches here.depth (block.outline (here.depth + 1))
        (Eval.writeOut functions fuel here.deeper block.stmts) := by
  have le : here.depth ≤ here.deeper.depth := Nat.le_succ here.depth
  rw [block.outline_eq]
  exact ⟨(ih.stmts here.deeper emits block.stmts).shallower le,
    (ih.writeOut here.deeper block.stmts).shallower le⟩

lemma branch_succ (block : Block) (taken : Bool) :
    Sketches here.depth (block.outline (here.depth + 1))
      (Eval.branch functions (fuel + 1) here block taken) := by
  obtain ⟨ran, unrun⟩ := ih.block emits block
  unfold Eval.branch
  split
  · exact .before functions ran fun _ => .pure none
  · exact ran
  · exact .before functions unrun fun _ => .pure none
  · next silent =>
    rw [silent] at emits
    cases emits

lemma firstRound_succ (condition : Expr) (body : Block) (entered : Bool) :
    Sketches here.depth (body.outline (here.depth + 1))
      (Eval.firstRound functions (fuel + 1) here condition body entered) := by
  obtain ⟨ran, unrun⟩ := ih.block emits body
  unfold Eval.firstRound
  split
  · exact .before functions ran fun _ => .pure none
  · exact ih.rounds here emits condition body
  · exact .before functions unrun fun _ => .pure none
  · next silent =>
    rw [silent] at emits
    cases emits

/-- Only the first round of a loop is written. -/
lemma rounds_succ (condition : Expr) (body : Block) :
    Sketches here.depth (body.outline (here.depth + 1))
      (Eval.rounds functions (fuel + 1) here condition body) := by
  have marked := Marking.marked functions fuel
  rw [Eval.rounds]
  refine .before functions (ih.block emits body).1 fun flow => ?_
  cases flow with
  | some value => exact .pure _
  | none =>
    -- the later rounds are silent, so that only calls of blocks are written
    refine .bind (marked.expr (here.inPhase .silent) condition) fun value => ?_
    refine .bind (.ofExcept _) fun again => ?_
    split
    · exact marked.rounds (here.inPhase .silent) rfl rfl condition body
    · exact .pure none

lemma secondBranch_of (elseBlock : Option Block) (taken : Bool) (first : Flow) :
    Sketches here.depth (elseOutline here.depth elseBlock)
      (secondBranch functions fuel here elseBlock taken first) := by
  cases elseBlock with
  | none => exact .of_marking functions (.pure first)
  | some block =>
    have second := ih.branch here emits block (!taken)
    exact .bind (.emit emits (.whole _ _)) fun _ =>
      .before functions second fun _ => .pure _

lemma stmt_succ (s : Stmt) :
    Sketches here.depth (s.outline here.depth) (Eval.stmt functions (fuel + 1) here s) := by
  have marked := Marking.marked functions fuel
  cases s with
  | assign target value span =>
    cases target with
    | var target =>
      rw [Eval.stmt]
      refine after_enterSpan (after_expr fun value => ?_)
      refine .before functions (.emit emits (.any _ _)) fun _ => ?_
      exact .bind (Marking.define _ _) fun _ => .pure none
    | element array index =>
      rw [Eval.stmt]
      refine after_enterSpan (after_expr fun value => after_expr fun index => ?_)
      refine after_test fun i => .before functions (.emit emits (.any _ _)) ?_
      intro _
      exact .bind (Marking.storeElement _ _ _) fun _ => .bind (.ofExcept _) fun _ => .pure none
  | ifThen condition thenBlock elseBlock span =>
    rw [Eval.stmt_ifThen]
    refine after_enterSpan (after_expr fun value => after_test fun taken => ?_)
    refine .bind (.emit emits (.opening _ _ _)) fun _ => ?_
    refine .bind (ih.branch here emits thenBlock taken) fun first => ?_
    refine .bind (ih.secondBranch_of emits elseBlock taken first) fun flow => ?_
    exact of_emit emits (.whole _ _) flow
  | whileDo condition body span =>
    rw [Eval.stmt]
    refine after_enterSpan (after_expr fun value => after_test fun entered => ?_)
    refine .bind (.emit emits (.opening _ _ _)) fun _ => ?_
    refine .bind (ih.firstRound here emits condition body entered) fun flow => ?_
    exact of_emit emits (.whole _ _) flow
  | giveBack value span =>
    cases value with
    | none =>
      rw [Eval.stmt]
      exact after_enterSpan (of_emit emits (.whole _ _) _)
    | some value =>
      rw [Eval.stmt]
      exact after_enterSpan (after_expr fun value => of_emit emits (.opening _ _ _) _)
  | read target span =>
    rw [Eval.stmt]
    refine after_enterSpan (.of_marking functions ?_)
    dsimp only
    split
    · exact .bind Marking.nextInteger fun _ => .bind (Marking.define _ _) fun _ => .pure none
    · exact .bind (Marking.define _ _) fun _ => .pure none
  | write value span =>
    rw [Eval.stmt]
    exact after_enterSpan (after_expr fun value => of_emit emits (.opening _ _ _) _)
  | actuate actuator args span =>
    rw [Eval.stmt]
    refine after_enterSpan (.after (marked.numbers here args) fun texts => ?_)
    exact of_emit emits (.any _ _) _
  | paint color span =>
    rw [Eval.stmt]
    refine after_enterSpan (after_expr fun value => after_test fun _ => ?_)
    exact of_emit emits (.any _ _) _
  | pen down span =>
    rw [Eval.stmt]
    exact after_enterSpan (of_emit emits (.whole _ _) _)
  | sense sensor span =>
    rw [Eval.stmt]
    refine after_enterSpan (.after (marked.sense here sensor) fun reading => ?_)
    exact of_emit emits (.any _ _) _
  | call site =>
    rw [Eval.stmt]
    refine after_enterSpan (.of_marking functions ?_)
    exact .bind (marked.call here site) fun _ => .pure none

end Sketched

/-- Code that is written writes its outline. -/
theorem sketched (fuel : Nat) : Sketched functions fuel := by
  induction fuel with
  | zero =>
    exact ⟨fun _ _ _ => .outOfFuel, fun _ _ _ => .outOfFuel, fun _ _ _ _ => .outOfFuel,
      fun _ _ _ _ _ => .outOfFuel, fun _ _ _ _ => .outOfFuel, fun _ _ => .outOfFuel⟩
  | succ fuel ih =>
    exact {
      stmts := fun _ emits => ih.stmts_succ emits
      stmt := fun _ emits => ih.stmt_succ emits
      branch := fun _ emits => ih.branch_succ emits
      firstRound := fun _ emits => ih.firstRound_succ emits
      rounds := fun _ emits => ih.rounds_succ emits
      writeOut := fun _ => ih.writeOut_succ }

end RobotScribe
