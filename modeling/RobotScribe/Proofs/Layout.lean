/-
# The layout of the transcript

The width of an indentation step is layout only.  No operation looks at it, so two sessions that
differ in nothing else come to the same, with the same lines at the same depths.

The depth of a line says how deep the code is nested.  Labels stand at the margin, and only they do;
what is written between them is indented.  Code that is run or written at a depth adds no line that
is less deep, and the lines of its own instructions stand at the depths of its outline, the `if`,
`else`, `endif`, `while` and `wend` among them.
-/
import RobotScribe.Proofs.Outlines
import RobotScribe.Proofs.Transparency

namespace RobotScribe

open Eval

/-! ## Code -/

section

variable (functions : String → Option Function) (fuel : Nat)

/-- What code adds is indented no less than the code, and the instructions among it stand as in the
outline of the code.  Silent code adds no instructions. -/
lemma sketches_stmts (here : Cursor) (statements : List Stmt) :
    Sketches here.depth (if here.phase.emits then outlineOf here.depth statements else [])
      (stmts functions fuel here statements) := by
  cases emits : here.phase.emits with
  | true => exact (sketched functions fuel).stmts here emits statements
  | false =>
    have silent : here.phase = .silent := by
      cases phase : here.phase with
      | silent => rfl
      | live | dry =>
        rw [phase] at emits
        cases emits
    exact .of_marking functions ((Marking.marked functions fuel).stmts here silent statements)

/-- The main function writes its body one level deep. -/
lemma sketches_runFunction (function : Function) (slots : List Slot) :
    Sketches 1 (outlineOf 1 function.body.stmts)
      (runFunction functions fuel (.top .live) function slots) := by
  cases fuel with
  | zero => exact .outOfFuel
  | succ fuel =>
    rw [runFunction_succ]
    refine .bind (.of_marking functions .currentLine) fun callLine => ?_
    refine .bind (.of_marking functions (Marking.enter function slots callLine)) fun _ => ?_
    refine .before functions ((sketched functions fuel).stmts _ rfl _) fun flow => ?_
    exact Marking.leave function slots callLine _

end

/-! ## Operations -/

namespace Session

/-- The lines of code under a label. -/
def Underneath (body : List Entry) : Prop := ∀ entry ∈ body, entry.Indented 1

/-- The lines of the blocks of some functions, in order.  Unless the blocks are complete, the last
one ends early and has no closing label. -/
inductive Blocks : List Function → Bool → List Entry → Prop where
  | nil : Blocks [] true []
  | cons {function rest complete body lines} (indented : Underneath body)
    (others : Blocks rest complete lines) :
    Blocks (function :: rest) complete
      (.label (function.name.name ++ ":") :: (body ++ .label "Return" :: lines))
  | stopped {function rest body} (indented : Underneath body) :
    Blocks (function :: rest) false (.label (function.name.name ++ ":") :: body)

/-- The lines that an operation adds to a session, given whether it succeeds. -/
inductive LaysOut (s : Session) : Operation → Bool → List Entry → Prop where
  | run {body} (indented : Underneath body) :
    LaysOut s .run true (.label "MainProgram:" :: (body ++ [.label "End"]))
  | runStopped {body} (indented : Underneath body) :
    LaysOut s .run false (.label "MainProgram:" :: body)
  | prepare {complete lines} (first : s.prepared = false)
    (blocks : Blocks s.preparable complete lines) : LaysOut s .prepare complete lines
  | prepared (again : s.prepared = true) : LaysOut s .prepare true []

/-- A line that is indented is no label, and does not stand at the margin. -/
lemma atMargin_iff_of_indented {entry : Entry} (indented : entry.Indented 1) :
    entry.depth = 0 ↔ ∃ text, entry = .label text := by
  constructor
  · intro margin
    have deep := indented.2
    omega
  · rintro ⟨text, label⟩
    exact absurd label (indented.1 text)

lemma Underneath.atMargin_iff {body : List Entry} (indented : Underneath body) {entry : Entry}
    (mem : entry ∈ body) : entry.depth = 0 ↔ ∃ text, entry = .label text :=
  atMargin_iff_of_indented (indented entry mem)

lemma label_atMargin_iff (text : String) :
    (Entry.label text).depth = 0 ↔ ∃ text', Entry.label text = .label text' :=
  ⟨fun _ => ⟨text, rfl⟩, fun _ => rfl⟩

/-- Exactly the labels of blocks stand at the margin. -/
lemma Blocks.atMargin_iff {list : List Function} {complete : Bool} {lines : List Entry}
    (h : Blocks list complete lines) :
    ∀ entry ∈ lines, entry.depth = 0 ↔ ∃ text, entry = .label text := by
  induction h with
  | nil => simp
  | cons indented others ih =>
    intro entry mem
    rcases List.mem_cons.mp mem with rfl | mem
    · exact label_atMargin_iff _
    rcases List.mem_append.mp mem with mem | mem
    · exact indented.atMargin_iff mem
    rcases List.mem_cons.mp mem with rfl | mem
    · exact label_atMargin_iff _
    · exact ih entry mem
  | stopped indented =>
    intro entry mem
    rcases List.mem_cons.mp mem with rfl | mem
    · exact label_atMargin_iff _
    · exact indented.atMargin_iff mem

/-- Exactly the labels stand at the margin. -/
lemma LaysOut.atMargin_iff {s : Session} {op : Operation} {complete : Bool} {lines : List Entry}
    (h : LaysOut s op complete lines) :
    ∀ entry ∈ lines, entry.depth = 0 ↔ ∃ text, entry = .label text := by
  cases h with
  | run indented =>
    intro entry mem
    rcases List.mem_cons.mp mem with rfl | mem
    · exact label_atMargin_iff _
    rcases List.mem_append.mp mem with mem | mem
    · exact indented.atMargin_iff mem
    · rw [List.mem_singleton.mp mem]
      exact label_atMargin_iff _
  | runStopped indented =>
    intro entry mem
    rcases List.mem_cons.mp mem with rfl | mem
    · exact label_atMargin_iff _
    · exact indented.atMargin_iff mem
  | prepare first blocks => exact blocks.atMargin_iff
  | prepared again => simp

section

variable {functions : String → Option Function} {fuel : Nat} {m n : Machine}

lemma underneath_of_sketches {α : Type} {outline : List Heading} {x : Eval α}
    (h : Sketches 1 outline x) {outcome : Except Fault α} (ran : x m = some (outcome, n)) :
    ∃ body, Underneath body ∧ n.written = m.written ++ body := by
  obtain ⟨added, headings, written, -, -, -, indented⟩ := h ran
  exact ⟨added, indented, written⟩

lemma sketches_writeBlock (function : Function) :
    Sketches 1 (outlineOf 1 function.body.stmts) (writeBlock functions fuel function) := by
  have standIns : ∀ params, (marking functions 1).Allows (defineStandIns params) := by
    intro params
    induction params with
    | nil => exact .pure ()
    | cons param rest ih => exact .bind (Marking.define _ _) fun _ => ih
  refine .after (standIns function.params) fun _ => ?_
  exact .before functions ((sketched functions fuel).stmts _ rfl _) fun _ => .pure ()

/-- A block has a label, indented lines, and a closing label if it is complete. -/
lemma block_of_prepareFunction {function : Function} {outcome : Except Fault Unit}
    (ran : prepareFunction functions fuel function m = some (outcome, n)) :
    ∃ body, Underneath body ∧ n.written = m.written ++
      .label (function.name.name ++ ":") ::
        (body ++ if outcome.isOk then [.label "Return"] else []) := by
  rw [prepareFunction_eq] at ran
  rcases bind_eq_some.mp ran with ⟨_, -, never⟩ | ⟨_, l, opened, ran⟩
  · cases never
  rcases bind_eq_some.mp ran with ⟨_, -, never⟩ | ⟨_, l', entered, ran⟩
  · cases never
  have start : l'.written = m.written ++ [.label (function.name.name ++ ":")] := by
    cases opened
    cases entered
    exact Transcript.toList_add _ _
  rcases bind_eq_some.mp ran with ⟨fault, rfl, stopped⟩ | ⟨_, k, walked, ran⟩
  · obtain ⟨body, indented, written⟩ :=
      underneath_of_sketches (sketches_writeBlock function) stopped
    refine ⟨body, indented, ?_⟩
    rw [written, start, List.append_assoc]
    simp [Except.isOk, Except.toBool]
  · obtain ⟨body, indented, written⟩ := underneath_of_sketches (sketches_writeBlock function) walked
    refine ⟨body, indented, ?_⟩
    have closed : n.written = k.written ++ [.label "Return"] ∧ outcome = .ok () := by
      cases ran
      exact ⟨Transcript.toList_add _ _, rfl⟩
    rw [closed.1, written, start, closed.2, List.append_assoc, List.append_assoc]
    rfl

lemma blocks_of_prepareAll {list : List Function} {outcome : Except Fault Unit}
    (ran : prepareAll functions fuel list m = some (outcome, n)) :
    ∃ lines, Blocks list outcome.isOk lines ∧ n.written = m.written ++ lines := by
  induction list generalizing m with
  | nil =>
    cases ran
    exact ⟨[], .nil, (List.append_nil _).symm⟩
  | cons function rest ih =>
    rw [prepareAll] at ran
    rcases bind_eq_some.mp ran with ⟨fault, rfl, stopped⟩ | ⟨_, l, first, ran⟩
    · obtain ⟨body, indented, written⟩ := block_of_prepareFunction stopped
      refine ⟨_, .stopped indented, ?_⟩
      rw [written]
      simp [Except.isOk, Except.toBool]
    · obtain ⟨body, indented, written⟩ := block_of_prepareFunction first
      obtain ⟨lines, blocks, written'⟩ := ih ran
      refine ⟨_, .cons indented blocks, ?_⟩
      rw [written', written]
      simp [Except.isOk, Except.toBool]

/-- A run has a label, indented lines, and a closing label if it succeeds. -/
lemma main_of_runMain {outcome : Except Fault Unit}
    (ran : runMain functions fuel m = some (outcome, n)) :
    ∃ body, Underneath body ∧ n.written = m.written ++
      .label "MainProgram:" :: (body ++ if outcome.isOk then [.label "End"] else []) := by
  unfold runMain at ran
  rcases bind_eq_some.mp ran with ⟨_, -, never⟩ | ⟨_, l, opened, ran⟩
  · cases never
  have start : l.written = m.written ++ [.label "MainProgram:"] := by
    cases opened
    exact Transcript.toList_add _ _
  cases declared : functions mainName with
  | none =>
    rw [declared] at ran
    cases ran
    refine ⟨[], ?_, start⟩
    intro entry mem
    cases mem
  | some main =>
    rw [declared] at ran
    rcases bind_eq_some.mp ran with ⟨fault, rfl, stopped⟩ | ⟨_, k, called, ran⟩
    · obtain ⟨body, indented, written⟩ :=
        underneath_of_sketches (sketches_runFunction functions fuel main []) stopped
      refine ⟨body, indented, ?_⟩
      rw [written, start, List.append_assoc]
      simp [Except.isOk, Except.toBool]
    · obtain ⟨body, indented, written⟩ :=
        underneath_of_sketches (sketches_runFunction functions fuel main []) called
      refine ⟨body, indented, ?_⟩
      have closed : n.written = k.written ++ [.label "End"] ∧ outcome = .ok () := by
        cases ran
        exact ⟨Transcript.toList_add _ _, rfl⟩
      rw [closed.1, written, start, closed.2, List.append_assoc, List.append_assoc]
      rfl

end

/-- What an operation adds is laid out. -/
lemma laysOut_of_operate {s t : Session} {op : Operation} {fuel : Nat}
    {outcome : Except LocatedFault Unit} (done : s.operate op fuel = some (outcome, t)) :
    ∃ added, t.machine.written = s.machine.written ++ added ∧ LaysOut s op outcome.isOk added := by
  obtain ⟨result, m, ran, rfl, rfl⟩ := operate_eq_some.mp done
  have same : (result.mapError (LocatedFault.mk · m.line)).isOk = result.isOk := by
    cases result <;> rfl
  rw [same]
  cases op with
  | run =>
    obtain ⟨body, indented, written⟩ := main_of_runMain ran
    refine ⟨_, written, ?_⟩
    cases result with
    | ok => exact .run indented
    | error fault =>
      simp only [Except.isOk, Except.toBool, Bool.false_eq_true, if_false, List.append_nil]
      exact .runStopped indented
  | prepare =>
    rw [activity] at ran
    cases prepared : s.prepared with
    | true =>
      rw [prepared, if_pos rfl] at ran
      cases ran
      exact ⟨[], (List.append_nil _).symm, .prepared prepared⟩
    | false =>
      rw [prepared, if_neg Bool.false_ne_true] at ran
      obtain ⟨lines, blocks, written⟩ := blocks_of_prepareAll ran
      exact ⟨lines, written, .prepare prepared blocks⟩

/-! ## Widths -/

/-- The session with another width of an indentation step. -/
def withWidth (width : Nat) (s : Session) : Session :=
  { s with settings := s.settings.withIndentWidth width }

/-- No operation looks at the width. -/
lemma operate_withWidth (width : Nat) (s : Session) (op : Operation) (fuel : Nat) :
    (s.withWidth width).operate op fuel =
      (s.operate op fuel).map fun stop => (stop.1, stop.2.withWidth width) := by
  rw [operate_eq_map, operate_eq_map, Option.map_map]
  rfl

/-- Loading looks at the settings only for the path of the trace. -/
lemma load_withWidth (width : Nat) {program : Program} {settings : Settings} {input : Input}
    {openTrace : String → Except Fault Sink} {s : Session}
    (loaded : load program settings input openTrace = .ok s) :
    load program (settings.withIndentWidth width) input openTrace = .ok (s.withWidth width) := by
  -- only the path is looked at, and it is the same with the other width
  obtain ⟨path?, _, limit⟩ := settings
  unfold load at loaded ⊢
  cases declared : Declarations.ofProgram program with
  | error fault =>
    rw [declared] at loaded
    cases loaded
  | ok declarations =>
    rw [declared] at loaded
    cases path? with
    | none =>
      cases loaded
      rfl
    | some path =>
      cases opens : openTrace path with
      | error fault =>
        simp [opens, bind, Except.bind, throw, throwThe, MonadExceptOf.throw] at loaded
      | ok sink =>
        simp only [opens, bind, Except.bind, pure, Except.pure, Except.ok.injEq] at loaded
        simp only [Settings.withIndentWidth, opens, bind, Except.bind, pure, Except.pure]
        rw [← loaded]
        rfl

/-- What has come of an operation is the same in two sessions, except for the widths by which their
lines are indented. -/
structure Relayouts (w w' : Nat) (p q : Except LocatedFault Unit × Session) : Prop where
  /-- The outcomes are the same, with the fault and its line. -/
  outcome : p.1 = q.1
  /-- There are the same frames, and their variables have the same values. -/
  memory : p.2.machine.memory = q.2.machine.memory
  valueOf? : ∀ name, p.2.valueOf? name = q.2.valueOf? name
  backtrace : ∀ limit, p.2.backtrace limit = q.2.backtrace limit
  /-- There are as many lines. -/
  length : p.2.lines.length = p.2.machine.written.length ∧
    q.2.lines.length = p.2.machine.written.length
  /-- Each line has the same text behind the same number of steps. -/
  lines : ∀ (i : Nat) (entry : Entry), p.2.machine.written[i]? = some entry →
    p.2.lines[i]? =
      some (String.ofList (List.replicate (entry.depth * w) ' ') ++ entry.text) ∧
    q.2.lines[i]? =
      some (String.ofList (List.replicate (entry.depth * w') ' ') ++ entry.text)

lemma lines_eq (s : Session) :
    s.lines = s.machine.written.map (Entry.render s.settings.indentWidth) := by
  rw [lines, Transcript.lines, Transcript.linesFrom, List.drop_zero, Machine.written]

lemma relayouts_withWidth (width : Nat) (stop : Except LocatedFault Unit × Session) :
    Relayouts stop.2.settings.indentWidth width stop (stop.1, stop.2.withWidth width) := by
  refine ⟨rfl, rfl, fun _ => rfl, fun _ => rfl, ?_, fun i entry found => ?_⟩
  · rw [lines_eq, lines_eq, List.length_map, List.length_map]
    exact ⟨rfl, rfl⟩
  · rw [lines_eq, lines_eq, List.getElem?_map, List.getElem?_map]
    have found' : (stop.2.withWidth width).machine.written[i]? = some entry := found
    rw [found, found']
    exact ⟨rfl, rfl⟩

/-- Operations come to the same, whatever the width. -/
lemma relayouts_history (width : Nat) (s : Session) (ops : List (Operation × Nat)) :
    Option.Rel (List.Forall₂ (Relayouts s.settings.indentWidth width)) (s.history ops)
      ((s.withWidth width).history ops) := by
  induction ops generalizing s with
  | nil => exact .some .nil
  | cons entry rest ih =>
    obtain ⟨op, fuel⟩ := entry
    simp only [history, operate_withWidth]
    cases done : s.operate op fuel with
    | none => exact .none
    | some stop =>
      have settings : stop.2.settings = s.settings := by
        obtain ⟨result, m, -, -, same⟩ := operate_eq_some.mp done
        rw [same]
      have first := relayouts_withWidth width stop
      have later := ih stop.2
      rw [settings] at first later
      simp only [Option.map_some, Option.bind_eq_bind, Option.bind_some]
      generalize stop.2.history rest = left at later ⊢
      generalize (stop.2.withWidth width).history rest = right at later ⊢
      cases later with
      | none => exact .none
      | some alike => exact .some (.cons first alike)

/-! ## Layout -/

/-- **Indentation is layout only, and reflects how code is nested.**

A program that has been loaded can be loaded with another width, too, and the sessions are the same
but for the width.  Whatever operations are carried out in such sessions, they come to the same, and
after each of them the lines have the same texts at the same depths.

The lines that an operation adds stand at the margin exactly if they are labels: `MainProgram:` and
`End` around a run, the name of its function and `Return` around a block.

What code adds that is run or written at a depth stands at that depth or deeper, whether it comes to
a result or to a fault.  The instructions among these lines are those of the outline of the code, or
of a first part of it. -/
theorem indentation_is_layout :
    (∀ program settings input openTrace width (s : Session),
      load program settings input openTrace = .ok s →
      load program (settings.withIndentWidth width) input openTrace = .ok (s.withWidth width)) ∧
    (∀ (s : Session) width ops,
      Option.Rel (List.Forall₂ (Relayouts s.settings.indentWidth width)) (s.history ops)
        ((s.withWidth width).history ops)) ∧
    (∀ (s t : Session) op fuel outcome, s.operate op fuel = some (outcome, t) →
      ∃ added, t.machine.written = s.machine.written ++ added ∧
        LaysOut s op outcome.isOk added ∧
        ∀ entry ∈ added, entry.depth = 0 ↔ ∃ text, entry = .label text) ∧
    ∀ functions fuel (here : Cursor) statements m outcome n,
      stmts functions fuel here statements m = some (outcome, n) →
      ∃ added headings, n.written = m.written ++ added ∧
        (∀ entry ∈ added, entry.Indented here.depth) ∧
        List.Forall₂ Heading.Fits headings (instructions added) ∧
        (here.phase = .silent → headings = []) ∧
        (here.phase ≠ .silent → headings <+: outlineOf here.depth statements ∧
          (outcome.isOk = true → headings = outlineOf here.depth statements)) := by
  refine ⟨?_, ?_, ?_, ?_⟩
  · intro program settings input openTrace width s loaded
    exact load_withWidth width loaded
  · intro s width ops
    exact relayouts_history width s ops
  · intro s t op fuel outcome done
    obtain ⟨added, written, laid⟩ := laysOut_of_operate done
    exact ⟨added, written, laid, laid.atMargin_iff⟩
  · intro functions fuel here statements m outcome n ran
    obtain ⟨added, headings, written, part, fits, all, indented⟩ :=
      sketches_stmts functions fuel here statements ran
    refine ⟨added, headings, written, indented, fits, fun silent => ?_, fun loud => ?_⟩
    · rw [silent] at part
      exact List.prefix_nil.mp part
    · have emits : here.phase.emits = true := by
        cases phase : here.phase with
        | silent => exact absurd phase loud
        | live | dry => rfl
      rw [emits, if_pos rfl] at part all
      refine ⟨part, fun ok => ?_⟩
      cases outcome with
      | ok flow => exact all flow rfl
      | error fault => cases ok

/-- A program in another width, what a run of it adds, and the outline of loops and a branch. -/
theorem indentation_is_layout_dividing :
    load dividing (Settings.standard.withIndentWidth 4) ⟨["3", "0", "4"], []⟩
      (fun path => .error (.io path)) = .ok ((dividingOften none).withWidth 4) ∧
    (∃ outcome t added, ((dividingOften none).withWidth 4).operate .run 9 = some (outcome, t) ∧
      t.machine.written = added ∧ outcome.isOk = true ∧
      LaysOut ((dividingOften none).withWidth 4) .run true added ∧
      t.lines = ["MainProgram:", "    y = 12 / x", "    print 4", "End"]) ∧
    ∃ outcome n added,
      stmts (fun _ => some stepping) 22 ⟨1, .live⟩ detour starting = some (outcome, n) ∧
      n.written = added ∧
      List.Forall₂ Heading.Fits
        [.opening 1 "", .opening 1 "while ", .opening 2 "", .whole 1 "wend", .opening 1 "if ",
          .opening 2 "while ", .opening 3 "", .whole 2 "wend", .opening 2 "Return ",
          .whole 1 "else", .whole 2 "rPen Up", .whole 1 "endif", .opening 1 "print "]
        (instructions added) ∧
      ∀ entry ∈ added, entry.Indented 1 := by
  obtain ⟨loads, -, operates, writes⟩ := indentation_is_layout
  refine ⟨loads dividing .standard _ _ 4 (dividingOften none) rfl, ?_, ?_⟩
  · have runs : (((dividingOften none).withWidth 4).operate .run 9).map
        (fun stop => (stop.1.isOk, stop.2.lines)) =
        some (true, ["MainProgram:", "    y = 12 / x", "    print 4", "End"]) := by
      decide +kernel
    obtain ⟨⟨outcome, t⟩, done, seen⟩ := Option.map_eq_some_iff.mp runs
    obtain ⟨ends, lines⟩ := Prod.mk.inj seen
    obtain ⟨added, written, laid, -⟩ := operates _ t .run 9 outcome done
    have succeeds : outcome.isOk = true := ends
    rw [succeeds] at laid
    exact ⟨outcome, t, added, done, written, ends, laid, lines⟩
  · have live : (stmts (fun _ => some stepping) 22 ⟨1, .live⟩ detour starting).map (·.1.isOk) =
        some true := by
      decide +kernel
    obtain ⟨⟨outcome, n⟩, ran, ends⟩ := Option.map_eq_some_iff.mp live
    obtain ⟨added, headings, written, indented, fits, -, loud⟩ :=
      writes (fun _ => some stepping) 22 ⟨1, .live⟩ detour starting outcome n ran
    obtain ⟨-, all⟩ := loud nofun
    rw [all ends] at fits
    exact ⟨outcome, n, added, ran, written, fits, indented⟩

end Session

end RobotScribe
