/-
# Prepared blocks

The functions of a program, all but the main one, can be written as blocks before anything is
run.  A block is the label of its function, the lines of the body, and a closing label.  Its
body is dry code, so what is known of dry code holds of preparation as a whole: it comes to an
end, only the shape of the code can stop it, and otherwise the blocks are the source, with some
connectives trimmed.
-/
import RobotScribe.Proofs.DryOutcome
import RobotScribe.Proofs.Sessions

namespace RobotScribe

open Eval

namespace Settles

variable {stops : Fault → Prop} {enough : Prop} {β : Type}
  {Q : List Entry → β → Prop}

lemma after_label {f : Unit → Eval β} (text : String)
    (second : Settles stops enough (fun lines b => Q (.label text :: lines) b) (f ())) :
    Settles stops enough Q (label text >>= f) := by
  refine bind (P := fun lines _ => lines = [.label text]) ?_ ?_
  · exact of_step (fun _ => ()) (fun m => { m with transcript := m.transcript.label text })
      (fun _ => rfl) fun m => ⟨[.label text], by simp [Machine.written, Transcript.label], rfl⟩
  · rintro ⟨⟩ _ rfl
    exact second

lemma after_popFrame {f : Unit → Eval β} (second : Settles stops enough Q (f ())) :
    Settles stops enough Q (popFrame >>= f) :=
  after (fun _ => ()) (fun m => { m with memory := m.memory.pop }) (fun _ => rfl) (fun _ => rfl)
    fun _ => second

lemma after_enterBlock {f : Unit → Eval β} {function : Function}
    (second : Settles stops enough Q (f ())) :
    Settles stops enough Q (Session.enterBlock function >>= f) :=
  after (fun _ => ()) (fun m => { m with
      memory := m.memory.enter function.name.name m.line []
      line := function.span.startLine })
    (Session.enterBlock_apply function) (fun _ => rfl) fun _ => second

lemma after_defineStandIns {f : Unit → Eval β} (params : List Param)
    (second : Settles stops enough Q (f ())) :
    Settles stops enough Q (Session.defineStandIns params >>= f) := by
  induction params with
  | nil => exact second
  | cons param rest ih =>
    rw [Session.defineStandIns, bind_assoc]
    exact after_define ih

end Settles

namespace Session

variable (functions : String → Option Function) (fuel : Nat)

/-- The lines of a block are those of its function, trimmed. -/
lemma settles_prepareFunction (function : Function) :
    Settles (Misfits functions (MakesIn function.body.stmts)) (sizeOf function.body.stmts ≤ fuel)
      (fun lines _ => ∃ function', TrimsFunction function function' ∧ lines = function'.lines)
      (prepareFunction functions fuel function) := by
  have body := (settled functions fuel).stmts
    (rfl : (Cursor.top .dry).deeper.phase = .dry) function.body.stmts
  have inside : Settles (Misfits functions (MakesIn function.body.stmts))
      (sizeOf function.body.stmts ≤ fuel)
      (fun lines _ => ∃ body, TrimsBlock function.body body ∧ lines = body.lines 1)
      (writeBlock functions fuel function) := by
    refine .after_defineStandIns _ (.bind body ?_)
    rintro flow _ ⟨stmts, all, rfl⟩
    exact .pure ⟨⟨stmts, function.body.span⟩, all.block, List.append_nil _⟩
  rw [prepareFunction_eq]
  refine .after_label _ (.after_enterBlock (.bind inside ?_))
  rintro ⟨⟩ _ ⟨body, trims, rfl⟩
  rw [← bind_pure (label "Return")]
  exact .after_popFrame (.after_label _ (.pure ⟨_, .mk function trims, rfl⟩))

/-- A call is made in the body of one of some functions. -/
def MakesInBodies (list : List Function) (site : Call) (used : Bool) : Prop :=
  ∃ function ∈ list, MakesIn function.body.stmts site used

/-- The lines of several blocks, one after the other. -/
lemma settles_prepareAll (list : List Function) :
    Settles (Misfits functions (MakesInBodies list))
      (∀ function ∈ list, sizeOf function.body.stmts ≤ fuel)
      (fun lines _ => ∃ blocks, List.Forall₂ TrimsFunction list blocks ∧
        lines = blocks.flatMap Function.lines)
      (prepareAll functions fuel list) := by
  induction list with
  | nil => exact .pure ⟨[], .nil, rfl⟩
  | cons function rest ih =>
    have first := settles_prepareFunction functions fuel function
    have here : ∀ {site used}, MakesIn function.body.stmts site used →
        MakesInBodies (function :: rest) site used :=
      fun made => ⟨function, List.mem_cons_self, made⟩
    have there : ∀ {site used}, MakesInBodies rest site used →
        MakesInBodies (function :: rest) site used := by
      rintro site used ⟨other, mem, made⟩
      exact ⟨other, List.mem_cons_of_mem function mem, made⟩
    refine .bind (first.within (Misfits.imp here) fun enough => ?_) ?_
    · exact enough function List.mem_cons_self
    rintro ⟨⟩ _ ⟨function', trims, rfl⟩
    refine ih.mono (Misfits.imp there) (fun enough => ?_) ?_
    · exact fun other mem => enough other (List.mem_cons_of_mem _ mem)
    · rintro _ ⟨⟩ ⟨blocks, all, rfl⟩
      exact ⟨function' :: blocks, .cons trims all, rfl⟩

/-- Functions without connectives are trimmed only to themselves. -/
lemma eq_of_trims {list blocks : List Function} (h : List.Forall₂ TrimsFunction list blocks)
    (free : ∀ function ∈ list, function.body.connectiveFree = true) : blocks = list := by
  induction h with
  | nil => rfl
  | cons trims others ih =>
    have rest := ih fun function mem => free function (List.mem_cons_of_mem _ mem)
    rw [trims.eq (free _ List.mem_cons_self), rest]

variable {functions fuel} {s t : Session}

/-- **Prepared blocks are the source.**  When the first preparation succeeds, the lines that it
adds are the blocks of all functions but the main one, in source order, with some connectives
replaced by their left operands.  Without connectives they are the blocks themselves. -/
theorem prepare_writes_blocks (first : s.prepared = false)
    (done : s.prepare fuel = some (.ok (), t)) :
    ∃ blocks, List.Forall₂ TrimsFunction s.preparable blocks ∧
      (∀ width, t.machine.transcript.lines width = s.machine.transcript.lines width ++
        (blocks.flatMap Function.lines).map (Entry.render width)) ∧
      ((∀ function ∈ s.preparable, function.body.connectiveFree = true) →
        blocks = s.preparable) := by
  rw [prepare, first, if_neg Bool.false_ne_true, perform_eq_some] at done
  obtain ⟨_ | ⟨⟨⟩⟩, m, ran, ends, rfl⟩ := done
  · cases ends
  have settles := settles_prepareAll s.declarations.find? fuel s.preparable
  obtain ⟨added, written, blocks, trims, rfl⟩ := settles.done ran
  have entries : m.transcript.entries.toList =
      s.machine.transcript.entries.toList ++ blocks.flatMap Function.lines := written
  refine ⟨blocks, trims, fun width => ?_, fun free => ?_⟩
  · simp only [Transcript.lines, Transcript.linesFrom, List.drop_zero, entries, List.map_append]
  · exact eq_of_trims trims free

/-! ## A recursive function -/

/-- A function that calls itself in both branches, in arguments and after a return, and one whose
connective is not decided by what stands in for its parameter. -/
def counters : Program where
  functions :=
    [⟨⟨"main", .unknown⟩, [], none, ⟨[], .unknown⟩, .ofLine 1⟩,
     ⟨⟨"down", .unknown⟩, [.byValue ⟨"n", .unknown⟩], some .integer,
      ⟨[.ifThen
          (.binary (.binary (.var "n" .unknown) (.relational .greater) (.integer 0 .unknown)
            .unknown) (.logical .and) (.call ⟨⟨"odd", .unknown⟩, [.var "n" .unknown], .unknown⟩
            .unknown) .unknown)
          ⟨[.giveBack (some (.call ⟨⟨"down", .unknown⟩,
              [.call ⟨⟨"down", .unknown⟩, [.var "n" .unknown], .unknown⟩ .unknown], .unknown⟩
              .unknown)) .unknown], .unknown⟩
          (some ⟨[.whileDo (.boolean true .unknown)
              ⟨[.call ⟨⟨"odd", .unknown⟩, [.var "n" .unknown], .unknown⟩], .unknown⟩ .unknown],
            .unknown⟩) .unknown,
        .giveBack (some (.var "n" .unknown)) .unknown,
        .write (.var "n" .unknown) .unknown], .unknown⟩, .ofLine 3⟩,
     ⟨⟨"odd", .unknown⟩, [.byValue ⟨"k", .unknown⟩], some .boolean,
      ⟨[.giveBack (some (.binary (.binary (.var "k" .unknown) (.relational .eq)
          (.integer 0 .unknown) .unknown) (.logical .and) (.boolean true .unknown) .unknown))
          .unknown], .unknown⟩, .ofLine 12⟩]
  span := .unknown

/-- The session of that program. -/
def counterSession : Session :=
  ⟨⟨counters.functions⟩, .standard, false, initialMachine ⟨[], []⟩ none⟩

theorem prepare_writes_blocks_counters : ∃ (t : Session) (blocks : List Function),
    counterSession.prepare 20 = some (.ok (), t) ∧
    t.machine.transcript.lines 2 =
      ["down:", "  if n > 0", "    down()", "    down()", "    Return down()", "  else",
        "    while true", "      odd()", "    wend", "  endif", "  Return n", "  print n",
        "Return", "odd:", "  Return k == 0 && true", "Return"] ∧
    List.Forall₂ TrimsFunction counterSession.preparable blocks ∧
    t.machine.transcript.lines 2 = (blocks.flatMap Function.lines).map (Entry.render 2) := by
  have prepares : (counterSession.prepare 20).map
      (fun stop => (stop.1.isOk, stop.2.machine.transcript.lines 2)) =
      some (true,
        ["down:", "  if n > 0", "    down()", "    down()", "    Return down()", "  else",
          "    while true", "      odd()", "    wend", "  endif", "  Return n", "  print n",
          "Return", "odd:", "  Return k == 0 && true", "Return"]) := by
    decide +kernel
  obtain ⟨⟨outcome, t⟩, done, seen⟩ := Option.map_eq_some_iff.mp prepares
  obtain ⟨ends, lines⟩ := Prod.mk.inj seen
  cases outcome with
  | error fault => cases ends
  | ok =>
    obtain ⟨blocks, trims, written, -⟩ := prepare_writes_blocks rfl done
    exact ⟨t, blocks, done, lines, trims, written 2⟩

end Session

end RobotScribe
