/-
# Operations do not disturb each other

A session can be run and prepared any number of times, in any order, and any of these
operations may fail.  A failed operation leaves its frames behind, a line somewhere inside a
function, and a piece of transcript.  None of this is seen by a later operation: it comes to what
it would come to in a session that has just been loaded, given the input that is left.

There are two halves to this.  An operation starts with a frame of its own, so what it comes to
does not depend on the frames and the line that it finds (`Independent`).  And nothing is handed
over to it, so whatever is there when it starts stays as it is (`operation`).
-/
import RobotScribe.Proofs.Isolation
import RobotScribe.Proofs.Sessions
import RobotScribe.Proofs.TraceKept

namespace RobotScribe

open Eval

/-! ## What an operation leaves alone -/

namespace Memory

variable {old mid new : Memory}

/-- What is there after an operation is there after the next one. -/
lemma Called.trans {above : List Frame} (h : Called [] [] old mid) (h' : Called [] above mid new) :
    Called [] above old new := by
  have frames : mid.frames = old.frames := h.frames
  refine ⟨h.store.trans h'.store (by simp), by rw [h'.frames, frames], ?_⟩
  intro frame mem slot bound
  rcases h'.within frame mem slot bound with mem | ⟨low, high⟩
  · exact Or.inl mem
  · exact Or.inr ⟨Nat.le_trans h.store.size_le low, high⟩

end Memory

namespace Machine

variable {l m n : Machine} {above : List Frame}

/-- What an operation does to a machine: it may leave frames above those that it found, and it
writes to no slot that was there. -/
structure Operated (above : List Frame) (m n : Machine) : Prop where
  memory : Memory.Called [] above m.memory n.memory
  written : m.written <+: n.written
  untraced : m.trace = none → n.trace = none

lemma Operated.refl (m : Machine) : Operated [] m m :=
  ⟨.refl _ _, List.prefix_rfl, fun none => none⟩

lemma Operated.trans (h : Operated [] l m) (h' : Operated above m n) : Operated above l n :=
  ⟨h.memory.trans h'.memory, h.written.trans h'.written, fun none => h'.untraced (h.untraced none)⟩

end Machine

open Machine

/-- The effect of operations.  Only those that fail leave frames behind. -/
def operation : Effect where
  done := Operated []
  stopped m n := ∃ above, Operated above m n
  done_refl := .refl
  done_trans := .trans
  stopped_of_done h := ⟨[], h⟩
  stopped_trans h := by
    rintro ⟨above, h'⟩
    exact ⟨above, h.trans h'⟩

namespace Operating

variable {functions : String → Option Function} {fuel : Nat}

lemma label (text : String) : operation.Allows (label text) := by
  refine .of_done fun m outcome n ran => ?_
  cases ran
  refine ⟨.refl _ _, ?_, fun none => none⟩
  simp only [Machine.written, Transcript.label, Transcript.toList_add]
  exact List.prefix_append _ _

lemma runFunction (body : Cursor) (function : Function) :
    operation.Allows (runFunction functions fuel body function []) := by
  intro m outcome n ran
  have does := Footprint.callDoes functions ran
  have kept : m.trace = none → n.trace = none :=
    (Untraced.runFunction functions fuel body function []).done id ran
  obtain ⟨above, called, ends⟩ := does.memory
  cases outcome with
  | ok value =>
    rw [ends value rfl] at called
    exact ⟨called, does.written, kept⟩
  | error fault => exact ⟨above, called, does.written, kept⟩

lemma runMain : operation.Allows (Session.runMain functions fuel) := by
  unfold Session.runMain
  refine .bind (label _) fun _ => ?_
  split
  · exact .throw _
  · exact .bind (runFunction _ _) fun _ => label _

lemma defineStandIns (params : List Param) :
    (footprint (.top .dry)).Allows (Session.defineStandIns params) := by
  induction params with
  | nil => exact .pure ()
  | cons param rest ih => exact .bind (Footprint.define _ _) fun _ => ih

lemma writeBlock (function : Function) :
    (footprint (.top .dry)).Allows (Session.writeBlock functions fuel function) := by
  have contained := Footprint.contained functions fuel
  refine .bind (defineStandIns _) fun _ => ?_
  exact .bind (contained.stmts (Cursor.top .dry).deeper trivial _) fun _ => .pure ()

/-- The frame of a block is taken away once it is written.  If it cannot be written the frame
stays. -/
lemma prepareFunction (function : Function) :
    operation.Allows (Session.prepareFunction functions fuel function) := by
  rw [Session.prepareFunction_eq]
  refine .bind (label _) fun _ => ?_
  intro m outcome n ran
  rw [bind_of_ok (Session.enterBlock_apply function m)] at ran
  rcases bind_eq_some.mp ran with ⟨fault, rfl, stopped⟩ | ⟨⟨⟩, l, done, ran⟩
  · have halts : Halts .dry _ n := writeBlock function stopped
    obtain ⟨-, -, trace⟩ := halts.dry rfl
    have left : ∃ above, Memory.Called [] above m.memory n.memory :=
      Memory.Called.of_strands halts.memory (by simp)
    obtain ⟨above, called⟩ := left
    exact ⟨above, called, halts.written, fun none => trace.trans none⟩
  · have proceeds : Proceeds .dry _ l := writeBlock function done
    obtain ⟨-, trace⟩ := proceeds.dry rfl
    have left : ∃ frame, Memory.Called [] [frame] m.memory l.memory :=
      Memory.Called.of_evolves proceeds.memory (by simp)
    obtain ⟨frame, called⟩ := left
    -- the frame of the block is the only one above the frames that were there
    have popped : Operated [] m { l with memory := l.memory.pop } :=
      ⟨called.pop, proceeds.written, fun none => trace.trans none⟩
    have ended := label "Return" ran
    cases outcome with
    | ok => exact popped.trans ended
    | error fault =>
      obtain ⟨above, ended⟩ := ended
      exact ⟨above, popped.trans ended⟩

lemma prepareAll (list : List Function) :
    operation.Allows (Session.prepareAll functions fuel list) := by
  induction list with
  | nil => exact .pure ()
  | cons function rest ih => exact .bind (prepareFunction function) fun _ => ih

end Operating

/-- Preparing functions leaves the input and the trace alone. -/
lemma Session.allows_prepareAll {E : Effect} {functions : String → Option Function} {fuel : Nat}
    (allows : ∀ {m n : Machine}, n.input = m.input → n.trace = m.trace → E.done m n)
    (list : List Function) : E.Allows (Session.prepareAll functions fuel list) := by
  have label : ∀ text, E.Allows (label text) := by
    refine fun text => .of_done fun m outcome n ran => ?_
    cases ran
    exact allows rfl rfl
  induction list with
  | nil => exact .pure ()
  | cons function rest ih =>
    have enters : E.Allows (Session.enterBlock function) := by
      refine .of_done fun m outcome n ran => ?_
      cases ran
      exact allows rfl rfl
    have writes : E.Allows (Session.writeBlock functions fuel function) := by
      refine .of_done fun m outcome n ran => ?_
      obtain ⟨-, input, trace⟩ := Footprint.keeps_of_dry rfl (Operating.writeBlock function) ran
      exact allows input trace
    have pops : E.Allows popFrame := by
      refine .of_done fun m outcome n ran => ?_
      cases ran
      exact allows rfl rfl
    refine .bind ?_ fun _ => ih
    rw [Session.prepareFunction_eq]
    refine .bind (label _) fun _ => .bind enters fun _ => .bind writes fun _ => ?_
    exact .bind pops fun _ => label _

/-- The effect of operations that read no input. -/
def unreading : Effect where
  done m n := n.input = m.input
  stopped m n := n.input = m.input
  done_refl _ := rfl
  done_trans first second := second.trans first
  stopped_of_done h := h
  stopped_trans first second := second.trans first

/-! ## What an operation comes to -/

/-- Two machines without a trace that have the same input.  Since their transcripts were `base`
and `base'` the same has been written. -/
structure Machine.Apart (base base' : List Entry) (m n : Machine) : Prop where
  input : n.input = m.input
  untraced : m.trace = none
  untraced' : n.trace = none
  written : ∃ added, m.written = base ++ added ∧ n.written = base' ++ added

/-- A computation that comes to the same in two machines, whatever their frames and lines
are. -/
def Independent {α : Type} (x : Eval α) : Prop :=
  ∀ ⦃base base' m n⦄, Apart base base' m n → ∀ ⦃outcome m'⦄, x m = some (outcome, m') →
    ∃ n', x n = some (outcome, n') ∧ Apart base base' m' n' ∧
      ∀ fault, outcome = .error fault → n'.line = m'.line

section

variable {base base' : List Entry} {pairs : Pairing} {m n m' n' : Machine}

lemma Machine.Apart.symm (h : Apart base base' m n) : Apart base' base n m := by
  obtain ⟨added, written, written'⟩ := h.written
  exact ⟨h.input.symm, h.untraced', h.untraced, added, written', written⟩

/-- Machines that have no slots in common. -/
lemma Machine.Apart.agree (h : Apart base base' m n) :
    Agree base base' (fun _ _ => False) m n :=
  ⟨.none _ _, h.input, h.untraced'.trans h.untraced.symm, h.written⟩

lemma Machine.Agree.apart (h : Agree base base' pairs m n) (untraced : m.trace = none) :
    Apart base base' m n :=
  ⟨h.input, untraced, h.trace.trans untraced, h.written⟩

end

namespace Independent

variable {α β : Type} {functions : String → Option Function} {fuel : Nat}

lemma pure (a : α) : Independent (pure a : Eval α) := by
  intro base base' m n apart outcome m' ran
  cases ran
  exact ⟨n, rfl, apart, by simp⟩

lemma bind {x : Eval α} {f : α → Eval β} (first : Independent x)
    (second : ∀ a, Independent (f a)) : Independent (x >>= f) := by
  intro base base' m n apart outcome m' ran
  rcases bind_eq_some.mp ran with ⟨fault, rfl, stopped⟩ | ⟨a, l, done, ran⟩
  · obtain ⟨n', stopped', apart', line⟩ := first apart stopped
    exact ⟨n', bind_of_error stopped', apart', fun _ _ => line fault rfl⟩
  · obtain ⟨l', done', apart', -⟩ := first apart done
    obtain ⟨n', ran', apart'', line⟩ := second a apart' ran
    exact ⟨n', (bind_of_ok done').trans ran', apart'', line⟩

lemma label (text : String) : Independent (label text) := by
  intro base base' m n apart outcome m' ran
  cases ran
  obtain ⟨added, written, written'⟩ := apart.written
  have more : ∃ added, m.written ++ [.label text] = base ++ added ∧
      n.written ++ [.label text] = base' ++ added :=
    ⟨added ++ [.label text], by rw [written, List.append_assoc],
      by rw [written', List.append_assoc]⟩
  refine ⟨_, rfl, ⟨apart.input, apart.untraced, apart.untraced', ?_⟩, by simp⟩
  simpa only [Machine.written, Transcript.label, Transcript.toList_add] using more

lemma popFrame : Independent popFrame := by
  intro base base' m n apart outcome m' ran
  cases ran
  exact ⟨_, rfl, ⟨apart.input, apart.untraced, apart.untraced', apart.written⟩, by simp⟩

/-- A function without arguments sees nothing of the machine but the input. -/
lemma runFunction (body : Cursor) (function : Function) :
    Independent (runFunction functions fuel body function []) := by
  intro base base' m n apart outcome m' ran
  -- no slots are handed over, so the function starts without a pair
  obtain ⟨pairs, n', done, -, agree, line⟩ :=
    Mirrors.runFunction_of (fun less _ => Mirrors.everywhere _ _ functions less) apart.agree
      (Or.inl apart.untraced) .nil ran
  have untraced : m'.trace = none :=
    (Untraced.runFunction functions fuel body function []).done id ran apart.untraced
  exact ⟨n', done, agree.apart untraced, line⟩

lemma runMain {main : Function} (declared : functions Session.mainName = some main) :
    Independent (Session.runMain functions fuel) := by
  unfold Session.runMain
  rw [declared]
  exact .bind (label _) fun _ => .bind (runFunction _ _) fun _ => label _

lemma mirrors_defineStandIns (base base' : List Entry) (params : List Param) :
    Mirrors base base' (Session.defineStandIns params) (Session.defineStandIns params) := by
  induction params with
  | nil => exact .pure ()
  | cons param rest ih => exact .bind (.define _ _) fun _ => ih

lemma mirrors_writeBlock (base base' : List Entry) (function : Function) :
    Mirrors base base' (Session.writeBlock functions fuel function)
      (Session.writeBlock functions fuel function) := by
  refine .bind (mirrors_defineStandIns base base' _) fun _ => ?_
  have written := (Mirrors.everywhere base base' functions fuel).stmts
    (rfl : (Cursor.top .dry).deeper = (Cursor.top .dry).deeper) function.body.stmts
  exact .bind written fun _ => .pure ()

/-- The body of a block is written in a frame of its own. -/
lemma block (function : Function) :
    Independent (do
      Session.enterBlock function
      Session.writeBlock functions fuel function) := by
  intro base base' m n apart outcome m' ran
  rw [bind_of_ok (Session.enterBlock_apply function m)] at ran
  -- the two new frames are empty, so no slots have to be paired
  have alike : Machine.Alike base base' (fun _ _ => False)
      { m with
        memory := m.memory.enter function.name.name m.line []
        line := function.span.startLine }
      { n with
        memory := n.memory.enter function.name.name n.line []
        line := function.span.startLine } :=
    ⟨⟨.none _ _, apart.input, apart.agree.trace, apart.written⟩,
      .top _ _ (.empty _ _ _ _), rfl⟩
  obtain ⟨pairs, outcome', n', done, -, ends⟩ :=
    mirrors_writeBlock base base' function _ alike ran
  have untraced : m'.trace = none := by
    obtain ⟨-, -, trace⟩ := Footprint.keeps_of_dry rfl (Operating.writeBlock function) ran
    exact trace.trans apart.untraced
  rw [bind_of_ok (Session.enterBlock_apply function n)]
  cases ends with
  | ok same alike' => exact ⟨n', done, alike'.apart untraced, by simp⟩
  | error agree line => exact ⟨n', done, agree.apart untraced, fun _ _ => line⟩

lemma prepareFunction (function : Function) :
    Independent (Session.prepareFunction functions fuel function) := by
  have parts : Session.prepareFunction functions fuel function = (do
      Eval.label (function.name.name ++ ":")
      (do
        Session.enterBlock function
        Session.writeBlock functions fuel function)
      Eval.popFrame
      Eval.label "Return") := by
    rw [Session.prepareFunction_eq]
    simp
  rw [parts]
  exact .bind (label _) fun _ => .bind (block function) fun _ => .bind popFrame fun _ => label _

lemma prepareAll (list : List Function) :
    Independent (Session.prepareAll functions fuel list) := by
  induction list with
  | nil => exact .pure ()
  | cons function rest ih => exact .bind (prepareFunction function) fun _ => ih

end Independent

/-! ## Sessions -/

/-- The operations of a session. -/
inductive Operation where
  | run
  | prepare
deriving DecidableEq

namespace Session

/-- Carries out an operation. -/
def operate (s : Session) :
    Operation → Nat → Option (Except LocatedFault Unit × Session)
  | .run, fuel => s.run fuel
  | .prepare, fuel => s.prepare fuel

/-- What an operation shows: its outcome, the lines that it adds, and the input that it
leaves. -/
def shown (s : Session) (op : Operation) (fuel : Nat) :
    Option (Except LocatedFault Unit × List String × Input) :=
  (s.operate op fuel).map fun stop =>
    (stop.1, stop.2.linesFrom s.machine.transcript.length, stop.2.machine.input)

/-- The sessions that a sequence of operations leads to.  Each of them may succeed or fail. -/
inductive Leads (start : Session) : List Operation → Session → Prop where
  | start : Leads start [] start
  | operate {ops : List Operation} {s t : Session} {op : Operation} {fuel : Nat}
      {outcome : Except LocatedFault Unit} (before : Leads start ops s)
      (done : s.operate op fuel = some (outcome, t)) : Leads start (ops ++ [op]) t

/-- The session that has just been loaded with the input that is left. -/
def afresh (s : Session) : Session :=
  ⟨s.declarations, s.settings, false, initialMachine s.machine.input none⟩

/-- What an operation does to the machine.  A second preparation does nothing. -/
def activity (s : Session) (fuel : Nat) : Operation → Eval Unit
  | .run => runMain s.declarations.find? fuel
  | .prepare =>
    if s.prepared then pure () else prepareAll s.declarations.find? fuel s.preparable

variable {s t : Session} {op : Operation} {fuel : Nat} {outcome : Except LocatedFault Unit}

lemma operate_eq_some :
    s.operate op fuel = some (outcome, t) ↔
      ∃ result m, s.activity fuel op s.machine = some (result, m) ∧
        outcome = result.mapError (LocatedFault.mk · m.line) ∧
        t = { s with machine := m, prepared := s.prepared || op == .prepare } := by
  obtain ⟨declarations, settings, prepared, machine⟩ := s
  cases op with
  | run =>
    have other : (Operation.run == .prepare) = false := rfl
    rw [operate, run, perform_eq_some]
    simp [activity, other]
  | prepare =>
    cases prepared with
    | true => simp [operate, prepare, activity, Except.mapError, eq_comm]
    | false =>
      simp only [operate, prepare, Bool.false_eq_true, if_false]
      rw [perform_eq_some]
      simp [activity, preparable]

/-! ## One operation -/

lemma activity_allows : operation.Allows (s.activity fuel op) := by
  cases op with
  | run => exact Operating.runMain
  | prepare =>
    rw [activity]
    split
    · exact .pure ()
    · exact Operating.prepareAll _

lemma activity_unreading : unreading.Allows (s.activity fuel .prepare) := by
  rw [activity]
  split
  · exact .pure ()
  · exact allows_prepareAll (fun input _ => input) _

lemma activity_independent {main : Function}
    (declared : s.declarations.find? mainName = some main) :
    Independent (s.activity fuel op) := by
  cases op with
  | run => exact .runMain declared
  | prepare =>
    rw [activity]
    split
    · exact .pure ()
    · exact .prepareAll _

/-- What every operation does to the machine. -/
lemma operated (done : s.operate op fuel = some (outcome, t)) :
    ∃ above, Operated above s.machine t.machine ∧ (outcome = .ok () → above = []) := by
  obtain ⟨result, m, ran, rfl, rfl⟩ := operate_eq_some.mp done
  have allowed := activity_allows ran
  cases result with
  | ok => exact ⟨[], allowed, fun _ => rfl⟩
  | error fault =>
    obtain ⟨above, left⟩ := allowed
    exact ⟨above, left, by simp [Except.mapError]⟩

lemma input_of_prepare (done : s.operate .prepare fuel = some (outcome, t)) :
    t.machine.input = s.machine.input := by
  obtain ⟨result, m, ran, rfl, rfl⟩ := operate_eq_some.mp done
  exact activity_unreading.done id ran

/-- The lines that are added are those after the ones that were there. -/
lemma linesFrom_eq {added : List Entry} (written : t.machine.written = s.machine.written ++ added) :
    t.linesFrom s.machine.transcript.length = added.map (Entry.render t.settings.indentWidth) := by
  have length : s.machine.transcript.length = s.machine.written.length := by
    simp [Machine.written, Transcript.length]
  have entries : t.machine.transcript.entries.toList = s.machine.written ++ added := written
  rw [linesFrom, Transcript.linesFrom, entries, length, List.drop_left]

/-- Two sessions that do the same show the same, whatever else they hold. -/
lemma shown_le (settings : t.settings = s.settings)
    (activity : t.activity fuel op = s.activity fuel op)
    (independent : Independent (s.activity fuel op))
    (apart : Apart s.machine.written t.machine.written s.machine t.machine)
    {view : Except LocatedFault Unit × List String × Input}
    (seen : s.shown op fuel = some view) : t.shown op fuel = some view := by
  obtain ⟨⟨outcome, s'⟩, done, rfl⟩ := Option.map_eq_some_iff.mp seen
  obtain ⟨result, m, ran, rfl, rfl⟩ := operate_eq_some.mp done
  obtain ⟨n, ran', apart', line⟩ := independent apart ran
  have done' := operate_eq_some.mpr ⟨result, n, by rw [activity, ran'], rfl, rfl⟩
  refine Option.map_eq_some_iff.mpr ⟨_, done', ?_⟩
  obtain ⟨added, written, written'⟩ := apart'.written
  have outcomes : result.mapError (LocatedFault.mk · n.line) =
      result.mapError (LocatedFault.mk · m.line) := by
    cases result with
    | ok => rfl
    | error fault => rw [line fault rfl]
  simp only [Prod.mk.injEq]
  refine ⟨outcomes, ?_, apart'.input⟩
  rw [linesFrom_eq (s := s) written, linesFrom_eq (s := t) written', settings]

/-- An operation shows what it shows in a session that has just been loaded, given the input
that is left. -/
lemma shown_afresh {main : Function} (declared : s.declarations.find? mainName = some main)
    (untraced : s.machine.trace = none) (first : op = .run ∨ s.prepared = false) (fuel : Nat) :
    s.shown op fuel = s.afresh.shown op fuel := by
  have activity : s.afresh.activity fuel op = s.activity fuel op := by
    rcases first with rfl | unprepared
    · rfl
    · cases op with
      | run => rfl
      | prepare => simp [Session.activity, afresh, unprepared, preparable]
  have settings : s.afresh.settings = s.settings := rfl
  have independent : Independent (s.activity fuel op) := activity_independent declared
  have apart : Apart s.machine.written s.afresh.machine.written s.machine s.afresh.machine :=
    ⟨rfl, untraced, rfl, [], by simp, by simp⟩
  have independent' : Independent (s.afresh.activity fuel op) := by
    rw [activity]
    exact independent
  -- an operation that does not end does not end on the other side either
  ext view
  constructor
  · intro seen
    exact shown_le settings activity independent apart seen
  · intro seen
    exact shown_le settings.symm activity.symm independent' apart.symm seen

/-! ## Loading -/

/-- Loading without a trace. -/
lemma load_eq_ok {program : Program} {settings : Settings} {input : Input}
    {openTrace : String → Except Fault Sink} (untraced : settings.trace = none) :
    load program settings input openTrace = .ok s ↔
      Declarations.ofProgram program = .ok s.declarations ∧ s.settings = settings ∧
        s.prepared = false ∧ s.machine = initialMachine input none := by
  obtain ⟨declarations, settings', prepared, machine⟩ := s
  unfold load
  rw [untraced]
  cases Declarations.ofProgram program with
  | error fault => simp [bind, Except.bind]
  | ok declared =>
    simp only [bind, Except.bind, pure, Except.pure, Except.ok.injEq, Session.mk.injEq]
    constructor
    · rintro ⟨rfl, rfl, rfl, rfl⟩
      exact ⟨rfl, rfl, rfl, rfl⟩
    · rintro ⟨rfl, rfl, rfl, rfl⟩
      exact ⟨rfl, rfl, rfl, rfl⟩

/-- What operations leave as it was loaded, and what they say about preparation. -/
lemma Leads.kept {start : Session} {ops : List Operation} (leads : Leads start ops s)
    (untraced : start.machine.trace = none) (unprepared : start.prepared = false) :
    s.declarations = start.declarations ∧ s.settings = start.settings ∧
      s.machine.trace = none ∧ (s.prepared = true ↔ .prepare ∈ ops) := by
  induction leads with
  | start => exact ⟨rfl, rfl, untraced, by simp [unprepared]⟩
  | @operate ops s t op fuel outcome before done ih =>
    obtain ⟨declarations, settings, none, prepared⟩ := ih
    obtain ⟨above, operated, -⟩ := operated done
    obtain ⟨result, m, -, -, rfl⟩ := operate_eq_some.mp done
    refine ⟨declarations, settings, operated.untraced none, ?_⟩
    simp only [Bool.or_eq_true, beq_iff_eq, prepared, List.mem_append, List.mem_singleton]
    exact or_congr_right eq_comm

lemma Leads.reached {start : Session} {ops : List Operation} (leads : Leads start ops s)
    (reached : Reached start) : Reached s := by
  induction leads with
  | start => exact reached
  | @operate ops s t op fuel outcome before done ih =>
    cases op with
    | run => exact ih.run done
    | prepare => exact ih.prepare done

/-! ## All operations -/

/-- **Operations do not disturb each other.**  Take a program that declares a main function, a
session without a trace, and any operations, each of which may succeed or fail.  What a run shows
next is what it shows in a session that has just been loaded, given the input that is left.  The
same holds of the first preparation, which reads no input; the later ones succeed and change
nothing.  An operation leaves the frames that it finds as they are, with the values of all their
variables, and only one that fails adds frames above them.  Lines stay as they are written. -/
theorem operations_keep_apart {program : Program} {settings : Settings} {input : Input}
    {openTrace : String → Except Fault Sink} {start s : Session} {ops : List Operation}
    (declares : ∃ main ∈ program.functions, main.name.name = mainName)
    (untraced : settings.trace = none)
    (loaded : load program settings input openTrace = .ok start) (leads : Leads start ops s) :
    (∃ fresh, load program settings s.machine.input openTrace = .ok fresh ∧
      (∀ fuel, s.shown .run fuel = fresh.shown .run fuel) ∧
      (.prepare ∉ ops → ∀ fuel, s.shown .prepare fuel = fresh.shown .prepare fuel)) ∧
    (.prepare ∈ ops → ∀ fuel, s.operate .prepare fuel = some (.ok (), s)) ∧
    ∀ op fuel outcome t, s.operate op fuel = some (outcome, t) →
      (op = .prepare → t.machine.input = s.machine.input) ∧
      s.machine.transcript.entries.toList <+: t.machine.transcript.entries.toList ∧
      (∃ above, t.machine.memory.frames = above ++ s.machine.memory.frames ∧
        (outcome = .ok () → above = [])) ∧
      ∀ frame ∈ s.machine.memory.frames, ∀ slot ∈ frame.slots,
        t.machine.memory.store.read slot = s.machine.memory.store.read slot := by
  obtain ⟨declared, setUp, unprepared, initial⟩ := (load_eq_ok untraced).mp loaded
  have silent : start.machine.trace = none := by rw [initial]; rfl
  obtain ⟨declarations, kept, none, prepared⟩ := leads.kept silent unprepared
  have sound : s.machine.memory.Sound := (leads.reached (.load loaded)).sound
  have found : ∃ main, s.declarations.find? mainName = some main := by
    obtain ⟨main, mem, named⟩ := declares
    obtain ⟨-, functions⟩ := Declarations.ofProgram_eq_ok.mp declared
    rw [declarations, functions, ← Option.isSome_iff_exists, Declarations.find?,
      List.find?_isSome]
    exact ⟨main, mem, by simpa using named⟩
  obtain ⟨main, found⟩ := found
  refine ⟨⟨s.afresh, ?_, ?_, ?_⟩, ?_, ?_⟩
  · rw [load_eq_ok untraced]
    exact ⟨by rw [declared, ← declarations]; rfl, kept.trans setUp, rfl, rfl⟩
  · exact shown_afresh found none (Or.inl rfl)
  · intro first
    have unprepared : s.prepared = false := by simpa [← prepared] using first
    exact shown_afresh found none (Or.inr unprepared)
  · intro mem fuel
    exact prepare_of_prepared (prepared.mpr mem) fuel
  · intro op fuel outcome t done
    obtain ⟨above, operated, ends⟩ := operated done
    refine ⟨?_, operated.written, ⟨above, operated.memory.frames, ends⟩, ?_⟩
    · rintro rfl
      exact input_of_prepare done
    · intro frame mem slot bound
      exact operated.memory.store.read_eq slot (sound frame mem slot bound) (by simp)

/-! ## A run after a failed run -/

/-- A main function that divides by a number that it reads, and another function. -/
def dividing : Program where
  functions :=
    [⟨⟨"main", .unknown⟩, [], none,
      ⟨[.read ⟨"x", .unknown⟩ .unknown,
        .assign (.var ⟨"y", .unknown⟩)
          (.binary (.integer 12 .unknown) (.arithmetic .div) (.var "x" .unknown) .unknown)
          (.ofLine 3),
        .write (.var "y" .unknown) .unknown], .unknown⟩, .ofLine 1⟩,
     ⟨⟨"seven", .unknown⟩, [], some .integer,
      ⟨[.giveBack (some (.integer 7 .unknown)) .unknown], .unknown⟩, .ofLine 6⟩]
  span := .unknown

/-- The session of that program with two numbers to read. -/
def dividingTwice : Session :=
  ⟨⟨dividing.functions⟩, .standard, false, initialMachine ⟨["0", "3"], []⟩ none⟩

theorem operations_keep_apart_dividing : ∃ s fresh : Session,
    Leads dividingTwice [.run] s ∧
    s.machine.memory.depth = 1 ∧
    load dividing .standard s.machine.input (fun path => .error (.io path)) = .ok fresh ∧
    s.shown .run 9 = fresh.shown .run 9 ∧
    (s.shown .run 9).map (fun view => (view.1.isOk, view.2)) =
      some (true, ["MainProgram:", "  y = 12 / x", "  print 4", "End"], ⟨[], []⟩) := by
  have fails : (dividingTwice.run 9).map (fun stop =>
      (stop.2.machine.memory.depth,
        (stop.2.shown .run 9).map fun view => (view.1.isOk, view.2))) =
      some (1, some (true, ["MainProgram:", "  y = 12 / x", "  print 4", "End"], ⟨[], []⟩)) := by
    decide +kernel
  obtain ⟨⟨outcome, s⟩, ran, seen⟩ := Option.map_eq_some_iff.mp fails
  obtain ⟨depth, shown⟩ := Prod.mk.inj seen
  have leads : Leads dividingTwice [.run] s := .operate .start ran
  have loaded : load dividing .standard ⟨["0", "3"], []⟩ (fun path => .error (.io path)) =
      .ok dividingTwice := rfl
  obtain ⟨⟨fresh, afresh, runs, -⟩, -, -⟩ :=
    operations_keep_apart ⟨_, List.mem_cons_self, rfl⟩ rfl loaded leads
  exact ⟨s, fresh, leads, depth, afresh, runs 9, shown⟩

end Session

end RobotScribe
