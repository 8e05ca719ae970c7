/-
# The calls in the transcript and in the trace

A call that is made is written twice: as the call of a block, in the transcript, and as a call, in
the trace.  Silent code writes nothing else to the transcript, so the two can be matched line by
line.  Code around it also writes the calls that dry code would make, of which the trace knows
nothing.

A call is written to the transcript first, and to the trace when its function is entered.  Nothing
comes between the two, so they are looked at as one step (`markedEntry`).

A return that leaves no call open would close the trace, and later calls would be in the transcript
alone.  But wherever silent code is run some call is open, so its own returns do not close the trace
(`Echoing.unclosed_of_stmts`).
-/
import RobotScribe.Proofs.OpenCalls
import RobotScribe.Proofs.TracedRuns

namespace RobotScribe

open Eval TraceLine

/-! ## Lines that match -/

/-- A line of the transcript that calls the block of a function. -/
def Marks (name : String) (entry : Entry) : Prop :=
  ∃ level, entry = .marker level (Text.callForm name)

/-- Between two machines, the first of which has this trace, the lines that were added to the
transcript call the functions that were added to the trace, one after the other. -/
def CallsMatch (trace : CallTrace) (m n : Machine) : Prop :=
  ∃ trace' lines added, n.trace = some trace' ∧
    trace'.sink.stored = trace.sink.stored ++ (textOf lines).toUTF8 ∧
    n.written = m.written ++ added ∧ List.Forall₂ Marks (callees lines) added

/-- What code in a phase has added to the transcript and to the trace, which was `closed` before and
may be closed now. -/
structure Echo (phase : Phase) (closed closed' : Bool) (lines : List TraceLine)
    (added : List Entry) : Prop where
  /-- The calls in the trace are some of those in the transcript. -/
  calls : ∃ names, List.Forall₂ Marks names (added.filter Entry.isMarker) ∧
    (callees lines).Sublist names
  /-- A trace that was closed is as it was. -/
  closed : closed = true → closed' = true ∧ lines = []
  /-- Silent code that leaves the trace open writes the calls in the trace and nothing else. -/
  silent : phase = .silent → closed' = false → List.Forall₂ Marks (callees lines) added

namespace Echo

variable {phase other : Phase} {closed closed' closed'' : Bool} {lines more : List TraceLine}
  {added further : List Entry}

lemma trans (first : Echo phase closed closed' lines added)
    (second : Echo phase closed' closed'' more further) :
    Echo phase closed closed'' (lines ++ more) (added ++ further) := by
  refine ⟨?_, fun shut => ?_, fun silent unclosed => ?_⟩
  · obtain ⟨names, marks, sub⟩ := first.calls
    obtain ⟨names', marks', sub'⟩ := second.calls
    refine ⟨names ++ names', ?_, ?_⟩
    · rw [List.filter_append]
      exact List.rel_append marks marks'
    · rw [callees_append]
      exact sub.append sub'
  · obtain ⟨shut', rfl⟩ := first.closed shut
    obtain ⟨shut'', rfl⟩ := second.closed shut'
    exact ⟨shut'', rfl⟩
  · rw [callees_append]
    refine List.rel_append (first.silent silent ?_) (second.silent silent unclosed)
    -- a trace that was closed in between would not be open now
    cases mid : closed' with
    | false => rfl
    | true => exact absurd (second.closed mid).1 (by simp [unclosed])

/-- A call that is written to both. -/
lemma call (trace : CallTrace) (level : Nat) (depth : Int) (function : Function)
    (args : List Value) (line : UInt32) :
    Echo phase trace.closed trace.closed (trace.noted (.call depth function args line))
      [.marker level (Text.callForm function.name.name)] := by
  have marks : List.Forall₂ Marks [function.name.name]
      [.marker level (Text.callForm function.name.name)] := .cons ⟨level, rfl⟩ .nil
  cases shut : trace.closed with
  | true =>
    rw [CallTrace.noted_of_closed shut]
    exact ⟨⟨_, marks, List.nil_sublist _⟩, fun _ => ⟨rfl, rfl⟩, fun _ unclosed => by cases unclosed⟩
  | false =>
    rw [CallTrace.noted_of_unclosed shut]
    exact ⟨⟨_, marks, List.Sublist.refl _⟩, by simp, fun _ _ => marks⟩

/-- A return is written to the trace alone. -/
lemma giveBack (trace : CallTrace) (depth : Int) (function : Function) (result : Value)
    (args : List Value) (line : UInt32) (stays : trace.closed = true → closed' = true) :
    Echo phase trace.closed closed' (trace.noted (.giveBack depth function result args line))
      [] := by
  have none : callees (trace.noted (.giveBack depth function result args line)) = [] := by
    rw [CallTrace.noted]
    split
    · rfl
    · rfl
  refine ⟨⟨[], .nil, by rw [none]⟩, fun shut => ?_, fun _ _ => by rw [none]; exact .nil⟩
  exact ⟨stays shut, CallTrace.noted_of_closed shut _⟩

/-- What code adds is what code in another phase might add, unless it is more than silent code
might. -/
lemma inPhase (h : Echo other closed closed' lines added)
    (silent : phase = .silent → other = .silent) : Echo phase closed closed' lines added :=
  ⟨h.calls, h.closed, fun quiet => h.silent (silent quiet)⟩

end Echo

/-- What code does to the transcript and to a trace whose sink never fails. -/
def Echoes (phase : Phase) (m n : Machine) : Prop :=
  ∀ ⦃trace⦄, m.trace = some trace → trace.sink.NeverFails →
    ∃ trace' lines added, n.trace = some trace' ∧ trace'.sink.NeverFails ∧
      trace'.sink.stored = trace.sink.stored ++ (textOf lines).toUTF8 ∧
      n.written = m.written ++ added ∧ Echo phase trace.closed trace'.closed lines added

namespace Echoes

variable {phase other : Phase} {l m n : Machine}

/-- Lines of the transcript that are not calls, and that silent code does not write. -/
lemma of_written {added : List Entry} (trace : n.trace = m.trace)
    (written : n.written = m.written ++ added) (plain : added.filter Entry.isMarker = [])
    (silent : phase = .silent → added = []) : Echoes phase m n := by
  intro t kept never
  refine ⟨t, [], added, trace.trans kept, never, by simp, written, ?_⟩
  refine ⟨⟨[], by rw [plain]; exact .nil, .slnil⟩, fun closed => ⟨closed, rfl⟩, fun quiet _ => ?_⟩
  rw [silent quiet]
  exact .nil

lemma of_eq (trace : n.trace = m.trace) (written : n.written = m.written) :
    Echoes phase m n := by
  have none : n.written = m.written ++ [] := by rw [written, List.append_nil]
  exact of_written trace none rfl fun _ => rfl

lemma refl (m : Machine) : Echoes phase m m := of_eq rfl rfl

lemma trans (first : Echoes phase l m) (second : Echoes phase m n) : Echoes phase l n := by
  intro trace kept never
  obtain ⟨trace', lines, added, kept', never', stored, written, echo⟩ := first kept never
  obtain ⟨trace'', more, further, kept'', never'', stored', written', echo'⟩ := second kept' never'
  refine ⟨trace'', lines ++ more, added ++ further, kept'', never'', ?_, ?_, echo.trans echo'⟩
  · rw [stored', stored, textOf_append]
    simp [ByteArray.append_assoc]
  · rw [written', written, List.append_assoc]

lemma inPhase (h : Echoes other m n) (silent : phase = .silent → other = .silent) :
    Echoes phase m n := by
  intro trace kept never
  obtain ⟨trace', lines, added, kept', never', stored, written, echo⟩ := h kept never
  exact ⟨trace', lines, added, kept', never', stored, written, echo.inPhase silent⟩

end Echoes

/-- The effect of code on the two. -/
def echoing (here : Cursor) : Effect where
  done := Echoes here.phase
  stopped := Echoes here.phase
  done_refl := .refl
  done_trans := .trans
  stopped_of_done h := h
  stopped_trans := .trans

namespace Echoing

variable {α : Type} {here : Cursor} {functions : String → Option Function} {fuel : Nat}
  {x : Eval α}

lemma echoes (h : (echoing here).Allows x) {m n : Machine} {outcome : Except Fault α}
    (ran : x m = some (outcome, n)) : Echoes here.phase m n :=
  h.done id ran

lemma inPhase {there : Cursor} (h : (echoing there).Allows x)
    (silent : here.phase = .silent → there.phase = .silent) : (echoing here).Allows x :=
  .of_done fun _ _ _ ran => (echoes h ran).inPhase silent

lemma of_quiet (quiet : Quiet x) : (echoing here).Allows x := by
  refine .of_done fun m outcome n ran => ?_
  obtain ⟨transcript, trace⟩ := quiet ran
  exact .of_eq trace (by rw [Machine.written, transcript, Machine.written])

lemma emit (text : String) : (echoing here).Allows (emit here text) := by
  refine .of_done fun m outcome n ran => ?_
  cases ran
  cases emits : here.phase.emits with
  | true =>
    have loud : here.phase ≠ .silent := by
      intro silent
      rw [silent] at emits
      cases emits
    have written : ({ m with transcript := m.transcript.emit here text } : Machine).written =
        m.written ++ [.instruction here.depth text] := by
      simp [Machine.written, Transcript.emit, emits]
    exact .of_written rfl written rfl (absurd · loud)
  | false => exact .of_eq rfl (by simp [Machine.written, Transcript.emit, emits])

/-- A call that is not made is in the transcript alone. -/
lemma mark (loud : here.phase ≠ .silent) (name : String) :
    (echoing here).Allows (mark here (Text.callForm name)) := by
  refine .of_done fun m outcome n ran trace kept never => ?_
  cases ran
  refine ⟨trace, [], [.marker here.depth (Text.callForm name)], kept, never, by simp,
    by simp [Machine.written, Transcript.mark], ⟨⟨[name], ?_, List.nil_sublist _⟩, ?_, ?_⟩⟩
  · exact .cons ⟨_, rfl⟩ .nil
  · exact fun closed => ⟨closed, rfl⟩
  · exact fun silent => absurd silent loud

/-- A call is written, and its function is entered. -/
def markedEntry (here : Cursor) (function : Function) (slots : List Slot) : Eval UInt32 := do
  Eval.mark here (Text.callForm function.name.name)
  let callLine ← currentLine
  enter function slots callLine
  return callLine

/-- A call that is made is in the transcript and, if that has not been closed, in the trace. -/
lemma markedEntry_allows (function : Function) (slots : List Slot) :
    (echoing here).Allows (markedEntry here function slots) := by
  refine .of_done fun m outcome n ran trace kept never => ?_
  have entered : enter function slots m.line
      { m with transcript := m.transcript.mark here (Text.callForm function.name.name) } = _ :=
    enter_of_neverFails kept never
  rw [markedEntry, bind_apply, mark_apply] at ran
  dsimp only at ran
  rw [currentLine_bind, bind_of_ok entered] at ran
  cases ran
  refine ⟨_, _, [.marker here.depth (Text.callForm function.name.name)], rfl,
    CallTrace.neverFails_adding never _, rfl, by simp [Machine.written, Transcript.mark], ?_⟩
  exact .call trace here.depth _ function _ m.line

lemma leave (function : Function) (slots : List Slot) (callLine : UInt32) (result : Value) :
    (echoing here).Allows (leave function slots callLine result) := by
  refine .of_done fun m outcome n ran trace kept never => ?_
  rw [leave_of_neverFails kept never] at ran
  cases ran
  refine ⟨_, _, [], rfl, ⟨never.unbounded, never.flushes⟩, rfl, by simp [Machine.written], ?_⟩
  exact .giveBack trace _ function result _ m.line fun shut => by simp [shut]

lemma walkable : Walkable echoing fun _ => True :=
  .of_quiet (fun _ _ _ quiet => of_quiet quiet) (fun _ _ text => emit text)
    (fun _ _ => trivial) (fun _ _ _ => trivial) (fun _ _ _ h => h)
    fun _ _ _ _ h => inPhase h fun _ => rfl

/-- The evaluator has this effect, with so much fuel. -/
abbrev Walked (functions : String → Option Function) (fuel : Nat) : Prop :=
  RobotScribe.Walked functions echoing (fun _ => True) fuel

/-- What becomes of a function once it is entered. -/
lemma afterEntry_of (walked : Walked functions fuel) {here body : Cursor}
    (silent : here.phase = .silent → body.phase = .silent) (function : Function)
    (slots : List Slot) (callLine : UInt32) :
    (echoing here).Allows (do
      let flow ← stmts functions fuel body.deeper function.body.stmts
      Eval.leave function slots callLine (flow.getD .void)) := by
  have runs : (echoing here).Allows (stmts functions fuel body.deeper function.body.stmts) :=
    inPhase (walked.stmts body.deeper trivial _) silent
  exact .bind runs fun flow => leave _ _ _ _

/-- A call that is made. -/
lemma marked_runFunction_of (ih : ∀ less < fuel, Walked functions less) (here : Cursor)
    (function : Function) (slots : List Slot) :
    (echoing here).Allows (do
      Eval.mark here (Text.callForm function.name.name)
      runFunction functions fuel here.calledBody function slots) := by
  cases fuel with
  | zero => exact .of_done fun m outcome n ran => by cases ran
  | succ fuel =>
    have walked := ih fuel (Nat.lt_succ_self fuel)
    have entered : (do
        Eval.mark here (Text.callForm function.name.name)
        runFunction functions (fuel + 1) here.calledBody function slots) = (do
        let callLine ← markedEntry here function slots
        let flow ← stmts functions fuel here.calledBody.deeper function.body.stmts
        Eval.leave function slots callLine (flow.getD .void)) := by
      simp [runFunction_succ, markedEntry]
    rw [entered]
    refine .bind (markedEntry_allows function slots) fun callLine => ?_
    exact afterEntry_of walked (fun _ => Cursor.phase_calledBody here) function slots callLine

section

variable (named : ∀ ⦃name function⦄, functions name = some function → function.name.name = name)
include named

lemma call_of (ih : ∀ less < fuel, Walked functions less) (here : Cursor) (site : Call) :
    (echoing here).Allows (call functions fuel here site) := by
  cases fuel with
  | zero => exact .outOfFuel
  | succ fuel =>
    have walked := ih fuel (Nat.lt_succ_self fuel)
    have lesser : ∀ less < fuel, Walked functions less :=
      fun less lt => ih less (Nat.lt_succ_of_lt lt)
    refine .call (fun function => walked.arguments here function _ _) ?_ ?_
    · intro function declared _ slots
      rw [← named declared]
      exact marked_runFunction_of lesser here function slots
    · intro function declared stays
      refine mark ?_ _
      intro silent
      rw [silent] at stays
      cases stays

/-- **Calls are written to the transcript and to the trace in one order.** -/
theorem walked (fuel : Nat) : Walked functions fuel := by
  refine RobotScribe.walked walkable (fun fuel ih => call_of named ih) ?_ fuel
  intro fuel ih here _ runs statements flow
  refine .leaveOut (fun live => ?_) flow
  cases fuel with
  | zero => exact .outOfFuel
  | succ fuel =>
    -- what is written out is dry, and what is taken back is neither transcript nor trace
    have dry := (ih fuel (Nat.lt_succ_self fuel)).stmts (here.inPhase .dry) trivial statements
    refine .of_done fun m outcome n ran => ?_
    rw [writeOut] at ran
    obtain ⟨l, dried, rfl⟩ := takingBack_eq_some.mp ran
    have before : Echoes .dry m l := echoes (dry.bind fun _ => .pure ()) dried
    exact Echoes.inPhase (n := takenBack m outcome l) before (by simp [live])

end

/-- A trace that is open while some call is open stays open. -/
lemma unclosed_of_stmts {statements : List Stmt} {m n : Machine} {trace trace' : CallTrace}
    {outcome : Except Fault Flow} (kept : m.trace = some trace) (unclosed : trace.closed = false)
    (never : trace.sink.NeverFails) (nested : 0 ≤ trace.nesting)
    (ran : stmts functions fuel here statements m = some (outcome, n))
    (kept' : n.trace = some trace') : trace'.closed = false := by
  obtain ⟨calls, nesting⟩ := Int.eq_ofNat_of_zero_le nested
  have keeps : trace.Keeps (calls + 1) := ⟨by omega, unclosed, never⟩
  have recorded := (Recording.walked functions fuel).stmts here trivial statements ran
  cases outcome with
  | ok flow =>
    obtain ⟨trees, ends, -⟩ := Recorded.recorded recorded kept keeps (Nat.succ_pos calls)
    cases kept'.symm.trans ends
    exact unclosed
  | error fault =>
    obtain ⟨lines, opened, ends, -⟩ := recorded kept keeps (Nat.succ_pos calls)
    cases kept'.symm.trans ends
    exact unclosed

/-- Silent code adds the same calls to the transcript as to a trace in which some call is open. -/
lemma callsMatch_of_stmts
    (named : ∀ ⦃name function⦄, functions name = some function → function.name.name = name)
    {statements : List Stmt} {m n : Machine} {trace : CallTrace} {outcome : Except Fault Flow}
    (silent : here.phase = .silent) (kept : m.trace = some trace) (unclosed : trace.closed = false)
    (never : trace.sink.NeverFails) (nested : 0 ≤ trace.nesting)
    (ran : stmts functions fuel here statements m = some (outcome, n)) : CallsMatch trace m n := by
  have echoes : Echoes here.phase m n := echoes ((walked named fuel).stmts here trivial _) ran
  obtain ⟨trace', lines, added, kept', -, stored, written, echo⟩ := echoes kept never
  have unclosed' := unclosed_of_stmts kept unclosed never nested ran kept'
  exact ⟨trace', lines, added, kept', stored, written, echo.silent silent unclosed'⟩

/-- The call at the root is in the trace alone, and the calls that are made in the course of it
are some of those in the transcript. -/
lemma runFunction_root
    (named : ∀ ⦃name function⦄, functions name = some function → function.name.name = name)
    {body : Cursor} {main : Function} {m n : Machine} {trace : CallTrace}
    {outcome : Except Fault Value} (kept : m.trace = some trace) (unclosed : trace.closed = false)
    (never : trace.sink.NeverFails)
    (ran : runFunction functions fuel body main [] m = some (outcome, n)) :
    ∃ trace' rest added names, n.trace = some trace' ∧
      trace'.sink.stored = trace.sink.stored ++
        (textOf (.call (trace.nesting + 1) main [] m.line :: rest)).toUTF8 ∧
      n.written = m.written ++ added ∧ List.Forall₂ Marks names (added.filter Entry.isMarker) ∧
      (callees rest).Sublist names := by
  cases fuel with
  | zero => cases ran
  | succ fuel =>
    have entered : enter main [] m.line m = _ := enter_of_neverFails kept never
    rw [runFunction_succ, currentLine_bind, bind_of_ok entered] at ran
    have after : (echoing body).Allows _ := afterEntry_of (walked named fuel) id main [] m.line
    obtain ⟨trace', rest, added, kept', -, stored, written, echo⟩ :=
      echoes after ran rfl ⟨never.unbounded, never.flushes⟩
    obtain ⟨names, marks, sub⟩ := echo.calls
    refine ⟨trace', rest, added, names, kept', ?_, written, marks, sub⟩
    have text := textOf_append [.call (trace.nesting + 1) main [] m.line] rest
    rw [List.singleton_append] at text
    rw [stored, CallTrace.noted_of_unclosed unclosed, text]
    simp [CallTrace.adding, ByteArray.append_assoc]

end Echoing

/-! ## Sessions -/

open Session

/-- Functions are found by their names. -/
lemma Declarations.name_of_find? {declarations : Declarations} ⦃name : String⦄
    ⦃function : Function⦄ (declared : declarations.find? name = some function) :
    function.name.name = name := by
  simpa using List.find?_some declared

/-- **Calls are written to the transcript as they are traced.**  Take a trace that is open, with a
sink that never fails.  Wherever a run comes to silent code, and whatever this comes to, it adds
lines to the transcript that call the functions that it adds to the trace, one after the other, and
nothing else.  This is so whatever operations have gone before, and it is so in any machine with a
trace in which some call is open.  The first run of a session adds the call of the main function to
the trace, and then calls that are some of those in the transcript, in the same order. -/
theorem markers_match_calls :
    (∀ (s : Session) fuel rest (here : Cursor) statements m outcome n trace, s.Reached →
      s.Passes fuel ⟨rest, .stmts here statements, m⟩ → here.phase = .silent →
      m.trace = some trace → trace.closed = false → trace.sink.NeverFails →
      stmts s.declarations.find? rest here statements m = some (outcome, n) →
      CallsMatch trace m n) ∧
    (∀ (declarations : Declarations) fuel (here : Cursor) statements m outcome n trace,
      here.phase = .silent → m.trace = some trace → trace.closed = false →
      trace.sink.NeverFails → 0 ≤ trace.nesting →
      stmts declarations.find? fuel here statements m = some (outcome, n) →
      CallsMatch trace m n) ∧
    ∀ sink (s t : Session) fuel outcome, Unrun sink s → sink.NeverFails →
      s.run fuel = some (outcome, t) →
      ∃ trace lines added names, t.machine.trace = some trace ∧
        trace.sink.stored = sink.stored ++ (textOf lines).toUTF8 ∧
        t.machine.written = s.machine.written ++ added ∧
        List.Forall₂ Marks names (added.filter Entry.isMarker) ∧
        (lines = [] ∨ ∃ main rest, lines = .call 0 main [] s.currentLine :: rest ∧
          main.name.name = mainName ∧ (callees rest).Sublist names) := by
  refine ⟨?_, ?_, ?_⟩
  · intro s fuel rest here statements m outcome n trace reached passes silent kept unclosed never
      ran
    have nested := passes.nested_of_stmts reached kept never unclosed
    exact Echoing.callsMatch_of_stmts s.declarations.name_of_find? silent kept unclosed never nested
      ran
  · intro declarations fuel here statements m outcome n trace silent kept unclosed never nested ran
    exact Echoing.callsMatch_of_stmts declarations.name_of_find? silent kept unclosed never nested
      ran
  · intro sink s t fuel outcome unrun never ran
    have fresh : s.started.trace = some (.ofSink sink) := unrun.trace_eq
    have label : s.started.written = s.machine.written ++ [.label "MainProgram:"] := by
      simp [started, Machine.written, Transcript.label]
    cases outcome with
    | ok =>
      obtain ⟨main, value, n, declared, called, rfl⟩ := run_eq_ok ran
      obtain ⟨trace, rest, added, names, kept, stored, written, marks, sub⟩ :=
        Echoing.runFunction_root Declarations.name_of_find? fresh rfl never called
      refine ⟨trace, _, [.label "MainProgram:"] ++ added ++ [.label "End"], names, kept, stored,
        ?_, ?_, Or.inr ⟨main, rest, rfl, Declarations.name_of_find? declared, sub⟩⟩
      · have ended : ({ n with transcript := n.transcript.label "End" } : Machine).written =
            n.written ++ [.label "End"] := by
          simp [Machine.written, Transcript.label]
        rw [ended, written, label, List.append_assoc, List.append_assoc, List.append_assoc]
      · simpa [Entry.isMarker] using marks
    | error fault =>
      obtain ⟨-, ⟨-, rfl⟩ | ⟨main, n, declared, called, rfl⟩⟩ := run_eq_error ran
      · exact ⟨_, [], [.label "MainProgram:"], [], fresh, by simp [CallTrace.ofSink], label, .nil,
          Or.inl rfl⟩
      · obtain ⟨trace, rest, added, names, kept, stored, written, marks, sub⟩ :=
          Echoing.runFunction_root Declarations.name_of_find? fresh rfl never called
        refine ⟨trace, _, [.label "MainProgram:"] ++ added, names, kept, stored,
          ?_, marks, Or.inr ⟨main, rest, rfl, Declarations.name_of_find? declared, sub⟩⟩
        rw [written, label, List.append_assoc]

/-- A call in an argument of which another call divides by zero. -/
def workBody : List Stmt :=
  [.call ⟨⟨"show", .unknown⟩,
    [.call ⟨⟨"break", .unknown⟩, [.integer 0 .unknown], .unknown⟩ .unknown], .ofLine 8⟩]

/-- A function that makes this call. -/
def workFunction : Function :=
  ⟨⟨"work", .unknown⟩, [], none, ⟨workBody, .unknown⟩, .ofLine 7⟩

/-- The call of that function. -/
def workCall : Call := ⟨⟨"work", .unknown⟩, [], .ofLine 2⟩

/-- A main function that calls it. -/
def workMain : Function :=
  ⟨⟨"main", .unknown⟩, [], none, ⟨[.call workCall], .unknown⟩, .ofLine 1⟩

/-- The program with these functions. -/
def working : Program where
  functions := workMain :: workFunction :: breaking.functions.drop 3
  span := .unknown

/-- The session of that program with a trace. -/
def worked : Session :=
  ⟨⟨working.functions⟩, .standard, false, initialMachine ⟨[], []⟩ (some (.ofSink .unbounded))⟩

/-- The trace in the course of `work`. -/
def workTrace : CallTrace :=
  (((CallTrace.ofSink .unbounded).call workMain [] 0).2.call workFunction [] 2).2

/-- The machine in which the statements of `work` are run. -/
def atWork : Machine where
  memory := (Memory.empty.enter "main" 0 []).enter "work" 2 []
  transcript := worked.started.transcript.mark (Cursor.top .live).deeper "work()"
  input := ⟨[], []⟩
  trace := some workTrace
  line := 7

lemma passes_worked : worked.Passes 25 ⟨20, .stmts ⟨1, .silent⟩ workBody, atWork⟩ := by
  have body : worked.Passes 25 ⟨24, .stmts (Cursor.top .live).deeper [.call workCall], _⟩ :=
    ⟨workMain, rfl, .single (.body rfl)⟩
  have call : worked.Passes 25 ⟨22, .call (Cursor.top .live).deeper workCall, _⟩ :=
    (body.into .stmt).into (.performed rfl)
  have called : worked.Passes 25
      ⟨21, .runFunction (Cursor.top .live).deeper.calledBody workFunction [], { atWork with
        memory := Memory.empty.enter "main" 0 []
        trace := some ((CallTrace.ofSink .unbounded).call workMain [] 0).2
        line := 2 }⟩ :=
    call.into (.runFunction rfl rfl rfl rfl)
  exact called.into (.body rfl)

/-- A machine in which a main function is running, with a trace. -/
def loweringInside : Machine :=
  { lowered.machine with
    memory := Memory.empty.push mainName 0
    trace := some ⟨.unbounded, 0, false⟩ }

/-- The calls of a function that a fault stops, those of a main function in silence, and those of a
run.  The run also writes a branch that is not taken. -/
theorem markers_match_calls_lowering :
    (∃ fault n, worked.Reached ∧
      worked.Passes 25 ⟨20, .stmts ⟨1, .silent⟩ workBody, atWork⟩ ∧
      stmts worked.declarations.find? 20 ⟨1, .silent⟩ workBody atWork =
        some (.error fault, n) ∧
      CallsMatch workTrace atWork n ∧
      n.written = atWork.written ++ [.marker 1 "break()"]) ∧
    (∃ outcome n,
      stmts lowered.declarations.find? 25 ⟨1, .silent⟩ loweringMain.body.stmts loweringInside =
        some (outcome, n) ∧
      CallsMatch ⟨.unbounded, 0, false⟩ loweringInside n ∧
      n.written = [.marker 2 "lower()", .marker 2 "lower()", .marker 1 "double()",
        .marker 1 "double()"]) ∧
    ∃ t trace lines names, lowered.run 25 = some (.ok (), t) ∧
      t.machine.trace = some trace ∧ trace.sink.stored = (textOf lines).toUTF8 ∧
      List.Forall₂ Marks names (t.machine.written.filter Entry.isMarker) ∧
      (callees lines).tail.Sublist names ∧
      t.machine.written.filter Entry.isMarker = [.marker 2 "lower()", .marker 2 "lower()",
        .marker 2 "lower()", .marker 1 "double()", .marker 1 "double()"] := by
  refine ⟨?_, ?_, ?_⟩
  · have loaded : load working .standard ⟨[], []⟩ (fun path => .error (.io path)) =
        .ok ⟨⟨working.functions⟩, .standard, false, initialMachine ⟨[], []⟩ none⟩ := rfl
    have reached : worked.Reached := .withTraceSink .unbounded (.load loaded)
    have stops : (stmts worked.declarations.find? 20 ⟨1, .silent⟩ workBody atWork).map
          (fun stop => (stop.1.isOk, stop.2.written)) =
        some (false, atWork.written ++ [.marker 1 "break()"]) := by
      decide +kernel
    obtain ⟨⟨outcome, n⟩, ran, seen⟩ := Option.map_eq_some_iff.mp stops
    obtain ⟨isOk, written⟩ := Prod.mk.inj seen
    cases outcome with
    | ok => cases isOk
    | error fault =>
      have same : CallsMatch workTrace atWork n :=
        markers_match_calls.1 worked 25 20 _ workBody atWork (.error fault) n workTrace
          reached passes_worked rfl rfl rfl ⟨rfl, rfl⟩ ran
      exact ⟨fault, n, reached, passes_worked, ran, same, written⟩
  · have silent : (stmts lowered.declarations.find? 25 ⟨1, .silent⟩ loweringMain.body.stmts
        loweringInside).map (·.2.written) =
        some [.marker 2 "lower()", .marker 2 "lower()", .marker 1 "double()",
          .marker 1 "double()"] := by
      decide +kernel
    obtain ⟨⟨outcome, n⟩, ran, written⟩ := Option.map_eq_some_iff.mp silent
    have same : CallsMatch ⟨.unbounded, 0, false⟩ loweringInside n :=
      markers_match_calls.2.1 lowered.declarations 25 ⟨1, .silent⟩ loweringMain.body.stmts
        loweringInside outcome n _ rfl rfl rfl ⟨rfl, rfl⟩ (Int.le_refl 0) ran
    exact ⟨outcome, n, ran, same, written⟩
  · have succeeds : (lowered.run 25).map (fun stop =>
          (stop.1.isOk, stop.2.machine.written.filter Entry.isMarker)) =
        some (true, [.marker 2 "lower()", .marker 2 "lower()", .marker 2 "lower()",
          .marker 1 "double()", .marker 1 "double()"]) := by
      decide +kernel
    obtain ⟨⟨outcome, t⟩, ran, seen⟩ := Option.map_eq_some_iff.mp succeeds
    obtain ⟨isOk, written⟩ := Prod.mk.inj seen
    cases outcome with
    | error fault => cases isOk
    | ok =>
      obtain ⟨trace, lines, added, names, kept, stored, adds, marks, calls⟩ :=
        markers_match_calls.2.2 .unbounded lowered t 25 (.ok ()) unrun_lowered ⟨rfl, rfl⟩ ran
      have all : t.machine.written = added := adds
      refine ⟨t, trace, lines, names, ran, kept, stored.trans ByteArray.empty_append, ?_, ?_,
        written⟩
      · rw [all]
        exact marks
      · rcases calls with rfl | ⟨main, rest, rfl, -, sub⟩
        · exact List.nil_sublist names
        · exact sub

end RobotScribe
