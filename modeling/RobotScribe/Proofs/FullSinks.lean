/-
# Traces whose sink gets full

A sink may accept so many bytes and no more.  Then a run goes as it would go with a sink that never
fails, up to the byte that finds no room: there it stops, within a record, and what it has written
and stored so far is the start of what it would have written and stored.

So a computation that is known for a sink that never fails is known for every limit (`Cuts`).  Most
operations do not notice the difference; a record does, and then nothing that would follow takes
place.
-/
import RobotScribe.Proofs.Records
import RobotScribe.Proofs.TracedRuns

namespace RobotScribe

/-! ## Sinks -/

/-- The sink, if it accepts so many bytes and no more. -/
def Sink.limited (capacity : Nat) (sink : Sink) : Sink := { sink with capacity := some capacity }

section

variable {capacity : Nat} {bytes more : ByteArray}

lemma extract_of_size_le (fits : bytes.size ≤ capacity) : bytes.extract 0 capacity = bytes := by
  have whole : bytes.extract 0 (max capacity bytes.size) = bytes := ByteArray.extract_zero_max_size
  rwa [Nat.max_eq_left fits] at whole

/-- What is stored later does not matter for the first bytes. -/
lemma extract_append_of_le (enough : capacity ≤ bytes.size) :
    (bytes ++ more).extract 0 capacity = bytes.extract 0 capacity := by
  rw [ByteArray.extract_append, Nat.sub_eq_zero_of_le enough, Nat.zero_sub,
    ByteArray.extract_same, ByteArray.append_empty]

end

namespace Sink

variable {capacity : Nat} {sink : Sink} {text : String}

/-- A text for which there is room is stored. -/
lemma write_limited_of_le (room : (sink.stored ++ text.toUTF8).size ≤ capacity) :
    (sink.limited capacity).write text =
      (.ok (), { sink with stored := sink.stored ++ text.toUTF8 }.limited capacity) := by
  have fits : text.toUTF8.size ≤ capacity - sink.stored.size := by
    rw [ByteArray.size_append] at room
    omega
  simp only [write, limited, fits, if_true]

/-- Of a text that is too long the first bytes are stored, up to the limit. -/
lemma write_limited_of_lt (before : sink.stored.size ≤ capacity)
    (short : capacity < (sink.stored ++ text.toUTF8).size) :
    (sink.limited capacity).write text =
      (.error (.io "sink full"), { sink with
        stored := (sink.stored ++ text.toUTF8).extract 0 capacity }.limited capacity) := by
  have rest : ¬text.toUTF8.size ≤ capacity - sink.stored.size := by
    rw [ByteArray.size_append] at short
    omega
  have start : (sink.stored ++ text.toUTF8).extract 0 capacity =
      sink.stored ++ text.toUTF8.extract 0 (capacity - sink.stored.size) := by
    rw [ByteArray.extract_append, extract_of_size_le before, Nat.zero_sub]
  simp only [write, limited, rest, if_false, start]

end Sink

/-! ## Records -/

namespace CallTrace

/-- The trace, if its sink accepts so many bytes and no more. -/
def limited (capacity : Nat) (trace : CallTrace) : CallTrace :=
  { trace with sink := trace.sink.limited capacity }

/-- What recording something comes to with a limit, given the trace that it leads to without one. -/
inductive Cut (capacity : Nat) (recorded : CallTrace) : Except Fault Unit × CallTrace → Prop where
  | fits (room : recorded.sink.stored.size ≤ capacity) :
    Cut capacity recorded (.ok (), recorded.limited capacity)
  | full {stopped : CallTrace} (short : capacity < recorded.sink.stored.size)
    (stored : stopped.sink.stored = recorded.sink.stored.extract 0 capacity) :
    Cut capacity recorded (.error (.io "sink full"), stopped)

variable {capacity : Nat} {trace : CallTrace}

lemma cut_writeLine (never : trace.sink.NeverFails) (before : trace.sink.stored.size ≤ capacity)
    (text : String) :
    Cut capacity (trace.writeLine text).2 ((trace.limited capacity).writeLine text) := by
  cases closed : trace.closed with
  | true =>
    have closed' : (trace.limited capacity).closed = true := closed
    rw [writeLine_closed closed, writeLine_closed closed']
    exact .fits before
  | false =>
    have wrote : (trace.writeLine text).2 = { trace with
        sink := { trace.sink with stored := trace.sink.stored ++ (text ++ "\n").toUTF8 } } := by
      simp [writeLine, closed, never.write_eq]
    rw [wrote]
    rcases Nat.lt_or_ge capacity (trace.sink.stored ++ (text ++ "\n").toUTF8).size with short | room
    · have stops := Sink.write_limited_of_lt before short
      simp only [writeLine, limited, closed, stops, Bool.false_eq_true, if_false]
      exact .full short rfl
    · have writes := Sink.write_limited_of_le room
      simp only [writeLine, limited, closed, writes, Bool.false_eq_true, if_false]
      exact .fits room

lemma cut_call (never : trace.sink.NeverFails) (before : trace.sink.stored.size ≤ capacity)
    (function : Function) (args : List Value) (line : UInt32) :
    Cut capacity (trace.call function args line).2
      ((trace.limited capacity).call function args line) := by
  have inner : ({ trace with nesting := trace.nesting + 1 } : CallTrace).sink.NeverFails := never
  exact cut_writeLine inner before _

/-- A sink with a limit is flushed like the sink without it. -/
lemma closeAtRoot_limited (never : trace.sink.NeverFails) (capacity : Nat) :
    (trace.limited capacity).closeAtRoot = (.ok (), trace.closeAtRoot.2.limited capacity) := by
  obtain ⟨sink, nesting, closed⟩ := trace
  have flushes : (sink.limited capacity).flush = .ok () := never.flush_eq
  rw [closeAtRoot_eq never]
  cases closed with
  | true => rfl
  | false =>
    by_cases inside : 0 ≤ nesting
    · simp [closeAtRoot, limited, inside, Int.not_lt.mpr inside]
    · simp [closeAtRoot, limited, flushes, inside, Int.not_le.mp inside]

section

variable {function : Function} {result : Value} {args : List Value} {line : UInt32}
  {written : CallTrace}

/-- A return is recorded by its line, and then the trace may be closed. -/
lemma giveBack_of_ok (writes : { trace with nesting := trace.nesting - 1 }.writeLine
      (indent trace.nesting ++ returnText function result args line) = (.ok (), written)) :
    trace.giveBack function result args line = written.closeAtRoot := by
  simp only [giveBack, writes]

lemma giveBack_of_error {fault : Fault} (stops : { trace with
      nesting := trace.nesting - 1 }.writeLine
        (indent trace.nesting ++ returnText function result args line) = (.error fault, written)) :
    trace.giveBack function result args line = (.error fault, written) := by
  simp only [giveBack, stops]

end

/-- The sink is not closed by a return that finds no room. -/
lemma cut_giveBack (never : trace.sink.NeverFails) (before : trace.sink.stored.size ≤ capacity)
    (function : Function) (result : Value) (args : List Value) (line : UInt32) :
    Cut capacity (trace.giveBack function result args line).2
      ((trace.limited capacity).giveBack function result args line) := by
  have outer : ({ trace with nesting := trace.nesting - 1 } : CallTrace).sink.NeverFails := never
  have wrote := writeLine_eq outer (TraceLine.text_giveBack trace.nesting function result args line)
  have cut := cut_writeLine outer before
    (indent trace.nesting ++ returnText function result args line)
  rw [giveBack_of_ok wrote, closeAtRoot_eq (neverFails_adding outer _)]
  rw [wrote] at cut
  generalize limited : CallTrace.writeLine (CallTrace.limited capacity _) _ = reached at cut
  cases cut with
  | fits room =>
    -- the line has been stored, and what is left to do has nothing to do with the limit
    have back : (trace.limited capacity).giveBack function result args line = _ :=
      giveBack_of_ok limited
    rw [back, closeAtRoot_limited (neverFails_adding outer _),
      closeAtRoot_eq (neverFails_adding outer _)]
    exact .fits room
  | full short stored =>
    have back : (trace.limited capacity).giveBack function result args line = _ :=
      giveBack_of_error limited
    rw [back]
    exact .full short stored

end CallTrace

/-! ## Machines -/

namespace Machine

/-- What the trace of a machine has stored, if there is one. -/
def stored (m : Machine) : Option ByteArray := m.trace.map (·.sink.stored)

/-- The machine, if the sink of its trace accepts so many bytes and no more. -/
def limited (capacity : Nat) (m : Machine) : Machine :=
  m.retraced (m.trace.map (CallTrace.limited capacity))

lemma stored_limited (capacity : Nat) (m : Machine) : (m.limited capacity).stored = m.stored := by
  rw [stored, stored, limited]
  exact Option.map_map _ _ _

/-- A machine with a trace whose sink never fails, and what that has stored so far. -/
def Collects (m : Machine) (bytes : ByteArray) : Prop :=
  ∃ trace, m.trace = some trace ∧ trace.sink.NeverFails ∧ trace.sink.stored = bytes

lemma Collects.stored_eq {m : Machine} {bytes : ByteArray} (collects : m.Collects bytes) :
    m.stored = some bytes := by
  obtain ⟨trace, kept, -, rfl⟩ := collects
  rw [stored, kept]
  rfl

lemma Collects.of_trace_eq {m n : Machine} {bytes : ByteArray} (collects : m.Collects bytes)
    (same : n.trace = m.trace) : n.Collects bytes := by
  rwa [Collects, same]

end Machine

namespace Eval

/-- What a computation comes to with a limit, given what it comes to without one: the outcome, the
machine, and the bytes that it has stored by then. -/
inductive Cut {α : Type} (capacity : Nat) (outcome : Except Fault α) (n : Machine)
    (bytes : ByteArray) : Option (Except Fault α × Machine) → Prop where
  | fits (room : bytes.size ≤ capacity) :
    Cut capacity outcome n bytes (some (outcome, n.limited capacity))
  | full {k : Machine} (short : capacity < bytes.size)
    (stored : k.stored = some (bytes.extract 0 capacity)) (written : k.written <+: n.written) :
    Cut capacity outcome n bytes (some (.error (.io "sink full"), k))

/-- A computation that is cut by a limit where the sink is full, and nowhere else. -/
def Cuts {α : Type} (capacity : Nat) (x : Eval α) : Prop :=
  ∀ ⦃m bytes outcome n⦄, m.Collects bytes → x m = some (outcome, n) →
    m.written <+: n.written ∧ ∃ more, n.Collects (bytes ++ more) ∧
      (bytes.size ≤ capacity → Cut capacity outcome n (bytes ++ more) (x (m.limited capacity)))

namespace Cuts

variable {α β : Type} {capacity : Nat}

lemma of_blind {x : Eval α} (blind : Blind x) : Cuts capacity x := by
  intro m bytes outcome n collects ran
  have trace : n.trace = m.trace := blind.trace_eq ran
  have limited : x (m.limited capacity) = some (outcome, n.limited capacity) := by
    rw [Machine.limited, blind.retraced, ran, Machine.limited, trace]
    rfl
  refine ⟨blind.writes ran, .empty, ?_, fun room => ?_⟩
  · rw [ByteArray.append_empty]
    exact collects.of_trace_eq trace
  · rw [ByteArray.append_empty, limited]
    exact .fits room

/-- Once the sink is full, the second part does not take place. -/
lemma bind {x : Eval α} {f : α → Eval β} (first : Cuts capacity x)
    (second : ∀ a, Cuts capacity (f a)) : Cuts capacity (x >>= f) := by
  intro m bytes outcome n collects ran
  rcases bind_eq_some.mp ran with ⟨fault, rfl, stopped⟩ | ⟨a, l, ran, ran'⟩
  · obtain ⟨written, more, collects', cut⟩ := first collects stopped
    refine ⟨written, more, collects', fun room => ?_⟩
    generalize limited : x (m.limited capacity) = reached at cut
    cases cut room with
    | fits room =>
      rw [bind_of_error limited]
      exact .fits room
    | full short stored written =>
      rw [bind_of_error limited]
      exact .full short stored written
  · obtain ⟨written, more, collects, cut⟩ := first collects ran
    obtain ⟨written', more', collects', cut'⟩ := second a collects ran'
    rw [ByteArray.append_assoc] at collects' cut'
    refine ⟨written.trans written', more ++ more', collects', fun room => ?_⟩
    generalize limited : x (m.limited capacity) = reached at cut
    cases cut room with
    | fits room =>
      rw [bind_of_ok limited]
      exact cut' room
    | full short stored started =>
      -- what the second part would store lies beyond the limit
      rw [bind_of_error limited]
      refine .full ?_ ?_ (started.trans written')
      · rw [← ByteArray.append_assoc, ByteArray.size_append]
        omega
      · rw [← ByteArray.append_assoc, extract_append_of_le (Nat.le_of_lt short), stored]

/-- What is taken back is neither written nor stored. -/
lemma takingBack {body : Eval Unit} (h : Cuts capacity body) : Cuts capacity (takingBack body) := by
  intro m bytes outcome n collects ran
  obtain ⟨l, walked, rfl⟩ := takingBack_eq_some.mp ran
  obtain ⟨written, more, collects', cut⟩ := h collects walked
  refine ⟨written, more, collects', fun room => ?_⟩
  generalize limited : body (m.limited capacity) = reached at cut
  cases cut room with
  | fits room =>
    rw [takingBack_eq_some.mpr ⟨_, limited, rfl⟩]
    exact .fits room
  | full short stored written =>
    rw [takingBack_eq_some.mpr ⟨_, limited, rfl⟩]
    exact .full short stored written

/-- A record is where a limit shows. -/
lemma tracing {record : CallTrace → Except Fault Unit × CallTrace}
    (records : ∀ trace, trace.sink.NeverFails → ∃ lines recorded,
      record trace = (.ok (), recorded) ∧ recorded.sink = (trace.adding lines).sink ∧
      (trace.sink.stored.size ≤ capacity →
        CallTrace.Cut capacity recorded (record (trace.limited capacity)))) :
    Cuts capacity (tracing record) := by
  rintro m _ outcome n ⟨trace, kept, never, rfl⟩ ran
  obtain ⟨lines, recorded, records, grown, cut⟩ := records trace never
  rw [Footprint.tracing_of_kept kept records] at ran
  cases ran
  have stored : recorded.sink.stored =
      trace.sink.stored ++ (TraceLine.textOf lines).toUTF8 := by
    rw [grown]
    rfl
  have lasts : recorded.sink.NeverFails := by
    rw [grown]
    exact CallTrace.neverFails_adding never lines
  refine ⟨List.prefix_rfl, _, ⟨recorded, rfl, lasts, stored⟩, fun room => ?_⟩
  have kept' : (m.limited capacity).trace = some (trace.limited capacity) := by
    rw [Machine.limited, kept]
    rfl
  have reached : Eval.tracing record (m.limited capacity) =
      some ((record (trace.limited capacity)).1,
        m.retraced (some (record (trace.limited capacity)).2)) := by
    simp only [Eval.tracing, kept']
    rfl
  rw [reached]
  generalize record (trace.limited capacity) = limited at cut
  cases cut room with
  | fits room => exact .fits (stored ▸ room)
  | full short stopped =>
    refine .full (stored ▸ short) ?_ List.prefix_rfl
    rw [← stored, ← stopped]
    rfl

variable (capacity)

/-- **Only a record is cut.** -/
theorem recordwise : Recordwise fun _ x => Cuts capacity x where
  of_blind := of_blind
  bind := bind
  takingBack := takingBack
  traceCall function slots line := by
    refine bind (of_blind (.readSlots slots)) fun values => tracing fun trace never => ?_
    refine ⟨_, _, CallTrace.call_eq never function values line, rfl, fun before => ?_⟩
    have cut := CallTrace.cut_call never before function values line
    rwa [CallTrace.call_eq never] at cut
  traceReturn function result slots line := by
    refine bind (of_blind (.readSlots slots)) fun values => tracing fun trace never => ?_
    refine ⟨_, _, CallTrace.giveBack_eq never function result values line, rfl, fun before => ?_⟩
    have cut := CallTrace.cut_giveBack never before function result values line
    rwa [CallTrace.giveBack_eq never] at cut

end Cuts

end Eval

/-! ## Runs -/

namespace Session

open Eval

variable {s s' t : Session}

/-- **A sink that gets full cuts a run at the byte that finds no room.**  Load a program with a sink
that never fails, and in the same way with one that accepts so many bytes and no more.  If a run
comes to an end with the first sink, with or without a fault, then it stores a text there, and this
is how it goes with the second sink.  If there is room for the text, then the run has the same
outcome and the same lines, and the text is stored.  If not, then the run fails since the sink is
full; the bytes that are stored are the first ones of the text, as many as there is room for, and
the lines are the first ones of those that it would have had. -/
theorem full_sink_cuts_run {program : Program} {settings : Settings} {input : Input}
    {capacity fuel : Nat} {outcome : Except LocatedFault Unit}
    (unlimited : LoadedWith program settings input .unbounded s)
    (limited : LoadedWith program settings input (.bounded capacity) s')
    (ran : s.run fuel = some (outcome, t)) :
    ∃ text, t.stored = some text ∧
      (text.size ≤ capacity → ∃ t', s'.run fuel = some (outcome, t') ∧ t'.lines = t.lines ∧
        t'.stored = some text) ∧
      (capacity < text.size → ∃ line t',
        s'.run fuel = some (.error ⟨.io "sink full", line⟩, t') ∧ t'.lines <+: t.lines ∧
          t'.stored = some (text.extract 0 capacity)) := by
  obtain ⟨declarations, declared, rfl⟩ := unlimited.eq
  obtain ⟨declarations', declared', rfl⟩ := limited.eq
  obtain rfl := Except.ok.inj (declared.symm.trans declared')
  obtain ⟨result, n, walked, rfl, rfl⟩ := perform_eq_some.mp ran
  have collects : (initialMachine input (some (.ofSink .unbounded))).Collects .empty :=
    ⟨_, rfl, ⟨rfl, rfl⟩, rfl⟩
  have cuts := (Cuts.recordwise capacity).runMain declarations.find? fuel
  obtain ⟨-, text, collects', cut⟩ := cuts collects walked
  -- nothing is stored before the run, so the text is what the run stores
  rw [ByteArray.empty_append] at collects' cut
  have cut := cut (Nat.zero_le capacity)
  generalize reached : runMain declarations.find? fuel (Machine.limited capacity _) = stop at cut
  cases cut with
  | fits room =>
    refine ⟨text, collects'.stored_eq, fun _ => ?_, fun short => absurd room (Nat.not_le.mpr short)⟩
    refine ⟨_, perform_eq_some.mpr ⟨_, _, reached, rfl, rfl⟩, rfl, ?_⟩
    exact (Machine.stored_limited capacity n).trans collects'.stored_eq
  | @full k short stored written =>
    refine ⟨text, collects'.stored_eq, fun room => absurd room (Nat.not_le.mpr short), fun _ => ?_⟩
    refine ⟨k.line, _, perform_eq_some.mpr ⟨_, _, reached, rfl, rfl⟩, ?_, stored⟩
    exact written.map _

/-- The program that divides by zero within three calls stores 109 bytes by then.  A sink with room
for 50 is full within the line of an earlier return. -/
theorem full_sink_cuts_run_breaking : ∃ (t whole cut : Session)
    (outcome : Except LocatedFault Unit) (line : UInt32),
    broken.run 25 = some (outcome, t) ∧ outcome.isOk = false ∧
    (broken.withTraceSink (.bounded 109)).run 25 = some (outcome, whole) ∧
    whole.lines = t.lines ∧ whole.stored = some brokenText.toUTF8 ∧
    (broken.withTraceSink (.bounded 50)).run 25 = some (.error ⟨.io "sink full", line⟩, cut) ∧
    cut.lines <+: t.lines ∧
    cut.stored = some "main() <entry point>\n|   idle() <line 2>\n|   retur".toUTF8 := by
  have loaded : load breaking (Settings.standard.withBacktraceLimit 2) ⟨[], []⟩
      (fun path => .error (.io path)) =
      .ok ⟨⟨breaking.functions⟩, Settings.standard.withBacktraceLimit 2, false,
        initialMachine ⟨[], []⟩ none⟩ := rfl
  have fails : (broken.run 25).map (fun stop => (stop.1.isOk,
        stop.2.stored.map (·.data.toList))) =
      some (false, some brokenText.toUTF8.data.toList) := by
    decide +kernel
  obtain ⟨⟨outcome, t⟩, ran, seen⟩ := Option.map_eq_some_iff.mp fails
  simp only [Prod.mk.injEq] at seen
  obtain ⟨isOk, bytes⟩ := seen
  have stored : t.stored = some brokenText.toUTF8 := stored_of_bytes bytes
  have size : brokenText.toUTF8.size = 109 := by decide +kernel
  have start : brokenText.toUTF8.extract 0 50 =
      "main() <entry point>\n|   idle() <line 2>\n|   retur".toUTF8 := by
    decide +kernel
  obtain ⟨text, kept, room, -⟩ := full_sink_cuts_run (.given loaded)
    (.given loaded : LoadedWith _ _ _ (.bounded 109) _) ran
  obtain ⟨text', kept', -, short⟩ := full_sink_cuts_run (.given loaded)
    (.given loaded : LoadedWith _ _ _ (.bounded 50) _) ran
  cases stored.symm.trans kept
  cases stored.symm.trans kept'
  obtain ⟨whole, fits, lines, all⟩ := room (Nat.le_of_eq size)
  obtain ⟨line, cut, stops, first, some⟩ := short (size ▸ by decide)
  exact ⟨t, whole, cut, outcome, line, ran, isOk, fits, lines, all, stops, first,
    start ▸ some⟩

end Session

end RobotScribe
