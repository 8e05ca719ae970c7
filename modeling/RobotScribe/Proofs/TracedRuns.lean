/-
# The trace of a run

The first run of a session whose trace goes to a sink that never fails leaves a trace that can be
relied on.  If the run succeeds, the trace is the tree of the calls that were made, and it is
closed.  If the run fails, the calls that have no return in the trace are those that a backtrace
shows.
-/
import RobotScribe.Proofs.CallTrees
import RobotScribe.Proofs.TracedSessions

namespace RobotScribe

open Eval TraceLine

namespace Session

variable {s t : Session} {sink : Sink} {fuel : Nat}

/-! ## Runs that succeed -/

/-- **The trace of a run is the tree of its calls.**  When the first run of a session whose sink
never fails succeeds, there is a tree of calls that were made, with the main function at its
root, and its lines are what the sink has stored since.  Dry code adds nothing to a trace.  The
trace is closed then, and whatever operations follow, the sink stays as it is. -/
theorem run_traces_call_tree (unrun : Unrun sink s) (never : sink.NeverFails)
    (ran : s.run fuel = some (.ok (), t)) :
    (∃ main line inner result lastLine tree trace,
      s.declarations.find? mainName = some main ∧
      tree = CallTree.node main [] line inner result [] lastLine ∧
      tree.Performed s.declarations.find? 0 ∧
      t.machine.trace = some trace ∧
      trace.sink.stored = sink.stored ++ (textOf (tree.lines 0)).toUTF8 ∧
      trace.closed = true ∧
      ∀ ops u, Leads t ops u →
        ∃ later, u.machine.trace = some later ∧ later.closed = true ∧ later.sink = trace.sink) ∧
    ∀ functions fuel (here : Cursor) statements m outcome n, here.phase = .dry →
      stmts functions fuel here statements m = some (outcome, n) → n.trace = m.trace := by
  obtain ⟨main, value, n, declared, called, rfl⟩ := run_eq_ok ran
  have fresh : s.started.trace = some (.ofSink sink) := unrun.trace_eq
  obtain ⟨tree, inner, lastLine, root, performed, ends⟩ :=
    Recording.runFunction_ok (fun less _ => Recording.walked _ less) declared rfl fresh
      (.ofSink never) called
  refine ⟨⟨main, _, inner, value, lastLine, tree, _, declared, root, performed, ends, rfl, rfl,
    fun ops u leads => ?_⟩, ?_⟩
  · exact leads.trace_kept (CallTrace.stable_closedWith _) ⟨_, ends, rfl, rfl⟩
  · intro functions fuel here statements m outcome n dry ran
    have footprint := (Footprint.contained functions fuel).stmts here trivial statements
    exact (Footprint.keeps_of_dry dry footprint ran).2.2

/-- A main function that lowers a number in a loop, and again in a branch that is not taken, and
then makes a call in an argument of another call. -/
def loweringMain : Function :=
  ⟨⟨"main", .unknown⟩, [], none,
    ⟨[.assign (.var ⟨"x", .unknown⟩) (.integer 2 .unknown) (.ofLine 2),
      .whileDo (.binary (.var "x" .unknown) (.relational .greater) (.integer 0 .unknown) .unknown)
        ⟨[.call ⟨⟨"lower", .unknown⟩, [.var "x" .unknown], .ofLine 4⟩], .unknown⟩ (.ofLine 3),
      .ifThen (.boolean false .unknown)
        ⟨[.call ⟨⟨"lower", .unknown⟩, [.var "x" .unknown], .ofLine 6⟩], .unknown⟩ none
        (.ofLine 5),
      .write (.call ⟨⟨"double", .unknown⟩,
        [.call ⟨⟨"double", .unknown⟩, [.integer 3 .unknown], .unknown⟩ .unknown],
        .unknown⟩ .unknown) (.ofLine 8)], .unknown⟩, .ofLine 1⟩

/-- The program with this function. -/
def lowering : Program where
  functions :=
    [loweringMain,
     ⟨⟨"lower", .unknown⟩, [.byReference ⟨"n", .unknown⟩], none,
      ⟨[.assign (.var ⟨"n", .unknown⟩)
        (.binary (.var "n" .unknown) (.arithmetic .sub) (.integer 1 .unknown) .unknown)
        (.ofLine 11)], .unknown⟩, .ofLine 10⟩,
     ⟨⟨"double", .unknown⟩, [.byValue ⟨"k", .unknown⟩], some .integer,
      ⟨[.giveBack (some (.binary (.var "k" .unknown) (.arithmetic .add) (.var "k" .unknown)
        .unknown)) (.ofLine 14)], .unknown⟩, .ofLine 13⟩]
  span := .unknown

/-- The session of that program with a trace. -/
def lowered : Session :=
  ⟨⟨lowering.functions⟩, .standard, false,
    initialMachine ⟨[], []⟩ (some (.ofSink .unbounded))⟩

/-- What the sink of a session has stored, if it has one. -/
def stored (s : Session) : Option ByteArray := s.machine.trace.map (·.sink.stored)

lemma stored_of_bytes {text : String}
    (bytes : s.stored.map (·.data.toList) = some text.toUTF8.data.toList) :
    s.stored = some text.toUTF8 := by
  obtain ⟨stored, kept, same⟩ := Option.map_eq_some_iff.mp bytes
  rw [kept, ByteArray.ext (Array.toList_inj.mp same)]

lemma unrun_lowered : Unrun .unbounded lowered := by
  have loaded : load lowering .standard ⟨[], []⟩ (fun path => .error (.io path)) =
      .ok ⟨⟨lowering.functions⟩, .standard, false, initialMachine ⟨[], []⟩ none⟩ := rfl
  exact .loaded (.given loaded)

/-- The trace of its first run. -/
def loweredText : String :=
  "main() <entry point>\n"
    ++ "|   lower(&n=2) <line 4>\n"
    ++ "|   return, &n=1 <line 11>\n"
    ++ "|   lower(&n=1) <line 4>\n"
    ++ "|   return, &n=0 <line 11>\n"
    ++ "|   double(k=3) <line 8>\n"
    ++ "|   return 6 <line 14>\n"
    ++ "|   double(k=6) <line 8>\n"
    ++ "|   return 12 <line 14>\n"
    ++ "return <line 8>\n"

theorem run_traces_call_tree_lowering : ∃ (t : Session) (tree : CallTree),
    Unrun .unbounded lowered ∧
    lowered.run 25 = some (.ok (), t) ∧
    tree.Performed lowered.declarations.find? 0 ∧
    t.stored = some (textOf (tree.lines 0)).toUTF8 ∧
    t.stored = some loweredText.toUTF8 := by
  have succeeds : (lowered.run 25).map (fun stop =>
        (stop.1.isOk, stop.2.stored.map (·.data.toList))) =
      some (true, some loweredText.toUTF8.data.toList) := by
    decide +kernel
  obtain ⟨⟨outcome, t⟩, ran, seen⟩ := Option.map_eq_some_iff.mp succeeds
  obtain ⟨isOk, bytes⟩ := Prod.mk.inj seen
  cases outcome with
  | error fault => cases isOk
  | ok =>
    obtain ⟨called, -⟩ := run_traces_call_tree unrun_lowered ⟨rfl, rfl⟩ ran
    obtain ⟨main, line, inner, result, lastLine, tree, trace, -, -, performed, kept, text, -⟩ :=
      called
    refine ⟨t, tree, unrun_lowered, ran, performed, ?_, stored_of_bytes bytes⟩
    rw [Session.stored, kept, Option.map_some, text]
    rfl

/-! ## Runs that fail -/

/-- What a backtrace shows of some calls, the latest first: each function with the line that it has
reached.  The latest call has reached `line`; any other one has reached the line that the call
above it was made from. -/
def backtraceOf (line : UInt32) (calls : List OpenCall) : List String :=
  List.zipWith (fun call line => call.function ++ " (line " ++ toString line ++ ")") calls
    (line :: calls.map (·.line))

lemma backtraceEntries_eq (frames : List Frame) (line : UInt32) :
    Memory.backtraceEntries frames line =
      backtraceOf line (frames.map fun frame => ⟨frame.function, frame.callLine⟩) := by
  induction frames generalizing line with
  | nil => rfl
  | cons frame below ih =>
    rw [Memory.backtraceEntries, ih]
    rfl

lemma length_backtraceOf (line : UInt32) (calls : List OpenCall) :
    (backtraceOf line calls).length = calls.length := by
  simp [backtraceOf]

/-- A run that fails leaves a trace in which the calls without a return are those whose frames are
left. -/
lemma unreturned_of_run (unrun : Unrun sink s) (never : sink.NeverFails) {fault : LocatedFault}
    (ran : s.run fuel = some (.error fault, t)) :
    ∃ lines trace, t.machine.trace = some trace ∧
      trace.sink.stored = sink.stored ++ (textOf lines).toUTF8 ∧
      unreturned [] lines = some t.machine.memory.openCalls := by
  obtain ⟨-, ⟨-, rfl⟩ | ⟨main, n, -, called, rfl⟩⟩ := run_eq_error ran
  · refine ⟨[], _, unrun.trace_eq, by simp [CallTrace.ofSink], ?_⟩
    change some [] = some (Memory.openCalls s.machine.memory)
    rw [Memory.openCalls, unrun.frames_eq, List.map_nil]
  · have fresh : s.started.trace = some (.ofSink sink) := unrun.trace_eq
    obtain ⟨lines, opened, ends, frames, pairs⟩ :=
      Recording.runFunction_error (fun less _ => Recording.walked _ less) fresh (.ofSink never)
        called
    refine ⟨lines, _, ends, rfl, ?_⟩
    have none : s.started.memory.openCalls = [] := by
      change Memory.openCalls s.machine.memory = []
      rw [Memory.openCalls, unrun.frames_eq, List.map_nil]
    rw [frames, none]
    exact pairs [] rfl

/-- **A backtrace shows the calls that have no return in the trace.**  When the first run of a
session whose sink never fails is stopped by a fault, calls and returns in the trace can be
paired, and the calls that are left over have the functions and the lines of the backtrace.  The
first line is that of the fault.  A limit, be it asked for or set, keeps the latest calls and marks
the cut. -/
theorem backtrace_matches_trace (unrun : Unrun sink s) (never : sink.NeverFails)
    {fault : LocatedFault} (ran : s.run fuel = some (.error fault, t)) :
    fault.line = t.currentLine ∧
    ∃ lines calls trace, t.machine.trace = some trace ∧
      trace.sink.stored = sink.stored ++ (textOf lines).toUTF8 ∧
      unreturned [] lines = some calls ∧
      t.machine.memory.depth = calls.length ∧
      t.machine.memory.backtrace t.currentLine none =
        String.intercalate "\n" (backtraceOf fault.line calls) ∧
      ∀ limit : Option Nat,
        t.backtrace limit = match limit.or t.settings.backtraceLimit with
          | none => String.intercalate "\n" (backtraceOf fault.line calls)
          | some k =>
            if k < calls.length then
              String.intercalate "\n" ((backtraceOf fault.line calls).take k ++ ["..."])
            else String.intercalate "\n" (backtraceOf fault.line calls) := by
  obtain ⟨lines, trace, kept, stored, pairs⟩ := unreturned_of_run unrun never ran
  have line : fault.line = t.currentLine := (run_eq_error ran).1
  have entries : Memory.backtraceEntries t.machine.memory.frames t.currentLine =
      backtraceOf fault.line t.machine.memory.openCalls := by
    rw [backtraceEntries_eq, line, Memory.openCalls]
  refine ⟨line, lines, _, trace, kept, stored, pairs, ?_, ?_, fun limit => ?_⟩
  · rw [Memory.depth, Memory.openCalls, List.length_map]
  · simp only [Memory.backtrace, entries]
  · change Memory.backtrace _ t.currentLine _ = _
    simp only [Memory.backtrace, entries, length_backtraceOf]
    cases limit.or t.settings.backtraceLimit with
    | none => rfl
    | some k =>
      dsimp only
      split
      · rfl
      · rfl

/-- A main function that makes a call that returns, and then one in the course of which a call in
an argument divides by zero. -/
def breaking : Program where
  functions :=
    [⟨⟨"main", .unknown⟩, [], none,
      ⟨[.call ⟨⟨"idle", .unknown⟩, [], .ofLine 2⟩,
        .call ⟨⟨"work", .unknown⟩, [], .ofLine 3⟩], .unknown⟩, .ofLine 1⟩,
     ⟨⟨"idle", .unknown⟩, [], none, ⟨[], .unknown⟩, .ofLine 5⟩,
     ⟨⟨"work", .unknown⟩, [], none,
      ⟨[.call ⟨⟨"show", .unknown⟩,
        [.call ⟨⟨"break", .unknown⟩, [.integer 0 .unknown], .unknown⟩ .unknown], .ofLine 8⟩],
        .unknown⟩, .ofLine 7⟩,
     ⟨⟨"show", .unknown⟩, [.byValue ⟨"n", .unknown⟩], none,
      ⟨[.write (.var "n" .unknown) .unknown], .unknown⟩, .ofLine 10⟩,
     ⟨⟨"break", .unknown⟩, [.byValue ⟨"n", .unknown⟩], some .integer,
      ⟨[.giveBack (some (.binary (.integer 1 .unknown) (.arithmetic .div) (.var "n" .unknown)
        .unknown)) (.ofLine 13)], .unknown⟩, .ofLine 12⟩]
  span := .unknown

/-- The session of that program with a trace, and with backtraces of at most two calls. -/
def broken : Session :=
  ⟨⟨breaking.functions⟩, Settings.standard.withBacktraceLimit 2, false,
    initialMachine ⟨[], []⟩ (some (.ofSink .unbounded))⟩

/-- The trace of its first run. -/
def brokenText : String :=
  "main() <entry point>\n"
    ++ "|   idle() <line 2>\n"
    ++ "|   return <line 5>\n"
    ++ "|   work() <line 3>\n"
    ++ "|   |   break(n=0) <line 8>\n"

theorem backtrace_matches_trace_breaking : ∃ (t : Session) (fault : LocatedFault),
    Unrun .unbounded broken ∧
    broken.run 25 = some (.error fault, t) ∧
    t.stored = some brokenText.toUTF8 ∧
    t.machine.memory.backtrace fault.line none =
      "break (line 13)\nwork (line 8)\nmain (line 3)" ∧
    (∃ lines calls, t.stored = some (textOf lines).toUTF8 ∧ unreturned [] lines = some calls ∧
      String.intercalate "\n" (backtraceOf fault.line calls) =
        "break (line 13)\nwork (line 8)\nmain (line 3)") ∧
    t.backtrace none = "break (line 13)\nwork (line 8)\n..." := by
  have loaded : load breaking (Settings.standard.withBacktraceLimit 2) ⟨[], []⟩
      (fun path => .error (.io path)) =
      .ok ⟨⟨breaking.functions⟩, Settings.standard.withBacktraceLimit 2, false,
        initialMachine ⟨[], []⟩ none⟩ := rfl
  have unrun : Unrun .unbounded broken := .loaded (.given loaded)
  have fails : (broken.run 25).map (fun stop => (stop.1.isOk,
        stop.2.stored.map (·.data.toList),
        stop.2.machine.memory.backtrace stop.2.currentLine none, stop.2.backtrace none)) =
      some (false, some brokenText.toUTF8.data.toList,
        "break (line 13)\nwork (line 8)\nmain (line 3)",
        "break (line 13)\nwork (line 8)\n...") := by
    decide +kernel
  obtain ⟨⟨outcome, t⟩, ran, seen⟩ := Option.map_eq_some_iff.mp fails
  simp only [Prod.mk.injEq] at seen
  obtain ⟨isOk, bytes, shown, limited⟩ := seen
  cases outcome with
  | ok => cases isOk
  | error fault =>
    obtain ⟨line, lines, calls, trace, kept, text, pairs, -, backtrace, -⟩ :=
      backtrace_matches_trace unrun ⟨rfl, rfl⟩ ran
    refine ⟨t, fault, unrun, ran, stored_of_bytes bytes, line ▸ shown,
      ⟨lines, calls, ?_, pairs, ?_⟩, limited⟩
    · rw [Session.stored, kept, Option.map_some, text]
      rfl
    · rw [← backtrace, shown]

end Session

end RobotScribe
