/-
# Sessions with a trace

A trace goes to the sink that a path in the settings opens, or to a sink that is given to a
session that has been loaded.  Preparing functions neither changes the trace nor, unless it
fails, leaves frames behind, so a session that has been prepared is as ready for its first run
as one that has just been loaded (`Unrun`).

A trace that has been closed stays closed, with what its sink has stored, whatever operations
follow.
-/
import RobotScribe.Proofs.Operations
import RobotScribe.Proofs.TraceKept

namespace RobotScribe

open Eval

/-! ## What operations keep -/

namespace Keeping

variable {P : Option CallTrace → Prop} {functions : String → Option Function} {fuel : Nat}

/-- Preparing functions makes no call. -/
lemma prepareAll (list : List Function) :
    (keeping P).Allows (Session.prepareAll functions fuel list) :=
  Session.allows_prepareAll (fun _ trace holds => by rwa [trace]) list

lemma runMain (stable : CallTrace.Stable P) :
    (keeping P).Allows (Session.runMain functions fuel) := by
  unfold Session.runMain
  refine .bind (label _) fun _ => ?_
  split
  · exact .throw _
  · exact .bind (runFunction functions stable fuel _ _ _) fun _ => label _

end Keeping

namespace CallTrace

/-- A trace that has been closed, with its sink. -/
def ClosedWith (sink : Sink) (trace : Option CallTrace) : Prop :=
  ∃ closed, trace = some closed ∧ closed.closed = true ∧ closed.sink = sink

/-- Nothing is stored once a trace has been closed. -/
lemma stable_closedWith (sink : Sink) : Stable (ClosedWith sink) where
  call := by
    rintro trace ⟨_, ⟨⟩, closed, kept⟩ function args line
    exact ⟨_, rfl, by simp [call, writeLine, closed, kept]⟩
  giveBack := by
    rintro trace ⟨_, ⟨⟩, closed, kept⟩ function result args line
    exact ⟨_, rfl, by simp [giveBack, writeLine, closeAtRoot, closed, kept]⟩

end CallTrace

namespace Session

variable {s t u : Session} {sink : Sink} {fuel : Nat}

lemma activity_keeping {P : Option CallTrace → Prop} (stable : CallTrace.Stable P)
    (op : Operation) : (keeping P).Allows (s.activity fuel op) := by
  cases op with
  | run => exact Keeping.runMain stable
  | prepare =>
    rw [activity]
    split
    · exact .pure ()
    · exact Keeping.prepareAll _

/-- Operations keep what is kept by what is recorded. -/
lemma Leads.trace_kept {P : Option CallTrace → Prop} (stable : CallTrace.Stable P)
    {ops : List Operation} (leads : Leads s ops t) (holds : P s.machine.trace) :
    P t.machine.trace := by
  induction leads with
  | start => exact holds
  | @operate ops s t op fuel outcome before done ih =>
    obtain ⟨result, m, ran, -, rfl⟩ := operate_eq_some.mp done
    exact Keeping.kept (activity_keeping stable op) ran ih

/-! ## Sessions that have run nothing -/

/-- Loading a session with a trace that goes to a sink.  The sink is what the settings open, or it
is given to the session once it is loaded. -/
inductive LoadedWith (program : Program) (settings : Settings) (input : Input) (sink : Sink) :
    Session → Prop where
  | opened {openTrace : String → Except Fault Sink} {path : String} {s : Session}
      (named : settings.trace = some path) (opens : openTrace path = .ok sink)
      (loaded : load program settings input openTrace = .ok s) :
      LoadedWith program settings input sink s
  | given {openTrace : String → Except Fault Sink} {s : Session}
      (loaded : load program settings input openTrace = .ok s) :
      LoadedWith program settings input sink (s.withTraceSink sink)

/-- A session that has been loaded has the sink of its settings if they name one, and no trace
otherwise. -/
lemma eq_of_load {program : Program} {settings : Settings} {input : Input}
    {openTrace : String → Except Fault Sink}
    (loaded : load program settings input openTrace = .ok s) :
    ∃ declarations trace, Declarations.ofProgram program = .ok declarations ∧
      s = ⟨declarations, settings, false, initialMachine input trace⟩ ∧
      ((settings.trace = none ∧ trace = none) ∨
        ∃ path sink, settings.trace = some path ∧ openTrace path = .ok sink ∧
          trace = some (.ofSink sink)) := by
  unfold load at loaded
  cases declared : Declarations.ofProgram program with
  | error fault =>
    rw [declared] at loaded
    cases loaded
  | ok declarations =>
    simp only [declared, bind, Except.bind, pure, Except.pure] at loaded
    split at loaded
    · next unnamed =>
      cases loaded
      exact ⟨declarations, none, rfl, rfl, Or.inl ⟨unnamed, rfl⟩⟩
    · next path named =>
      split at loaded
      · next sink opens =>
        cases loaded
        exact ⟨declarations, _, rfl, rfl, Or.inr ⟨path, sink, named, opens, rfl⟩⟩
      · cases loaded

/-- What is loaded. -/
lemma LoadedWith.eq {program : Program} {settings : Settings} {input : Input}
    (loaded : LoadedWith program settings input sink s) :
    ∃ declarations, Declarations.ofProgram program = .ok declarations ∧
      s = ⟨declarations, settings, false, initialMachine input (some (.ofSink sink))⟩ := by
  cases loaded with
  | opened named opens loaded =>
    obtain ⟨declarations, trace, declared, rfl, opened⟩ := eq_of_load loaded
    rcases opened with ⟨unnamed, -⟩ | ⟨path', sink', named', opens', rfl⟩
    · cases named.symm.trans unnamed
    · cases named.symm.trans named'
      cases opens.symm.trans opens'
      exact ⟨declarations, declared, rfl⟩
  | given loaded =>
    obtain ⟨declarations, trace, declared, rfl, -⟩ := eq_of_load loaded
    exact ⟨declarations, declared, rfl⟩

/-- A session in which nothing has been run so far, and whose trace goes to a sink: it has just
been loaded, or its functions have been prepared since, without a fault. -/
inductive Unrun (sink : Sink) : Session → Prop where
  | loaded {program : Program} {settings : Settings} {input : Input} {s : Session}
      (loaded : LoadedWith program settings input sink s) : Unrun sink s
  | prepared {s t : Session} {fuel : Nat} (before : Unrun sink s)
      (done : s.prepare fuel = some (.ok (), t)) : Unrun sink t

namespace Unrun

lemma trace_eq (h : Unrun sink s) : s.machine.trace = some (.ofSink sink) := by
  induction h with
  | loaded loaded =>
    obtain ⟨declarations, -, rfl⟩ := loaded.eq
    rfl
  | @prepared s t fuel before done ih =>
    have prepares : s.operate .prepare fuel = some (.ok (), t) := done
    obtain ⟨result, m, ran, -, rfl⟩ := operate_eq_some.mp prepares
    have keeps : (keeping (· = some (.ofSink sink))).Allows (s.activity fuel .prepare) := by
      rw [activity]
      split
      · exact .pure ()
      · exact Keeping.prepareAll _
    exact Keeping.kept keeps ran ih

lemma frames_eq (h : Unrun sink s) : s.machine.memory.frames = [] := by
  induction h with
  | loaded loaded =>
    obtain ⟨declarations, -, rfl⟩ := loaded.eq
    rfl
  | @prepared s t fuel before done ih =>
    have prepares : s.operate .prepare fuel = some (.ok (), t) := done
    obtain ⟨above, operated, ends⟩ := operated prepares
    rw [operated.memory.frames, ends rfl, ih, List.append_nil]

end Unrun

/-! ## Runs -/

/-- The machine once the first label of the main program has been written. -/
def started (s : Session) : Machine :=
  { s.machine with transcript := s.machine.transcript.label "MainProgram:" }

/-- A run that succeeds is the call of the main function, between two labels. -/
lemma run_eq_ok (done : s.run fuel = some (.ok (), t)) :
    ∃ main value n, s.declarations.find? mainName = some main ∧
      runFunction s.declarations.find? fuel (.top .live) main [] s.started =
        some (.ok value, n) ∧
      t = { s with machine := { n with transcript := n.transcript.label "End" } } := by
  obtain ⟨result, m, ran, outcome, rfl⟩ := perform_eq_some.mp done
  cases result with
  | error fault => cases outcome
  | ok =>
    unfold runMain at ran
    obtain ⟨_, l, started, ran⟩ := bind_eq_ok.mp ran
    cases started
    cases declared : s.declarations.find? mainName with
    | none =>
      rw [declared] at ran
      cases ran
    | some main =>
      rw [declared] at ran
      obtain ⟨value, n, called, ended⟩ := bind_eq_ok.mp ran
      cases ended
      exact ⟨main, value, n, rfl, called, rfl⟩

/-- A run that fails has no main function, or it fails within the call of the main function. -/
lemma run_eq_error {fault : LocatedFault} (done : s.run fuel = some (.error fault, t)) :
    fault.line = t.machine.line ∧
      (s.declarations.find? mainName = none ∧ t = { s with machine := s.started } ∨
        ∃ main n, s.declarations.find? mainName = some main ∧
          runFunction s.declarations.find? fuel (.top .live) main [] s.started =
            some (.error fault.fault, n) ∧ t = { s with machine := n }) := by
  obtain ⟨result, m, ran, outcome, rfl⟩ := perform_eq_some.mp done
  cases result with
  | ok => cases outcome
  | error stop =>
    cases outcome
    refine ⟨rfl, ?_⟩
    unfold runMain at ran
    rcases bind_eq_error.mp ran with unlabelled | ⟨_, l, started, ran⟩
    · cases unlabelled
    cases started
    cases declared : s.declarations.find? mainName with
    | none =>
      rw [declared] at ran
      cases ran
      exact Or.inl ⟨rfl, rfl⟩
    | some main =>
      rw [declared] at ran
      rcases bind_eq_error.mp ran with stopped | ⟨value, n, -, unlabelled⟩
      · exact Or.inr ⟨main, m, rfl, stopped, rfl⟩
      · cases unlabelled

end Session

end RobotScribe
