/-
# A trace changes nothing

No computation looks at the trace of a machine.  It is only written to, and as long as its sink
does not fail that stops nothing.  So a machine with such a trace and the same machine without
it come to the same, as far as anything but the trace is concerned (`Transparent`).

Nothing is asked of the nesting, or of whether the trace is still open: after a run that has
failed the nesting is off, and after one that has succeeded nothing is written any more.
-/
import RobotScribe.Proofs.Records
import RobotScribe.Proofs.TracedSessions

namespace RobotScribe

namespace Machine

/-- The machine without its trace. -/
def untraced (m : Machine) : Machine := { m with trace := none }

/-- A machine with a trace whose sink never fails. -/
def Reliable (m : Machine) : Prop := ∃ trace, m.trace = some trace ∧ trace.sink.NeverFails

end Machine

namespace Eval

/-- A computation that comes to the same with and without a trace whose sink never fails. -/
def Transparent {α : Type} (x : Eval α) : Prop :=
  ∀ ⦃m : Machine⦄, m.Reliable →
    x m.untraced = (x m).map (fun stop => (stop.1, stop.2.untraced)) ∧
    ∀ ⦃outcome n⦄, x m = some (outcome, n) → n.Reliable

namespace Transparent

variable {α β : Type}

lemma of_blind {x : Eval α} (blind : Blind x) : Transparent x := by
  refine fun m reliable => ⟨blind.retraced m none, fun outcome n ran => ?_⟩
  obtain ⟨trace, kept, never⟩ := reliable
  exact ⟨trace, (blind.trace_eq ran).trans kept, never⟩

lemma bind {x : Eval α} {f : α → Eval β} (first : Transparent x)
    (second : ∀ a, Transparent (f a)) : Transparent (x >>= f) := by
  intro m reliable
  obtain ⟨same, kept⟩ := first reliable
  rw [bind_apply, bind_apply, same]
  rcases ran : x m with _ | ⟨fault | a, n⟩
  · exact ⟨rfl, by simp⟩
  · refine ⟨rfl, ?_⟩
    rintro outcome n ⟨⟩
    exact kept ran
  · exact second a (kept ran)

/-- What is taken back is the same, since the memory is. -/
lemma takingBack {body : Eval Unit} (h : Transparent body) : Transparent (takingBack body) := by
  intro m reliable
  obtain ⟨same, kept⟩ := h reliable
  refine ⟨?_, fun outcome n ran => ?_⟩
  · unfold Eval.takingBack
    rw [same]
    rcases body m with _ | ⟨fault | ⟨⟨⟩⟩, l⟩
    · rfl
    · rfl
    · rfl
  · obtain ⟨l, walked, rfl⟩ := takingBack_eq_some.mp ran
    obtain ⟨trace, kept, never⟩ := kept walked
    exact ⟨trace, kept, never⟩

/-- Something that is recorded, which cannot fail. -/
lemma tracing {record : CallTrace → Except Fault Unit × CallTrace}
    (records : ∀ trace, trace.sink.NeverFails →
      (record trace).1 = .ok () ∧ (record trace).2.sink.NeverFails) :
    Transparent (tracing record) := by
  rintro m ⟨trace, kept, never⟩
  obtain ⟨done, never'⟩ := records trace never
  have ran := Footprint.tracing_of_kept kept (Prod.ext done rfl)
  rw [ran]
  refine ⟨rfl, ?_⟩
  rintro outcome n ⟨⟩
  exact ⟨_, rfl, never'⟩

/-- **All code is transparent**, since records are. -/
theorem recordwise : Recordwise fun _ x => Transparent x where
  of_blind := of_blind
  bind := bind
  takingBack := takingBack
  traceCall function slots line := by
    refine bind (of_blind (.readSlots slots)) fun values => tracing fun trace never => ?_
    rw [CallTrace.call_eq never]
    exact ⟨rfl, never.unbounded, never.flushes⟩
  traceReturn function result slots line := by
    refine bind (of_blind (.readSlots slots)) fun values => tracing fun trace never => ?_
    rw [CallTrace.giveBack_eq never]
    exact ⟨rfl, never.unbounded, never.flushes⟩

end Transparent

end Eval

/-! ## Operations -/

namespace Session

open Eval

variable {s plain traced : Session} {op : Operation} {fuel : Nat}

lemma transparent_activity : Transparent (s.activity fuel op) := by
  cases op with
  | run => exact Transparent.recordwise.runMain _ fuel
  | prepare =>
    rw [activity]
    split
    · exact .of_blind (.pure ())
    · exact Transparent.recordwise.prepareAll _ fuel _

/-- A session without a trace, and one that differs from it in having a trace whose sink never
fails. -/
structure Untraces (plain traced : Session) : Prop where
  declarations : plain.declarations = traced.declarations
  settings : plain.settings = { traced.settings with trace := none }
  prepared : plain.prepared = traced.prepared
  machine : plain.machine = traced.machine.untraced
  reliable : traced.machine.Reliable

/-- What an operation comes to. -/
lemma operate_eq_map : s.operate op fuel = (s.activity fuel op s.machine).map fun stop =>
    (stop.1.mapError (LocatedFault.mk · stop.2.line),
      { s with machine := stop.2, prepared := s.prepared || op == .prepare }) := by
  ext ⟨outcome, t⟩
  rw [operate_eq_some, Option.map_eq_some_iff]
  constructor
  · rintro ⟨result, m, ran, rfl, rfl⟩
    exact ⟨(result, m), ran, rfl⟩
  · rintro ⟨⟨result, m⟩, ran, ⟨⟩⟩
    exact ⟨result, m, ran, rfl, rfl⟩

/-- An operation has the same outcome with and without a trace. -/
lemma Untraces.operate (h : Untraces plain traced) (op : Operation) (fuel : Nat) :
    Option.Rel (fun p q => p.1 = q.1 ∧ Untraces p.2 q.2) (plain.operate op fuel)
      (traced.operate op fuel) := by
  have activity : plain.activity fuel op = traced.activity fuel op := by
    simp only [Session.activity, preparable, h.declarations, h.prepared]
  have transparent : Transparent (traced.activity fuel op) := transparent_activity
  obtain ⟨same, kept⟩ := transparent h.reliable
  rw [operate_eq_map, operate_eq_map, activity, h.machine, same]
  cases ran : traced.activity fuel op traced.machine with
  | none => exact .none
  | some stop =>
    refine .some ⟨rfl, h.declarations, h.settings, ?_, rfl, kept ran⟩
    rw [h.prepared]

/-! ## Sequences of operations -/

/-- Carries out operations, each with its fuel, one after the other.  The history has the outcome of
each of them, and the session that it leads to. -/
def history : Session → List (Operation × Nat) →
    Option (List (Except LocatedFault Unit × Session))
  | _, [] => some []
  | s, (op, fuel) :: rest => do
    let stop ← s.operate op fuel
    let later ← stop.2.history rest
    return stop :: later

/-- What can be seen of two sessions after an operation is the same, but for the trace. -/
structure SeenAlike (p q : Except LocatedFault Unit × Session) : Prop where
  /-- The outcomes are the same, with the fault and its line. -/
  outcome : p.1 = q.1
  lines : p.2.lines = q.2.lines
  /-- There are the same frames, and their variables have the same values. -/
  memory : p.2.machine.memory = q.2.machine.memory
  currentLine : p.2.currentLine = q.2.currentLine
  backtrace : ∀ limit, p.2.backtrace limit = q.2.backtrace limit
  input : p.2.machine.input = q.2.machine.input

lemma Untraces.seenAlike {p q : Except LocatedFault Unit × Session} (outcome : p.1 = q.1)
    (h : Untraces p.2 q.2) : SeenAlike p q := by
  refine ⟨outcome, ?_, ?_, ?_, fun limit => ?_, ?_⟩
  · rw [lines, h.machine, h.settings]
    rfl
  · rw [h.machine]
    rfl
  · rw [currentLine, h.machine]
    rfl
  · rw [backtrace, h.machine, h.settings]
    rfl
  · rw [h.machine]
    rfl

lemma Untraces.history (h : Untraces plain traced) (ops : List (Operation × Nat)) :
    Option.Rel (List.Forall₂ SeenAlike) (plain.history ops) (traced.history ops) := by
  induction ops generalizing plain traced with
  | nil => exact .some .nil
  | cons entry rest ih =>
    obtain ⟨op, fuel⟩ := entry
    have first := h.operate op fuel
    simp only [Session.history]
    generalize plain.operate op fuel = left at first ⊢
    generalize traced.operate op fuel = right at first ⊢
    cases first with
    | none => exact .none
    | @some p q related =>
      obtain ⟨outcome, untraces⟩ := related
      have later := ih untraces
      simp only [Option.bind_eq_bind, Option.bind_some]
      generalize p.2.history rest = left at later ⊢
      generalize q.2.history rest = right at later ⊢
      cases later with
      | none => exact .none
      | some alike => exact .some (.cons (untraces.seenAlike outcome) alike)

/-- **A trace changes nothing.**  Take a session that has been loaded without a trace, and one that
has been loaded in the same way with a trace whose sink never fails.  Whatever operations are
carried out, one after the other and each with the same fuel, they come to the same: each has the
same outcome in both, and after each of them the lines, the frames with the values of their
variables, the line, the backtraces and the rest of the input are the same. -/
theorem tracing_is_transparent {program : Program} {settings : Settings} {input : Input}
    {openTrace : String → Except Fault Sink} {sink : Sink}
    (loaded : load program { settings with trace := none } input openTrace = .ok plain)
    (tracing : LoadedWith program settings input sink traced) (never : sink.NeverFails)
    (ops : List (Operation × Nat)) :
    Option.Rel (List.Forall₂ SeenAlike) (plain.history ops) (traced.history ops) := by
  obtain ⟨declarations, declared, rfl⟩ := tracing.eq
  obtain ⟨declared', settings', prepared, machine⟩ := (load_eq_ok rfl).mp loaded
  refine Untraces.history ⟨?_, settings', prepared, machine, _, rfl, never⟩ ops
  exact Except.ok.inj (declared'.symm.trans declared)

/-- The program that divides by a number that it reads, with three numbers to read. -/
def dividingOften (trace : Option CallTrace) : Session :=
  ⟨⟨dividing.functions⟩, .standard, false, initialMachine ⟨["3", "0", "4"], []⟩ trace⟩

/-- The first run closes the trace, and the second one fails. -/
theorem tracing_is_transparent_dividing : ∃ plain traced,
    (dividingOften none).history [(.prepare, 9), (.run, 9), (.run, 9), (.run, 9)] = some plain ∧
    (dividingOften (some (.ofSink .unbounded))).history
      [(.prepare, 9), (.run, 9), (.run, 9), (.run, 9)] = some traced ∧
    List.Forall₂ SeenAlike plain traced ∧
    traced.map (·.1.isOk) = [true, true, false, true] := by
  have loaded : load dividing .standard ⟨["3", "0", "4"], []⟩ (fun path => .error (.io path)) =
      .ok (dividingOften none) := rfl
  have tracing : LoadedWith dividing .standard ⟨["3", "0", "4"], []⟩ .unbounded
      (dividingOften (some (.ofSink .unbounded))) := .given loaded
  have alike := tracing_is_transparent loaded tracing ⟨rfl, rfl⟩
    [(.prepare, 9), (.run, 9), (.run, 9), (.run, 9)]
  have ends : ((dividingOften (some (.ofSink .unbounded))).history
      [(.prepare, 9), (.run, 9), (.run, 9), (.run, 9)]).map (·.map (·.1.isOk)) =
      some [true, true, false, true] := by
    decide +kernel
  obtain ⟨traced, ran, outcomes⟩ := Option.map_eq_some_iff.mp ends
  rw [ran] at alike
  cases untraced :
      (dividingOften none).history [(.prepare, 9), (.run, 9), (.run, 9), (.run, 9)] with
  | none =>
    rw [untraced] at alike
    cases alike
  | some plain =>
    rw [untraced] at alike
    cases alike with
    | some alike => exact ⟨plain, traced, rfl, ran, alike, outcomes⟩

end Session

end RobotScribe
