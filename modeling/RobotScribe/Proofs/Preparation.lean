/-
# Preparations one after the other

Only the first preparation of a session does anything, and the ones after it succeed at once.  So
if no preparation has failed, success means that the blocks of all functions are in the transcript:
the first one has written them, and no operation takes a line away.  After a failed preparation,
the next ones succeed as well, but the blocks are not there.
-/
import RobotScribe.Proofs.Blocks
import RobotScribe.Proofs.TracedSessions

namespace RobotScribe

open Eval Machine

namespace Session

/-! ## What a session has undergone -/

/-- A session in which a program has been loaded, and in which nothing has been done. -/
inductive Fresh (program : Program) : Session → Prop where
  | load {settings : Settings} {input : Input} {openTrace : String → Except Fault Sink}
    {s : Session} (loaded : load program settings input openTrace = .ok s) : Fresh program s
  | withTraceSink {s : Session} (sink : Sink) (fresh : Fresh program s) :
    Fresh program (s.withTraceSink sink)

/-- The sessions that operations lead to, with the outcome of each operation. -/
inductive Undergoes (start : Session) :
    List (Operation × Except LocatedFault Unit) → Session → Prop where
  | start : Undergoes start [] start
  | operate {past s t op fuel outcome} (before : Undergoes start past s)
    (done : s.operate op fuel = some (outcome, t)) : Undergoes start (past ++ [(op, outcome)]) t

/-- A preparation has failed. -/
def PrepareFailed (past : List (Operation × Except LocatedFault Unit)) : Prop :=
  ∃ fault, (.prepare, .error fault) ∈ past

/-- The blocks of all functions of a program but the main one are in the transcript, in source
order: the label of the function, its body as it is written in dry code, and a closing label. -/
def HasBlocks (program : Program) (s : Session) : Prop :=
  ∃ blocks, List.Forall₂ TrimsFunction
      (program.functions.filter (·.name.name != mainName)) blocks ∧
    (blocks.flatMap Function.lines).map (Entry.render s.settings.indentWidth) <:+: s.lines

variable {program : Program} {start s t : Session} {op : Operation} {fuel : Nat}
  {outcome : Except LocatedFault Unit} {past : List (Operation × Except LocatedFault Unit)}

lemma Fresh.eq (fresh : Fresh program s) :
    s.declarations.functions = program.functions ∧ s.prepared = false := by
  induction fresh with
  | load loaded =>
    obtain ⟨declarations, trace, declared, rfl, -⟩ := eq_of_load loaded
    obtain ⟨-, rfl⟩ := Declarations.ofProgram_eq_ok.mp declared
    exact ⟨rfl, rfl⟩
  | withTraceSink sink fresh ih => exact ih

/-! ## Blocks that stay -/

/-- What an operation does to a session, but for the machine. -/
lemma kept_of_operate (done : s.operate op fuel = some (outcome, t)) :
    t.declarations = s.declarations ∧ t.settings = s.settings ∧
      t.prepared = (s.prepared || op == .prepare) := by
  obtain ⟨_, _, -, -, rfl⟩ := operate_eq_some.mp done
  exact ⟨rfl, rfl, rfl⟩

/-- No operation takes a line away, so blocks that are in the transcript stay there. -/
lemma HasBlocks.operate (has : s.HasBlocks program)
    (done : s.operate op fuel = some (outcome, t)) : t.HasBlocks program := by
  obtain ⟨blocks, trims, inside⟩ := has
  obtain ⟨above, operated, -⟩ := operated done
  obtain ⟨-, settings, -⟩ := kept_of_operate done
  have grows : s.lines <+: t.lines := by
    rw [lines, lines, settings]
    exact operated.written.map _
  refine ⟨blocks, trims, ?_⟩
  rw [settings]
  exact inside.trans grows.isInfix

/-- The first preparation writes the blocks, if it succeeds. -/
lemma hasBlocks_of_prepare (declared : s.declarations.functions = program.functions)
    (unprepared : s.prepared = false) (done : s.prepare fuel = some (.ok (), t)) :
    t.HasBlocks program := by
  rw [prepare, unprepared, if_neg Bool.false_ne_true, perform_eq_some] at done
  obtain ⟨_ | ⟨⟨⟩⟩, m, ran, ends, rfl⟩ := done
  · cases ends
  obtain ⟨added, written, blocks, trims, rfl⟩ :=
    (settles_prepareAll s.declarations.find? fuel s.preparable).done ran
  rw [preparable, declared] at trims
  have entries : m.transcript.entries.toList =
      s.machine.transcript.entries.toList ++ blocks.flatMap Function.lines := written
  refine ⟨blocks, trims, s.lines, [], ?_⟩
  simp only [lines, Transcript.lines, Transcript.linesFrom, List.drop_zero, entries,
    List.map_append, List.append_nil]

/-! ## What outcomes say -/

/-- What the outcomes of the operations of a session say about preparation. -/
inductive Standing (program : Program) (past : List (Operation × Except LocatedFault Unit))
    (s : Session) : Prop where
  | unprepared (never : ∀ outcome, (.prepare, outcome) ∉ past) (first : s.prepared = false)
  | failed (failed : PrepareFailed past) (later : s.prepared = true)
  | written (has : s.HasBlocks program) (later : s.prepared = true)

/-- What one operation changes about that. -/
lemma Standing.operate (standing : Standing program past s)
    (declared : s.declarations.functions = program.functions)
    (done : s.operate op fuel = some (outcome, t)) :
    Standing program (past ++ [(op, outcome)]) t := by
  obtain ⟨-, -, prepared⟩ := kept_of_operate done
  cases standing with
  | failed failed later =>
    obtain ⟨fault, mem⟩ := failed
    refine .failed ⟨fault, List.mem_append_left _ mem⟩ ?_
    rw [prepared, later, Bool.true_or]
  | written has later =>
    refine .written (has.operate done) ?_
    rw [prepared, later, Bool.true_or]
  | unprepared never first =>
    cases op with
    | run =>
      have still : t.prepared = false := by
        rw [prepared, first]
        rfl
      refine .unprepared (fun outcome mem => ?_) still
      rcases List.mem_append.mp mem with mem | mem
      · exact never outcome mem
      · cases List.mem_singleton.mp mem
    | prepare =>
      have later : t.prepared = true := prepared.trans (Bool.or_true _)
      cases outcome with
      | ok => exact .written (hasBlocks_of_prepare declared first done) later
      | error fault =>
        exact .failed ⟨fault, List.mem_append_right _ (List.mem_singleton_self _)⟩ later

lemma Undergoes.standing (undergoes : Undergoes start past s) (fresh : Fresh program start) :
    s.declarations.functions = program.functions ∧ Standing program past s := by
  induction undergoes with
  | start =>
    obtain ⟨declared, unprepared⟩ := fresh.eq
    exact ⟨declared, .unprepared (fun _ mem => by cases mem) unprepared⟩
  | operate before done ih =>
    obtain ⟨declared, standing⟩ := ih
    obtain ⟨kept, -, -⟩ := kept_of_operate done
    exact ⟨(congrArg _ kept).trans declared, standing.operate declared done⟩

/-- **What it means that a preparation succeeds.**  Take a session that has been loaded, and that
has been prepared and run, any number of times and with any outcomes.  If now it is prepared with
success, and no preparation has failed before, then the blocks of all functions but the main one are
in the transcript, in source order and without a line between them.  If one has failed before, then
the session is left as it was. -/
theorem prepared_blocks_are_there (fresh : Fresh program start) (undergoes : Undergoes start past s)
    (done : s.prepare fuel = some (.ok (), t)) :
    (¬PrepareFailed past → t.HasBlocks program) ∧ (PrepareFailed past → t = s) := by
  obtain ⟨declared, standing⟩ := undergoes.standing fresh
  have again (later : s.prepared = true) : t = s := by
    rw [prepare_of_prepared later] at done
    cases done
    rfl
  cases standing with
  | unprepared never first =>
    refine ⟨fun _ => hasBlocks_of_prepare declared first done, ?_⟩
    rintro ⟨fault, mem⟩
    exact absurd mem (never _)
  | failed failed later => exact ⟨fun well => absurd failed well, fun _ => again later⟩
  | written has later => exact ⟨fun _ => again later ▸ has, fun _ => again later⟩

/-! ### A preparation that fails -/

/-- A program with a function that calls one which is not declared. -/
def lackingProgram : Program where
  functions :=
    [⟨⟨"main", .unknown⟩, [], none, ⟨[], .unknown⟩, .ofLine 1⟩,
     ⟨⟨"f", .unknown⟩, [], none,
      ⟨[.call ⟨⟨"g", .unknown⟩, [], .ofLine 4⟩], .unknown⟩, .ofLine 3⟩]
  span := .unknown

/-- The session of a program without input. -/
def freshSession (program : Program) : Session :=
  ⟨⟨program.functions⟩, .standard, false, initialMachine ⟨[], []⟩ none⟩

lemma fresh_lacking : Fresh lackingProgram (freshSession lackingProgram) := by
  have loaded : load lackingProgram .standard ⟨[], []⟩ (fun _ => .error (.io "")) =
    .ok (freshSession lackingProgram) := rfl
  exact .load loaded

lemma lacking_prepared : ∃ s, Undergoes (freshSession lackingProgram)
      [(.prepare, .error ⟨.undeclaredFunction "g", 4⟩)] s ∧
    s.prepare 20 = some (.ok (), s) ∧ s.lines = ["f:"] := by
  have fails : ((freshSession lackingProgram).operate .prepare 20).map
      (fun stop => (stop.1, stop.2.lines)) =
      some (.error ⟨.undeclaredFunction "g", 4⟩, ["f:"]) := by
    decide +kernel
  obtain ⟨⟨outcome, s⟩, done, seen⟩ := Option.map_eq_some_iff.mp fails
  obtain ⟨rfl, lines⟩ := Prod.mk.inj seen
  obtain ⟨-, -, prepared⟩ := kept_of_operate done
  exact ⟨s, .operate .start done, prepare_of_prepared prepared 20, lines⟩

/-- After a failed preparation, the next one succeeds without any block. -/
theorem prepared_blocks_missing :
    ¬∀ (program : Program) (start s t : Session)
      (past : List (Operation × Except LocatedFault Unit)) (fuel : Nat), Fresh program start →
      Undergoes start past s → s.prepare fuel = some (.ok (), t) → t.HasBlocks program := by
  intro claimed
  obtain ⟨s, undergoes, done, lines⟩ := lacking_prepared
  obtain ⟨blocks, trims, inside⟩ := claimed _ _ _ _ _ _ fresh_lacking undergoes done
  have long : (blocks.flatMap Function.lines).length ≤ 1 := by
    simpa [lines] using inside.length_le
  have counted : blocks.length = 1 := trims.length_eq.symm
  obtain ⟨block, rfl⟩ := List.length_eq_one_iff.mp counted
  simp [Function.lines] at long

/-- A program that can be prepared is prepared, run, and prepared again; one that cannot be prepared
is prepared twice. -/
theorem prepared_blocks_are_there_counters :
    (∃ s t, Undergoes (freshSession counters) [(.prepare, .ok ()), (.run, .ok ())] s ∧
      s.prepare 20 = some (.ok (), t) ∧ t.HasBlocks counters) ∧
    ∃ s, Undergoes (freshSession lackingProgram)
        [(.prepare, .error ⟨.undeclaredFunction "g", 4⟩)] s ∧
      ∀ t, s.prepare 20 = some (.ok (), t) → t = s := by
  constructor
  · have loaded : load counters .standard ⟨[], []⟩ (fun _ => .error (.io "")) =
      .ok (freshSession counters) := rfl
    have ran : ((freshSession counters).operate .prepare 20).bind (fun first =>
        (first.2.operate .run 20).map fun second => (first.1, second.1)) =
        some (.ok (), .ok ()) := by
      decide +kernel
    obtain ⟨⟨outcome, r⟩, first, ran⟩ := Option.bind_eq_some_iff.mp ran
    obtain ⟨⟨outcome', s⟩, second, outcomes⟩ := Option.map_eq_some_iff.mp ran
    obtain ⟨rfl, rfl⟩ := Prod.mk.inj outcomes
    have undergoes : Undergoes (freshSession counters) [(.prepare, .ok ()), (.run, .ok ())] s :=
      .operate (.operate .start first) second
    obtain ⟨-, -, once⟩ := kept_of_operate first
    obtain ⟨-, -, still⟩ := kept_of_operate second
    have prepared : s.prepared = true := by
      rw [still, once]
      rfl
    have done := prepare_of_prepared prepared 20
    obtain ⟨there, -⟩ := prepared_blocks_are_there (.load loaded) undergoes done
    refine ⟨s, s, undergoes, done, there ?_⟩
    rintro ⟨fault, mem⟩
    simp at mem
  · obtain ⟨s, undergoes, -, -⟩ := lacking_prepared
    refine ⟨s, undergoes, fun t done => ?_⟩
    obtain ⟨-, left⟩ := prepared_blocks_are_there fresh_lacking undergoes done
    exact left ⟨_, List.mem_singleton_self _⟩

end Session

end RobotScribe
