/-
# The memory of a session

In every session that loading and operations lead to, whatever they come to, each slot that a
name is bound to has been made.  Evaluations keep this, since they bind names to slots of
variables and to slots that they make.
-/
import RobotScribe.Proofs.Footprint
import RobotScribe.Session

namespace RobotScribe

open Eval

/-! ## Parts of the operations -/

namespace Session

variable (functions : String → Option Function) (fuel : Nat)

/-- Puts the frame of a block on top, and goes on where its function is declared. -/
def enterBlock (function : Function) : Eval Unit := do
  let line ← Eval.currentLine
  pushFrame function.name.name line
  setLine function.span.startLine

/-- Writes the body of a block, with stand-ins for its parameters. -/
def writeBlock (function : Function) : Eval Unit := do
  defineStandIns function.params
  let _ ← stmts functions fuel (Cursor.top .dry).deeper function.body.stmts

lemma enterBlock_apply (function : Function) (m : Machine) :
    enterBlock function m = some (.ok (), { m with
      memory := m.memory.enter function.name.name m.line []
      line := function.span.startLine }) := rfl

lemma prepareFunction_eq (function : Function) :
    prepareFunction functions fuel function = (do
      label (function.name.name ++ ":")
      enterBlock function
      writeBlock functions fuel function
      popFrame
      label "Return") := by
  simp [prepareFunction, enterBlock, writeBlock]

/-- What carrying out an evaluation comes to. -/
lemma perform_eq_some {s t : Session} {x : Eval Unit} {outcome : Except LocatedFault Unit} :
    s.perform x = some (outcome, t) ↔ ∃ result m, x s.machine = some (result, m) ∧
      outcome = result.mapError (LocatedFault.mk · m.line) ∧ t = { s with machine := m } := by
  unfold perform
  rcases x s.machine with _ | ⟨fault | ⟨⟨⟩⟩, m⟩
  · simp
  all_goals
    constructor
    · rintro ⟨⟩
      exact ⟨_, _, rfl, rfl, rfl⟩
    · rintro ⟨_, _, ⟨⟩, rfl, rfl⟩
      rfl

end Session

/-! ## Evaluations -/

/-- The effect of computations that keep a memory sound. -/
def soundness : Effect where
  done m n := m.memory.Sound → n.memory.Sound
  stopped m n := m.memory.Sound → n.memory.Sound
  done_refl _ sound := sound
  done_trans first second sound := second (first sound)
  stopped_of_done h := h
  stopped_trans first second sound := second (first sound)

namespace Soundness

variable {α : Type} {functions : String → Option Function} {fuel : Nat} {m : Machine}

/-- Code in any phase keeps a memory sound. -/
lemma of_footprint (here : Cursor) {x : Eval α} (h : (footprint here).Allows x) :
    soundness.Allows x := by
  intro m outcome n ran
  cases outcome with
  | ok a =>
    have proceeds : Machine.Proceeds here.phase m n := h ran
    exact proceeds.memory.sound
  | error fault =>
    have halts : Machine.Halts here.phase m n := h ran
    exact halts.memory.sound

lemma label (text : String) : soundness.Allows (label text) := by
  refine .of_done fun m outcome n ran => ?_
  cases ran
  exact fun sound => sound

lemma pushFrame (function : String) (callLine : UInt32) :
    soundness.Allows (pushFrame function callLine) := by
  refine .of_done fun m outcome n ran => ?_
  cases ran
  intro sound frame mem slot bound
  rcases List.mem_cons.mp mem with rfl | mem
  · cases bound
  · exact sound frame mem slot bound

lemma popFrame : soundness.Allows popFrame := by
  refine .of_done fun m outcome n ran => ?_
  cases ran
  intro sound frame mem slot bound
  exact sound frame (List.mem_of_mem_tail mem) slot bound

/-- A function that is run on slots that are there keeps a memory sound. -/
lemma runFunction {body : Cursor} {function : Function} {slots : List Slot}
    {outcome : Except Fault Value} {n : Machine}
    (ran : runFunction functions fuel body function slots m = some (outcome, n))
    (sound : m.memory.Sound) (has : ∀ slot ∈ slots, m.memory.store.Has slot) :
    n.memory.Sound := by
  obtain ⟨above, called, -⟩ := (Footprint.callDoes functions ran).memory
  exact called.sound sound has

lemma runMain : soundness.Allows (Session.runMain functions fuel) := by
  unfold Session.runMain
  refine .bind (label _) fun _ => ?_
  split
  · exact .throw _
  · next function _ =>
    have runs : soundness.Allows (Eval.runFunction functions fuel (.top .live) function []) :=
      .of_done fun m outcome n ran sound => runFunction ran sound (by simp)
    exact .bind runs fun _ => label _

lemma defineStandIns (params : List Param) :
    soundness.Allows (Session.defineStandIns params) := by
  induction params with
  | nil => exact .pure ()
  | cons param rest ih =>
    exact .bind (of_footprint (.top .dry) (Footprint.define _ _)) fun _ => ih

lemma prepareFunction (function : Function) :
    soundness.Allows (Session.prepareFunction functions fuel function) := by
  unfold Session.prepareFunction
  refine .bind (label _) fun _ => .bind .currentLine fun line => ?_
  refine .bind (pushFrame _ _) fun _ => ?_
  refine .bind (of_footprint (.top .dry) (Footprint.setLine _)) fun _ => ?_
  refine .bind (defineStandIns _) fun _ => ?_
  refine .bind (of_footprint _ ((Footprint.contained functions fuel).stmts _ trivial _)) fun _ => ?_
  exact .bind popFrame fun _ => label _

lemma prepareAll (list : List Function) :
    soundness.Allows (Session.prepareAll functions fuel list) := by
  induction list with
  | nil => exact .pure ()
  | cons function rest ih => exact .bind (prepareFunction function) fun _ => ih

end Soundness

/-! ## Sessions -/

namespace Session

/-- The sessions that loading and operations lead to. -/
inductive Reached : Session → Prop where
  | load {program : Program} {settings : Settings} {input : Input}
      {openTrace : String → Except Fault Sink} {s : Session}
      (loaded : Session.load program settings input openTrace = .ok s) : Reached s
  | withTraceSink {s : Session} (sink : Sink) (before : Reached s) : Reached (s.withTraceSink sink)
  | run {s t : Session} {fuel : Nat} {outcome : Except LocatedFault Unit} (before : Reached s)
      (ran : s.run fuel = some (outcome, t)) : Reached t
  | prepare {s t : Session} {fuel : Nat} {outcome : Except LocatedFault Unit}
      (before : Reached s) (ran : s.prepare fuel = some (outcome, t)) : Reached t

lemma sound_of_perform {s t : Session} {operation : Eval Unit}
    {outcome : Except LocatedFault Unit} (keeps : soundness.Allows operation)
    (ran : s.perform operation = some (outcome, t)) (sound : s.machine.memory.Sound) :
    t.machine.memory.Sound := by
  unfold perform at ran
  split at ran
  · cases ran
  · next m ended =>
    cases ran
    have kept : s.machine.memory.Sound → m.memory.Sound := keeps ended
    exact kept sound
  · next fault m stopped =>
    cases ran
    have kept : s.machine.memory.Sound → m.memory.Sound := keeps stopped
    exact kept sound

/-- A session that has just been loaded has an empty memory. -/
lemma memory_of_load {program : Program} {settings : Settings} {input : Input}
    {openTrace : String → Except Fault Sink} {s : Session}
    (loaded : Session.load program settings input openTrace = .ok s) :
    s.machine.memory = .empty := by
  unfold Session.load at loaded
  cases declared : Declarations.ofProgram program with
  | error fault =>
    rw [declared] at loaded
    cases loaded
  | ok declarations =>
    simp only [declared, bind, Except.bind, pure, Except.pure] at loaded
    split at loaded
    · cases loaded
      rfl
    · split at loaded
      · cases loaded
        rfl
      · cases loaded

/-- **Every slot that is bound in a session has been made.** -/
theorem Reached.sound {s : Session} (h : Reached s) : s.machine.memory.Sound := by
  induction h with
  | load loaded =>
    rw [memory_of_load loaded]
    simp [Memory.Sound, Memory.empty]
  | withTraceSink sink before ih => exact ih
  | run before ran ih => exact sound_of_perform Soundness.runMain ran ih
  | @prepare s t fuel outcome before ran ih =>
    unfold Session.prepare at ran
    split at ran
    · cases ran
      exact ih
    · exact sound_of_perform (Soundness.prepareAll _) ran ih

end Session

end RobotScribe
