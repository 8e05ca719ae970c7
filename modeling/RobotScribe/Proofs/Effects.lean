/-
# What the evaluator may do

Much of what is proved about the evaluator has one form: it may change a machine in some way,
and the allowed changes can follow one another.  `Effect` is such a notion of change; a
computation has it if all its parts have it.

An effect may depend on the cursor.  If it allows the operations (`Walkable`), then all parts
of the evaluator have it (`walked`), provided that calls have it, and code that is left out.
-/
import RobotScribe.Proofs.Walk

namespace RobotScribe

/-- A way in which a machine may change: by computations that come to a result, and by
computations that a fault stops. -/
structure Effect where
  /-- What may be done on the way to a result. -/
  done : Machine → Machine → Prop
  /-- What may be done on the way to a fault. -/
  stopped : Machine → Machine → Prop
  done_refl : ∀ m, done m m
  done_trans : ∀ {l m n}, done l m → done m n → done l n
  stopped_of_done : ∀ {m n}, done m n → stopped m n
  stopped_trans : ∀ {l m n}, done l m → stopped m n → stopped l n

namespace Effect

open Eval

variable {E : Effect} {α β : Type} {m n : Machine}

/-- The change that goes with an outcome. -/
def Relates (E : Effect) (outcome : Except Fault α) : Machine → Machine → Prop :=
  match outcome with
  | .ok _ => E.done
  | .error _ => E.stopped

/-- A computation changes a machine only as an effect allows. -/
def Allows (E : Effect) (x : Eval α) : Prop :=
  ∀ ⦃m outcome n⦄, x m = some (outcome, n) → E.Relates outcome m n

namespace Allows

lemma of_done {x : Eval α} (h : ∀ ⦃m outcome n⦄, x m = some (outcome, n) → E.done m n) :
    E.Allows x := by
  intro m outcome n ran
  cases outcome with
  | ok a => exact h ran
  | error fault => exact E.stopped_of_done (h ran)

lemma outOfFuel : E.Allows (outOfFuel : Eval α) := by
  intro m outcome n ran
  cases ran

lemma pure (a : α) : E.Allows (Pure.pure a : Eval α) := by
  refine of_done fun m outcome n ran => ?_
  cases ran
  exact E.done_refl _

lemma throw (fault : Fault) : E.Allows (throw fault : Eval α) := by
  refine of_done fun m outcome n ran => ?_
  cases ran
  exact E.done_refl _

lemma ofExcept (outcome : Except Fault α) : E.Allows (Eval.ofExcept outcome) := by
  refine of_done fun m outcome n ran => ?_
  cases ran
  exact E.done_refl _

lemma currentLine : E.Allows currentLine := by
  refine of_done fun m outcome n ran => ?_
  cases ran
  exact E.done_refl _

lemma lookup (name : String) : E.Allows (lookup name) := by
  refine of_done fun m outcome n ran => ?_
  cases ran
  exact E.done_refl _

lemma slotOf (name : String) : E.Allows (slotOf name) := by
  refine of_done fun m outcome n ran => ?_
  cases ran
  exact E.done_refl _

/-- What an effect allows, where it makes no difference whether a fault has stopped the
computation. -/
lemma done {x : Eval α} (h : E.Allows x) (same : ∀ {m n}, E.stopped m n → E.done m n)
    {outcome : Except Fault α} (ran : x m = some (outcome, n)) : E.done m n := by
  have allowed := h ran
  cases outcome with
  | ok a => exact allowed
  | error fault => exact same allowed

/-- A bind has an effect if its second part, together with what the first part has done, comes
to no more than the effect allows. -/
lemma bind_of {x : Eval α} {f : α → Eval β} (hx : E.Allows x)
    (hf : ∀ ⦃m a l outcome n⦄, x m = some (.ok a, l) → f a l = some (outcome, n) →
      E.Relates outcome m n) : E.Allows (x >>= f) := by
  intro m outcome n ran
  cases outcome with
  | ok b =>
    obtain ⟨a, l, first, second⟩ := bind_eq_ok.mp ran
    exact hf first second
  | error fault =>
    rcases bind_eq_error.mp ran with first | ⟨a, l, first, second⟩
    · exact hx first
    · exact hf first second

lemma bind {x : Eval α} {f : α → Eval β} (hx : E.Allows x) (hf : ∀ a, E.Allows (f a)) :
    E.Allows (x >>= f) := by
  refine bind_of hx fun m a l outcome n first second => ?_
  cases outcome with
  | ok b => exact E.done_trans (hx first) (hf a second)
  | error fault => exact E.stopped_trans (hx first) (hf a second)

/-- A call is allowed if its arguments are, and what becomes of it once they are there: the function
is run, or the call is only written. -/
lemma call {functions : String → Option Function} {fuel : Nat} {here : Cursor} {site : Call}
    (gathered : ∀ function : Function,
      E.Allows (arguments functions fuel here function function.params site.args))
    (made : ∀ function, functions site.name.name = some function → here.phase.executes = true →
      ∀ slots, E.Allows (do
        mark here (Text.callForm site.name.name)
        runFunction functions fuel here.calledBody function slots))
    (written : ∀ function, functions site.name.name = some function →
      here.phase.executes = false → E.Allows (mark here (Text.callForm site.name.name))) :
    E.Allows (call functions (fuel + 1) here site) := by
  cases declared : functions site.name.name with
  | none =>
    rw [call_of_undeclared functions declared]
    exact throw _
  | some function =>
    rw [call_of_declared functions declared]
    split
    · exact throw _
    refine bind (gathered function) fun slots => ?_
    cases runs : here.phase.executes with
    | true =>
      have ran := bind (made function declared runs slots) fun result =>
        pure (result.withText (Text.callForm site.name.name))
      simpa using ran
    | false => exact bind (written function declared runs) fun _ => pure _

/-- Leaving code out is allowed if, in live code, writing it is. -/
lemma leaveOut {functions : String → Option Function} {fuel : Nat} {here : Cursor}
    {statements : List Stmt} (written : here.phase = .live →
      E.Allows (writeOut functions fuel here statements)) (flow : Flow) :
    E.Allows (leaveOut functions fuel here statements flow) := by
  unfold Eval.leaveOut
  split
  · next live => exact bind (written live) fun _ => pure _
  · exact pure _

end Allows

end Effect

/-! ## The walk of an effect -/

open Eval

/-- Effects, one for each cursor, that allow the operations of the evaluator.  The operations
that only statements use are asked for at the cursors where statements are looked at. -/
structure Walkable (effect : Cursor → Effect) (entered : Cursor → Prop) : Prop where
  setLine : ∀ here line, (effect here).Allows (setLine line)
  newSlot : ∀ here value, (effect here).Allows (newSlot value)
  define : ∀ here, entered here → ∀ name value, (effect here).Allows (define name value)
  storeElement : ∀ here, entered here → ∀ name index element,
    (effect here).Allows (storeElement name index element)
  nextInteger : ∀ here, entered here → here.phase.executes = true →
    (effect here).Allows nextInteger
  emit : ∀ here, entered here → ∀ text, (effect here).Allows (emit here text)
  entered_deeper : ∀ here, entered here → entered here.deeper
  entered_silent : ∀ here, entered here → here.phase.executes = true →
    entered (here.inPhase .silent)
  /-- What blocks do is done by the code around them. -/
  of_deeper : ∀ here {α : Type} {x : Eval α}, (effect here.deeper).Allows x →
    (effect here).Allows x
  /-- What the later rounds of a loop do is done by the loop. -/
  of_silent : ∀ here {α : Type} {x : Eval α}, here.phase.executes = true →
    (effect (here.inPhase .silent)).Allows x → (effect here).Allows x

variable {effect : Cursor → Effect} {entered : Cursor → Prop}

/-- A computation that leaves the transcript and the trace alone. -/
def Quiet {α : Type} (x : Eval α) : Prop :=
  ∀ ⦃m outcome n⦄, x m = some (outcome, n) → n.transcript = m.transcript ∧ n.trace = m.trace

namespace Quiet

lemma setLine (line : UInt32) : Quiet (setLine line) := by
  intro m outcome n ran
  cases ran
  exact ⟨rfl, rfl⟩

lemma newSlot (value : Value) : Quiet (newSlot value) := by
  intro m outcome n ran
  cases ran
  exact ⟨rfl, rfl⟩

lemma define (name : String) (value : Value) : Quiet (define name value) := by
  intro m outcome n ran
  cases ran
  exact ⟨rfl, rfl⟩

lemma storeElement (name : String) (index : Int64) (element : Value) :
    Quiet (storeElement name index element) := by
  intro m outcome n ran
  unfold Eval.storeElement at ran
  split at ran
  · cases ran
    exact ⟨rfl, rfl⟩
  · cases ran
    exact ⟨rfl, rfl⟩

lemma nextInteger : Quiet nextInteger := by
  intro m outcome n ran
  cases ran
  exact ⟨rfl, rfl⟩

end Quiet

/-- Effects that allow whatever leaves the transcript and the trace alone. -/
lemma Walkable.of_quiet
    (quiet : ∀ here {α : Type} {x : Eval α}, Quiet x → (effect here).Allows x)
    (emit : ∀ here, entered here → ∀ text, (effect here).Allows (Eval.emit here text))
    (entered_deeper : ∀ here, entered here → entered here.deeper)
    (entered_silent : ∀ here, entered here → here.phase.executes = true →
      entered (here.inPhase .silent))
    (of_deeper : ∀ here {α : Type} {x : Eval α}, (effect here.deeper).Allows x →
      (effect here).Allows x)
    (of_silent : ∀ here {α : Type} {x : Eval α}, here.phase.executes = true →
      (effect (here.inPhase .silent)).Allows x → (effect here).Allows x) :
    Walkable effect entered where
  setLine here line := quiet here (.setLine line)
  newSlot here value := quiet here (.newSlot value)
  define here _ name value := quiet here (.define name value)
  storeElement here _ name index element := quiet here (.storeElement name index element)
  nextInteger here _ _ := quiet here .nextInteger
  emit := emit
  entered_deeper := entered_deeper
  entered_silent := entered_silent
  of_deeper := of_deeper
  of_silent := of_silent

/-- The walk that looks at one run only. -/
def Walkable.walk (ops : Walkable effect entered) : SlotWalk where
  Rel here _ _ x _ := (effect here).Allows x
  Aligned here there := here = there
  Entered here there := here = there ∧ entered here
  executes_eq same := by rw [same]
  aligned inside := inside.1
  entered_deeper inside := by
    obtain ⟨rfl, inside⟩ := inside
    exact ⟨rfl, ops.entered_deeper _ inside⟩
  entered_silent inside runs := by
    obtain ⟨rfl, inside⟩ := inside
    exact ⟨rfl, ops.entered_silent _ inside runs⟩
  of_deeper := ops.of_deeper _
  of_silent := ops.of_silent _
  outOfFuel _ := .outOfFuel
  pure := .pure
  throw := .throw
  bind := .bind
  ofExcept := .ofExcept
  currentLine := @fun _ _ => .currentLine
  setLine := ops.setLine _
  lookup := .lookup
  slotOf := .slotOf
  newSlot := ops.newSlot _
  define inside := ops.define _ inside.2
  storeElement inside := ops.storeElement _ inside.2
  nextInteger inside := ops.nextInteger _ inside.2
  emit inside := ops.emit _ inside.2

/-- The evaluator has an effect, with so much fuel. -/
structure Walked (functions : String → Option Function) (effect : Cursor → Effect)
    (entered : Cursor → Prop) (fuel : Nat) : Prop where
  expr : ∀ here e, (effect here).Allows (expr functions fuel here e)
  sense : ∀ here sensor, (effect here).Allows (sense functions fuel here sensor)
  call : ∀ here site, (effect here).Allows (call functions fuel here site)
  arguments : ∀ here function params args,
    (effect here).Allows (arguments functions fuel here function params args)
  argument : ∀ here function param arg,
    (effect here).Allows (argument functions fuel here function param arg)
  numbers : ∀ here args, (effect here).Allows (numbers functions fuel here args)
  stmts : ∀ here, entered here → ∀ statements,
    (effect here).Allows (stmts functions fuel here statements)
  stmt : ∀ here, entered here → ∀ s, (effect here).Allows (stmt functions fuel here s)
  branch : ∀ here, entered here → ∀ block taken,
    (effect here).Allows (branch functions fuel here block taken)
  rounds : ∀ here, entered here → here.phase.executes = true → ∀ condition body,
    (effect here).Allows (rounds functions fuel here condition body)

variable {functions : String → Option Function}

lemma Walkable.walked_of_everywhere (ops : Walkable effect entered) {fuel : Nat}
    (h : ∀ less ≤ fuel, ops.walk.Everywhere functions less less) :
    Walked functions effect entered fuel := by
  have now := h fuel (Nat.le_refl fuel)
  have before : ∀ less < fuel, ops.walk.Everywhere functions less (less + 0) :=
    fun less lt => h less (Nat.le_of_lt lt)
  have same : ∀ here, ops.walk.Aligned here here := fun here => rfl
  exact {
    expr := fun here => now.expr (same here)
    sense := fun here => now.sense (same here)
    call := fun here => now.call (same here)
    arguments := fun here => SlotWalk.arguments_of before (same here)
    argument := fun here => SlotWalk.argument_of before (same here)
    numbers := fun here => now.numbers (same here)
    stmts := fun here inside => now.stmts ⟨same here, inside⟩
    stmt := fun here inside => now.stmt ⟨same here, inside⟩
    branch := fun here inside => now.branch ⟨same here, inside⟩
    rounds := fun here inside => now.rounds ⟨same here, inside⟩ }

/-- **The evaluator has every effect that its operations, its calls and the code that it leaves
out have.**  The last two may use that everything has the effect with less fuel. -/
theorem walked (ops : Walkable effect entered)
    (call : ∀ fuel, (∀ less < fuel, Walked functions effect entered less) → ∀ here site,
      (effect here).Allows (call functions fuel here site))
    (leaveOut : ∀ fuel, (∀ less < fuel, Walked functions effect entered less) → ∀ here,
      entered here → here.phase.executes = true → ∀ statements flow,
      (effect here).Allows (leaveOut functions fuel here statements flow))
    (fuel : Nat) : Walked functions effect entered fuel := by
  have lesser : ∀ {fuel}, (∀ less < fuel, ops.walk.Everywhere functions less (less + 0)) →
      ∀ less < fuel, Walked functions effect entered less :=
    fun before less lt =>
      ops.walked_of_everywhere fun least le => before least (Nat.lt_of_le_of_lt le lt)
  refine ops.walked_of_everywhere fun less _ => Walk.everywhere 0 ?_ ?_ less
  · intro fuel before here there same site
    exact call fuel (lesser before) here site
  · intro fuel before here there inside runs statements flow
    exact leaveOut fuel (lesser before) here inside.2 runs statements flow

/-- Going on at the line of a node is allowed if going on at a line is. -/
lemma Walkable.enterSpan (ops : Walkable effect entered) (here : Cursor) (span : Span) :
    (effect here).Allows (enterSpan span) := by
  unfold Eval.enterSpan
  split
  · exact ops.setLine here _
  · exact .pure ()

end RobotScribe
