/-
# Records

Of all that an operation does to a machine, only the recording of calls and returns has to do with
the trace.  Whatever else the evaluator does comes to the same with any trace, leaves that as it is,
and takes nothing back of the transcript (`Blind`).

So a property that blind computations have, and that is kept when computations are put together,
has to be shown of the records alone (`Recordwise`).  Then all code has it, and so do the
operations of a session.
-/
import RobotScribe.Session
import RobotScribe.Proofs.Footprint

namespace RobotScribe

/-- The machine with another trace, or without one. -/
def Machine.retraced (m : Machine) (trace : Option CallTrace) : Machine := { m with trace }

namespace Eval

/-- A computation that does not look at the trace and leaves it alone.  It may add lines to the
transcript. -/
structure Blind {α : Type} (x : Eval α) : Prop where
  retraced : ∀ (m : Machine) (trace : Option CallTrace),
    x (m.retraced trace) = (x m).map fun stop => (stop.1, stop.2.retraced trace)
  writes : ∀ ⦃m outcome n⦄, x m = some (outcome, n) → m.written <+: n.written

namespace Blind

variable {α β : Type} {x : Eval α} {m n : Machine}

/-- The trace is the one that the machine has had before. -/
lemma trace_eq (blind : Blind x) {outcome : Except Fault α} (ran : x m = some (outcome, n)) :
    n.trace = m.trace := by
  have same : x m = (x m).map fun stop => (stop.1, stop.2.retraced m.trace) :=
    blind.retraced m m.trace
  rw [ran] at same
  have left : n = n.retraced m.trace := congrArg Prod.snd (Option.some.inj same)
  rw [left]
  rfl

/-- A computation that takes one step. -/
lemma of_step (result : Machine → Except Fault α) (step : Machine → Machine)
    (steps : ∀ m, x m = some (result m, step m))
    (blind : ∀ (m : Machine) (trace : Option CallTrace),
      result (m.retraced trace) = result m ∧ step (m.retraced trace) = (step m).retraced trace)
    (writes : ∀ m : Machine, m.written <+: (step m).written) : Blind x where
  retraced m trace := by
    rw [steps, steps, (blind m trace).1, (blind m trace).2]
    rfl
  writes m outcome n ran := by
    rw [steps] at ran
    cases ran
    exact writes m

/-- A computation that takes one step and writes nothing. -/
lemma of_silent_step (result : Machine → Except Fault α) (step : Machine → Machine)
    (steps : ∀ m, x m = some (result m, step m))
    (blind : ∀ (m : Machine) (trace : Option CallTrace),
      result (m.retraced trace) = result m ∧ step (m.retraced trace) = (step m).retraced trace)
    (silent : ∀ m : Machine, (step m).written = m.written) : Blind x :=
  of_step result step steps blind fun m => (silent m).symm ▸ List.prefix_rfl

lemma bind {f : α → Eval β} (first : Blind x) (second : ∀ a, Blind (f a)) : Blind (x >>= f) where
  retraced m trace := by
    rw [bind_apply, bind_apply, first.retraced]
    rcases x m with _ | ⟨fault | a, n⟩
    · rfl
    · rfl
    · exact (second a).retraced n trace
  writes m outcome n ran := by
    rcases bind_eq_some.mp ran with ⟨fault, rfl, stopped⟩ | ⟨a, l, ran, ran'⟩
    · exact first.writes stopped
    · exact (first.writes ran).trans ((second a).writes ran')

lemma outOfFuel : Blind (outOfFuel : Eval α) where
  retraced _ _ := rfl
  writes m outcome n ran := by cases ran

lemma ofExcept (outcome : Except Fault α) : Blind (ofExcept outcome) :=
  of_silent_step (fun _ => outcome) id (fun _ => rfl) (fun _ _ => ⟨rfl, rfl⟩) fun _ => rfl

lemma pure (a : α) : Blind (pure a : Eval α) := ofExcept (.ok a)

lemma throw (fault : Fault) : Blind (throw fault : Eval α) := ofExcept (.error fault)

lemma currentLine : Blind currentLine :=
  of_silent_step (fun m => .ok m.line) id (fun _ => rfl) (fun _ _ => ⟨rfl, rfl⟩) fun _ => rfl

lemma lookup (name : String) : Blind (lookup name) :=
  of_silent_step (fun m => .ok (m.memory.get name)) id (fun _ => rfl) (fun _ _ => ⟨rfl, rfl⟩)
    fun _ => rfl

lemma slotOf (name : String) : Blind (slotOf name) :=
  of_silent_step (fun m => .ok (m.memory.slot? name)) id (fun _ => rfl) (fun _ _ => ⟨rfl, rfl⟩)
    fun _ => rfl

lemma readSlots (slots : List Slot) : Blind (readSlots slots) :=
  of_silent_step (fun m => .ok (slots.map m.memory.store.read)) id (fun _ => rfl)
    (fun _ _ => ⟨rfl, rfl⟩) fun _ => rfl

lemma setLine (line : UInt32) : Blind (setLine line) :=
  of_silent_step (fun _ => .ok ()) ({ · with line }) (fun _ => rfl) (fun _ _ => ⟨rfl, rfl⟩)
    fun _ => rfl

lemma newSlot (value : Value) : Blind (newSlot value) :=
  of_silent_step (fun m => .ok m.memory.store.next)
    (fun m => { m with memory := m.memory.alloc value }) (fun _ => rfl) (fun _ _ => ⟨rfl, rfl⟩)
    fun _ => rfl

lemma define (name : String) (value : Value) : Blind (define name value) :=
  of_silent_step (fun _ => .ok ()) (fun m => { m with memory := m.memory.define name value })
    (fun _ => rfl) (fun _ _ => ⟨rfl, rfl⟩) fun _ => rfl

lemma nextInteger : Blind nextInteger :=
  of_silent_step (fun m => m.input.nextInteger.1)
    (fun m => { m with input := m.input.nextInteger.2 }) (fun _ => rfl) (fun _ _ => ⟨rfl, rfl⟩)
    fun _ => rfl

lemma pushFrame (function : String) (callLine : UInt32) : Blind (pushFrame function callLine) :=
  of_silent_step (fun _ => .ok ()) (fun m => { m with memory := m.memory.push function callLine })
    (fun _ => rfl) (fun _ _ => ⟨rfl, rfl⟩) fun _ => rfl

lemma popFrame : Blind popFrame :=
  of_silent_step (fun _ => .ok ()) (fun m => { m with memory := m.memory.pop }) (fun _ => rfl)
    (fun _ _ => ⟨rfl, rfl⟩) fun _ => rfl

lemma bindSlots (bindings : List (String × Slot)) : Blind (bindSlots bindings) :=
  of_silent_step (fun _ => .ok ()) (fun m => { m with
      memory := bindings.foldl (fun memory entry => memory.bind entry.1 entry.2) m.memory })
    (fun _ => rfl) (fun _ _ => ⟨rfl, rfl⟩) fun _ => rfl

/-- The step depends on whether the element is there, which the memory says. -/
lemma storeElement (name : String) (index : Int64) (element : Value) :
    Blind (storeElement name index element) where
  retraced m trace := by
    have memory : (m.retraced trace).memory = m.memory := rfl
    unfold Eval.storeElement
    rw [memory]
    cases m.memory.storeElement name index element with
    | ok memory => rfl
    | error fault => rfl
  writes m outcome n ran := by
    obtain ⟨transcript, -⟩ := Quiet.storeElement name index element ran
    have silent : n.written = m.written := by rw [Machine.written, transcript, Machine.written]
    exact silent.symm ▸ List.prefix_rfl

lemma label (text : String) : Blind (label text) := by
  refine of_step (fun _ => .ok ()) (fun m => { m with transcript := m.transcript.label text })
    (fun _ => rfl) (fun _ _ => ⟨rfl, rfl⟩) fun m => ?_
  rw [Machine.written, Machine.written, Transcript.label, Transcript.toList_add]
  exact List.prefix_append _ _

lemma emit (here : Cursor) (text : String) : Blind (emit here text) :=
  of_step (fun _ => .ok ()) (fun m => { m with transcript := m.transcript.emit here text })
    (fun _ => rfl) (fun _ _ => ⟨rfl, rfl⟩) fun m => (Machine.OnlyWrites.emit here text m).written

lemma mark (here : Cursor) (text : String) : Blind (mark here text) :=
  of_step (fun _ => .ok ()) (fun m => { m with transcript := m.transcript.mark here text })
    (fun _ => rfl) (fun _ _ => ⟨rfl, rfl⟩) fun m => (Machine.OnlyWrites.mark here text m).written

end Blind

/-! ## Properties that hold if they hold of records -/

/-- A property of computations that has to be shown of records only. -/
structure Recordwise (P : ∀ ⦃α : Type⦄, Eval α → Prop) : Prop where
  of_blind : ∀ {α : Type} {x : Eval α}, Blind x → P x
  bind : ∀ {α β : Type} {x : Eval α} {f : α → Eval β}, P x → (∀ a, P (f a)) → P (x >>= f)
  takingBack : ∀ {body : Eval Unit}, P body → P (takingBack body)
  traceCall : ∀ function slots line, P (traceCall function slots line)
  traceReturn : ∀ function result slots line, P (traceReturn function result slots line)

namespace Recordwise

variable {P : ∀ ⦃α : Type⦄, Eval α → Prop} (h : Recordwise P)
include h

/-! ### Calls -/

lemma enter (function : Function) (slots : List Slot) (callLine : UInt32) :
    P (enter function slots callLine) := by
  -- once the call is recorded, the trace is left alone
  have entered : Blind (do
      Eval.pushFrame function.name.name callLine
      Eval.setLine function.span.startLine
      Eval.bindSlots ((function.params.map (·.name.name)).zip slots)) :=
    .bind (.pushFrame _ _) fun _ => .bind (.setLine _) fun _ => .bindSlots _
  exact h.bind (h.traceCall function slots callLine) fun _ => h.of_blind entered

lemma leave (function : Function) (slots : List Slot) (callLine : UInt32) (result : Value) :
    P (leave function slots callLine result) := by
  have left : Blind (do
      Eval.popFrame
      Eval.setLine callLine
      return result) :=
    .bind .popFrame fun _ => .bind (.setLine _) fun _ => .pure result
  refine h.bind (h.of_blind .currentLine) fun line => ?_
  exact h.bind (h.traceReturn function result slots line) fun _ => h.of_blind left

/-- The walk that looks at one run only. -/
def walk : SlotWalk where
  Rel _ _ _ x _ := P x
  Aligned here there := here.phase.executes = there.phase.executes
  Entered here there := here.phase.executes = there.phase.executes
  executes_eq same := same
  aligned same := same
  entered_deeper same := same
  entered_silent _ _ := rfl
  of_deeper related := related
  of_silent _ related := related
  outOfFuel _ := h.of_blind .outOfFuel
  pure a := h.of_blind (.pure a)
  throw fault := h.of_blind (.throw fault)
  bind := h.bind
  ofExcept outcome := h.of_blind (.ofExcept outcome)
  currentLine := h.of_blind .currentLine
  setLine line := h.of_blind (.setLine line)
  lookup name := h.of_blind (.lookup name)
  slotOf name := h.of_blind (.slotOf name)
  newSlot value := h.of_blind (.newSlot value)
  define _ name value := h.of_blind (.define name value)
  storeElement _ name index element := h.of_blind (.storeElement name index element)
  nextInteger _ _ := h.of_blind .nextInteger
  emit _ text := h.of_blind (.emit _ text)

section

variable {functions : String → Option Function} {fuel : Nat}
  (ih : ∀ less < fuel, h.walk.Everywhere functions less (less + 0))
include ih

lemma runFunction_of (body : Cursor) (function : Function) (slots : List Slot) :
    P (runFunction functions fuel body function slots) := by
  cases fuel with
  | zero => exact h.of_blind .outOfFuel
  | succ fuel =>
    have same : h.walk.Entered body.deeper body.deeper := rfl
    have ran := (ih fuel (Nat.lt_succ_self fuel)).stmts same function.body.stmts
    rw [runFunction_succ]
    refine h.bind (h.of_blind .currentLine) fun callLine => ?_
    refine h.bind (h.enter function slots callLine) fun _ => ?_
    exact h.bind ran fun _ => h.leave function slots callLine _

lemma call_of (here : Cursor) (site : Call) : P (call functions fuel here site) := by
  have same : h.walk.Aligned here here := rfl
  refine h.walk.relatesSlots.call_of 0 ih same (fun text => h.of_blind (.mark _ text)) ?_ site
  intro less lt function slots
  exact h.runFunction_of (fun least lt' => ih least (Nat.lt_trans lt' lt)) _ function slots

lemma leaveOut_of (here : Cursor) (statements : List Stmt) (flow : Flow) :
    P (leaveOut functions fuel here statements flow) := by
  have written : P (writeOut functions fuel here statements) := by
    cases fuel with
    | zero => exact h.of_blind .outOfFuel
    | succ fuel =>
      have same : h.walk.Entered (here.inPhase .dry) (here.inPhase .dry) := rfl
      have dry := (ih fuel (Nat.lt_succ_self fuel)).stmts same statements
      rw [writeOut]
      exact h.takingBack (h.bind dry fun _ => h.of_blind (.pure ()))
  unfold leaveOut
  split
  · exact h.bind written fun _ => h.of_blind (.pure flow)
  · exact h.of_blind (.pure flow)

end

variable (functions : String → Option Function) (fuel : Nat)

/-- **All code has a property that records have.** -/
theorem everywhere : h.walk.Everywhere functions fuel fuel := by
  refine Walk.everywhere 0 ?_ ?_ fuel
  · intro fuel ih here there _ site
    exact h.call_of ih here site
  · intro fuel ih here there _ _ statements flow
    exact h.leaveOut_of ih here statements flow

lemma stmts (here : Cursor) (statements : List Stmt) : P (stmts functions fuel here statements) :=
  (h.everywhere functions fuel).stmts (rfl : h.walk.Entered here here) statements

lemma runFunction (body : Cursor) (function : Function) (slots : List Slot) :
    P (runFunction functions fuel body function slots) :=
  h.runFunction_of (fun less _ => h.everywhere functions less) body function slots

/-! ### Operations -/

lemma defineStandIns (params : List Param) : P (Session.defineStandIns params) := by
  induction params with
  | nil => exact h.of_blind (.pure ())
  | cons param rest ih => exact h.bind (h.of_blind (.define _ _)) fun _ => ih

lemma prepareFunction (function : Function) :
    P (Session.prepareFunction functions fuel function) := by
  refine h.bind (h.of_blind (.label _)) fun _ => h.bind (h.of_blind .currentLine) fun line => ?_
  refine h.bind (h.of_blind (.pushFrame _ line)) fun _ => ?_
  refine h.bind (h.of_blind (.setLine _)) fun _ => ?_
  refine h.bind (h.defineStandIns _) fun _ => h.bind (h.stmts functions fuel _ _) fun _ => ?_
  exact h.of_blind (.bind .popFrame fun _ => .label _)

lemma prepareAll (list : List Function) : P (Session.prepareAll functions fuel list) := by
  induction list with
  | nil => exact h.of_blind (.pure ())
  | cons function rest ih => exact h.bind (h.prepareFunction functions fuel function) fun _ => ih

lemma runMain : P (Session.runMain functions fuel) := by
  unfold Session.runMain
  refine h.bind (h.of_blind (.label _)) fun _ => ?_
  split
  · exact h.of_blind (.throw _)
  · exact h.bind (h.runFunction functions fuel _ _ _) fun _ => h.of_blind (.label _)

end Recordwise

end Eval

end RobotScribe
