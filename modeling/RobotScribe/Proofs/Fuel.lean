/-
# Fuel

More fuel than is needed changes nothing: whatever code comes to, it comes to with any greater
amount of fuel.  An expression, moreover, comes to the same in both phases in which code runs.

No computation looks at the lines that have been written.  So the two runs may start with
different transcripts, and these stay related in any way that is kept when a line is added to
both of them.
-/
import RobotScribe.Proofs.Walk

namespace RobotScribe

/-- A relation between transcripts that is kept when a line is added to both. -/
def Transcript.Appends (T : Transcript → Transcript → Prop) : Prop :=
  ∀ ⦃s t⦄, T s t → ∀ entry, T (s.add entry) (t.add entry)

namespace Eval

/-- Whatever one computation comes to the other one comes to as well, from a machine that has
a related transcript and is the same otherwise. -/
def Repeats (T : Transcript → Transcript → Prop) {α : Type} (x y : Eval α) : Prop :=
  ∀ ⦃m t⦄, T m.transcript t → ∀ ⦃outcome m'⦄, x m = some (outcome, m') →
    ∃ t', y { m with transcript := t } = some (outcome, { m' with transcript := t' }) ∧
      T m'.transcript t'

namespace Repeats

variable {T : Transcript → Transcript → Prop} {α β : Type}

/-! ## Ways to repeat -/

lemma outOfFuel (y : Eval α) : Repeats T outOfFuel y := by
  intro m t _ outcome m' ran
  cases ran

lemma bind {x y : Eval α} {f g : α → Eval β} (first : Repeats T x y)
    (second : ∀ a, Repeats T (f a) (g a)) : Repeats T (x >>= f) (y >>= g) := by
  intro m t related outcome m' ran
  rcases bind_eq_some.mp ran with ⟨fault, rfl, stopped⟩ | ⟨a, l, done, ran⟩
  · obtain ⟨t', stopped', related'⟩ := first related stopped
    exact ⟨t', bind_of_error stopped', related'⟩
  · obtain ⟨t', done', related'⟩ := first related done
    obtain ⟨t'', ran', related''⟩ := second a related' ran
    exact ⟨t'', (bind_of_ok done').trans ran', related''⟩

/-- A computation that neither looks at the transcript nor adds to it. -/
lemma of_step {x : Eval α} (outcome : Machine → Except Fault α) (step : Machine → Machine)
    (steps : ∀ m, x m = some (outcome m, step m))
    (ignores : ∀ m t, outcome { m with transcript := t } = outcome m ∧
      step { m with transcript := t } = { step m with transcript := t })
    (keeps : ∀ m, (step m).transcript = m.transcript) : Repeats T x x := by
  intro m t related result m' ran
  rw [steps] at ran
  cases ran
  refine ⟨t, ?_, ?_⟩
  · rw [steps, (ignores m t).1, (ignores m t).2]
  · rw [keeps]
    exact related

/-- A computation that only gives a result. -/
lemma of_reads {x : Eval α} (outcome : Machine → Except Fault α)
    (reads : ∀ m, x m = some (outcome m, m))
    (ignores : ∀ m t, outcome { m with transcript := t } = outcome m) : Repeats T x x :=
  of_step outcome id reads (fun m t => ⟨ignores m t, rfl⟩) fun _ => rfl

/-! ## The operations -/

lemma pure (a : α) : Repeats T (pure a) (pure a) :=
  of_reads (fun _ => .ok a) (fun _ => rfl) fun _ _ => rfl

lemma ofExcept (outcome : Except Fault α) : Repeats T (ofExcept outcome) (ofExcept outcome) :=
  of_reads (fun _ => outcome) (fun _ => rfl) fun _ _ => rfl

lemma currentLine : Repeats T currentLine currentLine :=
  of_reads (fun m => .ok m.line) (fun _ => rfl) fun _ _ => rfl

lemma lookup (name : String) : Repeats T (lookup name) (lookup name) :=
  of_reads (fun m => .ok (m.memory.get name)) (fun _ => rfl) fun _ _ => rfl

lemma slotOf (name : String) : Repeats T (slotOf name) (slotOf name) :=
  of_reads (fun m => .ok (m.memory.slot? name)) (fun _ => rfl) fun _ _ => rfl

lemma readSlots (slots : List Slot) : Repeats T (readSlots slots) (readSlots slots) :=
  of_reads (fun m => .ok (slots.map m.memory.store.read)) (fun _ => rfl) fun _ _ => rfl

lemma setLine (line : UInt32) : Repeats T (setLine line) (setLine line) :=
  of_step (fun _ => .ok ()) (fun m => { m with line }) (fun _ => rfl) (fun _ _ => ⟨rfl, rfl⟩)
    fun _ => rfl

/-- A computation that changes the memory by what it is. -/
lemma of_memory {x : Eval α} (outcome : Memory → Except Fault α) (change : Memory → Memory)
    (steps : ∀ m, x m = some (outcome m.memory, { m with memory := change m.memory })) :
    Repeats T x x :=
  of_step (fun m => outcome m.memory) (fun m => { m with memory := change m.memory }) steps
    (fun _ _ => ⟨rfl, rfl⟩) fun _ => rfl

lemma newSlot (value : Value) : Repeats T (newSlot value) (newSlot value) :=
  of_memory (fun memory => .ok memory.store.next) (fun memory => memory.alloc value) fun _ => rfl

lemma define (name : String) (value : Value) : Repeats T (define name value) (define name value) :=
  of_memory (fun _ => .ok ()) (fun memory => memory.define name value) fun _ => rfl

lemma pushFrame (function : String) (callLine : UInt32) :
    Repeats T (pushFrame function callLine) (pushFrame function callLine) :=
  of_memory (fun _ => .ok ()) (fun memory => memory.push function callLine) fun _ => rfl

lemma popFrame : Repeats T popFrame popFrame :=
  of_memory (fun _ => .ok ()) Memory.pop fun _ => rfl

lemma bindSlots (bindings : List (String × Slot)) :
    Repeats T (bindSlots bindings) (bindSlots bindings) :=
  of_memory (fun _ => .ok ())
    (fun memory => bindings.foldl (fun memory entry => memory.bind entry.1 entry.2) memory)
    fun _ => rfl

lemma storeElement (name : String) (index : Int64) (element : Value) :
    Repeats T (storeElement name index element) (storeElement name index element) := by
  intro m t related outcome m' ran
  unfold Eval.storeElement at ran ⊢
  dsimp only
  split at ran
  · cases ran
    exact ⟨t, rfl, related⟩
  · cases ran
    exact ⟨t, rfl, related⟩

lemma nextInteger : Repeats T nextInteger nextInteger :=
  of_step (fun m => m.input.nextInteger.1) (fun m => { m with input := m.input.nextInteger.2 })
    (fun _ => rfl) (fun _ _ => ⟨rfl, rfl⟩) fun _ => rfl

lemma tracing (record : CallTrace → Except Fault Unit × CallTrace) :
    Repeats T (tracing record) (tracing record) := by
  intro m t related outcome m' ran
  unfold Eval.tracing at ran ⊢
  dsimp only
  split at ran
  · cases ran
    exact ⟨t, rfl, related⟩
  · cases ran
    exact ⟨t, rfl, related⟩

lemma traceCall (function : Function) (slots : List Slot) (line : UInt32) :
    Repeats T (traceCall function slots line) (traceCall function slots line) :=
  bind (readSlots slots) fun _ => tracing _

lemma traceReturn (function : Function) (result : Value) (slots : List Slot) (line : UInt32) :
    Repeats T (traceReturn function result slots line) (traceReturn function result slots line) :=
  bind (readSlots slots) fun _ => tracing _

/-- What is taken back is the same on both sides; only the lines stay. -/
lemma takingBack {body body' : Eval Unit} (h : Repeats T body body') :
    Repeats T (takingBack body) (takingBack body') := by
  intro m t related outcome m' ran
  obtain ⟨l, walked, rfl⟩ := takingBack_eq_some.mp ran
  obtain ⟨t', walked', related'⟩ := h related walked
  -- what is restored is a part of the machine that both runs share
  refine ⟨t', takingBack_eq_some.mpr ⟨_, walked', ?_⟩, related'⟩
  cases outcome with
  | ok => rfl
  | error fault => rfl

variable (appends : Transcript.Appends T)
include appends

lemma emit (here : Cursor) (text : String) : Repeats T (emit here text) (emit here text) := by
  intro m t related outcome m' ran
  cases ran
  refine ⟨t.emit here text, rfl, ?_⟩
  unfold Transcript.emit
  split
  · exact appends related _
  · exact related

lemma mark (here : Cursor) (text : String) : Repeats T (mark here text) (mark here text) := by
  intro m t related outcome m' ran
  cases ran
  exact ⟨t.mark here text, rfl, appends related _⟩

lemma label (text : String) : Repeats T (label text) (label text) := by
  intro m t related outcome m' ran
  cases ran
  exact ⟨t.label text, rfl, appends related _⟩

/-! ## The walk -/

/-- The walk through the same code with different amounts of fuel. -/
def walk : SlotWalk where
  Rel _ _ _ x y := Repeats T x y
  Aligned here there := here.depth = there.depth ∧ here.phase.executes = there.phase.executes
  Entered here there := here.depth = there.depth ∧ here.phase = there.phase
  executes_eq same := same.2
  aligned same := ⟨same.1, congrArg Phase.executes same.2⟩
  entered_deeper same := ⟨congrArg Nat.succ same.1, same.2⟩
  entered_silent same _ := ⟨same.1, rfl⟩
  of_deeper h := h
  of_silent _ h := h
  outOfFuel := outOfFuel
  pure := pure
  throw fault := ofExcept (.error fault)
  bind := bind
  ofExcept := ofExcept
  currentLine := @fun _ _ => currentLine
  setLine := setLine
  lookup := lookup
  slotOf := slotOf
  newSlot := newSlot
  define _ := define
  storeElement _ := storeElement
  nextInteger _ _ := nextInteger
  emit := @fun here there same text => by
    have alike : Eval.emit there text = Eval.emit here text := by
      unfold Eval.emit Transcript.emit
      rw [same.1, same.2]
    rw [alike]
    exact emit appends here text

variable {functions : String → Option Function} {fuel extra : Nat} {here there : Cursor}

section

variable (ih : ∀ less < fuel, (walk appends).Everywhere functions less (less + extra))
include ih

lemma runFunction_of (body : Cursor) (function : Function) (slots : List Slot) :
    Repeats T (runFunction functions fuel body function slots)
      (runFunction functions (fuel + extra) body function slots) := by
  cases fuel with
  | zero => exact outOfFuel _
  | succ fuel =>
    have entered : (walk appends).Entered body.deeper body.deeper := ⟨rfl, rfl⟩
    have ran := (ih fuel (Nat.lt_succ_self fuel)).stmts entered function.body.stmts
    rw [Nat.add_right_comm, runFunction, runFunction]
    refine bind currentLine fun callLine => bind (traceCall _ _ _) fun _ => ?_
    refine bind (pushFrame _ _) fun _ => bind (setLine _) fun _ => bind (bindSlots _) fun _ => ?_
    refine bind ran fun flow => bind currentLine fun returnLine => ?_
    refine bind (traceReturn _ _ _ _) fun _ => bind popFrame fun _ => ?_
    exact bind (setLine _) fun _ => pure _

lemma call_of (aligned : (walk appends).Aligned here there) (site : Call) :
    Repeats T (call functions fuel here site) (call functions (fuel + extra) there site) := by
  have depth : here.depth = there.depth := aligned.1
  -- the cursors may differ in their phases, on which neither the marker nor the body depends
  refine (walk appends).relatesSlots.call_of extra ih aligned (fun text => ?_) ?_ site
  · have marks : Eval.mark there text = Eval.mark here text := by
      unfold Eval.mark Transcript.mark
      rw [depth]
    rw [marks]
    exact mark appends here text
  · intro less lt function slots
    have bodies : there.calledBody = here.calledBody := by
      unfold Cursor.calledBody
      rw [depth]
    rw [bodies]
    exact runFunction_of appends (fun least lt' => ih least (Nat.lt_trans lt' lt)) _ function slots

lemma writeOut_of (aligned : here.depth = there.depth) (statements : List Stmt) :
    Repeats T (writeOut functions fuel here statements)
      (writeOut functions (fuel + extra) there statements) := by
  cases fuel with
  | zero => exact outOfFuel _
  | succ fuel =>
    have entered : (walk appends).Entered (here.inPhase .dry) (there.inPhase .dry) :=
      ⟨aligned, rfl⟩
    have written := (ih fuel (Nat.lt_succ_self fuel)).stmts entered statements
    rw [Nat.add_right_comm, writeOut, writeOut]
    exact takingBack (bind written fun _ => pure ())

end

variable (functions extra)

/-- Code comes to the same with more fuel. -/
theorem everywhere (fuel : Nat) : (walk appends).Everywhere functions fuel (fuel + extra) := by
  refine Walk.everywhere extra ?_ ?_ fuel
  · intro fuel ih here there aligned site
    exact call_of appends ih aligned site
  · rintro fuel ih here there ⟨depth, phase⟩ _ statements flow
    change Repeats T (leaveOut functions fuel here statements flow)
      (leaveOut functions (fuel + extra) there statements flow)
    unfold leaveOut
    rw [← phase]
    split
    · exact bind (writeOut_of appends ih depth statements) fun _ => pure flow
    · exact pure flow

end Repeats

/-! ## More fuel -/

/-- A computation that comes to the same end as another wherever that one comes to an end. -/
lemma Repeats.eq_some {α : Type} {x y : Eval α} (h : Repeats (fun s t => s = t) x y) {m : Machine}
    {stop : Except Fault α × Machine} (ran : x m = some stop) : y m = some stop := by
  obtain ⟨t', done, rfl⟩ := h (t := m.transcript) rfl ran
  exact done

/-- Two runs with the same lines from the start have the same lines in the end. -/
lemma appends_eq : Transcript.Appends fun s t => s = t := fun s t same entry => by rw [same]

variable (functions : String → Option Function)

/-- If an expression comes to an end, it comes to the same end with any greater amount of fuel. -/
lemma expr_of_le {fuel fuel' : Nat} {here : Cursor} {e : Expr} {m : Machine}
    {stop : Except Fault Value × Machine} (le : fuel ≤ fuel')
    (ran : expr functions fuel here e m = some stop) :
    expr functions fuel' here e m = some stop := by
  obtain ⟨extra, rfl⟩ := Nat.exists_eq_add_of_le le
  have everywhere := Repeats.everywhere appends_eq functions extra fuel
  exact Repeats.eq_some (everywhere.expr ⟨rfl, rfl⟩ e) ran

/-- **More fuel changes nothing.**  If statements come to an end, they come to the same end with
any greater amount of fuel, in every phase and whatever that end is. -/
theorem stmts_of_le {fuel fuel' : Nat} {here : Cursor} {statements : List Stmt} {m : Machine}
    {stop : Except Fault Flow × Machine} (le : fuel ≤ fuel')
    (ran : stmts functions fuel here statements m = some stop) :
    stmts functions fuel' here statements m = some stop := by
  obtain ⟨extra, rfl⟩ := Nat.exists_eq_add_of_le le
  have everywhere := Repeats.everywhere appends_eq functions extra fuel
  exact Repeats.eq_some (everywhere.stmts ⟨rfl, rfl⟩ statements) ran

end Eval

end RobotScribe
