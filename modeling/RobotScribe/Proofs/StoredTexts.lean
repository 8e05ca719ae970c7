/-
# Texts of stored values

A value carries the text of the expression that it comes from, and it takes that text along when it
is stored.  There the text is of no more use.  A value that comes back into an expression gets the
text of the place where it is read, and the trace shows the data alone.

So a machine may as well forget the texts of all values in its store (`Machine.textless`).  A
computation ignores these texts if it comes to the same in the machine without them, with the same
result and in the same machine but for stored texts (`Eval.IgnoresTexts`).  A look-up by itself does
not, since its result is a stored value; with what the evaluator does with that result, it does.
-/
import RobotScribe.Proofs.Pairing
import RobotScribe.Proofs.Walk

namespace RobotScribe

/-! ## Without texts -/

namespace Value

/-- The data of a value, without a text. -/
def textless (value : Value) : Value := value.withText ""

@[simp] lemma textless_textless (value : Value) : value.textless.textless = value.textless := rfl

lemma storeElement_textless (array : Value) (index : Int64) (element : Value) :
    array.textless.storeElement index element = array.storeElement index element := rfl

end Value

namespace Store

/-- A store whose values have no texts. -/
def textless (store : Store) : Store := ⟨store.cells.map Value.textless⟩

variable (store : Store) (slot : Slot) (value : Value)

@[simp] lemma textless_textless : store.textless.textless = store.textless := by
  simp [textless, Function.comp_def]

@[simp] lemma size_textless : store.textless.size = store.size := by
  simp [size, textless]

@[simp] lemma next_textless : store.textless.next = store.next := by
  simp [next, textless]

@[simp] lemma read_textless : store.textless.read slot = (store.read slot).textless := by
  have none : Value.void.textless = Value.void := rfl
  simp only [read, textless, Array.getD_eq_getD_getElem?, Array.getElem?_map]
  cases store.cells[slot.index]? with
  | none => exact none.symm
  | some value => rfl

@[simp] lemma textless_alloc :
    (store.alloc value).textless = store.textless.alloc value.textless := by
  simp [alloc, textless]

@[simp] lemma textless_write :
    (store.write slot value).textless = store.textless.write slot value.textless := by
  simp [write, textless]

@[simp] lemma textless_shrink (count : Nat) :
    (store.shrink count).textless = store.textless.shrink count := by
  simp [shrink, textless]

lemma textless_writeAll (values : List (Slot × Value)) :
    (store.writeAll values).textless =
      store.textless.writeAll (values.map fun entry => (entry.1, entry.2.textless)) := by
  induction values generalizing store with
  | nil => rfl
  | cons entry rest ih => simpa [writeAll] using ih (store.write entry.1 entry.2)

end Store

namespace Memory

/-- A memory whose values have no texts. -/
def textless (m : Memory) : Memory := { m with store := m.store.textless }

variable (m : Memory) (name : String) (slot : Slot) (value : Value)

@[simp] lemma textless_textless : m.textless.textless = m.textless := by
  simp [textless]

@[simp] lemma store_textless : m.textless.store = m.store.textless := rfl

@[simp] lemma frames_textless : m.textless.frames = m.frames := rfl

@[simp] lemma slot?_textless : m.textless.slot? name = m.slot? name := rfl

/-- A variable is found with a value that has no text, or it is not found. -/
lemma get_textless : m.textless.get name = (m.get name).map Value.textless := by
  unfold Memory.get get?
  rw [slot?_textless]
  cases m.slot? name with
  | none => rfl
  | some slot => simp [Except.map]

@[simp] lemma textless_push (function : String) (callLine : UInt32) :
    (m.push function callLine).textless = m.textless.push function callLine := rfl

@[simp] lemma textless_pop : m.pop.textless = m.textless.pop := rfl

@[simp] lemma textless_alloc : (m.alloc value).textless = m.textless.alloc value.textless := by
  simp [alloc, textless]

@[simp] lemma textless_write :
    (m.write slot value).textless = m.textless.write slot value.textless := by
  simp [write, textless]

@[simp] lemma textless_bind : (m.bind name slot).textless = m.textless.bind name slot := by
  obtain ⟨_ | ⟨frame, below⟩, store⟩ := m <;> rfl

lemma textless_bindAll (bindings : List (String × Slot)) :
    (bindings.foldl (fun memory entry => memory.bind entry.1 entry.2) m).textless =
      bindings.foldl (fun memory entry => memory.bind entry.1 entry.2) m.textless := by
  induction bindings generalizing m with
  | nil => rfl
  | cons entry rest ih => rw [List.foldl_cons, List.foldl_cons, ih, textless_bind]

@[simp] lemma textless_define :
    (m.define name value).textless = m.textless.define name value.textless := by
  obtain ⟨_ | ⟨frame, below⟩, store⟩ := m
  · rfl
  · simp only [define, frames_textless]
    cases frame.slot? name with
    | none => simp
    | some slot => simp

/-- An array is changed by its data. -/
lemma storeElement_textless (index : Int64) (element : Value) :
    (m.textless.storeElement name index element).map textless =
      (m.storeElement name index element).map textless := by
  cases bound : m.slot? name with
  | some slot =>
    rw [storeElement_of_bound bound, storeElement_of_bound (m := m.textless) bound, store_textless,
      Store.read_textless, Value.storeElement_textless]
    cases (m.store.read slot).storeElement index element with
    | error fault => rfl
    | ok array => simp [Except.map]
  | none =>
    rw [storeElement_of_unbound bound, storeElement_of_unbound (m := m.textless) bound]
    cases Value.emptyArrayFor element >>= fun array => array.storeElement index element with
    | error fault => rfl
    | ok array => simp [Except.map]

@[simp] lemma textless_shrink (count : Nat) :
    (m.shrink count).textless = m.textless.shrink count := by
  simp [shrink, textless]

lemma textless_restore_snapshot (l : Memory) :
    (l.restore m.snapshot).textless = l.textless.restore m.textless.snapshot := by
  obtain ⟨_ | ⟨frame, below⟩, store⟩ := m
  all_goals
    obtain ⟨_ | ⟨top, rest⟩, store'⟩ := l
    · rfl
    · simp [restore, snapshot, textless, Store.textless_writeAll, Function.comp_def]

/-- What is put back is the same but for texts. -/
lemma textless_restore_eq {l l' : Memory} (same : l'.textless = l.textless) :
    (l'.restore m.textless.snapshot).textless = (l.restore m.snapshot).textless := by
  rw [textless_restore_snapshot, textless_restore_snapshot, textless_textless, same]

end Memory

/-- A machine whose variables and arguments have no texts. -/
def Machine.textless (m : Machine) : Machine := { m with memory := m.memory.textless }

namespace CallTrace

variable (trace : CallTrace) (function : Function) (values : List Value) (line : UInt32)

/-- The line of a call shows the data of the arguments. -/
lemma call_textless :
    trace.call function (values.map Value.textless) line = trace.call function values line := by
  have shown : List.zipWith argumentText function.params (values.map Value.textless) =
      List.zipWith argumentText function.params values := by
    rw [List.zipWith_map_right]
    rfl
  simp only [call, callText, shown]

/-- The line of a return shows the data of the result and of the arguments. -/
lemma giveBack_textless (result : Value) :
    trace.giveBack function result (values.map Value.textless) line =
      trace.giveBack function result values line := by
  have shown : referenceTexts function.params (values.map Value.textless) =
      referenceTexts function.params values := by
    rw [referenceTexts, List.zip_map_right, List.filter_map, List.map_map]
    rfl
  simp only [giveBack, returnText, shown]

end CallTrace

namespace Eval

/-- A computation comes to the same whatever texts the values in the store carry: to no end, or to
the same result or fault, in machines that are the same but for these texts. -/
def IgnoresTexts {α : Type} (x : Eval α) : Prop :=
  ∀ m : Machine, (x m.textless).map (fun stop => (stop.1, stop.2.textless)) =
    (x m).map fun stop => (stop.1, stop.2.textless)

namespace IgnoresTexts

variable {α β : Type}

/-- Machines that are the same but for stored texts. -/
lemma map_eq {x : Eval α} (h : IgnoresTexts x) {m n : Machine} (same : m.textless = n.textless) :
    (x m).map (fun stop => (stop.1, stop.2.textless)) =
      (x n).map fun stop => (stop.1, stop.2.textless) := by
  rw [← h m, ← h n, same]

lemma exists_eq {x : Eval α} (h : IgnoresTexts x) {m m' n : Machine} {outcome : Except Fault α}
    (same : m'.textless = m.textless) (ran : x m = some (outcome, n)) :
    ∃ n', x m' = some (outcome, n') ∧ n'.textless = n.textless := by
  have ends := h.map_eq same
  rw [ran, Option.map_some, Option.map_eq_some_iff] at ends
  obtain ⟨⟨outcome', n'⟩, ran', both⟩ := ends
  obtain ⟨rfl, machines⟩ := Prod.mk.inj both
  exact ⟨n', ran', machines⟩

/-! ## Operations -/

lemma outOfFuel : IgnoresTexts (outOfFuel : Eval α) := fun _ => rfl

/-- A computation that takes one step. -/
lemma of_step {x : Eval α} (result : Machine → Except Fault α) (step : Machine → Machine)
    (steps : ∀ m, x m = some (result m, step m))
    (ignores : ∀ m : Machine, result m.textless = result m ∧
      (step m.textless).textless = (step m).textless) : IgnoresTexts x := by
  intro m
  rw [steps, steps, Option.map_some, Option.map_some, (ignores m).1, (ignores m).2]

/-- A computation that changes the memory in a way that does not depend on its texts. -/
lemma of_memory {x : Eval α} (result : Memory → Except Fault α) (change : Memory → Memory)
    (steps : ∀ m, x m = some (result m.memory, { m with memory := change m.memory }))
    (results : ∀ memory : Memory, result memory.textless = result memory)
    (changes : ∀ memory : Memory, (change memory.textless).textless = (change memory).textless) :
    IgnoresTexts x := by
  refine of_step _ _ steps fun m => ⟨results m.memory, ?_⟩
  simp only [Machine.textless, changes]

lemma ofExcept (outcome : Except Fault α) : IgnoresTexts (ofExcept outcome) :=
  of_memory (fun _ => outcome) id (fun _ => rfl) (fun _ => rfl) (by simp)

lemma pure (a : α) : IgnoresTexts (pure a : Eval α) := ofExcept (.ok a)

lemma throw (fault : Fault) : IgnoresTexts (throw fault : Eval α) := ofExcept (.error fault)

lemma bind {x : Eval α} {f : α → Eval β} (first : IgnoresTexts x)
    (second : ∀ a, IgnoresTexts (f a)) : IgnoresTexts (x >>= f) := by
  intro m
  have ends := first m
  rw [bind_apply, bind_apply]
  rcases ran : x m with _ | ⟨fault | a, n⟩
  · rw [ran, Option.map_none, Option.map_eq_none_iff] at ends
    rw [ends]
  all_goals
    rw [ran, Option.map_some, Option.map_eq_some_iff] at ends
    obtain ⟨⟨outcome, n'⟩, ran', both⟩ := ends
    obtain ⟨rfl, machines⟩ := Prod.mk.inj both
    rw [ran']
  · simp [machines]
  · exact (second a).map_eq machines

lemma currentLine : IgnoresTexts currentLine :=
  of_step (fun m => .ok m.line) id (fun _ => rfl) fun m => ⟨rfl, by simp [Machine.textless]⟩

lemma setLine (line : UInt32) : IgnoresTexts (setLine line) :=
  of_step (fun _ => .ok ()) ({ · with line }) (fun _ => rfl) fun m =>
    ⟨rfl, by simp [Machine.textless]⟩

lemma enterSpan (span : Span) : IgnoresTexts (enterSpan span) :=
  enterSpan_of (fun x _ => IgnoresTexts x) (pure ()) setLine span

/-- A stored value is found, and its text is not looked at. -/
lemma afterLookup {f : Except Fault Value → Eval α} (name : String)
    (blind : ∀ value text, f (.ok (value.withText text)) = f (.ok value))
    (h : ∀ found, IgnoresTexts (f found)) : IgnoresTexts (lookup name >>= f) := by
  intro m
  have same : f (m.memory.textless.get name) = f (m.memory.get name) := by
    rw [Memory.get_textless]
    cases m.memory.get name with
    | ok value => exact blind value ""
    | error fault => rfl
  have looked (m : Machine) : (lookup name >>= f) m = f (m.memory.get name) m := rfl
  rw [looked, looked, Machine.textless, same]
  exact h _ m

lemma slotOf (name : String) : IgnoresTexts (slotOf name) :=
  of_memory (fun memory => .ok (memory.slot? name)) id (fun _ => rfl) (fun _ => rfl) (by simp)

lemma newSlot (value : Value) : IgnoresTexts (newSlot value) :=
  of_memory (fun memory => .ok memory.store.next) (·.alloc value) (fun _ => rfl) (by simp)
    (by simp)

lemma define (name : String) (value : Value) : IgnoresTexts (define name value) :=
  of_memory (fun _ => .ok ()) (·.define name value) (fun _ => rfl) (fun _ => rfl) (by simp)

lemma storeElement (name : String) (index : Int64) (element : Value) :
    IgnoresTexts (storeElement name index element) := by
  intro m
  have stored := m.memory.storeElement_textless name index element
  unfold Eval.storeElement Machine.textless
  dsimp only
  -- both attempts fail in the same way, or both memories change
  cases without : m.memory.textless.storeElement name index element with
  | error fault =>
    cases done : m.memory.storeElement name index element with
    | error fault' =>
      rw [without, done] at stored
      cases stored
      simp
    | ok memory =>
      rw [without, done] at stored
      cases stored
  | ok memory =>
    cases done : m.memory.storeElement name index element with
    | error fault =>
      rw [without, done] at stored
      cases stored
    | ok memory' =>
      rw [without, done] at stored
      have memories : memory.textless = memory'.textless := Except.ok.inj stored
      simp [memories]

lemma nextInteger : IgnoresTexts nextInteger :=
  of_step (fun m => m.input.nextInteger.1) (fun m => { m with input := m.input.nextInteger.2 })
    (fun _ => rfl) fun m => ⟨rfl, by simp [Machine.textless]⟩

/-- Lines are added, which have nothing to do with the store. -/
lemma of_writes {x : Eval Unit} (write : Transcript → Transcript)
    (writes : ∀ m, x m = some (.ok (), { m with transcript := write m.transcript })) :
    IgnoresTexts x :=
  of_step (fun _ => .ok ()) (fun m => { m with transcript := write m.transcript }) writes
    fun m => ⟨rfl, by simp [Machine.textless]⟩

lemma emit (here : Cursor) (text : String) : IgnoresTexts (emit here text) :=
  of_writes (·.emit here text) fun _ => rfl

lemma mark (here : Cursor) (text : String) : IgnoresTexts (mark here text) :=
  of_writes (·.mark here text) fun _ => rfl

/-- Something that is recorded of the values in some slots, of which only the data are looked at. -/
lemma recorded (slots : List Slot)
    (record : List Value → CallTrace → Except Fault Unit × CallTrace)
    (shows : ∀ values trace, record (values.map Value.textless) trace = record values trace) :
    IgnoresTexts (do
      let values ← readSlots slots
      tracing (record values)) := by
  intro m
  have read : slots.map m.memory.store.textless.read =
      (slots.map m.memory.store.read).map Value.textless := by
    simp
  have done (m : Machine) : (do
      let values ← readSlots slots
      tracing (record values)) m = tracing (record (slots.map m.memory.store.read)) m := rfl
  rw [done, done, Machine.textless, Memory.store_textless, read]
  unfold tracing
  cases kept : m.trace with
  | none => simp [Machine.textless, kept]
  | some trace => simp only [shows]; simp [Machine.textless]

/-- What is taken back is the same but for texts. -/
lemma takingBack {body : Eval Unit} (h : IgnoresTexts body) : IgnoresTexts (takingBack body) := by
  intro m
  have ends := h m
  unfold Eval.takingBack
  rcases ran : body m with _ | ⟨outcome, n⟩
  · rw [ran, Option.map_none, Option.map_eq_none_iff] at ends
    rw [ends]
  · rw [ran, Option.map_some, Option.map_eq_some_iff] at ends
    obtain ⟨⟨outcome', n'⟩, ran', both⟩ := ends
    obtain ⟨rfl, machines⟩ := Prod.mk.inj both
    rw [ran']
    obtain ⟨memory, transcript, input, trace, line⟩ := n
    obtain ⟨memory', transcript', input', trace', line'⟩ := n'
    simp only [Machine.textless, Machine.mk.injEq] at machines
    obtain ⟨memories, rfl, rfl, rfl, rfl⟩ := machines
    have restored := m.memory.textless_restore_eq memories
    cases outcome' with
    | ok => simp [Machine.textless, restored]
    | error fault => simp [Machine.textless, restored]

/-! ## Calls -/

lemma enter (function : Function) (slots : List Slot) (callLine : UInt32) :
    IgnoresTexts (enter function slots callLine) := by
  have called : IgnoresTexts (traceCall function slots callLine) :=
    recorded slots (fun values trace => trace.call function values callLine)
      fun values trace => trace.call_textless function values callLine
  refine bind called fun _ => bind ?_ fun _ => bind (setLine _) fun _ => ?_
  · exact of_memory (fun _ => .ok ()) (·.push function.name.name callLine) (fun _ => rfl)
      (fun _ => rfl) (by simp)
  · exact of_memory (fun _ => .ok ()) (fun memory => (((function.params.map (·.name.name)).zip
      slots).foldl (fun memory entry => memory.bind entry.1 entry.2) memory)) (fun _ => rfl)
      (fun _ => rfl) (by simp [Memory.textless_bindAll])

lemma leave (function : Function) (slots : List Slot) (callLine : UInt32) (result : Value) :
    IgnoresTexts (leave function slots callLine result) := by
  have returned (line : UInt32) : IgnoresTexts (traceReturn function result slots line) :=
    recorded slots (fun values trace => trace.giveBack function result values line)
      fun values trace => trace.giveBack_textless function values line result
  have popped : IgnoresTexts popFrame :=
    of_memory (fun _ => .ok ()) Memory.pop (fun _ => rfl) (fun _ => rfl) (by simp)
  refine bind currentLine fun line => bind (returned line) fun _ => ?_
  exact bind popped fun _ => bind (setLine _) fun _ => pure _

/-! ## The walk -/

/-- The walk through one run, from a machine with and without texts. -/
def walk : Walk where
  Rel _ _ _ x _ := IgnoresTexts x
  Aligned here there := here.phase = there.phase
  Entered here there := here.phase = there.phase
  executes_eq same := congrArg Phase.executes same
  aligned same := same
  entered_deeper same := same
  entered_silent _ _ := rfl
  of_deeper h := h
  of_silent _ h := h
  outOfFuel _ := outOfFuel
  pure := pure
  throw := throw
  bind := bind
  ofExcept := ofExcept
  enterSpan := enterSpan
  atSpan span h := bind currentLine fun outer => bind (enterSpan span) fun _ =>
    bind h fun a => bind (setLine outer) fun _ => pure a
  afterLookup := afterLookup
  define _ := define
  storeElement _ := storeElement
  nextInteger _ _ := nextInteger
  emit _ := emit _

lemma walk_relatesSlots : walk.RelatesSlots := ⟨slotOf, newSlot⟩

section

variable {functions : String → Option Function} {fuel : Nat}
  (ih : ∀ less < fuel, walk.Everywhere functions less (less + 0))
include ih

lemma runFunction_of (body : Cursor) (function : Function) (slots : List Slot) :
    IgnoresTexts (runFunction functions fuel body function slots) := by
  cases fuel with
  | zero => exact outOfFuel
  | succ fuel =>
    have same : walk.Entered body.deeper body.deeper := rfl
    have ran := (ih fuel (Nat.lt_succ_self fuel)).stmts same function.body.stmts
    rw [runFunction_succ]
    refine bind currentLine fun callLine => bind (enter function slots callLine) fun _ => ?_
    exact bind ran fun _ => leave function slots callLine _

lemma call_of (here : Cursor) (site : Call) : IgnoresTexts (call functions fuel here site) := by
  have same : walk.Aligned here here := rfl
  refine walk_relatesSlots.call_of 0 ih same (fun text => mark _ text) ?_ site
  intro less lt function slots
  exact runFunction_of (fun least lt' => ih least (Nat.lt_trans lt' lt)) _ function slots

lemma leaveOut_of (here : Cursor) (statements : List Stmt) (flow : Flow) :
    IgnoresTexts (leaveOut functions fuel here statements flow) := by
  have written : IgnoresTexts (writeOut functions fuel here statements) := by
    cases fuel with
    | zero => exact outOfFuel
    | succ fuel =>
      have same : walk.Entered (here.inPhase .dry) (here.inPhase .dry) := rfl
      have dry := (ih fuel (Nat.lt_succ_self fuel)).stmts same statements
      rw [writeOut]
      exact takingBack (bind dry fun _ => pure ())
  unfold leaveOut
  split
  · exact bind written fun _ => pure flow
  · exact pure flow

end

variable (functions : String → Option Function) (fuel : Nat)

/-- **No code depends on the texts of stored values**, whatever it calls. -/
theorem everywhere : walk.Everywhere functions fuel fuel := by
  refine Walk.everywhere 0 ?_ ?_ fuel
  · intro fuel ih here there _ site
    exact call_of ih here site
  · intro fuel ih here there _ _ statements flow
    exact leaveOut_of ih here statements flow

lemma expr (here : Cursor) (e : Expr) : IgnoresTexts (expr functions fuel here e) :=
  (everywhere functions fuel).expr (rfl : walk.Aligned here here) e

end IgnoresTexts

end Eval

end RobotScribe
