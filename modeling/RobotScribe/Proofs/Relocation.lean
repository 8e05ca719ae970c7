/-
# Silent code in another place

Silent code may stand at any depth, and it may start at any line.  What that changes is where things
are said to be: the indentation of the lines that mark calls, the lines in the frames, and the
numbers of program lines in the trace.

These numbers are not all of one length.  So a trace that has only so much room may be full in one
place and not in the other.  There is no other exception: silent code does the same in both places,
unless in one of them the trace is full (`Eval.Relocates`).
-/
import RobotScribe.Proofs.Positions
import RobotScribe.Proofs.Walk

namespace RobotScribe

/-! ## Transcripts -/

/-- A line of the transcript at the left margin. -/
def Entry.unindented : Entry → Entry
  | label text => label text
  | instruction _ text => instruction 0 text
  | marker _ text => marker 0 text

@[simp] lemma Entry.text_unindented (entry : Entry) : entry.unindented.text = entry.text := by
  cases entry <;> rfl

/-- A text without the spaces that it starts with. -/
def Text.flush (line : String) : String := String.ofList (line.toList.dropWhile (· = ' '))

lemma Entry.flush_render (width : Nat) (entry : Entry) :
    Text.flush (entry.render width) = Text.flush entry.text := by
  have spaces (count : Nat) (text : List Char) :
      (List.replicate count ' ' ++ text).dropWhile (· = ' ') = text.dropWhile (· = ' ') := by
    induction count with
    | zero => rfl
    | succ count ih => simp [List.replicate_succ, ih]
  simp [Text.flush, render, spaces]

namespace Transcript

/-- The lines at the left margin. -/
def unindented (t : Transcript) : Transcript := ⟨t.entries.map Entry.unindented⟩

@[simp] lemma unindented_add (t : Transcript) (entry : Entry) :
    (t.add entry).unindented = t.unindented.add entry.unindented := by
  simp [unindented, add]

/-- The rendered lines are the same but for the spaces that they start with. -/
lemma flush_lines_of_unindented_eq {t t' : Transcript} (same : t.unindented = t'.unindented)
    (width : Nat) : (t.lines width).map Text.flush = (t'.lines width).map Text.flush := by
  have flush (t : Transcript) : (t.lines width).map Text.flush =
      t.unindented.entries.toList.map (Text.flush ∘ Entry.text) := by
    simp [lines, linesFrom, unindented, Entry.flush_render, Function.comp_def]
  rw [flush, flush, same]

end Transcript

/-! ## The same end -/

/-- The fault of a trace that has no room left. -/
def Sink.full : Fault := .io "sink full"

/-- One run has come to an end, and another one comes to the same end, in a state that is related;
or else the room for a trace is bounded, and the trace is full at the end of one of them. -/
def SameEndUnlessFull {α σ : Type} (R : σ → σ → Prop) (bounded : Prop) (p : Except Fault α × σ)
    (q : Option (Except Fault α × σ)) : Prop :=
  (∃ s, q = some (p.1, s) ∧ R p.2 s) ∨
    bounded ∧ (p.1 = .error Sink.full ∨ ∃ s, q = some (.error Sink.full, s))

/-! ## Traces -/

/-- A sink takes all of a text, unless its room is bounded and it is full. -/
lemma Sink.write_cases (sink : Sink) (text : String) :
    sink.write text = (.ok (), { sink with stored := sink.stored ++ text.toUTF8 }) ∨
      sink.capacity ≠ none ∧ (sink.write text).1 = .error full := by
  unfold write
  cases room : sink.capacity with
  | none => simp
  | some capacity =>
    dsimp only
    split
    · exact Or.inl rfl
    · exact Or.inr ⟨by simp, rfl⟩

/-- Two traces that are the same but for the numbers of program lines, and that note things in the
same way.  Whether their room is bounded does not matter once they are closed. -/
structure CallTrace.SameButNumbers (bounded : Prop) (trace trace' : CallTrace) : Prop where
  nesting : trace.nesting = trace'.nesting
  closed : trace.closed = trace'.closed
  stored : Renumbered trace.sink.stored trace'.sink.stored
  capacity : trace.sink.capacity = trace'.sink.capacity
  flushes : trace.sink.flushes = trace'.sink.flushes
  bounded_of : trace.closed = false → trace.sink.capacity ≠ none → bounded

namespace CallTrace.SameButNumbers

variable {bounded : Prop} {trace trace' : CallTrace}

lemma symm (h : SameButNumbers bounded trace trace') : SameButNumbers bounded trace' trace := by
  refine ⟨h.nesting.symm, h.closed.symm, h.stored.symm, h.capacity.symm, h.flushes.symm, ?_⟩
  rw [← h.closed, ← h.capacity]
  exact h.bounded_of

/-- The nesting of both traces changes in the same way. -/
lemma withNesting (h : SameButNumbers bounded trace trace') (nesting : Int) :
    SameButNumbers bounded { trace with nesting } { trace' with nesting } :=
  ⟨rfl, h.closed, h.stored, h.capacity, h.flushes, h.bounded_of⟩

lemma writeLine (h : SameButNumbers bounded trace trace') {text text' : String}
    (looks : Renumbered (text ++ "\n").toUTF8 (text' ++ "\n").toUTF8) :
    SameEndUnlessFull (SameButNumbers bounded) bounded (trace.writeLine text)
      (some (trace'.writeLine text')) := by
  cases closed : trace.closed with
  | true =>
    have closed' : trace'.closed = true := h.closed ▸ closed
    rw [writeLine_closed closed, writeLine_closed closed']
    exact Or.inl ⟨_, rfl, h⟩
  | false =>
    have closed' : trace'.closed = false := h.closed ▸ closed
    simp only [CallTrace.writeLine, closed, closed', Bool.false_eq_true, if_false]
    rcases trace.sink.write_cases (text ++ "\n") with wrote | ⟨room, full⟩
    · rcases trace'.sink.write_cases (text' ++ "\n") with wrote' | ⟨room', full'⟩
      · rw [wrote, wrote']
        exact Or.inl ⟨_, rfl, h.nesting, rfl, .append h.stored looks, h.capacity, h.flushes,
          fun _ => h.bounded_of closed⟩
      · exact Or.inr ⟨h.symm.bounded_of closed' room', Or.inr ⟨_, by rw [full']⟩⟩
    · exact Or.inr ⟨h.bounded_of closed room, Or.inl full⟩

lemma closeAtRoot (h : SameButNumbers bounded trace trace') :
    SameEndUnlessFull (SameButNumbers bounded) bounded trace.closeAtRoot
      (some trace'.closeAtRoot) := by
  simp only [CallTrace.closeAtRoot, Sink.flush, ← h.closed, ← h.nesting, ← h.flushes]
  by_cases open_ : (trace.closed || decide (0 ≤ trace.nesting)) = true
  · rw [if_pos open_, if_pos open_]
    exact Or.inl ⟨_, rfl, h⟩
  · rw [if_neg open_, if_neg open_]
    cases flushes : trace.sink.flushes with
    | true => exact Or.inl ⟨_, rfl, rfl, rfl, h.stored, h.capacity, h.flushes, by simp⟩
    | false => exact Or.inl ⟨_, rfl, h⟩

/-- A call is recorded in both traces. -/
lemma call (h : SameButNumbers bounded trace trace') (function : Function) (args : List Value)
    (line line' : UInt32) :
    SameEndUnlessFull (SameButNumbers bounded) bounded (trace.call function args line)
      (some (trace'.call function args line')) := by
  have looks := (renumbered_call (trace.nesting + 1) function args line line').trans
    (renumbered_call (trace.nesting + 1) function args line' line').symm
  simp only [TraceLine.text_call] at looks
  simp only [CallTrace.call, ← h.nesting]
  exact (h.withNesting _).writeLine looks

/-- A return is recorded in both traces. -/
lemma giveBack (h : SameButNumbers bounded trace trace') (function : Function) (result : Value)
    (args : List Value) (line line' : UInt32) :
    SameEndUnlessFull (SameButNumbers bounded) bounded (trace.giveBack function result args line)
      (some (trace'.giveBack function result args line')) := by
  have looks := (renumbered_giveBack trace.nesting function result args line line').trans
    (renumbered_giveBack trace.nesting function result args line' line').symm
  simp only [TraceLine.text_giveBack] at looks
  have writes := (h.withNesting (trace.nesting - 1)).writeLine looks
  simp only [CallTrace.giveBack, ← h.nesting]
  -- what is written decides whether there is anything left to do
  generalize CallTrace.writeLine { trace with nesting := trace.nesting - 1 } _ = left at writes ⊢
  generalize CallTrace.writeLine { trace' with nesting := trace.nesting - 1 } _ = right
    at writes ⊢
  obtain ⟨outcome, written⟩ := left
  obtain ⟨outcome', written'⟩ := right
  simp only [SameEndUnlessFull, Option.some.injEq, Prod.mk.injEq] at writes
  rcases writes with ⟨_, ⟨rfl, rfl⟩, same⟩ | ⟨room, rfl | ⟨_, rfl, rfl⟩⟩
  · cases outcome' with
    | ok => exact same.closeAtRoot
    | error fault => exact Or.inl ⟨_, rfl, same⟩
  · exact Or.inr ⟨room, Or.inl rfl⟩
  · exact Or.inr ⟨room, Or.inr ⟨_, rfl⟩⟩

end CallTrace.SameButNumbers

/-! ## Machines -/

/-- Two machines that are the same but for what says where something is. -/
structure Machine.SameButPlaces (bounded : Prop) (m n : Machine) : Prop where
  memory : m.memory.unplaced = n.memory.unplaced
  transcript : m.transcript.unindented = n.transcript.unindented
  input : m.input = n.input
  trace : Option.Rel (CallTrace.SameButNumbers bounded) m.trace n.trace

/-- A trace is kept, its room is bounded, and it has not been closed. -/
def Machine.HasBoundedTrace (m : Machine) : Prop :=
  ∃ trace, m.trace = some trace ∧ trace.closed = false ∧ trace.sink.capacity ≠ none

lemma Machine.SameButPlaces.refl (m : Machine) : SameButPlaces m.HasBoundedTrace m m := by
  refine ⟨rfl, rfl, rfl, ?_⟩
  cases kept : m.trace with
  | none => exact .none
  | some trace =>
    exact .some ⟨rfl, rfl, .refl _, rfl, rfl, fun closed room => ⟨trace, kept, closed, room⟩⟩

namespace Eval

/-- Whatever a computation comes to, another one comes to in a machine that is the same but for
places, unless a trace is full. -/
def Relocates (bounded : Prop) {α : Type} (x y : Eval α) : Prop :=
  ∀ ⦃m n : Machine⦄, m.SameButPlaces bounded n → ∀ ⦃p⦄, x m = some p →
    SameEndUnlessFull (Machine.SameButPlaces bounded) bounded p (y n)

namespace Relocates

variable {bounded : Prop} {α β : Type}

/-! ## Operations -/

lemma outOfFuel (y : Eval α) : Relocates bounded outOfFuel y := by
  intro m n alike p ran
  cases ran

/-- Two computations that take one step each. -/
lemma of_step {x y : Eval α} (result result' : Machine → Except Fault α)
    (step step' : Machine → Machine) (steps : ∀ m, x m = some (result m, step m))
    (steps' : ∀ n, y n = some (result' n, step' n))
    (same : ∀ ⦃m n : Machine⦄, m.SameButPlaces bounded n →
      result m = result' n ∧ (step m).SameButPlaces bounded (step' n)) : Relocates bounded x y := by
  intro m n alike p ran
  rw [steps] at ran
  cases ran
  obtain ⟨results, machines⟩ := same alike
  exact Or.inl ⟨step' n, by rw [steps', results], machines⟩

lemma ofExcept (outcome : Except Fault α) :
    Relocates bounded (ofExcept outcome) (ofExcept outcome) :=
  of_step _ _ id id (fun _ => rfl) (fun _ => rfl) fun _ _ alike => ⟨rfl, alike⟩

lemma pure (a : α) : Relocates bounded (pure a : Eval α) (pure a) := ofExcept (.ok a)

lemma bind {x y : Eval α} {f g : α → Eval β} (first : Relocates bounded x y)
    (second : ∀ a, Relocates bounded (f a) (g a)) : Relocates bounded (x >>= f) (y >>= g) := by
  rintro m n alike ⟨outcome, m'⟩ ran
  rcases bind_eq_some.mp ran with ⟨fault, rfl, stopped⟩ | ⟨a, l, done, ran⟩
  · rcases first alike stopped with ⟨n', same, machines⟩ | ⟨room, full | ⟨n', full⟩⟩
    · exact Or.inl ⟨n', bind_of_error same, machines⟩
    · cases full
      exact Or.inr ⟨room, Or.inl rfl⟩
    · exact Or.inr ⟨room, Or.inr ⟨n', bind_of_error full⟩⟩
  · rcases first alike done with ⟨n', same, machines⟩ | ⟨room, full | ⟨n', full⟩⟩
    · rw [bind_of_ok same]
      exact second a machines ran
    · cases full
    · exact Or.inr ⟨room, Or.inr ⟨n', bind_of_error full⟩⟩

/-- What is done with the line has to be the same for any two lines. -/
lemma currentLine_bind {f g : UInt32 → Eval β}
    (second : ∀ line line', Relocates bounded (f line) (g line')) :
    Relocates bounded (currentLine >>= f) (currentLine >>= g) := by
  intro m n alike p ran
  rw [Eval.currentLine_bind] at ran ⊢
  exact second m.line n.line alike ran

lemma setLine (line line' : UInt32) : Relocates bounded (setLine line) (setLine line') :=
  of_step _ _ _ _ (fun _ => rfl) (fun _ => rfl) fun _ _ alike =>
    ⟨rfl, alike.memory, alike.transcript, alike.input, alike.trace⟩

lemma enterSpan (span span' : Span) : Relocates bounded (enterSpan span) (enterSpan span') := by
  have steps (span : Span) (m : Machine) : Eval.enterSpan span m =
      some (.ok (), { m with line := if span.isKnown then span.startLine else m.line }) := by
    unfold Eval.enterSpan
    split <;> rfl
  exact of_step _ _ _ _ (steps span) (steps span') fun _ _ alike =>
    ⟨rfl, alike.memory, alike.transcript, alike.input, alike.trace⟩

/-- It makes no difference whether one of two computations goes on at another line. -/
lemma enterSpan_bind (span : Span) {x y : Eval α} (h : Relocates bounded x y) :
    Relocates bounded (Eval.enterSpan span >>= fun _ => x) y :=
  bind (enterSpan span .unknown) fun _ => h

lemma bind_enterSpan (span : Span) {x y : Eval α} (h : Relocates bounded x y) :
    Relocates bounded x (Eval.enterSpan span >>= fun _ => y) :=
  bind (enterSpan .unknown span) fun _ => h

/-- A computation that looks at the memory and changes it, and does not mind the lines in it. -/
lemma of_memory {x : Eval α} (result : Memory → Except Fault α) (change : Memory → Memory)
    (steps : ∀ m, x m = some (result m.memory, { m with memory := change m.memory }))
    (result_eq : ∀ memory : Memory, result memory.unplaced = result memory)
    (change_eq : ∀ memory : Memory, (change memory).unplaced = change memory.unplaced) :
    Relocates bounded x x := by
  refine of_step _ _ _ _ steps steps fun m n alike => ⟨?_, ?_, alike.transcript, alike.input,
    alike.trace⟩
  · rw [← result_eq, alike.memory, result_eq]
  · simp only [change_eq, alike.memory]

lemma lookup (name : String) : Relocates bounded (lookup name) (lookup name) :=
  of_memory (fun memory => .ok (memory.get name)) id (fun _ => rfl) (fun _ => by simp)
    fun _ => rfl

lemma slotOf (name : String) : Relocates bounded (slotOf name) (slotOf name) :=
  of_memory (fun memory => .ok (memory.slot? name)) id (fun _ => rfl) (fun _ => by simp)
    fun _ => rfl

lemma readSlots (slots : List Slot) : Relocates bounded (readSlots slots) (readSlots slots) :=
  of_memory (fun memory => .ok (slots.map memory.store.read)) id (fun _ => rfl) (fun _ => rfl)
    fun _ => rfl

lemma newSlot (value : Value) : Relocates bounded (newSlot value) (newSlot value) :=
  of_memory (fun memory => .ok memory.store.next) (·.alloc value) (fun _ => rfl) (fun _ => rfl)
    fun _ => rfl

lemma define (name : String) (value : Value) :
    Relocates bounded (define name value) (define name value) :=
  of_memory (fun _ => .ok ()) (·.define name value) (fun _ => rfl) (fun _ => rfl)
    fun memory => memory.unplaced_define name value

lemma storeElement (name : String) (index : Int64) (element : Value) :
    Relocates bounded (storeElement name index element) (storeElement name index element) := by
  refine of_memory (fun memory => .ok ((memory.storeElement name index element).map fun _ => ()))
    (fun memory => (memory.storeElement name index element).toOption.getD memory) (fun m => ?_)
    (fun memory => ?_) fun memory => ?_
  · unfold Eval.storeElement
    cases m.memory.storeElement name index element <;> rfl
  · rw [Memory.storeElement_unplaced]
    cases memory.storeElement name index element <;> rfl
  · rw [Memory.storeElement_unplaced]
    cases memory.storeElement name index element <;> rfl

lemma popFrame : Relocates bounded popFrame popFrame :=
  of_memory (fun _ => .ok ()) Memory.pop (fun _ => rfl) (fun _ => rfl) Memory.unplaced_pop

lemma bindSlots (bindings : List (String × Slot)) :
    Relocates bounded (bindSlots bindings) (bindSlots bindings) :=
  of_memory (fun _ => .ok ())
    (fun memory => bindings.foldl (fun memory entry => memory.bind entry.1 entry.2) memory)
    (fun _ => rfl) (fun _ => rfl) fun memory => memory.unplaced_bindAll bindings

lemma pushFrame (function : String) (line line' : UInt32) :
    Relocates bounded (pushFrame function line) (pushFrame function line') :=
  of_step _ _ _ _ (fun _ => rfl) (fun _ => rfl) fun _ _ alike =>
    ⟨rfl, by rw [Memory.unplaced_push, Memory.unplaced_push, alike.memory], alike.transcript,
      alike.input, alike.trace⟩

lemma nextInteger : Relocates bounded nextInteger nextInteger :=
  of_step (fun m => m.input.nextInteger.1) (fun n => n.input.nextInteger.1)
    (fun m => { m with input := m.input.nextInteger.2 })
    (fun n => { n with input := n.input.nextInteger.2 }) (fun _ => rfl) (fun _ => rfl)
    fun _ _ alike => ⟨congrArg (·.nextInteger.1) alike.input, alike.memory, alike.transcript,
      congrArg (·.nextInteger.2) alike.input, alike.trace⟩

/-- Silent code writes no instructions. -/
lemma emit {here there : Cursor} (silent : here.phase = .silent) (silent' : there.phase = .silent)
    (text : String) : Relocates bounded (emit here text) (emit there text) := by
  have nothing {cursor : Cursor} (silent : cursor.phase = .silent) (m : Machine) :
      Eval.emit cursor text m = some (.ok (), m) := by
    simp [Eval.emit, Transcript.emit, silent, Phase.emits]
  exact of_step _ _ id id (nothing silent) (nothing silent') fun _ _ alike => ⟨rfl, alike⟩

/-- The depth of a marker is what the cursors decide. -/
lemma mark (here there : Cursor) (text : String) :
    Relocates bounded (mark here text) (mark there text) :=
  of_step _ _ _ _ (fun _ => rfl) (fun _ => rfl) fun _ _ alike => by
    refine ⟨rfl, alike.memory, ?_, alike.input, alike.trace⟩
    simp [Transcript.mark, Entry.unindented, alike.transcript]

lemma tracing {record record' : CallTrace → Except Fault Unit × CallTrace}
    (records : ∀ trace trace', CallTrace.SameButNumbers bounded trace trace' →
      SameEndUnlessFull (CallTrace.SameButNumbers bounded) bounded (record trace)
        (some (record' trace'))) :
    Relocates bounded (tracing record) (tracing record') := by
  intro m n alike p ran
  have traces := alike.trace
  unfold Eval.tracing at ran ⊢
  generalize m.trace = left at traces ran
  generalize n.trace = right at traces ⊢
  cases traces with
  | none =>
    cases ran
    exact Or.inl ⟨n, rfl, alike⟩
  | @some trace trace' same =>
    cases ran
    rcases records trace trace' same with ⟨later, done, same'⟩ | ⟨room, full | ⟨later, full⟩⟩
    · refine Or.inl ⟨{ n with trace := some later }, ?_, alike.memory, alike.transcript,
        alike.input, .some same'⟩
      simp only [Option.some.inj done]
    · exact Or.inr ⟨room, Or.inl full⟩
    · refine Or.inr ⟨room, Or.inr ⟨{ n with trace := some later }, ?_⟩⟩
      simp only [Option.some.inj full]

/-! ## Calls -/

lemma enter (function : Function) (slots : List Slot) (line line' : UInt32) :
    Relocates bounded (enter function slots line) (enter function slots line') := by
  unfold Eval.enter
  refine bind (bind (readSlots slots) fun values => tracing fun _ _ same => ?_) fun _ => ?_
  · exact same.call function values line line'
  · exact bind (pushFrame _ _ _) fun _ => bind (setLine _ _) fun _ => bindSlots _

lemma leave (function : Function) (slots : List Slot) (line line' : UInt32) (result : Value) :
    Relocates bounded (leave function slots line result) (leave function slots line' result) := by
  refine currentLine_bind fun at_ at_' => ?_
  refine bind (bind (readSlots slots) fun values => tracing fun _ _ same => ?_) fun _ => ?_
  · exact same.giveBack function result values at_ at_'
  · exact bind popFrame fun _ => bind (setLine _ _) fun _ => pure _

/-! ## The walk -/

/-- The walk through the same silent code at two depths. -/
def walk (bounded : Prop) : ValueWalk where
  Rel _ _ _ x y := Relocates bounded x y
  Aligned here there := here.phase = .silent ∧ there.phase = .silent
  Entered here there := here.phase = .silent ∧ there.phase = .silent
  executes_eq := by
    rintro here there ⟨silent, silent'⟩
    rw [silent, silent']
  aligned both := both
  entered_deeper both := both
  entered_silent _ _ := ⟨rfl, rfl⟩
  of_deeper h := h
  of_silent _ h := h
  outOfFuel := outOfFuel
  pure := pure
  throw fault := ofExcept (.error fault)
  bind := bind
  ofExcept := ofExcept
  enterSpan := fun span => enterSpan span span
  atSpan := @fun _ _ _ _ _ span h => currentLine_bind fun outer outer' =>
    bind (enterSpan span span) fun _ => bind h fun a => bind (setLine outer outer') fun _ => pure a
  lookup := lookup
  define _ := define
  storeElement _ := storeElement
  nextInteger _ _ := nextInteger
  emit := @fun _ _ both => emit both.1 both.2

lemma walk_relatesSlots (bounded : Prop) : (walk bounded).RelatesSlots := ⟨slotOf, newSlot⟩

variable {functions : String → Option Function} {fuel : Nat} {here there : Cursor}

/-- The bodies of functions are silent, wherever they are called. -/
lemma runFunction_of (ih : ∀ less < fuel, (walk bounded).Everywhere functions less less)
    (function : Function) (slots : List Slot) :
    Relocates bounded (runFunction functions fuel here.calledBody function slots)
      (runFunction functions fuel there.calledBody function slots) := by
  cases fuel with
  | zero => exact outOfFuel _
  | succ fuel =>
    have inside : (walk bounded).Entered here.calledBody.deeper there.calledBody.deeper :=
      ⟨rfl, rfl⟩
    have ran := (ih fuel (Nat.lt_succ_self fuel)).stmts inside function.body.stmts
    rw [runFunction_succ, runFunction_succ]
    refine currentLine_bind fun line line' => bind (enter function slots line line') fun _ => ?_
    exact bind ran fun flow => leave function slots line line' _

lemma call_of (ih : ∀ less < fuel, (walk bounded).Everywhere functions less less)
    (both : (walk bounded).Aligned here there) (site : Call) :
    Relocates bounded (call functions fuel here site) (call functions fuel there site) := by
  refine (walk_relatesSlots bounded).call_of 0 ih both (fun text => mark _ _ text) ?_ site
  intro less lt function slots
  exact runFunction_of (fun least lt' => ih least (Nat.lt_trans lt' lt)) function slots

variable (bounded functions fuel)

/-- **Silent code does the same in every place**, unless a trace is full. -/
theorem everywhere : (walk bounded).Everywhere functions fuel fuel := by
  refine Walk.everywhere 0 ?_ ?_ fuel
  · intro fuel ih here there both site
    exact call_of ih both site
  · intro fuel ih here there both _ statements flow
    change Relocates bounded (leaveOut functions fuel here statements flow)
      (leaveOut functions fuel there statements flow)
    unfold leaveOut
    rw [both.1, both.2]
    exact pure flow

end Relocates

end Eval

end RobotScribe
