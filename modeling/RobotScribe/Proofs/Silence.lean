/-
# Writing does not change what a program does

Live code does all that silent code does, and it writes on the way; what it adds besides is
code that is written out, which leaves only lines.  So whenever live code comes to its end,
the same code comes to the same end in silence: with the same result, memory, input, trace and
line, and with some of the lines.

The proof runs the two side by side.  A computation covers another if, from machines that
differ only in their lines, whatever it comes to the other comes to as well.
-/
import RobotScribe.Proofs.DryCode

namespace RobotScribe

namespace Machine

/-- A machine that differs from another in that it may have more lines. -/
structure Covers (loud quiet : Machine) : Prop where
  memory : quiet.memory = loud.memory
  input : quiet.input = loud.input
  trace : quiet.trace = loud.trace
  line : quiet.line = loud.line
  written : quiet.written.Sublist loud.written

lemma Covers.refl (m : Machine) : Covers m m :=
  ⟨rfl, rfl, rfl, rfl, List.Sublist.refl _⟩

/-- What has been covered still is after more lines on the loud side. -/
lemma Covers.write {loud loud' quiet : Machine} (h : Covers loud quiet)
    (writes : OnlyWrites loud loud') (line : loud'.line = loud.line) : Covers loud' quiet := by
  refine ⟨h.memory.trans writes.memory.symm, h.input.trans writes.input.symm,
    h.trace.trans writes.trace.symm, h.line.trans line.symm, ?_⟩
  exact h.written.trans writes.written.sublist

end Machine

namespace Eval

open Machine

/-- A computation covers another if its results are results of the other one, too, up to
lines. -/
def Covers {α : Type} (x y : Eval α) : Prop :=
  ∀ ⦃loud quiet loud' a⦄, Machine.Covers loud quiet → x loud = some (.ok a, loud') →
    ∃ quiet', y quiet = some (.ok a, quiet') ∧ Machine.Covers loud' quiet'

namespace Covers

variable {α β : Type}

/-! ## Ways to cover -/

lemma outOfFuel (y : Eval α) : Covers outOfFuel y := by
  intro loud quiet loud' a _ ran
  cases ran

lemma throw {y : Eval α} (fault : Fault) : Covers (throw fault) y := by
  intro loud quiet loud' a _ ran
  cases ran

/-- A computation that only reads what the two sides have in common. -/
lemma of_reads {x : Eval α} (result : Machine → Except Fault α)
    (reads : ∀ m, x m = some (result m, m))
    (common : ∀ ⦃loud quiet⦄, Machine.Covers loud quiet → result quiet = result loud) :
    Covers x x := by
  intro loud quiet loud' a covers ran
  rw [reads] at ran
  obtain ⟨done, rfl⟩ := Prod.mk.inj (Option.some.inj ran)
  refine ⟨quiet, ?_, covers⟩
  rw [reads, common covers, done]

lemma pure (a : α) : Covers (pure a) (pure a) :=
  of_reads (fun _ => .ok a) (fun _ => rfl) fun _ _ _ => rfl

lemma ofExcept (outcome : Except Fault α) : Covers (ofExcept outcome) (ofExcept outcome) :=
  of_reads (fun _ => outcome) (fun _ => rfl) fun _ _ _ => rfl

lemma currentLine : Covers currentLine currentLine :=
  of_reads (fun m => .ok m.line) (fun _ => rfl) fun _ _ covers => by rw [covers.line]

lemma lookup (name : String) : Covers (lookup name) (lookup name) :=
  of_reads (fun m => .ok (m.memory.get name)) (fun _ => rfl) fun _ _ covers => by
    rw [covers.memory]

lemma slotOf (name : String) : Covers (slotOf name) (slotOf name) :=
  of_reads (fun m => .ok (m.memory.slot? name)) (fun _ => rfl) fun _ _ covers => by
    rw [covers.memory]

lemma readSlots (slots : List Slot) : Covers (readSlots slots) (readSlots slots) :=
  of_reads (fun m => .ok (slots.map m.memory.store.read)) (fun _ => rfl) fun _ _ covers => by
    rw [covers.memory]

lemma bind {x y : Eval α} {f g : α → Eval β} (first : Covers x y)
    (second : ∀ a, Covers (f a) (g a)) : Covers (x >>= f) (y >>= g) := by
  intro loud quiet loud' b covers ran
  obtain ⟨a, loud₁, ran₁, ran₂⟩ := bind_eq_ok.mp ran
  obtain ⟨quiet₁, done₁, covers₁⟩ := first covers ran₁
  obtain ⟨quiet₂, done₂, covers₂⟩ := second a covers₁ ran₂
  exact ⟨quiet₂, bind_eq_ok.mpr ⟨a, quiet₁, done₁, done₂⟩, covers₂⟩

/-- A step that the quiet side leaves out. -/
lemma skip {x : Eval Unit} {f : Unit → Eval β} {y : Eval β} (first : Covers x (Pure.pure ()))
    (second : Covers (f ()) y) : Covers (x >>= f) y := by
  intro loud quiet loud' b covers ran
  obtain ⟨⟨⟩, loud₁, ran₁, ran₂⟩ := bind_eq_ok.mp ran
  obtain ⟨quiet₁, done₁, covers₁⟩ := first covers ran₁
  cases done₁
  exact second covers₁ ran₂

/-! ## The operations -/

/-- A step that changes the memory, the input, the trace and the line by what they are. -/
lemma of_steps {x : Eval α} (result : Machine → Except Fault α) (step : Machine → Machine)
    (steps : ∀ m, x m = some (result m, step m))
    (common : ∀ ⦃loud quiet⦄, Machine.Covers loud quiet →
      result quiet = result loud ∧ Machine.Covers (step loud) (step quiet)) :
    Covers x x := by
  intro loud quiet loud' a covers ran
  rw [steps] at ran
  obtain ⟨done, rfl⟩ := Prod.mk.inj (Option.some.inj ran)
  obtain ⟨same, covers'⟩ := common covers
  refine ⟨step quiet, ?_, covers'⟩
  rw [steps, same, done]

lemma setLine (line : UInt32) : Covers (setLine line) (setLine line) := by
  refine of_steps (fun _ => .ok ()) (fun m => { m with line }) (fun _ => rfl) ?_
  intro loud quiet covers
  exact ⟨rfl, covers.memory, covers.input, covers.trace, rfl, covers.written⟩

/-- A step that changes the memory by what it is. -/
lemma of_memory {x : Eval α} (result : Memory → Except Fault α) (change : Memory → Memory)
    (steps : ∀ m, x m = some (result m.memory, { m with memory := change m.memory })) :
    Covers x x := by
  refine of_steps (fun m => result m.memory) (fun m => { m with memory := change m.memory })
    steps ?_
  intro loud quiet covers
  have memory : quiet.memory = loud.memory := covers.memory
  refine ⟨by rw [memory], ?_, covers.input, covers.trace, covers.line, covers.written⟩
  exact congrArg change memory

lemma define (name : String) (value : Value) : Covers (define name value) (define name value) :=
  of_memory (fun _ => .ok ()) (fun memory => memory.define name value) fun _ => rfl

lemma newSlot (value : Value) : Covers (newSlot value) (newSlot value) :=
  of_memory (fun memory => .ok memory.store.next) (fun memory => memory.alloc value) fun _ => rfl

lemma pushFrame (function : String) (callLine : UInt32) :
    Covers (pushFrame function callLine) (pushFrame function callLine) :=
  of_memory (fun _ => .ok ()) (fun memory => memory.push function callLine) fun _ => rfl

lemma popFrame : Covers popFrame popFrame :=
  of_memory (fun _ => .ok ()) Memory.pop fun _ => rfl

lemma bindSlots (bindings : List (String × Slot)) :
    Covers (bindSlots bindings) (bindSlots bindings) :=
  of_memory (fun _ => .ok ())
    (fun memory => bindings.foldl (fun memory entry => memory.bind entry.1 entry.2) memory)
    fun _ => rfl

lemma storeElement (name : String) (index : Int64) (element : Value) :
    Covers (storeElement name index element) (storeElement name index element) := by
  intro loud quiet loud' outcome covers ran
  unfold Eval.storeElement at ran ⊢
  rw [covers.memory]
  cases stored : loud.memory.storeElement name index element with
  | ok memory =>
    rw [stored] at ran
    cases ran
    exact ⟨_, rfl, rfl, covers.input, covers.trace, covers.line, covers.written⟩
  | error fault =>
    rw [stored] at ran
    cases ran
    exact ⟨_, rfl, covers⟩

lemma nextInteger : Covers nextInteger nextInteger := by
  refine of_steps (fun m => m.input.nextInteger.1)
    (fun m => { m with input := m.input.nextInteger.2 }) (fun _ => rfl) ?_
  intro loud quiet covers
  have input : quiet.input = loud.input := covers.input
  refine ⟨by rw [input], covers.memory, ?_, covers.trace, covers.line, covers.written⟩
  exact congrArg (fun input => (Input.nextInteger input).2) input

lemma tracing (record : CallTrace → Except Fault Unit × CallTrace) :
    Covers (tracing record) (tracing record) := by
  intro loud quiet loud' a covers ran
  unfold Eval.tracing at ran ⊢
  rw [covers.trace]
  cases traced : loud.trace with
  | none =>
    rw [traced] at ran
    cases ran
    exact ⟨_, rfl, covers⟩
  | some trace =>
    simp only [traced, Option.some.injEq, Prod.mk.injEq] at ran
    obtain ⟨done, rfl⟩ := ran
    rw [← done]
    exact ⟨_, rfl, covers.memory, covers.input, rfl, covers.line, covers.written⟩

lemma traceCall (function : Function) (slots : List Slot) (line : UInt32) :
    Covers (traceCall function slots line) (traceCall function slots line) :=
  bind (readSlots slots) fun _ => tracing _

lemma traceReturn (function : Function) (result : Value) (slots : List Slot) (line : UInt32) :
    Covers (traceReturn function result slots line) (traceReturn function result slots line) :=
  bind (readSlots slots) fun _ => tracing _

/-! ## What the two sides write -/

/-- An instruction may be written on the loud side, and it is not on the quiet side. -/
lemma emit (here : Cursor) (text : String) :
    Covers (emit here text) (emit (here.inPhase .silent) text) := by
  intro loud quiet loud' a covers ran
  cases ran
  exact ⟨quiet, rfl, covers.write (.emit here text loud) rfl⟩

/-- The call of a block is written on both sides. -/
lemma mark (here : Cursor) (text : String) :
    Covers (mark here text) (mark (here.inPhase .silent) text) := by
  intro loud quiet loud' a covers ran
  cases ran
  refine ⟨_, rfl, covers.memory, covers.input, covers.trace, covers.line, ?_⟩
  simp only [Machine.written, Transcript.mark, Transcript.toList_add]
  exact covers.written.append_right _

/-- Code that is written out can be left out. -/
lemma writeOut (functions : String → Option Function) (fuel : Nat) (here : Cursor)
    (statements : List Stmt) : Covers (writeOut functions fuel here statements) (Pure.pure ()) := by
  intro loud quiet loud' a covers ran
  obtain ⟨writes, line⟩ := Footprint.onlyWrites_of_writeOut functions ran
  exact ⟨quiet, rfl, covers.write writes (line rfl)⟩

/-! ## The walk -/

/-- The walk through live code and silent code side by side. -/
def walk : SlotWalk where
  Rel _ _ _ x y := Covers x y
  Aligned here there := here.phase.executes = true ∧ there = here.inPhase .silent
  Entered here there := here.phase.executes = true ∧ there = here.inPhase .silent
  executes_eq := by
    rintro here _ ⟨runs, rfl⟩
    exact runs
  aligned both := both
  entered_deeper := by
    rintro here _ ⟨runs, rfl⟩
    exact ⟨runs, rfl⟩
  entered_silent := by
    rintro here _ ⟨runs, rfl⟩ _
    exact ⟨rfl, rfl⟩
  of_deeper h := h
  of_silent _ h := h
  outOfFuel := outOfFuel
  pure := pure
  throw fault := throw fault
  bind := bind
  ofExcept := ofExcept
  currentLine := @fun _ _ => currentLine
  setLine := setLine
  lookup := lookup
  slotOf := slotOf
  newSlot := newSlot
  define _ := define
  storeElement _ := storeElement
  nextInteger _ _ := nextInteger
  emit := by
    rintro here _ ⟨runs, rfl⟩ text
    exact emit here text

variable {functions : String → Option Function} {fuel : Nat}

/-- The body of a called function is silent on both sides. -/
lemma runFunction_of (ih : ∀ less < fuel, walk.Everywhere functions less less) {body : Cursor}
    (silent : body.phase = .silent) (function : Function) (slots : List Slot) :
    Covers (runFunction functions fuel body function slots)
      (runFunction functions fuel body function slots) := by
  cases fuel with
  | zero => exact outOfFuel _
  | succ fuel =>
    have inside : walk.Entered body.deeper body.deeper := by
      refine ⟨by rw [Cursor.phase_deeper, silent]; rfl, ?_⟩
      rw [← silent]
      rfl
    have ran := (ih fuel (Nat.lt_succ_self fuel)).stmts inside function.body.stmts
    rw [runFunction]
    refine bind currentLine fun callLine => bind (traceCall _ _ _) fun _ => ?_
    refine bind (pushFrame _ _) fun _ => bind (setLine _) fun _ => bind (bindSlots _) fun _ => ?_
    refine bind ran fun flow => bind currentLine fun returnLine => ?_
    refine bind (traceReturn _ _ _ _) fun _ => bind popFrame fun _ => ?_
    exact bind (setLine _) fun _ => pure _

lemma call_of (ih : ∀ less < fuel, walk.Everywhere functions less less) {here : Cursor}
    (runs : here.phase.executes = true) (site : Call) :
    Covers (call functions fuel here site) (call functions fuel (here.inPhase .silent) site) := by
  have both : walk.Aligned here (here.inPhase .silent) := ⟨runs, rfl⟩
  refine walk.relatesSlots.call_of 0 ih both (fun text => mark _ text) ?_ site
  intro less lt function slots
  exact runFunction_of (fun least lt' => ih least (Nat.lt_trans lt' lt))
    (Cursor.phase_calledBody here) function slots

variable (functions)

/-- Code that runs covers the same code in silence. -/
theorem everywhere (fuel : Nat) : walk.Everywhere functions fuel fuel := by
  refine Walk.everywhere 0 ?_ ?_ fuel
  · rintro fuel ih here _ ⟨runs, rfl⟩ site
    exact call_of ih runs site
  · rintro fuel ih here _ ⟨runs, rfl⟩ _ statements flow
    change Covers (leaveOut functions fuel here statements flow) (Pure.pure flow)
    unfold leaveOut
    split
    · exact skip (writeOut functions fuel here statements) (pure flow)
    · exact pure flow

end Covers

variable (functions : String → Option Function)

/-- **Writing does not change what a program does.**  If statements come to their end live,
they come to the same end in silence: with the same result, memory, input, trace and line.  The
lines that are added in silence are some of those that are added live, in order. -/
theorem silent_of_live {fuel depth : Nat} {statements : List Stmt} {m n : Machine} {flow : Flow}
    (ran : stmts functions fuel ⟨depth, .live⟩ statements m = some (.ok flow, n)) :
    ∃ n', stmts functions fuel ⟨depth, .silent⟩ statements m = some (.ok flow, n') ∧
      n'.memory = n.memory ∧ n'.input = n.input ∧ n'.trace = n.trace ∧ n'.line = n.line ∧
      ∃ loud quiet : List Entry,
        n.transcript.entries.toList = m.transcript.entries.toList ++ loud ∧
        n'.transcript.entries.toList = m.transcript.entries.toList ++ quiet ∧
        quiet.Sublist loud := by
  have both : Covers.walk.Entered ⟨depth, .live⟩ ⟨depth, .silent⟩ := ⟨rfl, rfl⟩
  obtain ⟨n', done, covers⟩ :=
    (Covers.everywhere functions fuel).stmts both statements (.refl m) ran
  have contained := Footprint.contained functions fuel
  have live : Proceeds .live m n := contained.stmts ⟨depth, .live⟩ trivial statements ran
  have silent : Proceeds .silent m n' := contained.stmts ⟨depth, .silent⟩ trivial statements done
  obtain ⟨loud, added⟩ := live.written
  obtain ⟨quiet, added'⟩ := silent.written
  refine ⟨n', done, covers.memory, covers.input, covers.trace, covers.line, loud, quiet,
    added.symm, added'.symm, ?_⟩
  have sublist : n'.written.Sublist n.written := covers.written
  rw [← added, ← added'] at sublist
  exact (List.append_sublist_append_left m.written).mp sublist

/-! ## A loop over a shared slot -/

/-- A function that does nothing. -/
def resting : Function := ⟨⟨"rest", .unknown⟩, [], none, ⟨[], .unknown⟩, .unknown⟩

/-- A loop of two rounds that writes to one name of a slot and reads the other, a branch that
is not taken, and a statement after a return. -/
def winding : List Stmt :=
  [.whileDo (.binary (.var "y" .unknown) (.relational .greater) (.integer 5 .unknown) .unknown)
      ⟨[.assign (.var ⟨"x", .unknown⟩)
          (.binary (.var "x" .unknown) (.arithmetic .sub) (.integer 1 .unknown) .unknown) .unknown,
        .call ⟨⟨"rest", .unknown⟩, [], .unknown⟩], .unknown⟩ .unknown,
   .ifThen (.boolean false .unknown)
      ⟨[.assign (.var ⟨"w", .unknown⟩) (.var "x" .unknown) .unknown], .unknown⟩ none .unknown,
   .giveBack (some (.var "y" .unknown)) .unknown,
   .pen true .unknown]

theorem silent_of_live_winding : ∃ flow n n',
    stmts (fun _ => some resting) 12 ⟨1, .live⟩ winding sharing = some (.ok flow, n) ∧
    flow = some ⟨.integer 5, "y"⟩ ∧
    stmts (fun _ => some resting) 12 ⟨1, .silent⟩ winding sharing = some (.ok flow, n') ∧
    n'.memory = n.memory ∧ n'.input = n.input ∧ n'.trace = n.trace ∧ n'.line = n.line ∧
    n.transcript.length = 10 ∧ n'.transcript.length = 2 := by
  have live : (stmts (fun _ => some resting) 12 ⟨1, .live⟩ winding sharing).map
      (fun stop => (stop.1.toOption, stop.2.transcript.length)) =
      some (some (some ⟨.integer 5, "y"⟩), 10) := by
    decide +kernel
  have silent : (stmts (fun _ => some resting) 12 ⟨1, .silent⟩ winding sharing).map
      (fun stop => stop.2.transcript.length) = some 2 := by
    decide +kernel
  obtain ⟨⟨outcome, n⟩, ran, seen⟩ := Option.map_eq_some_iff.mp live
  obtain ⟨ends, loud⟩ := Prod.mk.inj seen
  cases outcome with
  | error fault => cases ends
  | ok flow =>
    obtain ⟨n', done, memory, input, trace, line, -⟩ := silent_of_live _ ran
    rw [done] at silent
    exact ⟨flow, n, n', ran, Option.some.inj ends, done, memory, input, trace, line, loud,
      Option.some.inj silent⟩

end Eval

end RobotScribe
