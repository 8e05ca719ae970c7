/-
# A function sees nothing of its callers but its arguments

A function is run in two machines side by side.  The frames of its callers may differ in any
way, and so may the numbers of the slots, as long as the slots of the arguments hold the same
values and share places in the same way.  Then the two runs do the same: they come to the same
outcome, write the same lines, leave the same input, and leave the same values in the slots of
the arguments.

The invariant is a pairing of the slots that the two runs have got hold of.  It holds of the
top frames alone, since the names of all other frames are out of sight; when a function has
come to its end its caller's frame is what it was, and the pairs have only become more.
-/
import RobotScribe.Proofs.Calls
import RobotScribe.Proofs.Pairing

namespace RobotScribe

/-! ## Machines side by side -/

namespace Machine

section

variable (base base' : List Entry)

/-- Two machines agree on everything but their frames and lines.  Their stores agree along a
pairing, and since the transcripts were `base` and `base'` the same has been written. -/
structure Agree (pairs : Pairing) (m n : Machine) : Prop where
  store : Store.Agree pairs m.memory.store n.memory.store
  input : n.input = m.input
  trace : n.trace = m.trace
  written : ∃ added, m.written = base ++ added ∧ n.written = base' ++ added

/-- Code finds the same in two machines. -/
structure Alike (pairs : Pairing) (m n : Machine) : Prop extends Agree base base' pairs m n where
  frames : Memory.TopAlike pairs m.memory.frames n.memory.frames
  line : n.line = m.line

end

variable {base base' : List Entry} {pairs pairs' : Pairing} {m n : Machine}

lemma Alike.memory (h : Alike base base' pairs m n) : Memory.Alike pairs m.memory n.memory :=
  ⟨h.frames, h.store⟩

/-- The two machines after the same change of their memories. -/
lemma Alike.withMemory (h : Alike base base' pairs m n) {memory memory' : Memory}
    (alike : Memory.Alike pairs' memory memory') :
    Alike base base' pairs' { m with memory } { n with memory := memory' } :=
  ⟨⟨alike.store, h.input, h.trace, h.written⟩, alike.frames, h.line⟩

/-- The two machines once a line has been added to both transcripts. -/
lemma Alike.add (h : Alike base base' pairs m n) (entry : Entry) :
    Alike base base' pairs { m with transcript := m.transcript.add entry }
      { n with transcript := n.transcript.add entry } := by
  obtain ⟨added, written, written'⟩ := h.written
  have more : ∃ added, m.written ++ [entry] = base ++ added ∧
      n.written ++ [entry] = base' ++ added :=
    ⟨added ++ [entry], by rw [written, List.append_assoc], by rw [written', List.append_assoc]⟩
  refine ⟨⟨h.store, h.input, h.trace, ?_⟩, h.frames, h.line⟩
  simpa only [Machine.written, Transcript.toList_add] using more

lemma Agree.withTrace (h : Agree base base' pairs m n) (trace : Option CallTrace) :
    Agree base base' pairs { m with trace } { n with trace } :=
  ⟨h.store, h.input, rfl, h.written⟩

end Machine

namespace Eval

/-! ## Computations side by side -/

section

variable (base base' : List Entry) {α β γ δ : Type}

/-- Two outcomes with the machines they leave.  After a fault, frames may be left over. -/
inductive Ends (R : Pairing → α → β → Prop) (pairs : Pairing) :
    Except Fault α → Except Fault β → Machine → Machine → Prop where
  | ok {a : α} {b : β} {m n : Machine} (results : R pairs a b)
      (alike : Machine.Alike base base' pairs m n) : Ends R pairs (.ok a) (.ok b) m n
  | error {fault : Fault} {m n : Machine} (agree : Machine.Agree base base' pairs m n)
      (line : n.line = m.line) : Ends R pairs (.error fault) (.error fault) m n

/-- Where code finds the same, one computation comes to whatever the other one comes to.  The
relation of the results may speak of the pairs. -/
def Follows (pairs : Pairing) (R : Pairing → α → β → Prop) (x : Eval α) (y : Eval β) : Prop :=
  ∀ ⦃m n⦄, Machine.Alike base base' pairs m n → ∀ ⦃outcome m'⦄, x m = some (outcome, m') →
    ∃ pairs' outcome' n', y n = some (outcome', n') ∧ pairs ≤ pairs' ∧
      Ends base base' R pairs' outcome outcome' m' n'

/-- The same result on both sides. -/
def Same (_ : Pairing) (a b : α) : Prop := a = b

/-- Paired slots, or none, on both sides. -/
def SameSlot (pairs : Pairing) (x y : Option Slot) : Prop :=
  x = none ∧ y = none ∨ ∃ a b, x = some a ∧ y = some b ∧ pairs a b

/-- Two computations with the same results, however slots are paired. -/
def Mirrors (x y : Eval α) : Prop := ∀ pairs, Follows base base' pairs Same x y

end

variable {base base' : List Entry} {α β γ δ : Type} {pairs pairs' : Pairing}

namespace Follows

variable {R : Pairing → α → β → Prop} {S : Pairing → γ → δ → Prop} {x : Eval α} {y : Eval β}
  {f : α → Eval γ} {g : β → Eval δ}

lemma outOfFuel (y : Eval β) : Follows base base' pairs R outOfFuel y := by
  intro m n _ outcome m' ran
  cases ran

lemma pure {a : α} {b : β} (results : R pairs a b) :
    Follows base base' pairs R (pure a) (pure b) := by
  intro m n alike outcome m' ran
  cases ran
  exact ⟨pairs, _, n, rfl, le_refl _, .ok results alike⟩

lemma throw (fault : Fault) : Follows base base' pairs R (throw fault) (throw fault) := by
  intro m n alike outcome m' ran
  cases ran
  exact ⟨pairs, _, n, rfl, le_refl _, .error alike.toAgree alike.line⟩

lemma bind (first : Follows base base' pairs R x y)
    (second : ∀ pairs' a b, pairs ≤ pairs' → R pairs' a b →
      Follows base base' pairs' S (f a) (g b)) :
    Follows base base' pairs S (x >>= f) (y >>= g) := by
  intro m n alike outcome m' ran
  rcases bind_eq_some.mp ran with ⟨fault, rfl, ran₁⟩ | ⟨a, l, ran₁, ran₂⟩
  · obtain ⟨pairs₁, _, l', done₁, le₁, ends₁⟩ := first alike ran₁
    cases ends₁ with
    | error agree line =>
      exact ⟨pairs₁, _, l', bind_of_error done₁, le₁, .error agree line⟩
  · obtain ⟨pairs₁, _, l', done₁, le₁, ends₁⟩ := first alike ran₁
    cases ends₁ with
    | ok results alike₁ =>
      -- the second part starts with the pairs that the first one has made
      obtain ⟨pairs₂, outcome', n', done₂, le₂, ends₂⟩ :=
        second pairs₁ _ _ le₁ results alike₁ ran₂
      exact ⟨pairs₂, outcome', n', (bind_of_ok done₁).trans done₂, le_trans le₁ le₂, ends₂⟩

/-- The slot of a variable, if it has one. -/
lemma slotOf (name : String) :
    Follows base base' pairs SameSlot (slotOf name) (slotOf name) := by
  intro m n alike outcome m' ran
  cases ran
  exact ⟨pairs, _, n, rfl, le_refl _, .ok (alike.memory.cases name) alike⟩

/-- The slots that are made are a new pair. -/
lemma newSlot (value : Value) :
    Follows base base' pairs (fun pairs a b => pairs a b) (newSlot value) (newSlot value) := by
  intro m n alike outcome m' ran
  cases ran
  have le := pairs.le_adding m.memory.store.next n.memory.store.next
  have new := pairs.adding_self m.memory.store.next n.memory.store.next
  exact ⟨_, _, _, rfl, le, .ok new (alike.withMemory (alike.memory.alloc value))⟩

/-- A first part with the same result on both sides. -/
lemma bind_same {x y : Eval α} {f : α → Eval γ} {g : α → Eval δ} (first : Mirrors base base' x y)
    (second : ∀ pairs' a, pairs ≤ pairs' → Follows base base' pairs' S (f a) (g a)) :
    Follows base base' pairs S (x >>= f) (y >>= g) := by
  refine bind (first pairs) fun pairs' a b le same => ?_
  cases same
  exact second pairs' a le

end Follows

namespace Mirrors

/-- An operation that comes to the same on both sides, and leaves the machines alike. -/
lemma of_step {x y : Eval α}
    (step : ∀ ⦃pairs m n⦄, Machine.Alike base base' pairs m n → ∃ pairs' outcome m' n',
      x m = some (outcome, m') ∧ y n = some (outcome, n') ∧ pairs ≤ pairs' ∧
        Machine.Alike base base' pairs' m' n') : Mirrors base base' x y := by
  intro pairs m n alike outcome m' ran
  obtain ⟨pairs', common, k, k', done, done', le, alike'⟩ := step alike
  rw [done] at ran
  cases ran
  refine ⟨pairs', outcome, k', done', le, ?_⟩
  cases outcome with
  | ok a => exact .ok rfl alike'
  | error fault => exact .error alike'.toAgree alike'.line

/-- An operation that only reads what the two sides have in common. -/
lemma of_reads {x : Eval α} (result : Machine → Except Fault α)
    (reads : ∀ m, x m = some (result m, m))
    (common : ∀ ⦃pairs m n⦄, Machine.Alike base base' pairs m n → result n = result m) :
    Mirrors base base' x x := by
  refine of_step fun pairs m n alike => ⟨pairs, _, m, n, reads m, ?_, le_refl _, alike⟩
  rw [reads, common alike]

lemma bind {x y : Eval α} {f g : α → Eval β} (first : Mirrors base base' x y)
    (second : ∀ a, Mirrors base base' (f a) (g a)) :
    Mirrors base base' (x >>= f) (y >>= g) :=
  fun _ => .bind_same first fun pairs' a _ => second a pairs'

/-! ## The operations -/

lemma pure (a : α) : Mirrors base base' (pure a) (pure a) := fun _ => .pure rfl

lemma ofExcept (outcome : Except Fault α) :
    Mirrors base base' (ofExcept outcome) (ofExcept outcome) :=
  of_reads (fun _ => outcome) (fun _ => rfl) fun _ _ _ _ => rfl

lemma currentLine : Mirrors base base' currentLine currentLine :=
  of_reads (fun m => .ok m.line) (fun _ => rfl) fun _ _ _ alike => by rw [alike.line]

lemma lookup (name : String) : Mirrors base base' (lookup name) (lookup name) :=
  of_reads (fun m => .ok (m.memory.get name)) (fun _ => rfl) fun _ _ _ alike => by
    rw [alike.memory.get_eq name]

lemma setLine (line : UInt32) : Mirrors base base' (setLine line) (setLine line) := by
  refine of_step fun pairs m n alike => ⟨pairs, _, _, _, rfl, rfl, le_refl _, ?_⟩
  exact ⟨⟨alike.store, alike.input, alike.trace, alike.written⟩, alike.frames, rfl⟩

lemma define (name : String) (value : Value) :
    Mirrors base base' (define name value) (define name value) := by
  refine of_step fun pairs m n alike => ?_
  obtain ⟨pairs', le, memory⟩ := alike.memory.define name value
  exact ⟨pairs', _, _, _, rfl, rfl, le, alike.withMemory memory⟩

lemma storeElement (name : String) (index : Int64) (element : Value) :
    Mirrors base base' (storeElement name index element) (storeElement name index element) := by
  refine of_step fun pairs m n alike => ?_
  unfold Eval.storeElement
  rcases alike.memory.storeElement name index element with
    ⟨fault, stored, stored'⟩ | ⟨memory, memory', pairs', stored, stored', le, alike'⟩
  · rw [stored, stored']
    exact ⟨pairs, _, _, _, rfl, rfl, le_refl _, alike⟩
  · rw [stored, stored']
    exact ⟨pairs', _, _, _, rfl, rfl, le, alike.withMemory alike'⟩

lemma nextInteger : Mirrors base base' nextInteger nextInteger := by
  refine of_step fun pairs m n alike => ?_
  unfold Eval.nextInteger
  rw [alike.input]
  refine ⟨pairs, _, _, _, rfl, rfl, le_refl _, ?_⟩
  exact ⟨⟨alike.store, rfl, alike.trace, alike.written⟩, alike.frames, alike.line⟩

lemma emit (here : Cursor) (text : String) :
    Mirrors base base' (emit here text) (emit here text) := by
  refine of_step fun pairs m n alike => ⟨pairs, _, _, _, rfl, rfl, le_refl _, ?_⟩
  unfold Transcript.emit
  split
  · exact alike.add _
  · exact alike

lemma mark (here : Cursor) (text : String) :
    Mirrors base base' (mark here text) (mark here text) :=
  of_step fun pairs _ _ alike => ⟨pairs, _, _, _, rfl, rfl, le_refl _, alike.add _⟩

/-! ## The walk -/

variable (base base') in
/-- The walk through the same code in two machines. -/
def walk : LineWalk where
  Rel _ _ _ x y := Mirrors base base' x y
  Aligned here there := there = here
  Entered here there := there = here
  executes_eq same := by rw [same]
  aligned same := same
  entered_deeper same := by rw [same]
  entered_silent same _ := by rw [same]
  of_deeper h := h
  of_silent _ h := h
  outOfFuel y := fun _ => .outOfFuel y
  pure := pure
  throw fault := fun _ => .throw fault
  bind := bind
  ofExcept := ofExcept
  currentLine := @fun _ _ => currentLine
  setLine := setLine
  lookup := lookup
  define _ := define
  storeElement _ := storeElement
  nextInteger _ _ := nextInteger
  emit same text := by
    cases same
    exact emit _ text

end Mirrors

/-! ## Entering and leaving a function -/

section

variable {function : Function} {slots slots' : List Slot} {m n m' : Machine}

/-- The same is recorded if the two traces are told the same. -/
lemma tracing_follows {record record' : CallTrace → Except Fault Unit × CallTrace}
    {outcome : Except Fault Unit} (same : n.trace = m.trace)
    (records : ∀ trace, m.trace = some trace → record' trace = record trace)
    (ran : tracing record m = some (outcome, m')) :
    ∃ trace, m' = { m with trace } ∧ tracing record' n = some (outcome, { n with trace }) := by
  unfold tracing at ran ⊢
  rw [same]
  cases kept : m.trace with
  | none =>
    rw [kept] at ran
    cases ran
    refine ⟨m.trace, rfl, ?_⟩
    rw [← same]
  | some trace =>
    rw [kept] at ran
    cases ran
    refine ⟨_, rfl, ?_⟩
    rw [← records trace kept]

/-- A function that is given paired slots starts alike.  The line that it is called from
matters only to a trace. -/
lemma enter_follows {outcome : Except Fault Unit} (agree : Machine.Agree base base' pairs m n)
    (line : m.trace = none ∨ n.line = m.line) (paired : List.Forall₂ pairs slots slots')
    (ran : enter function slots m.line m = some (outcome, m')) :
    ∃ n', enter function slots' n.line n = some (outcome, n') ∧
      Ends base base' Same pairs outcome outcome m' n' := by
  have records : ∀ trace, m.trace = some trace →
      trace.call function (slots'.map n.memory.store.read) n.line =
        trace.call function (slots.map m.memory.store.read) m.line := by
    intro trace kept
    rcases line with none | same
    · rw [none] at kept
      cases kept
    · rw [same, agree.store.map_read paired]
  rcases bind_eq_some.mp ran with ⟨fault, rfl, traced⟩ | ⟨⟨⟩, l, traced, -⟩
  · have same : n.line = m.line := by
      rcases line with none | same
      · -- without a trace nothing stops a function from being entered
        change tracing _ m = _ at traced
        rw [tracing, none] at traced
        cases traced
      · exact same
    obtain ⟨trace, rfl, traced'⟩ := tracing_follows agree.trace records traced
    exact ⟨_, bind_of_error traced', .error (agree.withTrace trace) same⟩
  · obtain ⟨trace, rfl, traced'⟩ := tracing_follows agree.trace records traced
    rw [Footprint.enter_of_traced traced] at ran
    cases ran
    refine ⟨_, Footprint.enter_of_traced traced', .ok rfl ?_⟩
    exact ⟨⟨agree.store, agree.input, rfl, agree.written⟩,
      (Memory.Alike.enter agree.store paired _).frames, rfl⟩

/-- Leaving a function from machines that are alike. -/
lemma leave_follows {callLine : UInt32} (callLine' : UInt32) {result : Value}
    {outcome : Except Fault Value} (alike : Machine.Alike base base' pairs m n)
    (paired : List.Forall₂ pairs slots slots')
    (ran : leave function slots callLine result m = some (outcome, m')) :
    ∃ n', leave function slots' callLine' result n = some (outcome, n') ∧
      Machine.Agree base base' pairs m' n' ∧
      ∀ fault, outcome = .error fault → n'.line = m'.line := by
  have records : ∀ trace, m.trace = some trace →
      trace.giveBack function result (slots'.map n.memory.store.read) n.line =
        trace.giveBack function result (slots.map m.memory.store.read) m.line := by
    intro trace _
    rw [alike.line, alike.store.map_read paired]
  unfold leave at ran ⊢
  rw [currentLine_bind] at ran ⊢
  rcases bind_eq_some.mp ran with ⟨fault, rfl, traced⟩ | ⟨⟨⟩, l, traced, left⟩
  · obtain ⟨trace, rfl, traced'⟩ := tracing_follows alike.trace records traced
    exact ⟨_, bind_of_error traced', alike.withTrace trace, fun _ _ => alike.line⟩
  · obtain ⟨trace, rfl, traced'⟩ := tracing_follows alike.trace records traced
    cases left
    refine ⟨_, bind_of_ok traced', ?_, by simp⟩
    exact ⟨alike.store, alike.input, rfl, alike.written⟩

/-- A function that comes to its end leaves the frames as they were, and goes back to the line
of its call. -/
lemma returns_of_runFunction {functions : String → Option Function} {fuel : Nat} {body : Cursor}
    {value : Value}
    (ran : runFunction functions fuel body function slots m = some (.ok value, m')) :
    m'.memory.frames = m.memory.frames ∧ m'.line = m.line := by
  obtain ⟨_, _, _, ended, -, -, -, memory⟩ := runFunction_eq_ok ran
  refine ⟨by rw [memory], ?_⟩
  cases fuel with
  | zero => cases ran
  | succ fuel =>
    rw [runFunction_succ] at ran
    obtain ⟨callLine, _, now, ran⟩ := bind_eq_ok.mp ran
    cases now
    obtain ⟨_, _, -, ran⟩ := bind_eq_ok.mp ran
    obtain ⟨_, _, -, left⟩ := bind_eq_ok.mp ran
    obtain ⟨-, trace, rfl⟩ := Footprint.leave_eq_ok left
    rfl

end

/-! ## Calls -/

namespace Mirrors

variable {functions : String → Option Function} {fuel : Nat} {here body : Cursor}
  {function : Function} {slots slots' : List Slot} {m n m' : Machine}

lemma takingBack_follows {body' : Eval Unit} (h : Mirrors base base' body' body')
    (alike : Machine.Alike base base' pairs m n) {outcome : Except Fault Unit}
    (ran : takingBack body' m = some (outcome, m')) :
    ∃ n', takingBack body' n = some (outcome, n') ∧
      (∃ added, m'.written = base ++ added ∧ n'.written = base' ++ added) ∧
      n'.line = m'.line := by
  obtain ⟨l, walked, rfl⟩ := takingBack_eq_some.mp ran
  obtain ⟨pairs', _, l', done, -, ends⟩ := h pairs alike walked
  cases ends with
  | ok same alike' =>
    cases same
    exact ⟨_, takingBack_eq_some.mpr ⟨l', done, rfl⟩, alike'.written, alike.line⟩
  | error agree line =>
    exact ⟨_, takingBack_eq_some.mpr ⟨l', done, rfl⟩, agree.written, line⟩

section

variable (ih : ∀ less < fuel, (walk base base').Everywhere functions less less)
include ih

/-- A function that is given paired slots does the same, whatever its callers' frames are. -/
lemma runFunction_of {outcome : Except Fault Value} (agree : Machine.Agree base base' pairs m n)
    (line : m.trace = none ∨ n.line = m.line) (paired : List.Forall₂ pairs slots slots')
    (ran : runFunction functions fuel body function slots m = some (outcome, m')) :
    ∃ pairs' n', runFunction functions fuel body function slots' n = some (outcome, n') ∧
      pairs ≤ pairs' ∧ Machine.Agree base base' pairs' m' n' ∧
      ∀ fault, outcome = .error fault → n'.line = m'.line := by
  cases fuel with
  | zero => cases ran
  | succ fuel =>
    have inside := (ih fuel (Nat.lt_succ_self fuel)).stmts (rfl : body.deeper = body.deeper)
      function.body.stmts
    rw [runFunction_succ] at ran ⊢
    rw [currentLine_bind] at ran ⊢
    -- a fault may stop the function at its entry, in its body, or when its return is recorded
    rcases bind_eq_some.mp ran with ⟨fault, rfl, entered⟩ | ⟨⟨⟩, k, entered, ran⟩
    · obtain ⟨k', entered', ends⟩ := enter_follows agree line paired entered
      cases ends with
      | error agree' line' =>
        exact ⟨pairs, k', bind_of_error entered', le_refl _, agree', fun _ _ => line'⟩
    obtain ⟨k', entered', ends⟩ := enter_follows agree line paired entered
    cases ends with
    | ok _ alike =>
      rw [bind_of_ok entered']
      rcases bind_eq_some.mp ran with ⟨fault, rfl, stopped⟩ | ⟨flow, l, done, left⟩
      · obtain ⟨pairs', _, l', stopped', le, ends⟩ := inside pairs alike stopped
        cases ends with
        | error agree' line' =>
          exact ⟨pairs', l', bind_of_error stopped', le, agree', fun _ _ => line'⟩
      · obtain ⟨pairs', _, l', done', le, ends⟩ := inside pairs alike done
        cases ends with
        | ok same alike' =>
          cases same
          obtain ⟨n', left', agree', lines⟩ := leave_follows n.line alike' (paired.imp le) left
          exact ⟨pairs', n', (bind_of_ok done').trans left', le, agree', lines⟩

/-- A call from machines that are alike leaves them alike. -/
lemma runFunction_follows (paired : List.Forall₂ pairs slots slots') :
    Follows base base' pairs Same (runFunction functions fuel body function slots)
      (runFunction functions fuel body function slots') := by
  intro m n alike outcome m' ran
  obtain ⟨pairs', n', done, le, agree, line⟩ :=
    runFunction_of ih alike.toAgree (Or.inr alike.line) paired ran
  refine ⟨pairs', outcome, n', done, le, ?_⟩
  cases outcome with
  | error fault => exact .error agree (line fault rfl)
  | ok value =>
    -- both callers find their own frames again, and know no more names than before
    obtain ⟨frames, back⟩ := returns_of_runFunction ran
    obtain ⟨frames', back'⟩ := returns_of_runFunction done
    refine .ok rfl ⟨agree, ?_, ?_⟩
    · rw [frames, frames']
      exact alike.frames.mono le
    · rw [back, back', alike.line]

lemma argument_follows (param : Param) (arg : Expr) :
    Follows base base' pairs (fun pairs a b => pairs a b)
      (argument functions fuel here function param arg)
      (argument functions fuel here function param arg) := by
  cases fuel with
  | zero => exact .outOfFuel _
  | succ fuel =>
    have evaluated := (ih fuel (Nat.lt_succ_self fuel)).expr (rfl : here = here) arg
    rw [argument]
    split
    · cases arg.variableName? with
      | none => exact .throw _
      | some name =>
        refine .bind (.slotOf name) fun pairs' x y le found => ?_
        rcases found with ⟨rfl, rfl⟩ | ⟨a, b, rfl, rfl, pair⟩
        -- dry code makes up a slot for a variable that is missing, which is a new pair
        · dsimp only
          split
          · exact Follows.newSlot _
          · exact .throw _
        · exact .pure pair
    · exact .bind_same evaluated fun pairs' value le => Follows.newSlot value

lemma arguments_follows (pairs : Pairing) (params : List Param) (args : List Expr) :
    Follows base base' pairs (fun pairs => List.Forall₂ pairs)
      (arguments functions fuel here function params args)
      (arguments functions fuel here function params args) := by
  induction params generalizing fuel args pairs with
  | nil =>
    cases fuel with
    | zero => exact .outOfFuel _
    | succ fuel =>
      unfold arguments
      exact .pure .nil
  | cons param params rest =>
    cases fuel with
    | zero => exact .outOfFuel _
    | succ fuel =>
      have lesser : ∀ less < fuel, (walk base base').Everywhere functions less less :=
        fun less lt => ih less (Nat.lt_succ_of_lt lt)
      unfold arguments
      cases args with
      | nil => exact .pure .nil
      | cons arg args =>
        refine .bind (argument_follows lesser param arg) fun pairs₁ a b _ pair => ?_
        refine .bind (rest lesser pairs₁ args) fun pairs₂ slots slots' le paired => ?_
        exact .pure (.cons (le _ _ pair) paired)

lemma call_of (site : Call) :
    Mirrors base base' (call functions fuel here site) (call functions fuel here site) := by
  cases fuel with
  | zero => exact fun _ => .outOfFuel _
  | succ fuel =>
    have lesser : ∀ less < fuel, (walk base base').Everywhere functions less less :=
      fun less lt => ih less (Nat.lt_succ_of_lt lt)
    cases declared : functions site.name.name with
    | none =>
      rw [call_of_undeclared functions declared]
      exact fun _ => .throw _
    | some function =>
      rw [call_of_declared functions declared]
      split
      · exact fun _ => .throw _
      · intro pairs
        refine .bind (arguments_follows lesser pairs function.params site.args) ?_
        intro pairs₁ slots slots' _ paired
        refine .bind_same (mark here _) fun pairs₂ _ le => ?_
        split
        · refine .bind (runFunction_follows lesser (paired.imp le)) fun pairs₃ a b _ same => ?_
          cases same
          exact .pure rfl
        · exact .pure rfl

/-- Code that is written out leaves all pairs as they were, whatever it did on the way. -/
lemma writeOut_of (statements : List Stmt) :
    Mirrors base base' (writeOut functions fuel here statements)
      (writeOut functions fuel here statements) := by
  intro pairs m n alike outcome m' ran
  cases fuel with
  | zero => cases ran
  | succ fuel =>
    have walked := (ih fuel (Nat.lt_succ_self fuel)).stmts
      (rfl : here.inPhase .dry = here.inPhase .dry) statements
    obtain ⟨n', done, written, line⟩ :=
      takingBack_follows (bind walked fun _ => pure ()) alike ran
    -- the pairs made on the way are dropped, since the memories are those of before
    have writes := (Footprint.onlyWrites_of_writeOut functions ran).1
    have done' : writeOut functions (fuel + 1) here statements n = some (outcome, n') := done
    have writes' := (Footprint.onlyWrites_of_writeOut functions done').1
    have alike' : Machine.Alike base base' pairs m' n' := by
      refine ⟨⟨?_, ?_, ?_, written⟩, ?_, line⟩
      · rw [writes.memory, writes'.memory]
        exact alike.store
      · rw [writes.input, writes'.input, alike.input]
      · rw [writes.trace, writes'.trace, alike.trace]
      · rw [writes.memory, writes'.memory]
        exact alike.frames
    refine ⟨pairs, outcome, n', done, le_refl _, ?_⟩
    cases outcome with
    | ok => exact .ok rfl alike'
    | error fault => exact .error alike'.toAgree line

end

variable (base base' functions)

/-- **Code does the same in machines that are alike.** -/
theorem everywhere (fuel : Nat) : (walk base base').Everywhere functions fuel fuel := by
  refine Walk.everywhere 0 ?_ ?_ fuel
  · rintro fuel ih _ here rfl site
    exact call_of ih site
  · rintro fuel ih _ here rfl _ statements flow
    change Mirrors base base' (leaveOut functions fuel here statements flow)
      (leaveOut functions fuel here statements flow)
    unfold leaveOut
    split
    · exact bind (writeOut_of ih statements) fun _ => pure flow
    · exact pure flow

end Mirrors

/-! ## The theorem -/

/-- **A function sees nothing of its callers but its arguments.**  Let it run in two machines
that have the same line, input and trace, on slots that hold the same values and share places
in the same way.  The frames, and all other slots, may be different.  If it comes to an end in
the first machine, it comes to an end in the second one, with the same result, or with the same
fault at the same line.  It writes the same lines, leaves the same input and the same trace, and
leaves the same values in the slots. -/
theorem callee_sees_only_arguments (functions : String → Option Function) {fuel : Nat}
    {body : Cursor} {function : Function} {slots slots' : List Slot} {m n m' : Machine}
    {outcome : Except Fault Value} (line : n.line = m.line) (input : n.input = m.input)
    (trace : n.trace = m.trace) (made : ∀ slot ∈ slots, m.memory.store.Has slot)
    (made' : ∀ slot ∈ slots', n.memory.store.Has slot)
    (values : slots.map m.memory.store.read = slots'.map n.memory.store.read)
    (sharing : SameSharing slots slots')
    (ran : runFunction functions fuel body function slots m = some (outcome, m')) :
    ∃ n', runFunction functions fuel body function slots' n = some (outcome, n') ∧
      n'.line = m'.line ∧
      (∃ added : List Entry,
        m'.transcript.entries.toList = m.transcript.entries.toList ++ added ∧
        n'.transcript.entries.toList = n.transcript.entries.toList ++ added) ∧
      n'.input = m'.input ∧
      n'.trace = m'.trace ∧
      slots.map m'.memory.store.read = slots'.map n'.memory.store.read := by
  have length : slots.length = slots'.length := by
    simpa only [List.length_map] using congrArg List.length values
  have paired := Pairing.forall₂_ofLists length
  have agree : Machine.Agree m.written n.written (.ofLists slots slots') m n :=
    ⟨.ofLists made made' values sharing, input, trace, [], by simp, by simp⟩
  obtain ⟨pairs', n', done, le, agree', faultLine⟩ :=
    Mirrors.runFunction_of (fun less _ => Mirrors.everywhere _ _ functions less) agree
      (Or.inr line) paired ran
  refine ⟨n', done, ?_, agree'.written, agree'.input, agree'.trace,
    agree'.store.map_read (paired.imp le)⟩
  cases outcome with
  | error fault => exact faultLine fault rfl
  | ok value =>
    rw [(returns_of_runFunction ran).2, (returns_of_runFunction done).2, line]

/-! ## The same call from two places -/

/-- A function that doubles the variable it is given. -/
def doubling : Function where
  name := ⟨"double", .unknown⟩
  params := [.byReference ⟨"p", .unknown⟩]
  returns := none
  body := ⟨[.assign (.var ⟨"p", .unknown⟩)
    (.binary (.var "p" .unknown) (.arithmetic .add) (.var "p" .unknown) .unknown) .unknown],
    .unknown⟩
  span := .ofLine 8

/-- A function of two reference parameters and a value, which reads a number, passes one of its
parameters on, and has a variable of its own. -/
def mingling : Function where
  name := ⟨"mingle", .unknown⟩
  params := [.byReference ⟨"a", .unknown⟩, .byReference ⟨"b", .unknown⟩, .byValue ⟨"c", .unknown⟩]
  returns := some .integer
  body := ⟨[.read ⟨"z", .unknown⟩ .unknown,
    .assign (.var ⟨"a", .unknown⟩)
      (.binary (.var "b" .unknown) (.arithmetic .add) (.var "z" .unknown) .unknown) .unknown,
    .call ⟨⟨"double", .unknown⟩, [.var "b" .unknown], .unknown⟩,
    .giveBack (some (.binary (.var "a" .unknown) (.arithmetic .sub) (.var "c" .unknown) .unknown))
      .unknown], .unknown⟩
  span := .ofLine 4

/-- A main function that has a variable and the slot of an argument. -/
def callingFirst : Machine where
  memory := ⟨[⟨"main", 0, [("x", ⟨0⟩)]⟩], ⟨#[.integer 3, .integer 1]⟩⟩
  transcript := .empty
  input := ⟨["4"], []⟩
  trace := none
  line := 2

/-- A function with more variables, one of which is called as a variable of the callee is, above
a main function. -/
def callingSecond : Machine where
  memory := ⟨[⟨"f", 1, [("z", ⟨1⟩), ("y", ⟨2⟩)]⟩, ⟨"main", 0, [("z", ⟨2⟩)]⟩],
    ⟨#[.integer 1, .boolean true, .integer 3]⟩⟩
  transcript := ⟨#[.label "MainProgram:"]⟩
  input := ⟨["4"], []⟩
  trace := none
  line := 2

theorem callee_sees_only_arguments_mingling : ∃ outcome m' n',
    runFunction (fun _ => some doubling) 16 ⟨0, .silent⟩ mingling [⟨0⟩, ⟨0⟩, ⟨1⟩] callingFirst =
      some (outcome, m') ∧
    outcome.toOption.map Value.payload = some (.integer 13) ∧
    (m'.memory.get? "x").map Value.payload = some (.integer 14) ∧
    runFunction (fun _ => some doubling) 16 ⟨0, .silent⟩ mingling [⟨2⟩, ⟨2⟩, ⟨0⟩] callingSecond =
      some (outcome, n') ∧
    n'.line = m'.line ∧ n'.input = m'.input ∧
    [⟨0⟩, ⟨0⟩, ⟨1⟩].map m'.memory.store.read = [⟨2⟩, ⟨2⟩, ⟨0⟩].map n'.memory.store.read := by
  have returns :
      (runFunction (fun _ => some doubling) 16 ⟨0, .silent⟩ mingling [⟨0⟩, ⟨0⟩, ⟨1⟩]
        callingFirst).map (fun stop =>
          (stop.1.toOption.map Value.payload, (stop.2.memory.get? "x").map Value.payload)) =
      some (some (.integer 13), some (.integer 14)) := by
    decide +kernel
  have sharing : SameSharing [⟨0⟩, ⟨0⟩, ⟨1⟩] [⟨2⟩, ⟨2⟩, ⟨0⟩] := by
    rintro (_ | _ | _ | i) (_ | _ | _ | j) <;> simp
  obtain ⟨⟨outcome, m'⟩, ran, seen⟩ := Option.map_eq_some_iff.mp returns
  obtain ⟨result, doubled⟩ := Prod.mk.inj seen
  obtain ⟨n', done, line, -, input, -, values⟩ :=
    callee_sees_only_arguments (m := callingFirst) (n := callingSecond) _ rfl rfl rfl
      (by simp [callingFirst, Store.Has]) (by simp [callingSecond, Store.Has]) rfl sharing ran
  exact ⟨outcome, m', n', ran, result, doubled, done, line, input, values⟩

end Eval

end RobotScribe
