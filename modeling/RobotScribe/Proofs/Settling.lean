/-
# Computations that settle

Of a piece of code three things may be certain although nothing is known about the values that it
computes: that it comes to an end, which faults can stop it, and which lines it writes.  A
computation for which they are settles.  This file has the laws by which what is put together from
such computations settles, too.
-/
import RobotScribe.Proofs.Faults
import RobotScribe.Proofs.Footprint

namespace RobotScribe

open Eval

/-! ## Computations that settle -/

/-- A computation that comes to an end if it has enough fuel, that only certain faults or a value
of a wrong kind can stop, and that otherwise has added lines and comes to a result as a property
says. -/
structure Settles (stops : Fault → Prop) (enough : Prop) {α : Type}
    (P : List Entry → α → Prop) (x : Eval α) : Prop where
  ends : enough → ∀ m, ∃ stop, x m = some stop
  stopped : ∀ ⦃m fault n⦄, x m = some (.error fault, n) → fault.WrongKind ∨ stops fault
  done : ∀ ⦃m a n⦄, x m = some (.ok a, n) →
    ∃ added, n.written = m.written ++ added ∧ P added a

namespace Settles

variable {stops stops' : Fault → Prop} {enough enough' : Prop} {α β : Type}
  {P P' : List Entry → α → Prop} {Q : List Entry → β → Prop} {x : Eval α} {f : α → Eval β}

lemma outOfFuel (short : ¬ enough) : Settles stops enough P outOfFuel := by
  refine ⟨fun h => absurd h short, ?_, ?_⟩
  · intro m fault n ran
    cases ran
  · intro m a n ran
    cases ran

/-- More faults may be allowed, more fuel asked for, and less said of the result. -/
lemma mono (h : Settles stops enough P x) (more : ∀ fault, stops fault → stops' fault)
    (less : enough' → enough) (le : ∀ lines a, P lines a → P' lines a) :
    Settles stops' enough' P' x := by
  refine ⟨h.ends ∘ less, fun m fault n ran => ?_, fun m a n ran => ?_⟩
  · exact (h.stopped ran).imp_right (more fault)
  · obtain ⟨added, written, property⟩ := h.done ran
    exact ⟨added, written, le added a property⟩

/-- More faults may be allowed, and more fuel asked for. -/
lemma within (h : Settles stops enough P x) (more : ∀ fault, stops fault → stops' fault)
    (less : enough' → enough) : Settles stops' enough' P x :=
  h.mono more less fun _ _ property => property

lemma le (h : Settles stops enough P x) (less : enough' → enough) : Settles stops enough' P x :=
  h.within (fun _ stop => stop) less

/-- A step that cannot fail. -/
lemma of_step (result : Machine → α) (step : Machine → Machine)
    (steps : ∀ m, x m = some (.ok (result m), step m))
    (adds : ∀ m, ∃ added, (step m).written = m.written ++ added ∧ P added (result m)) :
    Settles stops enough P x := by
  refine ⟨fun _ m => ⟨_, steps m⟩, ?_, ?_⟩
  · intro m fault n ran
    rw [steps] at ran
    cases ran
  · intro m a n ran
    rw [steps] at ran
    cases ran
    exact adds m

lemma pure {a : α} (h : P [] a) : Settles stops enough P (pure a) :=
  of_step (fun _ => a) id (fun _ => rfl) fun m => ⟨[], by simp, h⟩

lemma throw {fault : Fault} (stop : fault.WrongKind ∨ stops fault) :
    Settles stops enough P (throw fault) := by
  refine ⟨fun _ m => ⟨_, rfl⟩, ?_, ?_⟩
  · intro m other n ran
    cases ran
    exact stop
  · intro m a n ran
    cases ran

lemma ofExcept {outcome : Except Fault α}
    (kinds : ∀ fault, outcome = .error fault → fault.WrongKind)
    (h : ∀ a, outcome = .ok a → P [] a) : Settles stops enough P (Eval.ofExcept outcome) := by
  cases outcome with
  | ok a => exact pure (h a rfl)
  | error fault => exact throw (Or.inl (kinds fault rfl))

/-- What an operation on values refuses is answered by a stand-in, unless a kind is wrong. -/
lemma orStandIn {here : Cursor} (dry : here.phase = .dry) {fallback : α}
    {outcome : Except Fault α} (faults : ∀ fault, outcome = .error fault → fault.OfValues)
    (stands : P [] fallback) (h : ∀ a, outcome = .ok a → P [] a) :
    Settles stops enough P (Eval.ofExcept (orStandIn here.phase fallback outcome)) := by
  rw [dry]
  cases outcome with
  | ok a => exact pure (h a rfl)
  | error fault =>
    cases faults fault rfl with
    | data comes =>
      simp only [Eval.orStandIn, comes, and_self, if_true]
      exact pure stands
    | kind wrong =>
      obtain ⟨expected, found, rfl⟩ := wrong
      exact throw (Or.inl ⟨expected, found, rfl⟩)

lemma bind (first : Settles stops enough P x)
    (second : ∀ a lines, P lines a →
      Settles stops enough (fun lines' b => Q (lines ++ lines') b) (f a)) :
    Settles stops enough Q (x >>= f) := by
  refine ⟨fun h m => ?_, fun m fault n ran => ?_, fun m b n ran => ?_⟩
  · obtain ⟨⟨fault | a, l⟩, ran⟩ := first.ends h m
    · exact ⟨_, bind_of_error ran⟩
    · obtain ⟨lines, -, property⟩ := first.done ran
      obtain ⟨stop, ran'⟩ := (second a lines property).ends h l
      exact ⟨stop, (bind_of_ok ran).trans ran'⟩
  · rcases bind_eq_error.mp ran with ran | ⟨a, l, ran, ran'⟩
    · exact first.stopped ran
    · obtain ⟨lines, -, property⟩ := first.done ran
      exact (second a lines property).stopped ran'
  · obtain ⟨a, l, ran, ran'⟩ := bind_eq_ok.mp ran
    obtain ⟨lines, written, property⟩ := first.done ran
    obtain ⟨lines', written', property'⟩ := (second a lines property).done ran'
    exact ⟨lines ++ lines', by rw [written', written, List.append_assoc], property'⟩

/-- A first step that cannot fail and adds no line. -/
lemma after (result : Machine → α) (step : Machine → Machine)
    (steps : ∀ m, x m = some (.ok (result m), step m))
    (adds : ∀ m, (step m).written = m.written)
    (second : ∀ a, Settles stops enough Q (f a)) : Settles stops enough Q (x >>= f) := by
  have first : Settles stops enough (fun lines (_ : α) => lines = []) x :=
    of_step result step steps fun m => ⟨[], by rw [adds, List.append_nil], rfl⟩
  refine bind first ?_
  rintro a _ rfl
  exact second a

/-- A first test, which leaves the machine alone. -/
lemma after_test {outcome : Except Fault α}
    (kinds : ∀ fault, outcome = .error fault → fault.WrongKind)
    (second : ∀ a, outcome = .ok a → Settles stops enough Q (f a)) :
    Settles stops enough Q (Eval.ofExcept outcome >>= f) := by
  have first : Settles stops enough (fun lines a => lines = [] ∧ outcome = .ok a)
      (Eval.ofExcept outcome) := ofExcept kinds fun a passed => ⟨rfl, passed⟩
  refine bind first ?_
  rintro a _ ⟨rfl, passed⟩
  exact second a passed

/-- A first test whose faults from data are answered by a stand-in. -/
lemma after_standIn {here : Cursor} (dry : here.phase = .dry) {fallback : α}
    {outcome : Except Fault α} (faults : ∀ fault, outcome = .error fault → fault.OfValues)
    (second : ∀ a, Settles stops enough Q (f a)) :
    Settles stops enough Q
      (Eval.ofExcept (Eval.orStandIn here.phase fallback outcome) >>= f) := by
  have first : Settles stops enough (fun lines (_ : α) => lines = [])
      (Eval.ofExcept (Eval.orStandIn here.phase fallback outcome)) :=
    orStandIn dry faults rfl fun _ _ => rfl
  refine bind first ?_
  rintro a _ rfl
  exact second a

lemma after_currentLine {f : UInt32 → Eval β}
    (second : ∀ line, Settles stops enough Q (f line)) :
    Settles stops enough Q (Eval.currentLine >>= f) :=
  after (fun m => m.line) id (fun _ => rfl) (fun _ => rfl) second

lemma after_setLine {f : Unit → Eval β} {line : UInt32}
    (second : Settles stops enough Q (f ())) :
    Settles stops enough Q (Eval.setLine line >>= f) :=
  after (fun _ => ()) (fun m => { m with line }) (fun _ => rfl) (fun _ => rfl) fun _ => second

lemma after_enterSpan {f : Unit → Eval β} {span : Span}
    (second : Settles stops enough Q (f ())) :
    Settles stops enough Q (Eval.enterSpan span >>= f) := by
  unfold Eval.enterSpan
  split
  · exact after_setLine second
  · exact bind (P := fun lines _ => lines = []) (pure rfl) (by rintro ⟨⟩ _ rfl; exact second)

lemma after_lookup {f : Except Fault Value → Eval β} {name : String}
    (second : ∀ found, (∀ fault, found = .error fault → fault.OfValues) →
      Settles stops enough Q (f found)) :
    Settles stops enough Q (Eval.lookup name >>= f) := by
  have first : Settles stops enough
      (fun lines (found : Except Fault Value) => lines = [] ∧
        ∀ fault, found = .error fault → fault.OfValues) (Eval.lookup name) := by
    refine of_step (fun m => m.memory.get name) id (fun _ => rfl) fun m => ⟨[], by simp, rfl, ?_⟩
    intro fault missing
    rw [Memory.get_error missing]
    exact .data rfl
  refine bind first ?_
  rintro found _ ⟨rfl, faults⟩
  exact second found faults

lemma after_define {f : Unit → Eval β} {name : String} {value : Value}
    (second : Settles stops enough Q (f ())) :
    Settles stops enough Q (Eval.define name value >>= f) :=
  after (fun _ => ()) (fun m => { m with memory := m.memory.define name value }) (fun _ => rfl)
    (fun _ => rfl) fun _ => second

lemma newSlot {P : List Entry → Slot → Prop} (value : Value) (h : ∀ slot, P [] slot) :
    Settles stops enough P (Eval.newSlot value) :=
  of_step (fun m => m.memory.store.next) (fun m => { m with memory := m.memory.alloc value })
    (fun _ => rfl) fun m => ⟨[], by simp [Machine.written], h _⟩

lemma mark {P : List Entry → Unit → Prop} (here : Cursor) (text : String)
    (h : P [.marker here.depth text] ()) : Settles stops enough P (Eval.mark here text) :=
  of_step (fun _ => ()) (fun m => { m with transcript := m.transcript.mark here text })
    (fun _ => rfl) fun m => ⟨[.marker here.depth text],
      by simp [Machine.written, Transcript.mark], h⟩

lemma emit {P : List Entry → Unit → Prop} {here : Cursor} (dry : here.phase = .dry)
    (text : String) (h : P [.instruction here.depth text] ()) :
    Settles stops enough P (Eval.emit here text) :=
  of_step (fun _ => ()) (fun m => { m with transcript := m.transcript.emit here text })
    (fun _ => rfl) fun m => ⟨[.instruction here.depth text],
      by simp [Machine.written, Transcript.emit, dry, Phase.emits], h⟩

lemma after_emit {here : Cursor} {f : Unit → Eval β} (dry : here.phase = .dry) (text : String)
    (second : Settles stops enough
      (fun lines b => Q (.instruction here.depth text :: lines) b) (f ())) :
    Settles stops enough Q (Eval.emit here text >>= f) := by
  refine bind (P := fun lines _ => lines = [.instruction here.depth text])
    (emit dry text rfl) ?_
  rintro ⟨⟩ _ rfl
  exact second

lemma after_storeElement {f : Except Fault Unit → Eval β} {name : String} {index : Int64}
    {element : Value}
    (second : ∀ stored, (∀ fault, stored = .error fault → fault.OfValues) →
      Settles stops enough Q (f stored)) :
    Settles stops enough Q (Eval.storeElement name index element >>= f) := by
  have first : Settles stops enough
      (fun lines (stored : Except Fault Unit) => lines = [] ∧
        ∀ fault, stored = .error fault → fault.OfValues)
      (Eval.storeElement name index element) := by
    refine ⟨fun _ m => ?_, fun m fault n ran => ?_, fun m stored n ran => ?_⟩
    · unfold Eval.storeElement
      split
      · exact ⟨_, rfl⟩
      · exact ⟨_, rfl⟩
    · unfold Eval.storeElement at ran
      split at ran
      · cases ran
      · cases ran
    · unfold Eval.storeElement at ran
      split at ran
      · cases ran
        exact ⟨[], by simp [Machine.written], rfl, by simp⟩
      · next refused =>
        cases ran
        refine ⟨[], by simp, rfl, ?_⟩
        rintro fault ⟨⟩
        exact Memory.storeElement_error refused
  refine bind first ?_
  rintro stored _ ⟨rfl, faults⟩
  exact second stored faults

/-- What is taken back stays written. -/
lemma takingBack {P : List Entry → Unit → Prop} {body : Eval Unit}
    (h : Settles stops enough P body) : Settles stops enough P (Eval.takingBack body) := by
  refine ⟨fun fits m => ?_, fun m fault n ran => ?_, fun m a n ran => ?_⟩
  · obtain ⟨⟨outcome, l⟩, ran⟩ := h.ends fits m
    exact ⟨_, takingBack_eq_some.mpr ⟨l, ran, rfl⟩⟩
  · obtain ⟨l, walked, -⟩ := takingBack_eq_some.mp ran
    exact h.stopped walked
  · obtain ⟨l, walked, rfl⟩ := takingBack_eq_some.mp ran
    obtain ⟨added, written, property⟩ := h.done walked
    exact ⟨added, written, property⟩

end Settles

end RobotScribe
