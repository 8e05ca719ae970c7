/-
# Variables that have values

A function that returns nothing yields `void`, which is no value.  A slot that holds a value keeps
holding one if only values are stored (`Store.Keeps`), and the operators on values yield values.

Frames that a run has found when it started are not its own, and nothing is known about them.  They
are the `base`; all variables of the frames above it have values (`Memory.Furnished`).  While code
runs there is at least one such frame (`Memory.Inside`), and what the code defines is defined there.
-/
import RobotScribe.Proofs.Rendering
import RobotScribe.Proofs.Storage

namespace RobotScribe

/-! ## Values -/

namespace Value

variable {left right operand array element value : Value}

lemma isVoid_standIn_elementKind (array : Value) (text : String) :
    (standIn array.elementKind text).isVoid = false := by
  unfold elementKind
  split <;> rfl

lemma isVoid_arithmetic {op : ArithOp} (h : left.arithmetic op right = .ok value) :
    value.isVoid = false := by
  unfold arithmetic at h
  obtain ⟨a, -, h⟩ := bind_eq_ok h
  obtain ⟨b, -, h⟩ := bind_eq_ok h
  obtain ⟨n, -, h⟩ := bind_eq_ok h
  cases h
  rfl

lemma isVoid_relational {op : Relation} (h : left.relational op right = .ok value) :
    value.isVoid = false := by
  unfold relational at h
  split at h
  · cases h
  · obtain ⟨holds, -, h⟩ := bind_eq_ok h
    cases h
    rfl

lemma isVoid_bitwise {op : BitOp} (h : left.bitwise op right = .ok value) :
    value.isVoid = false := by
  unfold bitwise at h
  dsimp only at h
  split at h
  · cases h
    rfl
  · cases h
    rfl
  · cases h
  · cases h
  · cases h

lemma isVoid_unary {op : UnaryOp} (h : operand.unary op = .ok value) : value.isVoid = false := by
  have mapped : ∀ {α : Type} {x : Except Fault α} {f : α → Payload} {payload : Payload},
      x.map f = .ok payload → ∃ a, payload = f a := by
    intro α x f payload same
    cases x with
    | error fault => cases same
    | ok a =>
      cases same
      exact ⟨a, rfl⟩
  unfold unary at h
  cases op with
  | plus =>
    obtain ⟨payload, computed, h⟩ := bind_eq_ok h
    obtain ⟨n, rfl⟩ := mapped computed
    cases h
    rfl
  | neg =>
    obtain ⟨payload, computed, h⟩ := bind_eq_ok h
    obtain ⟨n, rfl⟩ := mapped computed
    cases h
    rfl
  | not =>
    obtain ⟨payload, computed, h⟩ := bind_eq_ok h
    obtain ⟨b, rfl⟩ := mapped computed
    cases h
    rfl

lemma isVoid_element {index : Int64} (h : array.element index = .ok value) :
    value.isVoid = false := by
  unfold Value.element at h
  split at h
  · split at h
    · cases h
      rfl
    · cases h
  · split at h
    · cases h
      rfl
    · cases h
  · cases h

lemma isVoid_storeElement {index : Int64} (h : array.storeElement index element = .ok value) :
    value.isVoid = false := by
  unfold Value.storeElement at h
  split at h
  · cases h
  · split at h
    · cases h
      rfl
    · cases h
      rfl
    · cases h
    · cases h
    · cases h

end Value

/-! ## Stores and memories -/

namespace Store

variable {old mid new store : Store} {slot : Slot} {value : Value}

/-- Slots that hold a value keep holding one. -/
def Keeps (old new : Store) : Prop :=
  ∀ slot, (old.read slot).isVoid = false → (new.read slot).isVoid = false

/-- Every variable of some frames has a value. -/
def Fills (store : Store) (frames : List Frame) : Prop :=
  ∀ frame ∈ frames, ∀ slot ∈ frame.slots, (store.read slot).isVoid = false

namespace Keeps

lemma refl (store : Store) : Keeps store store := fun _ full => full

lemma trans (h : Keeps old mid) (h' : Keeps mid new) : Keeps old new :=
  fun slot full => h' slot (h slot full)

end Keeps

/-- A slot that holds a value has been made. -/
lemma has_of_full (full : (store.read slot).isVoid = false) : store.Has slot := by
  by_contra missing
  have outside : store.cells.size ≤ slot.index := Nat.not_lt.mp missing
  have none : store.read slot = Value.void := by simp [read, outside]
  rw [none] at full
  cases full

lemma keeps_alloc (store : Store) (value : Value) : Keeps store (store.alloc value) := by
  intro slot full
  rw [read_alloc_of_has (has_of_full full)]
  exact full

lemma keeps_write (store : Store) (slot : Slot) (full : value.isVoid = false) :
    Keeps store (store.write slot value) := by
  intro other held
  by_cases same : slot = other
  · subst same
    rw [read_write_self (has_of_full held)]
    exact full
  · rw [read_write_of_ne same]
    exact held

lemma Fills.mono {frames : List Frame} (fills : old.Fills frames) (keeps : Keeps old new) :
    new.Fills frames :=
  fun frame mem slot bound => keeps slot (fills frame mem slot bound)

end Store

namespace Memory

/-- The frames above those of the base bind variables that have values. -/
def Furnished (base : List Frame) (m : Memory) : Prop :=
  ∃ above, m.frames = above ++ base ∧ m.store.Fills above

/-- The top frame is one of those above the base, and all of them bind variables that have
values. -/
def Inside (base : List Frame) (m : Memory) : Prop :=
  ∃ top above, m.frames = top :: (above ++ base) ∧ m.store.Fills (top :: above)

variable {base : List Frame} {old new m : Memory} {name : String} {slot : Slot} {value : Value}

lemma Inside.furnished (h : m.Inside base) : m.Furnished base := by
  obtain ⟨top, above, frames, fills⟩ := h
  exact ⟨top :: above, frames, fills⟩

lemma Inside.of_frames (h : old.Inside base) (frames : new.frames = old.frames)
    (keeps : Store.Keeps old.store new.store) : new.Inside base := by
  obtain ⟨top, above, before, fills⟩ := h
  exact ⟨top, above, frames.trans before, fills.mono keeps⟩

namespace Inside

/-- A variable that has a slot has a value. -/
lemma full_of_slot? (h : m.Inside base) (bound : m.slot? name = some slot) :
    (m.store.read slot).isVoid = false := by
  obtain ⟨top, above, frames, fills⟩ := h
  have looked : top.slot? name = some slot := by
    rw [slot?, frames] at bound
    exact bound
  exact fills top List.mem_cons_self slot (Frame.mem_slots_of_slot? looked)

lemma full_of_get (h : m.Inside base) (found : m.get name = .ok value) :
    value.isVoid = false := by
  unfold get get? at found
  cases bound : m.slot? name with
  | none =>
    rw [bound] at found
    cases found
  | some slot =>
    rw [bound] at found
    cases found
    exact h.full_of_slot? bound

lemma alloc (h : m.Inside base) (value : Value) : (m.alloc value).Inside base :=
  h.of_frames rfl (Store.keeps_alloc _ _)

lemma write (h : m.Inside base) (slot : Slot) (full : value.isVoid = false) :
    (m.write slot value).Inside base ∧ Store.Keeps m.store (m.write slot value).store :=
  ⟨h.of_frames rfl (Store.keeps_write _ _ full), Store.keeps_write _ _ full⟩

/-- A name that has no slot gets one in the top frame, which is not one of the base. -/
lemma define (h : m.Inside base) (name : String) (full : value.isVoid = false) :
    (m.define name value).Inside base ∧ Store.Keeps m.store (m.define name value).store := by
  obtain ⟨frames, store⟩ := m
  obtain ⟨top, above, rfl, fills⟩ := h
  cases bound : top.slot? name with
  | some slot =>
    simp only [Memory.define, bound]
    exact write ⟨top, above, rfl, fills⟩ slot full
  | none =>
    simp only [Memory.define, bound, Memory.alloc, Memory.bind]
    have keeps : Store.Keeps store (store.alloc value) := Store.keeps_alloc store value
    refine ⟨⟨top.bind name store.next, above, rfl, ?_⟩, keeps⟩
    have kept := fills.mono keeps
    intro frame mem slot held
    rcases List.mem_cons.mp mem with rfl | mem
    · rcases Frame.mem_slots_bind held with rfl | held
      · rw [Store.read_alloc_next]
        exact full
      · exact kept top List.mem_cons_self slot held
    · exact kept frame (List.mem_cons_of_mem _ mem) slot held

lemma storeElement {index : Int64} {element : Value} (h : old.Inside base)
    (stored : old.storeElement name index element = .ok new) :
    new.Inside base ∧ Store.Keeps old.store new.store := by
  unfold Memory.storeElement at stored
  split at stored
  · next slot bound =>
    obtain ⟨array, placed, stored⟩ := Value.bind_eq_ok stored
    cases stored
    exact h.write slot (Value.isVoid_storeElement placed)
  · obtain ⟨empty, -, stored⟩ := Value.bind_eq_ok stored
    obtain ⟨array, placed, stored⟩ := Value.bind_eq_ok stored
    cases stored
    exact h.define name (Value.isVoid_storeElement placed)

end Inside

/-- A frame that is taken away leaves those below it. -/
lemma Inside.pop (h : m.Inside base) : m.pop.Furnished base := by
  obtain ⟨top, above, frames, fills⟩ := h
  refine ⟨above, ?_, fun frame mem => fills frame (List.mem_cons_of_mem _ mem)⟩
  rw [Memory.pop, frames, List.tail_cons]

/-- A function starts with variables that have values, if these were handed over. -/
lemma Furnished.enter (h : m.Furnished base) (function : String) (callLine : UInt32)
    {bindings : List (String × Slot)}
    (full : ∀ slot ∈ bindings.map Prod.snd, (m.store.read slot).isVoid = false) :
    (m.enter function callLine bindings).Inside base := by
  obtain ⟨above, frames, fills⟩ := h
  refine ⟨(Frame.mk function callLine []).bindAll bindings, above, ?_, ?_⟩
  · rw [Memory.enter, frames]
  · intro frame mem slot bound
    rcases List.mem_cons.mp mem with rfl | mem
    · rcases Frame.mem_slots_bindAll bound with handed | own
      · exact full slot handed
      · cases own
    · exact fills frame mem slot bound

end Memory

end RobotScribe
