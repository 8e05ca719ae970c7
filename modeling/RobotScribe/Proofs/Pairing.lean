/-
# Two memories side by side

A slot is a place, and its number makes no difference.  To say so, slots of one memory are
paired with slots of another one.  The pairs are one to one, and the two slots of a pair hold
the same value (`Store.Agree`).  If also the names of the top frames are bound to paired slots,
code finds the same in both memories (`Memory.Alike`), and whatever it does to both of them
leaves them alike.  Slots that are made on the way are new pairs.
-/
import RobotScribe.Proofs.Storage
import Mathlib.Data.List.Forall2
import Mathlib.Order.Basic

namespace RobotScribe

/-- Pairs of slots: the first is of one store, the second of another. -/
abbrev Pairing := Slot → Slot → Prop

/-- The pairs with one more. -/
def Pairing.adding (pairs : Pairing) (a b : Slot) : Pairing :=
  fun x y => pairs x y ∨ x = a ∧ y = b

/-! ## Stores -/

namespace Store

variable {pairs : Pairing} {s t : Store} {a b slot : Slot} {value : Value}

lemma has_alloc (h : s.Has slot) : (s.alloc value).Has slot := by
  rw [has_iff, size_alloc]
  exact Nat.lt_succ_of_lt h

lemma has_next : (s.alloc value).Has s.next := by
  rw [has_iff, size_alloc]
  exact Nat.lt_succ_self _

lemma Has.ne_next (h : s.Has slot) : slot ≠ s.next := by
  rintro rfl
  exact Nat.lt_irrefl _ h

/-- Two stores agree along pairs of slots. -/
structure Agree (pairs : Pairing) (s t : Store) : Prop where
  /-- The slots of the pairs have been made. -/
  has : ∀ {a b}, pairs a b → s.Has a ∧ t.Has b
  /-- No slot is in two pairs. -/
  one_to_one : ∀ {a b a' b'}, pairs a b → pairs a' b' → (a = a' ↔ b = b')
  /-- The slots of a pair hold the same value. -/
  read_eq : ∀ {a b}, pairs a b → s.read a = t.read b

namespace Agree

lemma none (s t : Store) : Agree (fun _ _ => False) s t :=
  ⟨False.elim, False.elim, False.elim⟩

lemma write (h : Agree pairs s t) (pair : pairs a b) (value : Value) :
    Agree pairs (s.write a value) (t.write b value) := by
  refine ⟨fun other => ?_, h.one_to_one, fun {a' b'} other => ?_⟩
  · rw [has_write, has_write]
    exact h.has other
  -- another pair is either this one or has neither slot in common with it
  · have same := h.one_to_one pair other
    by_cases here : a = a'
    · rw [← here, ← same.mp here, read_write_self (h.has pair).1, read_write_self (h.has pair).2]
    · rw [read_write_of_ne here, read_write_of_ne (here ∘ same.mpr), h.read_eq other]

/-- Slots that are made at the same time are a new pair. -/
lemma alloc (h : Agree pairs s t) (value : Value) :
    Agree (pairs.adding s.next t.next) (s.alloc value) (t.alloc value) := by
  refine ⟨?_, ?_, ?_⟩
  · rintro a b (old | ⟨rfl, rfl⟩)
    · exact ⟨has_alloc (h.has old).1, has_alloc (h.has old).2⟩
    · exact ⟨has_next, has_next⟩
  · rintro a b a' b' (old | ⟨rfl, rfl⟩) (old' | ⟨rfl, rfl⟩)
    · exact h.one_to_one old old'
    -- an old slot is on neither side the new one
    · exact iff_of_false (h.has old).1.ne_next (h.has old).2.ne_next
    · exact iff_of_false (h.has old').1.ne_next.symm (h.has old').2.ne_next.symm
    · exact iff_of_true rfl rfl
  · rintro a b (old | ⟨rfl, rfl⟩)
    · rw [read_alloc_of_has (h.has old).1, read_alloc_of_has (h.has old).2, h.read_eq old]
    · rw [read_alloc_next, read_alloc_next]

/-- Paired slots hold the same values, one by one. -/
lemma map_read (h : Agree pairs s t) {slots slots' : List Slot}
    (paired : List.Forall₂ pairs slots slots') : slots.map s.read = slots'.map t.read := by
  induction paired with
  | nil => rfl
  | cons pair _ ih => rw [List.map_cons, List.map_cons, h.read_eq pair, ih]

end Agree

end Store

/-! ## Arguments -/

/-- Two lists of slots share places in the same way: two slots of one list are the same just if
those at the same positions of the other list are. -/
def SameSharing (slots slots' : List Slot) : Prop :=
  ∀ i j : Nat, slots[i]? = slots[j]? ↔ slots'[i]? = slots'[j]?

/-- The slots at the same positions of two lists. -/
def Pairing.ofLists (slots slots' : List Slot) : Pairing :=
  fun a b => ∃ i : Nat, slots[i]? = some a ∧ slots'[i]? = some b

section

variable {s t : Store} {slots slots' : List Slot}

lemma Pairing.forall₂_ofLists (length : slots.length = slots'.length) :
    List.Forall₂ (Pairing.ofLists slots slots') slots slots' := by
  rw [List.forall₂_iff_get]
  refine ⟨length, fun i bound bound' => ⟨i, ?_, ?_⟩⟩
  · exact List.getElem?_eq_getElem bound
  · exact List.getElem?_eq_getElem bound'

/-- Stores that hold the same values in two lists of slots agree along these, if the lists share
places in the same way. -/
lemma Store.Agree.ofLists (has : ∀ slot ∈ slots, s.Has slot) (has' : ∀ slot ∈ slots', t.Has slot)
    (values : slots.map s.read = slots'.map t.read) (sharing : SameSharing slots slots') :
    Store.Agree (.ofLists slots slots') s t := by
  refine ⟨?_, ?_, ?_⟩
  · rintro a b ⟨i, first, second⟩
    exact ⟨has a (List.mem_of_getElem? first), has' b (List.mem_of_getElem? second)⟩
  · rintro a b a' b' ⟨i, first, second⟩ ⟨j, first', second'⟩
    have same := sharing i j
    -- slots are the same just if their positions share places
    rw [first, first', second, second', Option.some.injEq, Option.some.injEq] at same
    exact same
  · rintro a b ⟨i, first, second⟩
    have read : (slots.map s.read)[i]? = (slots'.map t.read)[i]? := by rw [values]
    rw [List.getElem?_map, List.getElem?_map, first, second] at read
    exact Option.some.inj read

end

lemma Pairing.le_adding (pairs : Pairing) (a b : Slot) : pairs ≤ pairs.adding a b :=
  fun _ _ pair => Or.inl pair

lemma Pairing.adding_self (pairs : Pairing) (a b : Slot) : pairs.adding a b a b :=
  Or.inr ⟨rfl, rfl⟩

/-! ## Frames -/

namespace Frame

variable {pairs pairs' : Pairing} {f g : Frame} {name : String} {a b : Slot}

/-- Two frames bind the same names, to slots that are paired. -/
def Alike (pairs : Pairing) (f g : Frame) : Prop :=
  ∀ name, Option.Rel pairs (f.slot? name) (g.slot? name)

lemma Alike.empty (function function' : String) (line line' : UInt32) :
    Alike pairs ⟨function, line, []⟩ ⟨function', line', []⟩ := fun _ => .none

/-- A name is bound in neither frame, or to paired slots. -/
lemma Alike.cases (h : Alike pairs f g) (name : String) :
    f.slot? name = none ∧ g.slot? name = none ∨
      ∃ a b, f.slot? name = some a ∧ g.slot? name = some b ∧ pairs a b := by
  have bound := h name
  generalize f.slot? name = x at *
  generalize g.slot? name = y at *
  cases bound with
  | none => exact Or.inl ⟨rfl, rfl⟩
  | some pair => exact Or.inr ⟨_, _, rfl, rfl, pair⟩

lemma Alike.mono (h : Alike pairs f g) (le : pairs ≤ pairs') : Alike pairs' f g := by
  intro name
  rcases h.cases name with ⟨slot, slot'⟩ | ⟨a, b, slot, slot', pair⟩
  · rw [slot, slot']
    exact .none
  · rw [slot, slot']
    exact .some (le _ _ pair)

lemma Alike.bind (h : Alike pairs f g) (pair : pairs a b) (name : String) :
    Alike pairs (f.bind name a) (g.bind name b) := by
  intro other
  by_cases same : other = name
  · subst same
    rw [slot?_bind_self, slot?_bind_self]
    exact .some pair
  · rw [slot?_bind_of_ne f same, slot?_bind_of_ne g same]
    exact h other

lemma Alike.bindAll (h : Alike pairs f g) {slots slots' : List Slot}
    (paired : List.Forall₂ pairs slots slots') (names : List String) :
    Alike pairs (f.bindAll (names.zip slots)) (g.bindAll (names.zip slots')) := by
  induction paired generalizing f g names with
  | nil => simpa [Frame.bindAll] using h
  | cons pair _ ih =>
    cases names with
    | nil => exact h
    | cons name names => exact ih (h.bind pair name) names

end Frame

/-! ## Memories -/

namespace Memory

variable {pairs pairs' : Pairing} {m n : Memory} {name : String} {value : Value}

lemma storeElement_of_bound {slot : Slot} (bound : m.slot? name = some slot) (index : Int64)
    (element : Value) :
    m.storeElement name index element =
      ((m.store.read slot).storeElement index element).map (m.write slot) := by
  rw [Memory.storeElement, bound]
  dsimp only
  cases (m.store.read slot).storeElement index element <;> rfl

lemma storeElement_of_unbound (unbound : m.slot? name = none) (index : Int64)
    (element : Value) :
    m.storeElement name index element =
      (Value.emptyArrayFor element >>= fun array =>
        array.storeElement index element).map (m.define name) := by
  rw [Memory.storeElement, unbound]
  cases Value.emptyArrayFor element with
  | error fault => rfl
  | ok array =>
    change (array.storeElement index element >>= fun array => pure (m.define name array)) =
      (array.storeElement index element).map (m.define name)
    cases array.storeElement index element <;> rfl

/-- Frames of which the top ones bind the same names to paired slots. -/
inductive TopAlike (pairs : Pairing) : List Frame → List Frame → Prop where
  | none : TopAlike pairs [] []
  | top {f g : Frame} (below below' : List Frame) (alike : Frame.Alike pairs f g) :
      TopAlike pairs (f :: below) (g :: below')

/-- Code finds the same in two memories. -/
structure Alike (pairs : Pairing) (m n : Memory) : Prop where
  frames : TopAlike pairs m.frames n.frames
  store : Store.Agree pairs m.store n.store

lemma TopAlike.mono {frames frames' : List Frame} (h : TopAlike pairs frames frames')
    (le : pairs ≤ pairs') : TopAlike pairs' frames frames' := by
  cases h with
  | none => exact .none
  | top below below' alike => exact .top below below' (alike.mono le)

namespace Alike

/-- A variable has a slot in neither memory, or paired slots. -/
lemma cases (h : Alike pairs m n) (name : String) :
    m.slot? name = none ∧ n.slot? name = none ∨
      ∃ a b, m.slot? name = some a ∧ n.slot? name = some b ∧ pairs a b := by
  obtain ⟨frames, store⟩ := m
  obtain ⟨frames', store'⟩ := n
  cases h.frames with
  | none => exact Or.inl ⟨rfl, rfl⟩
  | top below below' alike => exact alike.cases name

lemma get_eq (h : Alike pairs m n) (name : String) : m.get name = n.get name := by
  unfold Memory.get get?
  rcases h.cases name with ⟨slot, slot'⟩ | ⟨a, b, slot, slot', pair⟩
  · rw [slot, slot']
    rfl
  · rw [slot, slot', Option.map_some, Option.map_some, h.store.read_eq pair]

lemma write (h : Alike pairs m n) {a b : Slot} (pair : pairs a b) (value : Value) :
    Alike pairs (m.write a value) (n.write b value) :=
  ⟨h.frames, h.store.write pair value⟩

lemma alloc (h : Alike pairs m n) (value : Value) :
    Alike (pairs.adding m.store.next n.store.next) (m.alloc value) (n.alloc value) :=
  ⟨h.frames.mono (pairs.le_adding _ _), h.store.alloc value⟩

/-- A value for a variable.  If the variable had no slot, its slots are a new pair. -/
lemma define (h : Alike pairs m n) (name : String) (value : Value) :
    ∃ pairs', pairs ≤ pairs' ∧ Alike pairs' (m.define name value) (n.define name value) := by
  obtain ⟨frames, store⟩ := m
  obtain ⟨frames', store'⟩ := n
  cases h.frames with
  | none => exact ⟨pairs, le_refl _, h⟩
  | @top f g below below' alike =>
    rcases alike.cases name with ⟨slot, slot'⟩ | ⟨a, b, slot, slot', pair⟩
    · simp only [Memory.define, slot, slot', Memory.alloc, Memory.bind]
      have le := pairs.le_adding store.next store'.next
      have new := pairs.adding_self store.next store'.next
      exact ⟨_, le, .top below below' ((alike.mono le).bind new name), h.store.alloc value⟩
    · simp only [Memory.define, slot, slot']
      exact ⟨pairs, le_refl _, h.write pair value⟩

/-- An element for an array variable: a fault in both memories, or the same change of both. -/
lemma storeElement (h : Alike pairs m n) (name : String) (index : Int64) (element : Value) :
    (∃ fault, m.storeElement name index element = .error fault ∧
      n.storeElement name index element = .error fault) ∨
    ∃ m' n' pairs', m.storeElement name index element = .ok m' ∧
      n.storeElement name index element = .ok n' ∧ pairs ≤ pairs' ∧ Alike pairs' m' n' := by
  rcases h.cases name with ⟨slot, slot'⟩ | ⟨a, b, slot, slot', pair⟩
  · rw [storeElement_of_unbound slot, storeElement_of_unbound slot']
    cases Value.emptyArrayFor element >>= fun array => array.storeElement index element with
    | error fault => exact Or.inl ⟨fault, rfl, rfl⟩
    | ok array =>
      obtain ⟨pairs', le, alike⟩ := h.define name array
      exact Or.inr ⟨_, _, pairs', rfl, rfl, le, alike⟩
  · rw [storeElement_of_bound slot, storeElement_of_bound slot', h.store.read_eq pair]
    cases (n.store.read b).storeElement index element with
    | error fault => exact Or.inl ⟨fault, rfl, rfl⟩
    | ok array => exact Or.inr ⟨_, _, pairs, rfl, rfl, le_refl _, h.write pair array⟩

/-- A function starts in frames that are alike if it is given paired slots. -/
lemma enter {function : String} {line line' : UInt32} {slots slots' : List Slot}
    (store : Store.Agree pairs m.store n.store) (paired : List.Forall₂ pairs slots slots')
    (names : List String) :
    Alike pairs (m.enter function line (names.zip slots))
      (n.enter function line' (names.zip slots')) :=
  ⟨.top _ _ ((Frame.Alike.empty _ _ _ _).bindAll paired names), store⟩

end Alike

end Memory

end RobotScribe
