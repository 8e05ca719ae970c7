/-
# What a running function can change

A running function reaches a slot only through a name of the top frame, and a name is bound
only once: to a slot that was handed over, or to a slot that was made on the way.  So whatever
a piece of code does to the memory, the slots it changes are slots that the top frame bound
when it started, or slots made since.

`Store.ChangesOnly` says this of a store, `Memory.Evolves` of the memory under code that comes
to its end, and `Memory.Strands` of the memory under code that a fault stops, which may leave
frames behind.  The last section draws the conclusion for code that is taken back: a memory
that has evolved is put back to what it was by its snapshot.
-/
import RobotScribe.Memory.Basic
import Mathlib.Tactic.Lemma

namespace RobotScribe

/-! ## Stores -/

namespace Store

/-- A store comes from another by making slots and by writing to some of the slots that were
there. -/
structure ChangesOnly (opened : List Slot) (old new : Store) : Prop where
  /-- No slot is given back. -/
  size_le : old.size ≤ new.size
  /-- A slot that is not open keeps its value. -/
  read_eq : ∀ slot, old.Has slot → slot ∉ opened → new.read slot = old.read slot

variable {opened opened' : List Slot} {s t u : Store} {slot : Slot} {value : Value}

lemma size_write : (s.write slot value).size = s.size := by
  simp [size, write]

lemma size_alloc : (s.alloc value).size = s.size + 1 := by
  simp [size, alloc]

lemma has_iff : s.Has slot ↔ slot.index < s.size := Iff.rfl

namespace ChangesOnly

lemma refl (opened : List Slot) (s : Store) : ChangesOnly opened s s :=
  ⟨Nat.le_refl _, fun _ _ _ => rfl⟩

/-- Changes follow one another if the second ones are made to slots that were open, or that
the first ones have made. -/
lemma trans (first : ChangesOnly opened s t) (second : ChangesOnly opened' t u)
    (within : ∀ slot ∈ opened', slot ∈ opened ∨ s.size ≤ slot.index) :
    ChangesOnly opened s u := by
  refine ⟨Nat.le_trans first.size_le second.size_le, fun slot had closed => ?_⟩
  have has : t.Has slot := Nat.lt_of_lt_of_le had first.size_le
  have closed' : slot ∉ opened' := by
    intro mem
    rcases within slot mem with h | h
    · exact closed h
    · exact absurd had (Nat.not_lt.mpr h)
  rw [second.read_eq slot has closed', first.read_eq slot had closed]

lemma alloc (opened : List Slot) (s : Store) (value : Value) :
    ChangesOnly opened s (s.alloc value) := by
  refine ⟨by simp [size_alloc], fun slot had _ => ?_⟩
  exact read_alloc_of_has had value

lemma write (mem : slot ∈ opened) (s : Store) (value : Value) :
    ChangesOnly opened s (s.write slot value) := by
  refine ⟨by simp [size_write], fun other _ closed => ?_⟩
  have ne : slot ≠ other := by
    rintro rfl
    exact closed mem
  exact read_write_of_ne ne value

end ChangesOnly

/-! ### Writing values back -/

lemma size_writeAll (values : List (Slot × Value)) (s : Store) :
    (s.writeAll values).size = s.size := by
  induction values generalizing s with
  | nil => rfl
  | cons entry rest ih =>
    change ((s.write entry.1 entry.2).writeAll rest).size = s.size
    rw [ih, size_write]

/-- Writing to some slots the values that they have under an assignment leaves them at these
values, in whatever order and however often they are written. -/
lemma read_writeAll (assigned : Slot → Value) (slots : List Slot) {s : Store} (has : s.Has slot) :
    (s.writeAll (slots.map fun slot => (slot, assigned slot))).read slot =
      if slot ∈ slots then assigned slot else s.read slot := by
  induction slots generalizing s with
  | nil => rfl
  | cons head rest ih =>
    have has' : (s.write head (assigned head)).Has slot := by simpa using has
    change ((s.write head (assigned head)).writeAll _).read slot = _
    rw [ih has']
    by_cases later : slot ∈ rest
    · simp [later]
    · by_cases same : slot = head
      · subst same
        simp [later, read_write_self has]
      · have other : head ≠ slot := fun h => same h.symm
        simp [later, same, read_write_of_ne other]

/-- A store is given by its size and by the values in its slots. -/
lemma ext_read {s t : Store} (size : s.size = t.size)
    (read : ∀ slot, t.Has slot → s.read slot = t.read slot) : s = t := by
  obtain ⟨old⟩ := s
  obtain ⟨new⟩ := t
  congr 1
  refine Array.ext size fun i hi hj => ?_
  have same := read ⟨i⟩ hj
  simpa [Store.read, Array.getD_eq_getD_getElem?, hi, hj] using same

/-- Giving back the new slots of a store leaves the old store, if no old slot has changed. -/
lemma shrink_eq {old new : Store} (size_le : old.size ≤ new.size)
    (read : ∀ slot, old.Has slot → new.read slot = old.read slot) :
    new.shrink old.size = old := by
  refine ext_read ?_ fun slot had => ?_
  · simp only [size, shrink, Array.size_shrink] at size_le ⊢
    omega
  · rw [read_shrink (has_iff.mp had)]
    exact read slot had

end Store

/-! ## Frames -/

namespace Frame

variable {frame old mid new : Frame} {name other : String} {slot : Slot}

/-- The slots that a frame binds. -/
def slots (frame : Frame) : List Slot := frame.bindings.map Prod.snd

lemma mem_slots_of_slot? (h : frame.slot? name = some slot) : slot ∈ frame.slots := by
  obtain ⟨before, after, split, -⟩ := List.lookup_eq_some_iff.mp h
  rw [slots, split]
  simp

lemma mem_slots_bind {bound : Slot} (h : bound ∈ (frame.bind name slot).slots) :
    bound = slot ∨ bound ∈ frame.slots := by
  simp only [slots, bind, List.map_cons, List.mem_cons, List.mem_map, List.mem_filter] at h
  rcases h with h | ⟨binding, ⟨mem, -⟩, rfl⟩
  · exact Or.inl h
  · exact Or.inr (List.mem_map_of_mem mem)

/-- Binds names to slots, one after the other. -/
def bindAll (frame : Frame) (bindings : List (String × Slot)) : Frame :=
  bindings.foldl (fun frame entry => frame.bind entry.1 entry.2) frame

lemma mem_slots_bindAll {bindings : List (String × Slot)}
    (h : slot ∈ (frame.bindAll bindings).slots) :
    slot ∈ bindings.map Prod.snd ∨ slot ∈ frame.slots := by
  induction bindings generalizing frame with
  | nil => exact Or.inr h
  | cons entry rest ih =>
    have bound : slot ∈ rest.map Prod.snd ∨ slot ∈ (frame.bind entry.1 entry.2).slots := ih h
    rcases bound with mem | mem
    · exact Or.inl (List.mem_cons_of_mem _ mem)
    · rcases mem_slots_bind mem with rfl | mem
      · exact Or.inl (by simp)
      · exact Or.inr mem

/-- A name that is bound to one slot only, however often, has that slot in the end. -/
lemma slot?_bindAll {bindings : List (String × Slot)}
    (only : ∀ entry ∈ bindings, entry.1 = name → entry.2 = slot)
    (bound : frame.slot? name = some slot ∨ ∃ entry ∈ bindings, entry.1 = name) :
    (frame.bindAll bindings).slot? name = some slot := by
  induction bindings generalizing frame with
  | nil =>
    rcases bound with bound | ⟨entry, mem, -⟩
    · exact bound
    · cases mem
  | cons entry rest ih =>
    have onlyRest : ∀ entry ∈ rest, entry.1 = name → entry.2 = slot :=
      fun entry mem => only entry (List.mem_cons_of_mem _ mem)
    change ((frame.bind entry.1 entry.2).bindAll rest).slot? name = some slot
    by_cases same : entry.1 = name
    · refine ih onlyRest (Or.inl ?_)
      rw [← only entry List.mem_cons_self same, ← same]
      exact slot?_bind_self frame entry.1 entry.2
    · refine ih onlyRest ?_
      rw [slot?_bind_of_ne frame (Ne.symm same)]
      rcases bound with bound | ⟨other, mem, named⟩
      · exact Or.inl bound
      · rcases List.mem_cons.mp mem with rfl | mem
        · exact absurd named same
        · exact Or.inr ⟨other, mem, named⟩

/-- A frame comes from another by binding names that had no slot, to slots whose numbers are
in a given range. -/
structure Grows (first last : Nat) (old new : Frame) : Prop where
  /-- The frame belongs to the same function. -/
  function_eq : new.function = old.function
  /-- The frame waits for the same line. -/
  callLine_eq : new.callLine = old.callLine
  /-- No name is bound to another slot. -/
  keeps : ∀ name slot, old.slot? name = some slot → new.slot? name = some slot
  /-- New names are bound to new slots. -/
  fresh : ∀ slot ∈ new.slots, slot ∈ old.slots ∨ first ≤ slot.index ∧ slot.index < last

namespace Grows

variable {first middle last : Nat}

lemma refl (first last : Nat) (frame : Frame) : Grows first last frame frame :=
  ⟨rfl, rfl, fun _ _ h => h, fun _ h => Or.inl h⟩

lemma trans (lower : first ≤ middle) (upper : middle ≤ last) (h : Grows first middle old mid)
    (h' : Grows middle last mid new) : Grows first last old new := by
  refine ⟨h'.function_eq.trans h.function_eq, h'.callLine_eq.trans h.callLine_eq,
    fun name slot bound => h'.keeps name slot (h.keeps name slot bound), fun slot mem => ?_⟩
  rcases h'.fresh slot mem with mem | ⟨above, below⟩
  · rcases h.fresh slot mem with mem | ⟨above, below⟩
    · exact Or.inl mem
    · exact Or.inr ⟨above, Nat.lt_of_lt_of_le below upper⟩
  · exact Or.inr ⟨Nat.le_trans lower above, below⟩

lemma bind (unbound : frame.slot? name = none) (above : first ≤ slot.index)
    (below : slot.index < last) : Grows first last frame (frame.bind name slot) := by
  refine ⟨rfl, rfl, fun bound_name bound_slot bound => ?_, fun bound_slot mem => ?_⟩
  · have ne : bound_name ≠ name := by
      rintro rfl
      rw [unbound] at bound
      cases bound
    rw [slot?_bind_of_ne frame ne]
    exact bound
  · rcases mem_slots_bind mem with rfl | mem
    · exact Or.inr ⟨above, below⟩
    · exact Or.inl mem

end Grows

end Frame

/-! ## Memories -/

namespace Memory

variable {old mid new m : Memory} {name : String} {slot : Slot} {value : Value}

/-- The slots that code can reach: those that the top frame binds. -/
def reach (m : Memory) : List Slot :=
  match m.frames with
  | [] => []
  | frame :: _ => frame.slots

/-- Frames of which only the top one has grown. -/
inductive TopGrows (first last : Nat) : List Frame → List Frame → Prop where
  | none : TopGrows first last [] []
  | top {old new : Frame} (below : List Frame) (grows : Frame.Grows first last old new) :
      TopGrows first last (old :: below) (new :: below)

/-- What code does to a memory when it comes to its end. -/
structure Evolves (old new : Memory) : Prop where
  /-- Only slots in reach are written. -/
  store : Store.ChangesOnly old.reach old.store new.store
  /-- Only the top frame has changed, and it has grown. -/
  frames : TopGrows old.store.size new.store.size old.frames new.frames

lemma mem_reach_of_slot? (h : m.slot? name = some slot) : slot ∈ m.reach := by
  unfold slot? at h
  unfold reach
  cases frames : m.frames with
  | nil => simp [frames] at h
  | cons frame below =>
    rw [frames] at h
    exact Frame.mem_slots_of_slot? (by simpa using h)

namespace TopGrows

variable {first middle last : Nat} {olds mids news : List Frame}

lemma refl (first last : Nat) (frames : List Frame) : TopGrows first last frames frames := by
  cases frames with
  | nil => exact none
  | cons frame below => exact top below (Frame.Grows.refl first last frame)

lemma trans (lower : first ≤ middle) (upper : middle ≤ last)
    (h : TopGrows first middle olds mids) (h' : TopGrows middle last mids news) :
    TopGrows first last olds news := by
  cases h with
  | none =>
    cases h'
    exact none
  | top below grows =>
    cases h' with
    | top _ grows' => exact top below (Frame.Grows.trans lower upper grows grows')

end TopGrows

namespace Evolves

lemma refl (m : Memory) : Evolves m m :=
  ⟨.refl _ _, .refl _ _ _⟩

/-- Whatever is in reach after some code was in reach before it, or is new. -/
lemma mem_reach (h : Evolves old new) (mem : slot ∈ new.reach) :
    slot ∈ old.reach ∨ old.store.size ≤ slot.index ∧ slot.index < new.store.size := by
  obtain ⟨oldFrames, oldStore⟩ := old
  obtain ⟨newFrames, newStore⟩ := new
  cases h.frames with
  | none => exact Or.inl mem
  | top below grows => exact grows.fresh slot mem

lemma slot?_eq (h : Evolves old new) (bound : old.slot? name = some slot) :
    new.slot? name = some slot := by
  obtain ⟨oldFrames, oldStore⟩ := old
  obtain ⟨newFrames, newStore⟩ := new
  cases h.frames with
  | none => exact bound
  | top below grows => exact grows.keeps name slot bound

lemma trans (h : Evolves old mid) (h' : Evolves mid new) : Evolves old new := by
  refine ⟨h.store.trans h'.store fun slot mem => ?_,
    h.frames.trans h.store.size_le h'.store.size_le h'.frames⟩
  exact (h.mem_reach mem).imp_right And.left

lemma alloc (m : Memory) (value : Value) : Evolves m (m.alloc value) :=
  ⟨.alloc _ _ _, .refl _ _ _⟩

lemma write (mem : slot ∈ m.reach) (value : Value) : Evolves m (m.write slot value) :=
  ⟨.write mem _ _, .refl _ _ _⟩

lemma define (m : Memory) (name : String) (value : Value) : Evolves m (m.define name value) := by
  obtain ⟨frames, store⟩ := m
  cases frames with
  | nil => exact .refl _
  | cons frame below =>
    cases bound : frame.slot? name with
    | some slot =>
      simp only [Memory.define, bound]
      exact .write (Frame.mem_slots_of_slot? bound) value
    | none =>
      simp only [Memory.define, bound, Memory.alloc, Memory.bind]
      refine ⟨.alloc _ _ _, .top below (Frame.Grows.bind bound (Nat.le_refl _) ?_)⟩
      simp [Store.next, Store.size, Store.alloc]

lemma storeElement {index : Int64} {element : Value}
    (h : old.storeElement name index element = .ok new) : Evolves old new := by
  unfold Memory.storeElement at h
  split at h
  next slot bound =>
    cases stored : (old.store.read slot).storeElement index element with
    | error fault =>
      rw [stored] at h
      cases h
    | ok array =>
      rw [stored] at h
      cases h
      exact .write (mem_reach_of_slot? bound) array
  next =>
    cases made : Value.emptyArrayFor element with
    | error fault =>
      rw [made] at h
      cases h
    | ok empty =>
      cases stored : empty.storeElement index element with
      | error fault =>
        simp only [made, stored, Bind.bind, Except.bind] at h
        cases h
      | ok array =>
        simp only [made, stored, Bind.bind, Except.bind] at h
        cases h
        exact .define old name array

end Evolves

/-! ### Code that is stopped -/

/-- What code does to a memory when a fault stops it: below the frames of the functions that
it was in, the memory has evolved. -/
def Strands (old new : Memory) : Prop :=
  ∃ above rest, new.frames = above ++ rest ∧ Evolves old ⟨rest, new.store⟩ ∧
    ∀ frame ∈ above, ∀ slot ∈ frame.slots,
      slot ∈ old.reach ∨ old.store.size ≤ slot.index ∧ slot.index < new.store.size

lemma Evolves.strands (h : Evolves old new) : Strands old new :=
  ⟨[], new.frames, rfl, h, by simp⟩

lemma Evolves.trans_strands (h : Evolves old mid) (h' : Strands mid new) : Strands old new := by
  obtain ⟨above, rest, frames, evolves, within⟩ := h'
  refine ⟨above, rest, frames, h.trans evolves, fun frame mem slot bound => ?_⟩
  have grown : mid.store.size ≤ new.store.size := evolves.store.size_le
  rcases within frame mem slot bound with reached | ⟨low, high⟩
  · rcases h.mem_reach reached with reached | ⟨low, high⟩
    · exact Or.inl reached
    · exact Or.inr ⟨low, Nat.lt_of_lt_of_le high grown⟩
  · exact Or.inr ⟨Nat.le_trans h.store.size_le low, high⟩

/-! ### Calls -/

/-- The memory in which the body of a function starts. -/
def enter (m : Memory) (function : String) (callLine : UInt32) (bindings : List (String × Slot)) :
    Memory :=
  ⟨(Frame.mk function callLine []).bindAll bindings :: m.frames, m.store⟩

lemma foldl_bind (bindings : List (String × Slot)) (frame : Frame) (below : List Frame)
    (store : Store) :
    bindings.foldl (fun memory entry => Memory.bind memory entry.1 entry.2)
      ⟨frame :: below, store⟩ = ⟨frame.bindAll bindings :: below, store⟩ := by
  induction bindings generalizing frame with
  | nil => rfl
  | cons entry rest ih => exact ih (frame.bind entry.1 entry.2)

lemma reach_enter {function : String} {callLine : UInt32} {bindings : List (String × Slot)}
    (mem : slot ∈ (m.enter function callLine bindings).reach) :
    slot ∈ bindings.map Prod.snd := by
  rcases Frame.mem_slots_bindAll mem with mem | mem
  · exact mem
  · cases mem

/-- What a call does to a memory: it writes to slots that were handed over, and it may leave
frames behind, in which only such slots and new ones are bound. -/
structure Called (handed : List Slot) (above : List Frame) (old new : Memory) : Prop where
  /-- Only slots that were handed over are written. -/
  store : Store.ChangesOnly handed old.store new.store
  /-- The frames that were there are as they were. -/
  frames : new.frames = above ++ old.frames
  /-- The frames that are left reach nothing else. -/
  within : ∀ frame ∈ above, ∀ slot ∈ frame.slots,
    slot ∈ handed ∨ old.store.size ≤ slot.index ∧ slot.index < new.store.size

namespace Called

variable {handed : List Slot} {above : List Frame} {function : String} {callLine : UInt32}
  {bindings : List (String × Slot)}

lemma refl (handed : List Slot) (m : Memory) : Called handed [] m m :=
  ⟨.refl _ _, rfl, by simp⟩

/-- A body that comes to its end leaves one frame to be taken away. -/
lemma of_evolves (h : Evolves (m.enter function callLine bindings) new)
    (slots : ∀ slot ∈ bindings.map Prod.snd, slot ∈ handed) :
    ∃ frame, Called handed [frame] m new := by
  have within : ∀ slot ∈ new.reach,
      slot ∈ handed ∨ m.store.size ≤ slot.index ∧ slot.index < new.store.size := by
    intro slot mem
    exact (h.mem_reach mem).imp_left fun reached => slots slot (reach_enter reached)
  have store : Store.ChangesOnly handed m.store new.store := by
    refine ⟨h.store.size_le, fun slot had closed => h.store.read_eq slot had fun mem => ?_⟩
    exact closed (slots slot (reach_enter mem))
  obtain ⟨newFrames, newStore⟩ := new
  cases h.frames with
  | @top _ frame _ _ =>
    refine ⟨frame, store, rfl, fun other mem => ?_⟩
    rw [List.mem_singleton.mp mem]
    exact within

/-- A body that is stopped leaves frames behind. -/
lemma of_strands (h : Strands (m.enter function callLine bindings) new)
    (slots : ∀ slot ∈ bindings.map Prod.snd, slot ∈ handed) :
    ∃ above, Called handed above m new := by
  obtain ⟨above, rest, frames, evolves, within⟩ := h
  obtain ⟨frame, called⟩ := of_evolves evolves slots
  refine ⟨above ++ [frame], called.store, ?_, fun other mem slot bound => ?_⟩
  · have below : rest = [frame] ++ m.frames := called.frames
    rw [frames, below, List.append_assoc]
  · rw [List.mem_append] at mem
    rcases mem with mem | mem
    · exact (within other mem slot bound).imp_left fun reached =>
        slots slot (reach_enter reached)
    · exact called.within other mem slot bound

/-- Taking away the frame of a function that has come to its end. -/
lemma pop {frame : Frame} (h : Called handed [frame] m new) : Called handed [] m new.pop := by
  refine ⟨h.store, ?_, by simp⟩
  simp [Memory.pop, h.frames]

end Called

/-- A slot that is handed over from one memory to the next: it has a name, or it is new. -/
def Handed (old new : Memory) (slot : Slot) : Prop :=
  (∃ name, new.slot? name = some slot) ∨
    old.store.size ≤ slot.index ∧ slot.index < new.store.size

lemma Handed.trans_evolves (h : Handed old mid slot) (h' : Evolves mid new) :
    Handed old new slot := by
  rcases h with ⟨name, bound⟩ | ⟨low, high⟩
  · exact Or.inl ⟨name, h'.slot?_eq bound⟩
  · exact Or.inr ⟨low, Nat.lt_of_lt_of_le high h'.store.size_le⟩

lemma Evolves.trans_handed (h : Evolves old mid) (h' : Handed mid new slot) :
    Handed old new slot :=
  h'.imp_right fun fresh => ⟨Nat.le_trans h.store.size_le fresh.1, fresh.2⟩

lemma Handed.reached_or_new (h : Evolves old mid) (handed : Handed old mid slot) :
    slot ∈ old.reach ∨ old.store.size ≤ slot.index ∧ slot.index < mid.store.size := by
  rcases handed with ⟨name, bound⟩ | fresh
  · exact h.mem_reach (mem_reach_of_slot? bound)
  · exact Or.inr fresh

/-- A call whose function comes to its end, after its arguments. -/
lemma Evolves.trans_called {handed : List Slot} (h : Evolves old mid)
    (slots : ∀ slot ∈ handed, Handed old mid slot) (h' : Called handed [] mid new) :
    Evolves old new := by
  refine ⟨h.store.trans h'.store fun slot mem => ?_, ?_⟩
  · exact ((slots slot mem).reached_or_new h).imp_right And.left
  · rw [show new.frames = mid.frames from h'.frames]
    exact h.frames.trans h.store.size_le h'.store.size_le (.refl _ _ _)

/-- A call whose function is stopped, after its arguments. -/
lemma Evolves.strands_of_called {handed : List Slot} {above : List Frame} (h : Evolves old mid)
    (slots : ∀ slot ∈ handed, Handed old mid slot) (h' : Called handed above mid new) :
    Strands old new := by
  have grown : mid.store.size ≤ new.store.size := h'.store.size_le
  refine ⟨above, mid.frames, h'.frames, h.trans_called slots ⟨h'.store, rfl, by simp⟩, ?_⟩
  intro frame mem slot bound
  rcases h'.within frame mem slot bound with mem | ⟨low, high⟩
  · exact ((slots slot mem).reached_or_new h).imp_right fun fresh =>
      ⟨fresh.1, Nat.lt_of_lt_of_le fresh.2 grown⟩
  · exact Or.inr ⟨Nat.le_trans h.store.size_le low, high⟩

/-! ### Bound slots exist -/

/-- Every slot that is bound has been made. -/
def Sound (m : Memory) : Prop := ∀ frame ∈ m.frames, ∀ slot ∈ frame.slots, m.store.Has slot

lemma Sound.has_of_mem_reach (h : m.Sound) (mem : slot ∈ m.reach) : m.store.Has slot := by
  obtain ⟨frames, store⟩ := m
  cases frames with
  | nil => cases mem
  | cons frame below => exact h frame (by simp) slot mem

lemma Evolves.sound (h : Evolves old new) (sound : old.Sound) : new.Sound := by
  have grown : old.store.size ≤ new.store.size := h.store.size_le
  have reached : ∀ slot ∈ new.reach, new.store.Has slot := by
    intro slot mem
    rcases h.mem_reach mem with mem | ⟨-, high⟩
    · exact Nat.lt_of_lt_of_le (sound.has_of_mem_reach mem) grown
    · exact high
  obtain ⟨oldFrames, oldStore⟩ := old
  obtain ⟨newFrames, newStore⟩ := new
  cases h.frames with
  | none => simp [Sound]
  | top below grows =>
    intro frame mem slot bound
    rcases List.mem_cons.mp mem with rfl | mem
    · exact reached slot bound
    · exact Nat.lt_of_lt_of_le (sound frame (List.mem_cons_of_mem _ mem) slot bound) grown

lemma Strands.sound (h : Strands old new) (sound : old.Sound) : new.Sound := by
  obtain ⟨above, rest, frames, evolves, within⟩ := h
  have grown : old.store.size ≤ new.store.size := evolves.store.size_le
  intro frame mem slot bound
  rw [frames, List.mem_append] at mem
  rcases mem with mem | mem
  · rcases within frame mem slot bound with reached | ⟨-, high⟩
    · exact Nat.lt_of_lt_of_le (sound.has_of_mem_reach reached) grown
    · exact high
  · exact evolves.sound sound frame mem slot bound

lemma Called.sound {handed : List Slot} {above : List Frame} (h : Called handed above old new)
    (sound : old.Sound) (has : ∀ slot ∈ handed, old.store.Has slot) : new.Sound := by
  have grown : old.store.size ≤ new.store.size := h.store.size_le
  intro frame mem slot bound
  rw [h.frames, List.mem_append] at mem
  rcases mem with mem | mem
  · rcases h.within frame mem slot bound with mem | ⟨-, high⟩
    · exact Nat.lt_of_lt_of_le (has slot mem) grown
    · exact high
  · exact Nat.lt_of_lt_of_le (sound frame mem slot bound) grown

/-- No frame binds a slot. -/
def Unbound (m : Memory) (slot : Slot) : Prop := ∀ frame ∈ m.frames, slot ∉ frame.slots

/-- The next slot is bound nowhere. -/
lemma Sound.unbound_next (h : m.Sound) : m.Unbound m.store.next := by
  intro frame mem bound
  exact absurd (h frame mem _ bound) (Nat.lt_irrefl _)

/-- A slot that is there and is not bound is not bound later on. -/
lemma Evolves.unbound (h : Evolves old new) (has : old.store.Has slot)
    (unbound : old.Unbound slot) : new.Unbound slot := by
  obtain ⟨oldFrames, oldStore⟩ := old
  obtain ⟨newFrames, newStore⟩ := new
  cases h.frames with
  | none => exact unbound
  | top below grows =>
    intro frame mem bound
    rcases List.mem_cons.mp mem with rfl | mem
    · rcases grows.fresh slot bound with bound | ⟨low, -⟩
      · exact unbound _ List.mem_cons_self bound
      · exact absurd has (Nat.not_lt.mpr low)
    · exact unbound frame (List.mem_cons_of_mem _ mem) bound

/-! ### Taking back -/

/-- A memory that has evolved is put back by its snapshot, once the new slots are given
back. -/
lemma Evolves.restore_snapshot (h : Evolves old new) :
    (new.restore old.snapshot).shrink old.store.size = old := by
  obtain ⟨oldFrames, oldStore⟩ := old
  obtain ⟨newFrames, newStore⟩ := new
  have size_le : oldStore.size ≤ newStore.size := h.store.size_le
  cases h.frames with
  | none =>
    simp only [restore, shrink]
    congr 1
    exact Store.shrink_eq size_le fun slot had => h.store.read_eq slot had (by simp [reach])
  | @top old new below grows =>
    have values : (snapshot ⟨old :: below, oldStore⟩).values =
        old.slots.map fun slot => (slot, oldStore.read slot) := by
      simp [snapshot, Frame.slots, Function.comp_def]
    have frame : { new with bindings := old.bindings } = old := by
      rw [show new = ⟨new.function, new.callLine, new.bindings⟩ from rfl, grows.function_eq,
        grows.callLine_eq]
    simp only [restore, shrink, values]
    congr 1
    · exact congrArg (· :: below) frame
    · refine Store.shrink_eq (by rw [Store.size_writeAll]; exact size_le) fun slot had => ?_
      have has : newStore.Has slot := Nat.lt_of_lt_of_le had size_le
      rw [Store.read_writeAll _ _ has]
      -- a slot out of reach was not written to, so it needs no putting back
      split
      · rfl
      · next closed => exact h.store.read_eq slot had closed

end Memory

end RobotScribe
