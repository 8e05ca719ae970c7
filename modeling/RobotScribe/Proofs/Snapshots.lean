/-
# Snapshots

A snapshot of the top frame undoes whatever is done to that frame, as long as the frame is there in
the end.  In the meantime its names may be bound to other slots, new names may be added, and its
slots may be written to under other names and from other frames; functions may be entered and left,
and other snapshots may be restored.

All that is a list of edits.  No edit gives a slot back, and none changes a frame below the top one
or more than the names of the top one.  So two things are known of the frame of the snapshot as long
as it is not taken away: at most its names have changed, and its slots are still there.
-/
import RobotScribe.Proofs.Storage

namespace RobotScribe

/-- Values that are written to other slots do not matter. -/
lemma Store.read_writeAll_of_notMem (assigned : Slot → Value) {slots : List Slot} {slot : Slot}
    {s : Store} (away : slot ∉ slots) :
    (s.writeAll (slots.map fun slot => (slot, assigned slot))).read slot = s.read slot := by
  induction slots generalizing s with
  | nil => rfl
  | cons head rest ih =>
    simp only [List.mem_cons, not_or] at away
    change ((s.write head (assigned head)).writeAll _).read slot = _
    rw [ih away.2, read_write_of_ne (Ne.symm away.1)]

namespace Memory

/-! ## Edits -/

/-- Something that is done to a memory. -/
inductive Edit where
  /-- Gives a variable of the top frame a value. -/
  | define (name : String) (value : Value)
  /-- Binds a name of the top frame to a slot. -/
  | bind (name : String) (slot : Slot)
  /-- Stores an element of an array variable of the top frame, if that can be done. -/
  | storeElement (name : String) (index : Int64) (element : Value)
  /-- Replaces the value in a slot, whatever names it has. -/
  | write (slot : Slot) (value : Value)
  /-- Makes a slot that holds a value. -/
  | alloc (value : Value)
  /-- Puts a frame without variables on top. -/
  | push (function : String) (callLine : UInt32)
  /-- Takes the top frame away, if there is one. -/
  | pop
  /-- Restores a snapshot in the top frame, whenever and wherever it was taken. -/
  | restore (saved : Snapshot)
deriving Repr

/-- The memory after an edit.  An element that cannot be stored leaves it as it is. -/
def edit (m : Memory) : Edit → Memory
  | .define name value => m.define name value
  | .bind name slot => m.bind name slot
  | .storeElement name index element => (m.storeElement name index element).toOption.getD m
  | .write slot value => m.write slot value
  | .alloc value => m.alloc value
  | .push function callLine => m.push function callLine
  | .pop => m.pop
  | .restore saved => m.restore saved

/-- The memory after some edits. -/
def edits (m : Memory) (list : List Edit) : Memory := list.foldl edit m

/-- How many frames stand on a given one after an edit, unless the edit takes that one away. -/
def Edit.climb (above : Nat) : Edit → Option Nat
  | .push .. => some (above + 1)
  | .pop => if above = 0 then none else some (above - 1)
  | _ => some above

/-- Edits after which the frame that was on top at the start is on top again, without having been
taken away. -/
def Returns (list : List Edit) : Prop := list.foldlM Edit.climb 0 = some 0

instance (list : List Edit) : Decidable (Returns list) := inferInstanceAs (Decidable (_ = _))

/-! ## What one edit changes -/

/-- Frames without the names of the top one. -/
def bare : List Frame → List Frame
  | [] => []
  | frame :: below => { frame with bindings := [] } :: below

@[simp] lemma bare_nil : bare [] = [] := rfl

@[simp] lemma bare_cons (frame : Frame) (below : List Frame) :
    bare (frame :: below) = { frame with bindings := [] } :: below := rfl

/-- Frames that are the same but for the names of the top one fall into parts in the same way. -/
lemma exists_append_of_bare_eq {frames tops base : List Frame}
    (h : bare frames = bare (tops ++ base)) :
    ∃ tops' base', frames = tops' ++ base' ∧ tops'.length = tops.length ∧
      bare base' = bare base := by
  cases tops with
  | nil => exact ⟨[], frames, rfl, rfl, h⟩
  | cons top rest =>
    cases frames with
    | nil => simp at h
    | cons frame below =>
      simp only [List.cons_append, bare_cons, List.cons.injEq] at h
      exact ⟨frame :: rest, base, by simp [h.2], by simp, rfl⟩

section

variable (m : Memory)

/-- An edit that neither puts a frame on top nor takes one away changes at most the names of the
top frame, and it gives no slot back. -/
structure Stays (old new : Memory) : Prop where
  frames : bare new.frames = bare old.frames
  size_le : old.store.size ≤ new.store.size

lemma stays_bind (name : String) (slot : Slot) : Stays m (m.bind name slot) := by
  obtain ⟨_ | ⟨frame, below⟩, store⟩ := m
  · exact ⟨rfl, Nat.le_refl _⟩
  · exact ⟨rfl, Nat.le_refl _⟩

lemma stays_write (slot : Slot) (value : Value) : Stays m (m.write slot value) :=
  ⟨rfl, by simp [Memory.write, Store.size_write]⟩

lemma stays_alloc (value : Value) : Stays m (m.alloc value) :=
  ⟨rfl, by simp [Memory.alloc, Store.size_alloc]⟩

lemma stays_restore (saved : Snapshot) : Stays m (m.restore saved) := by
  obtain ⟨_ | ⟨frame, below⟩, store⟩ := m
  · exact ⟨rfl, Nat.le_refl _⟩
  · exact ⟨rfl, by simp [Memory.restore, Store.size_writeAll]⟩

end

/-- What evolves a memory leaves all frames but the top one as they are. -/
lemma Evolves.stays {old new : Memory} (h : Evolves old new) : Stays old new := by
  refine ⟨?_, h.store.size_le⟩
  obtain ⟨oldFrames, oldStore⟩ := old
  obtain ⟨newFrames, newStore⟩ := new
  cases h.frames with
  | none => rfl
  | top below grows => simp [grows.function_eq, grows.callLine_eq]

lemma stays_storeElement (m : Memory) (name : String) (index : Int64) (element : Value) :
    Stays m ((m.storeElement name index element).toOption.getD m) := by
  cases stored : m.storeElement name index element with
  | error fault => exact ⟨rfl, Nat.le_refl _⟩
  | ok new => exact (Evolves.storeElement stored).stays

/-! ## What some edits change -/

/-- So many frames stand on the frames of an older memory, of which at most the names of the top
one have changed, and all slots of that memory are still there. -/
structure StandsOn (old : Memory) (above : Nat) (new : Memory) : Prop where
  frames : ∃ tops base, new.frames = tops ++ base ∧ tops.length = above ∧
    bare base = bare old.frames
  size_le : old.store.size ≤ new.store.size

namespace StandsOn

variable {old new : Memory} {above : Nat}

lemma refl (m : Memory) : StandsOn m 0 m := ⟨⟨[], m.frames, rfl, rfl, rfl⟩, Nat.le_refl _⟩

lemma stays (h : StandsOn old above new) {later : Memory} (stays : Stays new later) :
    StandsOn old above later := by
  obtain ⟨⟨tops, base, frames, height, same⟩, size_le⟩ := h
  have changed : bare later.frames = bare (tops ++ base) := by rw [stays.frames, frames]
  obtain ⟨tops', base', frames', height', same'⟩ := exists_append_of_bare_eq changed
  exact ⟨⟨tops', base', frames', height'.trans height, same'.trans same⟩,
    Nat.le_trans size_le stays.size_le⟩

lemma push (h : StandsOn old above new) (function : String) (callLine : UInt32) :
    StandsOn old (above + 1) (new.push function callLine) := by
  obtain ⟨⟨tops, base, frames, height, same⟩, size_le⟩ := h
  refine ⟨⟨⟨function, callLine, []⟩ :: tops, base, ?_, by simp [height], same⟩, size_le⟩
  simp [Memory.push, frames]

lemma pop (h : StandsOn old (above + 1) new) : StandsOn old above new.pop := by
  obtain ⟨⟨tops, base, frames, height, same⟩, size_le⟩ := h
  cases tops with
  | nil => simp at height
  | cons top rest =>
    refine ⟨⟨rest, base, ?_, by simpa using height, same⟩, size_le⟩
    simp [Memory.pop, frames]

/-- One edit, as long as it does not take the frame of the older memory away. -/
lemma edit (h : StandsOn old above new) {e : Edit} {after : Nat}
    (climbs : e.climb above = some after) : StandsOn old after (new.edit e) := by
  cases e with
  | push function callLine =>
    obtain rfl : above + 1 = after := by simpa [Edit.climb] using climbs
    exact h.push function callLine
  | pop =>
    obtain ⟨inside, rfl⟩ : above ≠ 0 ∧ above - 1 = after := by simpa [Edit.climb] using climbs
    obtain ⟨k, rfl⟩ := Nat.exists_eq_succ_of_ne_zero inside
    exact h.pop
  | define name value =>
    cases climbs
    exact h.stays (Evolves.define new name value).stays
  | bind name slot =>
    cases climbs
    exact h.stays (stays_bind new name slot)
  | storeElement name index element =>
    cases climbs
    exact h.stays (stays_storeElement new name index element)
  | write slot value =>
    cases climbs
    exact h.stays (stays_write new slot value)
  | alloc value =>
    cases climbs
    exact h.stays (stays_alloc new value)
  | restore saved =>
    cases climbs
    exact h.stays (stays_restore new saved)

/-- Edits one after the other, by induction on the list: the frame stays where it is. -/
lemma edits (h : StandsOn old above new) {list : List Edit} {after : Nat}
    (climbs : list.foldlM Edit.climb above = some after) :
    StandsOn old after (new.edits list) := by
  induction list generalizing above new with
  | nil =>
    cases climbs
    exact h
  | cons e rest ih =>
    obtain ⟨next, first, later⟩ := Option.bind_eq_some_iff.mp climbs
    exact ih (h.edit first) later

end StandsOn

/-! ## Putting a frame back -/

/-- The slots in a snapshot are those that the top frame binds. -/
lemma values_snapshot (m : Memory) :
    m.snapshot.values = m.reach.map fun slot => (slot, m.store.read slot) := by
  obtain ⟨_ | ⟨frame, below⟩, store⟩ := m
  · rfl
  · simp [snapshot, reach, Frame.slots]

/-- The frames below a frame are as they were, and the frame gets its names back. -/
lemma StandsOn.frames_restore {old new : Memory} (h : StandsOn old 0 new) :
    (new.restore old.snapshot).frames = old.frames := by
  obtain ⟨⟨tops, base, frames, height, same⟩, -⟩ := h
  obtain rfl : tops = [] := List.length_eq_zero_iff.mp height
  obtain ⟨oldFrames, oldStore⟩ := old
  obtain ⟨newFrames, newStore⟩ := new
  obtain rfl : newFrames = base := frames
  cases oldFrames with
  | nil =>
    cases newFrames with
    | nil => rfl
    | cons frame below => simp at same
  | cons oldTop oldBelow =>
    cases newFrames with
    | nil => simp at same
    | cons top below =>
      simp only [bare_cons, List.cons.injEq, Frame.mk.injEq] at same
      obtain ⟨⟨function, callLine, -⟩, rfl⟩ := same
      simp [restore, snapshot, function, callLine]

/-- A slot in the snapshot gets its value back, however many names it has, and any other slot keeps
the value that it has by now. -/
lemma StandsOn.read_restore {old new : Memory} (h : StandsOn old 0 new) (sound : old.Sound)
    (slot : Slot) :
    (new.restore old.snapshot).store.read slot =
      if slot ∈ old.reach then old.store.read slot else new.store.read slot := by
  obtain ⟨⟨tops, base, frames, height, same⟩, size_le⟩ := h
  obtain rfl : tops = [] := List.length_eq_zero_iff.mp height
  obtain ⟨newFrames, newStore⟩ := new
  obtain rfl : newFrames = base := frames
  cases newFrames with
  | nil =>
    -- without a frame there is nothing to restore, and nothing in reach
    have bound : old.reach = [] := by
      obtain ⟨_ | ⟨frame, below⟩, store⟩ := old
      · rfl
      · simp at same
    simp [restore, bound]
  | cons top below =>
    simp only [restore, values_snapshot]
    by_cases mem : slot ∈ old.reach
    · have made : newStore.Has slot := Nat.lt_of_lt_of_le (sound.has_of_mem_reach mem) size_le
      rw [Store.read_writeAll _ _ made]
    · rw [Store.read_writeAll_of_notMem _ mem, if_neg mem]

/-- **A snapshot undoes whatever is done to its frame.**  Take a snapshot, then make any edits that
come back to the frame, and restore the snapshot.  Then the frame has the names that it had, each
bound to the same slot, and the frames below are as they were.  Each name has the value that it had,
with its text, and so has each slot that was bound in the frame, whatever other names the slot has.
All other slots have the values that they have had before the snapshot was restored. -/
theorem restore_undoes_edits {m : Memory} (sound : m.Sound) {list : List Edit}
    (returns : Returns list) :
    ((m.edits list).restore m.snapshot).frames = m.frames ∧
      (∀ name, ((m.edits list).restore m.snapshot).get? name = m.get? name) ∧
      (∀ slot ∈ m.reach,
        ((m.edits list).restore m.snapshot).store.read slot = m.store.read slot) ∧
      (∀ slot ∉ m.reach,
        ((m.edits list).restore m.snapshot).store.read slot = (m.edits list).store.read slot) := by
  have stands : StandsOn m 0 (m.edits list) := (StandsOn.refl m).edits returns
  have frames := stands.frames_restore
  have read := stands.read_restore sound
  refine ⟨frames, fun name => ?_, fun slot mem => ?_, fun slot away => ?_⟩
  · have same : ((m.edits list).restore m.snapshot).slot? name = m.slot? name := by
      simp only [slot?, frames]
    cases bound : m.slot? name with
    | none => simp [get?, same, bound]
    | some slot => simp [get?, same, bound, read, mem_reach_of_slot? bound]
  · rw [read, if_pos mem]
  · rw [read, if_neg away]

/-! ## A frame that is taken apart -/

/-- A function in whose frame two names share a slot, also with a name of its caller, and an array
with a slot of its own.  The last slot is bound nowhere. -/
def entangled : Memory :=
  ⟨[⟨"f", 3, [("x", ⟨0⟩), ("y", ⟨0⟩), ("a", ⟨1⟩)]⟩, ⟨"main", 0, [("z", ⟨0⟩)]⟩],
    ⟨#[.integer 7, .integers #[1], .boolean true]⟩⟩

/-- Edits by which the two names come apart, the array grows and gets another slot, and new names
are added.  A function is entered that writes to the shared slot, and within it another snapshot is
taken and restored. -/
def untangling : List Edit :=
  let inner : List Edit :=
    [.define "x" (.integer 1), .bind "y" ⟨2⟩, .define "y" (.string "y"),
     .storeElement "a" 3 (.integer 4), .storeElement "a" (-1) (.integer 4), .bind "a" ⟨0⟩,
     .push "g" 5, .bind "p" ⟨0⟩, .define "p" (.integer 9)]
  let within : Memory := entangled.edits inner
  inner ++ [.write ⟨0⟩ .void, .define "q" (.integer 2), .restore within.snapshot, .pop,
    .alloc (.integer 6), .define "w" (.integer 8)]

theorem restore_undoes_edits_untangling :
    entangled.Sound ∧ Returns untangling ∧
      (entangled.edits untangling).get? "x" = some (.integer 9) ∧
      (entangled.edits untangling).get? "y" = some (.string "y") ∧
      (entangled.edits untangling).get? "a" = some (.integer 9) ∧
      ((entangled.edits untangling).restore entangled.snapshot).frames = entangled.frames ∧
      (∀ name, ((entangled.edits untangling).restore entangled.snapshot).get? name =
        entangled.get? name) ∧
      entangled.get? "y" = some (.integer 7) ∧ entangled.get? "a" = some (.integers #[1]) ∧
      ((entangled.edits untangling).restore entangled.snapshot).store.read ⟨2⟩ = .string "y" := by
  have sound : entangled.Sound := by
    unfold Sound entangled Store.Has
    decide
  have returns : Returns untangling := by decide
  obtain ⟨frames, values, -, others⟩ := restore_undoes_edits sound returns
  refine ⟨sound, returns, by decide, by decide, by decide, frames, values, by decide, by decide, ?_⟩
  rw [others ⟨2⟩ (by decide)]
  decide

end Memory

end RobotScribe
