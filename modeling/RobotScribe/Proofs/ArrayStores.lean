/-
# Storing elements one after the other

An array comes into being when its first element is stored, and it gets longer when an element is
stored past its end.  After any number of attempts it is known what it holds: at each index the
element that was stored there last, and zeros or `false` in the gaps.  An attempt that fails does
not count.

The arrays of integers and those of truth values behave in the same way, so they are looked at as
one kind of thing (`Items`).  Indices are positions there, and what has been stored is a list of
writes to positions (`filled`).
-/
import RobotScribe.Proofs.Computation
import RobotScribe.Proofs.Pairing
import Mathlib.Data.List.Induction

namespace RobotScribe

/-! ## Positions -/

lemma position?_eq_some {index : Int64} {i : Nat} :
    position? index = some i ↔ index.toInt = i := by
  unfold position?
  by_cases negative : 0 ≤ index
  · have le : 0 ≤ index.toInt := Int64.le_iff_toInt_le.mp negative
    simp only [negative, if_true, Option.some.injEq]
    omega
  · have lt : index.toInt < 0 := Int.not_le.mp fun le => negative (Int64.le_iff_toInt_le.mpr le)
    simp only [negative, if_false]
    constructor
    · intro h
      cases h
    · intro h
      omega

lemma position?_eq_none {index : Int64} : position? index = none ↔ index < 0 := by
  unfold position?
  by_cases negative : 0 ≤ index
  · simp [negative, Int64.not_lt.mpr negative]
  · simp [negative, Int64.not_le.mp negative]

/-! ## Writes to positions -/

section

variable {α : Type} (gap : α)

/-- The array that comes of storing items at positions, one after the other. -/
def filled (writes : List (Nat × α)) : Array α :=
  writes.foldl (fun items write => storeAt gap items write.1 write.2) #[]

lemma filled_concat (writes : List (Nat × α)) (write : Nat × α) :
    filled gap (writes ++ [write]) = storeAt gap (filled gap writes) write.1 write.2 := by
  simp [filled]

/-- The array is as long as is needed for the positions. -/
lemma lt_size_filled {writes : List (Nat × α)} {write : Nat × α} (mem : write ∈ writes) :
    write.1 < (filled gap writes).size := by
  induction writes using List.reverseRecOn with
  | nil => simp at mem
  | append_singleton writes last ih =>
    rw [filled_concat, size_storeAt]
    rcases List.mem_append.mp mem with mem | mem
    · have lt := ih mem
      omega
    · rw [List.mem_singleton.mp mem]
      omega

/-- The array is no longer than is needed for the positions. -/
lemma exists_size_filled {writes : List (Nat × α)} (nonempty : writes ≠ []) :
    ∃ write ∈ writes, (filled gap writes).size = write.1 + 1 := by
  induction writes using List.reverseRecOn with
  | nil => exact absurd rfl nonempty
  | append_singleton writes last ih =>
    rw [filled_concat, size_storeAt]
    by_cases longer : (filled gap writes).size ≤ last.1 + 1
    · exact ⟨last, by simp, by omega⟩
    · have before : writes ≠ [] := by
        rintro rfl
        simp [filled] at longer
      obtain ⟨write, mem, size⟩ := ih before
      exact ⟨write, by simp [mem], by omega⟩

/-- The item that was written last to a position. -/
lemma getElem?_filled_of_last {writes : List (Nat × α)} {i : Nat} {write : Nat × α}
    (last : (writes.filter (·.1 = i)).getLast? = some write) :
    (filled gap writes)[i]? = some write.2 := by
  induction writes using List.reverseRecOn with
  | nil => simp at last
  | append_singleton writes latest ih =>
    rw [filled_concat]
    by_cases here : latest.1 = i
    · obtain rfl : latest = write := by simpa [here] using last
      rw [← here]
      exact getElem?_storeAt_self ..
    · have before : (writes.filter (·.1 = i)).getLast? = some write := by simpa [here] using last
      have stored := ih before
      have inside : i < (filled gap writes).size := (Array.getElem?_eq_some_iff.mp stored).1
      rw [getElem?_storeAt_of_ne here, if_pos inside, stored]

/-- A position that was never written to holds what fills the gaps. -/
lemma getElem?_filled_of_gap {writes : List (Nat × α)} {i : Nat}
    (never : ∀ write ∈ writes, write.1 ≠ i) (inside : i < (filled gap writes).size) :
    (filled gap writes)[i]? = some gap := by
  induction writes using List.reverseRecOn with
  | nil => simp [filled] at inside
  | append_singleton writes latest ih =>
    have elsewhere : latest.1 ≠ i := never latest (by simp)
    rw [filled_concat, size_storeAt] at inside
    rw [filled_concat, getElem?_storeAt_of_ne elsewhere]
    by_cases before : i < (filled gap writes).size
    · rw [if_pos before]
      exact ih (fun write mem => never write (by simp [mem])) before
    · rw [if_neg before, if_pos (by omega)]

end

/-! ## Arrays of integers and arrays of truth values -/

/-- What arrays of items of one kind have to do with values. -/
structure Items (α : Type) where
  /-- The kind of the items. -/
  kind : TypeKind
  /-- What fills a gap. -/
  gap : α
  /-- An item as a payload. -/
  item : α → Payload
  /-- An array of items as a payload. -/
  array : Array α → Payload
  kind_eq : kind = .integer ∨ kind = .boolean
  kind_item : ∀ a, (item a).kind = kind
  exists_item : ∀ {payload : Payload}, payload.kind = kind → ∃ a, payload = item a
  item_gap : item gap = .standIn kind
  emptyArrayFor_eq : ∀ {element : Value}, element.kind = kind →
    element.emptyArrayFor = .ok (.shown (array #[]))
  length_eq : ∀ items, (Value.shown (array items)).length = items.size
  element_eq : ∀ items index, (Value.shown (array items)).element index =
    match itemAt? items index with
    | some a => .ok (.shown (item a))
    | none => .error (.indexOutOfBounds index items.size)
  storeElement_eq : ∀ items {index : Int64} {i : Nat} {element : Value} {a : α},
    position? index = some i → element.payload = item a →
      (Value.shown (array items)).storeElement index element =
        .ok (.shown (array (storeAt gap items i a)))
  storeElement_ne : ∀ items {element : Value}, element.kind ≠ kind → ∀ index new,
    (Value.shown (array items)).storeElement index element ≠ .ok new

namespace Items

/-- Arrays of integers. -/
def integers : Items Int64 where
  kind := .integer
  gap := 0
  item := .integer
  array := .integers
  kind_eq := Or.inl rfl
  kind_item _ := rfl
  exists_item := by
    intro payload same
    cases payload <;> simp_all [Payload.kind]
  item_gap := rfl
  emptyArrayFor_eq := by
    rintro ⟨payload, text⟩ same
    cases payload <;> simp_all [Value.kind, Payload.kind, Value.emptyArrayFor, Value.integers]
  length_eq _ := rfl
  element_eq items index := by
    cases found : itemAt? items index <;>
      simp [Value.element, Value.shown, Value.integer, found]
  storeElement_eq := by
    rintro items index i ⟨payload, text⟩ a position rfl
    simp [Value.storeElement, position, Value.shown, Value.integers]
  storeElement_ne := by
    rintro items ⟨payload, text⟩ other index new stored
    unfold Value.storeElement at stored
    generalize position? index = position at stored
    cases position <;> cases payload <;> simp_all [Value.kind, Payload.kind, Value.shown]

/-- Arrays of truth values. -/
def booleans : Items Bool where
  kind := .boolean
  gap := false
  item := .boolean
  array := .booleans
  kind_eq := Or.inr rfl
  kind_item _ := rfl
  exists_item := by
    intro payload same
    cases payload <;> simp_all [Payload.kind]
  item_gap := rfl
  emptyArrayFor_eq := by
    rintro ⟨payload, text⟩ same
    cases payload <;> simp_all [Value.kind, Payload.kind, Value.emptyArrayFor, Value.booleans]
  length_eq _ := rfl
  element_eq items index := by
    cases found : itemAt? items index <;>
      simp [Value.element, Value.shown, Value.boolean, found]
  storeElement_eq := by
    rintro items index i ⟨payload, text⟩ a position rfl
    simp [Value.storeElement, position, Value.shown, Value.booleans]
  storeElement_ne := by
    rintro items ⟨payload, text⟩ other index new stored
    unfold Value.storeElement at stored
    generalize position? index = position at stored
    cases position <;> cases payload <;> simp_all [Value.kind, Payload.kind, Value.shown]

variable {α : Type} (I : Items α)

lemma of_kind {kind : TypeKind} (h : kind = .integer ∨ kind = .boolean) :
    ∃ (α : Type) (I : Items α), I.kind = kind := by
  rcases h with rfl | rfl
  · exact ⟨Int64, integers, rfl⟩
  · exact ⟨Bool, booleans, rfl⟩

end Items

/-! ## Attempts -/

/-- An attempt to store an element at an index. -/
structure Attempt where
  /-- Where the element is to be stored. -/
  index : Int64
  /-- What is to be stored. -/
  element : Value
deriving Repr, DecidableEq

/-- Only integers and truth values can be in an array. -/
lemma Value.emptyArrayFor_of_other {element : Value}
    (other : ¬(element.kind = .integer ∨ element.kind = .boolean)) :
    element.emptyArrayFor = .error (.typeMismatch "integer or boolean" element.kind) := by
  obtain ⟨payload, text⟩ := element
  cases payload <;> simp_all [Value.emptyArrayFor, Value.kind, Payload.kind]

/-- An index cannot be negative. -/
lemma Value.storeElement_ne_of_negative (array : Value) {index : Int64} (negative : index < 0)
    (element new : Value) : array.storeElement index element ≠ .ok new := by
  simp [Value.storeElement, position?_eq_none.mpr negative]

/-- An attempt comes down to a write to a position. -/
def Items.Writes {α : Type} (I : Items α) (a : Attempt) (write : Nat × α) : Prop :=
  position? a.index = some write.1 ∧ a.element.payload = I.item write.2

namespace Items

variable {α : Type} {I : Items α} {items : Array α} {a : Attempt} {write : Nat × α}

lemma Writes.index_eq (h : I.Writes a write) : a.index.toInt = write.1 := position?_eq_some.mp h.1

lemma Writes.nonneg (h : I.Writes a write) : 0 ≤ a.index := by
  rw [Int64.le_iff_toInt_le, h.index_eq]
  exact Int.natCast_nonneg _

lemma Writes.kind_eq (h : I.Writes a write) : a.element.kind = I.kind := by
  rw [Value.kind, h.2, I.kind_item]

lemma exists_writes (nonneg : 0 ≤ a.index) (kind : a.element.kind = I.kind) :
    ∃ write, I.Writes a write := by
  obtain ⟨item, same⟩ := I.exists_item kind
  exact ⟨(_, item), if_pos nonneg, same⟩

/-- An attempt succeeds if it comes down to a write. -/
lemma Writes.storeElement_eq (h : I.Writes a write) :
    (Value.shown (I.array items)).storeElement a.index a.element =
      .ok (.shown (I.array (storeAt I.gap items write.1 write.2))) :=
  I.storeElement_eq items h.1 h.2

/-- An attempt that succeeds comes down to a write. -/
lemma exists_writes_of_ok {new : Value}
    (stored : (Value.shown (I.array items)).storeElement a.index a.element = .ok new) :
    ∃ write, I.Writes a write := by
  apply exists_writes
  · by_contra negative
    exact Value.storeElement_ne_of_negative _ (Int64.not_le.mp negative) _ _ stored
  · by_contra other
    exact I.storeElement_ne items other _ _ stored

end Items

/-! ## The variable in between -/

/-- An attempt can succeed after those that have: its index is not negative, and its element is an
integer or a truth value, like the first element that was stored. -/
def Attempt.Fits (stored : List Attempt) (a : Attempt) : Prop :=
  0 ≤ a.index ∧ (a.element.kind = .integer ∨ a.element.kind = .boolean) ∧
    ∀ first ∈ stored.head?, a.element.kind = first.element.kind

/-- After one that has been stored, an attempt fits if it comes down to a write as well. -/
lemma Items.fits_iff {α : Type} {I : Items α} {stored : List Attempt} {writes : List (Nat × α)}
    {a : Attempt} (nonempty : stored ≠ []) (same : List.Forall₂ I.Writes stored writes) :
    a.Fits stored ↔ ∃ write, I.Writes a write := by
  obtain ⟨first, rest, rfl⟩ := List.exists_cons_of_ne_nil nonempty
  obtain ⟨write, -, head, -, -⟩ := List.forall₂_cons_left_iff.mp same
  constructor
  · intro fits
    exact exists_writes fits.1 ((fits.2.2 first rfl).trans head.kind_eq)
  · rintro ⟨write', writes⟩
    refine ⟨writes.nonneg, ?_, ?_⟩
    · rw [writes.kind_eq]
      exact I.kind_eq
    · rintro _ ⟨⟩
      rw [writes.kind_eq, head.kind_eq]

namespace Memory

/-- The memory after attempts for a variable that was not bound.  It is as it was, or the variable
holds the array of the elements that have been stored. -/
inductive Keeps (name : String) (m : Memory) : List Attempt → Memory → Prop where
  | nothing : Keeps name m [] m
  | array {α : Type} {I : Items α} {stored : List Attempt} {writes : List (Nat × α)} {n : Memory}
      {slot : Slot} (nonempty : stored ≠ []) (same : List.Forall₂ I.Writes stored writes)
      (bound : n.slot? name = some slot) (has : n.store.Has slot)
      (read : n.store.read slot = .shown (I.array (filled I.gap writes))) : Keeps name m stored n

/-- A variable that is defined anew is bound to a slot that holds its value. -/
lemma define_of_unbound {name : String} {m : Memory} (running : m.frames ≠ [])
    (unbound : m.slot? name = none) (value : Value) :
    (m.define name value).slot? name = some m.store.next ∧
      (m.define name value).store = m.store.alloc value := by
  obtain ⟨_ | ⟨frame, below⟩, store⟩ := m
  · exact absurd rfl running
  · have free : frame.slot? name = none := unbound
    simp [define, free, alloc, bind, slot?]

/-- The first attempt that succeeds makes an array. -/
lemma Keeps.first {name : String} {m : Memory} (running : m.frames ≠ [])
    (unbound : m.slot? name = none) (a : Attempt) :
    (a.Fits [] ∧ ∃ n, m.storeElement name a.index a.element = .ok n ∧ Keeps name m [a] n) ∨
      ¬a.Fits [] ∧ ∃ fault, m.storeElement name a.index a.element = .error fault := by
  rw [storeElement_of_unbound unbound]
  by_cases kind : a.element.kind = .integer ∨ a.element.kind = .boolean
  · obtain ⟨α, I, same⟩ := Items.of_kind kind
    rw [I.emptyArrayFor_eq same.symm]
    change _ ∧ (∃ n, ((Value.shown (I.array #[])).storeElement _ _).map _ = _ ∧ _) ∨
      _ ∧ ∃ fault, ((Value.shown (I.array #[])).storeElement _ _).map _ = _
    by_cases nonneg : 0 ≤ a.index
    · obtain ⟨write, writes⟩ := Items.exists_writes nonneg same.symm
      rw [writes.storeElement_eq]
      obtain ⟨bound, store⟩ := define_of_unbound running unbound
        (.shown (I.array (storeAt I.gap #[] write.1 write.2)))
      refine Or.inl ⟨⟨nonneg, kind, by simp⟩, _, rfl,
        .array (by simp) (.cons writes .nil) bound ?_ ?_⟩
      · rw [store]
        exact Store.has_next
      · rw [store, Store.read_alloc_next]
        rfl
    · refine Or.inr ⟨fun fits => nonneg fits.1, ?_⟩
      cases stored : (Value.shown (I.array #[])).storeElement a.index a.element with
      | error fault => exact ⟨fault, rfl⟩
      | ok new =>
        exact absurd stored (Value.storeElement_ne_of_negative _ (Int64.not_le.mp nonneg) _ _)
  · refine Or.inr ⟨fun fits => kind fits.2.1, .typeMismatch "integer or boolean" a.element.kind, ?_⟩
    rw [Value.emptyArrayFor_of_other kind]
    rfl

/-- The next attempt succeeds just if it fits those that have succeeded, and then it joins them. -/
lemma Keeps.next {name : String} {m n : Memory} {stored : List Attempt} (running : m.frames ≠ [])
    (unbound : m.slot? name = none) (h : Keeps name m stored n) (a : Attempt) :
    (a.Fits stored ∧
        ∃ n', n.storeElement name a.index a.element = .ok n' ∧ Keeps name m (stored ++ [a]) n') ∨
      ¬a.Fits stored ∧ ∃ fault, n.storeElement name a.index a.element = .error fault := by
  cases h with
  | nothing => exact Keeps.first running unbound a
  | @array α I _ writes _ slot nonempty same bound has read =>
    rw [storeElement_of_bound bound, read, Items.fits_iff nonempty same]
    by_cases fits : ∃ write, I.Writes a write
    · obtain ⟨write, writes⟩ := fits
      rw [writes.storeElement_eq]
      refine Or.inl ⟨⟨write, writes⟩, _, rfl,
        .array (by simp) (List.rel_append same (.cons writes .nil)) bound ?_ ?_⟩
      · exact Store.has_write.mpr has
      · rw [filled_concat]
        exact Store.read_write_self has _
    · refine Or.inr ⟨fits, ?_⟩
      cases stored : (Value.shown (I.array (filled I.gap writes))).storeElement a.index a.element
      with
      | error fault => exact ⟨fault, rfl⟩
      | ok new => exact absurd (Items.exists_writes_of_ok stored) fits

end Memory

/-! ## What the array holds -/

/-- An array holds at each index the element that was stored there last. -/
structure Value.Remembers (array : Value) (stored : List Attempt) (kind : TypeKind) : Prop where
  /-- The text shows the array as it is. -/
  text_eq : array.text = array.display
  /-- The array goes beyond each index. -/
  lt_length : ∀ a ∈ stored, a.index.toInt < array.length
  /-- The array ends right after one of the indices. -/
  exists_length : ∃ a ∈ stored, (array.length : Int) = a.index.toInt + 1
  /-- What was stored last at an index is there. -/
  element_last : ∀ {index : Int64} {a : Attempt},
    (stored.filter (·.index = index)).getLast? = some a →
      array.element index = .ok (.shown a.element.payload)
  /-- Where nothing was stored, there is a zero or `false`. -/
  element_gap : ∀ {index : Int64}, 0 ≤ index → index.toInt < array.length →
    (∀ a ∈ stored, a.index ≠ index) → array.element index = .ok (.shown (.standIn kind))
  /-- There is nothing at any other index. -/
  element_outside : ∀ {index : Int64}, index < 0 ∨ array.length ≤ index.toInt →
    array.element index = .error (.indexOutOfBounds index array.length)

lemma itemAt?_of_position {α : Type} {items : Array α} {index : Int64} {i : Nat}
    (position : index.toInt = i) : itemAt? items index = items[i]? := by
  simp [itemAt?, position?_eq_some.mpr position]

lemma itemAt?_of_outside {α : Type} {items : Array α} {index : Int64}
    (outside : index < 0 ∨ items.size ≤ index.toInt) : itemAt? items index = none := by
  rcases outside with negative | beyond
  · simp [itemAt?, position?_eq_none.mpr negative]
  · obtain ⟨i, position⟩ := Int.eq_ofNat_of_zero_le (Int.le_trans (Int.natCast_nonneg _) beyond)
    rw [itemAt?_of_position position, Array.getElem?_eq_none_iff]
    omega

namespace Items

variable {α : Type} {I : Items α} {stored : List Attempt} {writes : List (Nat × α)}

lemma exists_write_of_mem (same : List.Forall₂ I.Writes stored writes) {a : Attempt}
    (mem : a ∈ stored) : ∃ write ∈ writes, I.Writes a write := by
  induction same with
  | nil => simp at mem
  | cons head _ ih =>
    rcases List.mem_cons.mp mem with rfl | mem
    · exact ⟨_, List.mem_cons_self, head⟩
    · obtain ⟨write, mem, writes⟩ := ih mem
      exact ⟨write, List.mem_cons_of_mem _ mem, writes⟩

lemma exists_attempt_of_mem (same : List.Forall₂ I.Writes stored writes) {write : Nat × α}
    (mem : write ∈ writes) : ∃ a ∈ stored, I.Writes a write := by
  induction same with
  | nil => simp at mem
  | cons head _ ih =>
    rcases List.mem_cons.mp mem with rfl | mem
    · exact ⟨_, List.mem_cons_self, head⟩
    · obtain ⟨a, mem, writes⟩ := ih mem
      exact ⟨a, List.mem_cons_of_mem _ mem, writes⟩

/-- What was stored last at an index was written last to its position. -/
lemma exists_last_write (same : List.Forall₂ I.Writes stored writes) {index : Int64} {a : Attempt}
    (last : (stored.filter (·.index = index)).getLast? = some a) :
    ∃ i write, index.toInt = (i : Nat) ∧ I.Writes a write ∧
      (writes.filter (·.1 = i)).getLast? = some write := by
  have mem := List.mem_filter.mp (List.mem_of_getLast? last)
  obtain ⟨write, -, latest⟩ := exists_write_of_mem same mem.1
  have position : index.toInt = write.1 := by
    rw [← latest.index_eq, of_decide_eq_true mem.2]
  have here : List.Forall₂ I.Writes (stored.filter (·.index = index))
      (writes.filter (·.1 = write.1)) := by
    refine List.rel_filter (fun b other writes => ?_) same
    have there := writes.index_eq
    simp only [decide_eq_true_eq, ← Int64.toInt_inj]
    omega
  rw [← List.head?_reverse, List.head?_eq_some_iff] at last
  obtain ⟨before, reversed⟩ := last
  have backwards := List.rel_reverse here
  rw [reversed] at backwards
  obtain ⟨write', before', writes, -, reversed'⟩ := List.forall₂_cons_left_iff.mp backwards
  refine ⟨write.1, write', position, writes, ?_⟩
  rw [← List.head?_reverse, reversed']
  rfl

/-- The array of some writes holds what was stored by the attempts that came down to them. -/
lemma remembers (nonempty : stored ≠ []) (same : List.Forall₂ I.Writes stored writes) :
    (Value.shown (I.array (filled I.gap writes))).Remembers stored I.kind := by
  have length := I.length_eq (filled I.gap writes)
  have element := I.element_eq (filled I.gap writes)
  refine ⟨rfl, fun a mem => ?_, ?_, fun {index a} last => ?_, fun {index} nonneg inside never => ?_,
    fun {index} outside => ?_⟩
  · obtain ⟨write, mem', writes⟩ := exists_write_of_mem same mem
    have lt := lt_size_filled I.gap mem'
    rw [length, writes.index_eq]
    omega
  · have written : writes ≠ [] := by
      rintro rfl
      exact nonempty (List.forall₂_nil_right_iff.mp same)
    obtain ⟨write, mem, size⟩ := exists_size_filled I.gap written
    obtain ⟨a, mem', writes⟩ := exists_attempt_of_mem same mem
    refine ⟨a, mem', ?_⟩
    rw [length, size, writes.index_eq]
    omega
  · obtain ⟨i, write, position, writes, last'⟩ := exists_last_write same last
    rw [element, itemAt?_of_position position, getElem?_filled_of_last I.gap last', writes.2]
  · obtain ⟨i, position⟩ := Int.eq_ofNat_of_zero_le (Int64.le_iff_toInt_le.mp nonneg)
    have untouched : ∀ write ∈ writes, write.1 ≠ i := by
      rintro write mem rfl
      obtain ⟨a, mem', writes⟩ := exists_attempt_of_mem same mem
      exact never a mem' (Int64.toInt_inj.mp (writes.index_eq.trans position.symm))
    have within : i < (filled I.gap writes).size := by
      rw [length] at inside
      omega
    rw [element, itemAt?_of_position position, getElem?_filled_of_gap I.gap untouched within,
      ← I.item_gap]
  · rw [length] at outside ⊢
    rw [element, itemAt?_of_outside outside]

end Items

/-- A variable that holds an array has the elements that have been stored. -/
lemma Memory.Keeps.exists_remembers {name : String} {m n : Memory} {stored : List Attempt}
    {first : Attempt} (h : Memory.Keeps name m stored n) (head : stored.head? = some first) :
    ∃ array, n.get? name = some array ∧ array.Remembers stored first.element.kind := by
  cases h with
  | nothing => cases head
  | @array α I _ writes _ slot nonempty same bound has read =>
    obtain ⟨write, -, first⟩ := Items.exists_write_of_mem same (List.mem_of_mem_head? head)
    refine ⟨_, ?_, first.kind_eq ▸ Items.remembers nonempty same⟩
    simp [Memory.get?, bound, read]

namespace Eval

/-! ## Attempts one after the other -/

/-- Makes an attempt, which joins those that have succeeded if it succeeds as well. -/
def attempt (name : String) (stored : List Attempt) (a : Attempt) : Eval (List Attempt) := do
  match ← storeElement name a.index a.element with
  | .ok () => return stored ++ [a]
  | .error _ => return stored

/-- Makes attempts one after the other, and gives those that succeed. -/
def attempts (name : String) (list : List Attempt) : Eval (List Attempt) :=
  list.foldlM (attempt name) []

variable {name : String} {m : Machine}

/-- An attempt in the machine that others have left behind. -/
lemma attempt_keeps (running : m.memory.frames ≠ []) (unbound : m.memory.slot? name = none)
    {stored : List Attempt} {memory : Memory} (h : Memory.Keeps name m.memory stored memory)
    (a : Attempt) :
    ∃ stored' memory', attempt name stored a { m with memory } =
        some (.ok stored', { m with memory := memory' }) ∧
      Memory.Keeps name m.memory stored' memory' := by
  rcases h.next running unbound a with ⟨-, new, placed, keeps⟩ | ⟨-, fault, refused⟩
  · refine ⟨stored ++ [a], new, ?_, keeps⟩
    have ran : storeElement name a.index a.element { m with memory } =
        some (.ok (.ok ()), { m with memory := new }) := by
      simp only [storeElement, placed]
    exact bind_of_ok ran
  · refine ⟨stored, memory, ?_, h⟩
    have ran : storeElement name a.index a.element { m with memory } =
        some (.ok (.error fault), { m with memory }) := by
      simp only [storeElement, refused]
    exact bind_of_ok ran

/-- All attempts, from first to last. -/
lemma attempts_keeps (running : m.memory.frames ≠ []) (unbound : m.memory.slot? name = none)
    (list : List Attempt) :
    ∃ stored memory, attempts name list m = some (.ok stored, { m with memory }) ∧
      Memory.Keeps name m.memory stored memory := by
  have walk : ∀ {stored memory}, Memory.Keeps name m.memory stored memory →
      ∃ stored' memory', list.foldlM (attempt name) stored { m with memory } =
          some (.ok stored', { m with memory := memory' }) ∧
        Memory.Keeps name m.memory stored' memory' := by
    induction list with
    | nil => exact fun {stored memory} h => ⟨stored, memory, rfl, h⟩
    | cons a rest ih =>
      intro stored memory h
      obtain ⟨_, _, ran, h⟩ := attempt_keeps running unbound h a
      obtain ⟨stored', memory', ran', h⟩ := ih h
      refine ⟨stored', memory', ?_, h⟩
      rw [List.foldlM_cons, bind_of_ok ran, ran']
  exact walk .nothing

/-- **An array is the last of what was stored at each index.**  Try to store any elements in a
variable that is not bound, at any indices, one after the other.  Those attempts succeed that have
an index that is not negative, and an element that is an integer or a truth value, like the first
one that is stored.  An attempt that fails changes nothing.  Unless all of them fail, the variable
then holds an array that ends right after the largest index of those that have succeeded.  At each
index it has the element that was stored there last, and zeros or `false` in between. -/
theorem array_remembers_attempts (running : m.memory.frames ≠ [])
    (unbound : m.memory.slot? name = none) (list : List Attempt) :
    ∃ stored memory, attempts name list m = some (.ok stored, { m with memory }) ∧
      (∀ next : Attempt, ∃ outcome n,
        storeElement name next.index next.element { m with memory } = some (.ok outcome, n) ∧
          (outcome = .ok () ↔ next.Fits stored) ∧ (outcome ≠ .ok () → n = { m with memory })) ∧
      (stored = [] → memory = m.memory) ∧
      ∀ first ∈ stored.head?, ∃ array, memory.get? name = some array ∧
        array.Remembers stored first.element.kind := by
  obtain ⟨stored, memory, ran, keeps⟩ := attempts_keeps running unbound list
  refine ⟨stored, memory, ran, fun next => ?_, ?_, fun first head => keeps.exists_remembers head⟩
  · rcases keeps.next running unbound next with ⟨fits, new, placed, -⟩ | ⟨misfit, fault, refused⟩
    · refine ⟨.ok (), { m with memory := new }, ?_, by simp [fits], by simp⟩
      simp only [storeElement, placed]
    · refine ⟨.error fault, { m with memory }, ?_, by simp [misfit], fun _ => rfl⟩
      simp only [storeElement, refused]
  · rintro rfl
    cases keeps with
    | nothing => rfl
    | array nonempty => exact absurd rfl nonempty

/-- Attempts of which the first two and the fourth fail. -/
def mixed : List Attempt :=
  [⟨-1, .integer 3⟩, ⟨0, .string "x"⟩, ⟨2, .integer 5⟩, ⟨1, .boolean true⟩, ⟨0, .integer 7⟩,
    ⟨2, .integer 9⟩]

/-- A function that has no variables yet. -/
def fresh : Machine := ⟨⟨[⟨"main", 0, []⟩], ⟨#[]⟩⟩, .empty, ⟨[], []⟩, none, 1⟩

theorem array_remembers_attempts_mixed :
    fresh.memory.frames ≠ [] ∧ fresh.memory.slot? "a" = none ∧
      ∃ stored memory, attempts "a" mixed fresh = some (.ok stored, { fresh with memory }) ∧
        stored = [⟨2, .integer 5⟩, ⟨0, .integer 7⟩, ⟨2, .integer 9⟩] ∧
        ∃ array, memory.get? "a" = some array ∧ array.Remembers stored .integer ∧
          array.element 2 = .ok (.integer 9) ∧ array.element 1 = .ok (.integer 0) := by
  have running : fresh.memory.frames ≠ [] := by decide
  have unbound : fresh.memory.slot? "a" = none := by decide
  obtain ⟨stored, memory, ran, -, -, array⟩ := array_remembers_attempts running unbound mixed
  have kept : stored = [⟨2, .integer 5⟩, ⟨0, .integer 7⟩, ⟨2, .integer 9⟩] := by
    have outcome := congrArg (Option.map Prod.fst) ran
    exact (Except.ok.inj (Option.some.inj outcome)).symm
  obtain ⟨array, held, remembers⟩ := array ⟨2, .integer 5⟩ (by rw [kept]; rfl)
  refine ⟨running, unbound, stored, memory, ran, kept, array, held, remembers, ?_, ?_⟩
  · exact remembers.element_last (a := ⟨2, .integer 9⟩) (by rw [kept]; decide)
  · refine remembers.element_gap (by decide) ?_ (by rw [kept]; decide)
    exact Int.lt_trans (by decide) (remembers.lt_length ⟨2, .integer 9⟩ (by rw [kept]; decide))

end Eval

end RobotScribe
