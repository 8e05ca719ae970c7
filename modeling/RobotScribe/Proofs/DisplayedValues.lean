/-
# Displayed values

What is shown of a value tells which value it is.  The first character of the text tells its kind
(`shownKind`), but that integers and truth values in an array start alike.  The text of a string is
a run of escapes, none of which starts another (`eq_of_flatMap_eq`), so a backslash, a quote or a
brace within the string is never taken for an end.  The items of an array have no comma of their
own, so they can be told apart where they are joined by commas.
-/
import RobotScribe.Proofs.InputWords
import RobotScribe.Proofs.JsonText
import RobotScribe.Value.Basic
import Mathlib.Data.List.Basic

namespace RobotScribe

/-! ## Runs of words -/

/-- A run of words is that of one list only, if no word is empty and a word can be told from what
starts with it. -/
lemma eq_of_flatMap_eq {α β : Type} {word : α → List β} {xs ys : List α}
    (nonempty : ∀ x, word x ≠ [])
    (told : ∀ x ∈ xs, ∀ y ∈ ys, ∀ u v, word x ++ u = word y ++ v → x = y)
    (same : xs.flatMap word = ys.flatMap word) : xs = ys := by
  induction xs generalizing ys with
  | nil =>
    cases ys with
    | nil => rfl
    | cons y ys => simp [nonempty y] at same
  | cons x xs ih =>
    cases ys with
    | nil => simp [nonempty x] at same
    | cons y ys =>
      rw [List.flatMap_cons, List.flatMap_cons] at same
      obtain rfl : x = y := told x List.mem_cons_self y List.mem_cons_self _ _ same
      rw [ih (fun x' hx y' hy => told x' (.tail _ hx) y' (.tail _ hy))
        (List.append_cancel_left same)]

/-- A list that ends before the first occurrence of a mark. -/
lemma takeWhile_ne_append {α : Type} [DecidableEq α] {mark : α} {xs : List α} (absent : mark ∉ xs)
    (rest : List α) : (xs ++ mark :: rest).takeWhile (· ≠ mark) = xs := by
  rw [List.takeWhile_append_of_pos, List.takeWhile_cons_of_neg (by simp), List.append_nil]
  intro x mem
  simpa using fun same : x = mark => absent (same ▸ mem)

namespace Text

/-! ## Escapes -/

/-- The number that a list of hexadecimal digits denotes, most significant digit first. -/
def hexValue (digits : List Char) : Nat :=
  digits.foldl (fun n d => 16 * n + (Json.hexDigit? d).getD 0) 0

lemma hexValue_toDigits (n : Nat) : hexValue (Nat.toDigits 16 n) = n := by
  induction n using Nat.base_induction 16 (by decide) with
  | single n small =>
    simp [hexValue, Nat.toDigits_of_lt_base small, Json.hexDigit?_digitChar n small]
  | digit n d small pos ih =>
    rw [hexValue] at ih
    rw [← Nat.toDigits_append_toDigits (by decide) pos small, Nat.toDigits_of_lt_base small,
      hexValue, List.foldl_append, ih]
    simp [Json.hexDigit?_digitChar d small]

lemma brace_notMem_toDigits (n : Nat) : '\x7d' ∉ Nat.toDigits 16 n := by
  induction n using Nat.base_induction 16 (by decide) with
  | single n small => simp [Nat.toDigits_of_lt_base small]
  | digit n d small pos ih =>
    rw [← Nat.toDigits_append_toDigits (by decide) pos small, Nat.toDigits_of_lt_base small]
    simp [ih]

/-- The character that is escaped at the head of a text. -/
def unescapeHead? : List Char → Option Char
  | '\\' :: '0' :: _ => some '\x00'
  | '\\' :: 't' :: _ => some '\t'
  | '\\' :: 'r' :: _ => some '\r'
  | '\\' :: 'n' :: _ => some '\n'
  | '\\' :: 'u' :: '\x7b' :: rest =>
    some (Char.ofNat (hexValue (rest.takeWhile (· ≠ '\x7d'))))
  | '\\' :: c :: _ => some c
  | c :: _ => some c
  | [] => none

lemma unescapeHead?_codePointForm (c : Char) (rest : List Char) :
    unescapeHead? (codePointForm c ++ rest) = some c := by
  have form : codePointForm c ++ rest =
      '\\' :: 'u' :: '\x7b' :: (Nat.toDigits 16 c.toNat ++ '\x7d' :: rest) := by
    simp [codePointForm]
  rw [form, unescapeHead?, takeWhile_ne_append (brace_notMem_toDigits _), hexValue_toDigits,
    Char.ofNat_toNat]

lemma unescapeHead?_escape (c : Char) (rest : List Char) :
    unescapeHead? (escape c ++ rest) = some c := by
  unfold escape
  split_ifs with nul tab ret newline quote backslash plain
  · rw [nul]; rfl
  · rw [tab]; rfl
  · rw [ret]; rfl
  · rw [newline]; rfl
  · rw [quote]; rfl
  · rw [backslash]; rfl
  · rw [List.singleton_append]
    unfold unescapeHead?
    split <;> simp_all
  · exact unescapeHead?_codePointForm c rest

lemma quote_injective : Function.Injective quote := by
  intro s t same
  have runs : s.toList.flatMap escape = t.toList.flatMap escape := by
    simpa [quote, ← String.toList_inj] using same
  refine String.toList_inj.mp (eq_of_flatMap_eq escape_ne_nil (fun c _ d _ u v heads => ?_) runs)
  exact Option.some.inj (by rw [← unescapeHead?_escape c u, heads, unescapeHead?_escape])

/-! ## Lists of items -/

/-- Whether a text can be told from what follows a comma after it: it is not empty and has no comma
of its own. -/
def IsItem (text : String) : Prop := text.toList ≠ [] ∧ ',' ∉ text.toList

/-- The items of a list, each of them ended by a comma and a space. -/
lemma toList_listForm_append {items : List String} (nonempty : items ≠ []) :
    (listForm items).toList ++ [',', ' '] = items.flatMap (·.toList ++ [',', ' ']) := by
  unfold listForm
  induction items with
  | nil => exact absurd rfl nonempty
  | cons item rest ih =>
    cases rest with
    | nil => simp
    | cons next rest =>
      rw [String.intercalate_cons_cons, String.toList_append, String.toList_append,
        List.append_assoc, ih (List.cons_ne_nil next rest), List.flatMap_cons]
      rfl

/-- The first item stands at the head of a list. -/
lemma head?_listForm {item : String} (isItem : IsItem item) (rest : List String) :
    (listForm (item :: rest)).toList.head? = item.toList.head? := by
  unfold listForm
  cases rest with
  | nil => simp
  | cons next rest =>
    rw [String.intercalate_cons_cons, String.toList_append, String.toList_append,
      List.append_assoc, List.head?_append_of_ne_nil _ isItem.1]

lemma listForm_ne_empty {item : String} (isItem : IsItem item) (rest : List String) :
    listForm (item :: rest) ≠ "" := by
  intro empty
  have head := head?_listForm isItem rest
  rw [empty] at head
  exact isItem.1 (List.head?_eq_none_iff.mp head.symm)

/-- The items of a list can be told from its text. -/
lemma listForm_inj {items others : List String} (mine : ∀ item ∈ items, IsItem item)
    (yours : ∀ item ∈ others, IsItem item) (same : listForm items = listForm others) :
    items = others := by
  cases items with
  | nil =>
    cases others with
    | nil => rfl
    | cons other rest => exact absurd same.symm (listForm_ne_empty (yours _ List.mem_cons_self) _)
  | cons item rest =>
    cases others with
    | nil => exact absurd same (listForm_ne_empty (mine _ List.mem_cons_self) _)
    | cons other others =>
      have runs : (item :: rest).flatMap (·.toList ++ [',', ' ']) =
          (other :: others).flatMap (·.toList ++ [',', ' ']) := by
        rw [← toList_listForm_append (List.cons_ne_nil _ _), same,
          toList_listForm_append (List.cons_ne_nil _ _)]
      refine eq_of_flatMap_eq (by simp) (fun text isMine other isYours u v heads => ?_) runs
      have commas : text.toList ++ ',' :: ' ' :: u = other.toList ++ ',' :: ' ' :: v := by
        simpa using heads
      rw [← String.toList_inj, ← takeWhile_ne_append (mine _ isMine).2, commas,
        takeWhile_ne_append (yours _ isYours).2]

/-! ## Numerals -/

lemma toList_toString (z : Int) :
    (toString z).toList = (if z < 0 then ['-'] else []) ++ Nat.toDigits 10 z.natAbs := by
  rw [Int.toString_eq_repr, Int.repr_eq_if]
  split_ifs with natural negative negative
  · omega
  · rw [Nat.toList_repr, show z.toNat = z.natAbs by omega, List.nil_append]
  · rw [String.toList_append, Nat.toList_repr, show (-z).toNat = z.natAbs by omega]
    rfl
  · omega

/-- What is shown of an integer is a numeral of it. -/
lemma numeral_toString (n : Int64) : Numeral (toString n.toInt) n := by
  refine ⟨_, _, toList_toString n.toInt, ?_, Nat.toDigits_ne_nil, fun d mem => ?_, ?_⟩
  · split_ifs <;> simp
  · exact isDigit_iff.mp (Nat.isDigit_of_mem_toDigits (by decide) (by decide) mem)
  · rw [← digitsValue_eq, Json.digitsValue_toDigits]
    by_cases negative : n.toInt < 0
    · rw [if_pos negative, if_pos rfl]
      omega
    · rw [if_neg negative, if_neg (List.cons_ne_nil _ _).symm]
      omega

lemma toString_toInt_injective : Function.Injective fun n : Int64 => toString n.toInt := by
  intro m n same
  have read := readInt64?_eq_some.mpr (numeral_toString m)
  rw [show toString m.toInt = toString n.toInt from same,
    readInt64?_eq_some.mpr (numeral_toString n)] at read
  exact (Option.some.inj read).symm

lemma isItem_toString (n : Int64) : IsItem (toString n.toInt) := by
  have digits : ',' ∉ Nat.toDigits 10 n.toInt.natAbs := fun comma =>
    absurd (Nat.isDigit_of_mem_toDigits (by decide) (by decide) comma) (by decide)
  rw [IsItem, toList_toString]
  split_ifs <;> simp [digits]

end Text

lemma Color.text_injective : Function.Injective Color.text := by
  intro c d same
  cases c <;> cases d <;> first | rfl | exact absurd same (by decide)

namespace Payload

/-! ## Truth values -/

lemma isItem_showBool (b : Bool) : Text.IsItem (showBool b) := by
  cases b <;> exact ⟨by decide, by decide⟩

lemma showBool_injective : Function.Injective showBool := by
  intro a b
  revert a b
  decide

/-- A numeral is not a truth value. -/
lemma toString_ne_showBool (n : Int64) (b : Bool) : toString n.toInt ≠ showBool b := by
  intro same
  have read := Text.readInt64?_eq_some.mpr (Text.numeral_toString n)
  have unread : Text.readInt64? (showBool b) = none := by cases b <;> decide
  rw [same, unread] at read
  cases read

/-! ## Arrays -/

lemma toList_showItems {α : Type} (render : α → String) (items : Array α) :
    (showItems render items).toList =
      '[' :: ((Text.listForm (items.toList.map render)).toList ++ [']']) := by
  simp [showItems]

lemma map_eq_of_showItems_eq {α β : Type} {render : α → String} {other : β → String}
    {xs : Array α} {ys : Array β} (mine : ∀ x, Text.IsItem (render x))
    (yours : ∀ y, Text.IsItem (other y)) (same : showItems render xs = showItems other ys) :
    xs.toList.map render = ys.toList.map other := by
  have lists : Text.listForm (xs.toList.map render) = Text.listForm (ys.toList.map other) := by
    simpa [← String.toList_inj, toList_showItems] using same
  refine Text.listForm_inj (fun item mem => ?_) (fun item mem => ?_) lists
  · obtain ⟨x, -, rfl⟩ := List.mem_map.mp mem
    exact mine x
  · obtain ⟨y, -, rfl⟩ := List.mem_map.mp mem
    exact yours y

lemma showItems_injective {α : Type} {render : α → String} (isItem : ∀ x, Text.IsItem (render x))
    (injective : Function.Injective render) : Function.Injective (showItems render) := by
  intro xs ys same
  exact Array.toList_inj.mp
    (List.map_injective_iff.mpr injective (map_eq_of_showItems_eq isItem isItem same))

/-- An array of integers looks like one of truth values only if both are empty. -/
lemma eq_empty_of_showItems_eq {ns : Array Int64} {bs : Array Bool}
    (same : showItems (fun n => toString n.toInt) ns = showItems showBool bs) :
    ns = #[] ∧ bs = #[] := by
  have items := map_eq_of_showItems_eq Text.isItem_toString isItem_showBool same
  obtain ⟨ns⟩ := ns
  obtain ⟨bs⟩ := bs
  cases ns with
  | nil =>
    cases bs with
    | nil => exact ⟨rfl, rfl⟩
    | cons b bs => cases items
  | cons n ns =>
    cases bs with
    | nil => cases items
    | cons b bs => exact absurd (List.cons.inj items).1 (toString_ne_showBool n b)

/-! ## Kinds -/

/-- The kind of what is shown, as far as the first character tells it.  Arrays start alike, whatever
their items are. -/
def shownKind (first : Char) : TypeKind :=
  if first = '-' ∨ first.isDigit then .integer
  else if first = '"' then .string
  else if first = '[' then .arrayInt
  else if first = 't' ∨ first = 'f' then .boolean
  else if first = 'v' then .void
  else .color

/-- A kind, where the two kinds of arrays count as one. -/
def outlineKind : TypeKind → TypeKind
  | .arrayBool => .arrayInt
  | kind => kind

lemma shownKind_head?_display (p : Payload) :
    p.display.toList.head?.map shownKind = some (outlineKind p.kind) := by
  cases p with
  | void => rfl
  | integer n =>
    rw [display, Text.toList_toString]
    split_ifs
    · rfl
    · cases digits : Nat.toDigits 10 n.toInt.natAbs with
      | nil => exact absurd digits Nat.toDigits_ne_nil
      | cons d rest =>
        have digit : d.isDigit :=
          Nat.isDigit_of_mem_toDigits (by decide) (by decide) (digits ▸ List.mem_cons_self)
        exact congrArg some (if_pos (Or.inr digit))
  | boolean b => cases b <;> decide
  | string s =>
    have quoted : (display (string s)).toList = '"' :: (s.toList.flatMap Text.escape ++ ['"']) := by
      simp [display, Text.quote]
    rw [quoted]
    rfl
  | integers items =>
    rw [display, toList_showItems]
    rfl
  | booleans items =>
    rw [display, toList_showItems]
    rfl
  | color c => cases c <;> decide

/-- Whether a payload is an array without items. -/
def IsEmptyArray (p : Payload) : Prop := p = .integers #[] ∨ p = .booleans #[]

lemma outlineKind_eq_of_display_eq {p q : Payload} (same : p.display = q.display) :
    outlineKind p.kind = outlineKind q.kind := by
  have heads := shownKind_head?_display p
  rw [same, shownKind_head?_display] at heads
  exact (Option.some.inj heads).symm

lemma display_eq_iff {p q : Payload} :
    p.display = q.display ↔ p = q ∨ p.IsEmptyArray ∧ q.IsEmptyArray := by
  constructor
  · intro same
    have kinds := outlineKind_eq_of_display_eq same
    -- two kinds that do not start alike are out, and so each kind is left with itself, or an array
    -- with an array
    cases p with
    | void =>
      cases q with
      | void => exact Or.inl rfl
      | _ => cases kinds
    | integer n =>
      cases q with
      | integer m => exact Or.inl (congrArg integer (Text.toString_toInt_injective same))
      | _ => cases kinds
    | boolean b =>
      cases q with
      | boolean c => exact Or.inl (congrArg boolean (showBool_injective same))
      | _ => cases kinds
    | string s =>
      cases q with
      | string t => exact Or.inl (congrArg string (Text.quote_injective same))
      | _ => cases kinds
    | integers ns =>
      cases q with
      | integers ms =>
        exact Or.inl (congrArg integers
          (showItems_injective Text.isItem_toString Text.toString_toInt_injective same))
      | booleans bs =>
        obtain ⟨rfl, rfl⟩ := eq_empty_of_showItems_eq same
        exact Or.inr ⟨Or.inl rfl, Or.inr rfl⟩
      | _ => cases kinds
    | booleans bs =>
      cases q with
      | integers ns =>
        obtain ⟨rfl, rfl⟩ := eq_empty_of_showItems_eq same.symm
        exact Or.inr ⟨Or.inr rfl, Or.inl rfl⟩
      | booleans cs =>
        exact Or.inl (congrArg booleans
          (showItems_injective isItem_showBool showBool_injective same))
      | _ => cases kinds
    | color c =>
      cases q with
      | color d => exact Or.inl (congrArg color (Color.text_injective same))
      | _ => cases kinds
  · rintro (rfl | ⟨rfl | rfl, rfl | rfl⟩) <;> rfl

end Payload

/-- **What is shown tells the value.**  Two values are shown alike exactly if they have the same
payload or are both arrays without items: integers, truth values, strings, arrays, colors and no
value at all can be told apart, and so can any two of one kind.  The arrays without items are the
values that are shown as a pair of brackets. -/
theorem display_determines_payload :
    (∀ u v : Value, u.display = v.display ↔
      u.payload = v.payload ∨ u.payload.IsEmptyArray ∧ v.payload.IsEmptyArray) ∧
    ∀ v : Value, v.display = "[]" ↔ v.payload.IsEmptyArray := by
  refine ⟨fun u v => Payload.display_eq_iff, fun v => ?_⟩
  have brackets : "[]" = (Payload.integers #[]).display := rfl
  rw [brackets, Value.display, Payload.display_eq_iff]
  simp [Payload.IsEmptyArray]

/-- A backslash before a zero is not taken for the escape of NUL. -/
example : (Value.string "\\0").display = "\"\\\\0\"" ∧ (Value.string "\x00").display = "\"\\0\"" :=
  ⟨rfl, rfl⟩

end RobotScribe
