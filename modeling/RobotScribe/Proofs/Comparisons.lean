/-
# Comparisons

The six comparisons of two values of one kind come down to one order of them: equality goes by the
data, and the rest by the order of integers, of truth values or of strings (`answers_of_order`).
Since that is a linear order, the comparisons hang together as they do in mathematics.  Kinds
without an order can only be tested for equality, and values of different kinds not at all.

Strings are ordered by the code points of their characters.  Their bytes are in the same order: the
first byte of a character tells how many follow, more for a greater code point, and the bits of the
code point stand in the bytes from the highest to the lowest (`charBytes_lt`).
-/
import RobotScribe.Proofs.Computation
import Mathlib.Algebra.Order.Group.Nat
import Mathlib.Data.Char
import Mathlib.Data.List.Lex

namespace RobotScribe

/-! ## Bytes and code points -/

namespace Text

/-- The bytes of a text, as numbers. -/
def utf8Bytes (text : String) : List Nat := text.toUTF8.data.toList.map UInt8.toNat

/-- The code points of a text. -/
def codePoints (text : String) : List Nat := text.toList.map Char.toNat

/-- How many bytes come after the first one in the encoding of a code point. -/
def extraBytes (v : Nat) : Nat :=
  if v ≤ 0x7F then 0 else if v ≤ 0x7FF then 1 else if v ≤ 0xFFFF then 2 else 3

/-- The first byte of the encoding of a code point. -/
def leadByte (v : Nat) : Nat :=
  if v ≤ 0x7F then v else if v ≤ 0x7FF then 0xC0 + v / 64
  else if v ≤ 0xFFFF then 0xE0 + v / 64 ^ 2 else 0xF0 + v / 64 ^ 3

/-- The bytes after the first one, as many as there are: six bits of the code point in each. -/
def continuation : Nat → Nat → List Nat
  | 0, _ => []
  | k + 1, v => continuation k (v / 64) ++ [0x80 + v % 64]

/-- The bytes of a character. -/
def charBytes (c : Char) : List Nat := leadByte c.toNat :: continuation (extraBytes c.toNat) c.toNat

lemma toNat_lt (c : Char) : c.toNat < 0x110000 := by
  rcases c.valid with low | ⟨-, high⟩
  · exact Nat.lt_trans low (by decide)
  · exact high

lemma map_utf8EncodeChar (c : Char) : (String.utf8EncodeChar c).map UInt8.toNat = charBytes c := by
  have bound : c.val.toNat < 0x110000 := toNat_lt c
  unfold String.utf8EncodeChar charBytes leadByte extraBytes Char.toNat
  dsimp only
  split_ifs
  all_goals
    simp only [List.map_cons, List.map_nil, continuation, List.nil_append, List.cons_append,
      UInt8.toNat_ofNat', List.cons.injEq, and_true]
    omega

lemma utf8Bytes_eq (text : String) : utf8Bytes text = text.toList.flatMap charBytes := by
  have bytes : text.toUTF8.data.toList = text.toList.flatMap String.utf8EncodeChar := by
    rw [String.toUTF8, ← String.utf8Encode_toList, List.utf8Encode, List.data_toByteArray]
  rw [utf8Bytes, bytes, List.map_flatMap]
  exact List.flatMap_congr fun c _ => map_utf8EncodeChar c

/-- A greater code point with as many bytes starts with a greater byte, or it has the same upper
bits; one with more bytes starts with a greater byte. -/
lemma leadByte_lt {v w : Nat} (less : v < w) (bound : w < 0x110000) :
    leadByte v < leadByte w ∨ leadByte v = leadByte w ∧ extraBytes v = extraBytes w ∧
      v / 64 ^ extraBytes v = w / 64 ^ extraBytes v := by
  unfold leadByte extraBytes
  split_ifs <;> omega

/-- Of code points with the same upper bits, the lesser one has the lesser lower bits. -/
lemma continuation_lt (k : Nat) {v w : Nat} (upper : v / 64 ^ k = w / 64 ^ k) (less : v < w)
    (x y : List Nat) : continuation k v ++ x < continuation k w ++ y := by
  induction k generalizing v w x y with
  | zero =>
    rw [Nat.pow_zero, Nat.div_one, Nat.div_one] at upper
    omega
  | succ k ih =>
    rw [Nat.pow_succ', ← Nat.div_div_eq_div_mul, ← Nat.div_div_eq_div_mul] at upper
    rw [continuation, continuation, List.append_assoc, List.append_assoc]
    have step : v / 64 < w / 64 ∨ v / 64 = w / 64 ∧ v % 64 < w % 64 := by omega
    rcases step with before | ⟨same, last⟩
    · exact ih upper before _ _
    · rw [same]
      exact List.append_left_lt (List.Lex.rel (by omega))

lemma charBytes_lt {c d : Char} (less : c < d) (x y : List Nat) :
    charBytes c ++ x < charBytes d ++ y := by
  have codes : c.toNat < d.toNat := less
  rcases leadByte_lt codes (toNat_lt d) with before | ⟨same, extra, upper⟩
  · exact List.Lex.rel before
  · rw [charBytes, charBytes, same, ← extra]
    exact List.Lex.cons (continuation_lt _ upper codes x y)

/-- The bytes of texts are ordered as their characters are. -/
lemma strictMono_flatMap_charBytes : StrictMono (List.flatMap charBytes) := by
  intro s t less
  induction less with
  | nil => exact List.Lex.nil
  | rel before => exact charBytes_lt before _ _
  | cons _ ih => exact List.append_left_lt ih

lemma utf8Bytes_lt_iff {s t : String} : utf8Bytes s < utf8Bytes t ↔ s < t := by
  rw [utf8Bytes_eq, utf8Bytes_eq, strictMono_flatMap_charBytes.lt_iff_lt]
  rfl

lemma codePoints_lt_iff {s t : String} : codePoints s < codePoints t ↔ s < t := by
  have mono : StrictMono (List.map Char.toNat) := fun _ _ => List.map_lt fun _ _ before => before
  exact mono.lt_iff_lt

end Text

/-! ## The order of data -/

/-- The kinds that have an order. -/
def TypeKind.IsOrdered (kind : TypeKind) : Prop :=
  kind = .integer ∨ kind = .boolean ∨ kind = .string

instance (kind : TypeKind) : Decidable kind.IsOrdered :=
  inferInstanceAs (Decidable (kind = .integer ∨ kind = .boolean ∨ kind = .string))

/-- In any order, exactly one of three comparisons holds. -/
lemma Relation.existsUnique_holds (order : Ordering) :
    ∃! relation : Relation, relation ∈ [less, eq, greater] ∧ relation.holds order = true := by
  have only : ∃ found ∈ [less, eq, greater], ∀ relation ∈ [less, eq, greater],
      relation.holds order = true ↔ relation = found := by
    cases order <;> decide
  obtain ⟨found, mem, only⟩ := only
  exact ⟨found, ⟨mem, (only found mem).mpr rfl⟩, fun relation h => (only relation h.1).mp h.2⟩

namespace Payload

variable {a b c : Payload} {order : Ordering}

/-- There is an order between data of one kind exactly if the kind is ordered. -/
lemma exists_order? (same : a.kind = b.kind) :
    (∃ order, a.order? b = some order) ↔ a.kind.IsOrdered := by
  cases a <;> cases b <;> simp [kind, order?, TypeKind.IsOrdered] at same ⊢

lemma kind_eq_of_order? (found : a.order? b = some order) : a.kind = b.kind := by
  cases a <;> cases b <;> first | rfl | cases found

lemma isEq_of_order? (found : a.order? b = some order) : (a == b) = order.isEq := by
  cases a <;> cases b <;> simp only [order?, Option.some.injEq, reduceCtorEq] at found
  all_goals
    subst found
    rw [Bool.eq_iff_iff, beq_iff_eq, Ordering.isEq_iff_eq_eq, Std.LawfulEqOrd.compare_eq_iff_eq]
    simp

/-- All six comparisons go by the one order that there is between two payloads. -/
lemma compares_of_order? (found : a.order? b = some order) (relation : Relation) :
    a.compares relation b = .ok (relation.holds order) := by
  have equal := isEq_of_order? found
  cases relation with
  | eq => rw [compares, equal, Relation.holds]
  | notEq => rw [compares, bne, equal, Relation.holds]
  | less | greater | lessEq | greaterEq =>
    unfold compares
    rw [found]

lemma compares_of_not_ordered {relation : Relation} (none : a.order? b = none)
    (eq : relation ≠ .eq) (notEq : relation ≠ .notEq) :
    a.compares relation b = .error (.typeMismatch "integer, boolean or string" b.kind) := by
  cases relation with
  | eq => exact absurd rfl eq
  | notEq => exact absurd rfl notEq
  | less | greater | lessEq | greaterEq =>
    unfold compares
    rw [none]

lemma order?_swap : b.order? a = (a.order? b).map Ordering.swap := by
  cases a <;> cases b <;> simp only [order?, Option.map_some, Option.map_none, Option.some.injEq]
  all_goals exact Std.OrientedOrd.eq_swap

lemma order?_trans (first : a.order? b = some .lt) (second : b.order? c = some .lt) :
    a.order? c = some .lt := by
  cases a <;> cases b <;> simp only [order?, Option.some.injEq, reduceCtorEq] at first
  all_goals
    cases c <;> simp only [order?, Option.some.injEq, reduceCtorEq] at second ⊢
    exact Std.TransCmp.lt_trans first second

end Payload

/-! ## Comparisons of values -/

namespace Value

variable {left right a b c : Value} {relation : Relation} {order : Ordering} {holds : Bool}

/-- A comparison of two values does not fail, and comes to a truth value. -/
def Answers (relation : Relation) (left right : Value) (holds : Bool) : Prop :=
  left.relational relation right =
    .ok ⟨.boolean holds, Text.binaryForm left.text relation.text right.text⟩

/-- A comparison of two values does not fail, and holds. -/
def Holds (relation : Relation) (left right : Value) : Prop := Answers relation left right true

lemma relational_of_kind_ne (unlike : left.kind ≠ right.kind) (relation : Relation) :
    left.relational relation right = .error (.typeMismatch left.kind.text right.kind) := by
  rw [relational, if_pos unlike]
  rfl

lemma relational_of_kind_eq (same : left.kind = right.kind) (relation : Relation) :
    left.relational relation right =
      (left.payload.compares relation right.payload).map fun holds =>
        ⟨.boolean holds, Text.binaryForm left.text relation.text right.text⟩ := by
  rw [relational, if_neg (not_not.mpr same)]
  cases left.payload.compares relation right.payload <;> rfl

lemma answers_iff (same : left.kind = right.kind) :
    Answers relation left right holds ↔
      left.payload.compares relation right.payload = .ok holds := by
  rw [Answers, relational_of_kind_eq same]
  cases left.payload.compares relation right.payload <;> simp [Except.map]

/-- Equality goes by the data, whatever the kind. -/
lemma answers_eq (same : left.kind = right.kind) :
    Answers .eq left right (left.payload == right.payload) ∧
      Answers .notEq left right (left.payload != right.payload) :=
  ⟨(answers_iff same).mpr rfl, (answers_iff same).mpr rfl⟩

lemma answers_of_order (found : left.payload.order? right.payload = some order)
    (relation : Relation) : Answers relation left right (relation.holds order) := by
  rw [answers_iff (Payload.kind_eq_of_order? found)]
  exact Payload.compares_of_order? found relation

lemma holds_iff_of_order (found : left.payload.order? right.payload = some order) :
    Holds relation left right ↔ relation.holds order = true := by
  have answers := answers_of_order found relation
  constructor
  · intro holds
    rw [Holds, Answers, answers] at holds
    simpa using holds
  · intro holds
    rwa [holds] at answers

/-- Only values with an order between them can be said to be less than each other. -/
lemma holds_less_iff :
    Holds .less left right ↔ left.payload.order? right.payload = some .lt := by
  cases found : left.payload.order? right.payload with
  | some order =>
    rw [holds_iff_of_order found, Relation.holds]
    cases order <;> simp
  | none =>
    by_cases same : left.kind = right.kind
    · have refuses : left.payload.compares .less right.payload = .error _ :=
        Payload.compares_of_not_ordered found nofun nofun
      rw [Holds, answers_iff same, refuses]
      simp
    · rw [Holds, Answers, relational_of_kind_ne same]
      simp

lemma relational_of_unordered (same : left.kind = right.kind) (unordered : ¬left.kind.IsOrdered)
    (eq : relation ≠ .eq) (notEq : relation ≠ .notEq) :
    left.relational relation right =
      .error (.typeMismatch "integer, boolean or string" right.kind) := by
  have none : left.payload.order? right.payload = none := by
    rw [Option.eq_none_iff_forall_ne_some]
    intro order found
    exact unordered ((Payload.exists_order? same).mp ⟨order, found⟩)
  rw [relational_of_kind_eq same, Payload.compares_of_not_ordered none eq notEq]
  rfl

lemma relational_withText (relation : Relation) (left right : Value) (first second : String) :
    (left.withText first).relational relation (right.withText second) =
      (left.relational relation right).map
        (·.withText (Text.binaryForm first relation.text second)) := by
  by_cases same : left.kind = right.kind
  · have same' : (left.withText first).kind = (right.withText second).kind := same
    rw [relational_of_kind_eq same, relational_of_kind_eq same', payload_withText, payload_withText]
    cases left.payload.compares relation right.payload <;> rfl
  · have unlike : (left.withText first).kind ≠ (right.withText second).kind := same
    rw [relational_of_kind_ne same, relational_of_kind_ne unlike]
    rfl

end Value

namespace Eval

/-- In every phase, a comparison comes to what it comes to on the values of its operands. -/
lemma form_relational {functions : String → Option Function} {fuel : Nat} {here : Cursor}
    {l m n : Machine} (op : Relation) {left right : Expr} (span : Span) {lhs rhs : Value}
    (first : expr functions fuel here left l = some (.ok lhs, m))
    (second : expr functions fuel here right m = some (.ok rhs, n)) :
    form functions (fuel + 1) here (.binary left (.relational op) right span) l =
      some (lhs.relational op rhs, n) := by
  rw [form, bind_of_ok first, bind_of_ok second, ofExcept_apply]

end Eval

open Value Eval

/-- **The comparisons of an ordered kind describe one total order.**  Take two integers, two truth
values or two strings.  None of the six comparisons fails; exactly one of `<`, `==` and `>` holds;
`<=`, `>=` and `!=` are the negations of `>`, `<` and `==`; `<` is `>` the other way round; and `==`
says that the data are equal.  `<` is transitive.  Integers are ordered by their size, `false` comes
before `true`, and strings are ordered by their bytes from left to right, or by their code points,
which is the same.  Of two values of another kind, `==` and `!=` say whether they are equal, and the
rest fails; of values of different kinds, all six fail.  No comparison looks at the texts of the
values, and in every phase a comparison in a program comes to what it comes to on the values of its
operands. -/
theorem comparisons_describe_one_order :
    (∀ left right : Value, left.kind = right.kind → left.kind.IsOrdered →
      (∀ relation, ∃ holds, Answers relation left right holds) ∧
      (∃! relation, relation ∈ [Relation.less, .eq, .greater] ∧ Holds relation left right) ∧
      (Holds .lessEq left right ↔ ¬Holds .greater left right) ∧
      (Holds .greaterEq left right ↔ ¬Holds .less left right) ∧
      (Holds .notEq left right ↔ ¬Holds .eq left right) ∧
      (Holds .less left right ↔ Holds .greater right left) ∧
      (Holds .eq left right ↔ left.payload = right.payload)) ∧
    (∀ a b c : Value, Holds .less a b → Holds .less b c → Holds .less a c) ∧
    (∀ left right : Value, ∀ m n, left.payload = .integer m → right.payload = .integer n →
      (Holds .less left right ↔ m.toInt < n.toInt)) ∧
    (∀ left right : Value, ∀ p q, left.payload = .boolean p → right.payload = .boolean q →
      (Holds .less left right ↔ p = false ∧ q = true)) ∧
    (∀ left right : Value, ∀ s t, left.payload = .string s → right.payload = .string t →
      (Holds .less left right ↔ Text.utf8Bytes s < Text.utf8Bytes t) ∧
      (Holds .less left right ↔ Text.codePoints s < Text.codePoints t)) ∧
    (∀ left right : Value, left.kind = right.kind → ¬left.kind.IsOrdered →
      (∃ equal, Answers .eq left right equal ∧ Answers .notEq left right !equal) ∧
      ∀ relation : Relation, relation ≠ .eq → relation ≠ .notEq →
        left.relational relation right =
          .error (.typeMismatch "integer, boolean or string" right.kind)) ∧
    (∀ left right : Value, left.kind ≠ right.kind → ∀ relation,
      left.relational relation right = .error (.typeMismatch left.kind.text right.kind)) ∧
    (∀ (relation : Relation) (left right : Value) (first second : String),
      (left.withText first).relational relation (right.withText second) =
        (left.relational relation right).map
          (·.withText (Text.binaryForm first relation.text second))) ∧
    ∀ (functions : String → Option Function) (fuel : Nat) (here : Cursor) (relation : Relation)
      (left right : Expr) (span : Span) (lhs rhs : Value) (l m n : Machine),
      expr functions fuel here left l = some (.ok lhs, m) →
      expr functions fuel here right m = some (.ok rhs, n) →
      form functions (fuel + 1) here (.binary left (.relational relation) right span) l =
        some (lhs.relational relation rhs, n) := by
  refine ⟨fun left right same ordered => ?_, fun a b c first second => ?_,
    fun left right m n first second => ?_, fun left right p q first second => ?_,
    fun left right s t first second => ?_, fun left right same unordered => ?_,
    fun _ _ => relational_of_kind_ne, relational_withText,
    fun _ _ _ op _ _ span _ _ _ _ _ first second => form_relational op span first second⟩
  · obtain ⟨order, found⟩ := (Payload.exists_order? same).mpr ordered
    have swapped : right.payload.order? left.payload = some order.swap := by
      rw [Payload.order?_swap, found]
      rfl
    have equal : Holds .eq left right ↔ left.payload = right.payload := by
      rw [Holds, answers_iff same, Payload.compares]
      simp
    refine ⟨fun relation => ⟨_, answers_of_order found relation⟩, ?_, ?_, ?_, ?_, ?_, equal⟩
    all_goals simp only [holds_iff_of_order found, holds_iff_of_order swapped, Relation.holds]
    · exact Relation.existsUnique_holds order
    all_goals cases order <;> simp
  · rw [holds_less_iff] at first second ⊢
    exact Payload.order?_trans first second
  · rw [holds_less_iff, first, second, Payload.order?, Option.some.injEq]
    exact compareOfLessAndEq_eq_lt.trans Int64.lt_iff_toInt_lt
  · rw [holds_less_iff, first, second, Payload.order?, Option.some.injEq]
    cases p <;> cases q <;> decide
  · rw [Text.utf8Bytes_lt_iff, Text.codePoints_lt_iff, and_self, holds_less_iff, first, second,
      Payload.order?, Option.some.injEq]
    exact compareOfLessAndEq_eq_lt
  · obtain ⟨equal, unequal⟩ := answers_eq same
    exact ⟨⟨_, equal, unequal⟩, fun _ => relational_of_unordered same unordered⟩

/-- The last character of the basic plane comes before a character beyond it, and both come after
ASCII.  Colors have no order, and an integer is no truth value. -/
theorem comparisons_describe_one_order_beyond :
    (∃! relation, relation ∈ [Relation.less, .eq, .greater] ∧
      Holds relation (.string "\uffff") (.string "😀")) ∧
    Holds .less (.string "~") (.string "😀") ∧
    Holds .less (.integer (-1)) (.integer 0) ∧
    Holds .less (.boolean false) (.boolean true) ∧
    (∃ equal, Answers .eq (.color .red) (.color .blue) equal ∧
      Answers .notEq (.color .red) (.color .blue) !equal) ∧
    (Value.color .red).relational .less (.color .blue) =
      .error (.typeMismatch "integer, boolean or string" .color) ∧
    (Value.integer 1).relational .eq (.boolean true) = .error (.typeMismatch "integer" .boolean) ∧
    form (fun _ => none) 3 (.top .dry)
        (.binary (.integer 1 .unknown) (.relational .eq) (.boolean true .unknown) .unknown)
        default =
      some (.error (.typeMismatch "integer" .boolean), default) := by
  obtain ⟨ordered, trans, integers, booleans, strings, unordered, unlike, -, computes⟩ :=
    comparisons_describe_one_order
  have less (s t : String) (before : Text.codePoints s < Text.codePoints t) :
      Holds .less (.string s) (.string t) := (strings _ _ s t rfl rfl).2.mpr before
  have first : Holds .less (.string "~") (.string "\uffff") := less _ _ (by decide)
  have second : Holds .less (.string "\uffff") (.string "😀") := less _ _ (by decide)
  have colors := unordered (.color .red) (.color .blue) rfl (by decide)
  have kinds := unlike (.integer 1) (.boolean true) (by decide) .eq
  have trichotomy := (ordered (.string "\uffff") (.string "😀") rfl (by decide)).2.1
  refine ⟨trichotomy, trans _ _ _ first second,
    (integers _ _ _ _ rfl rfl).mpr (by decide), (booleans _ _ _ _ rfl rfl).mpr ⟨rfl, rfl⟩,
    colors.1, colors.2 .less (by decide) (by decide), kinds, ?_⟩
  rw [computes _ 2 (.top .dry) .eq _ _ _ _ _ default default default rfl rfl, kinds]
  rfl

end RobotScribe
