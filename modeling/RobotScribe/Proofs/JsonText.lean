/-
# Texts of JSON values

What is written in compact form as the text of a value is read as that value, so the library of
compact texts does what is documented of libraries (`documented_compact`).  The text is first cut
into tokens, each of which is written and read by itself: a string literal with its escapes, a
numeral, a word or a mark.  Then the tokens are put together, with the arrays and objects that are
still open on a stack.

This holds of plain values.  A value that is garbled denotes nothing, and a number in another form
than that of a whole number is kept as it is written, whatever stands there.
-/
import RobotScribe.Json.Library
import Mathlib.Tactic.Lemma
import Mathlib.Tactic.SplitIfs

namespace RobotScribe.Json

/-! ## String literals -/

/-- The piece that the writer makes of a character.  A control character without a letter of its
own becomes a 16-bit unit. -/
def pieceOf (c : Char) : Piece :=
  if c.toNat < 0x20 ∧ c ∉ ['\x08', '\x0c', '\n', '\r', '\t'] then .unit c.toNat else .char c

lemma hexDigit?_digitChar : ∀ n < 16, hexDigit? (Nat.digitChar n) = some n := by decide

/-- A letter after a backslash is read as the character that it stands for. -/
lemma pieces?_letter {letter c : Char} (stands : escaped? letter = some c) (rest : List Char) :
    pieces? ('\\' :: letter :: rest) =
      (pieces? rest).map fun read => (.char c :: read.1, read.2) := by
  have ne : letter ≠ 'u' := by
    rintro rfl
    cases stands
  rw [pieces?, stands]
  · cases pieces? rest <;> rfl
  · exact fun _ _ _ _ _ isU _ => ne isU

/-- A character without an escape is read as it stands. -/
lemma pieces?_char {c : Char} (quote : c ≠ '"') (backslash : c ≠ '\\')
    (printed : ¬ c.toNat < 0x20) (rest : List Char) :
    pieces? (c :: rest) = (pieces? rest).map fun read => (.char c :: read.1, read.2) := by
  rw [pieces?, if_neg (not_or.mpr ⟨printed, backslash⟩)]
  · cases pieces? rest <;> rfl
  · exact quote
  · exact fun _ _ _ _ _ escapes _ => backslash escapes
  · exact fun _ _ escapes _ => backslash escapes

/-- A 16-bit unit in hexadecimal is read as that unit. -/
lemma pieces?_unit {n : Nat} (small : n < 0x100) (rest : List Char) :
    pieces? ('\\' :: 'u' :: '0' :: '0' :: Nat.digitChar (n / 16) :: Nat.digitChar (n % 16)
        :: rest) = (pieces? rest).map fun read => (.unit n :: read.1, read.2) := by
  have zero : hexDigit? '0' = some 0 := by decide
  have high := hexDigit?_digitChar (n / 16) (by omega)
  have low := hexDigit?_digitChar (n % 16) (by omega)
  have unit : unit? '0' '0' (Nat.digitChar (n / 16)) (Nat.digitChar (n % 16)) = some n := by
    simp only [unit?, high, low, zero, Option.bind_eq_bind, Option.bind_some, Option.pure_def,
      Option.some.injEq]
    omega
  rw [pieces?, unit]
  cases pieces? rest <;> rfl

/-- A written character is read as its piece. -/
lemma pieces?_writeChar (c : Char) (rest : List Char) :
    pieces? (writeChar c rest) = (pieces? rest).map fun read => (pieceOf c :: read.1, read.2) := by
  unfold writeChar
  -- the characters with a letter of their own, the other control characters, and the rest
  split_ifs with quote backslash backspace feed newline ret tab control
  · rw [quote, pieces?_letter rfl]
    rfl
  · rw [backslash, pieces?_letter rfl]
    rfl
  · rw [backspace, pieces?_letter rfl]
    rfl
  · rw [feed, pieces?_letter rfl]
    rfl
  · rw [newline, pieces?_letter rfl]
    rfl
  · rw [ret, pieces?_letter rfl]
    rfl
  · rw [tab, pieces?_letter rfl]
    rfl
  · rw [pieces?_unit (by omega)]
    simp [pieceOf, control, backspace, feed, newline, ret, tab]
  · rw [pieces?_char quote backslash control]
    simp [pieceOf, control]

lemma pieces?_foldr_writeChar (cs rest : List Char) :
    pieces? (cs.foldr writeChar ('"' :: rest)) = some (cs.map pieceOf, rest) := by
  induction cs with
  | nil => rfl
  | cons c cs ih => rw [List.foldr_cons, pieces?_writeChar, ih, Option.map_some, List.map_cons]

/-- A unit that is not half of a surrogate pair is a character by itself, whatever comes next. -/
lemma joinPieces?_unit {n : Nat} (small : n < 0xD800) (rest : List Piece) :
    joinPieces? (.unit n :: rest) = (joinPieces? rest).map (Char.ofNat n :: ·) := by
  have high : isHighSurrogate n = false := by simp [isHighSurrogate]; omega
  have low : isLowSurrogate n = false := by simp [isLowSurrogate]; omega
  -- only a high surrogate would take the next piece along
  rw [joinPieces?.eq_def]
  split
  all_goals simp_all

/-- The pieces of a text denote the text. -/
lemma joinPieces?_map_pieceOf (cs : List Char) : joinPieces? (cs.map pieceOf) = some cs := by
  induction cs with
  | nil => rfl
  | cons c cs ih =>
    rw [List.map_cons, pieceOf]
    split
    · rw [joinPieces?_unit (by omega), ih, Option.map_some, Char.ofNat_toNat]
    · rw [joinPieces?, ih, Option.map_some]

/-- A written string literal is the token of its text. -/
lemma token?_writeString (text : String) (rest : List Char) :
    token? (writeString text rest) = some (.string (some text), rest) := by
  simp only [writeString, token?, stringToken?, pieces?_foldr_writeChar, joinPieces?_map_pieceOf,
    Option.bind_eq_bind, Option.bind_some, Option.pure_def, Option.map_some, String.ofList_toList]

/-! ## Numerals -/

/-- A text that may stand after a value: nothing, or a mark that ends or parts values. -/
def Follows (rest : List Char) : Prop :=
  ∀ c tail, rest = c :: tail → c = ',' ∨ c = ']' ∨ c = '\x7d'

lemma digits?_toDigits (n : Nat) {rest : List Char} (follows : Follows rest) :
    digits? (Nat.toDigits 10 n ++ rest) = some (Nat.toDigits 10 n, rest) := by
  have all : ∀ c ∈ Nat.toDigits 10 n, c.isDigit = true :=
    fun c mem => Nat.isDigit_of_mem_toDigits (by decide) (by decide) mem
  have stops : rest.takeWhile Char.isDigit = [] ∧ rest.dropWhile Char.isDigit = rest := by
    cases rest with
    | nil => exact ⟨rfl, rfl⟩
    | cons c tail =>
      have other : c.isDigit = false := by
        rcases follows c tail rfl with rfl | rfl | rfl <;> decide
      simp [other]
  have taken : (Nat.toDigits 10 n ++ rest).takeWhile Char.isDigit = Nat.toDigits 10 n := by
    rw [List.takeWhile_append_of_pos all, stops.1, List.append_nil]
  have dropped : (Nat.toDigits 10 n ++ rest).dropWhile Char.isDigit = rest := by
    rw [List.dropWhile_append_of_pos all, stops.2]
  unfold digits?
  rw [taken, dropped]
  cases digits : Nat.toDigits 10 n with
  | nil => exact absurd digits Nat.toDigits_ne_nil
  | cons c cs => rfl

/-- A numeral has no leading zero. -/
lemma head?_toDigits {n : Nat} (positive : 0 < n) : (Nat.toDigits 10 n).head? ≠ some '0' := by
  induction n using Nat.strongRecOn with
  | ind n ih =>
    rw [Nat.toDigits_eq_if (by decide)]
    split
    · have digit : Nat.digitChar n ≠ '0' := by
        rw [ne_eq, Nat.digitChar_eq_zero]
        omega
      simpa using digit
    · have before := ih (n / 10) (by omega) (by omega)
      cases digits : Nat.toDigits 10 (n / 10) with
      | nil => exact absurd digits Nat.toDigits_ne_nil
      | cons c cs => simpa [digits] using before

lemma digitsValue_toDigits (n : Nat) : Text.digitsValue (Nat.toDigits 10 n) = n := by
  rw [Text.digitsValue, ← Nat.ofDigitChars_eq_foldl]
  exact Nat.ofDigitChars_toDigits (by decide) (by decide)

lemma fraction?_of_follows {rest : List Char} (follows : Follows rest) :
    fraction? rest = some ([], rest) := by
  cases rest with
  | nil => rfl
  | cons c tail => rcases follows c tail rfl with rfl | rfl | rfl <;> rfl

lemma exponent?_of_follows {rest : List Char} (follows : Follows rest) :
    exponent? rest = some ([], rest) := by
  cases rest with
  | nil => rfl
  | cons c tail => rcases follows c tail rfl with rfl | rfl | rfl <;> rfl

/-- Written digits are read as the number, with the sign before them.  There is no negative
zero. -/
lemma unsignedToken?_toDigits {negative : Bool} {n : Nat} (sign : negative = true → 0 < n)
    {rest : List Char} (follows : Follows rest) :
    unsignedToken? negative (Nat.toDigits 10 n ++ rest) =
      some (.scalar (.int (if negative then -n else n)), rest) := by
  have leading : ¬ ((Nat.toDigits 10 n).head? = some '0' ∧ Nat.toDigits 10 n ≠ ['0']) := by
    rintro ⟨zero, more⟩
    rcases Nat.eq_zero_or_pos n with rfl | positive
    · exact more (Nat.toDigits_zero 10)
    · exact head?_toDigits positive zero
  have signed : ¬ (negative = true ∧ Nat.toDigits 10 n = ['0']) := by
    rintro ⟨minus, zero⟩
    exact head?_toDigits (sign minus) (by rw [zero]; rfl)
  simp only [unsignedToken?, digits?_toDigits n follows, fraction?_of_follows follows,
    exponent?_of_follows follows, Option.bind_eq_bind, Option.bind_some, if_neg leading,
    Option.pure_def, numberOf, digitsValue_toDigits, signed, not_false_eq_true, and_self, if_true]

/-- A text that starts with a digit starts with an unsigned numeral. -/
lemma token?_digit {c : Char} (digit : c.isDigit = true) (rest : List Char) :
    token? (c :: rest) = unsignedToken? false (c :: rest) := by
  rw [token?.eq_def]
  split
  case h_12 => rfl
  all_goals
    next same =>
      obtain ⟨rfl, -⟩ := List.cons.inj same
      exact absurd digit (by decide)

/-- A written numeral is the token of its number. -/
lemma token?_writeInt (n : Int) {rest : List Char} (follows : Follows rest) :
    token? (writeInt n rest) = some (.scalar (.int n), rest) := by
  unfold writeInt
  dsimp only
  split
  · next negative =>
    -- the sign is read first, and then the absolute value
    rw [token?, unsignedToken?_toDigits (fun _ => by omega) follows, if_pos rfl]
    congr
    omega
  · next natural =>
    have unsigned : false = true → 0 < n.natAbs := nofun
    have read := unsignedToken?_toDigits unsigned follows
    have same : (n.natAbs : Int) = n := by omega
    cases digits : Nat.toDigits 10 n.natAbs with
    | nil => exact absurd digits Nat.toDigits_ne_nil
    | cons c cs =>
      have digit : c.isDigit = true :=
        Nat.isDigit_of_mem_toDigits (by decide) (by decide) (digits ▸ List.mem_cons_self)
      rw [List.cons_append, token?_digit digit, ← List.cons_append, ← digits, read]
      simp [same]

/-! ## Tokens -/

mutual

/-- The tokens of the text of a value. -/
def tokens : Json → List Token
  | string text => [.string (some text)]
  | array [] => [.openArray, .closeArray]
  | array (item :: items) => .openArray :: (item.tokens ++ itemTokens items)
  | object [] => [.openObject, .closeObject]
  | object ((key, value) :: members) =>
    .openObject :: .string (some key) :: .colon :: (value.tokens ++ memberTokens members)
  | scalar => [.scalar scalar]

/-- The tokens of the items after the first one, and of the end of the array. -/
def itemTokens : List Json → List Token
  | [] => [.closeArray]
  | item :: items => .comma :: (item.tokens ++ itemTokens items)

/-- The tokens of the members after the first one, and of the end of the object. -/
def memberTokens : List (String × Json) → List Token
  | [] => [.closeObject]
  | (key, value) :: members =>
    .comma :: .string (some key) :: .colon :: (value.tokens ++ memberTokens members)

end

/-- A text is cut into tokens, with as much fuel as it has characters. -/
def CutInto (text : List Char) (tokens : List Token) : Prop :=
  ∀ fuel, text.length ≤ fuel → tokensWithin fuel text = some tokens

/-- No token starts with a space. -/
lemma isSpace_of_token? {c : Char} {rest : List Char} {read : Token × List Char}
    (reads : token? (c :: rest) = some read) : isSpace c = false := by
  cases space : isSpace c with
  | false => rfl
  | true =>
    simp only [isSpace, Bool.or_eq_true, beq_iff_eq] at space
    rcases space with ((rfl | rfl) | rfl) | rfl <;> cases reads

namespace CutInto

variable {text rest : List Char} {token : Token} {tokens : List Token}

lemma nil : CutInto [] [] := by
  intro fuel _
  cases fuel <;> rfl

/-- A token, and then the others. -/
lemma cons (reads : token? text = some (token, rest)) (shorter : rest.length < text.length)
    (others : CutInto rest tokens) : CutInto text (token :: tokens) := by
  intro fuel enough
  cases text with
  | nil => cases reads
  | cons c tail =>
    cases fuel with
    | zero => simp at enough
    | succ fuel =>
      -- a token costs one unit of fuel and takes at least one character
      simp only [List.length_cons] at enough shorter
      simp [tokensWithin, isSpace_of_token? reads, reads, others fuel (by omega)]

lemma mark {c : Char} (reads : token? (c :: rest) = some (token, rest))
    (others : CutInto rest tokens) : CutInto (c :: rest) (token :: tokens) :=
  cons reads (Nat.lt_succ_self _) others

end CutInto

lemma length_writeChar (c : Char) (rest : List Char) :
    rest.length < (writeChar c rest).length := by
  unfold writeChar
  split_ifs
  all_goals
    simp only [List.length_cons]
    omega

lemma length_writeString (text : String) (rest : List Char) :
    rest.length < (writeString text rest).length := by
  have inner : ∀ cs : List Char, rest.length < (cs.foldr writeChar ('"' :: rest)).length := by
    intro cs
    induction cs with
    | nil => simp
    | cons c cs ih => exact Nat.lt_trans ih (length_writeChar c _)
  exact Nat.lt_succ_of_lt (inner _)

lemma length_writeInt (n : Int) (rest : List Char) : rest.length < (writeInt n rest).length := by
  have positive : 0 < (Nat.toDigits 10 n.natAbs).length := Nat.length_toDigits_pos
  unfold writeInt
  dsimp only
  split
  all_goals
    simp only [List.length_cons, List.length_append]
    omega

lemma follows_comma (rest : List Char) : Follows (',' :: rest) := by
  rintro c tail ⟨⟩
  exact Or.inl rfl

lemma follows_writeItems (items : List Json) (rest : List Char) :
    Follows (writeItems items (']' :: rest)) := by
  cases items with
  | nil =>
    rintro c tail ⟨⟩
    exact Or.inr (Or.inl rfl)
  | cons item items => exact follows_comma _

lemma follows_writeMembers (members : List (String × Json)) (rest : List Char) :
    Follows (writeMembers members ('\x7d' :: rest)) := by
  cases members with
  | nil =>
    rintro c tail ⟨⟩
    exact Or.inr (Or.inr rfl)
  | cons member members => exact follows_comma _

/-- A written key is cut into a string literal and a colon. -/
lemma CutInto.key (key : String) {rest : List Char} {tokens : List Token}
    (others : CutInto rest tokens) :
    CutInto (writeString key (':' :: rest)) (.string (some key) :: .colon :: tokens) :=
  .cons (token?_writeString key _) (length_writeString key _) (.mark rfl others)

mutual

/-- The text of a plain value is cut into its tokens. -/
theorem CutInto.write (value : Json) (plain : value.isPlain = true) {rest : List Char}
    {toks : List Token} (follows : Follows rest) (others : CutInto rest toks) :
    CutInto (value.write rest) (value.tokens ++ toks) := by
  cases value with
  | null => exact .cons rfl (by simp [Json.write]; omega) others
  | bool b =>
    cases b with
    | true => exact .cons rfl (by simp [Json.write]; omega) others
    | false => exact .cons rfl (by simp [Json.write]; omega) others
  | int n => exact .cons (token?_writeInt n follows) (length_writeInt n rest) others
  | string text => exact .cons (token?_writeString text rest) (length_writeString text rest) others
  | decimal numeral => cases plain
  | garbled => cases plain
  | array items =>
    cases items with
    | nil => exact .mark rfl (.mark rfl others)
    | cons item items =>
      obtain ⟨first, later⟩ := (Bool.and_eq_true _ _).mp plain
      simp only [Json.tokens, List.cons_append, List.append_assoc]
      exact .mark rfl (CutInto.write item first (follows_writeItems items rest)
        (CutInto.writeItems items later others))
  | object members =>
    cases members with
    | nil => exact .mark rfl (.mark rfl others)
    | cons member members =>
      obtain ⟨key, value⟩ := member
      obtain ⟨-, values⟩ := (Bool.and_eq_true _ _).mp plain
      obtain ⟨first, later⟩ := (Bool.and_eq_true _ _).mp values
      simp only [Json.tokens, List.cons_append, List.append_assoc]
      exact .mark rfl (.key key (CutInto.write value first (follows_writeMembers members rest)
        (CutInto.writeMembers members later others)))

theorem CutInto.writeItems (items : List Json) (plain : itemsPlain items = true)
    {rest : List Char} {toks : List Token} (others : CutInto rest toks) :
    CutInto (Json.writeItems items (']' :: rest)) (itemTokens items ++ toks) := by
  cases items with
  | nil => exact .mark rfl others
  | cons item items =>
    obtain ⟨first, later⟩ := (Bool.and_eq_true _ _).mp plain
    simp only [itemTokens, List.cons_append, List.append_assoc]
    exact .mark rfl (CutInto.write item first (follows_writeItems items rest)
      (CutInto.writeItems items later others))

theorem CutInto.writeMembers (members : List (String × Json)) (plain : membersPlain members = true)
    {rest : List Char} {toks : List Token} (others : CutInto rest toks) :
    CutInto (Json.writeMembers members ('\x7d' :: rest)) (memberTokens members ++ toks) := by
  cases members with
  | nil => exact .mark rfl others
  | cons member members =>
    obtain ⟨key, value⟩ := member
    obtain ⟨first, later⟩ := (Bool.and_eq_true _ _).mp plain
    simp only [memberTokens, List.cons_append, List.append_assoc]
    exact .mark rfl (.key key (CutInto.write value first (follows_writeMembers members rest)
      (CutInto.writeMembers members later others)))

end

/-! ## Reading -/

open Reading

/-- No value starts with the end of an array. -/
lemma firstItem_run (value : Json) (stack : List Open) (toks : List Token) :
    (firstItem stack).run (value.tokens ++ toks) =
      (Reading.value (.array [] :: stack)).run (value.tokens ++ toks) := by
  cases value with
  | array items => cases items <;> rfl
  | object members =>
    rcases members with _ | ⟨⟨key, value⟩, members⟩ <;> rfl
  | _ => rfl

mutual

/-- The tokens of a value are read as the value. -/
theorem run_tokens (v : Json) (stack : List Open) (toks : List Token) :
    (Reading.value stack).run (v.tokens ++ toks) = (afterValue v stack).run toks := by
  cases v with
  | array items =>
    cases items with
    | nil => rfl
    | cons item items =>
      calc (Reading.value stack).run ((array (item :: items)).tokens ++ toks)
          = (firstItem stack).run (item.tokens ++ (itemTokens items ++ toks)) := by
            simp only [tokens, List.cons_append, List.append_assoc]
            rfl
        _ = (moreItems [item] stack).run (itemTokens items ++ toks) := by
            rw [firstItem_run, run_tokens item]
            rfl
        _ = (afterValue (array (item :: items)) stack).run toks :=
            run_itemTokens items [item] stack toks
  | object members =>
    cases members with
    | nil => rfl
    | cons member members =>
      obtain ⟨key, value⟩ := member
      calc (Reading.value stack).run ((object ((key, value) :: members)).tokens ++ toks)
          = (Reading.value (.object (some []) (some key) :: stack)).run
              (value.tokens ++ (memberTokens members ++ toks)) := by
            simp only [tokens, List.cons_append, List.append_assoc]
            rfl
        _ = (moreMembers (some [(key, value)]) stack).run (memberTokens members ++ toks) := by
            rw [run_tokens value]
            rfl
        _ = (afterValue (object ((key, value) :: members)) stack).run toks :=
            run_memberTokens members [(key, value)] stack toks
  | _ => rfl

/-- The tokens of further items are read as an array with all of them. -/
theorem run_itemTokens (items done : List Json) (stack : List Open) (toks : List Token) :
    (moreItems done stack).run (itemTokens items ++ toks) =
      (afterValue (array (done.reverse ++ items)) stack).run toks := by
  cases items with
  | nil =>
    rw [List.append_nil]
    rfl
  | cons item items =>
    calc (moreItems done stack).run (itemTokens (item :: items) ++ toks)
        = (Reading.value (.array done :: stack)).run
            (item.tokens ++ (itemTokens items ++ toks)) := by
          simp only [itemTokens, List.cons_append, List.append_assoc]
          rfl
      _ = (moreItems (item :: done) stack).run (itemTokens items ++ toks) := by
          rw [run_tokens item]
          rfl
      _ = (afterValue (array (done.reverse ++ item :: items)) stack).run toks := by
          rw [run_itemTokens items, List.reverse_cons, List.append_assoc, List.singleton_append]

/-- The tokens of further members are read as an object with all of them. -/
theorem run_memberTokens (members done : List (String × Json)) (stack : List Open)
    (toks : List Token) :
    (moreMembers (some done) stack).run (memberTokens members ++ toks) =
      (afterValue (object (done.reverse ++ members)) stack).run toks := by
  cases members with
  | nil =>
    rw [List.append_nil]
    rfl
  | cons member members =>
    obtain ⟨key, value⟩ := member
    calc (moreMembers (some done) stack).run (memberTokens ((key, value) :: members) ++ toks)
        = (Reading.value (.object (some done) (some key) :: stack)).run
            (value.tokens ++ (memberTokens members ++ toks)) := by
          simp only [memberTokens, List.cons_append, List.append_assoc]
          rfl
      _ = (moreMembers (some ((key, value) :: done)) stack).run (memberTokens members ++ toks) := by
          rw [run_tokens value]
          rfl
      _ = (afterValue (object (done.reverse ++ (key, value) :: members)) stack).run toks := by
          rw [run_memberTokens members, List.reverse_cons, List.append_assoc,
            List.singleton_append]

end

/-- **The text of a plain value is read as the value.** -/
theorem parse?_render {value : Json} (plain : value.isPlain = true) :
    parse? value.render = some value := by
  have nothing : Follows [] := nofun
  have cut := CutInto.write value plain nothing .nil (value.write []).length (Nat.le_refl _)
  have read := run_tokens value [] []
  rw [List.append_nil] at cut read
  rw [parse?, render, String.toList_ofList, tokens?, cut, Option.bind_some, ofTokens?, read]
  rfl

/-- The library of compact texts does what is documented, with any limit and without one. -/
theorem documented_compact (limit : Option Nat) : (compact limit).Documented := by
  have own : ∀ {value : Json}, value.isPlain = true →
      (compact limit).read value.render = if value.isWithin limit then some value else none := by
    intro value plain
    change (parse? value.render).filter (isWithin limit) = _
    rw [parse?_render plain, Option.filter_some]
  refine ⟨fun value plain within => ?_, fun value plain deep => ?_⟩
  · exact (own plain).trans (if_pos within)
  · exact (own plain).trans (if_neg (Bool.eq_false_iff.mp deep))

end RobotScribe.Json
