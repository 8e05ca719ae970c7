/-
# The words of the input

A byte stream is read line by line, and each line that is valid text gives its words.  A line that
is not gives one fault.  So a stream comes down to a list of results, and whatever is asked for,
words or integers, is answered by these results, one after the other: none is left out, none comes
twice, and after the last one there is nothing more.

For a stream that is valid text as a whole, the lines make no difference: a newline is white space
as well, and no byte of another character looks like one.
-/
import RobotScribe.Input
import Mathlib.Data.Nat.Digits.Defs
import Mathlib.Tactic.Lemma

namespace RobotScribe

namespace Text

/-! ## Words -/

/-- The longest parts of a text without white space, from left to right. -/
def tokens (text : String) : List String :=
  ((text.toList.splitOnP isBlank).filter (· ≠ [])).map String.ofList

lemma attach_of_blank {d : Char} (blank : isBlank d = true) (c : Char) (rest : List Char)
    (words : List (List Char)) : attach c (d :: rest) words = [c] :: words := by
  cases words <;> simp [attach, blank]

/-- Going through a text character by character gives the parts between its blank characters. -/
lemma words_eq_filter (text : List Char) :
    words text = (text.splitOnP isBlank).filter (· ≠ []) := by
  induction text with
  | nil => rfl
  | cons c rest ih =>
    rw [List.splitOnP_cons_eq_if_modifyHead, words, ih]
    by_cases blank : isBlank c
    · simp [blank]
    · rw [if_neg blank, if_neg blank]
      cases rest with
      | nil => rfl
      | cons d others =>
        rw [List.splitOnP_cons_eq_if_modifyHead]
        obtain ⟨head, tail, split⟩ :=
          List.exists_cons_of_ne_nil (List.splitOnP_ne_nil isBlank others)
        by_cases blank' : isBlank d
        · rw [if_pos blank', attach_of_blank blank']
          simp
        · rw [if_neg blank', split]
          simp [attach, blank']

/-- The words of a text are its longest parts without white space. -/
lemma wordsOf_eq_tokens (text : String) : wordsOf text = tokens text := by
  rw [wordsOf, words_eq_filter, tokens]

/-- White space keeps the words before it and those after it apart. -/
lemma words_append_blank {b : Char} (blank : isBlank b = true) (front back : List Char) :
    words (front ++ b :: back) = words front ++ words back := by
  rw [words_eq_filter, List.splitOnP_append_cons _ _ blank, List.filter_append, ← words_eq_filter,
    ← words_eq_filter]

/-! ## Lines -/

/-- A list is cut right after each occurrence of an item. -/
structure CutAfter {α : Type} (stop : α) (lines : List (List α)) (all : List α) : Prop where
  /-- The parts make up the list. -/
  flatten_eq : lines.flatten = all
  /-- No part is empty. -/
  ne_nil : ∀ line ∈ lines, line ≠ []
  /-- The item is nowhere but at the end of a part. -/
  notMem : ∀ line ∈ lines, stop ∉ line.dropLast
  /-- Each part but the last one ends with the item. -/
  getLast? : ∀ line ∈ lines.dropLast, line.getLast? = some stop

namespace CutAfter

variable {α : Type} {stop a : α} {line : List α} {lines : List (List α)} {all : List α}

lemma nil (stop : α) : CutAfter stop [] [] := ⟨rfl, by simp, by simp, by simp⟩

lemma single (a stop : α) : CutAfter stop [[a]] [a] := ⟨rfl, by simp, by simp, by simp⟩

lemma close (h : CutAfter stop lines all) : CutAfter stop ([stop] :: lines) (stop :: all) := by
  refine ⟨by simp [h.flatten_eq], ?_, ?_, ?_⟩
  · simpa using h.ne_nil
  · simpa using h.notMem
  · cases lines with
    | nil => simp
    | cons next others => simpa using h.getLast?

lemma cons (ne : a ≠ stop) (h : CutAfter stop (line :: lines) all) :
    CutAfter stop ((a :: line) :: lines) (a :: all) := by
  obtain ⟨b, rest, rfl⟩ := List.exists_cons_of_ne_nil (h.ne_nil line List.mem_cons_self)
  have notMem := List.forall_mem_cons.mp h.notMem
  refine ⟨by simp [← h.flatten_eq], ?_, ?_, ?_⟩
  · simpa using (List.forall_mem_cons.mp h.ne_nil).2
  · refine List.forall_mem_cons.mpr ⟨?_, notMem.2⟩
    simpa [List.dropLast_cons_of_ne_nil, ne.symm] using notMem.1
  · cases lines with
    | nil => simp
    | cons next others => simpa [List.getLast?_cons_cons] using h.getLast?

end CutAfter

/-- Bytes are cut into lines after each newline. -/
lemma cutLines_cutAfter (bytes : List UInt8) : CutAfter newline (cutLines bytes) bytes := by
  induction bytes with
  | nil => exact .nil newline
  | cons b rest ih =>
    rw [cutLines]
    by_cases ends : b = newline
    · rw [if_pos ends, ends]
      exact ih.close
    · rw [if_neg ends]
      cases cut : cutLines rest with
      | nil =>
        rw [cut] at ih
        rw [← ih.flatten_eq]
        exact .single b newline
      | cons line others =>
        rw [cut] at ih
        exact ih.cons ends

/-- Bytes without a newline come before the first line. -/
lemma cutLines_append {front : List UInt8} (nonempty : front ≠ []) (away : newline ∉ front)
    (back : List UInt8) :
    cutLines (front ++ back) =
      match cutLines back with
      | [] => [front]
      | line :: others => (front ++ line) :: others := by
  induction front with
  | nil => exact absurd rfl nonempty
  | cons b rest ih =>
    simp only [List.mem_cons, not_or] at away
    rw [List.cons_append, cutLines, if_neg (Ne.symm away.1)]
    cases rest with
    | nil => rfl
    | cons b' rest =>
      rw [ih (by simp) away.2]
      cases cutLines back <;> rfl

/-- The bytes of some characters. -/
def encode (text : List Char) : List UInt8 := text.flatMap String.utf8EncodeChar

lemma newline_ne_ofNat {k : Nat} (high : 0x80 ≤ k) (small : k < 0x100) :
    newline ≠ UInt8.ofNat k := by
  intro same
  have value : 10 = k % 0x100 := by simpa [newline] using congrArg UInt8.toNat same
  omega

/-- No byte of another character looks like a newline. -/
lemma eq_of_newline_mem {c : Char} (mem : newline ∈ String.utf8EncodeChar c) : c = '\n' := by
  unfold String.utf8EncodeChar at mem
  dsimp only at mem
  split_ifs at mem with one
  · have same : newline = UInt8.ofNat c.val.toNat := List.mem_singleton.mp mem
    have value : 10 = c.val.toNat % 0x100 := by simpa [newline] using congrArg UInt8.toNat same
    have code : c.val.toNat = 10 := by omega
    exact Char.ext (UInt32.toNat_inj.mp code)
  -- the bytes of any other character are at least 128
  all_goals
    refine absurd mem ?_
    simp only [List.mem_cons, List.not_mem_nil, or_false, not_or]
    and_intros
    all_goals exact newline_ne_ofNat (by omega) (by omega)

/-- The bytes of a text are cut into lines where its characters are. -/
lemma exists_cutLines_encode (text : List Char) :
    ∃ lines, cutLines (encode text) = lines.map encode ∧ CutAfter '\n' lines text := by
  induction text with
  | nil => exact ⟨[], rfl, .nil _⟩
  | cons c rest ih =>
    obtain ⟨lines, cut, whole⟩ := ih
    by_cases ends : c = '\n'
    · subst ends
      refine ⟨['\n'] :: lines, ?_, whole.close⟩
      rw [List.map_cons, ← cut]
      rfl
    · have away : newline ∉ String.utf8EncodeChar c := fun mem => ends (eq_of_newline_mem mem)
      have bytes : encode (c :: rest) = String.utf8EncodeChar c ++ encode rest := rfl
      rw [bytes, cutLines_append String.utf8EncodeChar_ne_nil away, cut]
      cases lines with
      | nil =>
        rw [← whole.flatten_eq]
        exact ⟨[[c]], by simp [encode], .single c _⟩
      | cons line others => exact ⟨(c :: line) :: others, by simp [encode], whole.cons ends⟩

/-- The words of a text are those of its lines. -/
lemma CutAfter.flatMap_words {b : Char} (blank : isBlank b = true) {lines : List (List Char)}
    {text : List Char} (h : CutAfter b lines text) : lines.flatMap words = words text := by
  rw [← h.flatten_eq]
  have closed := h.getLast?
  clear h
  induction lines with
  | nil => rfl
  | cons line others ih =>
    cases others with
    | nil => simp
    | cons next others =>
      rw [List.dropLast_cons_cons] at closed
      obtain ⟨front, rfl⟩ := List.getLast?_eq_some_iff.mp (closed line List.mem_cons_self)
      have rest := ih fun line mem => closed line (List.mem_cons_of_mem _ mem)
      rw [List.flatMap_cons, rest, List.flatten_cons (l := front ++ [b]), List.append_assoc,
        List.singleton_append, words_append_blank blank, words_append_blank blank]
      simp [words]

lemma fromUTF8?_eq_some {bytes : ByteArray} {text : String} :
    String.fromUTF8? bytes = some text ↔ bytes = text.toByteArray := by
  unfold String.fromUTF8?
  constructor
  · intro valid
    split_ifs at valid with utf8
    cases valid
    rfl
  · rintro rfl
    rw [dif_pos text.isValidUTF8]
    rfl

/-- Bytes are decoded as the text that they encode. -/
lemma decode?_eq_some {bytes : List UInt8} {text : String} :
    decode? bytes = some text ↔ bytes = encode text.toList := by
  have asBytes : (⟨bytes.toArray⟩ : ByteArray) = bytes.toByteArray :=
    ByteArray.ext List.data_toByteArray.symm
  rw [decode?, fromUTF8?_eq_some, asBytes, ← String.utf8Encode_toList, List.utf8Encode,
    List.toByteArray_inj, encode]

/-! ## Numerals -/

/-- A word denotes an integer: it is made up of decimal digits, with a sign before them or none. -/
def Numeral (word : String) (n : Int64) : Prop :=
  ∃ sign digits, word.toList = sign ++ digits ∧ sign ∈ [[], ['+'], ['-']] ∧
    digits ≠ [] ∧ (∀ d ∈ digits, '0' ≤ d ∧ d ≤ '9') ∧
    n.toInt = (if sign = ['-'] then -1 else 1) *
      (Nat.ofDigits 10 (digits.reverse.map fun d => d.toNat - '0'.toNat) : Nat)

lemma digitsValue_eq (digits : List Char) :
    digitsValue digits = Nat.ofDigits 10 (digits.reverse.map fun d => d.toNat - '0'.toNat) := by
  rw [Nat.ofDigits_eq_foldr, List.foldr_map, List.foldr_reverse, digitsValue]
  simp [Nat.add_comm]

lemma exactInt64?_eq_some {z : Int} {n : Int64} : exactInt64? z = some n ↔ n.toInt = z := by
  refine ⟨toInt_of_exactInt64?, ?_⟩
  rintro rfl
  exact exactInt64?_toInt n

lemma splitSign_append {sign digits : List Char} (one : sign ∈ [[], ['+'], ['-']])
    (nonempty : digits ≠ []) (decimal : ∀ d ∈ digits, '0' ≤ d ∧ d ≤ '9') :
    splitSign (sign ++ digits) = (decide (sign = ['-']), digits) := by
  obtain ⟨d, rest, rfl⟩ := List.exists_cons_of_ne_nil nonempty
  simp only [List.mem_cons, List.not_mem_nil, or_false] at one
  rcases one with rfl | rfl | rfl
  · have first := decimal d List.mem_cons_self
    unfold splitSign
    split <;> simp_all
  · rfl
  · rfl

lemma exists_sign (text : List Char) :
    ∃ sign ∈ [[], ['+'], ['-']], text = sign ++ (splitSign text).2 ∧
      (splitSign text).1 = decide (sign = ['-']) := by
  unfold splitSign
  split
  · exact ⟨['-'], by simp, rfl, rfl⟩
  · exact ⟨['+'], by simp, rfl, rfl⟩
  · exact ⟨[], by simp, rfl, rfl⟩

lemma isDigit_iff {d : Char} : d.isDigit = true ↔ '0' ≤ d ∧ d ≤ '9' := by
  simp [Char.isDigit, Char.le_def]

/-- An integer is read from its numerals and from nothing else. -/
lemma readInt64?_eq_some {word : String} {n : Int64} :
    readInt64? word = some n ↔ Numeral word n := by
  constructor
  · intro read
    obtain ⟨sign, one, parts, negative⟩ := exists_sign word.toList
    simp only [readInt64?] at read
    by_cases decimal : (splitSign word.toList).2 ≠ [] ∧ (splitSign word.toList).2.all Char.isDigit
    · rw [if_pos decimal, exactInt64?_eq_some, negative, digitsValue_eq] at read
      refine ⟨sign, _, parts, one, decimal.1, fun d mem => ?_, ?_⟩
      · exact isDigit_iff.mp (List.all_eq_true.mp decimal.2 d mem)
      · rw [read]
        by_cases minus : sign = ['-'] <;> simp [minus]
    · rw [if_neg decimal] at read
      cases read
  · rintro ⟨sign, digits, parts, one, nonempty, decimal, value⟩
    have digit : digits.all Char.isDigit :=
      List.all_eq_true.mpr fun d mem => isDigit_iff.mpr (decimal d mem)
    simp only [readInt64?, parts, splitSign_append one nonempty decimal]
    rw [if_pos ⟨nonempty, digit⟩, exactInt64?_eq_some, value, digitsValue_eq]
    by_cases minus : sign = ['-'] <;> simp [minus]

end Text

namespace Input

/-! ## Results -/

/-- What one line comes down to: its words, or a fault if it is not valid text. -/
def lineResults (line : List UInt8) : List (Except Fault String) :=
  match Text.decode? line with
  | some text => (Text.tokens text).map .ok
  | none => [.error invalidLine]

/-- What a byte stream comes down to, line by line. -/
def results (bytes : List UInt8) : List (Except Fault String) :=
  (Text.cutLines bytes).flatMap lineResults

/-- What is left comes down to the words that are pending and the lines after the current one. -/
def ahead (input : Input) : List (Except Fault String) :=
  input.pending.map .ok ++ input.unread.flatMap lineResults

lemma ahead_ofBytes (bytes : List UInt8) : (ofBytes bytes).ahead = results bytes := rfl

/-- Reading a word uses up one result, the next one, by induction on the lines.  At the end there
is nothing to use up. -/
lemma nextWord_ahead (input : Input) :
    input.nextWord.1 = (match input.ahead.head? with
      | some result => result.map some
      | none => .ok none) ∧
      input.nextWord.2.ahead = input.ahead.tail := by
  obtain ⟨pending, unread⟩ := input
  induction unread generalizing pending with
  | nil =>
    cases pending with
    | nil => exact ⟨rfl, rfl⟩
    | cons word pending => simp [ahead, Except.map]
  | cons line unread ih =>
    cases pending with
    | cons word pending => simp [ahead, Except.map]
    | nil =>
      cases decoded : Text.decode? line with
      | none =>
        rw [nextWord_invalid decoded]
        simp [ahead, lineResults, decoded, Except.map]
      | some text =>
        have same : ahead ⟨[], line :: unread⟩ = ahead ⟨Text.wordsOf text, unread⟩ := by
          simp [ahead, lineResults, decoded, Text.wordsOf_eq_tokens]
        rw [nextWord_line decoded, same]
        exact ih _

/-! ## Requests -/

/-- What can be asked of an input. -/
inductive Request where
  /-- The next word. -/
  | word
  /-- The next word read as an integer. -/
  | integer
deriving DecidableEq, Repr

/-- What an input answers. -/
inductive Answer where
  /-- The next word, or nothing at the end of the input. -/
  | word (outcome : Except Fault (Option String))
  /-- The integer that the next word is. -/
  | integer (outcome : Except Fault Int64)

/-- The answer to a request, and what is left after it. -/
def answer (input : Input) : Request → Answer × Input
  | .word => (.word input.nextWord.1, input.nextWord.2)
  | .integer => (.integer input.nextInteger.1, input.nextInteger.2)

/-- The answers to some requests, one after the other. -/
def answers (input : Input) : List Request → List Answer
  | [] => []
  | request :: rest => (input.answer request).1 :: (input.answer request).2.answers rest

/-- The answer that a result gives to a request; there is no result at the end of the input. -/
inductive Gives : Option (Except Fault String) → Request → Answer → Prop where
  | word (word : String) : Gives (some (.ok word)) .word (.word (.ok (some word)))
  | noWord : Gives none .word (.word (.ok none))
  | failure (fault : Fault) : Gives (some (.error fault)) .word (.word (.error fault))
  | integer {word : String} {n : Int64} (numeral : Text.Numeral word n) :
    Gives (some (.ok word)) .integer (.integer (.ok n))
  | noNumeral {word : String} (other : ∀ n, ¬Text.Numeral word n) :
    Gives (some (.ok word)) .integer (.integer (.error (.formatError word)))
  | noInteger : Gives none .integer (.integer (.error (.formatError "end of input")))
  | integerFailure (fault : Fault) :
    Gives (some (.error fault)) .integer (.integer (.error fault))

/-- A request for an integer uses up the same result as one for a word. -/
lemma ahead_answer (input : Input) (request : Request) :
    (input.answer request).2.ahead = input.ahead.tail := by
  cases request with
  | word => exact (nextWord_ahead input).2
  | integer => exact (nextWord_ahead input).2

/-- A request is answered by the next result. -/
lemma gives_answer (input : Input) (request : Request) :
    Gives input.ahead.head? request (input.answer request).1 := by
  have next := (nextWord_ahead input).1
  cases request with
  | word =>
    simp only [answer, next]
    rcases input.ahead.head? with _ | (fault | word)
    · exact .noWord
    · exact .failure fault
    · exact .word word
  | integer =>
    simp only [answer, nextInteger, next]
    rcases input.ahead.head? with _ | (fault | word)
    · exact .noInteger
    · exact .integerFailure fault
    · change Gives _ _ (.integer (integerOf (some word)))
      cases read : Text.readInt64? word with
      | some n =>
        simp only [integerOf, read]
        exact .integer (Text.readInt64?_eq_some.mp read)
      | none =>
        simp only [integerOf, read]
        refine .noNumeral fun n numeral => ?_
        rw [Text.readInt64?_eq_some.mpr numeral] at read
        cases read

/-- Requests are answered by the results, one after the other. -/
lemma gives_answers (input : Input) {requests : List Request} {i : Nat} {request : Request}
    (asked : requests[i]? = some request) :
    ∃ answer, (input.answers requests)[i]? = some answer ∧
      Gives input.ahead[i]? request answer := by
  induction requests generalizing input i with
  | nil => simp at asked
  | cons first rest ih =>
    cases i with
    | zero =>
      obtain rfl : first = request := by simpa using asked
      refine ⟨_, rfl, ?_⟩
      rw [← List.head?_eq_getElem?]
      exact gives_answer input first
    | succ i =>
      have later := ih (input.answer first).2 (by simpa using asked)
      rw [ahead_answer, List.getElem?_tail] at later
      simpa [answers] using later

/-- The results of a text are its words, whatever lines it has. -/
lemma results_of_decode? {bytes : List UInt8} {text : String}
    (decoded : Text.decode? bytes = some text) :
    results bytes = (Text.tokens text).map .ok := by
  rw [results, Text.decode?_eq_some.mp decoded]
  obtain ⟨lines, cut, whole⟩ := Text.exists_cutLines_encode text.toList
  have line (cs : List Char) :
      lineResults (Text.encode cs) = (Text.words cs).map fun word => .ok (String.ofList word) := by
    have valid : Text.decode? (Text.encode cs) = some (String.ofList cs) := by
      rw [Text.decode?_eq_some, String.toList_ofList]
    simp [lineResults, valid, ← Text.wordsOf_eq_tokens, Text.wordsOf]
  have words := whole.flatMap_words (by decide)
  rw [cut, ← Text.wordsOf_eq_tokens, Text.wordsOf, ← words]
  simp [List.flatMap_map, line, List.map_flatMap, Function.comp_def]

/-- **No word of the input is lost, read twice or out of order.**  A byte stream is cut into lines
right after each newline.  A line that is valid text comes down to its words, and any other line to
a fault.  Requests for words and for integers, in any order, are answered by these results one after
the other, and by the end of the input after the last one.  If the whole stream is valid text, then
the results are the words of this text. -/
theorem answers_in_order (bytes : List UInt8) :
    Text.CutAfter Text.newline (Text.cutLines bytes) bytes ∧
      (∀ (requests : List Request) (i : Nat) (request : Request), requests[i]? = some request →
        ∃ answer, ((ofBytes bytes).answers requests)[i]? = some answer ∧
          Gives (results bytes)[i]? request answer) ∧
      ∀ text : String, Text.decode? bytes = some text →
        results bytes = (Text.tokens text).map .ok := by
  refine ⟨Text.cutLines_cutAfter bytes, fun _ _ _ asked => ?_, fun _ => results_of_decode?⟩
  rw [← ahead_ofBytes]
  exact gives_answers (ofBytes bytes) asked

/-- Two lines, of which the second one is blank. -/
theorem answers_in_order_seven :
    let bytes : List UInt8 := [55, 32, 120, 10, 32]
    let requests : List Request := [.integer, .integer, .word]
    requests[1]? = some .integer ∧ Text.decode? bytes = some "7 x\n " ∧
      results bytes = [.ok "7", .ok "x"] ∧
      ((ofBytes bytes).answers requests)[1]? = some (.integer (.error (.formatError "x"))) := by
  intro bytes requests
  have decoded : Text.decode? bytes = some "7 x\n " := Text.decode?_eq_some.mpr (by decide)
  obtain ⟨-, answered, words⟩ := answers_in_order bytes
  have results : results bytes = [.ok "7", .ok "x"] := by
    rw [words _ decoded]
    decide
  obtain ⟨answer, second, gives⟩ := answered requests 1 .integer rfl
  refine ⟨rfl, decoded, results, ?_⟩
  rw [second]
  rw [results] at gives
  cases gives with
  | noNumeral => rfl
  | integer numeral =>
    have read := Text.readInt64?_eq_some.mpr numeral
    have unread : Text.readInt64? "x" = none := by decide
    rw [unread] at read
    cases read

end Input

end RobotScribe
