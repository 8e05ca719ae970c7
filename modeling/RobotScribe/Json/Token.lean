/-
# The tokens of a JSON text

A JSON text is a sequence of tokens with blanks between them.  Strict JSON is read: a numeral
has no leading zero and no plus sign, and a string holds no raw control character.  An escape
that names half of a surrogate pair has to be joined by its other half, or the string denotes no
text; it is a token all the same.
-/
import RobotScribe.Json.Basic
import RobotScribe.Text.Decimal

namespace RobotScribe.Json

/-- A token of a JSON text. -/
inductive Token where
  | openArray
  | closeArray
  | openObject
  | closeObject
  | comma
  | colon
  /-- A value that is a token by itself: `null`, a truth value or a number. -/
  | scalar (value : Json)
  /-- A string literal, given by the text it denotes, if it denotes one. -/
  | string (text : Option String)

/-! ## String literals -/

/-- A part of a string literal: a character, or a 16-bit unit given in hexadecimal. -/
inductive Piece where
  | char (c : Char)
  | unit (n : Nat)

/-- The value of a hexadecimal digit of either case. -/
def hexDigit? (c : Char) : Option Nat :=
  if '0' ≤ c ∧ c ≤ '9' then some (c.toNat - '0'.toNat)
  else if 'a' ≤ c ∧ c ≤ 'f' then some (c.toNat - 'a'.toNat + 10)
  else if 'A' ≤ c ∧ c ≤ 'F' then some (c.toNat - 'A'.toNat + 10)
  else none

/-- The 16-bit unit that four hexadecimal digits name. -/
def unit? (a b c d : Char) : Option Nat := do
  let a ← hexDigit? a
  let b ← hexDigit? b
  let c ← hexDigit? c
  let d ← hexDigit? d
  return ((a * 16 + b) * 16 + c) * 16 + d

/-- The character that a letter after a backslash stands for. -/
def escaped? : Char → Option Char
  | '"' => some '"'
  | '\\' => some '\\'
  | '/' => some '/'
  | 'b' => some '\x08'
  | 'f' => some '\x0c'
  | 'n' => some '\n'
  | 'r' => some '\r'
  | 't' => some '\t'
  | _ => none

/-- The pieces of a string literal whose opening quote has been read, and the text after its
closing quote. -/
def pieces? : List Char → Option (List Piece × List Char)
  | [] => none
  | '"' :: rest => some ([], rest)
  | '\\' :: 'u' :: a :: b :: c :: d :: rest => do
    let n ← unit? a b c d
    let (pieces, rest) ← pieces? rest
    return (.unit n :: pieces, rest)
  -- a `u` too near to the end gets here, and `escaped?` refuses it
  | '\\' :: letter :: rest => do
    let c ← escaped? letter
    let (pieces, rest) ← pieces? rest
    return (.char c :: pieces, rest)
  | c :: rest =>
    if c.toNat < 0x20 ∨ c = '\\' then none
    else do
      let (pieces, rest) ← pieces? rest
      return (.char c :: pieces, rest)

/-- The first half of a surrogate pair. -/
def isHighSurrogate (n : Nat) : Bool := 0xD800 ≤ n && n < 0xDC00

/-- The second half of a surrogate pair. -/
def isLowSurrogate (n : Nat) : Bool := 0xDC00 ≤ n && n < 0xE000

/-- The text that pieces denote: a surrogate pair is one character, and half of one alone
denotes nothing. -/
def joinPieces? : List Piece → Option (List Char)
  | [] => some []
  | .char c :: rest => (joinPieces? rest).map (c :: ·)
  | .unit high :: .unit low :: rest =>
    if isHighSurrogate high && isLowSurrogate low then
      (joinPieces? rest).map (Char.ofNat (0x10000 + (high - 0xD800) * 0x400 + (low - 0xDC00)) :: ·)
    else if isHighSurrogate high || isLowSurrogate high then none
    else (joinPieces? (.unit low :: rest)).map (Char.ofNat high :: ·)
  | .unit n :: rest =>
    if isHighSurrogate n || isLowSurrogate n then none
    else (joinPieces? rest).map (Char.ofNat n :: ·)

/-- A string literal whose opening quote has been read, and the text after it. -/
def stringToken? (text : List Char) : Option (Token × List Char) := do
  let (pieces, rest) ← pieces? text
  return (.string ((joinPieces? pieces).map String.ofList), rest)

/-! ## Numerals -/

/-- One or more digits at the start of a text, and the text after them. -/
def digits? (text : List Char) : Option (List Char × List Char) :=
  match text.takeWhile Char.isDigit with
  | [] => none
  | digits => some (digits, text.dropWhile Char.isDigit)

/-- The fraction of a numeral: nothing, or a point and one or more digits. -/
def fraction? : List Char → Option (List Char × List Char)
  | '.' :: rest => do
    let (digits, rest) ← digits? rest
    return ('.' :: digits, rest)
  | rest => some ([], rest)

/-- The exponent of a numeral: nothing, or a mark, an optional sign and one or more digits. -/
def exponent? : List Char → Option (List Char × List Char)
  | mark :: rest =>
    if mark = 'e' ∨ mark = 'E' then
      match rest with
      | '+' :: rest => do
        let (digits, rest) ← digits? rest
        return (mark :: '+' :: digits, rest)
      | '-' :: rest => do
        let (digits, rest) ← digits? rest
        return (mark :: '-' :: digits, rest)
      | rest => do
        let (digits, rest) ← digits? rest
        return (mark :: digits, rest)
    else some ([], mark :: rest)
  | [] => some ([], [])

/-- The number that a numeral denotes, from its sign and its three parts. -/
def numberOf (negative : Bool) (whole fraction exponent : List Char) : Json :=
  if fraction = [] ∧ exponent = [] ∧ ¬ (negative = true ∧ whole = ['0']) then
    let n : Int := Text.digitsValue whole
    .int (if negative then -n else n)
  else
    let sign := if negative then ['-'] else []
    .decimal (String.ofList (sign ++ whole ++ fraction ++ exponent))

/-- An unsigned numeral at the start of a text, and the text after it. -/
def unsignedToken? (negative : Bool) (text : List Char) : Option (Token × List Char) := do
  let (whole, rest) ← digits? text
  if whole.head? = some '0' ∧ whole ≠ ['0'] then none
  else
    let (fraction, rest) ← fraction? rest
    let (exponent, rest) ← exponent? rest
    return (.scalar (numberOf negative whole fraction exponent), rest)

/-! ## Tokens -/

/-- Whether a character may stand between tokens. -/
def isSpace (c : Char) : Bool := c == ' ' || c == '\n' || c == '\r' || c == '\t'

/-- The token at the start of a text that does not start with a space, and the text after it. -/
def token? : List Char → Option (Token × List Char)
  | '[' :: rest => some (.openArray, rest)
  | ']' :: rest => some (.closeArray, rest)
  | '\x7b' :: rest => some (.openObject, rest)
  | '\x7d' :: rest => some (.closeObject, rest)
  | ',' :: rest => some (.comma, rest)
  | ':' :: rest => some (.colon, rest)
  | '"' :: rest => stringToken? rest
  | 'n' :: 'u' :: 'l' :: 'l' :: rest => some (.scalar .null, rest)
  | 't' :: 'r' :: 'u' :: 'e' :: rest => some (.scalar (.bool true), rest)
  | 'f' :: 'a' :: 'l' :: 's' :: 'e' :: rest => some (.scalar (.bool false), rest)
  | '-' :: rest => unsignedToken? true rest
  | rest => unsignedToken? false rest

/-- The tokens of a text, as far as the fuel goes; every token and every space costs one. -/
def tokensWithin : Nat → List Char → Option (List Token)
  | _, [] => some []
  | 0, _ :: _ => none
  | fuel + 1, c :: rest =>
    if isSpace c then tokensWithin fuel rest
    else do
      let (token, rest) ← token? (c :: rest)
      let tokens ← tokensWithin fuel rest
      return token :: tokens

/-- The tokens of a text, if it has no fault.  A token has at least one character, so as much
fuel as characters is enough. -/
def tokens? (text : List Char) : Option (List Token) := tokensWithin text.length text

end RobotScribe.Json
