/-
# Writing JSON

The compact form of a JSON value: no blanks, members in their order, and in strings an escape
only where one is needed.  Writing puts the text of a value before a text that is already
there, so that the cost is linear in the length of the result.
-/
import RobotScribe.Json.Basic

namespace RobotScribe.Json

/-- Puts the escape of a character, or the character itself, before a text.  The quote, the
backslash and the characters below the space are escaped. -/
def writeChar (c : Char) (rest : List Char) : List Char :=
  if c = '"' then '\\' :: '"' :: rest
  else if c = '\\' then '\\' :: '\\' :: rest
  else if c = '\x08' then '\\' :: 'b' :: rest
  else if c = '\x0c' then '\\' :: 'f' :: rest
  else if c = '\n' then '\\' :: 'n' :: rest
  else if c = '\r' then '\\' :: 'r' :: rest
  else if c = '\t' then '\\' :: 't' :: rest
  else if c.toNat < 0x20 then
    '\\' :: 'u' :: '0' :: '0' :: Nat.digitChar (c.toNat / 16) :: Nat.digitChar (c.toNat % 16)
      :: rest
  else c :: rest

/-- Puts a string literal before a text. -/
def writeString (text : String) (rest : List Char) : List Char :=
  '"' :: text.toList.foldr writeChar ('"' :: rest)

/-- Puts the shortest text of a garbled value, half of a surrogate pair, before a text. -/
def writeGarbled (rest : List Char) : List Char :=
  '"' :: '\\' :: 'u' :: 'd' :: '8' :: '0' :: '0' :: '"' :: rest

/-- Puts a decimal numeral before a text. -/
def writeInt (n : Int) (rest : List Char) : List Char :=
  let digits := Nat.toDigits 10 n.natAbs ++ rest
  if n < 0 then '-' :: digits else digits

mutual

/-- Puts a value before a text. -/
def write : Json → List Char → List Char
  | null, rest => 'n' :: 'u' :: 'l' :: 'l' :: rest
  | bool true, rest => 't' :: 'r' :: 'u' :: 'e' :: rest
  | bool false, rest => 'f' :: 'a' :: 'l' :: 's' :: 'e' :: rest
  | int n, rest => writeInt n rest
  | decimal numeral, rest => numeral.toList ++ rest
  | string text, rest => writeString text rest
  | array [], rest => '[' :: ']' :: rest
  | array (item :: items), rest => '[' :: item.write (writeItems items (']' :: rest))
  | object [], rest => '\x7b' :: '\x7d' :: rest
  | object ((key, value) :: members), rest =>
    '\x7b' :: writeString key (':' :: value.write (writeMembers members ('\x7d' :: rest)))
  | garbled, rest => writeGarbled rest

/-- Puts the items after the first one before a text, each after a comma. -/
def writeItems : List Json → List Char → List Char
  | [], rest => rest
  | item :: items, rest => ',' :: item.write (writeItems items rest)

/-- Puts the members after the first one before a text, each after a comma. -/
def writeMembers : List (String × Json) → List Char → List Char
  | [], rest => rest
  | (key, value) :: members, rest =>
    ',' :: writeString key (':' :: value.write (writeMembers members rest))

end

/-- The compact text of a value. -/
def render (value : Json) : String := String.ofList (value.write [])

end RobotScribe.Json
