/-
# Libraries for JSON

Programs and settings are exchanged as texts, and it is for a library to write the text of a value
and to read the value that a text denotes.  What is relied on is stated here (`Library.Documented`):
a library reads what it has written, unless arrays and objects are nested deeper in it than the
library permits.  Libraries have such a limit, which their users can lift.

The writer and the reader of the previous files make up one library (`compact`).
-/
import RobotScribe.Json.Reader
import RobotScribe.Json.Writer

namespace RobotScribe.Json

/-! ## Nesting -/

mutual

/-- How deep arrays and objects are nested in a value. -/
def nesting : Json → Nat
  | array items => nestingOfItems items + 1
  | object members => nestingOfMembers members + 1
  | _ => 0

/-- The greatest nesting among the items of an array. -/
def nestingOfItems : List Json → Nat
  | [] => 0
  | item :: rest => max item.nesting (nestingOfItems rest)

/-- The greatest nesting among the members of an object. -/
def nestingOfMembers : List (String × Json) → Nat
  | [] => 0
  | (_, value) :: rest => max value.nesting (nestingOfMembers rest)

end

/-- Whether a value is nested less deep than a limit, if there is one. -/
def isWithin (limit : Option Nat) (value : Json) : Bool :=
  limit.all fun limit => value.nesting < limit

/-! ## Plain values -/

mutual

/-- Whether all parts of a value are `null`, truth values, whole numbers of at most 64 bits, texts,
arrays, and objects that give no key twice. -/
def isPlain : Json → Bool
  | null | bool _ | string _ => true
  | int n => Int64.minValue.toInt ≤ n && n < UInt64.size
  | decimal _ | garbled => false
  | array items => itemsPlain items
  | object members => (members.map (·.1)).Nodup && membersPlain members

/-- Whether all items of an array are plain. -/
def itemsPlain : List Json → Bool
  | [] => true
  | item :: items => item.isPlain && itemsPlain items

/-- Whether the values of all members of an object are plain. -/
def membersPlain : List (String × Json) → Bool
  | [] => true
  | (_, value) :: members => value.isPlain && membersPlain members

end

/-! ## Libraries -/

/-- A library that writes JSON texts and reads them. -/
structure Library where
  /-- The text of a value. -/
  write : Json → String
  /-- The value that a text denotes, if the text can be read. -/
  read : String → Option Json
  /-- The nesting that is too deep for a text to be read; without a number none is. -/
  limit : Option Nat

/-- What is documented of a library, and relied on here. -/
structure Library.Documented (lib : Library) : Prop where
  /-- The text of a value is read as the value. -/
  reads : ∀ ⦃value⦄, value.isPlain = true → value.isWithin lib.limit = true →
    lib.read (lib.write value) = some value
  /-- A text that is nested too deep is refused. -/
  refuses : ∀ ⦃value⦄, value.isPlain = true → value.isWithin lib.limit = false →
    lib.read (lib.write value) = none

/-- The library that writes texts in compact form, with a limit to nesting or without. -/
def compact (limit : Option Nat) : Library where
  write := render
  read text := (parse? text).filter (isWithin limit)
  limit := limit

end RobotScribe.Json
