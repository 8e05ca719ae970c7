/-
# JSON values

A JSON document as a tree.  Objects keep their members in written order, with repeated keys,
because a reader of records has to see both.  Whole numbers are kept apart from all others:
a number with a fraction or an exponent, and the negative zero, is kept as it is written.

A string literal can be written correctly and still denote no text, because it names half of a
surrogate pair alone.  Such a value may stand where nobody reads it, so it is kept as garbled.
-/
namespace RobotScribe

/-- A JSON value. -/
inductive Json where
  | null
  | bool (value : Bool)
  /-- A number written without fraction and exponent, and not as `-0`. -/
  | int (value : Int)
  /-- Any other number, as it is written. -/
  | decimal (numeral : String)
  | string (text : String)
  | array (items : List Json)
  /-- The members of an object, as they are written. -/
  | object (members : List (String × Json))
  /-- A string that denotes no text, or an object with such a string as a key. -/
  | garbled
deriving Inhabited

namespace Json

mutual

/-- The number of arrays and objects on the longest way into a value, plus one. -/
def height : Json → Nat
  | array items => heightOfItems items + 1
  | object members => heightOfMembers members + 1
  | _ => 1

/-- The greatest height among the items of an array. -/
def heightOfItems : List Json → Nat
  | [] => 0
  | item :: rest => max item.height (heightOfItems rest)

/-- The greatest height among the members of an object. -/
def heightOfMembers : List (String × Json) → Nat
  | [] => 0
  | (_, value) :: rest => max value.height (heightOfMembers rest)

end

/-! ## Access -/

/-- The whole number that a value is, if it is one. -/
def int? : Json → Option Int
  | int n => some n
  | _ => none

/-- The value of a string literal, given by the text it denotes, if it denotes one. -/
def ofText : Option String → Json
  | some text => string text
  | none => garbled

/-- The truth value that a value is, if it is one. -/
def bool? : Json → Option Bool
  | bool b => some b
  | _ => none

/-- The text that a value is, if it is one. -/
def string? : Json → Option String
  | string s => some s
  | _ => none

/-- The items of a value that is an array. -/
def array? : Json → Option (List Json)
  | array items => some items
  | _ => none

/-- The value under a key of an object, the first one if the key is repeated. -/
def member? (key : String) : Json → Option Json
  | object members => members.lookup key
  | _ => none

/-! ## Records

A record is a value with a fixed list of named fields.  It is written as an object, where the
order of the members is free and members of other names are skipped, or as an array that
gives every field in order.
-/

/-- Whether a list of members gives a key more than once. -/
def repeats (members : List (String × Json)) (key : String) : Bool :=
  1 < (members.filter (·.1 == key)).length

/-- The fields of a record, each present or absent, in the order of the names.  A field that
is given twice spoils the record. -/
def record? (names : List String) : Json → Option (List (Option Json))
  | array items => if items.length = names.length then some (items.map some) else none
  | object members =>
    if names.any (repeats members) then none else some (names.map fun name => members.lookup name)
  | _ => none

/-- The name of an alternative and its content, if it has any: a string names an alternative
without content, and an object with a single member gives both. -/
def alternative? : Json → Option (String × Option Json)
  | string name => some (name, none)
  | object [(name, content)] => some (name, some content)
  | _ => none

/-- The name of an alternative that has no content; `null` counts as no content. -/
def constant? (value : Json) : Option String :=
  match value.alternative? with
  | some (name, none) => some name
  -- the long form of an alternative without content
  | some (name, some null) => some name
  | _ => none

/-- Reads a field that may be absent; an absent field and `null` mean the same. -/
def optional? {α : Type} (read : Json → Option α) : Option Json → Option (Option α)
  | none => some none
  | some null => some none
  | some value => (read value).map some

end Json

end RobotScribe
