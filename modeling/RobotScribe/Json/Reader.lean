/-
# Reading JSON

A JSON text is read token by token with a stack of the arrays and objects that are still
open.  What may come next depends on the state alone, so reading is a fold over the tokens.

A key that denotes no text garbles the object that it stands in, and nothing else.
-/
import RobotScribe.Json.Token

namespace RobotScribe.Json

/-- The members of an object that have been read, the latest first; there are none to speak of
once a key denoted no text. -/
abbrev Members := Option (List (String × Json))

/-- The members read so far with one more. -/
def Members.add (members : Members) (key : Option String) (value : Json) : Members :=
  match members, key with
  | some members, some key => some ((key, value) :: members)
  | _, _ => none

/-- The object with the members read so far. -/
def Members.close : Members → Json
  | some members => object members.reverse
  | none => garbled

/-- An array or an object whose end has not been read. -/
inductive Open where
  /-- An array and the items read so far, the latest first. -/
  | array (items : List Json)
  /-- An object, its members so far, and the key whose value is next. -/
  | object (members : Members) (key : Option String)

/-- What a reader may meet next. -/
inductive Reading where
  /-- A value. -/
  | value (stack : List Open)
  /-- The first item of an array, or its end. -/
  | firstItem (stack : List Open)
  /-- The first key of an object, or its end. -/
  | firstKey (stack : List Open)
  /-- The key of a further member. -/
  | key (members : Members) (stack : List Open)
  /-- The colon after a key. -/
  | colon (members : Members) (key : Option String) (stack : List Open)
  /-- A comma, or the end of the array. -/
  | moreItems (items : List Json) (stack : List Open)
  /-- A comma, or the end of the object. -/
  | moreMembers (members : Members) (stack : List Open)
  /-- Nothing: the value is complete. -/
  | complete (value : Json)

namespace Reading

/-- The state after a value has been read inside the open arrays and objects. -/
def afterValue (done : Json) : List Open → Reading
  | [] => complete done
  | .array items :: stack => moreItems (done :: items) stack
  | .object members name :: stack => moreMembers (members.add name done) stack

/-- The state after a token that starts a value. -/
def startValue (stack : List Open) : Token → Option Reading
  | .scalar done => some (afterValue done stack)
  | .string text => some (afterValue (.ofText text) stack)
  | .openArray => some (firstItem stack)
  | .openObject => some (firstKey stack)
  | _ => none

/-- The state after one more token, if the token may come here. -/
def step : Reading → Token → Option Reading
  | value stack, token => startValue stack token
  | firstItem stack, .closeArray => some (afterValue (.array []) stack)
  | firstItem stack, token => startValue (.array [] :: stack) token
  | firstKey stack, .closeObject => some (afterValue (.object []) stack)
  | firstKey stack, .string text => some (colon (some []) text stack)
  | key members stack, .string text => some (colon members text stack)
  | colon members text stack, .colon => some (value (.object members text :: stack))
  | moreItems items stack, .comma => some (value (.array items :: stack))
  | moreItems items stack, .closeArray => some (afterValue (.array items.reverse) stack)
  | moreMembers members stack, .comma => some (key members stack)
  | moreMembers members stack, .closeObject => some (afterValue members.close stack)
  | _, _ => none

/-- The state after a list of tokens. -/
def run : Reading → List Token → Option Reading
  | state, [] => some state
  | state, token :: tokens => (state.step token).bind fun next => next.run tokens

end Reading

/-- The value that a list of tokens denotes. -/
def ofTokens? (tokens : List Token) : Option Json :=
  match (Reading.value []).run tokens with
  | some (.complete value) => some value
  | _ => none

/-- The value that a JSON text denotes.  Nothing but spaces may stand around it. -/
def parse? (text : String) : Option Json := (tokens? text.toList).bind ofTokens?

end RobotScribe.Json
