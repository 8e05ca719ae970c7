/-
# The written forms of the transcript

How a line of the transcript is put together from the texts of its parts.
-/
namespace RobotScribe.Text

/-- A binary operator between the texts of its operands. -/
def binaryForm (left op right : String) : String := left ++ " " ++ op ++ " " ++ right

/-- A unary operator before the text of its operand. -/
def unaryForm (op operand : String) : String := op ++ operand

/-- A text in parentheses. -/
def parenForm (inner : String) : String := "(" ++ inner ++ ")"

/-- An element of an array. -/
def elementForm (array index : String) : String := array ++ "[" ++ index ++ "]"

/-- A call.  Its arguments are not written: the called block finds them in its variables. -/
def callForm (function : String) : String := function ++ "()"

/-- An assignment. -/
def assignForm (target value : String) : String := target ++ " = " ++ value

/-- The items of a list, separated by a comma and a space. -/
def listForm (items : List String) : String := String.intercalate ", " items

/-- A text is atomic when a sign can stand before it as it is: it is not empty, and it has
ASCII letters, ASCII digits and underscores only. -/
def isAtomic (text : String) : Bool :=
  text != "" && text.toList.all fun c => c.isAlphanum || c == '_'

/-- The negation of a text, in parentheses unless it is atomic. -/
def negatedForm (text : String) : String :=
  if isAtomic text then "-" ++ text else "-" ++ parenForm text

end RobotScribe.Text
