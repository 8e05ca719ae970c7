/-
# The keys of the enumerations

In the JSON form of a program an alternative without content is written as a key.  Each
enumeration has one table of keys; a key is read by looking for the member that it belongs to.
-/
import RobotScribe.Syntax.Basic

namespace RobotScribe

/-- The key of a pass mode. -/
def PassMode.key : PassMode → String
  | value => "value"
  | reference => "reference"

/-- The pass mode with a key. -/
def PassMode.ofKey? (key : String) : Option PassMode :=
  [value, reference].find? (·.key == key)

/-- The key of a kind. -/
def TypeKind.key : TypeKind → String
  | void => "void"
  | integer => "integer"
  | boolean => "boolean"
  | string => "string"
  | arrayInt => "array_int"
  | arrayBool => "array_bool"
  | color => "color"

/-- The kind with a key. -/
def TypeKind.ofKey? (key : String) : Option TypeKind :=
  [void, integer, boolean, string, arrayInt, arrayBool, color].find? (·.key == key)

/-- The key of a color, which is its name. -/
def Color.key (color : Color) : String := color.text

/-- The color with a key. -/
def Color.ofKey? (key : String) : Option Color :=
  [red, green, yellow, blue, black, white].find? (·.key == key)

/-- The key of an actuator. -/
def Actuator.key : Actuator → String
  | locate => "locate"
  | forward => "forward"
  | backward => "backward"
  | turn => "turn"
  | obstacle => "obstacle"
  | invisible => "invisible"

/-- The actuator with a key. -/
def Actuator.ofKey? (key : String) : Option Actuator :=
  [locate, forward, backward, turn, obstacle, invisible].find? (·.key == key)

/-- The key of a binary operator. -/
def BinOp.key : BinOp → String
  | logical .or => "Or"
  | logical .and => "And"
  | bitwise .or => "BitOr"
  | bitwise .and => "BitAnd"
  | relational .eq => "Eq"
  | relational .notEq => "NotEq"
  | relational .less => "Less"
  | relational .greater => "Greater"
  | relational .lessEq => "LessEq"
  | relational .greaterEq => "GreaterEq"
  | arithmetic .add => "Add"
  | arithmetic .sub => "Sub"
  | arithmetic .mul => "Mul"
  | arithmetic .div => "Div"
  | arithmetic .mod => "Mod"

/-- The binary operator with a key. -/
def BinOp.ofKey? (key : String) : Option BinOp :=
  [logical .or, logical .and, bitwise .or, bitwise .and, relational .eq, relational .notEq,
    relational .less, relational .greater, relational .lessEq, relational .greaterEq,
    arithmetic .add, arithmetic .sub, arithmetic .mul, arithmetic .div,
    arithmetic .mod].find? (·.key == key)

/-- The key of a unary operator. -/
def UnaryOp.key : UnaryOp → String
  | plus => "Plus"
  | neg => "Neg"
  | not => "Not"

/-- The unary operator with a key. -/
def UnaryOp.ofKey? (key : String) : Option UnaryOp :=
  [plus, neg, not].find? (·.key == key)

@[simp] theorem PassMode.ofKey?_key (mode : PassMode) : ofKey? mode.key = some mode := by
  cases mode <;> decide

@[simp] theorem TypeKind.ofKey?_key (kind : TypeKind) : ofKey? kind.key = some kind := by
  cases kind <;> decide

@[simp] theorem Color.ofKey?_key (color : Color) : ofKey? color.key = some color := by
  cases color <;> decide

@[simp] theorem Actuator.ofKey?_key (actuator : Actuator) :
    ofKey? actuator.key = some actuator := by
  cases actuator <;> decide

@[simp] theorem BinOp.ofKey?_key (op : BinOp) : ofKey? op.key = some op := by
  cases op with
  | logical op => cases op <;> decide
  | bitwise op => cases op <;> decide
  | relational op => cases op <;> decide
  | arithmetic op => cases op <;> decide

@[simp] theorem UnaryOp.ofKey?_key (op : UnaryOp) : ofKey? op.key = some op := by
  cases op <;> decide

end RobotScribe
