/-
# The syntax of robot programs

A program is a list of functions over integers, booleans, strings, colors and arrays, with
statements that move a robot and expressions that read its sensors.  Names are resolved by
text, literals are already decoded, and every node carries the span it was read from.

The words that the transcript uses for an operator, an actuator or a color stand
beside the type they spell.
-/
import RobotScribe.Span

namespace RobotScribe

/-! ## Names and kinds -/

/-- An identifier together with the place where it is written. -/
structure Ident where
  /-- The text of the identifier. -/
  name : String
  /-- Where it is written. -/
  span : Span
deriving DecidableEq, Repr, Inhabited

/-- The kinds of value that a variable, an argument or a result can have. -/
inductive TypeKind where
  | void
  | integer
  | boolean
  | string
  | arrayInt
  | arrayBool
  | color
deriving DecidableEq, Repr, Inhabited

/-- The name of a kind in messages. -/
def TypeKind.text : TypeKind → String
  | void => "void"
  | integer => "integer"
  | boolean => "boolean"
  | string => "string"
  | arrayInt => "array of integer"
  | arrayBool => "array of boolean"
  | color => "color"

/-- How an argument reaches a parameter: as a copy of its value, or as the variable itself. -/
inductive PassMode where
  | value
  | reference
deriving DecidableEq, Repr, Inhabited

/-- A formal parameter of a function. -/
structure Param where
  /-- The name that the function body uses. -/
  name : Ident
  /-- How the argument is handed over. -/
  mode : PassMode
  /-- The declared kind; it shapes the stand-in for an argument that is not computed. -/
  kind : TypeKind
  /-- Where the parameter is written. -/
  span : Span
deriving DecidableEq, Repr, Inhabited

namespace Param

/-- A parameter that receives a copy, of integer kind until said otherwise. -/
def byValue (name : Ident) : Param := ⟨name, .value, .integer, name.span⟩

/-- A parameter that receives the variable itself, of integer kind until said otherwise. -/
def byReference (name : Ident) : Param := { byValue name with mode := .reference }

/-- The same parameter with another declared kind. -/
def withKind (p : Param) (kind : TypeKind) : Param := { p with kind }

/-- Whether the parameter stands for the caller's variable itself. -/
def isReference (p : Param) : Bool := p.mode == .reference

end Param

/-! ## Robot primitives -/

/-- The colors that the robot paints with and sees. -/
inductive Color where
  | red
  | green
  | yellow
  | blue
  | black
  | white
deriving DecidableEq, Repr, Inhabited

/-- The name of a color. -/
def Color.text : Color → String
  | red => "red"
  | green => "green"
  | yellow => "yellow"
  | blue => "blue"
  | black => "black"
  | white => "white"

/-- The commands that take numeric arguments. -/
inductive Actuator where
  | locate
  | forward
  | backward
  | turn
  | obstacle
  | invisible
deriving DecidableEq, Repr, Inhabited

/-- The instruction that carries out a command.  Moving backward is a forward move. -/
def Actuator.mnemonic : Actuator → String
  | locate => "rLocate"
  | forward => "rForward"
  | backward => "rForward"
  | turn => "rTurn"
  | obstacle => "CircleWH"
  | invisible => "rInvisible"

/-! ## Operators -/

/-- The connectives that leave their right operand alone once the left one decides. -/
inductive Connective where
  | or
  | and
deriving DecidableEq, Repr, Inhabited

/-- The operators on single bits, and on booleans without a short cut. -/
inductive BitOp where
  | or
  | and
deriving DecidableEq, Repr, Inhabited

/-- The comparisons. -/
inductive Relation where
  | eq
  | notEq
  | less
  | greater
  | lessEq
  | greaterEq
deriving DecidableEq, Repr, Inhabited

/-- The arithmetic operators. -/
inductive ArithOp where
  | add
  | sub
  | mul
  | div
  | mod
deriving DecidableEq, Repr, Inhabited

/-- A binary operator, sorted by what it asks of its operands. -/
inductive BinOp where
  | logical (op : Connective)
  | bitwise (op : BitOp)
  | relational (op : Relation)
  | arithmetic (op : ArithOp)
deriving DecidableEq, Repr, Inhabited

/-- A unary operator: a sign, or the negation of a condition. -/
inductive UnaryOp where
  | plus
  | neg
  | not
deriving DecidableEq, Repr, Inhabited

/-- The symbol of a connective. -/
def Connective.text : Connective → String
  | or => "||"
  | and => "&&"

/-- The symbol of a bit operator. -/
def BitOp.text : BitOp → String
  | or => "|"
  | and => "&"

/-- The symbol of a comparison. -/
def Relation.text : Relation → String
  | eq => "=="
  | notEq => "!="
  | less => "<"
  | greater => ">"
  | lessEq => "<="
  | greaterEq => ">="

/-- The symbol of an arithmetic operator. -/
def ArithOp.text : ArithOp → String
  | add => "+"
  | sub => "-"
  | mul => "*"
  | div => "/"
  | mod => "%"

namespace BinOp

/-- The symbol of a binary operator. -/
def text : BinOp → String
  | logical op => op.text
  | bitwise op => op.text
  | relational op => op.text
  | arithmetic op => op.text

/-- Whether the operator compares. -/
def isRelational : BinOp → Bool
  | relational _ => true
  | _ => false

/-- Whether the operator computes a number. -/
def isArithmetic : BinOp → Bool
  | arithmetic _ => true
  | _ => false

end BinOp

/-- The symbol of a unary operator. -/
def UnaryOp.text : UnaryOp → String
  | plus => "+"
  | neg => "-"
  | not => "!"

/-! ## Expressions -/

mutual

/-- An expression.  The last argument of every form is its span. -/
inductive Expr where
  /-- An integer literal. -/
  | integer (value : Int64) (span : Span)
  /-- A boolean literal. -/
  | boolean (value : Bool) (span : Span)
  /-- A string literal, given by the text it denotes. -/
  | string (value : String) (span : Span)
  /-- A color literal. -/
  | color (value : Color) (span : Span)
  /-- A variable. -/
  | var (name : String) (span : Span)
  /-- An element of an array. -/
  | element (array : Ident) (index : Expr) (span : Span)
  /-- A call, which has to yield a value. -/
  | call (site : Call) (span : Span)
  /-- A sensor reading. -/
  | sense (sensor : Sensor) (span : Span)
  /-- A binary operator between two operands. -/
  | binary (left : Expr) (op : BinOp) (right : Expr) (span : Span)
  /-- A unary operator before its operand. -/
  | unary (op : UnaryOp) (operand : Expr) (span : Span)
  /-- An expression in parentheses. -/
  | paren (inner : Expr) (span : Span)

/-- A call of a function by name. -/
structure Call where
  /-- The function that is called. -/
  name : Ident
  /-- The arguments, in order. -/
  args : List Expr
  /-- Where the call is written. -/
  span : Span

/-- A sensor of the robot. -/
inductive Sensor where
  | feel
  | infrared
  | bumper
  | compass
  /-- The distance to a colored beacon. -/
  | beacon (color : Color)
  /-- The color seen in a direction. -/
  | look (direction : Expr)

end

namespace Expr

/-- Where an expression is written. -/
def span : Expr → Span
  | integer _ s | boolean _ s | string _ s | color _ s | var _ s | element _ _ s
  | call _ s | sense _ s | binary _ _ _ s | unary _ _ s | paren _ s => s

/-- The name of the variable, if the expression is nothing but a variable. -/
def variableName? : Expr → Option String
  | var name _ => some name
  | _ => none

/-- A binary expression that covers its two operands. -/
def joining (left : Expr) (op : BinOp) (right : Expr) : Expr :=
  binary left op right (left.span.merge right.span)

/-- A unary expression that covers its operand. -/
def applying (op : UnaryOp) (operand : Expr) : Expr := unary op operand operand.span

end Expr

/-! ## Statements -/

/-- The left-hand side of an assignment. -/
inductive Target where
  /-- The variable as a whole. -/
  | var (name : Ident)
  /-- One element of an array. -/
  | element (array : Ident) (index : Expr)

/-- The variable that an assignment binds or changes. -/
def Target.name : Target → Ident
  | var name => name
  | element array _ => array

mutual

/-- A statement.  The last argument of every form but the call is its span. -/
inductive Stmt where
  /-- `target = value` -/
  | assign (target : Target) (value : Expr) (span : Span)
  /-- A conditional with an optional second branch. -/
  | ifThen (condition : Expr) (thenBlock : Block) (elseBlock : Option Block) (span : Span)
  /-- A loop that tests its condition before every round. -/
  | whileDo (condition : Expr) (body : Block) (span : Span)
  /-- Leave the function, with a result or without. -/
  | giveBack (value : Option Expr) (span : Span)
  /-- Store the next integer of the input. -/
  | read (target : Ident) (span : Span)
  /-- Print a value. -/
  | write (value : Expr) (span : Span)
  /-- A command to the robot. -/
  | actuate (actuator : Actuator) (args : List Expr) (span : Span)
  /-- Choose the color of the pen. -/
  | paint (color : Expr) (span : Span)
  /-- Put the pen down, or lift it. -/
  | pen (down : Bool) (span : Span)
  /-- A sensor used for its instruction only. -/
  | sense (sensor : Sensor) (span : Span)
  /-- A call whose result is dropped. -/
  | call (site : Call)

/-- A sequence of statements. -/
structure Block where
  /-- The statements, in order. -/
  stmts : List Stmt
  /-- Where the sequence is written. -/
  span : Span

end

/-- Where a statement is written. -/
def Stmt.span : Stmt → Span
  | assign _ _ s | ifThen _ _ _ s | whileDo _ _ s | giveBack _ s | read _ s | write _ s
  | actuate _ _ s | paint _ s | pen _ s | sense _ s => s
  | call site => site.span

/-- A block that covers its statements. -/
def Block.ofStmts (stmts : List Stmt) : Block := ⟨stmts, Span.cover (stmts.map Stmt.span)⟩

/-! ## Functions and programs -/

/-- A function declaration. -/
structure Function where
  /-- The name it is called by. -/
  name : Ident
  /-- The formal parameters, in order. -/
  params : List Param
  /-- The declared kind of the result, if any.  It only shapes the stand-in for the result of
  a call that is written out without being run. -/
  returns : Option TypeKind
  /-- The statements it runs. -/
  body : Block
  /-- Where it is declared. -/
  span : Span

/-- A program: its function declarations, in source order. -/
structure Program where
  /-- The declarations. -/
  functions : List Function
  /-- Where the program is written. -/
  span : Span

/-- A program that covers its functions. -/
def Program.ofFunctions (functions : List Function) : Program :=
  ⟨functions, Span.cover (functions.map Function.span)⟩

end RobotScribe
