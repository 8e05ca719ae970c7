/-
# Reading a program from its JSON form

A node may be given as an object or as an array of its fields.  Members of other names are
skipped, the order of members is free, and a field that is given twice is a fault.  Only three
fields may be missing or `null`: the result kind of a function, the second branch of a
conditional, and the value of a return.  The kind of a parameter may be missing, and is
`integer` then, but it may not be `null`.

Reading descends one level of the JSON tree at a time, so its height bounds the descent.
-/
import RobotScribe.Json.Basic
import RobotScribe.Text.Decimal
import RobotScribe.Syntax.Key

namespace RobotScribe

/-- Reads every item of an array. -/
def Json.arrayOf? {α : Type} (decode : Json → Option α) (value : Json) : Option (List α) :=
  value.array?.bind fun items => items.mapM decode

/-- Reads an alternative without content by its key. -/
def Json.keyed? {α : Type} (ofKey? : String → Option α) (value : Json) : Option α :=
  value.constant?.bind ofKey?

/-! ## Positions, names and parameters -/

/-- Reads a line or a column. -/
def decodePosition (value : Json) : Option UInt32 := value.int?.bind Text.exactUInt32?

/-- Reads a span. -/
def Span.decode (value : Json) : Option Span :=
  match value.record? ["start_line", "start_col", "end_line", "end_col"] with
  | some [some startLine, some startCol, some endLine, some endCol] => do
    let startLine ← decodePosition startLine
    let startCol ← decodePosition startCol
    let endLine ← decodePosition endLine
    let endCol ← decodePosition endCol
    return ⟨startLine, startCol, endLine, endCol⟩
  | _ => none

/-- Reads an identifier. -/
def Ident.decode (value : Json) : Option Ident :=
  match value.record? ["name", "span"] with
  | some [some name, some span] => do
    let name ← name.string?
    let span ← Span.decode span
    return ⟨name, span⟩
  | _ => none

/-- Reads a pass mode. -/
def PassMode.decode (value : Json) : Option PassMode := value.keyed? ofKey?

/-- Reads a kind. -/
def TypeKind.decode (value : Json) : Option TypeKind := value.keyed? ofKey?

/-- Reads a color. -/
def Color.decode (value : Json) : Option Color := value.keyed? ofKey?

/-- Reads an actuator. -/
def Actuator.decode (value : Json) : Option Actuator := value.keyed? ofKey?

/-- Reads a binary operator. -/
def BinOp.decode (value : Json) : Option BinOp := value.keyed? ofKey?

/-- Reads a unary operator. -/
def UnaryOp.decode (value : Json) : Option UnaryOp := value.keyed? ofKey?

/-- Reads the kind of a parameter, which is `integer` when it is missing. -/
def decodeParamKind : Option Json → Option TypeKind
  | none => some .integer
  | some value => TypeKind.decode value

/-- Reads a parameter. -/
def Param.decode (value : Json) : Option Param :=
  match value.record? ["name", "mode", "kind", "span"] with
  | some [some name, some mode, kind, some span] => do
    let name ← Ident.decode name
    let mode ← PassMode.decode mode
    let kind ← decodeParamKind kind
    let span ← Span.decode span
    return ⟨name, mode, kind, span⟩
  | _ => none

/-! ## Expressions -/

mutual

/-- Reads an expression that is at most so many levels high. -/
def decodeExpr : Nat → Json → Option Expr
  | 0, _ => none
  | fuel + 1, value =>
    match value.record? ["kind", "span"] with
    | some [some kind, some span] => do
      let span ← Span.decode span
      match kind.alternative? with
      | some (tag, some content) => decodeForm fuel tag content span
      | _ => none
    | _ => none

/-- Reads the form of an expression from its tag and its content. -/
def decodeForm : Nat → String → Json → Span → Option Expr
  | 0, _, _, _ => none
  | fuel + 1, tag, content, span =>
    match tag with
    | "IntLit" => do
      let n ← content.int?.bind Text.exactInt64?
      return .integer n span
    | "BoolLit" => do
      let b ← content.bool?
      return .boolean b span
    | "StringLit" => do
      let text ← content.string?
      return .string text span
    | "ColorLit" => do
      let color ← Color.decode content
      return .color color span
    | "Identifier" => do
      let name ← content.string?
      return .var name span
    | "Index" =>
      match content.record? ["array", "index"] with
      | some [some array, some index] => do
        let array ← Ident.decode array
        let index ← decodeExpr fuel index
        return .element array index span
      | _ => none
    | "Call" => do
      let site ← decodeCall fuel content
      return .call site span
    | "Sense" => do
      let sensor ← decodeSensor fuel content
      return .sense sensor span
    | "Binary" =>
      match content.record? ["left", "op", "right"] with
      | some [some left, some op, some right] => do
        let left ← decodeExpr fuel left
        let op ← BinOp.decode op
        let right ← decodeExpr fuel right
        return .binary left op right span
      | _ => none
    | "Unary" =>
      match content.record? ["op", "operand"] with
      | some [some op, some operand] => do
        let op ← UnaryOp.decode op
        let operand ← decodeExpr fuel operand
        return .unary op operand span
      | _ => none
    | "Paren" => do
      let inner ← decodeExpr fuel content
      return .paren inner span
    | _ => none

/-- Reads a call. -/
def decodeCall : Nat → Json → Option Call
  | 0, _ => none
  | fuel + 1, value =>
    match value.record? ["name", "args", "span"] with
    | some [some name, some args, some span] => do
      let name ← Ident.decode name
      let args ← args.arrayOf? (decodeExpr fuel)
      let span ← Span.decode span
      return ⟨name, args, span⟩
    | _ => none

/-- Reads a sensor. -/
def decodeSensor : Nat → Json → Option Sensor
  | 0, _ => none
  | fuel + 1, value =>
    match value.constant? with
    | some "feel" => some .feel
    | some "infrared" => some .infrared
    | some "bumper" => some .bumper
    | some "compass" => some .compass
    | _ =>
      match value.alternative? with
      | some ("beacon", some color) => do
        let color ← Color.decode color
        return .beacon color
      | some ("look", some direction) => do
        let direction ← decodeExpr fuel direction
        return .look direction
      | _ => none

end

/-- Reads an expression. -/
def Expr.decode (value : Json) : Option Expr := decodeExpr (2 * value.height) value

/-- Reads a call. -/
def Call.decode (value : Json) : Option Call := decodeCall (2 * value.height) value

/-- Reads a sensor. -/
def Sensor.decode (value : Json) : Option Sensor := decodeSensor (2 * value.height) value

/-! ## Statements -/

/-- Reads the left-hand side of an assignment. -/
def Target.decode (value : Json) : Option Target :=
  match value.alternative? with
  | some ("Variable", some name) => do
    let name ← Ident.decode name
    return .var name
  | some ("Element", some content) =>
    match content.record? ["array", "index"] with
    | some [some array, some index] => do
      let array ← Ident.decode array
      let index ← Expr.decode index
      return .element array index
    | _ => none
  | _ => none

mutual

/-- Reads a statement that is at most so many levels high. -/
def decodeStmt : Nat → Json → Option Stmt
  | 0, _ => none
  | fuel + 1, value =>
    match value.alternative? with
    | some ("Assign", some content) =>
      match content.record? ["target", "value", "span"] with
      | some [some target, some value, some span] => do
        let target ← Target.decode target
        let value ← Expr.decode value
        let span ← Span.decode span
        return .assign target value span
      | _ => none
    | some ("If", some content) =>
      match content.record? ["condition", "then_block", "else_block", "span"] with
      | some [some condition, some thenBlock, elseBlock, some span] => do
        let condition ← Expr.decode condition
        let thenBlock ← decodeBlock fuel thenBlock
        let elseBlock ← Json.optional? (decodeBlock fuel) elseBlock
        let span ← Span.decode span
        return .ifThen condition thenBlock elseBlock span
      | _ => none
    | some ("While", some content) =>
      match content.record? ["condition", "body", "span"] with
      | some [some condition, some body, some span] => do
        let condition ← Expr.decode condition
        let body ← decodeBlock fuel body
        let span ← Span.decode span
        return .whileDo condition body span
      | _ => none
    | some ("Return", some content) =>
      match content.record? ["value", "span"] with
      | some [value, some span] => do
        let value ← Json.optional? Expr.decode value
        let span ← Span.decode span
        return .giveBack value span
      | _ => none
    | some ("Read", some content) =>
      match content.record? ["target", "span"] with
      | some [some target, some span] => do
        let target ← Ident.decode target
        let span ← Span.decode span
        return .read target span
      | _ => none
    | some ("Write", some content) =>
      match content.record? ["value", "span"] with
      | some [some value, some span] => do
        let value ← Expr.decode value
        let span ← Span.decode span
        return .write value span
      | _ => none
    | some ("Actuate", some content) =>
      match content.record? ["actuator", "args", "span"] with
      | some [some actuator, some args, some span] => do
        let actuator ← Actuator.decode actuator
        let args ← args.arrayOf? Expr.decode
        let span ← Span.decode span
        return .actuate actuator args span
      | _ => none
    | some ("Paint", some content) =>
      match content.record? ["color", "span"] with
      | some [some color, some span] => do
        let color ← Expr.decode color
        let span ← Span.decode span
        return .paint color span
      | _ => none
    | some ("Pen", some content) =>
      match content.record? ["down", "span"] with
      | some [some down, some span] => do
        let down ← down.bool?
        let span ← Span.decode span
        return .pen down span
      | _ => none
    | some ("Sense", some content) =>
      match content.record? ["sensor", "span"] with
      | some [some sensor, some span] => do
        let sensor ← Sensor.decode sensor
        let span ← Span.decode span
        return .sense sensor span
      | _ => none
    | some ("Call", some content) => do
      let site ← Call.decode content
      return .call site
    | _ => none

/-- Reads a block. -/
def decodeBlock : Nat → Json → Option Block
  | 0, _ => none
  | fuel + 1, value =>
    match value.record? ["stmts", "span"] with
    | some [some stmts, some span] => do
      let stmts ← stmts.arrayOf? (decodeStmt fuel)
      let span ← Span.decode span
      return ⟨stmts, span⟩
    | _ => none

end

/-- Reads a statement. -/
def Stmt.decode (value : Json) : Option Stmt := decodeStmt value.height value

/-- Reads a block. -/
def Block.decode (value : Json) : Option Block := decodeBlock value.height value

/-! ## Functions and programs -/

/-- Reads a function. -/
def Function.decode (value : Json) : Option Function :=
  match value.record? ["name", "params", "returns", "body", "span"] with
  | some [some name, some params, returns, some body, some span] => do
    let name ← Ident.decode name
    let params ← params.arrayOf? Param.decode
    let returns ← Json.optional? TypeKind.decode returns
    let body ← Block.decode body
    let span ← Span.decode span
    return ⟨name, params, returns, body, span⟩
  | _ => none

/-- Reads a program. -/
def Program.decode (value : Json) : Option Program :=
  match value.record? ["functions", "span"] with
  | some [some functions, some span] => do
    let functions ← functions.arrayOf? Function.decode
    let span ← Span.decode span
    return ⟨functions, span⟩
  | _ => none

end RobotScribe
