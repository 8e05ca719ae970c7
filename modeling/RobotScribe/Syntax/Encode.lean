/-
# The JSON form of a program

Every node of the tree becomes an object whose members are its fields, in the order in which
the node has them.  An alternative with content becomes an object with a single member; an
alternative without content becomes its key.  A missing result kind is left out, any other
missing part is written as `null`.
-/
import RobotScribe.Json.Basic
import RobotScribe.Syntax.Key

namespace RobotScribe

/-- An alternative with content, in JSON form. -/
def Json.tagged (tag : String) (content : Json) : Json := .object [(tag, content)]

/-- A part that may be missing, in JSON form. -/
def Json.orNull {α : Type} (encode : α → Json) : Option α → Json
  | none => .null
  | some part => encode part

/-- A span in JSON form. -/
def Span.encode (s : Span) : Json :=
  .object [("start_line", .int s.startLine.toNat), ("start_col", .int s.startCol.toNat),
    ("end_line", .int s.endLine.toNat), ("end_col", .int s.endCol.toNat)]

/-- An identifier in JSON form. -/
def Ident.encode (i : Ident) : Json :=
  .object [("name", .string i.name), ("span", i.span.encode)]

/-- A parameter in JSON form. -/
def Param.encode (p : Param) : Json :=
  .object [("name", p.name.encode), ("mode", .string p.mode.key), ("kind", .string p.kind.key),
    ("span", p.span.encode)]

/-! ## Expressions -/

mutual

/-- An expression in JSON form. -/
def Expr.encode : Expr → Json
  | .integer n s => node (.tagged "IntLit" (.int n.toInt)) s
  | .boolean b s => node (.tagged "BoolLit" (.bool b)) s
  | .string t s => node (.tagged "StringLit" (.string t)) s
  | .color c s => node (.tagged "ColorLit" (.string c.key)) s
  | .var name s => node (.tagged "Identifier" (.string name)) s
  | .element array index s =>
    node (.tagged "Index" (.object [("array", array.encode), ("index", index.encode)])) s
  | .call site s => node (.tagged "Call" site.encode) s
  | .sense sensor s => node (.tagged "Sense" sensor.encode) s
  | .binary left op right s =>
    node (.tagged "Binary" (.object
      [("left", left.encode), ("op", .string op.key), ("right", right.encode)])) s
  | .unary op operand s =>
    node (.tagged "Unary" (.object [("op", .string op.key), ("operand", operand.encode)])) s
  | .paren inner s => node (.tagged "Paren" inner.encode) s
where
  /-- A form of expression at its span. -/
  node (kind : Json) (span : Span) : Json := .object [("kind", kind), ("span", span.encode)]

/-- A call in JSON form. -/
def Call.encode : Call → Json
  | ⟨name, args, span⟩ =>
    .object [("name", name.encode), ("args", .array (encodeExprs args)), ("span", span.encode)]

/-- A sensor in JSON form. -/
def Sensor.encode : Sensor → Json
  | .feel => .string "feel"
  | .infrared => .string "infrared"
  | .bumper => .string "bumper"
  | .compass => .string "compass"
  | .beacon color => .tagged "beacon" (.string color.key)
  | .look direction => .tagged "look" direction.encode

/-- A list of expressions in JSON form, item by item. -/
def encodeExprs : List Expr → List Json
  | [] => []
  | e :: rest => e.encode :: encodeExprs rest

end

/-! ## Statements -/

/-- The left-hand side of an assignment in JSON form. -/
def Target.encode : Target → Json
  | .var name => .tagged "Variable" name.encode
  | .element array index =>
    .tagged "Element" (.object [("array", array.encode), ("index", index.encode)])

mutual

/-- A statement in JSON form. -/
def Stmt.encode : Stmt → Json
  | .assign target value s =>
    .tagged "Assign" (.object
      [("target", target.encode), ("value", value.encode), ("span", s.encode)])
  | .ifThen condition thenBlock elseBlock s =>
    .tagged "If" (.object
      [("condition", condition.encode), ("then_block", thenBlock.encode),
        ("else_block", encodeElse elseBlock), ("span", s.encode)])
  | .whileDo condition body s =>
    .tagged "While" (.object
      [("condition", condition.encode), ("body", body.encode), ("span", s.encode)])
  | .giveBack value s =>
    .tagged "Return" (.object [("value", .orNull Expr.encode value), ("span", s.encode)])
  | .read target s =>
    .tagged "Read" (.object [("target", target.encode), ("span", s.encode)])
  | .write value s =>
    .tagged "Write" (.object [("value", value.encode), ("span", s.encode)])
  | .actuate actuator args s =>
    .tagged "Actuate" (.object
      [("actuator", .string actuator.key), ("args", .array (encodeExprs args)),
        ("span", s.encode)])
  | .paint color s =>
    .tagged "Paint" (.object [("color", color.encode), ("span", s.encode)])
  | .pen down s => .tagged "Pen" (.object [("down", .bool down), ("span", s.encode)])
  | .sense sensor s =>
    .tagged "Sense" (.object [("sensor", sensor.encode), ("span", s.encode)])
  | .call site => .tagged "Call" site.encode

/-- A block in JSON form. -/
def Block.encode : Block → Json
  | ⟨stmts, span⟩ => .object [("stmts", .array (encodeStmts stmts)), ("span", span.encode)]

/-- An optional second branch in JSON form. -/
def encodeElse : Option Block → Json
  | none => .null
  | some block => block.encode

/-- A list of statements in JSON form, item by item. -/
def encodeStmts : List Stmt → List Json
  | [] => []
  | s :: rest => s.encode :: encodeStmts rest

end

/-! ## Functions and programs -/

/-- The member for a declared result kind; without one there is none. -/
def encodeReturns : Option TypeKind → List (String × Json)
  | none => []
  | some kind => [("returns", .string kind.key)]

/-- A function in JSON form. -/
def Function.encode (f : Function) : Json :=
  .object ([("name", f.name.encode), ("params", .array (f.params.map Param.encode))]
    ++ encodeReturns f.returns ++ [("body", f.body.encode), ("span", f.span.encode)])

/-- A program in JSON form. -/
def Program.encode (p : Program) : Json :=
  .object [("functions", .array (p.functions.map Function.encode)), ("span", p.span.encode)]

end RobotScribe
