/-
# Operators on values

What an operator computes from the payloads of its operands, and which operands it refuses.
The text of a result is always the written form of the operator around the operands' texts;
no operator looks at the texts otherwise.
-/
import RobotScribe.Value.Basic

namespace RobotScribe

/-- Integer arithmetic modulo 2 to the 64.  Quotients are cut toward zero, and a remainder has
the sign of the dividend.  Only a zero divisor is refused. -/
def ArithOp.apply (op : ArithOp) (a b : Int64) : Except Fault Int64 :=
  match op with
  | add => .ok (a + b)
  | sub => .ok (a - b)
  | mul => .ok (a * b)
  | div => if b = 0 then .error .divisionByZero else .ok (a / b)
  | mod => if b = 0 then .error .divisionByZero else .ok (a % b)

/-- Whether a comparison holds between operands in a given order. -/
def Relation.holds (relation : Relation) (order : Ordering) : Bool :=
  match relation with
  | eq => order.isEq
  | notEq => !order.isEq
  | less => order.isLT
  | greater => order.isGT
  | lessEq => order.isLE
  | greaterEq => order.isGE

/-- A bit operator on integers. -/
def BitOp.onIntegers : BitOp → Int64 → Int64 → Int64
  | or, a, b => a ||| b
  | and, a, b => a &&& b

/-- A bit operator on truth values. -/
def BitOp.onBooleans : BitOp → Bool → Bool → Bool
  | or, a, b => a || b
  | and, a, b => a && b

/-- A connective on truth values. -/
def Connective.apply : Connective → Bool → Bool → Bool
  | or, a, b => a || b
  | and, a, b => a && b

/-- Whether the left operand alone decides the value of a connective. -/
def Connective.decidedBy : Connective → Bool → Bool
  | or, left => left
  | and, left => !left

/-- The order of two payloads of one ordered kind.  Integers go by size, `false` comes before
`true`, and strings go by their characters' code points from left to right. -/
def Payload.order? : Payload → Payload → Option Ordering
  | integer a, integer b => some (compare a b)
  | boolean a, boolean b => some (compare a b)
  | string a, string b => some (compare a b)
  | _, _ => none

/-- Whether a comparison holds between two payloads of one kind.  Every kind can be tested for
equality, the ordered kinds for the rest too. -/
def Payload.compares (relation : Relation) (a b : Payload) : Except Fault Bool :=
  match relation with
  | .eq => .ok (a == b)
  | .notEq => .ok (a != b)
  | ordering =>
    match order? a b with
    | some order => .ok (ordering.holds order)
    | none => .error (.typeMismatch "integer, boolean or string" b.kind)

namespace Value

/-- An arithmetic operator on two values, which have to be integers. -/
def arithmetic (op : ArithOp) (left right : Value) : Except Fault Value := do
  let a ← left.expectInt
  let b ← right.expectInt
  let n ← op.apply a b
  return ⟨.integer n, Text.binaryForm left.text op.text right.text⟩

/-- A comparison of two values, which have to be of one kind. -/
def relational (op : Relation) (left right : Value) : Except Fault Value := do
  if left.kind ≠ right.kind then throw (.typeMismatch left.kind.text right.kind)
  let holds ← left.payload.compares op right.payload
  return ⟨.boolean holds, Text.binaryForm left.text op.text right.text⟩

/-- A bit operator on two values, which have to be two integers or two truth values. -/
def bitwise (op : BitOp) (left right : Value) : Except Fault Value :=
  let text := Text.binaryForm left.text op.text right.text
  match left.payload, right.payload with
  | .integer a, .integer b => .ok ⟨.integer (op.onIntegers a b), text⟩
  | .boolean a, .boolean b => .ok ⟨.boolean (op.onBooleans a b), text⟩
  | .integer _, _ => .error (.typeMismatch left.kind.text right.kind)
  | .boolean _, _ => .error (.typeMismatch left.kind.text right.kind)
  | _, _ => .error (.typeMismatch "integer or boolean" left.kind)

/-- A unary operator on a value: a sign asks for an integer, a negation for a truth value. -/
def unary (op : UnaryOp) (operand : Value) : Except Fault Value := do
  let payload ← match op with
    | .plus => operand.expectInt.map Payload.integer
    | .neg => operand.expectInt.map fun n => Payload.integer (-n)
    | .not => operand.expectBool.map fun b => Payload.boolean (!b)
  return ⟨payload, Text.unaryForm op.text operand.text⟩

end Value

end RobotScribe
