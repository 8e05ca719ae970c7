/-
# Values

A value is a payload together with the text of the expression that computed it.  The payload
decides what a program does; the text is what the transcript shows for it.
-/
import RobotScribe.Fault
import RobotScribe.Text.Form
import RobotScribe.Text.Quoted

namespace RobotScribe

/-- The data of a value. -/
inductive Payload where
  /-- No value: the outcome of a function that returns nothing. -/
  | void
  | integer (n : Int64)
  | boolean (b : Bool)
  | string (s : String)
  | integers (items : Array Int64)
  | booleans (items : Array Bool)
  | color (c : Color)
deriving DecidableEq, Repr, Inhabited

namespace Payload

/-- The kind of a payload. -/
def kind : Payload → TypeKind
  | void => .void
  | integer _ => .integer
  | boolean _ => .boolean
  | string _ => .string
  | integers _ => .arrayInt
  | booleans _ => .arrayBool
  | color _ => .color

/-- A truth value as it is shown. -/
def showBool (b : Bool) : String := if b then "true" else "false"

/-- An array as it is shown: its items in square brackets. -/
def showItems {α : Type} (render : α → String) (items : Array α) : String :=
  "[" ++ Text.listForm (items.toList.map render) ++ "]"

/-- A payload as it is shown. -/
def display : Payload → String
  | void => "void"
  | integer n => toString n.toInt
  | boolean b => showBool b
  | string s => Text.quote s
  | integers items => showItems (fun n => toString n.toInt) items
  | booleans items => showItems showBool items
  | color c => c.text

/-- The payload that stands in for a value of a kind that is not computed. -/
def standIn : TypeKind → Payload
  | .void => void
  | .integer => integer 0
  | .boolean => boolean false
  | .string => string ""
  | .arrayInt => integers #[]
  | .arrayBool => booleans #[]
  | .color => color .green

@[simp] theorem kind_standIn (k : TypeKind) : (standIn k).kind = k := by cases k <;> rfl

end Payload

/-- A value: its data and the text it was computed from. -/
structure Value where
  /-- The data. -/
  payload : Payload
  /-- The text of the expression that computed it. -/
  text : String
deriving DecidableEq, Repr, Inhabited

namespace Value

/-! ## Values that are given by their payload alone -/

/-- The outcome of a function that returns nothing.  Its text is empty. -/
def void : Value := ⟨.void, ""⟩

/-- A payload with the text that shows it. -/
def shown (payload : Payload) : Value := ⟨payload, payload.display⟩

/-- An integer, shown in decimal. -/
def integer (n : Int64) : Value := shown (.integer n)

/-- A truth value. -/
def boolean (b : Bool) : Value := shown (.boolean b)

/-- A string, shown in quotes. -/
def string (s : String) : Value := shown (.string s)

/-- A color, shown by its name. -/
def color (c : Color) : Value := shown (.color c)

/-- An array of integers. -/
def integers (items : Array Int64) : Value := shown (.integers items)

/-- An array of truth values. -/
def booleans (items : Array Bool) : Value := shown (.booleans items)

/-- A value of a kind that stands in for one that is not computed. -/
def standIn (kind : TypeKind) (text : String) : Value := ⟨.standIn kind, text⟩

/-! ## Views -/

/-- The same data with another text. -/
def withText (v : Value) (text : String) : Value := { v with text }

/-- The kind of a value. -/
def kind (v : Value) : TypeKind := v.payload.kind

/-- Whether a value is no value. -/
def isVoid (v : Value) : Bool := v.payload == .void

/-- A value as it is shown, which does not depend on its text. -/
def display (v : Value) : String := v.payload.display

/-- The number of items of an array; any other value has none. -/
def length (v : Value) : Nat :=
  match v.payload with
  | .integers items => items.size
  | .booleans items => items.size
  | _ => 0

/-- The integer that a value has to be. -/
def expectInt (v : Value) : Except Fault Int64 :=
  match v.payload with
  | .integer n => .ok n
  | _ => .error (.typeMismatch "numerical" v.kind)

/-- The truth value that a value has to be. -/
def expectBool (v : Value) : Except Fault Bool :=
  match v.payload with
  | .boolean b => .ok b
  | _ => .error (.typeMismatch "boolean" v.kind)

/-- The color that a value has to be. -/
def expectColor (v : Value) : Except Fault Color :=
  match v.payload with
  | .color c => .ok c
  | _ => .error (.typeMismatch "color" v.kind)

@[simp] theorem payload_withText (v : Value) (text : String) :
    (v.withText text).payload = v.payload := rfl

@[simp] theorem text_withText (v : Value) (text : String) : (v.withText text).text = text := rfl

@[simp] theorem kind_standIn (k : TypeKind) (text : String) : (standIn k text).kind = k :=
  Payload.kind_standIn k

theorem isVoid_iff {v : Value} : v.isVoid = true ↔ v.payload = .void := by simp [isVoid]

theorem expectInt_eq_ok {v : Value} {n : Int64} : v.expectInt = .ok n ↔ v.payload = .integer n := by
  obtain ⟨payload, text⟩ := v
  cases payload <;> simp [expectInt]

theorem expectBool_eq_ok {v : Value} {b : Bool} :
    v.expectBool = .ok b ↔ v.payload = .boolean b := by
  obtain ⟨payload, text⟩ := v
  cases payload <;> simp [expectBool]

end Value

end RobotScribe
