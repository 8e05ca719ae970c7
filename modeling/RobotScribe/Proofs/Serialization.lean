/-
# The lines of dry code

Code that is written without being run is written by its syntax: each statement once and in
order, both branches of a conditional, the body of a loop once.  Before the line of an
instruction stand the calls that its expressions make, in the order in which they are made.

There is one exception.  A connective stands as its left operand alone where that decides it,
and then the calls of its right operand are not made.  So the lines are those of a trimmed
program: one in which some connectives are replaced by their left operands.  A program without
connectives is trimmed only to itself.
-/
import RobotScribe.Evaluation.Evaluate
import Mathlib.Tactic.Lemma

namespace RobotScribe

/-! ## Expressions -/

mutual

/-- The text of an expression. -/
def Expr.text : Expr → String
  | .integer n _ => toString n.toInt
  | .boolean b _ => Payload.showBool b
  | .string s _ => Text.quote s
  | .color c _ => c.text
  | .var name _ => name
  | .element array index _ => Text.elementForm array.name index.text
  | .call ⟨name, _, _⟩ _ => Text.callForm name.name
  | .sense sensor _ => sensor.text
  | .binary left op right _ => Text.binaryForm left.text op.text right.text
  | .unary op operand _ => Text.unaryForm op.text operand.text
  | .paren inner _ => Text.parenForm inner.text

/-- The instruction that reads a sensor. -/
def Sensor.text : Sensor → String
  | .feel => Eval.sensorForm "rFeel" ""
  | .infrared => Eval.sensorForm "rSense" ""
  | .bumper => Eval.sensorForm "rBumper" ""
  | .compass => Eval.sensorForm "rCompass" ""
  | .beacon color => Eval.sensorForm "rBeacon" color.text
  | .look direction => Eval.sensorForm "rLook" direction.text

end

mutual

/-- The names of the functions that an expression calls, in the order of the calls. -/
def Expr.calls : Expr → List String
  | .element _ index _ => index.calls
  | .call site _ => site.calls
  | .sense sensor _ => sensor.calls
  | .binary left _ right _ => left.calls ++ right.calls
  | .unary _ operand _ => operand.calls
  | .paren inner _ => inner.calls
  | .integer .. | .boolean .. | .string .. | .color .. | .var .. => []

/-- The calls of the arguments are made before the call itself. -/
def Call.calls : Call → List String
  | ⟨name, args, _⟩ => callsOf args ++ [name.name]

/-- The calls that are made to read a sensor. -/
def Sensor.calls : Sensor → List String
  | .look direction => direction.calls
  | .feel | .infrared | .bumper | .compass | .beacon _ => []

/-- The calls of some expressions, from left to right. -/
def callsOf : List Expr → List String
  | [] => []
  | e :: rest => e.calls ++ callsOf rest

end

mutual

/-- Whether an expression has no connective. -/
def Expr.connectiveFree : Expr → Bool
  | .element _ index _ => index.connectiveFree
  | .call site _ => site.connectiveFree
  | .sense sensor _ => sensor.connectiveFree
  | .binary _ (.logical _) _ _ => false
  | .binary left _ right _ => left.connectiveFree && right.connectiveFree
  | .unary _ operand _ => operand.connectiveFree
  | .paren inner _ => inner.connectiveFree
  | .integer .. | .boolean .. | .string .. | .color .. | .var .. => true

/-- Whether the arguments of a call have no connective. -/
def Call.connectiveFree : Call → Bool
  | ⟨_, args, _⟩ => allConnectiveFree args

/-- Whether a sensor has no connective. -/
def Sensor.connectiveFree : Sensor → Bool
  | .look direction => direction.connectiveFree
  | .feel | .infrared | .bumper | .compass | .beacon _ => true

/-- Whether some expressions have no connective. -/
def allConnectiveFree : List Expr → Bool
  | [] => true
  | e :: rest => e.connectiveFree && allConnectiveFree rest

end

mutual

/-- An expression with some connectives replaced by their left operands. -/
inductive Trims : Expr → Expr → Prop where
  | same (e : Expr) : Trims e e
  | element (array : Ident) {index index' : Expr} (span : Span) (inner : Trims index index') :
      Trims (.element array index span) (.element array index' span)
  | call {site site' : Call} (span : Span) (args : TrimsCall site site') :
      Trims (.call site span) (.call site' span)
  | sense {sensor sensor' : Sensor} (span : Span) (inner : TrimsSensor sensor sensor') :
      Trims (.sense sensor span) (.sense sensor' span)
  | binary {left left' right right' : Expr} (op : BinOp) (span : Span) (lhs : Trims left left')
      (rhs : Trims right right') :
      Trims (.binary left op right span) (.binary left' op right' span)
  /-- A connective that its left operand decides. -/
  | decided {left left' : Expr} (op : Connective) (right : Expr) (span : Span)
      (lhs : Trims left left') : Trims (.binary left (.logical op) right span) left'
  | unary (op : UnaryOp) {operand operand' : Expr} (span : Span)
      (inner : Trims operand operand') :
      Trims (.unary op operand span) (.unary op operand' span)
  | paren {inner inner' : Expr} (span : Span) (within : Trims inner inner') :
      Trims (.paren inner span) (.paren inner' span)

/-- A call with trimmed arguments. -/
inductive TrimsCall : Call → Call → Prop where
  | mk (name : Ident) {args args' : List Expr} (span : Span) (all : TrimsAll args args') :
      TrimsCall ⟨name, args, span⟩ ⟨name, args', span⟩

/-- A sensor with a trimmed direction. -/
inductive TrimsSensor : Sensor → Sensor → Prop where
  | same (sensor : Sensor) : TrimsSensor sensor sensor
  | look {direction direction' : Expr} (inner : Trims direction direction') :
      TrimsSensor (.look direction) (.look direction')

/-- Expressions that are trimmed one by one. -/
inductive TrimsAll : List Expr → List Expr → Prop where
  | nil : TrimsAll [] []
  | cons {e e' : Expr} {rest rest' : List Expr} (first : Trims e e')
      (others : TrimsAll rest rest') : TrimsAll (e :: rest) (e' :: rest')

end

mutual

/-- Without connectives there is nothing to trim. -/
theorem Trims.eq {e e' : Expr} (h : Trims e e') (free : e.connectiveFree = true) :
    e' = e := by
  cases h with
  | same => rfl
  | element array span inner => rw [inner.eq free]
  | call span args => rw [args.eq free]
  | sense span inner => rw [inner.eq free]
  | binary op span lhs rhs =>
    cases op with
    | logical op => cases free
    | bitwise op | relational op | arithmetic op =>
      obtain ⟨left, right⟩ := (Bool.and_eq_true _ _).mp free
      rw [lhs.eq left, rhs.eq right]
  | decided op right span lhs => cases free
  | unary op span inner => rw [inner.eq free]
  | paren span within => rw [within.eq free]

theorem TrimsCall.eq {site site' : Call} (h : TrimsCall site site')
    (free : site.connectiveFree = true) : site' = site := by
  cases h with
  | mk name span all => rw [all.eq free]

theorem TrimsSensor.eq {sensor sensor' : Sensor} (h : TrimsSensor sensor sensor')
    (free : sensor.connectiveFree = true) : sensor' = sensor := by
  cases h with
  | same => rfl
  | look inner => rw [inner.eq free]

theorem TrimsAll.eq {es es' : List Expr} (h : TrimsAll es es')
    (free : allConnectiveFree es = true) : es' = es := by
  cases h with
  | nil => rfl
  | cons first others =>
    obtain ⟨head, rest⟩ := (Bool.and_eq_true _ _).mp free
    rw [first.eq head, others.eq rest]

end

/-! ## Statements -/

/-- The lines that call some blocks. -/
def markers (depth : Nat) (names : List String) : List Entry :=
  names.map fun name => .marker depth (Text.callForm name)

/-- The line of an instruction, after the calls that are made for it. -/
def instructionLines (depth : Nat) (calls : List String) (text : String) : List Entry :=
  markers depth calls ++ [.instruction depth text]

mutual

/-- The lines of a statement that is written at a depth. -/
def Stmt.lines (depth : Nat) : Stmt → List Entry
  | .assign (.var target) value _ =>
    instructionLines depth value.calls (Text.assignForm target.name value.text)
  | .assign (.element array index) value _ =>
    instructionLines depth (value.calls ++ index.calls)
      (Text.assignForm (Text.elementForm array.name index.text) value.text)
  | .ifThen condition thenBlock elseBlock _ =>
    instructionLines depth condition.calls ("if " ++ condition.text)
      ++ thenBlock.lines (depth + 1) ++ elseLines depth elseBlock
      ++ [.instruction depth "endif"]
  | .whileDo condition body _ =>
    instructionLines depth condition.calls ("while " ++ condition.text)
      ++ body.lines (depth + 1) ++ [.instruction depth "wend"]
  | .giveBack none _ => [.instruction depth "Return"]
  | .giveBack (some value) _ => instructionLines depth value.calls ("Return " ++ value.text)
  | .read _ _ => []
  | .write value _ => instructionLines depth value.calls ("print " ++ value.text)
  | .actuate actuator args _ =>
    instructionLines depth (callsOf args) (Eval.commandForm actuator (args.map Expr.text))
  | .paint color _ => instructionLines depth color.calls ("rPen " ++ color.text)
  | .pen down _ => [.instruction depth (Eval.penForm down)]
  | .sense sensor _ => instructionLines depth sensor.calls sensor.text
  | .call site => markers depth site.calls

/-- The lines of a block. -/
def Block.lines (depth : Nat) : Block → List Entry
  | ⟨stmts, _⟩ => linesOf depth stmts

/-- The lines of an optional second branch; the branch itself stands one level deeper. -/
def elseLines (depth : Nat) : Option Block → List Entry
  | none => []
  | some block => .instruction depth "else" :: block.lines (depth + 1)

/-- The lines of statements, in order. -/
def linesOf (depth : Nat) : List Stmt → List Entry
  | [] => []
  | s :: rest => s.lines depth ++ linesOf depth rest

end

/-- The lines of the block of a function. -/
def Function.lines (function : Function) : List Entry :=
  .label (function.name.name ++ ":") :: (function.body.lines 1 ++ [.label "Return"])

/-- Whether the left-hand side of an assignment has no connective. -/
def Target.connectiveFree : Target → Bool
  | .var _ => true
  | .element _ index => index.connectiveFree

mutual

/-- Whether a statement has no connective. -/
def Stmt.connectiveFree : Stmt → Bool
  | .assign target value _ => target.connectiveFree && value.connectiveFree
  | .ifThen condition thenBlock elseBlock _ =>
    condition.connectiveFree && (thenBlock.connectiveFree && elseConnectiveFree elseBlock)
  | .whileDo condition body _ => condition.connectiveFree && body.connectiveFree
  | .giveBack (some value) _ => value.connectiveFree
  | .write value _ => value.connectiveFree
  | .actuate _ args _ => allConnectiveFree args
  | .paint color _ => color.connectiveFree
  | .sense sensor _ => sensor.connectiveFree
  | .call site => site.connectiveFree
  | .giveBack none _ | .read .. | .pen .. => true

/-- Whether a block has no connective. -/
def Block.connectiveFree : Block → Bool
  | ⟨stmts, _⟩ => stmtsConnectiveFree stmts

/-- Whether an optional second branch has no connective. -/
def elseConnectiveFree : Option Block → Bool
  | none => true
  | some block => block.connectiveFree

/-- Whether some statements have no connective. -/
def stmtsConnectiveFree : List Stmt → Bool
  | [] => true
  | s :: rest => s.connectiveFree && stmtsConnectiveFree rest

end

/-- A left-hand side with a trimmed index. -/
inductive TrimsTarget : Target → Target → Prop where
  | var (name : Ident) : TrimsTarget (.var name) (.var name)
  | element (array : Ident) {index index' : Expr} (place : Trims index index') :
      TrimsTarget (.element array index) (.element array index')

mutual

/-- A statement with trimmed expressions. -/
inductive TrimsStmt : Stmt → Stmt → Prop where
  | same (s : Stmt) : TrimsStmt s s
  | assign {target target' : Target} {value value' : Expr} (span : Span)
      (place : TrimsTarget target target') (assigned : Trims value value') :
      TrimsStmt (.assign target value span) (.assign target' value' span)
  | ifThen {condition condition' : Expr} {thenBlock thenBlock' : Block}
      {elseBlock elseBlock' : Option Block} (span : Span) (test : Trims condition condition')
      (first : TrimsBlock thenBlock thenBlock') (second : TrimsElse elseBlock elseBlock') :
      TrimsStmt (.ifThen condition thenBlock elseBlock span)
        (.ifThen condition' thenBlock' elseBlock' span)
  | whileDo {condition condition' : Expr} {body body' : Block} (span : Span)
      (test : Trims condition condition') (inner : TrimsBlock body body') :
      TrimsStmt (.whileDo condition body span) (.whileDo condition' body' span)
  | giveBack {value value' : Expr} (span : Span) (result : Trims value value') :
      TrimsStmt (.giveBack (some value) span) (.giveBack (some value') span)
  | write {value value' : Expr} (span : Span) (shown : Trims value value') :
      TrimsStmt (.write value span) (.write value' span)
  | actuate (actuator : Actuator) {args args' : List Expr} (span : Span)
      (all : TrimsAll args args') :
      TrimsStmt (.actuate actuator args span) (.actuate actuator args' span)
  | paint {color color' : Expr} (span : Span) (chosen : Trims color color') :
      TrimsStmt (.paint color span) (.paint color' span)
  | sense {sensor sensor' : Sensor} (span : Span) (read : TrimsSensor sensor sensor') :
      TrimsStmt (.sense sensor span) (.sense sensor' span)
  | call {site site' : Call} (made : TrimsCall site site') : TrimsStmt (.call site) (.call site')

/-- A block with trimmed statements. -/
inductive TrimsBlock : Block → Block → Prop where
  | mk {stmts stmts' : List Stmt} (span : Span) (all : TrimsStmts stmts stmts') :
      TrimsBlock ⟨stmts, span⟩ ⟨stmts', span⟩

/-- An optional second branch with trimmed statements. -/
inductive TrimsElse : Option Block → Option Block → Prop where
  | none : TrimsElse none none
  | some {block block' : Block} (inner : TrimsBlock block block') :
      TrimsElse (some block) (some block')

/-- Statements that are trimmed one by one. -/
inductive TrimsStmts : List Stmt → List Stmt → Prop where
  | nil : TrimsStmts [] []
  | cons {s s' : Stmt} {rest rest' : List Stmt} (first : TrimsStmt s s')
      (others : TrimsStmts rest rest') : TrimsStmts (s :: rest) (s' :: rest')

end

theorem TrimsTarget.eq {target target' : Target} (h : TrimsTarget target target')
    (free : target.connectiveFree = true) : target' = target := by
  cases h with
  | var name => rfl
  | element array place => rw [place.eq free]

mutual

/-- Without connectives there is nothing to trim in a statement. -/
theorem TrimsStmt.eq {s s' : Stmt} (h : TrimsStmt s s') (free : s.connectiveFree = true) :
    s' = s := by
  cases h with
  | same => rfl
  | assign span place assigned =>
    obtain ⟨target, value⟩ := (Bool.and_eq_true _ _).mp free
    rw [place.eq target, assigned.eq value]
  | ifThen span test first second =>
    obtain ⟨condition, blocks⟩ := (Bool.and_eq_true _ _).mp free
    obtain ⟨thenBlock, elseBlock⟩ := (Bool.and_eq_true _ _).mp blocks
    rw [test.eq condition, first.eq thenBlock, second.eq elseBlock]
  | whileDo span test inner =>
    obtain ⟨condition, body⟩ := (Bool.and_eq_true _ _).mp free
    rw [test.eq condition, inner.eq body]
  | giveBack span result => rw [result.eq free]
  | write span shown => rw [shown.eq free]
  | actuate actuator span all => rw [all.eq free]
  | paint span chosen => rw [chosen.eq free]
  | sense span read => rw [read.eq free]
  | call made => rw [made.eq free]

theorem TrimsBlock.eq {block block' : Block} (h : TrimsBlock block block')
    (free : block.connectiveFree = true) : block' = block := by
  cases h with
  | mk span all => rw [all.eq free]

theorem TrimsElse.eq {block block' : Option Block} (h : TrimsElse block block')
    (free : elseConnectiveFree block = true) : block' = block := by
  cases h with
  | none => rfl
  | some inner => rw [inner.eq free]

theorem TrimsStmts.eq {stmts stmts' : List Stmt} (h : TrimsStmts stmts stmts')
    (free : stmtsConnectiveFree stmts = true) : stmts' = stmts := by
  cases h with
  | nil => rfl
  | cons first others =>
    obtain ⟨head, rest⟩ := (Bool.and_eq_true _ _).mp free
    rw [first.eq head, others.eq rest]

end

lemma TrimsStmts.block {block : Block} {stmts : List Stmt} (h : TrimsStmts block.stmts stmts) :
    TrimsBlock block ⟨stmts, block.span⟩ := by
  cases block
  exact .mk _ h

/-- A function with a trimmed body. -/
inductive TrimsFunction : Function → Function → Prop where
  | mk (function : Function) {body : Block} (inner : TrimsBlock function.body body) :
      TrimsFunction function { function with body }

lemma TrimsFunction.eq {function function' : Function} (h : TrimsFunction function function')
    (free : function.body.connectiveFree = true) : function' = function := by
  cases h with
  | mk inner => rw [inner.eq free]

end RobotScribe
