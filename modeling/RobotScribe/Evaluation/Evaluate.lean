/-
# Evaluating programs

A program runs and writes its transcript at the same time; the phase of the cursor says which
of the two happens to a piece of code.

* Code that is live runs and is written.
* Code that is silent runs and is not written: called bodies, and loops after the first round.
* Code that is dry is written and does not run: branches that are not taken, bodies of loops
  that are not entered, statements after a `return`, and the bodies of prepared functions.

The call of a block is written in every phase, so that the transcript shows every call that is
made.  Dry code works on stand-ins for what it does not compute, and whatever it does to the
variables is taken back when it has been written.

Every step into a part of the program costs one unit of fuel: the fuel bounds the depth of the
evaluation, the rounds of loops included, and more fuel than needed changes nothing.
-/
import RobotScribe.Evaluation.Machine
import RobotScribe.Value.Operators

namespace RobotScribe.Eval

/-! ## Instructions -/

/-- The instruction that reads a sensor, given the text of the direction if it looks. -/
def sensorForm (instruction argument : String) : String := instruction ++ "(" ++ argument ++ ")"

/-- The texts of a command's arguments.  A backward move is written as a forward move by the
negated distance. -/
def commandArguments : Actuator → List String → List String
  | .backward, distance :: rest => Text.negatedForm distance :: rest
  | _, texts => texts

/-- The instruction of a command. -/
def commandForm (actuator : Actuator) (texts : List String) : String :=
  actuator.mnemonic ++ " " ++ Text.listForm (commandArguments actuator texts)

/-- The instruction that puts the pen down or lifts it. -/
def penForm (down : Bool) : String := "rPen " ++ if down then "Down" else "Up"

/-- What a printed value looks like: code that runs prints the value, and dry code prints what
computes it. -/
def printed (phase : Phase) (value : Value) : String :=
  match phase with
  | .dry => value.text
  | _ => value.display

/-- The stand-in for the result of a call that is written out without being made.  A function
without a declared result kind is taken to return an integer. -/
def callStandIn (function : Function) (text : String) : Value :=
  .standIn (function.returns.getD .integer) text

/-! ## The evaluator -/

/-- What a block hands over: the value of the `return` that ended it, if one did. -/
abbrev Flow := Option Value

variable (functions : String → Option Function)

mutual

/-- Evaluates an expression.  The line goes back to where it was unless a fault stops it. -/
def expr : Nat → Cursor → Expr → Eval Value
  | 0, _, _ => outOfFuel
  | fuel + 1, here, e => do
    let outer ← currentLine
    enterSpan e.span
    let value ← form fuel here e
    setLine outer
    return value

/-- Evaluates an expression at its line. -/
def form : Nat → Cursor → Expr → Eval Value
  | 0, _, _ => outOfFuel
  | fuel + 1, here, e =>
    match e with
    | .integer n _ => return .integer n
    | .boolean b _ => return .boolean b
    | .string s _ => return .string s
    | .color c _ => return .color c
    | .var name _ => do
      let found ← lookup name
      let value ← ofExcept (orStandIn here.phase (.standIn .integer name) found)
      return value.withText name
    | .element array index _ => do
      let index ← expr fuel here index
      let i ← ofExcept index.expectInt
      let found ← lookup array.name
      let items ← ofExcept (orStandIn here.phase (.standIn .arrayInt "") found)
      let element ← ofExcept
        (orStandIn here.phase (.standIn items.elementKind "") (items.element i))
      return element.withText (Text.elementForm array.name index.text)
    | .call site _ => do
      let value ← call fuel here site
      if value.isVoid then throw (.voidResultUsed site.name.name)
      return value
    | .sense sensor _ => sense fuel here sensor
    | .binary left (.logical op) right _ => do
      let lhs ← expr fuel here left
      let l ← ofExcept lhs.expectBool
      -- the text is then the left operand's too: the right one leaves no trace at all
      if op.decidedBy l then return lhs
      else
        let rhs ← expr fuel here right
        let r ← ofExcept rhs.expectBool
        return (Value.boolean r).withText (Text.binaryForm lhs.text op.text rhs.text)
    | .binary left (.arithmetic op) right _ => do
      let lhs ← expr fuel here left
      let rhs ← expr fuel here right
      ofExcept (orStandIn here.phase
        (.standIn .integer (Text.binaryForm lhs.text op.text rhs.text)) (lhs.arithmetic op rhs))
    | .binary left (.relational op) right _ => do
      let lhs ← expr fuel here left
      let rhs ← expr fuel here right
      ofExcept (lhs.relational op rhs)
    | .binary left (.bitwise op) right _ => do
      let lhs ← expr fuel here left
      let rhs ← expr fuel here right
      ofExcept (lhs.bitwise op rhs)
    | .unary op operand _ => do
      let value ← expr fuel here operand
      ofExcept (value.unary op)
    | .paren inner _ => do
      let value ← expr fuel here inner
      return value.withText (Text.parenForm value.text)

/-- Reads a sensor.  The value is a fixed stand-in; the text is the instruction that reads the
sensor when the robot carries out the transcript. -/
def sense : Nat → Cursor → Sensor → Eval Value
  | 0, _, _ => outOfFuel
  | fuel + 1, here, sensor =>
    match sensor with
    | .feel => return (Value.integer 0).withText (sensorForm "rFeel" "")
    | .infrared => return (Value.integer 0).withText (sensorForm "rSense" "")
    | .bumper => return (Value.boolean true).withText (sensorForm "rBumper" "")
    | .compass => return (Value.integer 0).withText (sensorForm "rCompass" "")
    | .beacon color => return (Value.integer 0).withText (sensorForm "rBeacon" color.text)
    | .look direction => do
      let direction ← expr fuel here direction
      let _ ← ofExcept direction.expectInt
      return (Value.color .green).withText (sensorForm "rLook" direction.text)

/-- Makes a call.  The call is written once its arguments are there.  A dry call does not run
the function and yields a stand-in of its declared kind. -/
def call : Nat → Cursor → Call → Eval Value
  | 0, _, _ => outOfFuel
  | fuel + 1, here, site =>
    match functions site.name.name with
    | none => throw (.undeclaredFunction site.name.name)
    | some function => do
      if site.args.length ≠ function.params.length then
        throw (.arityMismatch function.name.name function.params.length site.args.length)
      let slots ← arguments fuel here function function.params site.args
      -- calls inside the arguments have been written by now
      let text := Text.callForm site.name.name
      mark here text
      if here.phase.executes then
        let result ← runFunction fuel here.calledBody function slots
        return result.withText text
      else return callStandIn function text

/-- The slots of the arguments of a call, from left to right.  A reference parameter gets the
slot of the variable itself; any other parameter gets a new slot with the value. -/
def arguments : Nat → Cursor → Function → List Param → List Expr → Eval (List Slot)
  | 0, _, _, _, _ => outOfFuel
  | fuel + 1, here, function, params, args =>
    match params, args with
    | param :: params, arg :: args => do
      let slot ← argument fuel here function param arg
      let slots ← arguments fuel here function params args
      return slot :: slots
    | _, _ => return []

/-- The slot of one argument of a call. -/
def argument : Nat → Cursor → Function → Param → Expr → Eval Slot
  | 0, _, _, _, _ => outOfFuel
  | fuel + 1, here, function, param, arg =>
    if param.isReference then
      match arg.variableName? with
      | none => throw (.invalidArgument function.name.name param.name.name)
      | some name => do
        match ← slotOf name with
        | some slot => return slot
        | none =>
          if here.phase = .dry then newSlot (.standIn param.kind name)
          else throw (.undefinedVariable name)
    else do
      let value ← expr fuel here arg
      newSlot value

/-- Runs a function in a frame of its own with its parameters bound to the given slots.  If a
fault stops it, the frame stays, so that a backtrace can show it. -/
def runFunction : Nat → Cursor → Function → List Slot → Eval Value
  | 0, _, _, _ => outOfFuel
  | fuel + 1, body, function, slots => do
    let callLine ← currentLine
    traceCall function slots callLine
    pushFrame function.name.name callLine
    setLine function.span.startLine
    bindSlots ((function.params.map (·.name.name)).zip slots)
    let flow ← stmts fuel body.deeper function.body.stmts
    let result := flow.getD .void
    let returnLine ← currentLine
    traceReturn function result slots returnLine
    popFrame
    setLine callLine
    return result

/-- Runs statements in order up to the first `return`.  In live code the statements after it
are still written; dry code is written to its end. -/
def stmts : Nat → Cursor → List Stmt → Eval Flow
  | 0, _, _ => outOfFuel
  | fuel + 1, here, statements =>
    match statements with
    | [] => return none
    | s :: rest => do
      match ← stmt fuel here s with
      | none => stmts fuel here rest
      | some value =>
        match here.phase with
        -- dry code does not leave the function, so its lists are written to the end
        | .dry => stmts fuel here rest
        | .live => do
          writeOut fuel here rest
          return some value
        | .silent => return some value

/-- Runs one statement. -/
def stmt : Nat → Cursor → Stmt → Eval Flow
  | 0, _, _ => outOfFuel
  | fuel + 1, here, s => do
    enterSpan s.span
    match s with
    | .assign (.var target) value _ => do
      let value ← expr fuel here value
      emit here (Text.assignForm target.name value.text)
      define target.name value
      return none
    | .assign (.element array index) value _ => do
      let value ← expr fuel here value
      let index ← expr fuel here index
      let i ← ofExcept index.expectInt
      emit here (Text.assignForm (Text.elementForm array.name index.text) value.text)
      let stored ← storeElement array.name i value
      ofExcept (orStandIn here.phase () stored)
      return none
    | .ifThen condition thenBlock elseBlock _ => do
      let value ← expr fuel here condition
      let taken ← ofExcept value.expectBool
      emit here ("if " ++ value.text)
      let first ← branch fuel here thenBlock taken
      let flow ← match elseBlock with
        | none => pure first
        | some elseBlock => do
          emit here "else"
          let second ← branch fuel here elseBlock (!taken)
          -- at most one of the two branches runs
          pure (first.or second)
      emit here "endif"
      return flow
    | .whileDo condition body _ => do
      let value ← expr fuel here condition
      let entered ← ofExcept value.expectBool
      emit here ("while " ++ value.text)
      let flow ← firstRound fuel here condition body entered
      emit here "wend"
      return flow
    | .giveBack none _ => do
      emit here "Return"
      return some .void
    | .giveBack (some value) _ => do
      let value ← expr fuel here value
      emit here ("Return " ++ value.text)
      return some value
    | .read target _ => do
      if here.phase.executes then
        let n ← nextInteger
        define target.name (.integer n)
      else define target.name (.standIn .integer target.name)
      return none
    | .write value _ => do
      let value ← expr fuel here value
      emit here ("print " ++ printed here.phase value)
      return none
    | .actuate actuator args _ => do
      let texts ← numbers fuel here args
      emit here (commandForm actuator texts)
      return none
    | .paint color _ => do
      let value ← expr fuel here color
      let _ ← ofExcept value.expectColor
      emit here ("rPen " ++ value.text)
      return none
    | .pen down _ => do
      emit here (penForm down)
      return none
    | .sense sensor _ => do
      let reading ← sense fuel here sensor
      emit here reading.text
      return none
    | .call site => do
      let _ ← call fuel here site
      return none

/-- Runs or writes one branch of a conditional.  Only the branch that is taken runs; in live
code the other one is written dry. -/
def branch : Nat → Cursor → Block → Bool → Eval Flow
  | 0, _, _, _ => outOfFuel
  | fuel + 1, here, block, taken =>
    match here.phase, taken with
    | .dry, _ => do
      let _ ← stmts fuel here.deeper block.stmts
      return none
    | _, true => stmts fuel here.deeper block.stmts
    | .live, false => do
      writeOut fuel here.deeper block.stmts
      return none
    | .silent, false => return none

/-- Runs or writes the body of a loop whose condition has been tested once.  Dry code is
written once; live code that does not enter the loop is written dry. -/
def firstRound : Nat → Cursor → Expr → Block → Bool → Eval Flow
  | 0, _, _, _, _ => outOfFuel
  | fuel + 1, here, condition, body, entered =>
    match here.phase, entered with
    | .dry, _ => do
      let _ ← stmts fuel here.deeper body.stmts
      return none
    | _, true => rounds fuel here condition body
    | .live, false => do
      writeOut fuel here.deeper body.stmts
      return none
    | .silent, false => return none

/-- Runs the body of a loop whose condition holds, tests the condition again, and so on.  All
rounds after the first one are silent. -/
def rounds : Nat → Cursor → Expr → Block → Eval Flow
  | 0, _, _, _ => outOfFuel
  | fuel + 1, here, condition, body => do
    match ← stmts fuel here.deeper body.stmts with
    | some value => return some value
    | none => do
      let value ← expr fuel (here.inPhase .silent) condition
      let again ← ofExcept value.expectBool
      if again then rounds fuel (here.inPhase .silent) condition body else return none

/-- The texts of arguments that have to be integers, from left to right. -/
def numbers : Nat → Cursor → List Expr → Eval (List String)
  | 0, _, _ => outOfFuel
  | fuel + 1, here, args =>
    match args with
    | [] => return []
    | arg :: args => do
      let value ← expr fuel here arg
      let _ ← ofExcept value.expectInt
      let texts ← numbers fuel here args
      return value.text :: texts

/-- Writes statements that do not run, and takes back whatever that does to the variables. -/
def writeOut : Nat → Cursor → List Stmt → Eval Unit
  | 0, _, _ => outOfFuel
  | fuel + 1, here, statements => takingBack do
    let _ ← stmts fuel (here.inPhase .dry) statements

end

end RobotScribe.Eval
