/-
# Faults

A fault is the reason why loading or running a program stops.  Its wording is given by one
function.  A located fault adds the line that was being executed.
-/
import RobotScribe.Syntax.Basic

namespace RobotScribe

/-- The reason why loading or running a program stops. -/
inductive Fault where
  /-- Two functions have one name. -/
  | duplicateDefinition (function : String)
  /-- A function is called that is not declared. -/
  | undeclaredFunction (function : String)
  /-- A call has too few or too many arguments. -/
  | arityMismatch (function : String) (expected found : Nat)
  /-- The argument for a reference parameter is not a variable. -/
  | invalidArgument (function param : String)
  /-- A value has the wrong kind. -/
  | typeMismatch (expected : String) (found : TypeKind)
  /-- The input has no integer where one is read. -/
  | formatError (token : String)
  /-- A variable is read that has no value. -/
  | undefinedVariable (name : String)
  /-- A call in an expression yields no value. -/
  | voidResultUsed (function : String)
  /-- The divisor of a quotient or a remainder is zero. -/
  | divisionByZero
  /-- An element is read or stored where the array has none. -/
  | indexOutOfBounds (index : Int64) (length : Nat)
  /-- The input cannot be read, or the trace cannot be written. -/
  | io (reason : String)
  /-- The settings are not usable. -/
  | config (reason : String)
deriving DecidableEq, Repr

namespace Fault

/-- The wording of a fault. -/
def message : Fault → String
  | duplicateDefinition function => "multiple definitions of function '" ++ function ++ "'"
  | undeclaredFunction function => "function '" ++ function ++ "' not declared"
  | arityMismatch function expected found =>
    "incorrect number of parameters calling function '" ++ function ++ "': expected "
      ++ toString expected ++ ", found " ++ toString found
  | invalidArgument function param =>
    "wrong argument for pass by reference to parameter '" ++ param ++ "' of '" ++ function ++ "'"
  | typeMismatch expected found =>
    "expecting " ++ expected ++ " expression, found " ++ found.text
  | formatError token => "format error when reading a number: '" ++ token ++ "'"
  | undefinedVariable name => "undefined variable '" ++ name ++ "'"
  | voidResultUsed function => "function '" ++ function ++ "' expected to return a value"
  | divisionByZero => "division by zero"
  | indexOutOfBounds index length =>
    "index " ++ toString index.toInt ++ " out of bounds for array of length " ++ toString length
  | io reason => "i/o error: " ++ reason
  | config reason => "invalid configuration: " ++ reason

/-- The faults that stand-in values can cause in code that is written out without being run:
they come from data, not from the shape of the code. -/
def comesFromData : Fault → Bool
  | divisionByZero => true
  | indexOutOfBounds .. => true
  | undefinedVariable _ => true
  | _ => false

end Fault

/-- A fault together with the line that was being executed when it arose. -/
structure LocatedFault where
  /-- What went wrong. -/
  fault : Fault
  /-- The line being executed. -/
  line : UInt32
deriving DecidableEq, Repr

/-- The wording of a located fault. -/
def LocatedFault.message (f : LocatedFault) : String :=
  "line " ++ toString f.line ++ ": " ++ f.fault.message

end RobotScribe
