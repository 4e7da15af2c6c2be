import Conform.Json.Value
import Conform.Regex.Fault

/-!
# Errors of evaluations

Why an evaluation fails to have a result, and what a failure of any kind comes from.
-/

namespace Conform

/-- What a failure comes from. -/
inductive Origin where
  /-- A text or a value that is not what it should be. -/
  | content
  /-- The store of files, or what serves as one. -/
  | storage
  /-- Something that is looked for and not there. -/
  | lookup
  /-- A calculation, or a use of a value that it does not allow. -/
  | calculation
  deriving DecidableEq, Repr

/-- The three ways to evaluate a tree. -/
inductive Strategy where
  | boolean
  | basic
  | detailed
  deriving DecidableEq, Repr

/-- Why an evaluation has no result. -/
inductive EvalError where
  /-- A calculation with numbers failed. -/
  | arithmetic (fault : ArithmeticFault)
  /-- A text was tried as a pattern and found to have an error of a kind that is passed on. -/
  | pattern (text : String) (error : Regex.ReadError)
  /-- A value has no JSON type. -/
  | notJson (value : Value)
  /-- A pattern was asked about a key that is no text. -/
  | keyNotText (key : Scalar)
  /-- A node of no kind was evaluated. -/
  | bare (strategy : Strategy)
  /-- A message has an integer with too many digits to be written. -/
  | tooLong
  /-- A test of a caller's own fails. -/
  | checker (origin : Origin) (text : String)
  deriving Repr

namespace EvalError

/-- The kind of a value, by the name that messages give it. -/
def kindName : Value → String
  | .null => "NoneType"
  | .bool _ => "bool"
  | .num (.int _) => "int"
  | .num (.dec _) => "decimal.Decimal"
  | .num (.dbl _) => "float"
  | .str _ => "str"
  | .bytes _ => "bytes"
  | .arr _ => "list"
  | .obj _ => "dict"
  | .set _ => "set"

/-- The words for an error; those of arithmetic have none but for the signalling number. -/
def message : EvalError → String
  | tooLong => Text.tooLongToWrite
  | checker _ text => text
  | arithmetic .signalling => "cannot convert signaling NaN to float"
  | arithmetic _ => ""
  | pattern text error => error.message text
  | notJson value => "Not a JSON value: " ++ kindName value
  | keyNotText (.bytes _) => "cannot use a string pattern on a bytes-like object"
  | keyNotText key => "expected string or bytes-like object, got '" ++ kindName (.scalar key) ++ "'"
  | bare strategy =>
    "No " ++ (match strategy with
      | .boolean => "boolean"
      | .basic => "basic"
      | .detailed => "detailed") ++ " evaluation for Node"

end EvalError

end Conform
