import Conform.Schema.Node

/-!
# Messages

What an evaluation has to say at a location, and which of it can be put into words.
-/

namespace Conform

/-- What is said at a location, of success or of failure. -/
inductive Message where
  | success
  | subschemaErrors
  | constantSchema (allows : Bool)
  | notSchema (targetValid : Bool)
  | combination (keyword : String) (valid : Bool) (accepted total : Nat)
  | condition (holds : Bool)
  | reference (valid : Bool)
  | notObject
  | notArray
  | properties (valid : Bool)
  | patternProperties (valid : Bool)
  | additionalProperties (valid : Bool)
  | propertyNames (valid : Bool)
  | required (valid : Bool)
  | items (valid : Bool)
  | additionalItems (valid : Bool)
  | additionalProperty (name : Scalar)
  | additionalItem (index : Nat)
  | missingProperty (name : String)
  | containsNone
  | containsFew (minimum : Int) (count : Nat)
  | containsMany (maximum : Int) (count : Nat)
  | wrongType (names : List String)
  | notInEnum (value : Value)
  | notConstant (value : Value)
  | limit (keyword : String) (bound value : Number)
  | size (sized : Sized) (keyword : String) (bound : Int) (count : Nat)
  | pattern (regex : String) (value : Value)
  | format (name : String) (value : Value)
  | notUnique
  deriving Repr

namespace Message

/-- The verdict on a combination. -/
def verdict (valid : Bool) : String := if valid then "succeeds" else "fails"

/-- How a check of size is called. -/
def sizeCheck : Sized → String
  | .properties => "Object fails properties count check: "
  | .items => "Array fails number of items check: "
  | .characters => "String fails length check: "

/-- The words of a message. -/
def text : Message → String
  | success => "Validation successful"
  | subschemaErrors => "A subschema had errors"
  | constantSchema allows => "Constant schema \"" ++ (if allows then "true" else "false") ++ "\""
  | notSchema targetValid => "Schema \"not\" - target was " ++ (if targetValid then "valid" else "invalid")
  | combination keyword valid accepted total =>
    "Combination schema \"" ++ keyword ++ "\" " ++ verdict valid ++ " - " ++ toString accepted ++ " of " ++
      toString total ++ " valid"
  | condition holds => "\"if\" schema is " ++ (if holds then "true" else "false")
  | reference valid => "$ref schema " ++ (if valid then "valid" else "invalid")
  | notObject => "Value is not an object"
  | notArray => "Value is not an array"
  | properties valid => if valid then "Properties are valid" else "Errors in properties"
  | patternProperties valid => if valid then "patternProperties are valid" else "Errors in patternProperties"
  | additionalProperties valid => if valid then "properties are valid" else "Errors in properties"
  | propertyNames valid => if valid then "Property names are valid" else "Errors in property names"
  | required valid => if valid then "All required properties found" else "Required property error"
  | items valid => if valid then "All items are valid" else "Errors in array items"
  | additionalItems valid => if valid then "items are valid" else "Errors in items"
  | additionalProperty name => "Additional property '" ++ name.words ++ "' found but was invalid"
  | additionalItem index => "Additional item " ++ toString index ++ " found but was invalid"
  | missingProperty name => "Required property \"" ++ name ++ "\" not found"
  | containsNone => "No matching entry"
  | containsFew minimum count => "Matching entry minimum " ++ toString minimum ++ ", was " ++ toString count
  | containsMany maximum count => "Matching entry maximum " ++ toString maximum ++ ", was " ++ toString count
  | wrongType names => "Incorrect type, expected " ++ " or ".intercalate names
  | notInEnum value => "Not in enumerated values: " ++ value.display
  | notConstant value => "Does not match constant: " ++ value.display
  | limit keyword bound value =>
    "Number fails check: " ++ keyword ++ " " ++ bound.text ++ ", was " ++ value.text
  | size sized keyword bound count =>
    sizeCheck sized ++ keyword ++ " " ++ toString bound ++ ", was " ++ toString count
  | pattern regex value => "String doesn't match pattern " ++ regex ++ " - " ++ value.display
  | format name value => "Value fails format check \"" ++ name ++ "\", was " ++ value.display
  | notUnique => "Array items not unique"

/-- The value can be shown in a message. -/
def shows : Value → Bool
  | .num n => n.isWritable
  | _ => true

/-- The words can be written: no integer in them has too many digits. -/
def isWritable : Message → Bool
  | containsFew bound _ | containsMany bound _ | size _ _ bound _ => Number.isWritableInt bound
  | notInEnum value | notConstant value | pattern _ value | format _ value => shows value
  | limit _ bound value => bound.isWritable && value.isWritable
  | _ => true

end Message

/-- The message, if there is one, put into words. -/
def Message.written : Option Message → Except EvalError (Option Message)
  | none => .ok none
  | some message => if message.isWritable then .ok (some message) else .error .tooLong

end Conform
