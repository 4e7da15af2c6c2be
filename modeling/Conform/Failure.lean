import Conform.CodePointer
import Conform.Json.Reader
import Conform.Json.Writer
import Conform.Schema.Message
import Conform.Storage.Files
import Conform.Table.Fault
import Conform.Text.Utf8
import Conform.Uri
import Conform.Yaml.Fault

/-!
# Failures

Everything that can go wrong while documents are fetched, decoded and compiled, by its cause.  `Failure.message`
has the words; `Failure.origin` tells what a failure comes from, which decides who passes it on under a location
of his own.
-/

namespace Conform

/-- What the value of a keyword must be. -/
inductive Shape where
  | text
  | object
  | nonEmptyArray
  | array
  | textArray
  | boolean
  | natural
  | number
  | positive
  deriving DecidableEq, Repr

/-- The words for a shape. -/
def Shape.words : Shape → String
  | .text => "a string"
  | .object => "an object"
  | .nonEmptyArray => "a non-empty array"
  | .array => "an array"
  | .textArray => "an array of strings"
  | .boolean => "a boolean"
  | .natural => "a non-negative integer"
  | .number => "a number"
  | .positive => "greater than zero"

mutual

/-- Why a document or a schema is not to be had. -/
inductive Failure where
  | uri (fault : UriFault)
  | pointer (fault : PointerFault)
  | utf8 (error : Text.Utf8.DecodeError)
  /-- A text that has no bytes. -/
  | unencodable (text : CodeText)
  /-- A text named `document` that is no JSON. -/
  | json (document : String) (error : Json.ReadError)
  /-- A text named `document` that is no YAML. -/
  | yaml (document : String) (fault : Yaml.Fault)
  | file (path : String) (fault : FileFault)
  /-- There is no schema of this name. -/
  | missingSchema (name : String)
  /-- There is no file of options at this path. -/
  | missingOptions (path : String)
  /-- Options that are not known. -/
  | unknownOptions (names : List String)
  /-- An option that is neither on nor off. -/
  | optionNotBoolean (name : String)
  /-- A file of options that holds no object. -/
  | optionsNotObject (path : String)
  /-- What serves the documents fails for a reason of its own. -/
  | server (origin : Origin) (text : String)
  | regex (text : String) (error : Regex.ReadError)
  /-- A pattern that is no text. -/
  | patternNotText (key : Scalar)
  /-- A keyword that is no text. -/
  | keywordNotText (key : Scalar)
  | evaluation (error : EvalError)
  /-- A value that no schema can be made of. -/
  | notSource (value : Value)
  /-- A form of output that is not known. -/
  | unknownOutput (name : String)
  | table (fault : TableFault)
  /-- A fault of a schema, at a place of a document. -/
  | schema (fault : SchemaFault) (uri : Option String) (pointer : Option CodePointer)
  /-- A chain of references without an end. -/
  | endless
  deriving Repr

/-- What is wrong with a schema. -/
inductive SchemaFault where
  /-- There is nothing at the pointer that leads to the schema. -/
  | nothing
  | neither
  | nestedDialect
  | shape (keyword : String) (shape : Shape)
  | regex (text : String) (error : Regex.ReadError)
  | noType
  | badType (name : Value)
  | reference (text : String)
  /-- A schema that refers to itself while it is compiled. -/
  | recursion
  | undecodable (cause : Failure)
  | unresolved (uri : String) (cause : Failure)
  | description (uri : String) (cause : Failure)
  deriving Repr

end

/-- A place of a document: the URI with the pointer, or the pointer alone, or `root`. -/
def placeText : Option String → Option CodePointer → String
  | some uri, none => uri
  | some uri, some p => uri ++ match p.schemaFragment with
    | .ok fragment => fragment
    | .error _ => p.text.shown
  | none, none => "root"
  | none, some p => if p.isRoot then "root" else p.text.shown

/-- Texts in literal form, as a list. -/
def literalList (names : List String) : String := "[" ++ ", ".intercalate (names.map Text.Quoted.quote) ++ "]"

mutual

/-- The words for a failure. -/
def Failure.message : Failure → String
  | .uri fault => fault.message
  | .pointer fault => fault.message
  | .utf8 error => error.message
  | .unencodable text => text.unencodable
  | .json _ (.loneHalf text) => text.unencodable
  | .json document error => "Invalid JSON in " ++ document ++ ": " ++ error.message
  | .yaml document fault =>
    if fault.isMalformed then "Invalid YAML in " ++ document ++ ": " ++ fault.text else fault.text
  | .file path fault => fault.message path
  | .missingSchema name => "Schema not found: " ++ name
  | .missingOptions path => "Options file not found: " ++ path
  | .unknownOptions names => "Unknown parser option(s): " ++ literalList names
  | .optionNotBoolean name => "Parser option '" ++ name ++ "' must be a boolean"
  | .optionsNotObject path => "Options file " ++ path ++ " must contain a JSON object"
  | .server _ text => text
  | .regex text error => error.message text
  | .patternNotText _ => "first argument must be string or compiled pattern"
  | .keywordNotText (.bytes _) => "startswith first arg must be bytes or a tuple of bytes, not str"
  | .keywordNotText key =>
    "'" ++ EvalError.kindName (.scalar key) ++ "' object has no attribute 'startswith'"
  | .evaluation error => error.message
  | .notSource value => "Unsupported type for parse: <class '" ++ EvalError.kindName value ++ "'>"
  | .unknownOutput name =>
    "Unknown output format '" ++ name ++ "'; expected one of ('flag', 'basic', 'detailed')"
  | .table fault => fault.message
  | .schema fault uri pointer => fault.message ++ " - " ++ placeText uri pointer
  | .endless => "a chain of references has no end"

/-- The words for a fault of a schema. -/
def SchemaFault.message : SchemaFault → String
  | .nothing => "Schema not found"
  | .neither => "Schema is not boolean or object"
  | .nestedDialect => "$schema only allowed at root"
  | .shape keyword shape => keyword ++ " must be " ++ shape.words
  | .regex text error => "Invalid regex " ++ text ++ ": " ++ error.message text
  | .noType => "Invalid type"
  | .badType name => "Invalid type " ++ name.words
  | .reference text => "$ref not found " ++ text
  | .recursion => "Recursive $ref"
  | .undecodable cause => cause.message
  | .unresolved uri cause => "Can't resolve " ++ uri ++ ": " ++ cause.message
  | .description uri cause => "Can't resolve description " ++ uri ++ ": " ++ cause.message

end

/-- What a failure comes from. -/
def Failure.origin : Failure → Origin
  | .uri _ | .utf8 _ | .unencodable _ | .unknownOptions _ | .optionNotBoolean _ | .optionsNotObject _ | .unknownOutput _
  | .table _ | .schema .. => .content
  | .pointer fault =>
    match fault with
    | .malformed _ | .badNumeral _ => .content
    | _ => .lookup
  | .json _ error =>
    match error with
    | .exponentRange | .loneHalf _ => .calculation
    | _ => .content
  | .yaml _ fault =>
    match fault with
    | .boolean _ | .emptyNumber => .lookup
    | .characterOverflow | .loneHalf _ => .calculation
    | _ => .content
  | .file _ fault =>
    match fault with
    | .nullName => .content
    | _ => .storage
  | .missingSchema _ | .missingOptions _ => .storage
  | .server origin _ => origin
  | .regex _ error =>
    match error with
    | .tooManyRounds => .calculation
    | _ => .content
  | .evaluation error =>
    match error with
    | .tooLong => .content
    | .checker origin _ => origin
    | _ => .calculation
  | .patternNotText _ | .keywordNotText _ | .notSource _ | .endless => .calculation

/-- The failure is on account of a text that has no bytes. -/
def Failure.isUnencodable : Failure → Bool
  | .unencodable _ | .json _ (.loneHalf _) | .yaml _ (.loneHalf _) => true
  | _ => false

/-- A failure of an evaluation that the text of a pattern is at fault for. -/
def Failure.ofEval : EvalError → Failure
  | .pattern text error => .regex text error
  | error => .evaluation error

end Conform
