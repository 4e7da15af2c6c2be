import Conform.Compile.Session

/-!
# Keywords

What the members of a schema object stand for (`Keyword.ofName`), and the checks on their values.
-/

namespace Conform

/-- What a member of a schema object stands for. -/
inductive Keyword where
  /-- A keyword that is read elsewhere or constrains nothing. -/
  | passive
  | reference
  | combination (counting : Counting)
  | negation
  | condition
  | type
  | enum
  | const
  | properties
  | patternProperties
  | additionalProperties
  | propertyNames
  | required
  | items
  | additionalItems
  | uniqueItems
  | contains
  | limit (relation : Relation)
  | size (sized : Sized) (lower : Bool)
  | pattern
  | format
  | default
  /-- A keyword with the extension mark. -/
  | extension
  /-- A keyword of no meaning. -/
  | unknown
  deriving DecidableEq, Repr

namespace Keyword

/-- The keywords by name. -/
def table : List (String × Keyword) :=
  [("$ref", .reference), ("allOf", .combination .all), ("anyOf", .combination .any), ("oneOf", .combination .one),
  ("not", .negation), ("if", .condition), ("type", .type), ("enum", .enum), ("const", .const),
  ("properties", .properties), ("patternProperties", .patternProperties),
  ("additionalProperties", .additionalProperties), ("propertyNames", .propertyNames), ("required", .required),
  ("items", .items), ("additionalItems", .additionalItems), ("uniqueItems", .uniqueItems), ("contains", .contains),
  ("multipleOf", .limit .multipleOf), ("maximum", .limit .atMost), ("exclusiveMaximum", .limit .below),
  ("minimum", .limit .atLeast), ("exclusiveMinimum", .limit .above),
  ("minProperties", .size .properties true), ("maxProperties", .size .properties false),
  ("minItems", .size .items true), ("maxItems", .size .items false),
  ("minLength", .size .characters true), ("maxLength", .size .characters false),
  ("pattern", .pattern), ("format", .format), ("default", .default)]

/-- The names of keywords that are read elsewhere or constrain nothing. -/
def passiveNames : List String :=
  ["$schema", "$id", "$defs", "definitions", "$comment", "$anchor", "title", "description", "examples", "example",
  "then", "else", "minContains", "maxContains", "deprecated", "readOnly", "writeOnly"]

/-- What a name stands for. -/
def ofName (name : String) : Keyword :=
  if passiveNames.contains name then .passive
  else
    match table.lookup name with
    | some keyword => keyword
    | none => if name.startsWith "x-" then .extension else .unknown

/-- The keyword is compiled after its neighbours, since it depends on them. -/
def isLate : Keyword → Bool
  | .additionalProperties | .additionalItems => true
  | _ => false

end Keyword

/-! ### Values of keywords -/

/-- The names of types. -/
def typeNames : List String := ["null", "boolean", "object", "array", "number", "string", "integer"]

/-- The place of a schema object that is being compiled, with what its keywords are under. -/
structure Scope where
  setup : Setup
  document : Document
  pointer : Pointer
  base : Option String
  dialect : Option Dialect
  /-- The members of the object. -/
  members : List (Scalar × Value)
  /-- Compiles another schema. -/
  descend : Location → Compiling Node

namespace Scope

/-- The site of a node at a location of the document. -/
def siteAt (s : Scope) (path : Pointer) : Site := ⟨s.base, path⟩

/-- A fault at a location. -/
def fail {α : Type} (s : Scope) (fault : SchemaFault) (path : Pointer) : Compiling α :=
  throw (.schema fault s.base (some path))

/-- The node of a schema inside the object. -/
def schema (s : Scope) (value : Value) (path : Pointer) : Compiling Node :=
  s.descend ⟨s.document, value, path, s.base, s.dialect⟩

/-- The nodes of schemas that are the items of an array. -/
def schemas (s : Scope) (values : List Value) (path : Pointer) : Compiling (List Node) :=
  values.zipIdx.mapM fun (v, i) => s.schema v (path.item i)

/-- The members of an object under a keyword. -/
def entries (s : Scope) (name : String) (value : Value) (path : Pointer) : Compiling (List (Scalar × Value)) :=
  match value with
  | .obj ms => return ms
  | _ => s.fail (.shape name .object) path

/-- The pattern that a text denotes. -/
def regex (s : Scope) (text : String) (path : Pointer) : Compiling Regex :=
  match Regex.ofText s.setup.world.characters text with
  | .ok regex => return regex
  | .error (.fault reason position) => s.fail (.regex text (.fault reason position)) path
  | .error e => throw (.regex text e)

/-- The pattern that a key denotes. -/
def keyRegex (s : Scope) (key : Scalar) (path : Pointer) : Compiling Regex :=
  match key with
  | .str text => s.regex text path
  | key => throw (.patternNotText key)

/-- The names of types that a value lists. -/
def types (s : Scope) (value : Value) (path : Pointer) : Compiling (List String) := do
  let check (v : Value) (path : Pointer) : Compiling String :=
    match v with
    | .str name => if typeNames.contains name then return name else s.fail (.badType v) path
    | _ => s.fail (.badType v) path
  match value with
  | .str _ => return [← check value path]
  | .arr [] => s.fail .noType path
  | .arr vs => vs.zipIdx.mapM fun (v, i) => check v (path.item i)
  | _ => s.fail .noType path

/-- The size that a value is. -/
def size (s : Scope) (name : String) (value : Value) (path : Pointer) : Compiling Int :=
  match value with
  | .num n =>
    if n.isInteger && !n.isNegative then return n.truncate else s.fail (.shape name .natural) path
  | _ => s.fail (.shape name .natural) path

/-- The size under a neighbouring keyword, if there is one. -/
def size? (s : Scope) (name : String) : Compiling (Option Int) := do
  match lookupKey (.str name) s.members with
  | some value => return some (← s.size name value (s.pointer.child name))
  | none => return none

/-- The exact number that a value is, as a bound. -/
def bound (s : Scope) (name : String) (relation : Relation) (value : Value) (path : Pointer) : Compiling Number :=
  match value with
  | .num n =>
    if n.isFinite then
      if relation == .multipleOf && !n.exact.isPositive then s.fail (.shape name .positive) path
      else return n.exact
    else s.fail (.shape name .number) path
  | _ => s.fail (.shape name .number) path

/-- The texts that an array lists. -/
def texts (s : Scope) (name : String) (value : Value) (path : Pointer) : Compiling (List String) :=
  match value with
  | .arr vs =>
    match vs.mapM Value.text? with
    | some names => return names
    | none => s.fail (.shape name .textArray) path
  | _ => s.fail (.shape name .textArray) path

/-- The node of a format, if it is known: the caller's formats come before the standard ones. -/
def format (s : Scope) (name : String) (value : Value) (path : Pointer) : Compiling (Option Node) :=
  match value with
  | .str format =>
    match s.setup.format format with
    | some (.test checker check) => return some (.leaf (s.siteAt path) (.checked format checker check))
    | some (.delegating checker constraints) =>
      return some (.delegatedFormat (s.siteAt path) format checker constraints)
    | none =>
      return (StandardFormat.ofName? s.setup.world.characters format).map fun f =>
        .leaf (s.siteAt path) (.format format f)
  | _ => s.fail (.shape name .text) path

/-- The node of a keyword with the extension mark. -/
def extension (s : Scope) (name : String) (value : Value) (path : Pointer) : Node :=
  match s.setup.keyword name s.base path value with
  | some inner => .delegating (s.siteAt path) name inner
  | none => .leaf (s.siteAt path) (.extension name value)

/-- The node of a conditional: its branches are compiled before its condition. -/
def conditional (s : Scope) (value : Value) : Compiling Node := do
  let branch (name : String) : Compiling (Option Node) := do
    match lookupKey (.str name) s.members with
    | some v => return some (← s.schema v (s.pointer.child name))
    | none => return none
  let thenBranch ← branch "then"
  let elseBranch ← branch "else"
  let condition ← s.schema value (s.pointer.child "if")
  return .conditional (s.siteAt s.pointer) condition thenBranch elseBranch

end Scope

end Conform
