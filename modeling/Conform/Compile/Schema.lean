import Conform.Compile.Build
import Conform.Schema.Outcome

/-!
# Schemas

The ways to a compiled schema: from a file, a URI, a text or a value, or from something that may be any of these
(`Schema.compileSource`); and the evaluation of a value in one of three forms of output.
-/

namespace Conform

/-- A compiled schema, with the location that it is filed under. -/
structure Schema where
  place : Place
  root : Node
  deriving Repr

/-- Something to compile a schema from. -/
inductive Source where
  | path (p : Path)
  /-- A path of a file, a URI or the text of a document. -/
  | text (s : String)
  | value (v : Value)
  deriving Repr

namespace Schema

/-- The title of a schema. -/
def title? (s : Schema) : Option String := s.root.title?

/-- The description of a schema. -/
def description? (s : Schema) : Option String := s.root.description?

/-- The URI of a schema. -/
def uri? (s : Schema) : Option String := s.root.site.uri

/-! ### Compiling -/

/-- Compiles the schema at a pointer of a document. -/
def compileAt (setup : Setup) (d : Document) (p : Pointer) : Compiling Schema := do
  Compiling.registerDocument d
  match ← Compiling.ofExcept (Scope.valueAt? d.content p) with
  | none => throw (.schema .nothing d.uri (some p))
  | some value =>
    let dialect ← Compiling.ofExcept d.dialect?
    let base ← Compiling.ofExcept (d.baseAt p)
    let location : Location := ⟨d, value, p, base, dialect⟩
    let fuel := (← get).extent setup.world d p
    return ⟨location.place, ← compile setup (fuel + 1) location⟩

/-- Compiles the schema in a file. -/
def compileFile (setup : Setup) (p : Path) : Compiling Schema := do
  let (uri, content) ← Compiling.ofLoading (Loader.loadFile setup.world p)
  compileAt setup ⟨uri, some uri, content⟩ .root

/-- The pointer that the fragment of a URI denotes. -/
def fragmentPointer (fragment : Option String) : Except Failure Pointer :=
  match fragment with
  | none | some "" => .ok .root
  | some text => (Pointer.ofFragment text).mapError .pointer

/-- Compiles the schema under a URI. -/
def compileUri (setup : Setup) (uri : String) : Compiling Schema := do
  let (document, fragment) := Uri.splitFragment uri
  let content ← Compiling.resolve setup.world document
  let p ← Compiling.ofExcept (fragmentPointer fragment)
  compileAt setup ⟨document, some document, content⟩ p

/-- Compiles a decoded schema, reported under a URI if there is one. -/
def compileValue (setup : Setup) (value : Value) (base : Option String) : Compiling Schema := do
  match base with
  | some uri =>
    let uri ← Compiling.ofExcept ((Uri.dropFragment uri).mapError .uri)
    compileAt setup ⟨uri, some uri, value⟩ .root
  | none =>
    let key ← Compiling.anonymousKey
    compileAt setup ⟨key, none, value⟩ .root

/-- Compiles what the text of a schema has been read as. -/
def compileRead (setup : Setup) (base : Option String) : Except Failure Value → Compiling Schema
  | .ok value => compileValue setup value base
  | .error e =>
    match e.origin with
    | .content => throw (.schema (.undecodable e) base none)
    | _ => throw e

/-- Compiles the text of a schema. -/
def compileText (setup : Setup) (text : String) (base : Option String) : Compiling Schema :=
  compileRead setup base (Resource.decode setup.world.yaml ⟨.text text, none⟩ (base.getD ""))

/-- The text has the looks of a URI: no white space inside, no start of a JSON value, and a scheme of two letters
or more. -/
def looksLikeUri (text : String) : Bool :=
  match Text.trim text.toList with
  | [] => false
  | c :: cs =>
    !(c == '{' || c == '[' || c == '"') && !(c :: cs).any Text.isBlank &&
      match Uri.ofText [] (c :: cs) with
      | .ok u => 1 < u.scheme.length
      | .error _ => false

/-- There is a file at the path that a text denotes. -/
def isFile (w : World) (text : String) : Compiling Bool :=
  tryCatch (Compiling.ofLoading (Loader.isFile w (.ofText text))) fun _ => return false

/-- Compiles a schema from a source of any kind. -/
def compileSource (setup : Setup) : Source → Compiling Schema
  | .path p => compileFile setup p
  | .text s => do
    if ← isFile setup.world s then compileFile setup (.ofText s)
    else if looksLikeUri s then compileUri setup s
    else compileText setup s none
  | .value v =>
    match v with
    | .obj _ | .bool _ => compileValue setup v none
    | v => throw (.notSource v)

/-! ### Evaluating -/

/-- How much an evaluation tells. -/
inductive Form where
  | flag
  | basic
  | detailed
  deriving DecidableEq, Repr

/-- The form of a name. -/
def Form.ofName? : String → Option Form
  | "flag" => some .flag
  | "basic" => some .basic
  | "detailed" => some .detailed
  | _ => none

/-- What an evaluation tells. -/
inductive Report where
  | flag (valid : Bool)
  | basic (findings : Findings)
  | detailed (outcome : Outcome)
  deriving Repr

/-- The value that a report is of is accepted. -/
def Report.valid : Report → Bool
  | .flag valid => valid
  | .basic findings => findings.valid
  | .detailed outcome => outcome.valid

/-- A report as a value. -/
def Report.toValue : Report → Value
  | .flag valid => .bool valid
  | .basic findings => findings.toValue
  | .detailed outcome => outcome.toValue

/-- Evaluates a value. -/
def evaluate (node : Node) (form : Form) (v : Value) (relative location : Pointer) : Except Failure Report :=
  (match form with
    | .flag => (node.accepts v).map Report.flag
    | .basic => (node.findings v relative location).map Report.basic
    | .detailed => (node.outcome v relative location).map Report.detailed).mapError .ofEval

/-- Evaluates a value in the form of a name. -/
def evaluateAs (node : Node) (name : String) (v : Value) : Except Failure Report :=
  match Form.ofName? name with
  | some form => evaluate node form v .root .root
  | none => .error (.unknownOutput name)

end Schema

end Conform
