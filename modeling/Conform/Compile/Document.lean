import Conform.Source.Resource

/-!
# Documents

A document as it is compiled: where its schemas lie (`schemaObjects`), which URI is in force at a location
(`Document.baseAt`), where a plain name leads to (`findAnchor?`), and which dialect its root declares.
-/

namespace Conform

/-- A document that schemas are compiled from. -/
structure Document where
  /-- What its locations are filed under. -/
  key : String
  /-- The URI that its locations are reported under. -/
  uri : Option String
  content : Value
  deriving Repr

/-- A version of the language. -/
inductive Dialect where
  | draft07
  | draft201909
  deriving DecidableEq, Repr

namespace Dialect

/-- The URI of a dialect. -/
def uri : Dialect → String
  | draft07 => "http://json-schema.org/draft-07/schema"
  | draft201909 => "https://json-schema.org/draft/2019-09/schema"

/-- The URIs that declare draft 07, with either scheme. -/
def draft07Uris : List String :=
  ["http://json-schema.org/draft-07/schema", "https://json-schema.org/draft-07/schema"]

/-- The dialect that a URI declares, whatever `#` it ends with; an unknown one is read as the newer dialect. -/
def ofUri (uri : String) : Dialect :=
  let stem := String.ofList (uri.toList.reverse.dropWhile (· == '#')).reverse
  if draft07Uris.contains stem then .draft07 else .draft201909

end Dialect

/-! ### URIs in force -/

/-- The URI that a reference denotes where `base` is in force. -/
def resolveUri (base : Option String) (ref : String) : Except Failure String :=
  (Uri.resolve (base.getD "") ref).mapError .uri

/-- The URI that a name denotes where `base` is in force, without a fragment. -/
def resolveName (base : Option String) (name : String) : Except Failure String :=
  (resolveUri base name).bind fun uri => (Uri.dropFragment uri).mapError .uri

/-- The URI in force inside an object, where `base` is in force around it.  A name that comes to nothing does not
count. -/
def baseWithin (base : Option String) (v : Value) : Except Failure (Option String) :=
  match v.member? "$id" with
  | some (.str name) => (resolveName base name).map fun uri => if uri.isEmpty then base else some uri
  | _ => .ok base

/-- The part that a token leads to, as far as bases are concerned; `none` ends the walk. -/
def baseStep (token : String) (v : Value) : Except Failure (Option Value) :=
  match v with
  | .obj ms => .ok (lookupKey (.str token) ms)
  | .arr vs =>
    let cs := token.toList
    if cs.isEmpty || !cs.all Text.isDigitSign then .ok none
    else if !cs.all Text.isDecimal then .error (.pointer (.badNumeral token))
    else
      match vs[Text.decimalOf cs]? with
      | some w => .ok (some w)
      | none => if Text.digitLimit < cs.length then .error (.pointer (.badNumeral token)) else .ok none
  | _ => .ok none

/-- The URI in force just above the place that tokens lead to from `v`. -/
def baseAlong (base : Option String) : List String → Value → Except Failure (Option String)
  | [], _ => .ok base
  | token :: rest, v => do
    let base ← baseWithin base v
    match ← baseStep token v with
    | some w => baseAlong base rest w
    | none => return base

/-- The URI in force just above a location; the location's own name does not count. -/
def Document.baseAt (d : Document) (p : Pointer) : Except Failure (Option String) :=
  baseAlong d.uri p.tokens d.content

/-! ### Locations of schemas -/

/-- Keywords whose values are data. -/
def dataKeywords : List String := ["enum", "const", "examples", "example", "default"]

/-- Keywords whose values are schemas under names. -/
def nameKeywords : List String := ["properties", "patternProperties", "$defs", "definitions", "dependentSchemas"]

/-- The scalar is one of the texts. -/
def Scalar.isAmong (key : Scalar) (names : List String) : Bool := names.any fun name => key.sameKey (.str name)

mutual

/-- The objects at and below a value at `p` that can be schemas: data is passed over, and an object of schemas under
names is none itself. -/
def schemaObjects (p : Pointer) : Value → List (Pointer × Value)
  | .arr vs => schemaItems p 0 vs
  | .obj ms => (p, .obj ms) :: schemaMembers p ms
  | _ => []

/-- The schema objects among items. -/
def schemaItems (p : Pointer) (start : Nat) : List Value → List (Pointer × Value)
  | [] => []
  | v :: vs => schemaObjects (p.item start) v ++ schemaItems p (start + 1) vs

/-- The schema objects below the members of an object. -/
def schemaMembers (p : Pointer) : List (Scalar × Value) → List (Pointer × Value)
  | [] => []
  | (key, v) :: ms =>
    (if key.isAmong dataKeywords then []
      else if key.isAmong nameKeywords then namedSchemas (p.key key) v
      else schemaObjects (p.key key) v) ++ schemaMembers p ms

/-- The schema objects of a value that holds schemas under names, if it is an object. -/
def namedSchemas (p : Pointer) : Value → List (Pointer × Value)
  | .obj ms => entrySchemas p ms
  | .arr vs => schemaItems p 0 vs
  | _ => []

/-- The schema objects below the entries of an object of schemas under names. -/
def entrySchemas (p : Pointer) : List (Scalar × Value) → List (Pointer × Value)
  | [] => []
  | (key, v) :: ms => schemaObjects (p.key key) v ++ entrySchemas p ms

end

/-- The schema object carries the plain name. -/
def hasAnchor (name : String) (schema : Value) : Bool :=
  (schema.member? "$anchor").any (·.text? == some name) ||
    (schema.member? "$id").any (·.text? == some ("#" ++ name))

/-- The location that carries a plain name. -/
def findAnchor? (content : Value) (name : String) : Option Pointer :=
  ((schemaObjects .root content).find? fun entry => hasAnchor name entry.2).map (·.1)

/-- The dialect that the root of a document declares. -/
def Document.dialect? (d : Document) : Except Failure (Option Dialect) :=
  match d.content.member? "$schema" with
  | none => .ok none
  | some (.str uri) => .ok (some (.ofUri uri))
  | some _ => .error (.schema (.shape "$schema" .text) d.uri (some (Pointer.root.child "$schema")))

end Conform
