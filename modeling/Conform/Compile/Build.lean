import Conform.Compile.Reference

/-!
# Compiling schemas

`compile` turns a location into a node and everything that it leads to along with it.  The keywords of an object
are compiled in the order in which they are written; the two that depend on their neighbours come last, and take
their place in the order all the same.
-/

namespace Conform

namespace Scope

/-- The node of a keyword, if it has one. -/
def node? (s : Scope) (keyword : Keyword) (name : String) (value : Value) : Compiling (Option Node) := do
  let path := s.pointer.child name
  let site := s.siteAt path
  match keyword with
  | .passive | .unknown | .additionalProperties | .additionalItems => return none
  | .reference => return some (← s.reference value)
  | .combination counting =>
    match value with
    | .arr (v :: vs) => return some (.combine site name counting (← s.schemas (v :: vs) path))
    | _ => s.fail (.shape name .nonEmptyArray) path
  | .negation => return some (.not site (← s.schema value path))
  | .condition => return some (← s.conditional value)
  | .type => return some (.leaf site (.type (← s.types value path)))
  | .enum =>
    match value with
    | .arr vs => return some (.leaf site (.enum vs))
    | _ => s.fail (.shape name .array) path
  | .const => return some (.leaf site (.const value))
  | .properties =>
    return some (.properties site (← (← s.entries name value path).mapM fun (key, v) =>
      return (key, ← s.schema v (path.key key))))
  | .patternProperties =>
    return some (.patternProperties site (← (← s.entries name value path).mapM fun (key, v) => do
      let regex ← s.keyRegex key (path.key key)
      return (regex, ← s.schema v (path.key key))))
  | .propertyNames => return some (.propertyNames site (← s.schema value path))
  | .required => return some (.required site (← s.texts name value path))
  | .items =>
    match value with
    | .arr vs => return some (.itemsTuple site (← s.schemas vs path))
    | _ => return some (.items site (← s.schema value path))
  | .uniqueItems =>
    match value with
    | .bool b => return if b then some (.leaf site .uniqueItems) else none
    | _ => s.fail (.shape name .boolean) path
  | .contains =>
    let schema ← s.schema value path
    let minimum ← s.size? "minContains"
    let maximum ← s.size? "maxContains"
    return some (.contains site schema minimum maximum)
  | .limit relation => return some (.leaf site (.limit name relation (← s.bound name relation value path)))
  | .size sized lower => return some (.leaf site (.size sized name lower (← s.size name value path)))
  | .pattern =>
    match value with
    | .str text => return some (.leaf site (.pattern (← s.regex text path)))
    | _ => s.fail (.shape name .text) path
  | .format => s.format name value path
  | .default => return some (.leaf site (.default value))
  | .extension => return some (s.extension name value path)

/-! ### Keywords that depend on their neighbours -/

/-- The names that have a schema of their own. -/
def knownNames (siblings : List Node) : List Scalar :=
  (siblings.findSome? fun
    | .properties _ entries => some (entries.map (·.1))
    | _ => none).getD []

/-- The patterns of names that have a schema of their own. -/
def knownPatterns (siblings : List Node) : List Regex :=
  (siblings.findSome? fun
    | .patternProperties _ entries => some (entries.map (·.1))
    | _ => none).getD []

/-- The number of items that have a schema at their place, if there are such. -/
def tupleSize? (siblings : List Node) : Option Nat :=
  siblings.findSome? fun
    | .itemsTuple _ schemas => some schemas.length
    | _ => none

/-- The node of a keyword that depends on its neighbours. -/
def lateNode (s : Scope) (keyword : Keyword) (name : String) (value : Value) (siblings : List Node) :
    Compiling Node := do
  let path := s.pointer.child name
  let schema ← s.schema value path
  match keyword with
  | .additionalProperties =>
    return .additionalProperties (s.siteAt path) schema (knownNames siblings) (knownPatterns siblings)
  | _ =>
    let size := tupleSize? siblings
    return .additionalItems (s.siteAt path) schema (size.getD 0) size.isSome

/-- A child of a schema object: compiled, if it has a node, or to be compiled after its neighbours. -/
inductive Child where
  | early (node : Option Node)
  | late (keyword : Keyword) (name : String) (value : Value)

/-- The node of a child that has been compiled. -/
def Child.node? : Child → Option Node
  | .early node => node
  | .late .. => none

/-- The first look at a member. -/
def early (s : Scope) (member : Scalar × Value) : Compiling Child :=
  match member with
  | (.str name, value) => do
    let keyword := Keyword.ofName name
    if keyword.isLate then return .late keyword name value
    else return .early (← s.node? keyword name value)
  | (key, _) => throw (.keywordNotText key)

/-- The children of a schema object. -/
def children (s : Scope) : Compiling (List Node) := do
  let firsts ← s.members.mapM s.early
  let siblings := firsts.filterMap Child.node?
  let nodes ← firsts.mapM fun
    | .early node => return node
    | .late keyword name value => return some (← s.lateNode keyword name value siblings)
  return nodes.filterMap id

/-! ### Schema objects -/

/-- The title of a schema object. -/
def title (s : Scope) : Compiling (Option String) :=
  match lookupKey (.str "title") s.members with
  | none | some .null => return none
  | some (.str title) => return some title
  | some _ => s.fail (.shape "title" .text) (s.pointer.child "title")

/-- The text that a description refers to. -/
def referredDescription (s : Scope) (ref : String) : Compiling String := do
  let uri ← Compiling.ofExcept (resolveUri s.base ref)
  let text ← tryCatch (Compiling.ofLoading (Loader.readText s.setup.world uri)) fun e => do
    match e.origin with
    | .content | .storage => s.fail (.description uri e) (s.pointer.child "description")
    | _ => throw e
  return String.ofList (Text.trim text.toList)

/-- The description of a schema object. -/
def description (s : Scope) : Compiling (Option String) := do
  match lookupKey (.str "description") s.members with
  | none | some .null => return none
  | some (.str text) => return some text
  | some (.obj [(.str "$ref", .str ref)]) =>
    if s.setup.options.descriptionReferences then return some (← s.referredDescription ref)
    else s.fail (.shape "description" .text) (s.pointer.child "description")
  | some _ => s.fail (.shape "description" .text) (s.pointer.child "description")

/-! ### Self-checks -/

/-- What is wrong with a sample of a schema. -/
def sampleFindings (node : Node) (sample : Value) (location : Pointer) : Compiling (List Entry) :=
  Compiling.ofExcept (((node.findings sample node.site.path location).map (·.faults)).mapError .ofEval)

/-- The examples of a schema object, with their locations. -/
def samples (s : Scope) : List (Pointer × Value) :=
  ((lookupKey (.str "example") s.members).map fun v => (s.pointer.child "example", v)).toList ++
    match lookupKey (.str "examples") s.members with
    | some (.arr vs) => vs.zipIdx.map fun (v, i) => ((s.pointer.child "examples").item i, v)
    | _ => []

/-- Checks the examples and the default of a schema object against it. -/
def selfCheck (s : Scope) (node : Node) : Compiling Unit := do
  if s.setup.options.checkExamples then
    for (location, sample) in s.samples do
      let entries ← sampleFindings node sample location
      modify fun session => { session with examples := session.examples ++ entries }
  if s.setup.options.checkDefaults then
    match lookupKey (.str "default") s.members with
    | some sample =>
      let entries ← sampleFindings node sample (s.pointer.child "default")
      modify fun session => { session with defaults := session.defaults ++ entries }
    | none => return

/-- The node of a schema object whose own name is in force. -/
def group (s : Scope) : Compiling Node := do
  let title ← s.title
  let description ← s.description
  let children ← s.children
  let node := Node.group (s.siteAt s.pointer) children title description (s.dialect.map Dialect.uri)
  s.selfCheck node
  return node

/-- The URI in force inside a schema object, which is filed under it. -/
def enter (s : Scope) : Compiling Scope := do
  match lookupKey (.str "$id") s.members with
  | none => return s
  | some (.str name) =>
    let uri ← Compiling.ofExcept (resolveName s.base name)
    if uri.isEmpty then return s
    Compiling.register uri ⟨s.document, s.pointer⟩
    return { s with base := some uri }
  | some _ => s.fail (.shape "$id" .text) (s.pointer.child "$id")

/-- The node of a schema object.  In draft 07 a reference replaces all of its neighbours. -/
def object (s : Scope) : Compiling Node := do
  if hasKey (.str "$schema") s.members && !s.pointer.isRoot then
    s.fail .nestedDialect (s.pointer.child "$schema")
  match s.dialect, lookupKey (.str "$ref") s.members with
  | some .draft07, some ref =>
    return .group (s.siteAt s.pointer) [← s.reference ref] none none (some Dialect.draft07.uri)
  | _, _ => (← s.enter).group

end Scope

/-- The node of a location, other schemas being compiled by `descend`. -/
def build (setup : Setup) (descend : Location → Compiling Node) (l : Location) : Compiling Node :=
  match l.value with
  | .bool allows => return .constant ⟨l.base, l.pointer⟩ allows
  | .obj members => Scope.object ⟨setup, l.document, l.pointer, l.base, l.dialect, members, descend⟩
  | _ => throw (.schema .neither l.base (some l.pointer))

/-- The node of a location.  The schemas that are under way at a time lie at different locations, so `fuel` need
only exceed the number of locations. -/
def compile (setup : Setup) : Nat → Location → Compiling Node
  | 0, _ => throw .endless
  | fuel + 1, l => Compiling.getOrCreate l.place (build setup (compile setup fuel) l)

end Conform
