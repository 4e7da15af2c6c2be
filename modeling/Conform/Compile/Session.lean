import Conform.Compile.Document
import Conform.Compile.Options
import Conform.Compile.Registry
import Conform.Schema.Findings
import Conform.Source.Loader

/-!
# Sessions

The state that compilations share: loaded documents, compiled locations, the resources that have a URI of their
own, and what the self-checks found.  `getOrCreate` compiles a location once, and fails where a location needs
itself.
-/

namespace Conform

/-- What a compilation is given. -/
structure Setup where
  world : World
  options : Options := {}
  /-- What the caller makes of a keyword with the extension mark, under its URI and at its location. -/
  keyword : String → Option String → Pointer → Value → Option Node := fun _ _ _ _ => none
  /-- What the caller has for a format. -/
  format : String → Option FormatChecker := fun _ => none

/-- A document or a part of one that has a URI. -/
structure Home where
  document : Document
  /-- Where in the document the part lies. -/
  origin : Pointer
  deriving Repr

/-- The state that compilations share. -/
structure Session where
  loader : Loader := {}
  registry : Registry := {}
  /-- The documents and parts by URI. -/
  homes : List (String × Home) := []
  /-- What is wrong with examples. -/
  examples : List Entry := []
  /-- What is wrong with defaults. -/
  defaults : List Entry := []

/-- A computation that may fail, and whose changes of the session stay if it does. -/
abbrev Compiling := ExceptT Failure (StateM Session)

/-- A schema to be compiled: the document, the value and where it lies, the URI in force around it, and the
dialect. -/
structure Location where
  document : Document
  value : Value
  pointer : Pointer
  base : Option String
  dialect : Option Dialect
  deriving Repr

/-- What the location is filed under. -/
def Location.place (l : Location) : Place := ⟨l.document.key, l.pointer⟩

namespace Compiling

/-- A computation of the loader. -/
def ofLoading {α : Type} (x : Loading α) : Compiling α := do
  let s ← get
  let (result, loader) := x.run.run s.loader
  set { s with loader }
  match result with
  | .ok a => return a
  | .error e => throw e

/-- A result. -/
def ofExcept {α : Type} (x : Except Failure α) : Compiling α :=
  match x with
  | .ok a => return a
  | .error e => throw e

/-- Changes the registry. -/
def modifyRegistry (f : Registry → Registry) : Compiling Unit := modify fun s => { s with registry := f s.registry }

/-- The node of a location, if it has been compiled. -/
def compiled? (p : Place) : Compiling (Option Node) := do
  match (← get).registry.find? p with
  | some .compiling => throw p.recursion
  | some (.done node) => return some (← ofExcept (p.hit node))
  | none => return none

/-- The node of a location, which is built unless it has been compiled.  While it is built it is marked, and a
build that fails leaves no mark. -/
def getOrCreate (p : Place) (build : Compiling Node) : Compiling Node := do
  match ← compiled? p with
  | some node => return node
  | none =>
    modifyRegistry (·.mark p)
    let node ← tryCatch build fun e => do
      modifyRegistry (·.discard p)
      throw e
    modifyRegistry (·.store p node)
    return node

/-- What a document without a URI is filed under. -/
def anonymousKey : Compiling String := do
  let s ← get
  let (key, registry) := s.registry.nextAnonymous
  set { s with registry }
  return key

/-- The document under a URI; a failure to get it is told under the URI. -/
def resolve (w : World) (uri : String) : Compiling Value :=
  tryCatch (return (← ofLoading (Loader.fetch w uri)).value) fun e => do
    match e with
    | .schema .. => throw e
    | e =>
      match e.origin with
      | .calculation => throw e
      | _ => throw (.schema (.unresolved uri e) (some uri) none)

end Compiling

/-! ### Homes -/

/-- The homes with one under a URI, unless there is one. -/
def addHome (uri : String) (home : Home) (homes : List (String × Home)) : List (String × Home) :=
  if (homes.lookup uri).isSome then homes else homes ++ [(uri, home)]

namespace Compiling

/-- Files a part of a document under a URI, unless there is something. -/
def register (uri : String) (home : Home) : Compiling Unit :=
  modify fun s => { s with homes := addHome uri home s.homes }

/-- Files a part of a document under the URI that its name comes to. -/
def registerPart (d : Document) (p : Pointer) (schema : Value) : Compiling Unit := do
  match schema.member? "$id" with
  | some (.str name) =>
    if name.startsWith "#" then return
    let uri ← ofExcept ((d.baseAt p).bind (resolveName · name))
    if !uri.isEmpty then register uri ⟨d, p⟩
  | _ => return

/-- Files a document and all parts of it that have names. -/
def registerDocument (d : Document) : Compiling Unit := do
  match d.uri with
  | some uri => register uri ⟨d, .root⟩
  | none => pure ()
  for (p, schema) in schemaObjects .root d.content do
    registerPart d p schema

end Compiling

/-! ### Extent -/

/-- The token names an index, but is not how the index is written. -/
def Pointer.isOddIndex (token : String) : Bool :=
  match Pointer.index? token with
  | .ok i => toString i != token
  | .error _ => false

/-- The odd indexes in the pointer that the fragment of a reference denotes. -/
def oddIndexes (ref : List Char) : List String :=
  match Text.cut? '#' ref with
  | none => []
  | some (_, fragment) =>
    match Pointer.ofFragment (String.ofList fragment) with
    | .ok p => p.tokens.filter Pointer.isOddIndex
    | .error _ => []

mutual

/-- The odd indexes in a value: those in its texts, read as references, as they stand and as a reader of URIs takes them,
and those that are keys. -/
def Value.oddIndexes : Value → List String
  | .scalar (.str text) => Conform.oddIndexes text.toList ++ Conform.oddIndexes (Uri.clean text.toList)
  | .scalar _ | .set _ => []
  | .arr vs => itemsOddIndexes vs
  | .obj ms => membersOddIndexes ms

/-- The odd indexes in items. -/
def itemsOddIndexes : List Value → List String
  | [] => []
  | v :: vs => v.oddIndexes ++ itemsOddIndexes vs

/-- The odd indexes in members. -/
def membersOddIndexes : List (Scalar × Value) → List String
  | [] => []
  | (key, v) :: ms => [key.words].filter Pointer.isOddIndex ++ v.oddIndexes ++ membersOddIndexes ms

end

mutual

/-- The number of places in a value, where an index may be written in `odd` ways beside its own. -/
def Value.extent (odd : Nat) : Value → Nat
  | .scalar _ | .set _ => 1
  | .arr vs => (odd + 1) * itemsExtent odd vs + 1
  | .obj ms => membersExtent odd ms + 1

/-- The number of places in items. -/
def itemsExtent (odd : Nat) : List Value → Nat
  | [] => 0
  | v :: vs => v.extent odd + itemsExtent odd vs

/-- The number of places in members. -/
def membersExtent (odd : Nat) : List (Scalar × Value) → Nat
  | [] => 0
  | (_, v) :: ms => v.extent odd + membersExtent odd ms

end

/-- The documents of a table. -/
def World.contents (w : World) : List Value :=
  match w.resolver with
  | .table answers => answers.filterMap fun (uri, answer) =>
    match answer with
    | .found r => (r.decode w.yaml uri).toOption
    | _ => none
  | .files => []

/-- The documents that the compilation of a document can come to: the document itself, those known so far, and those
of a table, each under its URI and under its name. -/
def Session.contents (s : Session) (w : World) (d : Document) : List Value :=
  d.content :: (s.loader.cache.map (·.2.value) ++ s.homes.map (·.2.document.content) ++ w.contents ++ w.contents)

/-- The number of places in values, where the pointer and the values have odd indexes. -/
def Pointer.extent (p : Pointer) (contents : List Value) : Nat :=
  itemsExtent (p.tokens.filter isOddIndex ++ contents.flatMap Value.oddIndexes).length contents

/-- How many locations may be under way at a time, beside those in the first document, where files have the others.  A file
goes by ever new names, so those at hand are no bound. -/
def World.fileDepth : Nat := 1000000

/-- A bound on the locations that a compilation that starts at a pointer of a document can have under way at a time. -/
def Session.extent (s : Session) (w : World) (d : Document) (p : Pointer) : Nat :=
  match w.resolver with
  | .table _ => p.extent (s.contents w d)
  | .files => p.extent [d.content] + World.fileDepth

end Conform
