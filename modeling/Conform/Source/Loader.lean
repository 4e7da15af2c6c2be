import Conform.Source.Resource

/-!
# Loading documents

Documents come from a table of resources or from the store of files.  A loader decodes each once: it keeps it under
the URI that it was asked for and, where the document names itself by `$id`, under that name too.
-/

namespace Conform

/-- What a resolver has to say about a URI. -/
inductive Answer where
  | found (r : Resource)
  | missing
  /-- The resolver fails, for a reason of its own. -/
  | failed (origin : Origin) (text : String)
  deriving Repr

/-- Where documents come from. -/
inductive Resolver where
  | table (answers : List (String × Answer))
  | files
  deriving Repr

/-- The surroundings of a run. -/
structure World where
  resolver : Resolver := .files
  files : Files
  /-- How documents in YAML are read. -/
  yaml : Yaml.Reader := Yaml.read
  /-- What characters are called in patterns. -/
  characters : CharacterNames := .empty

/-- The world in which a table has all documents, and no file lies anywhere. -/
abbrev World.ofTable (answers : List (String × Answer)) : World := { resolver := .table answers, files := ⟨[], [], []⟩ }

/-- A document that has been decoded. -/
structure Loaded where
  value : Value
  contentType : Option String := none
  deriving Repr

/-- Something that a run asks of the store of files. -/
inductive Consultation where
  /-- What lies at a path. -/
  | path (p : Path)
  /-- What lies below a directory. -/
  | tree (p : Path)
  deriving DecidableEq, Repr

/-- The state of a loader. -/
structure Loader where
  /-- The documents by URI. -/
  cache : List (String × Loaded) := []
  /-- The URIs that the resolver has been asked for, last first. -/
  asked : List String := []
  /-- What the store of files has been asked, last first. -/
  consulted : List Consultation := []

/-- A computation that may fail, and whose changes of the loader stay if it does. -/
abbrev Loading := ExceptT Failure (StateM Loader)

namespace Loader

/-- Notes what the store of files is asked. -/
def consult (c : Consultation) : Loading Unit := modify fun l => { l with consulted := c :: l.consulted }

/-- There is a file at a path. -/
def isFile (w : World) (p : Path) : Loading Bool := do
  consult (.path p)
  match w.files.isFile p with
  | .ok b => return b
  | .error fault => throw (.file p.text fault)

/-- There is a directory at a path. -/
def isDirectory (w : World) (p : Path) : Loading Bool := do
  consult (.tree p)
  match w.files.isDirectory p with
  | .ok b => return b
  | .error fault => throw (.file p.text fault)

/-- The bytes of the file at a path. -/
def readFile (w : World) (p : Path) : Loading (List UInt8) := do
  consult (.path p)
  match w.files.read p with
  | .ok bytes => return bytes
  | .error fault => throw (.file p.text fault)

/-- The bytes of the file that a text leads to as it stands. -/
def openFile (w : World) (text : String) : Loading (List UInt8) := do
  consult (.path (.ofText text))
  match w.files.readText text with
  | .ok bytes => return bytes
  | .error fault => throw (.file text fault)

/-! ### Resources -/

/-- The file that a URI names, if there is one. -/
def fileAnswer (w : World) (uri : String) : Loading Answer := do
  match Uri.ofText [] uri.toList with
  | .error fault => throw (.uri fault)
  | .ok u =>
    if u.scheme == "file".toList then
      let p := Path.ofText (String.ofList (Text.Percent.decode u.path))
      if ← isFile w p then return .found ⟨.bytes (← readFile w p), none⟩
      else return .missing
    else return .missing

/-- What the resolver has to say about a URI. -/
def answer (w : World) (uri : String) : Loading Answer := do
  modify fun l => { l with asked := uri :: l.asked }
  match w.resolver with
  | .table answers => return (answers.lookup uri).getD .missing
  | .files => fileAnswer w uri

/-- The resource under a URI. -/
def resource (w : World) (uri : String) : Loading Resource := do
  match ← answer w uri with
  | .found r => return r
  | .missing => throw (.missingSchema uri)
  | .failed origin text => throw (.server origin text)

/-! ### Documents -/

/-- A cache with a document under a URI, in the place of the one that was there. -/
def put (uri : String) (d : Loaded) : List (String × Loaded) → List (String × Loaded)
  | [] => [(uri, d)]
  | (u, e) :: rest => if u == uri then (uri, d) :: rest else (u, e) :: put uri d rest

/-- A cache with a document under a URI, unless there is one. -/
def putNew (uri : String) (d : Loaded) (cache : List (String × Loaded)) : List (String × Loaded) :=
  if (cache.lookup uri).isSome then cache else cache ++ [(uri, d)]

/-- The URI without its fragment. -/
def dropFragment (uri : String) : Loading String :=
  match Uri.dropFragment uri with
  | .ok uri => return uri
  | .error fault => throw (.uri fault)

/-- Keeps a document under its URI and under its name. -/
def remember (uri : String) (d : Loaded) : Loading Unit := do
  modify fun l => { l with cache := put uri d l.cache }
  match d.value.member? "$id" with
  | some (.str name) =>
    let name ← dropFragment name
    modify fun l => { l with cache := putNew name d l.cache }
  | _ => return

/-- Decodes a resource and keeps the document. -/
def keep (w : World) (uri : String) (r : Resource) : Loading Loaded := do
  match r.decode w.yaml uri with
  | .error e => throw e
  | .ok value =>
    let d : Loaded := ⟨value, r.contentType⟩
    remember uri d
    return d

/-- The document under a URI, whatever its fragment. -/
def fetch (w : World) (uri : String) : Loading Loaded := do
  let uri ← dropFragment uri
  match (← get).cache.lookup uri with
  | some d => return d
  | none => keep w uri (← resource w uri)

/-- The text of the resource under a URI. -/
def readText (w : World) (uri : String) : Loading String := do
  match (← resource w uri).content.chars with
  | .ok cs => return String.ofList cs
  | .error e => throw e

/-- There is a document under a URI, whatever its fragment. -/
def holds (uri : String) : Loading Bool := do
  let uri ← dropFragment uri
  return ((← get).cache.lookup uri).isSome

/-- The document in the file at a path, with the URI of the file. -/
def loadFile (w : World) (p : Path) : Loading (String × Value) := do
  consult (.path p)
  match w.files.read p with
  | .error .missing => throw (.missingSchema p.text)
  | .error fault => throw (.file p.text fault)
  | .ok bytes =>
    let uri := Path.uriOf (p.resolve w.files.here)
    let d ← keep w uri ⟨.bytes bytes, none⟩
    return (uri, d.value)

/-- The suffixes of the files that hold schemas. -/
def schemaSuffixes : List (List Char) := [".json".toList, ".yaml".toList, ".yml".toList]

/-- The file below a directory holds a schema: it is not hidden and its suffix is one of schemas. -/
def isSchemaFile (names : List String) : Bool :=
  !(names.any (·.startsWith ".")) && schemaSuffixes.contains (smallAscii (Path.suffixOf (names.getLast?.getD "")))

/-- Loads the file at a path, or the schemas below a directory, and tells their URIs. -/
def preLoad (w : World) (p : Path) : Loading (List String) := do
  if ← isFile w p then return [(← loadFile w p).1]
  else if ← isDirectory w p then
    ((w.files.below p).filter isSchemaFile).mapM fun names => return (← loadFile w (p.append names)).1
  else throw (.missingSchema p.text)

end Loader

end Conform
