import Conform.Failure
import Conform.Schema.Node

/-!
# The registry of nodes

One entry to each location that has been compiled, or is being compiled.  A location that is asked for while it is
being compiled refers to itself.
-/

namespace Conform

/-- A location: a document by what it is filed under, and a place in it. -/
structure Place where
  document : String
  pointer : CodePointer
  deriving DecidableEq, Repr

namespace Place

/-- The start of the names that documents without a URI are filed under. -/
def anonymousStart : String := "urn:anonymous:"

/-- The URI that the location is reported under, if its document has one. -/
def uri? (p : Place) : Option String := if p.document.startsWith anonymousStart then none else some p.document

/-- The failure of a location that is asked for while it is being compiled: it refers to itself, and is told so under its
URI and pointer, if that can be written. -/
def recursion (p : Place) : Failure :=
  match p.uri?, p.pointer.schemaFragment with
  | some _, .error t => .unencodable t
  | uri, _ => .schema .recursion uri (some p.pointer)

/-- The answer of a location that has been compiled: its node, if the pointer can be written in the record of the hit. -/
def hit (p : Place) (node : Node) : Except Failure Node :=
  (p.pointer.fragment.mapError .unencodable).map fun _ => node

end Place

/-- The state of a location. -/
inductive Progress where
  | compiling
  | done (node : Node)
  deriving Repr

/-- The locations that have been compiled or are being compiled. -/
structure Registry where
  entries : List (Place × Progress) := []
  /-- The number of documents without a URI. -/
  anonymous : Nat := 0
  deriving Repr

namespace Registry

/-- The state of a location. -/
def find? (r : Registry) (p : Place) : Option Progress := r.entries.lookup p

/-- The node of a location, if it has been compiled. -/
def node? (r : Registry) (p : Place) : Option Node :=
  match r.find? p with
  | some (.done node) => some node
  | _ => none

/-- The location is being compiled. -/
def isCompiling (r : Registry) (p : Place) : Bool :=
  match r.find? p with
  | some .compiling => true
  | _ => false

/-- The entries without that of a location. -/
def without (p : Place) (entries : List (Place × Progress)) : List (Place × Progress) :=
  entries.filter (·.1 != p)

/-- The registry without the entry of a location. -/
def discard (r : Registry) (p : Place) : Registry := { r with entries := without p r.entries }

/-- The registry with a location in a state. -/
def set (r : Registry) (p : Place) (state : Progress) : Registry :=
  { r with entries := (p, state) :: without p r.entries }

/-- The registry with a location marked as being compiled. -/
def mark (r : Registry) (p : Place) : Registry := r.set p .compiling

/-- The registry with the node of a location. -/
def store (r : Registry) (p : Place) (node : Node) : Registry := r.set p (.done node)

/-- The location has been compiled. -/
def contains (r : Registry) (p : Place) : Bool := (r.node? p).isSome

/-- The number of locations that have been compiled. -/
def size (r : Registry) : Nat :=
  r.entries.countP fun entry =>
    match entry.2 with
    | .compiling => false
    | .done _ => true

/-- What the next document without a URI is filed under, and the registry that knows of it. -/
def nextAnonymous (r : Registry) : String × Registry :=
  (Place.anonymousStart ++ toString (r.anonymous + 1), { r with anonymous := r.anonymous + 1 })

end Registry

end Conform
