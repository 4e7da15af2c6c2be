import Conform.Text.Percent
import Conform.Text.Split

/-!
# Paths

The path of a file: a root, empty for a relative path, and the names from there on.  Empty names and single dots
do not count; double dots are kept, since they depend on what is there (`Path.resolve` takes them out).
-/

namespace Conform

/-- A path. -/
structure Path where
  root : String
  parts : List String
  deriving DecidableEq, Repr

namespace Path

/-- The root that a text starts with; two slashes are a root of their own. -/
def rootOf (cs : List Char) : String :=
  match (cs.takeWhile (· == '/')).length with
  | 0 => ""
  | 2 => "//"
  | _ => "/"

/-- The path that a text denotes. -/
def ofText (text : String) : Path where
  root := rootOf text.toList
  parts := ((Text.fields '/' text.toList).map String.ofList).filter fun name => name != "" && name != "."

/-- The text of a path. -/
def text (p : Path) : String :=
  if p.root.isEmpty && p.parts.isEmpty then "." else p.root ++ "/".intercalate p.parts

/-- The path starts at a root. -/
def isAbsolute (p : Path) : Bool := !p.root.isEmpty

/-- A path below this one. -/
def append (p : Path) (names : List String) : Path := { p with parts := p.parts ++ names }

/-- The last name. -/
def name (p : Path) : String := p.parts.getLast?.getD ""

/-- Names with those taken out that a double dot leads back from; `done` holds those before, last first. -/
def resolveParts (done : List String) : List String → List String
  | [] => done.reverse
  | ".." :: rest => resolveParts (done.drop 1) rest
  | name :: rest => resolveParts (name :: done) rest

/-- The names that lead from the root to the path, where relative paths start at `here`. -/
def resolve (here : List String) (p : Path) : List String :=
  resolveParts [] (if p.isAbsolute then p.parts else here ++ p.parts)

/-- The `file` URI of the place that the names lead to. -/
def uriOf (names : List String) : String :=
  "file://" ++ String.ofList
    (if names.isEmpty then ['/']
      else names.flatMap fun name => '/' :: Text.Percent.encode (fun _ => false) name.toList)

/-- The suffix of a name: from its last dot on, unless that is its first or last character. -/
def suffixOf (name : String) : List Char :=
  match Text.cutLast? '.' name.toList with
  | some (stem, suffix) => if stem.isEmpty || suffix.isEmpty then [] else '.' :: suffix
  | none => []

end Path

end Conform
