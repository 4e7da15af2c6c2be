import Conform.Format.Standard
import Conform.Json.Writer
import Conform.Pointer
import Conform.Schema.EvalError

/-!
# Validator trees

A schema is compiled to a tree of nodes, each of which knows its `Site`: the URI in force and the location in the
document.  Nodes that stand for a keyword report below the location they are given, under that keyword
(`Node.place`); constants, groups and conditionals report at the location itself.

Constraints on a single value that look at no other node are gathered in `Constraint`.
-/

namespace Conform

/-- Where a node comes from. -/
structure Site where
  uri : Option String := none
  path : Pointer := .root
  deriving DecidableEq, Repr, Inhabited

/-- The text of a location under the URI of a site. -/
def Site.absoluteOf? (site : Site) (path : Pointer) : Option String :=
  site.uri.map (· ++ path.schemaFragment)

/-- The text of the site itself, if it has a URI. -/
def Site.absolute? (site : Site) : Option String := site.absoluteOf? site.path

/-- How many of the subschemas of a combination must accept. -/
inductive Counting where
  | all
  | any
  | one
  deriving DecidableEq, Repr

/-- What a number must be to a bound. -/
inductive Relation where
  | multipleOf
  | atMost
  | below
  | atLeast
  | above
  deriving DecidableEq, Repr

/-- What is counted by a limit on size. -/
inductive Sized where
  | properties
  | items
  | characters
  deriving DecidableEq, Repr

/-- A test of a caller's own, which may fail. -/
structure Check where
  answer : Value → Except EvalError Bool

instance : Repr Check := ⟨fun _ _ => "a check"⟩

/-- A constraint on a value that involves no other schema. -/
inductive Constraint where
  | type (names : List String)
  | enum (values : List Value)
  | const (value : Value)
  | limit (keyword : String) (relation : Relation) (bound : Number)
  /-- At least (`lower`) or at most so many parts. -/
  | size (sized : Sized) (keyword : String) (lower : Bool) (bound : Int)
  | pattern (regex : Regex)
  | format (name : String) (format : StandardFormat)
  /-- A format that a caller has a test for. -/
  | checked (name checker : String) (check : Check)
  | uniqueItems
  /-- A default, which constrains nothing. -/
  | default (value : Value)
  /-- An unknown keyword with the extension mark, which constrains nothing. -/
  | extension (key : String) (value : Value)
  deriving Repr

/-- The keyword of a constraint. -/
def Constraint.keyword : Constraint → String
  | .type _ => "type"
  | .enum _ => "enum"
  | .const _ => "const"
  | .limit keyword _ _ => keyword
  | .size _ keyword _ _ => keyword
  | .pattern _ => "pattern"
  | .format _ _ | .checked .. => "format"
  | .uniqueItems => "uniqueItems"
  | .default _ => "default"
  | .extension key _ => key

/-- A validator tree. -/
inductive Node where
  /-- A schema that accepts everything or nothing. -/
  | constant (site : Site) (allows : Bool)
  | not (site : Site) (child : Node)
  | combine (site : Site) (keyword : String) (counting : Counting) (children : List Node)
  /-- All keywords of one schema object. -/
  | group (site : Site) (children : List Node) (title description dialect : Option String)
  | conditional (site : Site) (condition : Node) (thenBranch elseBranch : Option Node)
  | reference (site : Site) (target : Node) (fragment : Option String)
  | properties (site : Site) (entries : List (Scalar × Node))
  | patternProperties (site : Site) (entries : List (Regex × Node))
  /-- A schema for the members that are neither among the names nor matched by a pattern. -/
  | additionalProperties (site : Site) (schema : Node) (names : List Scalar) (patterns : List Regex)
  | propertyNames (site : Site) (schema : Node)
  | required (site : Site) (names : List String)
  | items (site : Site) (schema : Node)
  | itemsTuple (site : Site) (schemas : List Node)
  /-- A schema for the items beyond a tuple, if there is one. -/
  | additionalItems (site : Site) (schema : Node) (tupleSize : Nat) (applies : Bool)
  | contains (site : Site) (schema : Node) (minimum maximum : Option Int)
  | leaf (site : Site) (constraint : Constraint)
  /-- A format that stands for the conjunction of constraints. -/
  | delegatedFormat (site : Site) (name checker : String) (constraints : List Node)
  /-- What a handler has made of a keyword of its own. -/
  | delegating (site : Site) (key : String) (inner : Node)
  /-- A node of no kind, which cannot be evaluated. -/
  | bare (site : Site)
  deriving Repr, Inhabited

namespace Node

/-- The site of a node. -/
def site : Node → Site
  | .constant s .. | .not s .. | .combine s .. | .group s .. | .conditional s .. | .reference s ..
  | .properties s .. | .patternProperties s .. | .additionalProperties s .. | .propertyNames s ..
  | .required s .. | .items s .. | .itemsTuple s .. | .additionalItems s .. | .contains s .. | .leaf s ..
  | .delegatedFormat s .. | .delegating s .. | .bare s => s

/-- The keyword that a node stands for. -/
def keyword? : Node → Option String
  | .constant .. | .group .. | .conditional .. | .bare .. => none
  | .not .. => some "not"
  | .combine _ keyword .. => some keyword
  | .reference .. => some "$ref"
  | .properties .. => some "properties"
  | .patternProperties .. => some "patternProperties"
  | .additionalProperties .. => some "additionalProperties"
  | .propertyNames .. => some "propertyNames"
  | .required .. => some "required"
  | .items .. | .itemsTuple .. => some "items"
  | .additionalItems .. => some "additionalItems"
  | .contains .. => some "contains"
  | .leaf _ c => some c.keyword
  | .delegatedFormat .. => some "format"
  | .delegating _ key _ => some key

/-- Where a node reports that is evaluated at a location. -/
def place (node : Node) (location : Pointer) : Pointer :=
  match node.keyword? with
  | some keyword => location.child keyword
  | none => location

/-- The title of a schema. -/
def title? : Node → Option String
  | .group _ _ title _ _ => title
  | _ => none

/-- The description of a schema. -/
def description? : Node → Option String
  | .group _ _ _ description _ => description
  | _ => none

end Node

/-- What a caller has for a format. -/
inductive FormatChecker where
  /-- A test of its own. -/
  | test (name : String) (check : Check)
  /-- The conjunction of constraints. -/
  | delegating (name : String) (constraints : List Node)
  deriving Repr

/-- The location of the member under a key of any kind. -/
def Pointer.key (p : Pointer) (key : Scalar) : Pointer := p.child key.words

end Conform
