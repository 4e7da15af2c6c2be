import Conform.Json.Equality
import Conform.Schema.Node

/-!
# Equality of trees

Two trees are alike if they have the same shape, the same sites and payloads that are equal as JSON values.
Formats that a caller has made are never alike.
-/

namespace Conform

/-- Two lists of values are equal item by item. -/
def valuesAlike (vs ws : List Value) : Bool := (Value.arr vs).equal? (.arr ws) == some true

/-- The constraints are alike. -/
def Constraint.alike : Constraint → Constraint → Bool
  | .type names, .type names' => names == names'
  | .enum values, .enum values' => valuesAlike values values'
  | .const value, .const value' => valuesAlike [value] [value']
  | .limit keyword _ bound, .limit keyword' _ bound' => keyword == keyword' && bound.equal? bound' == some true
  | .size sized keyword _ bound, .size sized' keyword' _ bound' =>
    sized == sized' && keyword == keyword' && bound == bound'
  | .pattern regex, .pattern regex' => regex.text == regex'.text
  | .format name f, .format name' f' => name == name' && f.name == f'.name
  | .uniqueItems, .uniqueItems => true
  | .default value, .default value' => valuesAlike [value] [value']
  | .extension key value, .extension key' value' => key == key' && valuesAlike [value] [value']
  | _, _ => false

/-- Two lists of keys are the same, key by key. -/
def keysAlike : List Scalar → List Scalar → Bool
  | [], [] => true
  | a :: as, b :: bs => a.sameKey b && keysAlike as bs
  | _, _ => false

namespace Node

mutual

/-- The trees are alike. -/
def alike : Node → Node → Bool
  | .constant s allows, .constant s' allows' => s == s' && allows == allows'
  | .not s child, .not s' child' => s == s' && child.alike child'
  | .combine s keyword _ children, .combine s' keyword' _ children' =>
    s == s' && keyword == keyword' && allAlike children children'
  | .group s children title description dialect, .group s' children' title' description' dialect' =>
    s == s' && title == title' && description == description' && dialect == dialect' && allAlike children children'
  | .conditional s condition thenBranch elseBranch, .conditional s' condition' thenBranch' elseBranch' =>
    s == s' && condition.alike condition' && bothAlike thenBranch thenBranch' && bothAlike elseBranch elseBranch'
  | .reference s target fragment, .reference s' target' fragment' =>
    s == s' && fragment == fragment' && target.alike target'
  | .properties s entries, .properties s' entries' => s == s' && entriesAlike entries entries'
  | .patternProperties s entries, .patternProperties s' entries' => s == s' && patternsAlike entries entries'
  | .additionalProperties s schema names patterns, .additionalProperties s' schema' names' patterns' =>
    s == s' && keysAlike names names' && patterns.map (·.text) == patterns'.map (·.text) && schema.alike schema'
  | .propertyNames s schema, .propertyNames s' schema' => s == s' && schema.alike schema'
  | .required s names, .required s' names' => s == s' && names == names'
  | .items s schema, .items s' schema' => s == s' && schema.alike schema'
  | .itemsTuple s schemas, .itemsTuple s' schemas' => s == s' && allAlike schemas schemas'
  | .additionalItems s schema size applies, .additionalItems s' schema' size' applies' =>
    s == s' && size == size' && applies == applies' && schema.alike schema'
  | .contains s schema minimum maximum, .contains s' schema' minimum' maximum' =>
    s == s' && minimum == minimum' && maximum == maximum' && schema.alike schema'
  | .leaf s constraint, .leaf s' constraint' => s == s' && constraint.alike constraint'
  | .delegating s key inner, .delegating s' key' inner' => s == s' && key == key' && inner.alike inner'
  | .bare s, .bare s' => s == s'
  | _, _ => false

/-- The trees are alike one by one. -/
def allAlike : List Node → List Node → Bool
  | [], [] => true
  | a :: as, b :: bs => a.alike b && allAlike as bs
  | _, _ => false

/-- Both trees are missing, or they are alike. -/
def bothAlike : Option Node → Option Node → Bool
  | none, none => true
  | some a, some b => a.alike b
  | _, _ => false

/-- The keys are the same and the trees alike, one by one. -/
def entriesAlike : List (Scalar × Node) → List (Scalar × Node) → Bool
  | [], [] => true
  | (key, a) :: as, (key', b) :: bs => key.sameKey key' && a.alike b && entriesAlike as bs
  | _, _ => false

/-- The patterns are the same and the trees alike, one by one. -/
def patternsAlike : List (Regex × Node) → List (Regex × Node) → Bool
  | [], [] => true
  | (regex, a) :: as, (regex', b) :: bs => regex.text == regex'.text && a.alike b && patternsAlike as bs
  | _, _ => false

end

end Node

end Conform
