import Conform.Text.Base64
import Conform.Yaml.Number
import Conform.Yaml.Tree

/-!
# Values of YAML documents

`Yaml.read` turns a text into a value.  Timestamps stay texts, a mapping may have keys of any scalar type, and the
mappings under a merge key come before the entries of the mapping itself, which take precedence.

Of several faults in the values of a document the least deep one counts, and of those equally deep the first; so a
result carries the depth at which it fails (`Outcome`).
-/

namespace Conform.Yaml

/-- A value, or a fault with its depth below the node. -/
abbrev Found (α : Type) := Except (Nat × Fault) α

namespace Found

/-- A result that may fail at the node itself. -/
def here {α : Type} (x : Except Fault α) : Found α := x.mapError (0, ·)

/-- A result that is found one level deeper. -/
def deeper {α : Type} (x : Found α) : Found α := x.mapError fun (depth, fault) => (depth + 1, fault)

/-- Two results put together. -/
def both {α β γ : Type} (f : α → β → γ) (x : Found α) (y : Found β) : Found γ :=
  match x, y with
  | .ok a, .ok b => .ok (f a b)
  | .error e, .ok _ => .error e
  | .ok _, .error e => .error e
  | .error e, .error e' => .error (if e'.1 < e.1 then e' else e)

/-- Results put together to a list. -/
def all {α : Type} : List (Found α) → Found (List α)
  | [] => .ok []
  | x :: rest => both List.cons x (all rest)

end Found

/-- The key and value of a mapping. -/
structure Pair where
  key : Found Value
  value : Found Value

/-- What is known of a node. -/
structure Meaning where
  tag : Tag
  value : Found Value
  /-- The text of a scalar. -/
  text : Except Fault String
  /-- The pairs of a mapping as written. -/
  pairs : Option (List Pair)
  /-- The pairs that the node adds to a mapping that it is merged into. -/
  merged : Except Fault (List Pair)

/-! ### Scalars -/

/-- The bytes that the text of a scalar denotes. -/
def binaryOf (text : String) : Except Fault (List UInt8) :=
  if text.toList.all (·.toNat < 128) then
    match Text.Base64.decode text.toList with
    | some bytes => .ok bytes
    | none => .error .binary
  else .error .binary

/-- The value of a text under a tag for scalars. -/
def scalarValue (tag : Tag) (text : String) : Except Fault Value :=
  match tag with
  | .null => .ok .null
  | .bool => (booleanOf text).map .bool
  | .int => (integerOf text).map .int
  | .float => (floatOf text).map .num
  | .binary => (binaryOf text).map .bytes
  | .timestamp | .str => .ok (.str text)
  | _ => .error .undefinedTag

/-- The tag is one of collections. -/
def Tag.isCollection : Tag → Bool
  | .omap | .pairs | .set | .seq | .map => true
  | _ => false

/-- The value of a node whose tag is one of scalars; a collection tag fails when the collection is filled. -/
def plainValue (tag : Tag) (text : Except Fault String) : Found Value :=
  if tag.isCollection then .error (1, .wrongKind)
  else
    match tag with
    | .merge | .value | .other _ => .error (0, .undefinedTag)
    | tag => .here (text.bind (scalarValue tag))

/-! ### Collections -/

/-- A key that the parts of a mapping must have: any scalar. -/
def keyOf (m : Meaning) : Found Value := if m.tag.isCollection then .error (0, .collectionKey) else m.value

/-- The pairs of a mapping, those merged into it first. -/
def flatten : List (Meaning × Meaning) → Except Fault (List Pair × List Pair)
  | [] => .ok ([], [])
  | (key, value) :: rest => do
    if key.tag == .merge then
      let here ← value.merged
      let (merged, own) ← flatten rest
      return (here ++ merged, own)
    else
      let (merged, own) ← flatten rest
      let k := if key.tag == .value then .here (key.text.map .str) else keyOf key
      return (merged, ⟨k, value.value⟩ :: own)

/-- The pairs of a mapping, those merged into it first. -/
def flattened (pairs : List (Meaning × Meaning)) : Except Fault (List Pair) :=
  (flatten pairs).map fun (merged, own) => merged ++ own

/-- The members that the pairs make. -/
def membersOf (pairs : List Pair) : Found (List (Scalar × Value)) :=
  let entries := pairs.map fun p => Found.both Prod.mk p.key p.value
  (Found.all entries).map fun entries =>
    entries.foldl (fun ms entry =>
      match entry.1 with
      | .scalar key => setKey key entry.2 ms
      | _ => ms) []

/-- The value of a mapping under a tag. -/
def mappingValue (tag : Tag) (pairs : List (Meaning × Meaning)) (text : Except Fault String) : Found Value :=
  let members := Found.deeper ((Found.here (flattened pairs)).bind membersOf)
  match tag with
  | .map => members.map .obj
  | .set => members.map fun ms => .set (ms.map (·.1))
  | tag => plainValue tag text

/-- The pair that an item of an ordered mapping is. -/
def singlePair (item : Meaning) : Found Value :=
  match item.pairs with
  | some [p] => Found.both (fun k v => .arr [k, v]) p.key p.value
  | _ => .error (0, .singlePair)

/-- The value of a sequence under a tag. -/
def sequenceValue (tag : Tag) (items : List Meaning) : Found Value :=
  match tag with
  | .seq => (Found.all (items.map (·.value))).deeper.map .arr
  | .omap | .pairs => (Found.all (items.map singlePair)).deeper.map .arr
  | tag => plainValue tag (.error .wrongKind)

/-- The pairs that the items of a sequence add to a mapping, those of the last item first. -/
def mergedItems : List Meaning → Except Fault (List Pair)
  | [] => .ok []
  | item :: rest => do
    if item.pairs.isNone then throw .merge
    let here ← item.merged
    return (← mergedItems rest) ++ here

/-! ### Nodes -/

mutual

/-- What is to be known of a node. -/
def Tree.meaning : Tree → Meaning
  | .scalar tag text =>
    { tag, value := plainValue tag (.ok text), text := .ok text, pairs := none, merged := .error .merge }
  | .sequence tag items =>
    let items := meanings items
    { tag, value := sequenceValue tag items, text := .error .wrongKind, pairs := none
      merged := mergedItems items }
  | .mapping tag pairs =>
    let text := valueText pairs
    let pairs := pairMeanings pairs
    { tag, value := mappingValue tag pairs text, text
      pairs := some (pairs.map fun (k, v) => ⟨k.value, v.value⟩), merged := flattened pairs }

/-- What is to be known of nodes. -/
def meanings : List Tree → List Meaning
  | [] => []
  | tree :: rest => tree.meaning :: meanings rest

/-- What is to be known of the keys and values of a mapping. -/
def pairMeanings : List (Tree × Tree) → List (Meaning × Meaning)
  | [] => []
  | (key, value) :: rest => (key.meaning, value.meaning) :: pairMeanings rest

/-- The text of the value that a mapping stands for. -/
def valueText : List (Tree × Tree) → Except Fault String
  | [] => .error .wrongKind
  | (key, value) :: rest => if key.tag == .value then value.meaning.text else valueText rest

end

/-- The value of a text. -/
def read (text : List Char) : Except Fault Value := do
  let tokens ← Token.ofText text
  match ← Tree.ofTokens tokens with
  | none => return .null
  | some tree => tree.meaning.value.mapError (·.2)

end Conform.Yaml
