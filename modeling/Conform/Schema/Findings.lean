import Conform.Schema.Acceptance

/-!
# Findings

`Node.findings` says whether a value is valid and, if not, lists everything that is wrong with it, flat and in
order.  A group and a combination put an entry of their own before those of their children.
-/

namespace Conform

/-- One thing that is wrong: which keyword says so, about which part of the value, and what it says. -/
structure Entry where
  keyword : Pointer
  absolute : Option String
  location : Pointer
  message : Message
  deriving Repr

/-- The members of an entry in a report. -/
def Entry.toValue (e : Entry) : Value :=
  .ofPairs <| [("keywordLocation", .str e.keyword.schemaFragment)] ++
    (match e.absolute with
      | some uri => [("absoluteKeywordLocation", .str uri)]
      | none => []) ++
    [("instanceLocation", .str e.location.schemaFragment), ("error", .str e.message.text)]

/-- What an evaluation finds: the verdict, and what is wrong. -/
structure Findings where
  valid : Bool
  entries : List Entry
  deriving Repr

namespace Findings

/-- Nothing is wrong. -/
def accepted : Findings := ⟨true, []⟩

/-- The value is not valid. -/
def rejected (entries : List Entry) : Findings := ⟨false, entries⟩

/-- What has to be said against the value. -/
def faults (f : Findings) : List Entry := if f.valid then [] else f.entries

/-- The findings with these entries: the value is valid if there are none. -/
def ofEntries (entries : List Entry) : Findings := if entries.isEmpty then accepted else rejected entries

/-- The report of findings. -/
def toValue (f : Findings) : Value :=
  .ofPairs <| ("valid", .bool f.valid) ::
    (if f.entries.isEmpty then [] else [("errors", .arr (f.entries.map Entry.toValue))])

end Findings

/-- The results of a function of each element and its index, put together. -/
def collect {α β : Type} (f : Nat → α → Except EvalError (List β)) (start : Nat) :
    List α → Except EvalError (List β)
  | [] => .ok []
  | a :: rest => do
    let here ← f start a
    let others ← collect f (start + 1) rest
    return here ++ others

/-- So many acceptances out of a total satisfy the combination. -/
def Counting.satisfied (counting : Counting) (accepted total : Nat) : Bool :=
  match counting with
  | .all => accepted == total
  | .any => 0 < accepted
  | .one => accepted == 1

namespace Node

/-- What the node itself has to say. -/
def entry (node : Node) (relative location : Pointer) (message : Message) : Entry :=
  ⟨relative, node.site.absolute?, location, message⟩

/-- The entry of a `contains`, or of the keyword beside it that is violated. -/
def containsEntry (node : Node) (relative location : Pointer) : Option String × Message → Entry
  | (none, message) => node.entry relative location message
  | (some keyword, message) =>
    ⟨relative.sibling keyword, node.site.absoluteOf? (node.site.path.sibling keyword), location, message⟩

/-- The findings of a node that says one thing, if anything. -/
def findingsOf : Option Entry → Findings
  | none => .accepted
  | some entry => .rejected [entry]

/-- The findings of a node that puts an entry of its own before those of its children, if there are any. -/
def headed (node : Node) (relative location : Pointer) (message : Message) (entries : List Entry) : Findings :=
  if entries.isEmpty then .accepted else .rejected (node.entry relative location message :: entries)

/-- The entries about a part that a schema for additional parts is asked about. -/
def additional (node : Node) (relative location : Pointer) (message : Message) (f : Findings) : List Entry :=
  if f.valid then [] else node.entry relative location message :: f.entries

mutual

/-- What is wrong with the value at `location`, reported from `relative` on. -/
def findings : Node → Value → Pointer → Pointer → Except EvalError Findings
  | .constant site allows, _, relative, location =>
    .ok (findingsOf (if allows then none
      else some ((Node.constant site allows).entry relative location (.constantSchema false))))
  | .not site child, v, relative, location => do
    let f ← child.findings v relative location
    return findingsOf (if f.valid then some ((Node.not site child).entry relative location (.notSchema true))
      else none)
  | .combine site keyword counting children, v, relative, location => do
    let fs ← findingsIndexed 0 children v relative location
    let accepted := fs.countP (·.valid)
    if counting.satisfied accepted children.length then return .accepted
    else
      let message := .combination keyword false accepted children.length
      return .rejected
        ((Node.combine site keyword counting children).entry relative location message :: fs.flatMap (·.faults))
  | .group site children title description dialect, v, relative, location => do
    let entries ← findingsPlaced children v relative location
    return (Node.group site children title description dialect).headed relative location .subschemaErrors entries
  | .conditional _ condition thenBranch elseBranch, v, relative, location => do
    if ← condition.accepts v then findingsBranch thenBranch v (relative.child "then") location
    else findingsBranch elseBranch v (relative.child "else") location
  | .reference _ target _, v, relative, location => target.findings v relative location
  | .properties _ entries, v, relative, location =>
    match v with
    | .obj ms => (findingsEntries entries ms relative location).map .ofEntries
    | _ => .ok .accepted
  | .patternProperties _ entries, v, relative, location =>
    match v with
    | .obj ms => (findingsMatches entries ms relative location).map .ofEntries
    | _ => .ok .accepted
  | .additionalProperties site schema names patterns, v, relative, location =>
    match v with
    | .obj ms =>
      (collect (fun _ m => do
        if ← isAdditional names patterns m.1 then
          let here := location.key m.1
          return (Node.additionalProperties site schema names patterns).additional relative here
            (.additionalProperty m.1) (← schema.findings m.2 relative here)
        else return []) 0 ms).map .ofEntries
    | _ => .ok .accepted
  | .propertyNames _ schema, v, relative, location =>
    match v with
    | .obj ms =>
      (collect (fun _ m => do
        return (← schema.findings (.scalar m.1) relative (location.key m.1)).faults) 0 ms).map .ofEntries
    | _ => .ok .accepted
  | .required site names, v, relative, location =>
    match v with
    | .obj ms =>
      (collect (fun i name =>
        .ok (if hasKey (.str name) ms then []
          else [(Node.required site names).entry (relative.item i) location (.missingProperty name)]))
        0 names).map .ofEntries
    | _ => .ok .accepted
  | .items _ schema, v, relative, location =>
    match v with
    | .arr vs =>
      (collect (fun i w => do
        return (← schema.findings w relative (location.item i)).faults) 0 vs).map .ofEntries
    | _ => .ok .accepted
  | .itemsTuple _ schemas, v, relative, location =>
    match v with
    | .arr vs => (findingsTuple 0 schemas vs relative location).map .ofEntries
    | _ => .ok .accepted
  | .additionalItems site schema tupleSize applies, v, relative, location =>
    match v with
    | .arr vs =>
      (collect (fun i w => do
        let here := location.item i
        return (Node.additionalItems site schema tupleSize applies).additional relative here (.additionalItem i)
          (← schema.findings w relative here)) tupleSize (itemsBeyond tupleSize applies vs)).map .ofEntries
    | _ => .ok .accepted
  | .contains site schema minimum maximum, v, relative, location =>
    match v with
    | .arr vs => do
      let count ← countOk (fun w => schema.accepts w) vs
      return findingsOf ((← toldProblem? minimum maximum count).map
        ((Node.contains site schema minimum maximum).containsEntry relative location))
    | _ => .ok .accepted
  | .leaf site constraint, v, relative, location => do
    return findingsOf ((← constraint.failure? v).map ((Node.leaf site constraint).entry relative location))
  | .delegatedFormat site name checker constraints, v, relative, location => do
    let node := Node.delegatedFormat site name checker constraints
    return findingsOf ((← Message.written (if ← acceptsAll constraints v then none else some (.format name v))).map
      (node.entry relative location))
  | .delegating _ _ inner, v, relative, location => inner.findings v relative location
  | .bare _, _, _, _ => .error (.bare .basic)

/-- What has to be said by children, each reported under its keyword. -/
def findingsPlaced : List Node → Value → Pointer → Pointer → Except EvalError (List Entry)
  | [], _, _, _ => .ok []
  | node :: rest, v, relative, location => do
    let here ← node.findings v (node.place relative) location
    let others ← findingsPlaced rest v relative location
    return here.faults ++ others

/-- The findings of children, each reported under its index. -/
def findingsIndexed (start : Nat) : List Node → Value → Pointer → Pointer → Except EvalError (List Findings)
  | [], _, _, _ => .ok []
  | node :: rest, v, relative, location => do
    let here ← node.findings v (relative.item start) location
    let others ← findingsIndexed (start + 1) rest v relative location
    return here :: others

/-- The findings of the branch of a conditional. -/
def findingsBranch : Option Node → Value → Pointer → Pointer → Except EvalError Findings
  | none, _, _, _ => .ok .accepted
  | some node, v, relative, location => node.findings v relative location

/-- What has to be said about the members that have a schema of their own. -/
def findingsEntries :
    List (Scalar × Node) → List (Scalar × Value) → Pointer → Pointer → Except EvalError (List Entry)
  | [], _, _, _ => .ok []
  | (key, node) :: rest, ms, relative, location =>
    match lookupKey key ms with
    | none => findingsEntries rest ms relative location
    | some v => do
      let here ← node.findings v (relative.key key) (location.key key)
      let others ← findingsEntries rest ms relative location
      return here.faults ++ others

/-- What has to be said about the members whose key a pattern matches. -/
def findingsMatches :
    List (Regex × Node) → List (Scalar × Value) → Pointer → Pointer → Except EvalError (List Entry)
  | [], _, _, _ => .ok []
  | (regex, node) :: rest, ms, relative, location => do
    let here ← collect (fun _ m => do
      if ← matchesKey regex m.1 then
        return (← node.findings m.2 (relative.child regex.text) (location.key m.1)).faults
      else return []) 0 ms
    let others ← findingsMatches rest ms relative location
    return here ++ others

/-- What has to be said about items that have schemas at their places. -/
def findingsTuple (start : Nat) :
    List Node → List Value → Pointer → Pointer → Except EvalError (List Entry)
  | node :: nodes, v :: vs, relative, location => do
    let here ← node.findings v (relative.item start) (location.item start)
    let others ← findingsTuple (start + 1) nodes vs relative location
    return here.faults ++ others
  | _, _, _, _ => .ok []

end

end Node

end Conform
