import Conform.Schema.Findings

/-!
# Outcomes

`Node.outcome` tells the whole story of an evaluation as a tree, of successes as well as of failures.  Where a
node has a single failing child the outcome is that child's; several are put under one of the node's own.
-/

namespace Conform

/-- The outcome of an evaluation at one location. -/
structure Outcome where
  valid : Bool
  keyword : Pointer
  absolute : Option String
  location : Pointer
  message : Message
  errors : List Outcome
  annotations : List Outcome
  deriving Repr

namespace Outcome

mutual

/-- The report of an outcome. -/
def toValue : Outcome → Value
  | ⟨valid, keyword, absolute, location, message, errors, annotations⟩ =>
    .ofPairs <| [("valid", .bool valid), ("keywordLocation", .str keyword.schemaFragment)] ++
      (match absolute with
        | some uri => [("absoluteKeywordLocation", .str uri)]
        | none => []) ++
      [("instanceLocation", .str location.schemaFragment),
        (if valid then "annotation" else "error", .str message.text)] ++
      reportList "errors" (toValues errors) ++ reportList "annotations" (toValues annotations)

/-- The reports of outcomes. -/
def toValues : List Outcome → List Value
  | [] => []
  | o :: rest => o.toValue :: toValues rest

/-- A member for a list, if there is something in it. -/
def reportList (name : String) (values : List Value) : List (String × Value) :=
  if values.isEmpty then [] else [(name, .arr values)]

end

end Outcome

namespace Node

/-- The outcome of a node that says `message`. -/
def told (node : Node) (valid : Bool) (relative location : Pointer) (message : Message)
    (errors annotations : List Outcome) : Outcome :=
  ⟨valid, relative, node.site.absolute?, location, message, errors, annotations⟩

/-- The outcome of a node whose failing children are `errors`. -/
def collapse (node : Node) (relative location : Pointer) (errors : List Outcome) (passed failed : Message) :
    Outcome :=
  match errors with
  | [] => node.told true relative location passed [] []
  | [error] => error
  | errors => node.told false relative location failed errors []

/-- The outcome of a node that makes a failing child a failure of its own. -/
def wrapped (node : Node) (relative location : Pointer) (message : Message) (child : Outcome) : List Outcome :=
  if child.valid then [] else [node.told false relative location message [child] []]

/-- The outcome, if it is a failure. -/
def failing (o : Outcome) : List Outcome := if o.valid then [] else [o]

/-- The outcome of a node that has a message only for failure. -/
def judged (node : Node) (relative location : Pointer) : Option Message → Outcome
  | none => node.told true relative location .success [] []
  | some message => node.told false relative location message [] []

mutual

/-- The outcome for the value at `location`, reported from `relative` on. -/
def outcome : Node → Value → Pointer → Pointer → Except EvalError Outcome
  | .constant site allows, _, relative, location =>
    .ok ((Node.constant site allows).told allows relative location (.constantSchema allows) [] [])
  | .not site child, v, relative, location => do
    let node := Node.not site child
    let o ← child.outcome v relative location
    return if o.valid then node.told false relative location (.notSchema true) [] [o]
      else node.told true relative location (.notSchema false) [o] []
  | .combine site keyword counting children, v, relative, location => do
    let outcomes ← outcomesIndexed 0 children v relative location
    let (annotations, errors) := outcomes.partition (·.valid)
    let valid := counting.satisfied annotations.length children.length
    return (Node.combine site keyword counting children).told valid relative location
      (.combination keyword valid annotations.length children.length) errors annotations
  | .group site children title description dialect, v, relative, location => do
    let errors ← failuresPlaced children v relative location
    return (Node.group site children title description dialect).collapse relative location errors .success
      .subschemaErrors
  | .conditional site condition thenBranch elseBranch, v, relative, location => do
    let node := Node.conditional site condition thenBranch elseBranch
    let tested ← condition.outcome v (relative.child "if") location
    let branch ←
      if tested.valid then outcomeBranch thenBranch v (relative.child "then") location
      else outcomeBranch elseBranch v (relative.child "else") location
    return match branch with
      | none => node.told true relative location (.condition tested.valid) [] [tested]
      | some o =>
        if o.valid then node.told true relative location (.condition tested.valid) [] [tested, o]
        else node.told false relative location .subschemaErrors [o] [tested]
  | .reference site target fragment, v, relative, location => do
    let node := Node.reference site target fragment
    let o ← target.outcome v relative location
    return node.told o.valid relative location (.reference o.valid) (failing o) []
  | .properties site entries, v, relative, location => do
    let node := Node.properties site entries
    match v with
    | .obj ms =>
      let errors ← failuresEntries entries ms relative location
      return node.collapse relative location errors (.properties true) (.properties false)
    | _ => return node.told true relative location .notObject [] []
  | .patternProperties site entries, v, relative, location => do
    let node := Node.patternProperties site entries
    match v with
    | .obj ms =>
      let errors ← failuresMatches entries ms relative location
      return node.collapse relative location errors (.patternProperties true) (.patternProperties false)
    | _ => return node.told true relative location .notObject [] []
  | .additionalProperties site schema names patterns, v, relative, location => do
    let node := Node.additionalProperties site schema names patterns
    match v with
    | .obj ms =>
      let errors ← collect (fun _ m => do
        if ← isAdditional names patterns m.1 then
          let here := location.key m.1
          return node.wrapped relative here (.additionalProperty m.1) (← schema.outcome m.2 relative here)
        else return []) 0 ms
      return node.collapse relative location errors (.additionalProperties true) (.additionalProperties false)
    | _ => return node.told true relative location .notObject [] []
  | .propertyNames site schema, v, relative, location => do
    let node := Node.propertyNames site schema
    match v with
    | .obj ms =>
      let errors ← collect (fun _ m => do
        return failing (← schema.outcome (.scalar m.1) relative (location.key m.1))) 0 ms
      return node.collapse relative location errors (.propertyNames true) (.propertyNames false)
    | _ => return node.told true relative location .notObject [] []
  | .required site names, v, relative, location => do
    let node := Node.required site names
    match v with
    | .obj ms =>
      let errors ← collect (fun i name =>
        .ok (if hasKey (.str name) ms then []
          else [node.told false (relative.item i) location (.missingProperty name) [] []])) 0 names
      return node.collapse relative location errors (.required true) (.required false)
    | _ => return node.told true relative location .notObject [] []
  | .items site schema, v, relative, location => do
    let node := Node.items site schema
    match v with
    | .arr vs =>
      let errors ← collect (fun i w => do
        return failing (← schema.outcome w relative (location.item i))) 0 vs
      return node.collapse relative location errors (.items true) (.items false)
    | _ => return node.told true relative location .notArray [] []
  | .itemsTuple site schemas, v, relative, location => do
    let node := Node.itemsTuple site schemas
    match v with
    | .arr vs =>
      let errors ← failuresTuple 0 schemas vs relative location
      return node.collapse relative location errors (.items true) (.items false)
    | _ => return node.told true relative location .notArray [] []
  | .additionalItems site schema tupleSize applies, v, relative, location => do
    let node := Node.additionalItems site schema tupleSize applies
    match v with
    | .arr vs =>
      let errors ← collect (fun i w => do
        let here := location.item i
        return node.wrapped relative here (.additionalItem i) (← schema.outcome w relative here)) tupleSize
          (itemsBeyond tupleSize applies vs)
      return node.collapse relative location errors (.additionalItems true) (.additionalItems false)
    | _ => return node.told true relative location .notArray [] []
  | .contains site schema minimum maximum, v, relative, location => do
    let node := Node.contains site schema minimum maximum
    match v with
    | .arr vs =>
      let count ← countOk (fun w => schema.accepts w) vs
      return node.judged relative location ((← toldProblem? minimum maximum count).map (·.2))
    | _ => return node.judged relative location none
  | .leaf site constraint, v, relative, location => do
    return (Node.leaf site constraint).judged relative location (← constraint.failure? v)
  | .delegatedFormat site name checker constraints, v, relative, location => do
    let node := Node.delegatedFormat site name checker constraints
    return node.judged relative location
      (← Message.written (if ← acceptsAll constraints v then none else some (.format name v)))
  | .delegating _ _ inner, v, relative, location => inner.outcome v relative location
  | .bare _, _, _, _ => .error (.bare .detailed)

/-- The failures among children, each reported under its keyword. -/
def failuresPlaced : List Node → Value → Pointer → Pointer → Except EvalError (List Outcome)
  | [], _, _, _ => .ok []
  | node :: rest, v, relative, location => do
    let here ← node.outcome v (node.place relative) location
    let others ← failuresPlaced rest v relative location
    return failing here ++ others

/-- The outcomes of children, each reported under its index. -/
def outcomesIndexed (start : Nat) : List Node → Value → Pointer → Pointer → Except EvalError (List Outcome)
  | [], _, _, _ => .ok []
  | node :: rest, v, relative, location => do
    let here ← node.outcome v (relative.item start) location
    let others ← outcomesIndexed (start + 1) rest v relative location
    return here :: others

/-- The outcome of the branch of a conditional, if there is one. -/
def outcomeBranch : Option Node → Value → Pointer → Pointer → Except EvalError (Option Outcome)
  | none, _, _, _ => .ok none
  | some node, v, relative, location => (node.outcome v relative location).map some

/-- The failures of members that have a schema of their own. -/
def failuresEntries :
    List (Scalar × Node) → List (Scalar × Value) → Pointer → Pointer → Except EvalError (List Outcome)
  | [], _, _, _ => .ok []
  | (key, node) :: rest, ms, relative, location =>
    match lookupKey key ms with
    | none => failuresEntries rest ms relative location
    | some v => do
      let here ← node.outcome v (relative.key key) (location.key key)
      let others ← failuresEntries rest ms relative location
      return failing here ++ others

/-- The failures of members whose key a pattern matches. -/
def failuresMatches :
    List (Regex × Node) → List (Scalar × Value) → Pointer → Pointer → Except EvalError (List Outcome)
  | [], _, _, _ => .ok []
  | (regex, node) :: rest, ms, relative, location => do
    let here ← collect (fun _ m => do
      if ← matchesKey regex m.1 then
        return failing (← node.outcome m.2 (relative.child regex.text) (location.key m.1))
      else return []) 0 ms
    let others ← failuresMatches rest ms relative location
    return here ++ others

/-- The failures of items that have schemas at their places. -/
def failuresTuple (start : Nat) :
    List Node → List Value → Pointer → Pointer → Except EvalError (List Outcome)
  | node :: nodes, v :: vs, relative, location => do
    let here ← node.outcome v (relative.item start) (location.item start)
    let others ← failuresTuple (start + 1) nodes vs relative location
    return failing here ++ others
  | _, _, _, _ => .ok []

end

end Node

end Conform
