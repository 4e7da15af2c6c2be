import Conform.Schema.Constraint

/-!
# Acceptance

`Node.accepts` tells whether a tree accepts a value.  Children are asked in order and no further than the answer
needs, so an error behind a decided answer does not show.
-/

namespace Conform

/-- The test holds of all, asked in order up to the first that fails. -/
def allOk {α : Type} (test : α → Except EvalError Bool) : List α → Except EvalError Bool
  | [] => .ok true
  | a :: rest => do
    if ← test a then allOk test rest
    else return false

/-- The number of those of which the test holds. -/
def countOk {α : Type} (test : α → Except EvalError Bool) : List α → Except EvalError Nat
  | [] => .ok 0
  | a :: rest => do
    let here ← test a
    let others ← countOk test rest
    return (if here then 1 else 0) + others

/-- The key is matched by the pattern. -/
def matchesKey (regex : Regex) : Scalar → Except EvalError Bool
  | .str s => .ok (regex.pattern.search s.toList)
  | key => .error (.keyNotText key)

/-- One of the patterns matches the key. -/
def matchesAny (key : Scalar) : List Regex → Except EvalError Bool
  | [] => .ok false
  | regex :: rest => do
    if ← matchesKey regex key then return true
    else matchesAny key rest

/-- The key is neither among the names nor matched by a pattern. -/
def isAdditional (names : List Scalar) (patterns : List Regex) (key : Scalar) : Except EvalError Bool :=
  if names.any (·.sameKey key) then .ok false else (matchesAny key patterns).map (!·)

/-- The items beyond a tuple, if there is one. -/
def itemsBeyond {α : Type} (tupleSize : Nat) (applies : Bool) (items : List α) : List α :=
  if applies then items.drop tupleSize else []

/-- What is wrong with the number of items that a `contains` accepts: the keyword beside it that is violated, if
any, and the message. -/
def containsProblem? (minimum maximum : Option Int) (count : Nat) : Option (Option String × Message) :=
  if count == 0 then some (none, .containsNone)
  else
    match minimum.filter ((count : Int) < ·), maximum.filter (· < (count : Int)) with
    | some m, _ => some (some "minContains", .containsFew m count)
    | none, some m => some (some "maxContains", .containsMany m count)
    | none, none => none

/-- What is wrong with the number of items that a `contains` accepts, put into words. -/
def toldProblem? (minimum maximum : Option Int) (count : Nat) : Except EvalError (Option (Option String × Message)) :=
  let problem := containsProblem? minimum maximum count
  (Message.written (problem.map (·.2))).map fun _ => problem

/-- The object has a member under the key. -/
def hasKey (key : Scalar) (members : List (Scalar × Value)) : Bool := (lookupKey key members).isSome

namespace Node

mutual

/-- The tree accepts the value. -/
def accepts : Node → Value → Except EvalError Bool
  | .constant _ allows, _ => .ok allows
  | .not _ child, v => (child.accepts v).map (!·)
  | .combine _ _ .all children, v => acceptsAll children v
  | .combine _ _ .any children, v => acceptsAny children v
  | .combine _ _ .one children, v => acceptsOne false children v
  | .group _ children _ _ _, v => acceptsAll children v
  | .conditional _ condition thenBranch elseBranch, v => do
    if ← condition.accepts v then acceptsBranch thenBranch v
    else acceptsBranch elseBranch v
  | .reference _ target _, v => target.accepts v
  | .properties _ entries, v =>
    match v with
    | .obj ms => acceptsEntries entries ms
    | _ => .ok true
  | .patternProperties _ entries, v =>
    match v with
    | .obj ms => acceptsMatches entries ms
    | _ => .ok true
  | .additionalProperties _ schema names patterns, v =>
    match v with
    | .obj ms => allOk (fun m => do
        if ← isAdditional names patterns m.1 then schema.accepts m.2
        else return true) ms
    | _ => .ok true
  | .propertyNames _ schema, v =>
    match v with
    | .obj ms => allOk (fun m => schema.accepts (.scalar m.1)) ms
    | _ => .ok true
  | .required _ names, v =>
    match v with
    | .obj ms => .ok (names.all fun name => hasKey (.str name) ms)
    | _ => .ok true
  | .items _ schema, v =>
    match v with
    | .arr vs => allOk (fun w => schema.accepts w) vs
    | _ => .ok true
  | .itemsTuple _ schemas, v =>
    match v with
    | .arr vs => acceptsTuple schemas vs
    | _ => .ok true
  | .additionalItems _ schema tupleSize applies, v =>
    match v with
    | .arr vs => allOk (fun w => schema.accepts w) (itemsBeyond tupleSize applies vs)
    | _ => .ok true
  | .contains _ schema minimum maximum, v =>
    match v with
    | .arr vs => do
      let count ← countOk (fun w => schema.accepts w) vs
      return (← toldProblem? minimum maximum count).isNone
    | _ => .ok true
  | .leaf _ constraint, v => (constraint.failure? v).map (·.isNone)
  | .delegatedFormat _ name _ constraints, v => do
    return (← Message.written (if ← acceptsAll constraints v then none else some (.format name v))).isNone
  | .delegating _ _ inner, v => inner.accepts v
  | .bare _, _ => .error (.bare .boolean)

/-- All trees accept the value. -/
def acceptsAll : List Node → Value → Except EvalError Bool
  | [], _ => .ok true
  | node :: rest, v => do
    if ← node.accepts v then acceptsAll rest v
    else return false

/-- One of the trees accepts the value. -/
def acceptsAny : List Node → Value → Except EvalError Bool
  | [], _ => .ok false
  | node :: rest, v => do
    if ← node.accepts v then return true
    else acceptsAny rest v

/-- Exactly one tree accepts the value, where `found` says that one before did. -/
def acceptsOne (found : Bool) : List Node → Value → Except EvalError Bool
  | [], _ => .ok found
  | node :: rest, v => do
    if ← node.accepts v then
      if found then return false
      else acceptsOne true rest v
    else acceptsOne found rest v

/-- The branch of a conditional accepts the value; a missing one accepts every value. -/
def acceptsBranch : Option Node → Value → Except EvalError Bool
  | none, _ => .ok true
  | some node, v => node.accepts v

/-- The members that have a schema of their own are accepted by it. -/
def acceptsEntries : List (Scalar × Node) → List (Scalar × Value) → Except EvalError Bool
  | [], _ => .ok true
  | (key, node) :: rest, ms =>
    match lookupKey key ms with
    | none => acceptsEntries rest ms
    | some v => do
      if ← node.accepts v then acceptsEntries rest ms
      else return false

/-- The members whose key a pattern matches are accepted by its schema. -/
def acceptsMatches : List (Regex × Node) → List (Scalar × Value) → Except EvalError Bool
  | [], _ => .ok true
  | (regex, node) :: rest, ms => do
    let here ← allOk (fun m => do
      if ← matchesKey regex m.1 then node.accepts m.2
      else return true) ms
    if here then acceptsMatches rest ms
    else return false

/-- The items are accepted by the schemas at their places. -/
def acceptsTuple : List Node → List Value → Except EvalError Bool
  | node :: nodes, v :: vs => do
    if ← node.accepts v then acceptsTuple nodes vs
    else return false
  | _, _ => .ok true

end

/-- What a value is told that a constraint does not accept; nodes of other kinds have no message of their own. -/
def failure? : Node → Value → Option (Except EvalError (Option Message))
  | .leaf _ constraint, v => some (constraint.failure? v)
  | .delegatedFormat _ name _ constraints, v =>
    some ((acceptsAll constraints v).bind fun ok => Message.written (if ok then none else some (.format name v)))
  | _, _ => none

end Node

end Conform
