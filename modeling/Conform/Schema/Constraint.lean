import Conform.Json.Equality
import Conform.Regex.Match
import Conform.Schema.Message

/-!
# Constraints

What a value that a constraint does not accept is told (`Constraint.failure?`): the constraint is asked first, and its
refusal is then put into words.  Each constraint lets values of other kinds than its own pass.
-/

namespace Conform

/-- Why a comparison with a signalling number fails. -/
def EvalError.signalling : EvalError := .arithmetic .invalid

/-- The answer to a comparison. -/
def answered (answer : Option Bool) : Except EvalError Bool :=
  match answer with
  | some b => .ok b
  | none => .error .signalling

/-- The value is of the named type. -/
def hasType (name : String) (v : Value) : Except EvalError Bool :=
  if name == "integer" then .ok v.isInteger
  else
    match v.kind? with
    | some kind => .ok (kind == name)
    | none => .error (.notJson v)

/-- The value is of one of the named types. -/
def hasTypeIn : List String → Value → Except EvalError Bool
  | [], _ => .ok false
  | name :: names, v => do
    if ← hasType name v then return true
    else hasTypeIn names v

/-- The exact number stands in the relation to the bound. -/
def Relation.holds (r : Relation) (n bound : Number) : Except ArithmeticFault Bool :=
  match r with
  | .multipleOf => n.isMultipleOf bound
  | .atMost => (n.order bound).map fun o => o == some .lt || o == some .eq
  | .below => (n.order bound).map (· == some .lt)
  | .atLeast => (n.order bound).map fun o => o == some .gt || o == some .eq
  | .above => (n.order bound).map (· == some .gt)

/-- The number of parts of a value of the right kind. -/
def Sized.count? : Sized → Value → Option Nat
  | .properties, .obj ms => some ms.length
  | .items, .arr vs => some vs.length
  | .characters, .str s => some s.length
  | _, _ => none

/-- A test of texts, which lets all other values pass. -/
def Check.ofTexts (test : String → Except EvalError Bool) : Check where
  answer
    | .str s => test s
    | _ => .ok true

/-- A standard format as a test of a caller's. -/
def Check.ofStandard (standard : StandardFormat) : Check where
  answer v := (standard.accepts v).mapError (.pattern (v.text?.getD ""))

namespace Constraint

/-- A message if the test fails. -/
def failing (ok : Bool) (message : Message) : Option Message := if ok then none else some message

/-- What the constraint has to say against a value. -/
def refusal? (c : Constraint) (v : Value) : Except EvalError (Option Message) :=
  match c with
  | .type names => (hasTypeIn names v).map (failing · (.wrongType names))
  | .enum values => (answered (memberOf? v values)).map (failing · (.notInEnum v))
  | .const value => (answered (v.equal? value)).map (failing · (.notConstant v))
  | .limit keyword relation bound =>
    match v with
    | .num n =>
      if n.isFinite then
        match relation.holds n.exact bound with
        | .ok holds => .ok (failing holds (.limit keyword bound n))
        | .error fault => .error (.arithmetic fault)
      else .ok (some (.limit keyword bound n))
    | _ => .ok none
  | .size sized keyword lower bound =>
    match sized.count? v with
    | some count =>
      .ok (failing (if lower then bound ≤ count else count ≤ bound) (.size sized keyword bound count))
    | none => .ok none
  | .pattern regex =>
    match v with
    | .str s => .ok (failing (regex.pattern.search s.toList) (.pattern regex.text v))
    | _ => .ok none
  | .format name standard =>
    match standard.accepts v with
    | .ok ok => .ok (failing ok (.format name v))
    | .error e => .error (.pattern (v.text?.getD "") e)
  | .checked name _ check => (check.answer v).map (failing · (.format name v))
  | .uniqueItems =>
    match v with
    | .arr vs => (answered (hasRepeat? [] vs)).map fun repeated => failing (!repeated) .notUnique
    | _ => .ok none
  | .default _ => .ok none
  | .extension _ _ => .ok none

/-- What a value is told that the constraint does not accept. -/
def failure? (c : Constraint) (v : Value) : Except EvalError (Option Message) := (c.refusal? v).bind Message.written

end Constraint

end Conform
