import Conform.Number.Basic

/-!
# Values

What a document decodes to.  The keys of an object are scalars of any kind, since YAML mappings may have them, and
keep the order in which they were written.  A JSON value proper has text keys, no byte strings and no sets.

`Value.kind?` names the kind of a JSON value; `Value.member?` and `Value.items?` are the two ways into one.
-/

namespace Conform

/-- A value without parts. -/
inductive Scalar where
  | null
  | bool (b : Bool)
  | num (n : Number)
  | str (s : String)
  | bytes (bs : List UInt8)
  deriving DecidableEq, Repr, Inhabited

/-- A decoded value. -/
inductive Value where
  | scalar (s : Scalar)
  | arr (items : List Value)
  | obj (members : List (Scalar × Value))
  | set (elements : List Scalar)
  deriving Repr, Inhabited

mutual

/-- Whether two values are the same in every part. -/
def Value.decEq : (v w : Value) → Decidable (v = w)
  | .scalar s, .scalar t => decidable_of_iff (s = t) (by simp)
  | .arr vs, .arr ws => @decidable_of_iff _ (vs = ws) (by simp) (itemsDecEq vs ws)
  | .obj ms, .obj ns => @decidable_of_iff _ (ms = ns) (by simp) (membersDecEq ms ns)
  | .set ss, .set ts => decidable_of_iff (ss = ts) (by simp)
  | .scalar _, .arr _ | .scalar _, .obj _ | .scalar _, .set _ | .arr _, .scalar _ | .arr _, .obj _ | .arr _, .set _
  | .obj _, .scalar _ | .obj _, .arr _ | .obj _, .set _ | .set _, .scalar _ | .set _, .arr _ | .set _, .obj _ => isFalse nofun

/-- Whether items are the same. -/
def itemsDecEq : (vs ws : List Value) → Decidable (vs = ws)
  | [], [] => isTrue rfl
  | v :: vs, w :: ws =>
    @decidable_of_iff _ (v = w ∧ vs = ws) (by simp) (@instDecidableAnd _ _ (v.decEq w) (itemsDecEq vs ws))
  | [], _ :: _ | _ :: _, [] => isFalse nofun

/-- Whether members are the same. -/
def membersDecEq : (ms ns : List (Scalar × Value)) → Decidable (ms = ns)
  | [], [] => isTrue rfl
  | (key, v) :: ms, (key', w) :: ns =>
    @decidable_of_iff _ (key = key' ∧ v = w ∧ ms = ns) (by simp [and_assoc])
      (@instDecidableAnd _ _ inferInstance (@instDecidableAnd _ _ (v.decEq w) (membersDecEq ms ns)))
  | [], _ :: _ | _ :: _, [] => isFalse nofun

end

instance : DecidableEq Value := Value.decEq

namespace Value

@[match_pattern] abbrev null : Value := .scalar .null
@[match_pattern] abbrev bool (b : Bool) : Value := .scalar (.bool b)
@[match_pattern] abbrev num (n : Number) : Value := .scalar (.num n)
@[match_pattern] abbrev str (s : String) : Value := .scalar (.str s)
@[match_pattern] abbrev bytes (bs : List UInt8) : Value := .scalar (.bytes bs)

/-- An integer as a value. -/
abbrev int (n : Int) : Value := .num (.int n)

/-- An object with text keys. -/
def ofPairs (pairs : List (String × Value)) : Value := .obj (pairs.map fun (k, v) => (.str k, v))

/-- The value is an object. -/
def isObject : Value → Bool
  | .obj _ => true
  | _ => false

/-- The value is an array. -/
def isArray : Value → Bool
  | .arr _ => true
  | _ => false

/-- The number, if the value is one. -/
def number? : Value → Option Number
  | .num n => some n
  | _ => none

/-- The text, if the value is one. -/
def text? : Value → Option String
  | .str s => some s
  | _ => none

/-- The items, if the value is an array. -/
def items? : Value → Option (List Value)
  | .arr vs => some vs
  | _ => none

/-- The members, if the value is an object. -/
def members? : Value → Option (List (Scalar × Value))
  | .obj ms => some ms
  | _ => none

end Value

namespace Scalar

/-- The number that a scalar stands for where scalars serve as keys: there a boolean is one or zero. -/
def keyNumber? : Scalar → Option Number
  | .bool b => some (.int (if b then 1 else 0))
  | .num n => some n
  | _ => none

/-- The two scalars are one key: alike, or of equal number. -/
def sameKey (a b : Scalar) : Bool :=
  match a, b with
  | .str s, .str t => s == t
  | .null, .null => true
  | .bytes s, .bytes t => s == t
  | a, b =>
    match a.keyNumber?, b.keyNumber? with
    | some m, some n =>
      !m.toDecimal.isSignalling && !n.toDecimal.isSignalling &&
        m.toDecimal.compare? n.toDecimal == some .eq
    | _, _ => false

theorem sameKey_str {s t : String} : sameKey (.str s) (.str t) = (s == t) := rfl

end Scalar

/-- The value of the first member with the given key. -/
def lookupKey (key : Scalar) : List (Scalar × Value) → Option Value
  | [] => none
  | (k, v) :: rest => if k.sameKey key then some v else lookupKey key rest

/-- The members with `key` set to `value`: in its place if the key is there, and else at the end. -/
def setKey (key : Scalar) (value : Value) : List (Scalar × Value) → List (Scalar × Value)
  | [] => [(key, value)]
  | (k, v) :: rest => if k.sameKey key then (k, value) :: rest else (k, v) :: setKey key value rest

namespace Value

/-- The member of an object under a text key. -/
def member? (name : String) : Value → Option Value
  | .obj ms => lookupKey (.str name) ms
  | _ => none

/-- An object has a member under a text key. -/
def hasMember (name : String) (v : Value) : Bool := (v.member? name).isSome

/-- The kind of a JSON value; an integer is a number. -/
def kind? : Value → Option String
  | .null => some "null"
  | .bool _ => some "boolean"
  | .num _ => some "number"
  | .str _ => some "string"
  | .bytes _ => none
  | .arr _ => some "array"
  | .obj _ => some "object"
  | .set _ => none

/-- The value is a number that is an integer. -/
def isInteger (v : Value) : Bool :=
  match v with
  | .num n => n.isInteger
  | _ => false

end Value

end Conform
