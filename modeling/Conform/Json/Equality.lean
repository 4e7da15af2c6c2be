import Conform.Json.Value

/-!
# Equality of JSON values

Two values are equal when they denote the same JSON value: numbers by value, whatever their numerals, objects
whatever the order of their members, and values of different kinds never.  A signalling number makes the question
unanswerable (`none`), if the comparison gets to it.
-/

namespace Conform

/-- Every key on the left is a key on the right. -/
def keysWithin (ms ns : List (Scalar × Value)) : Bool :=
  ms.all fun m => ns.any fun n => n.1.sameKey m.1

/-- The objects have the same keys. -/
def sameKeys (ms ns : List (Scalar × Value)) : Bool := keysWithin ms ns && keysWithin ns ms

mutual

/-- The values are equal as JSON values. -/
def Value.equal? : Value → Value → Option Bool
  | .num m, .num n => m.equal? n
  | .bool a, .bool b => some (a == b)
  | .str s, .str t => some (s == t)
  | .null, .null => some true
  | .obj ms, .obj ns => if sameKeys ms ns then membersEqual? ms ns else some false
  | .arr vs, .arr ws => if vs.length == ws.length then itemsEqual? vs ws else some false
  | _, _ => some false

/-- Each member on the left equals the one of the same key on the right. -/
def membersEqual? : List (Scalar × Value) → List (Scalar × Value) → Option Bool
  | [], _ => some true
  | (k, v) :: rest, ns =>
    match lookupKey k ns with
    | none => some false
    | some w =>
      match v.equal? w with
      | some true => membersEqual? rest ns
      | r => r

/-- Items at the same place are equal. -/
def itemsEqual? : List Value → List Value → Option Bool
  | v :: vs, w :: ws =>
    match v.equal? w with
    | some true => itemsEqual? vs ws
    | r => r
  | _, _ => some true

end

/-- One of the listed values equals `v`; the first comparison that has no answer ends the search. -/
def memberOf? (v : Value) : List Value → Option Bool
  | [] => some false
  | w :: ws =>
    match v.equal? w with
    | some false => memberOf? v ws
    | r => r

/-- Two items of the array are equal: each item is compared with those before it. -/
def hasRepeat? : List Value → List Value → Option Bool
  | _, [] => some false
  | before, v :: rest =>
    match memberOf? v before with
    | some false => hasRepeat? (before ++ [v]) rest
    | r => r

end Conform
