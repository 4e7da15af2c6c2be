import Conform.Json.Value
import Conform.Text.Blank
import Conform.Text.Case
import Conform.Yaml.Tag

/-!
# Scalars with a type

What the text of a scalar that claims a type stands for.  Underscores in numbers do not count.  A float is a
decimal numeral where its text is one, and a double where it is infinite, undefined or sexagesimal.
-/

namespace Conform.Yaml

/-- The text without underscores. -/
def dropMarks (text : String) : List Char := text.toList.filter (· != '_')

/-- The value of a digit in bases up to sixteen. -/
def digitIn (base : Nat) (c : Char) : Option Nat :=
  ((Text.decimalValue? c).or (Text.hexValue? c)).filter (· < base)

/-- The letter that marks a base. -/
def baseLetter? : Nat → Option Char
  | 2 => some 'b'
  | 8 => some 'o'
  | 16 => some 'x'
  | _ => none

/-- The digits without the mark of their base. -/
def dropBase (base : Nat) : List Char → List Char
  | '0' :: letter :: rest => if baseLetter? base == some letter.toLower then rest else '0' :: letter :: rest
  | cs => cs

/-- The integer that a text denotes to a base; white space around it does not count. -/
def integer (base : Nat) (cs : List Char) : Except Fault Int :=
  let trimmed := Text.trim cs
  let negative := trimmed.head? == some '-'
  let digits := (dropBase base (Tag.dropSign trimmed)).map (digitIn base)
  let leading := (digits.takeWhile Option.isSome).length
  if base == 10 && Text.digitLimit < leading then .error (.tooLong leading)
  else if digits.isEmpty || !digits.all Option.isSome then .error (.integer base (String.ofList cs))
  else
    let n : Nat := digits.foldl (fun n d => base * n + d.getD 0) 0
    .ok (if negative then -n else n)

/-- The number whose sixtieths are given, most significant first. -/
def sexagesimal (parts : List Int) : Int := parts.foldl (fun n part => 60 * n + part) 0

/-- The sign of a number and the text after it, which must not be empty. -/
def cutSign (cs : List Char) : Except Fault (Bool × List Char) :=
  match cs with
  | [] => .error .emptyNumber
  | c :: _ => .ok (c == '-', Tag.dropSign cs)

/-- The integer that the text of a scalar denotes. -/
def integerOf (text : String) : Except Fault Int := do
  let (negative, cs) ← cutSign (dropMarks text)
  let n ← match cs with
    | ['0'] => pure 0
    | '0' :: 'b' :: rest => integer 2 rest
    | '0' :: 'x' :: rest => integer 16 rest
    | '0' :: _ => integer 8 cs
    | [] => throw .emptyNumber
    | _ => (if cs.contains ':' then (Text.fields ':' cs) else [cs]).mapM (integer 10) |>.map sexagesimal
  return if negative then -n else n

/-- The double that a text denotes. -/
def double (cs : List Char) : Except Fault Double :=
  match (Decimal.ofText? cs).bind Decimal.toDouble? with
  | some x => .ok x
  | none => .error (.float (String.ofList cs))

/-- The double whose sixtieths are given, least significant first; `scale` is the weight of the first. -/
def sexagesimalDouble (scale : Nat) : List Double → Double → Double
  | [], sum => sum
  | x :: rest, sum => sexagesimalDouble (60 * scale) rest (sum.add (x.mul (.ofInt scale)))

/-- The double with its sign turned, if so asked. -/
def signed (negative : Bool) (x : Double) : Double := if negative then x.mul (.ofInt (-1)) else x

/-- The number that the text of a scalar denotes as a float. -/
def floatOf (text : String) : Except Fault Number :=
  match Decimal.ofText? (dropMarks text) with
  | some d => .ok (.dec d)
  | none => do
    let (negative, cs) ← cutSign ((dropMarks text).map Text.lower)
    if cs == ".inf".toList then return .dbl (.infinite negative)
    else if cs == ".nan".toList then return .dbl .nan
    else if cs.contains ':' then
      let parts ← (Text.fields ':' cs).mapM double
      return .dbl (signed negative (sexagesimalDouble 1 parts.reverse (.zero false)))
    else return .dbl (signed negative (← double cs))

/-- The boolean that the text of a scalar denotes. -/
def booleanOf (text : String) : Except Fault Bool :=
  let word := String.ofList (text.toList.map Text.lower)
  match Tag.booleans.lookup word with
  | some b => .ok b
  | none => .error (.boolean word)

end Conform.Yaml
