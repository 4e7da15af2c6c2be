import Conform.Number.Double
import Conform.Text.Blank
import Conform.Text.Digit

/-!
# Decimal numbers

Decimal numbers as written: an integer coefficient with a power of ten, so that `1.50` and `1.5` are two numerals
of one value, together with infinities and the undefined results.  Reading (`Decimal.ofText?`) and writing
(`Decimal.text`) keep every digit.  Comparison is by value and never writes out a power of ten that the number of
digits does not call for; the remainder is that of a calculator of limited precision.
-/

namespace Conform

/-- A decimal number. -/
inductive Decimal where
  /-- The number `± coefficient * 10 ^ exponent`. -/
  | finite (negative : Bool) (coefficient : Nat) (exponent : Int)
  /-- An infinity. -/
  | infinite (negative : Bool)
  /-- An undefined result.  A signalling one must not be used; the payload is a diagnostic number. -/
  | nan (negative signalling : Bool) (payload : Nat)
  deriving DecidableEq, Repr, Inhabited

namespace Decimal

/-- The integer `n` as a decimal number. -/
def ofInt (n : Int) : Decimal := .finite (n < 0) n.natAbs 0

/-- The greatest exponent of the leading digit that a numeral may have. -/
def maxLeading : Int := 999999999999999999

/-- The least exponent of the last digit that a numeral may have. -/
def minTrailing : Int := -1999999999999999997

/-- The exponent of the leading digit. -/
def leading (coefficient : Nat) (exponent : Int) : Int := exponent + digitCount coefficient - 1

/-- The numeral, if its exponents lie within the limits. -/
def ofParts? (negative : Bool) (coefficient : Nat) (exponent : Int) : Option Decimal :=
  if leading coefficient exponent ≤ maxLeading && minTrailing ≤ exponent then
    some (.finite negative coefficient exponent)
  else none

/-! ### Reading -/

/-- The exponent part of a numeral: nothing, or `e` with a signed integer. -/
def exponentPart? : List Char → Option Int
  | [] => some 0
  | c :: rest =>
    if c == 'e' || c == 'E' then
      let (negative, digits) := match rest with
        | '-' :: r => (true, r)
        | '+' :: r => (false, r)
        | r => (false, r)
      if digits.isEmpty || !digits.all Char.isDigit then none
      else some (if negative then -(Text.asciiDecimalOf digits : Int) else Text.asciiDecimalOf digits)
    else none

/-- An unsigned numeral: digits with at most one point, and an exponent. -/
def ofNumeral? (negative : Bool) (cs : List Char) : Option Decimal :=
  let whole := cs.takeWhile Char.isDigit
  let rest := cs.dropWhile Char.isDigit
  let (places, rest) := match rest with
    | '.' :: r => (r.takeWhile Char.isDigit, r.dropWhile Char.isDigit)
    | r => ([], r)
  if whole.isEmpty && places.isEmpty then none
  else
    (exponentPart? rest).bind fun e =>
      ofParts? negative (Text.asciiDecimalOf (whole ++ places)) (e - places.length)

/-- An unsigned infinity or undefined number, in lower case. -/
def ofName? (negative : Bool) (cs : List Char) : Option Decimal :=
  let payload? (digits : List Char) :=
    if digits.all Char.isDigit then some (Text.asciiDecimalOf digits) else none
  if cs == "inf".toList || cs == "infinity".toList then some (.infinite negative)
  else match cs with
    | 'n' :: 'a' :: 'n' :: digits => (payload? digits).map (.nan negative false ·)
    | 's' :: 'n' :: 'a' :: 'n' :: digits => (payload? digits).map (.nan negative true ·)
    | _ => none

/-- Decimal digits of any script as ASCII digits. -/
def asciiDigit (c : Char) : Char :=
  match Text.decimalValue? c with
  | some d => Char.ofNat (48 + d)
  | none => c

/-- The number that a text names: white space around it and underscores are passed over, digits may be of any
script. -/
def ofText? (cs : List Char) : Option Decimal :=
  let cs := ((Text.trim cs).filter (· != '_')).map asciiDigit
  let (negative, body) := match cs with
    | '-' :: r => (true, r)
    | '+' :: r => (false, r)
    | r => (false, r)
  ofNumeral? negative body <|> ofName? negative (body.map Char.toLower)

/-! ### Writing -/

/-- An exponent with its sign. -/
def signedText (e : Int) : List Char :=
  (if e < 0 then '-' else '+') :: Nat.toDigits 10 e.natAbs

/-- The digits of a numeral, with the point shown positionally where that needs at most five zeros after it, and
in scientific form otherwise. -/
def layout (coefficient : Nat) (exponent : Int) : List Char :=
  let digits := Nat.toDigits 10 coefficient
  let top := leading coefficient exponent
  if exponent ≤ 0 && -6 ≤ top then
    if exponent == 0 then digits
    else if top < 0 then '0' :: '.' :: List.replicate (-top - 1).toNat '0' ++ digits
    else digits.take (top + 1).toNat ++ '.' :: digits.drop (top + 1).toNat
  else
    let tail := if digits.length ≤ 1 then [] else '.' :: digits.drop 1
    digits.take 1 ++ tail ++ 'E' :: signedText top

/-- The text of a number, with every digit. -/
def text : Decimal → String
  | .finite s c e => String.ofList (if s then '-' :: layout c e else layout c e)
  | .infinite s => if s then "-Infinity" else "Infinity"
  | .nan s signalling payload =>
    (if s then "-" else "") ++ (if signalling then "sNaN" else "NaN") ++
      (if payload == 0 then "" else toString payload)

/-! ### Size and order -/

/-- The number is neither infinite nor undefined. -/
def isFinite : Decimal → Bool
  | .finite .. => true
  | _ => false

/-- The number must not be used in a comparison. -/
def isSignalling : Decimal → Bool
  | .nan _ signalling _ => signalling
  | _ => false

/-- The number is zero, of either sign. -/
def isZero : Decimal → Bool
  | .finite _ c _ => c == 0
  | _ => false

/-- The number is an integer.  A coefficient with fewer digits than the places to drop is one only if zero. -/
def isInteger : Decimal → Bool
  | .finite _ c e =>
    0 ≤ e || c == 0 || ((-e).toNat < digitCount c && c % Nat.pow 10 (-e).toNat == 0)
  | _ => false

/-- The integer part. -/
def truncate : Decimal → Int
  | .finite s c e =>
    let n : Nat := if 0 ≤ e then c * Nat.pow 10 e.toNat
      else if digitCount c ≤ (-e).toNat then 0 else c / Nat.pow 10 (-e).toNat
    if s then -n else n
  | _ => 0

/-- The order of two magnitudes: by the exponents of the leading digits, and where these agree by the
coefficients brought to the lesser exponent. -/
def compareMagnitude (c : Nat) (e : Int) (c' : Nat) (e' : Int) : Ordering :=
  if c == 0 || c' == 0 then compare c c'
  else
    (compare (leading c e) (leading c' e')).then <|
      if e ≤ e' then compare c (c' * Nat.pow 10 (e' - e).toNat) else compare (c * Nat.pow 10 (e - e').toNat) c'

/-- The order of two numbers by value; an undefined one has none. -/
def compare? : Decimal → Decimal → Option Ordering
  | .nan .., _ => none
  | _, .nan .. => none
  | .infinite s, .infinite s' => some (compare s' s)
  | .infinite s, .finite .. => some (if s then .lt else .gt)
  | .finite .., .infinite s => some (if s then .gt else .lt)
  | .finite s c e, .finite s' c' e' =>
    some <|
      if c == 0 && c' == 0 then .eq
      else if c == 0 then (if s' then .gt else .lt)
      else if c' == 0 then (if s then .lt else .gt)
      else if s != s' then (if s then .lt else .gt)
      else if s then compareMagnitude c' e' c e
      else compareMagnitude c e c' e'

/-! ### Doubles -/

/-- The exact value of a double. -/
def ofDouble : Double → Decimal
  | .nan => .nan false false 0
  | .infinite s => .infinite s
  | .finite s m e =>
    if 0 ≤ e then .finite s (m <<< e.toNat) 0
    else
      let (m, places) := halve (-e).toNat m
      .finite s (m * Nat.pow 5 places) (-places)
where
  /-- The fraction `m / 2 ^ k` in lowest terms. -/
  halve : Nat → Nat → Nat × Nat
    | 0, m => (m, 0)
    | k + 1, m => if m % 2 == 0 then halve k (m / 2) else (m, k + 1)

/-- The double nearest to a number; an undefined one that must not be used has none. -/
def toDouble? : Decimal → Option Double
  | .finite s c e => some (.ofScientific s c e)
  | .infinite s => some (.infinite s)
  | .nan _ signalling _ => if signalling then none else some .nan

/-! ### Remainder -/

/-- The limits of a calculation: digits kept, and the exponents that the leading digit of a result may have. -/
structure Limits where
  digits : Nat
  maxLeading : Int
  minLeading : Int

/-- The limits within which a remainder is computed. -/
def Limits.remainder : Limits := ⟨200, 999999, -999999⟩

/-- Why a calculation has no result. -/
inductive Fault where
  /-- The operation is not defined for these numbers, or not within the limits. -/
  | invalid
  /-- The result is too large. -/
  | overflow
  deriving DecidableEq, Repr

/-- The coefficient without its last `k` digits, rounded to nearest and from halfway to the even one. -/
def dropDigits (coefficient : Nat) (k : Nat) : Nat :=
  if digitCount coefficient < k then 0 else Double.roundDiv coefficient (Nat.pow 10 k)

/-- The coefficient and exponent with no digit below the place `least`. -/
def roundAt (least : Int) (coefficient : Nat) (exponent : Int) : Nat × Int :=
  if exponent < least then (dropDigits coefficient (least - exponent).toNat, least)
  else (coefficient, exponent)

/-- A result within the limits: no more digits than allowed, none below the least place. -/
def round (limits : Limits) (negative : Bool) (coefficient : Nat) (exponent : Int) : Except Fault Decimal :=
  if coefficient == 0 then .ok (.finite negative 0 exponent)
  else
    let place := max (exponent + digitCount coefficient - limits.digits) (limits.minLeading - limits.digits + 1)
    let (c, e) := roundAt place coefficient exponent
    if limits.maxLeading < leading c e then .error .overflow else .ok (.finite negative c e)

/-- The remainder of magnitudes, exact: the rest that division to an integer leaves, with the exponent of the
finer numeral.  The quotient must not have more than `digits` digits. -/
def remainderParts (digits : Nat) (c : Nat) (e : Int) (c' : Nat) (e' : Int) : Except Fault (Nat × Int) :=
  let least := min e e'
  if c == 0 then .ok (0, least)
  else
    let excess := leading c e - leading c' e'
    if excess < 0 then .ok (c * Nat.pow 10 (e - least).toNat, least)
    else if digits < excess then .error .invalid
    else
      let a := c * Nat.pow 10 (e - least).toNat
      let b := c' * Nat.pow 10 (e' - least).toNat
      if digits < digitCount (a / b) then .error .invalid else .ok (a % b, least)

/-- The remainder of a division to an integer toward zero; it has the sign of the dividend. -/
def remainder (limits : Limits) : Decimal → Decimal → Except Fault Decimal
  | .nan _ true _, _ => .error .invalid
  | _, .nan _ true _ => .error .invalid
  | .nan s false p, _ => .ok (.nan s false p)
  | _, .nan s false p => .ok (.nan s false p)
  | .infinite _, _ => .error .invalid
  | .finite s c e, .infinite _ => round limits s c e
  | .finite s c e, .finite _ c' e' =>
    if c' == 0 then .error .invalid
    else (remainderParts limits.digits c e c' e').bind fun (r, e) => round limits s r e

end Decimal

end Conform
