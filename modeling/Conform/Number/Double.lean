/-!
# Double-precision numbers

A binary floating-point number of 64 bits is kept as what it denotes: not a number, an infinity, or a signed
integer multiple of a power of two.  Every operation computes exactly and rounds once, to the nearest number and
from halfway to the even mantissa (`Double.ofRatio`).  `Double.text` writes the fewest digits that read back.
-/

namespace Conform

/-- The number of decimal digits of `n`; zero has one. -/
def digitCount (n : Nat) : Nat := (Nat.toDigits 10 n).length

/-- A double-precision number. -/
inductive Double where
  /-- The number `± mantissa * 2 ^ exponent`. -/
  | finite (negative : Bool) (mantissa : Nat) (exponent : Int)
  /-- An infinity. -/
  | infinite (negative : Bool)
  /-- Not a number. -/
  | nan
  deriving DecidableEq, Repr, Inhabited

namespace Double

/-- The least exponent of a finite number. -/
def minExponent : Int := -1074

/-- The greatest exponent of a finite number. -/
def maxExponent : Int := 971

/-- The mantissas have at most this many bits. -/
def mantissaBits : Nat := 53

/-- The zero of the given sign. -/
def zero (negative : Bool) : Double := .finite negative 0 minExponent

/-- The quotient rounded to the nearest integer, from halfway to the even one. -/
def roundDiv (num den : Nat) : Nat :=
  let q := num / den
  let twice := 2 * (num % den)
  if den < twice || (twice == den && q % 2 == 1) then q + 1 else q

/-- The exponent at which the mantissa of `num / den` has all its bits, or the least one. -/
def exponentFor (num den : Nat) : Int :=
  let e : Int := (Nat.log2 num : Int) - Nat.log2 den - mantissaBits
  let full := if e < 0 then num <<< (-e).toNat < den <<< mantissaBits
    else num < den <<< (mantissaBits + e.toNat)
  max minExponent (if full then e else e + 1)

/-- The number nearest to `± num / den`. -/
def ofRatio (negative : Bool) (num den : Nat) : Double :=
  if num == 0 then zero negative
  else
    let e := exponentFor num den
    let m := if e < 0 then roundDiv (num <<< (-e).toNat) den else roundDiv num (den <<< e.toNat)
    let (m, e) := if m == 1 <<< mantissaBits then (m / 2, e + 1) else (m, e)
    if maxExponent < e then .infinite negative else .finite negative m e

/-- The number nearest to `± coefficient * 10 ^ exponent`.  Exponents far outside the range are settled by size
alone. -/
def ofScientific (negative : Bool) (coefficient : Nat) (exponent : Int) : Double :=
  let top := digitCount coefficient + exponent
  if coefficient == 0 || top < -330 then zero negative
  else if 310 < top then .infinite negative
  else if exponent < 0 then ofRatio negative coefficient (Nat.pow 10 (-exponent).toNat)
  else ofRatio negative (coefficient * Nat.pow 10 exponent.toNat) 1

/-- The number nearest to an integer. -/
def ofInt (n : Int) : Double := ofRatio (n < 0) n.natAbs 1

/-- The magnitude of `mantissa * 2 ^ exponent` as a fraction. -/
def ratio (mantissa : Nat) (exponent : Int) : Nat × Nat :=
  if exponent < 0 then (mantissa, 1 <<< (-exponent).toNat) else (mantissa <<< exponent.toNat, 1)

/-- The number is zero, of either sign. -/
def isZero : Double → Bool
  | .finite _ m _ => m == 0
  | _ => false

/-- The number is neither infinite nor undefined. -/
def isFinite : Double → Bool
  | .finite .. => true
  | _ => false

/-- The number is an integer. -/
def isInteger : Double → Bool
  | .finite _ m e => let (num, den) := ratio m e; num % den == 0
  | _ => false

/-- The sign of a number, as the sign of its zero tells it. -/
def isNegative : Double → Bool
  | .finite s _ _ => s
  | .infinite s => s
  | .nan => false

/-- The signed numerator and the denominator of a finite number. -/
def signedRatio (negative : Bool) (mantissa : Nat) (exponent : Int) : Int × Nat :=
  let (num, den) := ratio mantissa exponent
  (if negative then -num else num, den)

/-- The sum. -/
def add : Double → Double → Double
  | .finite s m e, .finite s' m' e' =>
    let (a, b) := signedRatio s m e
    let (a', b') := signedRatio s' m' e'
    let num := a * b' + a' * b
    ofRatio (if num == 0 then s && s' else num < 0) num.natAbs (b * b')
  | .nan, _ => .nan
  | _, .nan => .nan
  | .infinite s, .infinite s' => if s == s' then .infinite s else .nan
  | .infinite s, .finite .. => .infinite s
  | .finite .., .infinite s => .infinite s

/-- The product. -/
def mul : Double → Double → Double
  | .finite s m e, .finite s' m' e' =>
    let (a, b) := ratio m e
    let (a', b') := ratio m' e'
    ofRatio (s != s') (a * a') (b * b')
  | .nan, _ => .nan
  | _, .nan => .nan
  | .infinite s, y => if y.isZero then .nan else .infinite (s != y.isNegative)
  | x, .infinite s => if x.isZero then .nan else .infinite (s != x.isNegative)

/-- The quotient; there is none by zero. -/
def div? (x y : Double) : Option Double :=
  if y.isZero then none
  else
    match x, y with
    | .finite s m e, .finite s' m' e' =>
      let (a, b) := ratio m e
      let (a', b') := ratio m' e'
      some (ofRatio (s != s') (a * b') (b * a'))
    | .nan, _ => some .nan
    | _, .nan => some .nan
    | .infinite _, .infinite _ => some .nan
    | .infinite s, y => some (.infinite (s != y.isNegative))
    | .finite s _ _, .infinite s' => some (zero (s != s'))

/-! ### Shortest text -/

/-- The fraction `num / den` at the decimal grid of step `10 ^ g`: its lower neighbour there, and the fraction
scaled so that neighbours are whole. -/
def onGrid (num den : Nat) (g : Int) : Nat × Nat × Nat :=
  let (num, den) := if g < 0 then (num * Nat.pow 10 (-g).toNat, den) else (num, den * Nat.pow 10 g.toNat)
  (num / den, num, den)

/-- The number of digits before the point of `num / den`: the least `k` with `num / den < 10 ^ k`. -/
def decimalPoint (num den : Nat) : Int :=
  let d : Int := (digitCount num : Int) - digitCount den
  let reached := if d < 0 then den ≤ num * Nat.pow 10 (-d).toNat else den * Nat.pow 10 d.toNat ≤ num
  if reached then d + 1 else d

/-- The decimal `digits * 10 ^ g` reads back as the number `mantissa * 2 ^ exponent`. -/
def readsBack (mantissa : Nat) (exponent : Int) (digits : Nat) (g : Int) : Bool :=
  ofScientific false digits g == .finite false mantissa exponent

/-- The digits with at most `n` places that read back, nearest first, as multiples of `10 ^ g`. -/
def digitsWith (mantissa : Nat) (exponent : Int) (n : Nat) : Option (Nat × Int) :=
  let (num, den) := ratio mantissa exponent
  let g := decimalPoint num den - n
  let (low, num, den) := onGrid num den g
  let twice := 2 * (num % den)
  let lowFirst := twice < den || (twice == den && low % 2 == 0)
  let tries := if lowFirst then [low, low + 1] else [low + 1, low]
  (tries.find? (readsBack mantissa exponent · g)).map (·, g)

/-- The shortest digits that read back as `mantissa * 2 ^ exponent`, with the exponent of their last place. -/
def shortest (mantissa : Nat) (exponent : Int) : Nat × Int :=
  ((List.range 17).findSome? fun n => digitsWith mantissa exponent (n + 1)).getD (0, 0)

/-- The digits without the zeros at their end; each zero raises the exponent. -/
def dropZeros : List Char → Int → List Char × Int
  | '0' :: rest, g => dropZeros rest (g + 1)
  | digits, g => (digits.reverse, g)

/-- Digits with the point after the first `point` of them: positional from `10 ^ -4` up to `10 ^ 16`, and beyond
in scientific form with an exponent of at least two digits. -/
def layout (digits : List Char) (point : Int) : List Char :=
  if -4 < point && point ≤ 16 then
    if point ≤ 0 then '0' :: '.' :: List.replicate (-point).toNat '0' ++ digits
    else if point < digits.length then digits.take point.toNat ++ '.' :: digits.drop point.toNat
    else digits ++ List.replicate (point.toNat - digits.length) '0' ++ ['.', '0']
  else
    let e := point - 1
    let places := Nat.toDigits 10 e.natAbs
    let tail := if digits.length ≤ 1 then [] else '.' :: digits.drop 1
    digits.take 1 ++ tail ++ 'e' :: (if e < 0 then '-' else '+') ::
      (if places.length < 2 then '0' :: places else places)

/-- The shortest text that reads back as the number. -/
def text : Double → String
  | .nan => "nan"
  | .infinite s => if s then "-inf" else "inf"
  | .finite s m e =>
    let body :=
      if m == 0 then ['0', '.', '0']
      else
        let (n, g) := shortest m e
        let (digits, g) := dropZeros (Nat.toDigits 10 n).reverse g
        layout digits (digits.length + g)
    String.ofList (if s then '-' :: body else body)

end Double

end Conform
