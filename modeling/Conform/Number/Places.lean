import Conform.Number.Decimal

/-!
# Doubles digit by digit

A quick way from a numeral to a double, and a quick way back.  `Double.ofNumeral?` takes one digit after the other
and rounds after each, so that the result can miss the nearest double in its last bit.  `Double.toPlaces` writes
ten places after the point, from a product that is rounded itself.
-/

namespace Conform

namespace Double

/-! ### Reading -/

/-- The number of digits that a reader takes; those after it count by their places alone. -/
def digitLimit : Nat := 17

/-- The greatest exponent of ten that a reader multiplies or divides by. -/
def powerLimit : Nat := 308

/-- The power of ten nearest to `10 ^ n`. -/
def powerOfTen (n : Nat) : Double := .ofScientific false 1 n

/-- The number that digits denote, rounded after each of them. -/
def ofDigits (digits : List Char) : Double :=
  digits.foldl (fun x d => (x.mul (.ofInt 10)).add (.ofInt (Text.asciiDecimalOf [d]))) (zero false)

/-- A number divided by a power of ten. -/
def divideByPower (x : Double) (n : Nat) : Double := (x.div? (powerOfTen n)).getD .nan

/-- A number times a power of ten; exponents below the limit are taken off in two steps. -/
def scale (x : Double) (exponent : Int) : Option Double :=
  if powerLimit < exponent then none
  else if 0 < exponent then some (x.mul (powerOfTen exponent.toNat))
  else if exponent < -2 * powerLimit then some (zero x.isNegative)
  else if exponent < -powerLimit then
    some (divideByPower (divideByPower x (-powerLimit - exponent).toNat) powerLimit)
  else some (divideByPower x (-exponent).toNat)

/-- The double of a numeral, read digit by digit.  There is none where the text is no numeral or the number is too
large. -/
def ofNumeral? (cs : List Char) : Option Double :=
  let cs := Text.trimAscii cs
  let (negative, body) := match cs with
    | '-' :: r => (true, r)
    | '+' :: r => (false, r)
    | r => (false, r)
  let whole := body.takeWhile Char.isDigit
  let rest := body.dropWhile Char.isDigit
  let (places, rest) := match rest with
    | '.' :: r => (r.takeWhile Char.isDigit, r.dropWhile Char.isDigit)
    | r => ([], r)
  if whole.isEmpty && places.isEmpty then none
  else
    (Decimal.exponentPart? rest).bind fun e =>
      let taken := (whole ++ places).take digitLimit
      let passed : Int := (whole.length : Int) - taken.length
      let x := ofDigits taken
      (scale (if negative then x.mul (.ofInt (-1)) else x) (e + passed)).filter isFinite

/-! ### Writing -/

/-- A coefficient without the zeros at its end, of which there are at most as many as the first argument says;
each raises the exponent. -/
def dropEndZeros : Nat → Nat → Int → Nat × Int
  | 0, n, g => (n, g)
  | limit + 1, n, g => if n % 10 == 0 then dropEndZeros limit (n / 10) (g + 1) else (n, g)

/-- The number of places that are written. -/
def placeCount : Nat := 10

/-- The numeral of the fraction `num / den` with ten significant digits. -/
def significant (negative : Bool) (num den : Nat) : Decimal :=
  let g := decimalPoint num den - placeCount
  let (_, num, den) := onGrid num den g
  let (n, g) := dropEndZeros placeCount (roundDiv num den) g
  .finite negative n g

/-- The number of units of the last place in a fraction below one: the rounded product, rounded to the nearest
integer, and from halfway up to an even number or up from zero. -/
def lastPlaces (fraction : Double) : Nat :=
  match fraction.mul (powerOfTen placeCount) with
  | .finite _ m e =>
    let (num, den) := ratio m e
    let n := num / den
    let twice := 2 * (num % den)
    if den < twice || (twice == den && (n == 0 || n % 2 == 1)) then n + 1 else n
  | _ => 0

/-- The numeral of `num / den` with up to ten places after the point, and at least one. -/
def positional (negative : Bool) (num den : Nat) : Decimal :=
  let n := num / den * Nat.pow 10 placeCount + lastPlaces (ofRatio false (num % den) den)
  let (n, g) := dropEndZeros (placeCount - 1) n (-placeCount)
  .finite negative n g

/-- The least magnitude other than zero that is written positionally. -/
def leastPositional : Nat × Nat :=
  match ofScientific false 1 (-15) with
  | .finite _ m e => ratio m e
  | _ => (0, 1)

/-- The numeral that a finite number is written with. -/
def toPlaces? : Double → Option Decimal
  | .finite s m e =>
    let (num, den) := ratio m e
    let small := m != 0 && num * leastPositional.2 < leastPositional.1 * den
    let large := Nat.pow 10 16 * den < num
    some (if small || large then significant s num den else positional (s && m != 0) num den)
  | _ => none

end Double

end Conform
