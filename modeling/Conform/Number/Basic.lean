import Conform.Number.Decimal

/-!
# Numbers

The numbers a document can hold: integers of any size, decimal numerals as written, and doubles where a reader
yields them.  They compare by value whatever their form.
-/

namespace Conform

/-- A number in one of its forms. -/
inductive Number where
  | int (n : Int)
  | dec (d : Decimal)
  | dbl (x : Double)
  deriving DecidableEq, Repr, Inhabited

/-- Why a calculation with numbers fails. -/
inductive ArithmeticFault where
  /-- An integer lies beyond the range of doubles. -/
  | tooLarge
  /-- The divisor is zero. -/
  | zeroDivision
  /-- The operation is undefined for its operands. -/
  | invalid
  /-- The decimal result lies beyond the limits of the calculation. -/
  | overflow
  /-- A signalling undefined number has no double. -/
  | signalling
  deriving DecidableEq, Repr

namespace Number

/-- The number is neither infinite nor undefined. -/
def isFinite : Number → Bool
  | .int _ => true
  | .dec d => d.isFinite
  | .dbl x => x.isFinite

/-- The number is an integer, in whatever form. -/
def isInteger : Number → Bool
  | .int _ => true
  | .dec d => d.isInteger
  | .dbl x => x.isInteger

/-- The decimal numeral that a double is written with.  Every double is written as one. -/
def writtenDouble (x : Double) : Decimal :=
  (Decimal.ofText? x.text.toList).getD (.finite false 0 0)

/-- The number in an exact form: a double becomes the numeral it is written with. -/
def exact : Number → Number
  | .dbl x => .dec (writtenDouble x)
  | n => n

/-- The value of a number as a decimal. -/
def toDecimal : Number → Decimal
  | .int n => .ofInt n
  | .dec d => d
  | .dbl x => .ofDouble x

/-- The integer has no more digits than one is written with. -/
def isWritableInt (n : Int) : Bool := digitCount n.natAbs ≤ Text.digitLimit

/-- The number has a text: it is no integer with too many digits. -/
def isWritable : Number → Bool
  | .int n => isWritableInt n
  | _ => true

/-- The text of a number, with every digit it was written with. -/
def text : Number → String
  | .int n => toString n
  | .dec d => d.text
  | .dbl x => x.text

/-- The exact forms have one value.  A signalling number does not compare. -/
def equal? (a b : Number) : Option Bool :=
  match a.exact, b.exact with
  | .int m, .int n => some (m == n)
  | a, b =>
    if a.toDecimal.isSignalling || b.toDecimal.isSignalling then none
    else some (a.toDecimal.compare? b.toDecimal == some .eq)

/-- The order of two numbers.  With an undefined one there is no order: between an integer and a double that is
an answer, and otherwise a fault. -/
def order (a b : Number) : Except ArithmeticFault (Option Ordering) :=
  match a, b with
  | .int m, .int n => .ok (some (compare m n))
  | .int m, .dbl x => .ok ((Decimal.ofInt m).compare? (.ofDouble x))
  | .dbl x, .int n => .ok ((Decimal.ofDouble x).compare? (.ofInt n))
  | .dbl x, .dbl y => .ok ((Decimal.ofDouble x).compare? (.ofDouble y))
  | a, b =>
    match a.toDecimal.compare? b.toDecimal with
    | some o => .ok (some o)
    | none => .error .invalid

/-- The integer part. -/
def truncate : Number → Int
  | .int n => n
  | n => n.toDecimal.truncate

/-- The number is an integer between the bounds. -/
def isIntegerWithin (low high : Int) (n : Number) : Bool :=
  n.isInteger &&
    (match Decimal.compare? (.ofInt low) n.toDecimal with
      | some .gt => false
      | some _ => true
      | none => false) &&
    (match Decimal.compare? n.toDecimal (.ofInt high) with
      | some .gt => false
      | some _ => true
      | none => false)

/-- The number is below zero. -/
def isNegative (n : Number) : Bool := n.toDecimal.compare? (.ofInt 0) == some .lt

/-- The number is above zero. -/
def isPositive (n : Number) : Bool := n.toDecimal.compare? (.ofInt 0) == some .gt

/-- The double nearest to a number; there is none for an integer too large or a signalling number. -/
def toDouble : Number → Except ArithmeticFault Double
  | .int n => if (Double.ofInt n).isFinite then .ok (.ofInt n) else .error .tooLarge
  | .dec d =>
    match d.toDouble? with
    | some x => .ok x
    | none => .error .signalling
  | .dbl x => .ok x

/-- The quotient of the nearest doubles is an integer. -/
def dividesRoughly (value divisor : Number) : Except ArithmeticFault Bool :=
  value.toDouble.bind fun x => divisor.toDouble.bind fun y =>
    match x.div? y with
    | some q => .ok q.isInteger
    | none => .error .zeroDivision

/-- The value is a multiple of the divisor: exactly for two integers, and otherwise as the remainder within the
limits tells; where that is undefined the doubles decide. -/
def isMultipleOf (value divisor : Number) : Except ArithmeticFault Bool :=
  match value, divisor with
  | .int m, .int n => if n == 0 then .error .zeroDivision else .ok (m % n == 0)
  | _, _ =>
    match Decimal.remainder .remainder value.toDecimal divisor.toDecimal with
    | .ok r => .ok r.isZero
    | .error .overflow => .error .overflow
    | .error .invalid => dividesRoughly value divisor

end Number

end Conform
