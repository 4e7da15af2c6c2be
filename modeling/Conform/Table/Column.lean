import Conform.Json.Value
import Conform.Number.Places
import Conform.Table.Csv

/-!
# Columns

The values of a column, made from fields (`Column.ofFields`) or from values (`Column.ofValues`).  All values of a
column have one kind, the first that suits all: integers, doubles, booleans, and text where nothing else does.
What is missing is the double that is not a number.
-/

namespace Conform

namespace Column

/-- What stands for a value that is missing. -/
def missing : Value := .num (.dbl .nan)

/-- The fields that stand for a missing value. -/
def missingWords : List (List Char) :=
  ["", "#N/A", "#N/A N/A", "#NA", "-1.#IND", "-1.#QNAN", "-NaN", "-nan", "1.#IND", "1.#QNAN", "<NA>", "N/A", "NA",
    "NULL", "NaN", "None", "n/a", "nan", "null"].map String.toList

/-- A field stands for a missing value. -/
def isMissing (f : Csv.Field) : Bool := missingWords.contains f

/-! ### Integers -/

/-- The least integer of 64 bits with a sign. -/
def leastInteger : Int := -0x8000000000000000

/-- The greatest integer of 64 bits with a sign. -/
def greatestInteger : Int := 0x7fffffffffffffff

/-- The greatest integer of 64 bits without a sign. -/
def greatestNatural : Int := 0xffffffffffffffff

/-- What a field is as an integer. -/
inductive Whole where
  | integer (n : Int)
  /-- The digits come to more than the bounds allow. -/
  | beyond
  | other
  deriving DecidableEq, Repr

/-- The sign of a field and what follows it. -/
def signOf (f : Csv.Field) : Bool × List Char :=
  match f.dropWhile Text.isAsciiBlank with
  | '-' :: r => (true, r)
  | '+' :: r => (false, r)
  | r => (false, r)

/-- A field as an integer between bounds.  Digits beyond the bounds settle the matter, whatever follows them. -/
def whole (low high : Int) (f : Csv.Field) : Whole :=
  let (negative, body) := signOf f
  let digits := body.takeWhile Char.isDigit
  let n : Int := Text.asciiDecimalOf digits
  let n := if negative then -n else n
  if digits.isEmpty then .other
  else if n < low || high < n then .beyond
  else if (body.dropWhile Char.isDigit).all Text.isAsciiBlank then .integer n
  else .other

/-- The first field among those that are not missing that is not an integer, as what it is. -/
def obstacle? (read : Csv.Field → Whole) (fields : List Csv.Field) : Option Whole :=
  ((fields.filter fun f => !isMissing f).map read).find? fun
    | .integer _ => false
    | _ => true

/-- The integer of a field that is one. -/
def integerOf (read : Csv.Field → Whole) (f : Csv.Field) : Int :=
  match read f with
  | .integer n => n
  | _ => 0

/-- A field as an integer of 64 bits with a sign. -/
def signed (f : Csv.Field) : Whole := whole leastInteger greatestInteger f

/-- A field as an integer of 64 bits without a sign; one with a minus sign is let through for the moment. -/
def unsigned (f : Csv.Field) : Whole := if (signOf f).1 then .integer (-1) else whole 0 greatestNatural f

/-- A column of integers; with missing values it is one of doubles. -/
def integers (fields : List Csv.Field) : List Value :=
  if fields.any isMissing then
    fields.map fun f => if isMissing f then missing else .num (.dbl (.ofInt (integerOf signed f)))
  else fields.map fun f => .int (integerOf signed f)

/-! ### Other kinds -/

/-- A field in small letters. -/
def small (f : Csv.Field) : Csv.Field := f.map Char.toLower

/-- A field as a double: a numeral, or the name of an infinity. -/
def double? (f : Csv.Field) : Option Double :=
  if isMissing f then some .nan
  else
    Double.ofNumeral? f <|>
      (if ["inf", "+inf", "infinity", "+infinity"].contains (String.ofList (small f)) then some (.infinite false)
        else if ["-inf", "-infinity"].contains (String.ofList (small f)) then some (.infinite true)
        else none)

/-- A field as a truth value. -/
def boolean? (f : Csv.Field) : Option Value :=
  if isMissing f then some missing
  else if small f == "true".toList then some (.bool true)
  else if small f == "false".toList then some (.bool false)
  else none

/-- A column of texts. -/
def texts (fields : List Csv.Field) : List Value :=
  fields.map fun f => if isMissing f then missing else .str (String.ofList f)

/-- A column of fields that are not all integers. -/
def fractions (fields : List Csv.Field) : List Value :=
  match fields.mapM double? with
  | some xs => xs.map fun x => .num (.dbl x)
  | none => (fields.mapM boolean?).getD (texts fields)

/-- A column of integers some of which take all 64 bits.  It is one of texts if there are signs as well, and if
values are missing it is one of texts that miss nothing. -/
def naturals (fields : List Csv.Field) : List Value :=
  let present := fields.filter fun f => !isMissing f
  let negative := present.any fun f => (signOf f).1
  let large := present.any fun f => greatestInteger < integerOf unsigned f
  if large && (negative || fields.any isMissing) then fields.map fun f => .str (String.ofList f)
  else if negative then texts fields
  else fields.map fun f => .int (integerOf unsigned f)

/-- The column that fields make. -/
def ofFields (fields : List Csv.Field) : List Value :=
  match obstacle? signed fields with
  | none => integers fields
  | some .beyond =>
    match obstacle? unsigned fields with
    | none => naturals fields
    | some .beyond => texts fields
    | some _ => fractions fields
  | some _ => fractions fields

/-! ### Columns of values -/

/-- An integer that a column of numbers can hold beside the others. -/
def fits (values : List Value) : Bool :=
  let integers := values.filterMap fun
    | .num (.int n) => some n
    | _ => none
  integers.all (fun n => leastInteger ≤ n && n ≤ greatestNatural) &&
    !(integers.any (· < 0) && integers.any (greatestInteger < ·))

/-- A number as a double, where nothing is what is missing. -/
def doubleOf? : Value → Option Double
  | .null => some .nan
  | .num (.int n) => some (.ofInt n)
  | .num (.dbl x) => some x
  | _ => none

/-- The column that values make: doubles if they are numbers of which some are missing or no integers, and
otherwise what they are. -/
def ofValues (values : List Value) : List Value :=
  if values.all (· matches .num (.int _)) || values.all (· matches .null) || !fits values then values
  else
    match values.mapM doubleOf? with
    | some xs => xs.map fun x => .num (.dbl x)
    | none => values

end Column

end Conform
