import Conform.Text.Split
import Conform.Yaml.Fault

/-!
# Tags

The types that nodes claim.  A plain scalar without a tag gets one by its looks (`Tag.ofPlain`), under the rules of
YAML 1.1: `yes` and `off` are booleans, `1_000`, `0x1f`, `017` and `1:30` are integers, and a float has a point.
-/

namespace Conform.Yaml

/-- A tag. -/
inductive Tag where
  | null
  | bool
  | int
  | float
  | binary
  | timestamp
  | omap
  | pairs
  | set
  | str
  | seq
  | map
  /-- The key of mappings to be merged. -/
  | merge
  /-- The key of the value that a mapping stands for. -/
  | value
  | other (name : String)
  deriving DecidableEq, Repr

namespace Tag

/-- The start of the names of the tags that are known. -/
def namespaceName : String := "tag:yaml.org,2002:"

/-- The tags that are known. -/
def known : List (String × Tag) :=
  [("null", .null), ("bool", .bool), ("int", .int), ("float", .float), ("binary", .binary),
  ("timestamp", .timestamp), ("omap", .omap), ("pairs", .pairs), ("set", .set), ("str", .str), ("seq", .seq),
  ("map", .map), ("merge", .merge), ("value", .value)]

/-- The tag of a full name. -/
def ofName (name : String) : Tag :=
  ((known.find? fun entry => namespaceName ++ entry.1 == name).map (·.2)).getD (.other name)

/-! ### The looks of plain scalars -/

/-- The words for booleans, in small letters. -/
def booleans : List (String × Bool) :=
  [("yes", true), ("no", false), ("true", true), ("false", false), ("on", true), ("off", false)]

/-- The word in small letters, with a capital at the start, or in capitals throughout. -/
def inSomeCase (word : String) (cs : List Char) : Bool :=
  cs == word.toList || cs == (word.toList.map Char.toUpper) || cs == word.capitalize.toList

/-- The text is a word for a boolean. -/
def looksBool (cs : List Char) : Bool := booleans.any fun b => inSomeCase b.1 cs

/-- The text stands for null. -/
def looksNull (cs : List Char) : Bool := cs.isEmpty || cs == ['~'] || inSomeCase "null" cs

/-- The text without a sign. -/
def dropSign : List Char → List Char
  | '+' :: rest => rest
  | '-' :: rest => rest
  | cs => cs

/-- A digit or an underscore. -/
def isDigitOrMark (c : Char) : Bool := c.isDigit || c == '_'

/-- The text is not empty and the test holds of all of it. -/
def allOf (test : Char → Bool) (cs : List Char) : Bool := !cs.isEmpty && cs.all test

/-- The text is a part of a sexagesimal number after the first: one digit or two, up to 59. -/
def isSixtieth (cs : List Char) : Bool :=
  match cs with
  | [a] => a.isDigit
  | [a, b] => '0' ≤ a && a ≤ '5' && b.isDigit
  | _ => false

/-- The text is an integer part, and then at least one part of a sexagesimal number. -/
def isSexagesimal (first : Char → Bool) (cs : List Char) : Bool :=
  match Text.fields ':' cs with
  | (a :: whole) :: part :: parts =>
    first a && whole.all isDigitOrMark && isSixtieth part && parts.all isSixtieth
  | _ => false

/-- The text is an integer. -/
def looksInt (cs : List Char) : Bool :=
  match dropSign cs with
  | ['0'] => true
  | '0' :: 'b' :: rest => allOf (fun c => c == '0' || c == '1' || c == '_') rest
  | '0' :: 'x' :: rest => allOf (fun c => isDigitOrMark c || ('a' ≤ c && c ≤ 'f') || ('A' ≤ c && c ≤ 'F')) rest
  | '0' :: rest => allOf (fun c => ('0' ≤ c && c ≤ '7') || c == '_') rest
  | c :: rest =>
    c.isDigit && (rest.all isDigitOrMark || isSexagesimal (fun d => d.isDigit && d != '0') (c :: rest))
  | [] => false

/-- The text is empty or the exponent of a float, which has a sign. -/
def isSignedExponent : List Char → Bool
  | [] => true
  | e :: sign :: digits => (e == 'e' || e == 'E') && (sign == '+' || sign == '-') && allOf Char.isDigit digits
  | _ => false

/-- The text is the fraction of a float after its point. -/
def isFraction (cs : List Char) : Bool := isSignedExponent (cs.dropWhile isDigitOrMark)

/-- The text is a float. -/
def looksFloat (cs : List Char) : Bool :=
  let body := dropSign cs
  match body with
  | '.' :: rest =>
    inSomeCase "inf" rest ||
      (body == cs && (rest == "nan".toList || rest == "NaN".toList || rest == "NAN".toList ||
        (rest.head?.any Char.isDigit && isFraction rest)))
  | c :: _ =>
    match Text.cut? '.' body with
    | some (whole, rest) =>
      c.isDigit &&
        ((whole.all isDigitOrMark && isFraction rest) ||
          (isSexagesimal Char.isDigit whole && rest.all isDigitOrMark))
    | none => false
  | [] => false

/-- The tag of a plain scalar.  Timestamps stay texts. -/
def ofPlain (text : String) : Tag :=
  let cs := Text.dropFinalBreak text.toList
  if text.toList.isEmpty then .null
  else if looksBool cs then .bool
  else if looksFloat cs then .float
  else if looksInt cs then .int
  else if cs == ['<', '<'] then .merge
  else if looksNull cs && !cs.isEmpty then .null
  else if cs == ['='] then .value
  else .str

end Tag

end Conform.Yaml
