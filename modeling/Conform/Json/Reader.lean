import Conform.Json.Value
import Conform.Text.CodePoint

/-!
# Reading JSON

`Json.read` turns a text into a value or says what is wrong and where.  Integers are read exactly; a number with a
fraction or an exponent becomes a decimal numeral or a double, as the `NumberForm` asks, and the three names for
non-finite numbers are read only as doubles.  A repeated key keeps its first place and its last value.

While reading, a fault is located by the text that is left from the faulty place on (`Stop`); the position is
computed once at the end.
-/

namespace Conform.Json

/-- What numbers with a fraction or an exponent become. -/
inductive NumberForm where
  | decimal
  | double
  deriving DecidableEq, Repr

/-- What is wrong with a text at one place. -/
inductive Fault where
  | expectingValue
  | expectingComma
  | expectingColon
  | expectingName
  | unterminated
  | controlCharacter
  | badEscape
  | badUnicodeEscape
  | extraData
  | byteOrderMark
  deriving DecidableEq, Repr

/-- Why a text is not read. -/
inductive ReadError where
  /-- A fault after `position` characters; `line` and `column` count from one. -/
  | malformed (fault : Fault) (position line column : Nat)
  /-- A name for a non-finite number, where only finite ones are allowed. -/
  | nonFinite (name : String)
  /-- A numeral with an exponent beyond every limit. -/
  | exponentRange
  /-- An integer with so many digits that it is not read. -/
  | tooLong (digits : Nat)
  /-- A string with half of a surrogate pair without its other half, as far as it has been read.  No value is made of it. -/
  | loneHalf (text : CodeText)
  deriving DecidableEq, Repr

/-- The words for a fault. -/
def Fault.text : Fault → String
  | .expectingValue => "Expecting value"
  | .expectingComma => "Expecting ',' delimiter"
  | .expectingColon => "Expecting ':' delimiter"
  | .expectingName => "Expecting property name enclosed in double quotes"
  | .unterminated => "Unterminated string starting at"
  | .controlCharacter => "Invalid control character at"
  | .badEscape => "Invalid \\escape"
  | .badUnicodeEscape => "Invalid \\uXXXX escape"
  | .extraData => "Extra data"
  | .byteOrderMark => "Unexpected UTF-8 BOM (decode using utf-8-sig)"

/-- The words for an error. -/
def ReadError.message : ReadError → String
  | .malformed fault position line column =>
    fault.text ++ ": line " ++ toString line ++ " column " ++ toString column ++
      " (char " ++ toString position ++ ")"
  | .nonFinite name => "non-finite number " ++ name ++ " is not allowed"
  | .exponentRange => "exponent out of range"
  | .tooLong digits => Text.tooLongToRead digits
  | .loneHalf text => text.unencodable

/-- Why reading stops, while the text before the faulty place is not at hand. -/
inductive Stop where
  /-- A fault at the first character of `rest`. -/
  | here (fault : Fault) (rest : List Char)
  | nonFinite (name : String)
  | exponentRange
  | tooLong (digits : Nat)
  | loneHalf (text : CodeText)

/-- A part of a text read to `α`, with the text after it. -/
abbrev Step (α : Type) := Except Stop (α × List Char)

/-- The white space of JSON. -/
def isSpace (c : Char) : Bool := c == ' ' || c == '\t' || c == '\n' || c == '\r'

/-- The text after leading white space. -/
def skipSpace (cs : List Char) : List Char := cs.dropWhile isSpace

/-! ### Strings -/

/-- The character that a one-letter escape stands for. -/
def simpleEscape? : Char → Option Char
  | '"' => some '"'
  | '\\' => some '\\'
  | '/' => some '/'
  | 'b' => some '\x08'
  | 'f' => some '\x0C'
  | 'n' => some '\n'
  | 'r' => some '\r'
  | 't' => some '\t'
  | _ => none

/-- The number that four hexadecimal digits name. -/
def hexUnit? (a b c d : Char) : Option Nat :=
  if [a, b, c, d].all Text.isHex then some (Text.hexOf [a, b, c, d]) else none

/-- The text holds at least `n` characters. -/
def hasAtLeast : Nat → List Char → Bool
  | 0, _ => true
  | _ + 1, [] => false
  | n + 1, _ :: rest => hasAtLeast n rest

/-- The code point of a numbered escape whose first unit has been read, with the text after it: a first half of a
pair combines with a second half if that follows at once and something follows the pair. -/
def pairUnits (unit : Nat) (rest : List Char) : Step CodePoint :=
  let alone : Step CodePoint := .ok (.ofNat unit, rest)
  if 0xD800 ≤ unit && unit ≤ 0xDBFF && hasAtLeast 7 rest then
    match rest with
    | '\\' :: 'u' :: a :: b :: c :: d :: after =>
      match hexUnit? a b c d with
      | none => .error (.here .badUnicodeEscape (rest.drop 1))
      | some low =>
        if 0xDC00 ≤ low && low ≤ 0xDFFF then
          .ok (.ofNat (0x10000 + (unit - 0xD800) * 0x400 + (low - 0xDC00)), after)
        else alone
    | _ => alone
  else alone

/-- The code point of an escape, from the backslash on. -/
def escape (start cs : List Char) : Step CodePoint :=
  match cs with
  | '\\' :: 'u' :: rest =>
    match rest with
    | a :: b :: c :: d :: after =>
      if after.isEmpty then .error (.here .badUnicodeEscape ('u' :: rest))
      else
        match hexUnit? a b c d with
        | none => .error (.here .badUnicodeEscape ('u' :: rest))
        | some unit => pairUnits unit after
    | _ => .error (.here .badUnicodeEscape ('u' :: rest))
  | '\\' :: c :: rest =>
    match simpleEscape? c with
    | some c => .ok (.char c, rest)
    | none => .error (.here .badEscape cs)
  | _ => .error (.here .unterminated start)

/-- The characters of a string up to its closing quote, where no half may stand alone.  `start` is the text from the opening
quote on and `done` what has been read, last first; each round reads at least one of the `fuel` characters left. -/
def stringBody (start : List Char) : Nat → List Char → List Char → Step String
  | 0, _, _ => .error (.here .unterminated start)
  | fuel + 1, done, cs =>
    match cs with
    | [] => .error (.here .unterminated start)
    | '"' :: rest => .ok (String.ofList done.reverse, rest)
    | '\\' :: _ => (escape start cs).bind fun
      | (.char c, rest) => stringBody start fuel (c :: done) rest
      | (.half h, _) => .error (.loneHalf ⟨done.reverse.map .char ++ [.half h]⟩)
    | c :: rest =>
      if c.toNat < 32 then .error (.here .controlCharacter cs) else stringBody start fuel (c :: done) rest

/-- The string whose opening quote starts the text. -/
def string (start : List Char) : Step String :=
  stringBody start start.length [] (start.drop 1)

/-! ### Numbers -/

/-- The integer part of a numeral: a zero, or digits that do not start with one. -/
def wholePart? : List Char → Option (List Char × List Char)
  | '0' :: rest => some (['0'], rest)
  | c :: rest => if c.isDigit then some ((c :: rest).span Char.isDigit) else none
  | [] => none

/-- The fraction of a numeral, if a digit follows the point. -/
def fraction : List Char → List Char × List Char
  | '.' :: d :: rest =>
    if d.isDigit then
      let (places, rest) := (d :: rest).span Char.isDigit
      ('.' :: places, rest)
    else ([], '.' :: d :: rest)
  | cs => ([], cs)

/-- The exponent of a numeral, if it has a digit. -/
def exponent (cs : List Char) : List Char × List Char :=
  match cs with
  | e :: rest =>
    if e == 'e' || e == 'E' then
      let (sign, digits) := match rest with
        | '+' :: r => (['+'], r)
        | '-' :: r => (['-'], r)
        | r => ([], r)
      let (digits, after) := digits.span Char.isDigit
      if digits.isEmpty then ([], cs) else (e :: sign ++ digits, after)
    else ([], cs)
  | [] => ([], [])

/-- The number a numeral with a fraction or an exponent names. -/
def numeral? (form : NumberForm) (cs : List Char) : Option Number :=
  match form with
  | .decimal => (Decimal.ofText? cs).map .dec
  | .double =>
    let (negative, body) := match cs with
      | '-' :: r => (true, r)
      | r => (false, r)
    let (whole, rest) := body.span Char.isDigit
    let (places, rest) := fraction rest
    let coefficient := Text.asciiDecimalOf (whole ++ places.drop 1)
    let places : Int := (places.drop 1).length
    (Decimal.exponentPart? rest).map fun e => .dbl (.ofScientific negative coefficient (e - places))

/-- The number at the start of the text. -/
def number (form : NumberForm) (start : List Char) : Step Value :=
  let (sign, body) := match start with
    | '-' :: rest => (['-'], rest)
    | cs => ([], cs)
  match wholePart? body with
  | none => .error (.here .expectingValue start)
  | some (whole, rest) =>
    let (places, rest) := fraction rest
    let (power, rest) := exponent rest
    if places.isEmpty && power.isEmpty then
      if Text.digitLimit < whole.length then .error (.tooLong whole.length)
      else
        let n : Int := Text.asciiDecimalOf whole
        .ok (.int (if sign.isEmpty then n else -n), rest)
    else
      match numeral? form (sign ++ whole ++ places ++ power) with
      | some n => .ok (.num n, rest)
      | none => .error .exponentRange

/-- The names for non-finite numbers. -/
def nonFiniteNames : List (String × Double) :=
  [("NaN", .nan), ("Infinity", .infinite false), ("-Infinity", .infinite true)]

/-- The words that stand for a value. -/
def literals : List (String × Value) :=
  [("null", .null), ("true", .bool true), ("false", .bool false)]

/-- The entry of a table whose name starts the text, with the text after it. -/
def named? {α : Type} (table : List (String × α)) (cs : List Char) : Option (String × α × List Char) :=
  table.findSome? fun (name, a) => (name.toList.isPrefixOf? cs).map fun rest => (name, a, rest)

/-- A word or a number at the start of the text. -/
def plain (form : NumberForm) (cs : List Char) : Step Value :=
  match named? literals cs with
  | some (_, v, rest) => .ok (v, rest)
  | none =>
    match named? nonFiniteNames cs with
    | some (name, x, rest) =>
      match form with
      | .decimal => .error (.nonFinite name)
      | .double => .ok (.num (.dbl x), rest)
    | none => number form cs

/-! ### Values -/

mutual

/-- The value at the start of the text.  Of two nested calls one has read a character, so `fuel` need only exceed
twice the length of the text. -/
def value (form : NumberForm) : Nat → List Char → Step Value
  | 0, cs => .error (.here .expectingValue cs)
  | fuel + 1, cs =>
    match cs with
    | [] => .error (.here .expectingValue cs)
    | '"' :: _ => (string cs).map fun (s, rest) => (.str s, rest)
    | '[' :: rest =>
      match skipSpace rest with
      | ']' :: rest => .ok (.arr [], rest)
      | rest => items form fuel [] rest
    | '{' :: rest =>
      match skipSpace rest with
      | '}' :: rest => .ok (.obj [], rest)
      | rest => members form fuel [] rest
    | _ => plain form cs

/-- The items of an array from one of them on; `done` holds those before, last first. -/
def items (form : NumberForm) : Nat → List Value → List Char → Step Value
  | 0, _, cs => .error (.here .expectingValue cs)
  | fuel + 1, done, cs =>
    match value form fuel cs with
    | .error stop => .error stop
    | .ok (v, rest) =>
      match skipSpace rest with
      | ']' :: rest => .ok (.arr (v :: done).reverse, rest)
      | ',' :: rest => items form fuel (v :: done) (skipSpace rest)
      | rest => .error (.here .expectingComma rest)

/-- The members of an object from the key of one of them on. -/
def members (form : NumberForm) : Nat → List (Scalar × Value) → List Char → Step Value
  | 0, _, cs => .error (.here .expectingName cs)
  | fuel + 1, done, cs =>
    match cs with
    | '"' :: _ =>
      match string cs with
      | .error stop => .error stop
      | .ok (key, rest) =>
        match skipSpace rest with
        | ':' :: rest =>
          match value form fuel (skipSpace rest) with
          | .error stop => .error stop
          | .ok (v, rest) =>
            let done := setKey (.str key) v done
            match skipSpace rest with
            | '}' :: rest => .ok (.obj done, rest)
            | ',' :: rest => members form fuel done (skipSpace rest)
            | rest => .error (.here .expectingComma rest)
        | rest => .error (.here .expectingColon rest)
    | _ => .error (.here .expectingName cs)

end

/-- The fault at a place of a text, located by line and column. -/
def locate (text : List Char) (fault : Fault) (position : Nat) : ReadError :=
  let before := text.take position
  let line := before.count '\n' + 1
  let column := (before.reverse.takeWhile (· != '\n')).length + 1
  .malformed fault position line column

/-- The value that a text holds. -/
def read (form : NumberForm) (text : List Char) : Except ReadError Value :=
  let fail (fault : Fault) (rest : List Char) : Except ReadError Value :=
    .error (locate text fault (text.length - rest.length))
  if text.head? == some '\uFEFF' then fail .byteOrderMark text
  else
    match value form (2 * text.length + 2) (skipSpace text) with
    | .error (.here fault rest) => fail fault rest
    | .error (.nonFinite name) => .error (.nonFinite name)
    | .error .exponentRange => .error .exponentRange
    | .error (.tooLong digits) => .error (.tooLong digits)
    | .error (.loneHalf text) => .error (.loneHalf text)
    | .ok (v, rest) =>
      match skipSpace rest with
      | [] => .ok v
      | rest => fail .extraData rest

end Conform.Json
