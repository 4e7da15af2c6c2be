import Conform.Json.Value
import Conform.Text.Quoted

/-!
# Writing values

Three written forms of a value: JSON on one line or indented (`Json.write`), with every character beyond ASCII
escaped; the short form that error messages use (`Value.display`); and the literal form that quotes a value of any
kind in a message (`Value.literal`).
-/

namespace Conform

namespace Json

/-- The escape of a character that both written forms of a string share. -/
def shortEscape? : Char → Option (List Char)
  | '"' => some ['\\', '"']
  | '\\' => some ['\\', '\\']
  | '\n' => some ['\\', 'n']
  | '\r' => some ['\\', 'r']
  | '\t' => some ['\\', 't']
  | '\x08' => some ['\\', 'b']
  | '\x0C' => some ['\\', 'f']
  | _ => none

/-- A 16-bit unit by number. -/
def unitEscape (n : Nat) : List Char := '\\' :: 'u' :: Text.hexDigits false 4 n

/-- A character inside a string of ASCII characters: beyond the sixteen-bit range it takes two units. -/
def asciiEscape (c : Char) : List Char :=
  match shortEscape? c with
  | some e => e
  | none =>
    let n := c.toNat
    if 32 ≤ n && n ≤ 126 then [c]
    else if n < 0x10000 then unitEscape n
    else unitEscape (0xD800 + (n - 0x10000) / 0x400) ++ unitEscape (0xDC00 + (n - 0x10000) % 0x400)

/-- A character inside a string that may hold any character but the controls. -/
def plainEscape (c : Char) : List Char :=
  match shortEscape? c with
  | some e => e
  | none => if c.toNat < 32 then unitEscape c.toNat else [c]

/-- A string between double quotes. -/
def quoted (escape : Char → List Char) (s : String) : List Char :=
  '"' :: s.toList.flatMap escape ++ ['"']

/-- How the parts of a value are set apart: on one line, or each on a line of its own. -/
inductive Style where
  | line
  | indented
  deriving DecidableEq, Repr

/-- A new line at a depth. -/
def newLine (depth : Nat) : List Char := '\n' :: List.replicate (2 * depth) ' '

/-- The start of the first part at a depth. -/
def Style.first (style : Style) (depth : Nat) : List Char :=
  match style with
  | .line => []
  | .indented => newLine depth

/-- What stands between two parts at a depth. -/
def Style.between (style : Style) (depth : Nat) : List Char :=
  match style with
  | .line => [',', ' ']
  | .indented => ',' :: newLine depth

/-- A scalar; one that JSON lacks is written as null. -/
def scalar : Scalar → List Char
  | .null => "null".toList
  | .bool b => (if b then "true" else "false").toList
  | .num n => n.text.toList
  | .str s => quoted asciiEscape s
  | .bytes _ => "null".toList

mutual

/-- A value at a depth. -/
def writeAt (style : Style) (depth : Nat) : Value → List Char
  | .scalar s => scalar s
  | .arr [] => ['[', ']']
  | .arr (v :: vs) =>
    '[' :: style.first (depth + 1) ++ writeAt style (depth + 1) v ++ writeItems style (depth + 1) vs ++
      style.first depth ++ [']']
  | .obj [] => ['{', '}']
  | .obj ((k, v) :: ms) =>
    '{' :: style.first (depth + 1) ++ scalar k ++ ':' :: ' ' :: writeAt style (depth + 1) v ++
      writeMembers style (depth + 1) ms ++ style.first depth ++ ['}']
  | .set _ => "null".toList

/-- The items after the first. -/
def writeItems (style : Style) (depth : Nat) : List Value → List Char
  | [] => []
  | v :: vs => style.between depth ++ writeAt style depth v ++ writeItems style depth vs

/-- The members after the first. -/
def writeMembers (style : Style) (depth : Nat) : List (Scalar × Value) → List Char
  | [] => []
  | (k, v) :: ms =>
    style.between depth ++ scalar k ++ ':' :: ' ' :: writeAt style depth v ++ writeMembers style depth ms

end

/-- The JSON text of a value. -/
def write (style : Style) (v : Value) : String := String.ofList (writeAt style 0 v)

end Json

namespace Value

/-- A text longer than forty characters, with its middle left out. -/
def shorten (cs : List Char) : List Char :=
  if 40 < cs.length then cs.take 16 ++ " ... ".toList ++ cs.drop (cs.length - 16) else cs

/-- The short form of a value in error messages: scalars as in JSON, the rest by kind. -/
def display : Value → String
  | .null => "null"
  | .bool b => if b then "true" else "false"
  | .num n => n.text
  | .str s => String.ofList (shorten (Json.quoted Json.plainEscape s))
  | .obj _ => "object"
  | .arr _ => "array"
  | _ => "unknown"

end Value

/-- The literal form of a scalar. -/
def Scalar.literal : Scalar → String
  | .null => "None"
  | .bool b => if b then "True" else "False"
  | .num (.dec d) => "Decimal('" ++ d.text ++ "')"
  | .num n => n.text
  | .str s => Text.Quoted.quote s
  | .bytes bs => String.ofList (Text.Quoted.encodeBytes bs)

/-- The form of a scalar within a sentence: a text or a number as it stands, the rest in literal form. -/
def Scalar.words : Scalar → String
  | .str s => s
  | .num n => n.text
  | s => s.literal

namespace Value

mutual

/-- The literal form of a value. -/
def literal : Value → String
  | .scalar s => s.literal
  | .arr vs => "[" ++ ", ".intercalate (literalItems vs) ++ "]"
  | .obj ms => "\x7b" ++ ", ".intercalate (literalMembers ms) ++ "\x7d"
  | .set [] => "set()"
  | .set es => "\x7b" ++ ", ".intercalate (es.map Scalar.literal) ++ "\x7d"

/-- The literal forms of items. -/
def literalItems : List Value → List String
  | [] => []
  | v :: vs => literal v :: literalItems vs

/-- The literal forms of members. -/
def literalMembers : List (Scalar × Value) → List String
  | [] => []
  | (k, v) :: ms => (k.literal ++ ": " ++ literal v) :: literalMembers ms

end

/-- The literal form of a row of values in round brackets, where a single one is followed by a comma. -/
def literalRow : List Value → String
  | [v] => "(" ++ v.literal ++ ",)"
  | vs => "(" ++ ", ".intercalate (literalItems vs) ++ ")"

/-- The form of a value within a sentence: a text or a number as it stands, the rest in literal form. -/
def words : Value → String
  | .scalar s => s.words
  | v => v.literal

end Value

end Conform
