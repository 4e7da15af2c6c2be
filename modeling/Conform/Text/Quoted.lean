import Conform.Text.Digit
import Conform.Text.Printable

/-!
# Quoted text

Messages show a text between quotes with everything unprintable escaped: single quotes, unless the text holds one
and no double quote.
-/

namespace Conform.Text.Quoted

/-- The quote that needs the fewest escapes. -/
def quoteFor (cs : List Char) : Char :=
  if cs.contains '\x27' && !cs.contains '"' then '"' else '\x27'

/-- A character by number: two, four or eight hexadecimal digits. -/
def numbered (n : Nat) : List Char :=
  if n < 0x100 then '\\' :: 'x' :: hexDigits false 2 n
  else if n < 0x10000 then '\\' :: 'u' :: hexDigits false 4 n
  else '\\' :: 'U' :: hexDigits false 8 n

/-- A character inside the given quotes. -/
def escape (quote c : Char) : List Char :=
  if c == quote || c == '\\' then ['\\', c]
  else if c == '\n' then ['\\', 'n']
  else if c == '\r' then ['\\', 'r']
  else if c == '\t' then ['\\', 't']
  else if isPrintable c then [c]
  else numbered c.toNat

/-- A text in quotes. -/
def encode (cs : List Char) : List Char :=
  let quote := quoteFor cs
  quote :: cs.flatMap (escape quote) ++ [quote]

/-- A text in quotes. -/
def quote (s : String) : String := String.ofList (encode s.toList)

/-- A byte inside the given quotes. -/
def escapeByte (quote : Char) (b : UInt8) : List Char :=
  if b < 0x80 then
    if b == 0x7F then numbered 0x7F else escape quote (Char.ofNat b.toNat)
  else numbered b.toNat

/-- A byte string in quotes, marked by a leading `b`. -/
def encodeBytes (bs : List UInt8) : List Char :=
  let quote := quoteFor (bs.map fun b => Char.ofNat b.toNat)
  'b' :: quote :: bs.flatMap (escapeByte quote) ++ [quote]

end Conform.Text.Quoted
