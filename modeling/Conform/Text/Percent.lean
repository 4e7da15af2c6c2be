import Conform.Text.Digit
import Conform.Text.Utf8

/-!
# Percent-encoding

The unreserved characters of a URI stand for themselves; every byte of any other character is written `%XX`.
Decoding leaves a `%` alone that no two hexadecimal digits follow.
-/

namespace Conform.Text.Percent

/-- Letters, digits and the signs that never need encoding. -/
def isUnreserved (c : Char) : Bool :=
  c.isAlphanum || c == '_' || c == '.' || c == '-' || c == '~'

/-- A byte as `%XX`. -/
def encodeByte (b : UInt8) : List Char := '%' :: hexDigits true 2 b.toNat

/-- A character in percent-encoding, where those that `keep` names stand for themselves. -/
def encodeChar (keep : Char → Bool) (c : Char) : List Char :=
  if isUnreserved c || keep c then [c] else (String.utf8EncodeChar c).flatMap encodeByte

/-- A text in percent-encoding. -/
def encode (keep : Char → Bool) (cs : List Char) : List Char := cs.flatMap (encodeChar keep)

/-- The bytes an ASCII text stands for. -/
def bytes : List Char → List UInt8
  | '%' :: a :: b :: rest =>
    match hexValue? a, hexValue? b with
    | some high, some low => UInt8.ofNat (16 * high + low) :: bytes rest
    | _, _ => UInt8.ofNat '%'.toNat :: bytes (a :: b :: rest)
  | c :: rest => UInt8.ofNat c.toNat :: bytes rest
  | [] => []

/-- The characters a text stands for.  `run` holds, last first, the ASCII characters read since the last
character beyond ASCII: bytes combine to a character only within such a run. -/
def decodeRun (run : List Char) : List Char → List Char
  | [] => Utf8.decodeLossy (bytes run.reverse)
  | c :: rest =>
    if c.toNat < 128 then decodeRun (c :: run) rest
    else Utf8.decodeLossy (bytes run.reverse) ++ c :: decodeRun [] rest

/-- The characters a percent-encoded text stands for. -/
def decode (cs : List Char) : List Char := decodeRun [] cs

end Conform.Text.Percent
