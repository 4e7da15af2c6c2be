import Conform.Text.Digit

/-!
# UTF-8

Decoding bytes to characters.  The strict reading, `Utf8.decode`, stops at the first ill-formed piece and says
where it lies and what is wrong with it; the lenient one, `Utf8.decodeLossy`, puts a replacement character in its
place.  Both agree on what an ill-formed piece is: a lead byte together with as many continuation bytes as could
still belong to a character.
-/

namespace Conform.Text.Utf8

/-- What is wrong with a piece that is not UTF-8. -/
inductive Fault where
  /-- No character starts with this byte. -/
  | badStart
  /-- A byte that cannot continue the character stands inside it. -/
  | badContinuation
  /-- The bytes end inside a character. -/
  | truncated
  deriving DecidableEq, Repr

/-- The first ill-formed piece of a byte sequence: its first byte, where it starts and how long it is. -/
structure DecodeError where
  fault : Fault
  byte : UInt8
  start : Nat
  length : Nat
  deriving DecidableEq, Repr

/-- The words for a fault. -/
def Fault.text : Fault → String
  | .badStart => "invalid start byte"
  | .badContinuation => "invalid continuation byte"
  | .truncated => "unexpected end of data"

/-- The words for an error: the byte if the piece is a single one, and where it lies. -/
def DecodeError.message (e : DecodeError) : String :=
  (if e.length == 1 then
    "'utf-8' codec can't decode byte 0x" ++ String.ofList (hexDigits false 2 e.byte.toNat) ++ " in position " ++
      toString e.start
  else
    "'utf-8' codec can't decode bytes in position " ++ toString e.start ++ "-" ++
      toString (e.start + e.length - 1)) ++ ": " ++ e.fault.text

/-- The number of continuation bytes a lead byte calls for and the range of the first of them. -/
def lead? (b : UInt8) : Option (Nat × UInt8 × UInt8) :=
  if b < 0x80 then some (0, 0x80, 0xBF)
  else if b < 0xC2 then none
  else if b < 0xE0 then some (1, 0x80, 0xBF)
  else if b < 0xF0 then
    some (2, if b == 0xE0 then 0xA0 else 0x80, if b == 0xED then 0x9F else 0xBF)
  else if b < 0xF5 then
    some (3, if b == 0xF0 then 0x90 else 0x80, if b == 0xF4 then 0x8F else 0xBF)
  else none

/-- How many of the next `need` bytes continue a character; the first must lie in its own range. -/
def goodCount : Nat → UInt8 → UInt8 → List UInt8 → Nat
  | 0, _, _, _ => 0
  | _ + 1, _, _, [] => 0
  | need + 1, low, high, b :: rest =>
    if low ≤ b && b ≤ high then goodCount need 0x80 0xBF rest + 1 else 0

/-- The code point of a lead byte with its continuation bytes. -/
def codePoint (b : UInt8) (need : Nat) (rest : List UInt8) : Nat :=
  let top := match need with
    | 0 => b.toNat
    | 1 => b.toNat - 0xC0
    | 2 => b.toNat - 0xE0
    | _ => b.toNat - 0xF0
  (rest.take need).foldl (fun n c => n * 64 + (c.toNat - 0x80)) top

/-- The character that starts with byte `b`, with the number of further bytes it takes; or what is wrong and how
many further bytes the ill-formed piece takes. -/
def head (b : UInt8) (rest : List UInt8) : Except (Fault × Nat) (Char × Nat) :=
  match lead? b with
  | none => .error (.badStart, 0)
  | some (need, low, high) =>
    let good := goodCount need low high rest
    if good == need then .ok (Char.ofNat (codePoint b need rest), need)
    else if good == rest.length then .error (.truncated, good)
    else .error (.badContinuation, good)

/-- The characters of a byte sequence that starts `position` bytes into a longer one. -/
def decodeFrom (position : Nat) : List UInt8 → Except DecodeError (List Char)
  | [] => .ok []
  | b :: rest =>
    match head b rest with
    | .error (fault, more) => .error ⟨fault, b, position, more + 1⟩
    | .ok (c, more) => (decodeFrom (position + more + 1) (rest.drop more)).map (c :: ·)
termination_by bytes => bytes.length
decreasing_by simp only [List.length_drop, List.length_cons]; omega

/-- The characters of a byte sequence. -/
def decode (bytes : List UInt8) : Except DecodeError (List Char) := decodeFrom 0 bytes

/-- The characters of a byte sequence that may open with a byte order mark. -/
def decodeMarked : List UInt8 → Except DecodeError (List Char)
  | 0xEF :: 0xBB :: 0xBF :: rest => decode rest
  | bytes => decode bytes

/-- The characters of a byte sequence, with a replacement character for each ill-formed piece. -/
def decodeLossy : List UInt8 → List Char
  | [] => []
  | b :: rest =>
    match head b rest with
    | .error (_, more) => '\uFFFD' :: decodeLossy (rest.drop more)
    | .ok (c, more) => c :: decodeLossy (rest.drop more)
termination_by bytes => bytes.length
decreasing_by all_goals (simp only [List.length_drop, List.length_cons]; omega)

/-- The bytes of a text. -/
def encode (cs : List Char) : List UInt8 := cs.flatMap String.utf8EncodeChar

end Conform.Text.Utf8
