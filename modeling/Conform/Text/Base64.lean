/-!
# Base 64

Reading base 64 leniently: characters outside the alphabet do not count, and nothing counts after the padding
that completes a group.
-/

namespace Conform.Text.Base64

/-- The number that a character stands for. -/
def sextet? (c : Char) : Option Nat :=
  if 'A' ≤ c && c ≤ 'Z' then some (c.toNat - 65)
  else if 'a' ≤ c && c ≤ 'z' then some (c.toNat - 71)
  else if c.isDigit then some (c.toNat + 4)
  else if c == '+' then some 62
  else if c == '/' then some 63
  else none

/-- The bytes of the text that follows `place` characters of a group whose bits not yet used are `bits`.  `pads` is
the number of padding characters just before. -/
def decodeFrom (place bits pads : Nat) : List Char → Option (List UInt8)
  | [] => if place == 0 then some [] else none
  | c :: rest =>
    if c == '=' then
      if 2 ≤ place && 4 ≤ place + pads + 1 then some []
      else decodeFrom place bits (if 2 ≤ place then pads + 1 else pads) rest
    else
      match sextet? c with
      | none => decodeFrom place bits pads rest
      | some n =>
        match place with
        | 0 => decodeFrom 1 n 0 rest
        | 1 => (decodeFrom 2 (n % 16) 0 rest).map ((bits * 4 + n / 16).toUInt8 :: ·)
        | 2 => (decodeFrom 3 (n % 4) 0 rest).map ((bits * 16 + n / 4).toUInt8 :: ·)
        | _ => (decodeFrom 0 0 0 rest).map ((bits * 64 + n).toUInt8 :: ·)

/-- The bytes of a text. -/
def decode (cs : List Char) : Option (List UInt8) := decodeFrom 0 0 0 cs

end Conform.Text.Base64
