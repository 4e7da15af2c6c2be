import Conform.Text.Digit
import Conform.Text.Split

/-!
# Internet addresses

The texts of IPv4 addresses (four decimal octets without leading zeros) and of IPv6 addresses (eight groups of up
to four hexadecimal digits, one run of zero groups written `::`, the last two groups possibly an IPv4 address).
-/

namespace Conform.Network

/-- A decimal number up to 255 without a leading zero. -/
def isOctet (cs : List Char) : Bool :=
  !cs.isEmpty && cs.all Char.isDigit && cs.length ≤ 3 && (cs == ['0'] || cs.head? != some '0') &&
    Text.asciiDecimalOf cs ≤ 255

/-- The text of an IPv4 address. -/
def isIPv4 (cs : List Char) : Bool :=
  let parts := Text.fields '.' cs
  parts.length == 4 && parts.all isOctet

/-- One to four hexadecimal digits. -/
def isGroup (cs : List Char) : Bool := !cs.isEmpty && cs.all Text.isHex && cs.length ≤ 4

/-- The parts between colons, where a final IPv4 address counts as two groups. -/
def groups? (cs : List Char) : Option (List (List Char)) :=
  let parts := Text.fields ':' cs
  match parts.getLast? with
  | none => none
  | some tail =>
    if parts.length < 3 then none
    else if tail.contains '.' then
      if isIPv4 tail then some (parts.dropLast ++ [['0'], ['0']]) else none
    else some parts

/-- The inner parts that are empty: each stands for a `::`. -/
def gaps (parts : List (List Char)) : List Nat :=
  (List.range parts.length).filter fun i => 0 < i && i + 1 < parts.length && parts[i]? == some []

/-- The groups on one side of a `::`, seen from the outside: an empty one is allowed only if it is alone. -/
def side? : List (List Char) → Option (List (List Char))
  | [] => some []
  | [] :: rest => if rest.isEmpty then some [] else none
  | parts => some parts

/-- The groups that are written out. -/
def written? (parts : List (List Char)) : Option (List (List Char)) :=
  match gaps parts with
  | [] => if parts.length == 8 then some parts else none
  | [i] =>
    (side? (parts.take i)).bind fun high =>
      (side? (parts.drop (i + 1)).reverse).bind fun low =>
        if high.length + low.length < 8 then some (high ++ low.reverse) else none
  | _ => none

/-- The text of an IPv6 address. -/
def isIPv6 (cs : List Char) : Bool :=
  match groups? cs with
  | none => false
  | some parts =>
    parts.length ≤ 9 &&
      match written? parts with
      | some groups => groups.all isGroup
      | none => false

/-- The text of an IPv6 address with or without a zone: a name after a percent sign. -/
def isZonedIPv6 (cs : List Char) : Bool :=
  !cs.contains '/' &&
    match Text.cut? '%' cs with
    | none => isIPv6 cs
    | some (address, zone) => !zone.isEmpty && !zone.contains '%' && isIPv6 address

end Conform.Network
