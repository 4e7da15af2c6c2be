import Conform.Network.Address
import Conform.Network.Hostname
import Conform.Text.Blank

/-!
# Addresses and identifiers

Mail addresses, URIs and their relatives, UUIDs, and the two forms of JSON pointer.  A line break may follow the
whole.
-/

namespace Conform.Format

/-! ### Mail addresses -/

/-- A character of an atom in the local part of a mail address. -/
def isAtomChar (c : Char) : Bool := c.isAlphanum || "!#$%&'*+/=?^_\x60\x7b|\x7d~-".toList.contains c

/-- Atoms between single dots. -/
def isDotAtom (cs : List Char) : Bool :=
  (Text.fields '.' cs).all fun atom => !atom.isEmpty && atom.all isAtomChar

/-- The text between square brackets. -/
def bracketed? (cs : List Char) : Option (List Char) :=
  match cs with
  | '[' :: rest => if rest.getLast? == some ']' then some rest.dropLast else none
  | _ => none

/-- The text of an address literal: IPv4, or IPv6 with its mark. -/
def isAddressLiteral (cs : List Char) : Bool :=
  if (cs.take 5).map Char.toLower == "ipv6:".toList then Network.isIPv6 (cs.drop 5) else Network.isIPv4 cs

/-- The text of a mail address.  With an address literal the local part may hold any characters. -/
def isEmail (cs : List Char) : Bool :=
  match Text.cutLast? '@' cs with
  | none => false
  | some (mailbox, domain) =>
    !mailbox.isEmpty && mailbox.length ≤ 64 &&
      match bracketed? domain with
      | some literal => isAddressLiteral literal
      | none => isDotAtom (Text.dropFinalBreak mailbox) && Network.isHostname domain

/-- The text of an internationalized mail address. -/
def isInternationalEmail (cs : List Char) : Bool :=
  match Text.cutLast? '@' cs with
  | none => false
  | some (mailbox, domain) => !mailbox.isEmpty && !mailbox.any Text.isBlank && Network.isInternationalHostname domain

/-! ### URIs -/

/-- A character that a URI may hold as it is. -/
def isUriChar (c : Char) : Bool := c.isAlphanum || "-._~:/?#[]@!$&'()*+,;=".toList.contains c

/-- Characters of a URI, and percent-encoded bytes. -/
def isUriText : List Char → Bool
  | '%' :: a :: b :: rest => Text.isHex a && Text.isHex b && isUriText rest
  | c :: rest => isUriChar c && isUriText rest
  | [] => true

/-- A character that an IRI may hold. -/
def isIriChar (c : Char) : Bool :=
  !(c.toNat ≤ 0x20 || c.toNat == 0x7F || "<>\"\x7b\x7d|\\^\x60".toList.contains c)

/-- The text starts with a scheme and its colon. -/
def hasScheme (cs : List Char) : Bool :=
  match Text.cut? ':' cs with
  | some (c :: rest, _) => c.isAlpha && rest.all fun c => c.isAlphanum || c == '+' || c == '.' || c == '-'
  | _ => false

/-- The text has at most one fragment mark. -/
def hasOneFragment (cs : List Char) : Bool := cs.count '#' ≤ 1

/-- The text of a URI reference. -/
def isUriReference (cs : List Char) : Bool := isUriText (Text.dropFinalBreak cs) && hasOneFragment cs

/-- The text of a URI. -/
def isUri (cs : List Char) : Bool := hasScheme cs && isUriReference cs

/-- The text of an IRI reference. -/
def isIriReference (cs : List Char) : Bool := (Text.dropFinalBreak cs).all isIriChar && hasOneFragment cs

/-- The text of an IRI. -/
def isIri (cs : List Char) : Bool := hasScheme cs && isIriReference cs

/-- Braces enclose expressions and are not nested; `within` says that one is open. -/
def bracesPaired (within : Bool) : List Char → Bool
  | [] => !within
  | c :: rest =>
    if c == '{' then !within && bracesPaired true rest
    else if c == '}' then within && bracesPaired false rest
    else bracesPaired within rest

/-- The text of a URI template. -/
def isUriTemplate (cs : List Char) : Bool := bracesPaired false cs

/-! ### Other identifiers -/

/-- The text of a UUID. -/
def isUuid (cs : List Char) : Bool :=
  let parts := Text.fields '-' (Text.dropFinalBreak cs)
  parts.map List.length == [8, 4, 4, 4, 12] && parts.all fun part => part.all Text.isHex

/-- The characters of a reference token: a `~` starts an escape. -/
def isTokenText : List Char → Bool
  | '~' :: '0' :: rest => isTokenText rest
  | '~' :: '1' :: rest => isTokenText rest
  | c :: rest => c != '~' && isTokenText rest
  | [] => true

/-- Nothing, or tokens with a slash before each. -/
def isPointerText : List Char → Bool
  | [] => true
  | '/' :: rest => isTokenText rest
  | _ => false

/-- The whole text, or the text without a line break at its end, passes the test. -/
def allowingBreak (test : List Char → Bool) (cs : List Char) : Bool := test cs || test (Text.dropFinalBreak cs)

/-- The text of a JSON pointer. -/
def isJsonPointer (cs : List Char) : Bool := allowingBreak isPointerText cs

/-- A number without leading zeros, then `#` or a pointer. -/
def isRelativePointerText (cs : List Char) : Bool :=
  let digits := cs.takeWhile Char.isDigit
  let rest := cs.dropWhile Char.isDigit
  !digits.isEmpty && (digits == ['0'] || digits.head? != some '0') && (rest == ['#'] || isPointerText rest)

/-- The text of a relative JSON pointer. -/
def isRelativeJsonPointer (cs : List Char) : Bool := allowingBreak isRelativePointerText cs

end Conform.Format
