import Conform.Text.CodePoint

/-!
# Faults of YAML documents

Why a text is no YAML document, or a document has no value.  Faults of the first kind are told by
`Fault.isMalformed`; the others concern a single scalar that claims a type which its text does not have.
-/

namespace Conform.Yaml

/-- What is wrong with a YAML document. -/
inductive Fault where
  /-- A control character, or one that is no character. -/
  | special
  /-- A key without its colon. -/
  | missingColon
  /-- A sequence entry where no block can start. -/
  | misplacedEntry
  /-- A mapping key where no block can start. -/
  | misplacedKey
  /-- A mapping value where no block can start. -/
  | misplacedValue
  /-- A character that starts no token. -/
  | stray
  | directive
  | anchorName
  | tag
  | blockHeader
  | unterminated
  /-- A document mark inside a quoted scalar. -/
  | markInside
  | escape
  /-- Another token than the grammar asks for. -/
  | unexpected
  | duplicateDirective
  | version
  | undefinedHandle
  | undefinedAlias
  | duplicateAnchor
  /-- An alias within the node that it stands for. -/
  | recursiveAlias
  | severalDocuments
  /-- A node of another kind than its tag asks for. -/
  | wrongKind
  | undefinedTag
  /-- A key that is a collection. -/
  | collectionKey
  | merge
  | binary
  /-- An entry of an ordered mapping that is no single pair. -/
  | singlePair
  /-- An escape beyond the last character. -/
  | characterRange
  /-- An escape beyond every machine number. -/
  | characterOverflow
  /-- A scalar with an escape for half of a surrogate pair, as far as it has been read.  No value is made of it. -/
  | loneHalf (text : CodeText)
  /-- A text that is no integer to the base. -/
  | integer (base : Nat) (text : String)
  /-- An integer with so many digits that it is not read. -/
  | tooLong (digits : Nat)
  | float (text : String)
  | boolean (text : String)
  /-- A number without a character. -/
  | emptyNumber
  deriving DecidableEq, Repr

/-- The document is malformed, rather than that a scalar has not the type it claims. -/
def Fault.isMalformed : Fault → Bool
  | .characterRange | .characterOverflow | .loneHalf _ | .integer _ _ | .tooLong _ | .float _ | .boolean _ | .emptyNumber => false
  | _ => true

/-- The words for a fault. -/
def Fault.text : Fault → String
  | .special => "special characters are not allowed"
  | .missingColon => "could not find expected ':'"
  | .misplacedEntry => "sequence entries are not allowed here"
  | .misplacedKey => "mapping keys are not allowed here"
  | .misplacedValue => "mapping values are not allowed here"
  | .stray => "found character that cannot start any token"
  | .directive => "malformed directive"
  | .anchorName => "malformed anchor or alias"
  | .tag => "malformed tag"
  | .blockHeader => "malformed header of a block scalar"
  | .unterminated => "found unexpected end of stream"
  | .markInside => "found unexpected document separator"
  | .escape => "malformed escape sequence"
  | .unexpected => "found an unexpected token"
  | .duplicateDirective => "found duplicate directive"
  | .version => "found incompatible YAML document"
  | .undefinedHandle => "found undefined tag handle"
  | .undefinedAlias => "found undefined alias"
  | .duplicateAnchor => "found duplicate anchor"
  | .recursiveAlias => "found recursive alias"
  | .severalDocuments => "expected a single document"
  | .wrongKind => "found a node of the wrong kind"
  | .undefinedTag => "could not determine a constructor for the tag"
  | .collectionKey => "found unhashable key"
  | .merge => "expected a mapping for merging"
  | .binary => "failed to decode base64 data"
  | .singlePair => "expected a single mapping item"
  | .characterRange => "chr() arg not in range(0x110000)"
  | .characterOverflow => "signed integer is greater than maximum"
  | .loneHalf text => text.unencodable
  | .integer base text =>
    "invalid literal for int() with base " ++ toString base ++ ": " ++ Text.Quoted.quote text
  | .tooLong digits => Text.tooLongToRead digits
  | .float text => "could not convert string to float: " ++ Text.Quoted.quote text
  | .boolean text => Text.Quoted.quote text
  | .emptyNumber => "string index out of range"

end Conform.Yaml
