import Conform.Format.Identifier
import Conform.Format.Time
import Conform.Json.Value
import Conform.Regex.Reader

/-!
# The standard formats

The formats that are known by name.  A format of texts accepts every value that is no text, one of integers every
value that is no number.
-/

namespace Conform

/-- A format known by name. -/
inductive StandardFormat where
  | dateTime
  | date
  | time
  | duration
  | email
  | idnEmail
  | hostname
  | idnHostname
  | ipv4
  | ipv6
  | uri
  | uriReference
  | iri
  | iriReference
  | uuid
  | uriTemplate
  | jsonPointer
  | relativeJsonPointer
  /-- A regular expression, in which characters may be called by name. -/
  | regex (characters : CharacterNames)
  | int32
  | int64
  deriving Repr

namespace StandardFormat

/-- All formats. -/
def all (characters : CharacterNames) : List StandardFormat :=
  [.dateTime, .date, .time, .duration, .email, .idnEmail, .hostname, .idnHostname, .ipv4, .ipv6, .uri,
  .uriReference, .iri, .iriReference, .uuid, .uriTemplate, .jsonPointer, .relativeJsonPointer, .regex characters,
  .int32, .int64]

/-- The name of a format. -/
def name : StandardFormat → String
  | dateTime => "date-time"
  | date => "date"
  | time => "time"
  | duration => "duration"
  | email => "email"
  | idnEmail => "idn-email"
  | hostname => "hostname"
  | idnHostname => "idn-hostname"
  | ipv4 => "ipv4"
  | ipv6 => "ipv6"
  | uri => "uri"
  | uriReference => "uri-reference"
  | iri => "iri"
  | iriReference => "iri-reference"
  | uuid => "uuid"
  | uriTemplate => "uri-template"
  | jsonPointer => "json-pointer"
  | relativeJsonPointer => "relative-json-pointer"
  | regex _ => "regex"
  | int32 => "int32"
  | int64 => "int64"

/-- The format of a name. -/
def ofName? (characters : CharacterNames) (name : String) : Option StandardFormat :=
  (all characters).find? (·.name == name)

/-- The number of bits, for a format of integers. -/
def bits? : StandardFormat → Option Nat
  | int32 => some 32
  | int64 => some 64
  | _ => none

/-- The text is a pattern.  Two errors in it are passed on. -/
def isPattern (characters : CharacterNames) (s : String) : Except Regex.ReadError Bool :=
  match Regex.ofText characters s with
  | .ok _ => .ok true
  | .error (.fault _ _) => .ok false
  | .error e => .error e

/-- A text has the format. -/
def acceptsText (f : StandardFormat) (s : String) : Except Regex.ReadError Bool :=
  let cs := s.toList
  match f with
  | dateTime => .ok (Format.isDateTime cs)
  | date => .ok (Format.isDate cs)
  | time => .ok (Format.isTime cs)
  | duration => .ok (Format.isDuration cs)
  | email => .ok (Format.isEmail cs)
  | idnEmail => .ok (Format.isInternationalEmail cs)
  | hostname => .ok (Network.isHostname cs)
  | idnHostname => .ok (Network.isInternationalHostname cs)
  | ipv4 => .ok (Network.isIPv4 cs)
  | ipv6 => .ok (Network.isIPv6 cs)
  | uri => .ok (Format.isUri cs)
  | uriReference => .ok (Format.isUriReference cs)
  | iri => .ok (Format.isIri cs)
  | iriReference => .ok (Format.isIriReference cs)
  | uuid => .ok (Format.isUuid cs)
  | uriTemplate => .ok (Format.isUriTemplate cs)
  | jsonPointer => .ok (Format.isJsonPointer cs)
  | relativeJsonPointer => .ok (Format.isRelativeJsonPointer cs)
  | regex characters => isPattern characters s
  | int32 | int64 => .ok true

/-- A number has the format. -/
def acceptsNumber (f : StandardFormat) (n : Number) : Bool :=
  match f.bits? with
  | some bits => let half := Int.pow 2 (bits - 1); n.isIntegerWithin (-half) (half - 1)
  | none => true

/-- A value has the format. -/
def accepts (f : StandardFormat) : Value → Except Regex.ReadError Bool
  | .str s => f.acceptsText s
  | .num n => .ok (f.acceptsNumber n)
  | _ => .ok true

end StandardFormat

end Conform
