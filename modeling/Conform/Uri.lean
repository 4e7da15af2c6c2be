import Conform.Network.Address
import Conform.Text.Quoted

/-!
# URIs

Taking a URI apart, putting it together again, and resolving a reference against a base.  The reader is lenient:
leading white space and controls, tabs and line breaks do not count, and any text has parts unless its authority
is malformed.  Only URIs of hierarchical schemes are resolved; a reference under another scheme stands as it is.
-/

namespace Conform

/-- The parts of a URI.  Parameters belong to the last segment of the path. -/
structure Uri where
  scheme : List Char
  authority : List Char
  path : List Char
  parameters : List Char
  query : List Char
  fragment : List Char
  deriving DecidableEq, Repr

/-- What is wrong with the authority of a URI. -/
inductive UriFault where
  /-- A square bracket without its partner. -/
  | brackets
  /-- A bracketed host that starts with `v` and is no future address. -/
  | futureAddress
  /-- A bracketed IPv4 address. -/
  | bracketedIPv4
  /-- A bracketed host that is no address. -/
  | address (host : String)
  /-- A character whose compatibility form is a delimiter. -/
  | delimiter (authority : String)
  deriving DecidableEq, Repr

/-- The words for a fault. -/
def UriFault.message : UriFault → String
  | .brackets => "Invalid IPv6 URL"
  | .futureAddress => "IPvFuture address is invalid"
  | .bracketedIPv4 => "An IPv4 address cannot be in brackets"
  | .address host => Text.Quoted.quote host ++ " does not appear to be an IPv4 or IPv6 address"
  | .delimiter authority =>
    "netloc '" ++ authority ++ "' contains invalid characters under NFKC normalization"

namespace Uri

/-! ### Schemes -/

/-- Schemes whose references are resolved; a URI without a scheme counts as one. -/
def relativeSchemes : List String :=
  ["", "ftp", "http", "gopher", "nntp", "imap", "wais", "file", "https", "shttp", "mms", "prospero", "rtsp",
  "rtsps", "rtspu", "sftp", "svn", "svn+ssh", "ws", "wss"]

/-- Schemes whose URIs have an authority. -/
def authoritySchemes : List String :=
  ["", "ftp", "http", "gopher", "nntp", "telnet", "imap", "wais", "file", "mms", "https", "shttp", "snews",
  "prospero", "rtsp", "rtsps", "rtspu", "rsync", "svn", "svn+ssh", "sftp", "nfs", "git", "git+ssh", "ws", "wss"]

/-- Schemes whose last path segment may have parameters. -/
def parameterSchemes : List String :=
  ["", "ftp", "hdl", "prospero", "http", "imap", "https", "shttp", "rtsp", "rtsps", "rtspu", "sip", "sips", "mms",
  "sftp", "tel"]

/-- The scheme is one of those listed. -/
def schemeIn (table : List String) (scheme : List Char) : Bool := table.contains (String.ofList scheme)

/-- A character of a scheme. -/
def isSchemeChar (c : Char) : Bool := c.isAlphanum || c == '+' || c == '-' || c == '.'

/-- The scheme in lower case and the text after its colon. -/
def cutScheme? (cs : List Char) : Option (List Char × List Char) :=
  match cs with
  | c :: _ =>
    if c.isAlpha then
      match Text.cut? ':' cs with
      | some (scheme, rest) => if scheme.all isSchemeChar then some (scheme.map Char.toLower, rest) else none
      | none => none
    else none
  | [] => none

/-! ### Taking apart -/

/-- The text without what a reader passes over: leading controls and spaces, tabs and line breaks. -/
def clean (cs : List Char) : List Char :=
  (cs.dropWhile (·.toNat ≤ 32)).filter fun c => !(c == '\t' || c == '\n' || c == '\r')

/-- Characters beyond ASCII whose compatibility form holds one of the delimiters of an authority. -/
def hiddenDelimiters : List Nat :=
  [0x2047, 0x2048, 0x2049, 0x2100, 0x2101, 0x2105, 0x2106, 0x2A74, 0xFE13, 0xFE16, 0xFE55, 0xFE56, 0xFE5F, 0xFE6B,
  0xFF03, 0xFF0F, 0xFF1A, 0xFF1F, 0xFF20]

/-- An address of a future version: `v`, hexadecimal digits, a dot and something. -/
def isFutureAddress (host : List Char) : Bool :=
  match Text.cut? '.' host with
  | some (version, rest) => 1 < version.length && (version.drop 1).all Text.isHex && !rest.isEmpty
  | none => false

/-- The fault of a bracketed host. -/
def hostFault? (host : List Char) : Option UriFault :=
  if host.head? == some 'v' then if isFutureAddress host then none else some .futureAddress
  else if Network.isIPv4 host then some .bracketedIPv4
  else if Network.isZonedIPv6 host then none
  else some (.address (String.ofList host))

/-- The fault of the brackets in an authority. -/
def bracketFault? (authority : List Char) : Option UriFault :=
  if authority.contains '[' != authority.contains ']' then some .brackets
  else if authority.contains '[' then
    let inner := ((Text.cut? '[' authority).map (·.2)).getD []
    hostFault? (((Text.cut? ']' inner).map (·.1)).getD inner)
  else none

/-- The fault of an authority that holds a delimiter in disguise. -/
def delimiterFault? (authority : List Char) : Option UriFault :=
  if authority.any fun c => hiddenDelimiters.contains c.toNat then some (.delimiter (String.ofList authority))
  else none

/-- The authority, if the text has one, and the rest. -/
def cutAuthority (cs : List Char) : List Char × List Char :=
  match cs with
  | '/' :: '/' :: rest => rest.span fun c => !(c == '/' || c == '?' || c == '#')
  | cs => ([], cs)

/-- The text before and after the first separator, the latter empty if there is none. -/
def cutOff (sep : Char) (cs : List Char) : List Char × List Char := (Text.cut? sep cs).getD (cs, [])

/-- The parameters of the last segment of a path, and the path without them. -/
def cutParameters (scheme path : List Char) : List Char × List Char :=
  if schemeIn parameterSchemes scheme then
    match Text.cutLast? '/' path with
    | none => cutOff ';' path
    | some (front, segment) =>
      match Text.cut? ';' segment with
      | none => (path, [])
      | some (segment, parameters) => (front ++ '/' :: segment, parameters)
  else (path, [])

/-- The parts of a text, with parameters left in the path.  A text without a scheme of its own is under the scheme
`inherited`. -/
def ofText (inherited : List Char) (text : List Char) : Except UriFault Uri :=
  let cs := clean text
  let (scheme, cs) := (cutScheme? cs).getD (inherited, cs)
  let (authority, cs) := cutAuthority cs
  match bracketFault? authority with
  | some fault => .error fault
  | none =>
    let (cs, fragment) := cutOff '#' cs
    let (path, query) := cutOff '?' cs
    match delimiterFault? authority with
    | some fault => .error fault
    | none => .ok ⟨scheme, authority, path, [], query, fragment⟩

/-- The URI with the parameters of its path told apart. -/
def parametrized (u : Uri) : Uri :=
  let (path, parameters) := cutParameters u.scheme u.path
  { u with path, parameters }

/-! ### Putting together -/

/-- A part with its mark in front, or nothing for an empty part. -/
def marked (mark : Char) (part : List Char) : List Char := if part.isEmpty then [] else mark :: part

/-- The authority and path; a scheme that has authorities shows an empty one. -/
def hierarchy (scheme authority path : List Char) : List Char :=
  if !authority.isEmpty || (!scheme.isEmpty && schemeIn authoritySchemes scheme) || path.take 2 == ['/', '/'] then
    let path := if path.isEmpty || path.head? == some '/' then path else '/' :: path
    '/' :: '/' :: authority ++ path
  else path

/-- The text of a URI. -/
def text (u : Uri) : List Char :=
  let body := hierarchy u.scheme u.authority (u.path ++ marked ';' u.parameters)
  (if u.scheme.isEmpty then body else u.scheme ++ ':' :: body) ++ marked '?' u.query ++ marked '#' u.fragment

/-! ### Resolving -/

/-- The segments of a path with the dot segments taken out; `done` holds those before, last first. -/
def removeDots (done : List (List Char)) : List (List Char) → List (List Char)
  | [] => done.reverse
  | ['.', '.'] :: rest => removeDots (done.drop 1) rest
  | ['.'] :: rest => removeDots done rest
  | segment :: rest => removeDots (segment :: done) rest

/-- The segments without empty ones between the first and the last. -/
def dropInnerEmpty (segments : List (List Char)) : List (List Char) :=
  match segments with
  | [] => []
  | first :: rest => first :: rest.dropLast.filter (!·.isEmpty) ++ rest.getLast?.toList

/-- The segments of a base path that a relative path is put after. -/
def baseSegments (path : List Char) : List (List Char) :=
  let segments := Text.fields '/' path
  if segments.getLast? == some [] then segments else segments.dropLast

/-- The path that a non-empty relative path leads to. -/
def joinPaths (base path : List Char) : List Char :=
  let segments :=
    if path.head? == some '/' then Text.fields '/' path
    else dropInnerEmpty (baseSegments base ++ Text.fields '/' path)
  let resolved := removeDots [] segments
  let endsInDots := segments.getLast? == some ['.'] || segments.getLast? == some ['.', '.']
  let joined := Text.join '/' (if endsInDots then resolved ++ [[]] else resolved)
  if joined.isEmpty then ['/'] else joined

/-- The reference under the same scheme, resolved against the base. -/
def resolveParts (base ref : Uri) : Uri :=
  if schemeIn authoritySchemes ref.scheme && !ref.authority.isEmpty then ref
  else
    let authority := if schemeIn authoritySchemes ref.scheme then base.authority else ref.authority
    if ref.path.isEmpty && ref.parameters.isEmpty then
      { ref with
        authority, path := base.path, parameters := base.parameters
        query := if ref.query.isEmpty then base.query else ref.query }
    else { ref with authority, path := joinPaths base.path ref.path }

/-- The URI that a reference denotes where `base` is in force.  Without a base it stands for itself. -/
def resolve (base ref : String) : Except UriFault String :=
  if base.isEmpty then .ok ref
  else if ref.isEmpty then .ok base
  else
    ((ofText [] base.toList).map parametrized).bind fun b =>
      ((ofText b.scheme ref.toList).map parametrized).map fun r =>
        if r.scheme != b.scheme || !schemeIn relativeSchemes r.scheme then ref
        else String.ofList (resolveParts b r).text

/-- The URI without its fragment.  A URI that has none is left as it is written. -/
def dropFragment (uri : String) : Except UriFault String :=
  if uri.toList.contains '#' then
    (ofText [] uri.toList).map fun u => String.ofList { u.parametrized with fragment := [] }.text
  else .ok uri

/-- The text before the first `#` and, if there is one, the text after it. -/
def splitFragment (uri : String) : String × Option String :=
  match Text.cut? '#' uri.toList with
  | none => (uri, none)
  | some (document, fragment) => (String.ofList document, some (String.ofList fragment))

end Uri

end Conform
