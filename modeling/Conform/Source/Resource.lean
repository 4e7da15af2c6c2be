import Conform.Failure
import Conform.Yaml.Value

/-!
# Resources

A document as it is served: text or bytes, with a content type if it has one.  `Resource.decode` reads it as YAML
if the content type or the path of its URI says so, and as JSON otherwise.  The reader of YAML is a parameter, for which
`Yaml.read` is one choice.
-/

namespace Conform

/-- What a resource holds. -/
inductive Content where
  | text (s : String)
  | bytes (bs : List UInt8)
  deriving DecidableEq, Repr

/-- A document as it is served. -/
structure Resource where
  content : Content
  contentType : Option String := none
  deriving DecidableEq, Repr

/-- The characters of a resource; bytes are UTF-8, with a byte order mark or without. -/
def Content.chars : Content → Except Failure (List Char)
  | .text s => .ok s.toList
  | .bytes bs => (Text.Utf8.decodeMarked bs).mapError .utf8

/-- The part is found somewhere in the text. -/
def isPart (part : List Char) : List Char → Bool
  | [] => part.isEmpty
  | c :: cs => part.isPrefixOf (c :: cs) || isPart part cs

/-- The text in small letters, as far as ASCII goes: the names below have no others. -/
def smallAscii (cs : List Char) : List Char := cs.map Char.toLower

/-- The path of a URI is that of a YAML file. -/
def hasYamlPath (uri : String) : Except Failure Bool :=
  match Uri.ofText [] uri.toList with
  | .error fault => .error (.uri fault)
  | .ok u =>
    let path := smallAscii u.path
    .ok (".yaml".toList.isSuffixOf path || ".yml".toList.isSuffixOf path)

/-- A resource of this content type, served under this URI, is YAML. -/
def isYaml (uri : String) (contentType : Option String) : Except Failure Bool :=
  if contentType.any fun t => isPart "yaml".toList (smallAscii t.toList) then .ok true else hasYamlPath uri

/-- What a document without a URI is called. -/
def documentName (uri : String) : String := if uri.isEmpty then "document" else uri

/-- A reader of YAML, whose faults are of the kinds that `Yaml.read` has. -/
abbrev Yaml.Reader : Type := List Char → Except Yaml.Fault Value

/-- The value of a resource served under a URI. -/
def Resource.decode (yaml : Yaml.Reader) (r : Resource) (uri : String) : Except Failure Value := do
  let cs ← r.content.chars
  if ← isYaml uri r.contentType then (yaml cs).mapError (.yaml (documentName uri))
  else (Json.read .decimal cs).mapError (.json (documentName uri))

/-- The value of a text without a URI. -/
def decodeText (text : String) : Except Failure Value :=
  (Json.read .decimal text.toList).mapError (.json (documentName ""))

/-- A text without a URI is read as JSON, whatever the reader of YAML. -/
theorem decode_text (yaml : Yaml.Reader) (text : String) : Resource.decode yaml ⟨.text text, none⟩ "" = decodeText text :=
  rfl

end Conform
