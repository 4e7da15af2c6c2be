import Conform.Pointer

/-!
# Pointers of code points

The pointers of JSON documents have texts for tokens.  A pointer that is made of other tokens may hold halves of surrogate
pairs; its text does too, and it has no fragment, for a fragment is made of bytes.
-/

namespace Conform

/-- A location by tokens in which halves of surrogate pairs may stand alone. -/
structure CodePointer where
  tokens : List CodeText := []
  deriving DecidableEq, Repr

/-- A pointer among those of code points. -/
def Pointer.codes (p : Pointer) : CodePointer := ⟨p.tokens.map .ofString⟩

namespace CodePointer

instance : Coe Pointer CodePointer := ⟨Pointer.codes⟩

/-- The pointer is that of the whole document. -/
def isRoot (p : CodePointer) : Bool := p.tokens.isEmpty

/-- The written form of a token. -/
def escape (t : CodeText) : CodeText := t.mapRuns Pointer.escape

/-- The token of a written form. -/
def unescape (t : CodeText) : CodeText := t.mapRuns Pointer.unescape

/-- The text of a pointer. -/
def text (p : CodePointer) : CodeText := ⟨p.tokens.flatMap fun t => .char '/' :: (escape t).codes⟩

/-- The pointer that a text denotes. -/
def parse (text : CodeText) : Except PointerFault CodePointer :=
  match text.codes with
  | [] => .ok ⟨[]⟩
  | .char '/' :: rest => .ok ⟨(Text.fields (.char '/') rest).map fun part => unescape ⟨part⟩⟩
  | _ => .error (.malformed text)

/-- A token as a part of a fragment, if it has bytes. -/
def tokenFragment (keep : Char → Bool) (t : CodeText) : Except CodeText (List Char) :=
  match (escape t).toString? with
  | some s => .ok ('/' :: Text.Percent.encode keep s.toList)
  | none => .error (escape t)

/-- The pointer as a URI fragment, with the characters that `keep` names left readable; or the first token without bytes. -/
def fragmentKeeping (keep : Char → Bool) (p : CodePointer) : Except CodeText String :=
  (p.tokens.mapM (tokenFragment keep)).map fun parts => String.ofList ('#' :: parts.flatten)

/-- The pointer as a URI fragment. -/
def fragment (p : CodePointer) : Except CodeText String := p.fragmentKeeping fun _ => false

/-- The pointer as a URI fragment with `$` left readable. -/
def schemaFragment (p : CodePointer) : Except CodeText String := p.fragmentKeeping (· == '$')

/-- The pointer that a URI fragment denotes, with or without its `#`. -/
def ofFragment (fragment : CodeText) : Except PointerFault CodePointer :=
  let body := match fragment.codes with
    | .char '#' :: rest => rest
    | cs => cs
  parse (CodeText.mapRuns Text.Percent.decode ⟨body⟩)

end CodePointer

end Conform
