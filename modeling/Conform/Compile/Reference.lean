import Conform.Compile.Keyword

/-!
# References

Where a reference leads to: the document that its URI names, which may have to be loaded, and the location that
its fragment names, by a pointer or by a plain name.
-/

namespace Conform

/-- The location in a document that a fragment names, for a part of the document that lies at `origin`. -/
def targetPointer? (content : Value) (origin : Pointer) (fragment : Option String) :
    Except Failure (Option Pointer) :=
  match fragment with
  | none => .ok (some origin)
  | some text =>
    match text.toList with
    | [] => .ok (some origin)
    | '/' :: _ => ((Pointer.ofFragment text).map fun p => some (origin.append p)).mapError .pointer
    | _ => .ok (findAnchor? content text)

namespace Scope

/-- The part of a document that a URI without a fragment names: the document at hand if the URI is empty, a part
that is known, or a document that is loaded. -/
def home (s : Scope) (uri : String) : Compiling Home := do
  if uri.isEmpty then return ⟨s.document, .root⟩
  match (← get).homes.lookup uri with
  | some home => return home
  | none =>
    let content ← Compiling.resolve s.setup.world uri
    let d : Document := ⟨uri, some uri, content⟩
    Compiling.registerDocument d
    return ⟨d, .root⟩

/-- The value at a pointer, if there is one. -/
def valueAt? (content : Value) (p : Pointer) : Except Failure (Option Value) :=
  match p.eval content with
  | .ok v => .ok (some v)
  | .error (.badNumeral t) => .error (.pointer (.badNumeral t))
  | .error _ => .ok none

/-- The location that a reference leads to, with the fragment of the reference. -/
def target (s : Scope) (ref : String) (path : Pointer) : Compiling (Location × Option String) := do
  let (uri, fragment) := Uri.splitFragment (← Compiling.ofExcept (resolveUri s.base ref))
  let home ← s.home uri
  let d := home.document
  match ← Compiling.ofExcept (targetPointer? d.content home.origin fragment) with
  | none => s.fail (.reference ref) path
  | some p =>
    match ← Compiling.ofExcept (valueAt? d.content p) with
    | none => s.fail (.reference ref) path
    | some value =>
      let dialect ← Compiling.ofExcept d.dialect?
      let base ← Compiling.ofExcept (d.baseAt p)
      return (⟨d, value, p, base, dialect.or s.dialect⟩, fragment)

/-- The node of a reference. -/
def reference (s : Scope) (value : Value) : Compiling Node := do
  let path := s.pointer.child "$ref"
  match value with
  | .str ref =>
    let (location, fragment) ← s.target ref path
    return .reference (s.siteAt path) (← s.descend location) fragment
  | _ => s.fail (.shape "$ref" .text) path

end Scope

end Conform
