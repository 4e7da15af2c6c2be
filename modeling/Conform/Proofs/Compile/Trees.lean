import Conform.Proofs.Compile.Account
import Conform.Proofs.Schema.Tree

/-!
# All trees of a session

A property of nodes that passes from the nodes below to what is built from them holds throughout all trees that a session
compiles, whatever is asked of it (`Account.ofAll`, `Schema.Given.all`).
-/

namespace Conform

/-! ### Sessions -/

/-- What a caller asks of a session. -/
inductive Request where
  | source (s : Source)
  | file (p : Path)
  | uri (u : String)
  | value (v : Value) (base : Option String)
  | text (t : String) (base : Option String)
  /-- To load the documents below a path. -/
  | load (p : Path)

/-- The answer to a request, of which only what it does to the session counts here. -/
def Request.run (setup : Setup) : Request → Compiling Unit
  | .source s => do let _ ← Schema.compileSource setup s
  | .file p => do let _ ← Schema.compileFile setup p
  | .uri u => do let _ ← Schema.compileUri setup u
  | .value v base => do let _ ← Schema.compileValue setup v base
  | .text t base => do let _ ← Schema.compileText setup t base
  | .load p => do let _ ← Compiling.ofLoading (Loader.preLoad setup.world p)

/-- The schema that a request asks for, if it does. -/
def Request.schema? (setup : Setup) : Request → Option (Compiling Schema)
  | .source s => some (Schema.compileSource setup s)
  | .file p => some (Schema.compileFile setup p)
  | .uri u => some (Schema.compileUri setup u)
  | .value v base => some (Schema.compileValue setup v base)
  | .text t base => some (Schema.compileText setup t base)
  | .load _ => none

/-- The session after requests, whether they are granted or not. -/
def Session.after (setup : Setup) (requests : List Request) : Session :=
  requests.foldl (fun s request => ((request.run setup).run.run s).2) {}

/-- The schema is what a session gives for a request, after other requests. -/
def Schema.Given (setup : Setup) (schema : Schema) : Prop :=
  ∃ requests request x, Request.schema? setup request = some x ∧
    (x.run.run (Session.after setup requests)).1 = .ok schema

/-! ### The account of a property -/

/-- The property passes from the nodes that other locations mean to what is built from them. -/
def Setup.Passes (setup : Setup) (P : Node → Prop) : Prop :=
  ∀ (means : Location → Node → Prop) (leads : Location → String → Location → Option String → Prop) l n,
    (∀ t m, means t m → m.All P) → Built setup means leads l n → n.All P

namespace Account

variable {setup : Setup} {P : Node → Prop}

section All

variable (h : setup.Passes P)

/-- The account that tells nothing but that a property holds throughout all trees. -/
def ofAll : Account setup where
  stock _ _ := True
  good _ := True
  means _ n := n.All P
  leads _ _ _ _ := True
  good_part _ _ _ _ _ _ := trivial
  stock_name _ _ _ _ _ _ := trivial
  keeps_target := by
    intro l members inner ref hl hvalue hinner href filed descend path
    have hload (uri : String) : Keeps (Session.Sound (fun _ _ => True) filed) (Compiling.resolve setup.world uri)
        fun _ => True := Compiling.keeps_resolve fun _ => .trivial _
    refine (Scope.keeps_target (fun _ _ => True) fun full uri fragment _ _ => ?_).weaken fun _ _ => ⟨trivial, trivial⟩
    exact Scope.keeps_home (fun _ => trivial) (fun _ _ _ _ _ => trivial) (hload uri)
      fun _ _ => ⟨trivial, fun _ _ _ _ _ _ => trivial⟩
  means_built _ hbuilt := h _ _ _ _ (fun _ _ hm => hm.2) hbuilt
  means_place _ _ _ hm := hm

/-- The computation compiles a tree that has the property throughout, and the session goes on as the account tells. -/
abbrev KeepsAll (x : Compiling Schema) : Prop := Keeps (ofAll h).Sound x fun schema => schema.root.All P

private theorem keeps_loading {α : Type} (x : Loading α) : Keeps (ofAll h).Sound (Compiling.ofLoading x) fun _ => True :=
  Compiling.keeps_ofLoading fun _ => .trivial x

theorem all_compileAt (d : Document) (p : Pointer) : KeepsAll h (Schema.compileAt setup d p) :=
  ((ofAll h).keeps_compileAt (fun _ _ _ _ _ _ => trivial) fun _ _ => trivial).weaken fun _ ⟨_, _, _, hm⟩ => hm

theorem all_compileFile (p : Path) : KeepsAll h (Schema.compileFile setup p) :=
  (keeps_loading h _).bind fun _ _ => all_compileAt h _ _

theorem all_compileUri (uri : String) : KeepsAll h (Schema.compileUri setup uri) := by
  unfold Schema.compileUri
  split
  have hload (uri : String) : Keeps (ofAll h).Sound (Compiling.resolve setup.world uri) fun _ => True :=
    Compiling.keeps_resolve fun _ => .trivial _
  refine (hload _).bind fun content _ => ?_
  exact (Compiling.keeps_ofExcept fun _ heq => heq).bind fun p _ => all_compileAt h _ p

theorem all_compileValue (v : Value) (base : Option String) : KeepsAll h (Schema.compileValue setup v base) := by
  unfold Schema.compileValue
  split
  · exact (Compiling.keeps_ofExcept fun _ heq => heq).bind fun uri _ => all_compileAt h _ _
  · exact Compiling.keeps_anonymousKey.bind fun key _ => all_compileAt h _ _

theorem all_compileText (text : String) (base : Option String) : KeepsAll h (Schema.compileText setup text base) := by
  unfold Schema.compileText Schema.compileRead
  split
  · exact all_compileValue h _ _
  · split
    · exact .throw _
    · exact .throw _

theorem all_compileSource (s : Source) : KeepsAll h (Schema.compileSource setup s) := by
  unfold Schema.compileSource
  split
  · exact all_compileFile h _
  · have hfile (text : String) : Keeps (ofAll h).Sound (Schema.isFile setup.world text) fun _ => True :=
      Keeps.tryCatch (keeps_loading h _) fun _ => .pure trivial
    refine (hfile _).bind fun b _ => ?_
    split
    · exact all_compileFile h _
    · split
      · exact all_compileUri h _
      · exact all_compileText h _ _
  · split
    · exact all_compileValue h _ _
    · exact all_compileValue h _ _
    · exact .throw _

theorem all_schema? {request : Request} {x : Compiling Schema} (hx : request.schema? setup = some x) : KeepsAll h x := by
  cases request with
  | source =>
    cases hx
    exact all_compileSource h _
  | file =>
    cases hx
    exact all_compileFile h _
  | uri =>
    cases hx
    exact all_compileUri h _
  | value =>
    cases hx
    exact all_compileValue h _ _
  | text =>
    cases hx
    exact all_compileText h _ _
  | load => cases hx

theorem sound_run {s : Session} (hs : (ofAll h).Sound s) (request : Request) :
    (ofAll h).Sound ((request.run setup).run.run s).2 := by
  have hschema {x : Compiling Schema} (hx : request.schema? setup = some x) :
      Keeps (ofAll h).Sound (do let _ ← x) fun _ => True := (all_schema? h hx).bind fun _ _ => .pure trivial
  suffices hrun : Keeps (ofAll h).Sound (request.run setup) fun _ => True from (hrun s hs).1
  cases request with
  | source | file | uri | value | text => exact hschema rfl
  | load => exact (keeps_loading h _).bind fun _ _ => .pure trivial

end All

/-- Whatever has been asked of a session, the property holds throughout its trees. -/
theorem sound_after {h : setup.Passes P} (requests : List Request) : (ofAll h).Sound (Session.after setup requests) := by
  unfold Session.after
  have hstart : (ofAll h).Sound {} := ⟨trivial, fun hnode => by cases hnode⟩
  generalize ({} : Session) = s at hstart
  induction requests generalizing s with
  | nil => exact hstart
  | cons request requests ih => exact ih _ (sound_run h hstart request)

end Account

theorem Schema.Given.all {setup : Setup} {P : Node → Prop} {schema : Schema} (hgiven : schema.Given setup)
    (h : setup.Passes P) : schema.root.All P := by
  obtain ⟨requests, request, x, hx, hschema⟩ := hgiven
  exact (Account.all_schema? h hx _ (Account.sound_after requests)).2 schema hschema

end Conform
