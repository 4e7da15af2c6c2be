import Conform.Proofs.Compile.Neighbours
import Conform.Proofs.Compile.Subnodes
import Conform.Proofs.Compile.Trees
import Conform.Proofs.Schema.Reports

/-!
# Entries of compiled schemas

In a tree that a session compiles every `contains` stands under its keyword, so that what is said of the keywords beside it
can be traced back to it.  Hence the entries of all compiled schemas, whatever they refer to, point into the value and can
be had again from the node that says them (`Schema.entries_reproduced`).
-/

namespace Conform

open Node (IsPlaced)

variable {setup : Setup} {means : Location → Node → Prop} {leads : Location → String → Location → Option String → Prop}
  {l : Location} {members : List (Scalar × Value)} {n : Node}

/-- The node of a keyword stands under its name, except that a conditional stands where its object does. -/
theorem site_of_keyword {keyword : Keyword} {name : String} {value : Value} (hname : Keyword.ofName name = keyword)
    (h : KeywordOf setup means leads l members keyword name value (some n)) :
    n.site = l.site (l.pointer.child name) ∨ keyword = .condition ∧ n.site = l.site l.pointer := by
  cases h.node with
  | reference =>
    rw [Keyword.eq_ref_of_ofName hname]
    exact .inl rfl
  | condition => exact .inr ⟨rfl, rfl⟩
  | _ => exact .inl rfl

theorem isPlaced_of_keyword {name : String} {value : Value}
    (h : KeywordOf setup means leads l members (.ofName name) name value (some n)) : n.IsPlaced := by
  cases n with
  | contains s schema minimum maximum =>
    rcases keyword?_of_keywordOf rfl h with hkeyword | ⟨-, hkeyword⟩
    · cases hkeyword
      rcases site_of_keyword rfl h with hsite | ⟨hcondition, -⟩
      · exact ⟨l.pointer, congrArg Site.path hsite⟩
      · cases hcondition
    · cases hkeyword
  | _ => trivial

/-- In all trees every `contains` stands under its keyword, where the caller has neither formats nor keywords. -/
theorem passes_isPlaced (w : World) (options : Options) : Setup.Passes { world := w, options } IsPlaced := by
  intro means leads l n hmeans h
  refine all_of_built hmeans (fun m hm => ?_) (fun _ _ => trivial) (fun _ _ _ _ _ => trivial) (fun _ keyword _ _ => ?_)
    (fun _ _ _ h => isPlaced_of_keyword h) h
  · -- There are no nodes of a caller's own.
    rcases hm with ⟨name, checker, constraints, hname, -⟩ | ⟨name, base, path, value, hname⟩
    · cases hname
    · cases hname
  · unfold neighbourNode
    split <;> exact trivial

namespace Schema

/-- Every entry that a compiled schema, whatever has been asked of the session before, finds for a JSON value points into
the value; and unless it is about the name of a member, a node of the tree that stands where the entry says finds the same
wrong with the part of the value that the entry is about. -/
theorem entries_reproduced {w : World} {options : Options} {schema : Schema}
    (hgiven : schema.Given { world := w, options }) {v : Value} (hv : v.isJson = true) {f : Findings}
    (hf : schema.root.findings v .root .root = .ok f) {e : Entry} (he : e ∈ f.entries) :
    Pointer.ofFragment e.location.schemaFragment = .ok e.location ∧ Returns (e.location.eval v) ∧
      (∃ q, Relation.ReflTransGen Inquiry.PassesOn (.start schema.root v) q ∧ q.Tells e) ∧
      ∀ q, Relation.ReflTransGen Inquiry.PassesOnParts (.start schema.root v) q → q.Tells e →
        schema.root.Reproduces v e :=
  Node.reproduces_of_findings (hgiven.all (passes_isPlaced w options)) hv hf he

/-- A schema for lists of texts under a name with a slash, which a reference leads to. -/
def listsText : String :=
  r##"{"properties": {"a/b": {"items": {"$ref": "#/$defs/s"}, "contains": true, "minContains": 3}}, "## ++
    r#""propertyNames": {"maxLength": 3}, "$defs": {"s": {"type": "string"}}}"#

/-- A text is missing behind the reference, an item is missing, and a name is too long. -/
theorem entries_reproduced_lists : ∃ (schema : Schema) (v : Value) (f : Findings) (e : Entry),
    schema.Given { world := .ofTable [] } ∧
    decodeText r#"{"a/b": ["x", 1], "long": 0}"# = .ok v ∧ schema.root.findings v .root .root = .ok f ∧
    f.entries.length = 8 ∧ e ∈ f.entries ∧ e.location = ⟨["a/b", "1"]⟩ ∧
    Pointer.ofFragment e.location.schemaFragment = .ok e.location ∧ Returns (e.location.eval v) ∧
    (∃ q, Relation.ReflTransGen Inquiry.PassesOn (.start schema.root v) q ∧ q.Tells e) ∧
    ∀ q, Relation.ReflTransGen Inquiry.PassesOnParts (.start schema.root v) q → q.Tells e →
      schema.root.Reproduces v e := by
  obtain ⟨schema, hcompile, h⟩ := exists_eq_ok_of_any
    (x := ((compileText { world := .ofTable [] } listsText none).run.run
      (Session.after { world := .ofTable [] } [])).1)
    (p := fun schema => (decodeText r#"{"a/b": ["x", 1], "long": 0}"#).toOption.any fun v =>
      (schema.root.findings v .root .root).toOption.any fun f =>
        f.entries.length == 8 && f.entries.any (·.location == ⟨["a/b", "1"]⟩))
    (by decide +kernel)
  obtain ⟨v, hv, h⟩ := exists_eq_ok_of_any h
  obtain ⟨f, hf, h⟩ := exists_eq_ok_of_any h
  obtain ⟨hlength, hany⟩ := Bool.and_eq_true_iff.1 h
  obtain ⟨e, he, hlocation⟩ := List.any_eq_true.1 hany
  have hgiven : schema.Given { world := .ofTable [] } := ⟨[], .text listsText none, _, rfl, hcompile⟩
  exact ⟨schema, v, f, e, hgiven, hv, hf, beq_iff_eq.1 hlength, he, beq_iff_eq.1 hlocation,
    entries_reproduced hgiven (isJson_of_decodeText hv) hf he⟩

end Schema

end Conform
