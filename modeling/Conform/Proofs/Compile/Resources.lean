import Conform.Proofs.Compile.Sequences
import Conform.Proofs.Compile.Subnodes

/-!
# References stay in the part that they name

A URI names a document, or the parts of it that declare it (`Document.Declares`).  Where no other documents are to be had,
every reference of a compiled document leads into the part that its URI names (`Schema.target_within`), as long as the
part is the only one to declare the URI and the only one in which the plain name occurs, if the fragment is one.
-/

namespace Conform

namespace Document

/-- The URI names the part of the document at the place: the document itself, or an object whose name comes to it. -/
inductive Declares (d : Document) (uri : String) : Pointer → Prop where
  | document (huri : uri.isEmpty = true ∨ d.uri = some uri) : d.Declares uri .root
  | part {o : Pointer} {ms : List (Scalar × Value)} {name : String} {base : Option String}
      (ho : o.eval d.content = .ok (.obj ms)) (hname : lookupKey (.str "$id") ms = some (.str name))
      (hbase : d.baseAt o = .ok base) (huri : resolveName base name = .ok uri) (hne : uri.isEmpty = false) :
    d.Declares uri o

/-- The URI names the part of the document at the place, and nothing else. -/
def DeclaresOnly (d : Document) (uri : String) (o : Pointer) : Prop := d.Declares uri o ∧ ∀ o', d.Declares uri o' → o' = o

theorem Claims.declares {d : Document} {uri : String} {home : Home} (hd : d.content.isJson = true)
    (h : d.Claims uri home) : d.Declares uri home.origin := by
  cases h with
  | document huri => exact .document (.inr huri)
  | @part p schema name _ hmem hname hanchor huri hne =>
    have hp := eval_of_mem_schemaObjects hd hmem
    cases schema with
    | scalar | arr | set => cases hname
    | obj ms =>
      cases hbase : d.baseAt p with
      | error e =>
        rw [hbase] at huri
        cases huri
      | ok base =>
        rw [hbase] at huri
        exact .part hp hname hbase huri hne

end Document

theorem Library.Names.declares {w : World} {own : Document → Prop} {d : Document} {uri : String} {home : Home}
    (hw : Orderly w own) (h : Names w own d uri home) : home.document.Declares uri home.origin := by
  rcases h with ⟨hempty, rfl⟩ | ⟨-, h⟩
  · exact .document (.inl hempty)
  · cases h with
    | claimed hd h => exact h.declares (hw.json (.inl hd))
    | hidden hd h =>
      obtain ⟨ms, name, base, hp, hname, hbase, huri⟩ := h.named
      exact .part hp hname hbase huri h.nonempty

/-- If the fragment is a plain name, only objects in the part of the document at the place carry it. -/
def Document.FragmentIn (d : Document) (o : Pointer) (fragment : Option String) : Prop :=
  ∀ name, fragment = some name → name.toList ≠ [] → name.toList.head? ≠ some '/' →
    ∀ p schema, (p, schema) ∈ schemaObjects .root d.content → hasAnchor name schema = true → o.tokens <+: p.tokens

/-- What a fragment denotes for a part of a document lies in the part. -/
theorem within_of_targetPointer? {d : Document} {o p : Pointer} {fragment : Option String} (hin : d.FragmentIn o fragment)
    (h : targetPointer? d.content o fragment = .ok (some p)) : o.tokens <+: p.tokens := by
  unfold targetPointer? at h
  split at h
  · cases h
    exact List.prefix_refl _
  · rename_i text
    split at h
    · cases h
      exact List.prefix_refl _
    · obtain ⟨q, -, hq⟩ := map_eq_ok.1 (mapError_eq_ok.1 h)
      cases hq
      exact List.prefix_append _ _
    · rename_i hempty hslash
      obtain ⟨⟨p', schema⟩, hfind, rfl⟩ := Option.map_eq_some_iff.1 (Except.ok.inj h)
      have hcarries : hasAnchor text schema = true := by simpa using List.find?_some hfind
      refine hin text rfl hempty (fun hhead => ?_) p' schema (List.mem_of_find?_eq_some hfind) hcarries
      obtain ⟨rest, hrest⟩ := List.head?_eq_some_iff.1 hhead
      exact hslash rest hrest

/-- The node, if it is a reference of the document, leads into the part that its URI names. -/
def Node.StaysWithin (d : Document) (n : Node) : Prop :=
  ∀ s target fragment ref full uri o, n = .reference s target fragment → s.path.eval d.content = .ok (.str ref) →
    resolveUri s.uri ref = .ok full → Uri.splitFragment full = (uri, fragment) → d.DeclaresOnly uri o →
    d.FragmentIn o fragment → o.tokens <+: target.site.path.tokens

namespace Library

variable {setup : Setup} {d : Document}

section Alone

variable (hd : d.content.isJson = true) (hworld : ∀ uri v, ¬setup.world.Gives uri v)

include hworld

/-- Where the world has no documents, there is none but the caller's own. -/
theorem eq_of_atHand {d' : Document} (h : AtHand setup.world (· = d) d') : d' = d := by
  rcases h with (rfl | ⟨uri, v, hv, -⟩) | ⟨uri, v, _, _, hv, -⟩
  · rfl
  · exact (hworld uri v hv).elim
  · exact (hworld uri v hv).elim

include hd

theorem orderly_alone : Orderly setup.world (· = d) where
  json h := eq_of_atHand hworld h ▸ hd
  dialects h h' hdialect := by
    rw [eq_of_atHand hworld h] at hdialect
    rw [eq_of_atHand hworld h', hdialect]
    simp
  names hv := (hworld _ _ hv).elim
  key h h' _ := (eq_of_atHand hworld h).trans (eq_of_atHand hworld h').symm

/-- Whatever is filed for a document that is alone stays within its parts. -/
theorem Files.staysWithin (hgives : ∀ n, setup.Gives n → n.All (Node.StaysWithin d)) {p : Place} {n : Node}
    (h : Files setup (· = d) p n) : n.All (Node.StaysWithin d) := by
  have hw := orderly_alone hd hworld
  suffices h : (n.site.path : CodePointer) = p.pointer ∧ n.All (Node.StaysWithin d) from h.2
  refine h.induction (R := fun p n => (n.site.path : CodePointer) = p.pointer ∧ n.All (Node.StaysWithin d)) fun l n hl hn => ?_
  refine ⟨congrArg Pointer.codes hn.path, all_of_built (fun t m hm => hm.2.2) hgives (fun s allows => ?_) (fun s children title description dialect => ?_)
    (fun s keyword siblings m => ?_) (fun {inner members name value m} hvalue hinner hmem hkeyword => ?_) hn⟩
  · intro s target fragment ref full uri o heq
    cases heq
  · intro s target fragment ref full uri o heq
    cases heq
  · intro s target fragment ref full uri o heq
    unfold neighbourNode at heq
    split at heq <;> cases heq
  · intro s target fragment ref full uri o heq hs hfull hsplit honly hin
    subst heq
    obtain ⟨hreference, ref', t, fragment', k, rfl, ht, hk, heq⟩ := reference_of_keyword hkeyword
    cases heq
    have href := hl.eval_ref hw hvalue hinner (Keyword.eq_ref_of_ofName hreference ▸ hmem)
    rw [eq_of_atHand hworld hl.atHand] at href
    cases Except.ok.inj (href.symm.trans hs)
    obtain ⟨full', uri', home, hfull', hsplit', hhome, hpointer, -⟩ := ht
    cases Except.ok.inj (hfull.symm.trans hfull')
    cases hsplit.symm.trans hsplit'
    -- The home declares the URI, and as nothing else does, it is the origin.
    have hdeclares := hhome.declares hw
    have hdocument : home.document = d := by
      rcases hhome with ⟨-, rfl⟩ | ⟨-, hknown⟩
      · exact eq_of_atHand hworld (hinner.document ▸ hl.atHand)
      · exact eq_of_atHand hworld hknown.atHand
    rw [hdocument] at hdeclares hpointer
    rw [honly.2 _ hdeclares] at hpointer
    rw [CodePointer.codes_inj.1 hk.2.1]
    exact within_of_targetPointer? hin hpointer

end Alone

end Library

namespace Schema

open Library

/-- The document that a value has been compiled as, with a URI if it has been given one. -/
def document (schema : Schema) (value : Value) (base : Option String) : Document :=
  ⟨schema.place.document, base.map fun _ => schema.place.document, value⟩

/-- Where there are no other documents, every reference of a compiled document leads into the part of it that its URI names:
the document or an object, if it is the only one to declare the URI, and the only one in which the fragment occurs if it
is a plain name. -/
theorem target_within {setup : Setup} {D : Value} {base : Option String} {schema : Schema} (hD : D.isJson = true)
    (hworld : ∀ uri v, ¬setup.world.Gives uri v)
    (hgives : ∀ n, setup.Gives n → n.All fun m => ∀ s target fragment, m ≠ .reference s target fragment)
    (h : ((compileValue setup D base).run.run {}).1 = .ok schema) :
    schema.root.All (Node.StaysWithin (schema.document D base)) := by
  have hgives : ∀ d n, setup.Gives n → n.All (Node.StaysWithin d) := fun d n hn =>
    (hgives n hn).mono fun m hm s target fragment _ _ _ _ heq => (hm s target fragment heq).elim
  have hfiles : ∀ {d}, d.content = D → Compiles setup (· = d) d .root schema → schema.place.document = d.key ∧
      schema.root.All (Node.StaysWithin d) := by
    rintro d rfl ⟨-, l, hl, hplace, hfiles⟩
    exact ⟨by rw [hplace, Location.place, hl.document], hfiles.staysWithin hD hworld (hgives d)⟩
  cases base with
  | none =>
    have hw : Orderly setup.world (· = ⟨Place.anonymousStart ++ toString 1, none, D⟩) := orderly_alone hD hworld
    have hcompiles := (run_compileValue hw (holds_start setup _) rfl (Prod.ext h rfl)).2
    obtain ⟨hkey, hstays⟩ := hfiles rfl hcompiles
    rw [document, hkey]
    exact hstays
  | some uri =>
    cases hshort : Uri.dropFragment uri with
    | error fault =>
      have hrun : ((compileValue setup D (some uri)).run.run {}).1 = .error (.uri fault) := by
        unfold compileValue
        dsimp only
        rw [hshort]
        rfl
      rw [hrun] at h
      cases h
    | ok short =>
      have hcompiles := (run_compileValue_under (orderly_alone (d := .under short D) hD hworld) hshort
        (holds_start setup _) rfl (Prod.ext h rfl)).2
      obtain ⟨hkey, hstays⟩ := hfiles rfl hcompiles
      rw [document, hkey]
      exact hstays

/-- A part with a URI, in which a reference names another part by a plain name. -/
def anchoredDocument : Value :=
  .ofPairs [("not", .ofPairs [("$id", .str "http://x/b"), ("$ref", .str "#foo"),
    ("$defs", .ofPairs [("c", .ofPairs [("$anchor", .str "foo")])])])]

/-- The parts of the document that are no texts, with their places. -/
private def anchoredParts : List (Pointer × List (Scalar × Value)) :=
  [(⟨[]⟩, [(.str "not", .ofPairs [("$id", .str "http://x/b"), ("$ref", .str "#foo"),
      ("$defs", .ofPairs [("c", .ofPairs [("$anchor", .str "foo")])])])]),
    (⟨["not"]⟩, [(.str "$id", .str "http://x/b"), (.str "$ref", .str "#foo"),
      (.str "$defs", .ofPairs [("c", .ofPairs [("$anchor", .str "foo")])])]),
    (⟨["not", "$defs"]⟩, [(.str "c", .ofPairs [("$anchor", .str "foo")])]),
    (⟨["not", "$defs", "c"]⟩, [(.str "$anchor", .str "foo")])]

private theorem mem_anchoredParts {p : Pointer} {ms : List (Scalar × Value)}
    (h : p.eval anchoredDocument = .ok (.obj ms)) : (p, ms) ∈ anchoredParts := by
  have hparts := Pointer.eval_induction (P := fun p v => (∃ text, v = .str text) ∨ ∃ ms, v = .obj ms ∧ (p, ms) ∈ anchoredParts)
    (fun p vs t i v hvs => ?_) (fun p ms name v hms hv => ?_) (.inr ⟨_, rfl, List.mem_cons_self⟩) h
  · obtain ⟨text, heq⟩ | ⟨ms', heq, hmem⟩ := hparts
    · cases heq
    · cases heq
      exact hmem
  · obtain ⟨text, heq⟩ | ⟨ms, heq, -⟩ := hvs <;> cases heq
  · obtain ⟨text, heq⟩ | ⟨ms', heq, hmem⟩ := hms
    · cases heq
    · cases heq
      have hv := mem_of_lookupKey hv
      simp only [anchoredParts, List.mem_cons, Prod.mk.injEq, List.not_mem_nil, or_false] at hmem
      rcases hmem with ⟨rfl, rfl⟩ | ⟨rfl, rfl⟩ | ⟨rfl, rfl⟩ | ⟨rfl, rfl⟩
      all_goals
        simp only [List.mem_cons, Prod.mk.injEq, Scalar.str.injEq, List.not_mem_nil, or_false] at hv
      · obtain ⟨rfl, rfl⟩ := hv
        exact .inr ⟨_, rfl, by simp [anchoredParts, Pointer.child]⟩
      · rcases hv with ⟨rfl, rfl⟩ | ⟨rfl, rfl⟩ | ⟨rfl, rfl⟩
        · exact .inl ⟨_, rfl⟩
        · exact .inl ⟨_, rfl⟩
        · exact .inr ⟨_, rfl, by simp [anchoredParts, Pointer.child]⟩
      · obtain ⟨rfl, rfl⟩ := hv
        exact .inr ⟨_, rfl, by simp [anchoredParts, Pointer.child]⟩
      · obtain ⟨rfl, rfl⟩ := hv
        exact .inl ⟨_, rfl⟩

private theorem declaresOnly_anchored (key : String) :
    (⟨key, none, anchoredDocument⟩ : Document).DeclaresOnly "http://x/b" ⟨["not"]⟩ := by
  constructor
  · exact .part rfl rfl rfl rfl rfl
  · intro o h
    cases h with
    | document huri => rcases huri with huri | huri <;> cases huri
    | part ho hname =>
      have hname := mem_of_lookupKey hname
      have hparts := mem_anchoredParts ho
      simp only [anchoredParts, List.mem_cons, Prod.mk.injEq, List.not_mem_nil, or_false] at hparts
      rcases hparts with ⟨rfl, rfl⟩ | ⟨rfl, rfl⟩ | ⟨rfl, rfl⟩ | ⟨rfl, rfl⟩
      · simp at hname
      · rfl
      · simp at hname
      · simp at hname

/-- The node is a reference to the anchor, with such a site and such a target. -/
private def refersToAnchor (p : Site → Node → Bool) : Option Node → Bool
  | some (.reference s target (some "foo")) => p s target
  | _ => false

theorem target_within_anchored : ∃ schema s target,
    ((compileValue { world := .ofTable [] } anchoredDocument none).run.run {}).1 = .ok schema ∧
    (schema.root.subnodes.head?.bind (·.subnodes.head?)).bind (·.subnodes.head?) = some (.reference s target (some "foo")) ∧
    (⟨"", none, anchoredDocument⟩ : Document).DeclaresOnly "http://x/b" ⟨["not"]⟩ ∧
    resolveUri s.uri "#foo" = .ok "http://x/b#foo" ∧ ["not"] <+: target.site.path.tokens := by
  obtain ⟨schema, hcompile, hsub⟩ := exists_eq_ok_of_any
    (x := ((compileValue { world := .ofTable [] } anchoredDocument none).run.run {}).1)
    (p := fun schema : Schema => refersToAnchor (fun s _ => s.uri == some "http://x/b" && s.path == ⟨["not", "$ref"]⟩)
      ((schema.root.subnodes.head?.bind (·.subnodes.head?)).bind (·.subnodes.head?))) (by decide +kernel)
  unfold refersToAnchor at hsub
  split at hsub
  · rename_i s target hnode
    simp only [Bool.and_eq_true, beq_iff_eq] at hsub
    obtain ⟨huri, hpath⟩ := hsub
    have hresolve : resolveUri s.uri "#foo" = .ok "http://x/b#foo" := by
      rw [huri]
      rfl
    refine ⟨schema, s, target, hcompile, hnode, declaresOnly_anchored "", hresolve, ?_⟩
    -- An empty table gives no document.
    have hgives : ∀ uri v, ¬(.ofTable [] : World).Gives uri v := by
      rintro uri v ⟨r, hr, -⟩
      cases (Loader.serves_table rfl).1 hr
    have hall := target_within (by decide +kernel) hgives
      (fun n hn => by rcases hn with ⟨_, _, _, h, -⟩ | ⟨_, _, _, _, h⟩ <;> cases h) hcompile
    obtain ⟨n, hn, hnode⟩ := Option.bind_eq_some_iff.1 hnode
    obtain ⟨m, hm, hn⟩ := Option.bind_eq_some_iff.1 hn
    have hstays := (((hall.sub (List.mem_of_head? hm)).sub (List.mem_of_head? hn)).sub (List.mem_of_head? hnode)).self
    refine hstays s target (some "foo") "#foo" _ "http://x/b" ⟨["not"]⟩ rfl ?_ hresolve rfl (declaresOnly_anchored _) ?_
    · rw [hpath]
      rfl
    · intro name hname _ _ p object hmem hanchor
      cases hname
      have hin : (schemaObjects .root anchoredDocument).all
          (fun entry => !hasAnchor "foo" entry.2 || ["not"].isPrefixOf entry.1.tokens) = true := by decide +kernel
      have hcase := List.all_eq_true.1 hin _ hmem
      rw [hanchor] at hcase
      exact List.isPrefixOf_iff_prefix.1 hcase
  · cases hsub

/-- A document with a part that has a URI, where a plain name occurs both outside the part and in it. -/
def doublyAnchoredDocument : Value :=
  .ofPairs [("properties", .ofPairs [("a", .ofPairs [("$anchor", .str "foo"), ("type", .str "integer")]),
    ("b", .ofPairs [("$id", .str "http://x/b"),
      ("$defs", .ofPairs [("c", .ofPairs [("$anchor", .str "foo"), ("type", .str "string")])]),
      ("properties", .ofPairs [("d", .ofPairs [("$ref", .str "#foo")])])])])]

/-- A plain name leads out of the part of the document that the URI before it names. -/
theorem target_outside_doublyAnchored : ∃ schema s target,
    ((compileValue { world := .ofTable [] } doublyAnchoredDocument (some "http://x/root")).run.run {}).1 =
      .ok schema ∧
    (((schema.root.subnodes.head?.bind (·.subnodes.getLast?)).bind (·.subnodes.head?)).bind (·.subnodes.head?)).bind
      (·.subnodes.head?) = some (.reference s target (some "foo")) ∧
    s.path.eval doublyAnchoredDocument = .ok (.str "#foo") ∧ resolveUri s.uri "#foo" = .ok "http://x/b#foo" ∧
    (schema.document doublyAnchoredDocument (some "http://x/root")).Declares "http://x/b" ⟨["properties", "b"]⟩ ∧
    target.site.path = ⟨["properties", "a"]⟩ := by
  obtain ⟨schema, hcompile, hsub⟩ := exists_eq_ok_of_any
    (x := ((compileValue { world := .ofTable [] } doublyAnchoredDocument (some "http://x/root")).run.run {}).1)
    (p := fun schema : Schema => schema.place.document == "http://x/root" &&
      refersToAnchor (fun s target => s.uri == some "http://x/b" &&
          s.path == ⟨["properties", "b", "properties", "d", "$ref"]⟩ && target.site.path == ⟨["properties", "a"]⟩)
        ((((schema.root.subnodes.head?.bind (·.subnodes.getLast?)).bind (·.subnodes.head?)).bind (·.subnodes.head?)).bind
          (·.subnodes.head?))) (by decide +kernel)
  obtain ⟨hkey, hsub⟩ := Bool.and_eq_true_iff.1 hsub
  unfold refersToAnchor at hsub
  split at hsub
  · rename_i s target hnode
    simp only [Bool.and_eq_true, beq_iff_eq] at hsub hkey
    obtain ⟨⟨huri, hpath⟩, htarget⟩ := hsub
    refine ⟨schema, s, target, hcompile, hnode, ?_, ?_, ?_, htarget⟩
    · rw [hpath]
      rfl
    · rw [huri]
      rfl
    · rw [document, hkey]
      exact .part rfl rfl rfl rfl rfl
  · cases hsub

end Schema

end Conform
