import Conform.Proofs.Compile.Causes
import Conform.Proofs.Compile.Resources

/-!
# Where faults of schemas point

A fault of a schema that is told at a pointer is told at a value of the document (`Schema.exists_eval_of_fault`).  The checks of
an object tell it at a value that the object has (`Location.Holds`), a reference that goes astray is told at itself, and a
location that is no schema or that needs itself lies where it is told.  All other failures are told at no pointer.
-/

namespace Conform

open Library (AtHand)

/-! ### Failures that point into a value -/

/-- If the failure is a fault of a schema that is told at a pointer, the pointer leads to something in the value. -/
def Failure.PointsInto (D : Value) (e : Failure) : Prop :=
  ∀ fault uri p, e = .schema fault uri (some p) → ∃ (q : Pointer) (v : Value), p = q ∧ Pointer.Leads D q v

section Pointing

variable {setup : Setup} {own : Document → Prop} {D : Value} {e : Failure} {l : Location} {members : List (Scalar × Value)}

theorem Failure.IsPlain.pointsInto (h : e.IsPlain) : e.PointsInto D := by
  rintro fault uri p rfl
  exact h.elim

theorem pointsInto_of_leads {fault : SchemaFault} {uri : Option String} {p : Pointer} {v : Value}
    (h : Pointer.Leads D p v) : Failure.PointsInto D (.schema fault uri (some p)) := by
  rintro _ _ _ ⟨⟩
  exact ⟨p, v, rfl, h⟩

/-- A dialect that is no text is told at the member that declares it. -/
theorem pointsInto_of_dialect? {d : Document} (h : d.dialect? = .error e) : e.PointsInto d.content := by
  unfold Document.dialect? at h
  split at h
  · cases h
  · cases h
  · rename_i v _ hschema
    cases h
    refine pointsInto_of_leads (v := v) ?_
    cases hcontent : d.content with
    | obj ms =>
      rw [hcontent] at hschema
      exact .member (k := .str "$schema") .root (mem_of_lookupKey hschema)
    | scalar | arr | set =>
      rw [hcontent] at hschema
      cases hschema

theorem Objection.pointsInto (hD : Pointer.Leads D l.pointer (.obj members)) (h : Objection setup l members e) :
    e.PointsInto D := by
  cases h with
  | fault fault hpath => exact pointsInto_of_leads (hpath D hD)
  | pattern | patternKey | keyword => exact Failure.IsPlain.pointsInto trivial
  | name _ h => exact (isPlain_of_resolveName h).pointsInto
  | describing _ h => exact (isPlain_of_resolveUri h).pointsInto
  | description _ _ _ horigin =>
    -- A fault of a schema is a matter of content, and would have been told at the description.
    rintro fault uri p rfl
    rcases horigin with horigin | horigin
    · cases horigin
    · cases horigin

/-- What the checks at a location fail with points to the location, or to something in it. -/
theorem Location.Tells.pointsInto (hD : Pointer.Leads D l.pointer l.value) (h : l.Tells setup e) : e.PointsInto D := by
  rcases h with rfl | ⟨members, hvalue, h⟩
  · exact pointsInto_of_leads hD
  · rw [hvalue] at hD
    rcases h with h | ⟨inner, hinner, h⟩
    · exact h.pointsInto hD
    · exact h.pointsInto (hinner.pointer ▸ hD)

/-- A reference that leads nowhere is told at itself, unless the document that it names is at fault. -/
theorem Scope.Stray.pointsInto {homes : String → Home → Prop} {ref : String}
    (hD : Pointer.Leads D l.pointer (.obj members)) (href : (.str "$ref", .str ref) ∈ members)
    (hhand : ∀ {d}, AtHand setup.world own d → d.content = D)
    (hhomes : ∀ {uri home}, homes uri home → AtHand setup.world own home.document)
    (h : Scope.Stray homes l ref (l.pointer.child "$ref") e) : e.PointsInto D := by
  have hatHand : ∀ {home fragment}, Scope.Follows homes l ref home fragment → AtHand setup.world own home.document := by
    rintro home fragment ⟨full, uri, -, -, hhome⟩
    exact hhomes hhome
  cases h with
  | fault => exact pointsInto_of_leads (.member (k := .str "$ref") hD href)
  | uri h => exact (isPlain_of_resolveUri h).pointsInto
  | fragment _ h =>
    obtain ⟨q, hq⟩ := returns_targetPointer? _ _ _
    rw [hq] at h
    cases h
  | value hhome _ h => exact (cause_of_valueAt? (hatHand hhome) h).isPlain.pointsInto
  | dialect hhome h =>
    rw [← hhand (hatHand hhome)]
    exact pointsInto_of_dialect? h
  | base hhome _ _ h => exact (cause_of_baseAt (hatHand hhome) h).isPlain.pointsInto

theorem Loader.Lacks.pointsInto {uri : String} (h : Loader.Lacks setup.world uri e) :
    (Compiling.unresolved uri e).PointsInto D := by
  rintro fault told p heq
  have hplain := h.isPlain
  unfold Compiling.unresolved at heq
  split at heq
  · exact hplain.elim
  · split at heq
    · subst heq
      exact hplain.elim
    · cases heq

/-- What breaks a compilation points to something in the document, where there is but one. -/
theorem Session.Breaks.pointsInto {token : String → Prop} {root : Location} {depth : Nat} {s : Session}
    (hhand : ∀ {d}, AtHand setup.world own d → d.content = D) (h : s.Breaks setup own token root depth e) :
    e.PointsInto D := by
  have hlies : ∀ {l}, Houses setup.world own token s.homes l → Pointer.Leads D l.pointer l.value := by
    intro l hl
    rw [← hhand hl.hosted.atHand]
    exact hl.sits
  cases h with
  | @recursion l x hx hhouses hgo hplace =>
    rw [← hplace]
    exact pointsInto_of_leads (hlies hhouses)
  | refused hl hhouses hpasses he => exact he.pointsInto (hlies hhouses)
  | sample hl hhouses hvalue hn he =>
    have hcause : Cause setup own e := .sample hhouses.hosted.atHand (hvalue ▸ hhouses.sits) hn he
    exact hcause.isPlain.pointsInto
  | stray hl hhouses hhosts hvalue hinner href hnone he =>
    have hobject := hlies hhouses
    rw [hvalue, ← hinner.pointer] at hobject
    exact he.pointsInto hobject href hhand fun hnamed => (hhosts hnamed).atHand
  | unresolved hl href hne hunknown he => exact he.pointsInto
  | misnamed hl href hne hv he => exact (cause_of_misnamed hv he).isPlain.pointsInto
  | deep => rintro _ _ _ ⟨⟩

/-- The compilation of a document at its root fails at a place that the document has, if it fails at a place and there are no
other documents. -/
theorem pointsInto_of_compileAt {d : Document} (hworld : ∀ uri v, ¬setup.world.Gives uri v) (hbase : IsBase d.uri)
    {s t : Session} (hfresh : s.Fresh)
    (hcached : ∀ {uri d'}, s.loader.cache.lookup uri = some d' → AtHand setup.world (· = d) (.under uri d'.value))
    (h : (Schema.compileAt setup d .root).run.run s = (.error e, t)) : e.PointsInto d.content := by
  have hown : AtHand setup.world (· = d) d := .inl (.inl rfl)
  rcases Session.hasCompiled_compileAt (spells_any setup.world (· = d)) rfl (fun _ _ => trivial) hbase hfresh hcached h with
    hmisnamed | hnowhere | ⟨root, s', -, hbreaks⟩
  · exact (cause_of_misnamed hown hmisnamed).isPlain.pointsInto
  · cases hnowhere with
    | nothing => exact pointsInto_of_leads .root
    | value h => exact (cause_of_valueAt? hown h).isPlain.pointsInto
    | dialect h => exact pointsInto_of_dialect? h
    | base h => exact (cause_of_baseAt hown h).isPlain.pointsInto
  · exact hbreaks.pointsInto fun hd' => by rw [Library.eq_of_atHand hworld hd']

end Pointing

/-! ### Faults of values that are compiled -/

namespace Schema

/-- Where there are no other documents, a fault that is told at a pointer is told at a value of the document; there is no half
of a surrogate pair in the pointer. -/
theorem exists_eval_of_fault {setup : Setup} {D : Value} {base : Option String} {fault : SchemaFault} {uri : Option String}
    {p : CodePointer} (hD : D.isJson = true) (hworld : ∀ uri v, ¬setup.world.Gives uri v)
    (h : ((compileValue setup D base).run.run {}).1 = .error (.schema fault uri (some p))) :
    ∃ q : Pointer, p = q ∧ ∃ v, q.eval D = .ok v := by
  have hpoints : Failure.PointsInto D (.schema fault uri (some p)) := by
    cases base with
    | none =>
      rw [run_compileValue_none] at h
      exact pointsInto_of_compileAt hworld (by rintro _ ⟨⟩) ⟨rfl, rfl⟩ (by rintro _ _ ⟨⟩) (Prod.ext h rfl)
    | some base =>
      rw [run_compileValue_some] at h
      cases hshort : Uri.dropFragment base with
      | error e =>
        rw [hshort] at h
        cases h
      | ok short =>
        rw [hshort] at h
        have hbase : IsBase (some short) := by
          rintro _ ⟨⟩
          exact Uri.not_mem_of_dropFragment hshort
        exact pointsInto_of_compileAt (d := .under short D) hworld hbase ⟨rfl, rfl⟩ (by rintro _ _ ⟨⟩) (Prod.ext h rfl)
  obtain ⟨q, v, hq, hv⟩ := hpoints fault uri p rfl
  exact ⟨q, hq, v, hv.eval hD⟩

/-- A document with a fault that the compilation comes to by a reference. -/
def misshapenDocument : Value :=
  .ofPairs [("allOf", .arr [.ofPairs [("$ref", .str "#/$defs/a")]]),
    ("$defs", .ofPairs [("a", .ofPairs [("properties", .ofPairs [("b/c", .ofPairs [("minLength", .str "1")])])])])]

/-- The result is a fault of a schema at the pointer. -/
private def faultsAt {α : Type} (p : CodePointer) : Except Failure α → Bool
  | .error (.schema _ _ (some q)) => q == p
  | _ => false

theorem exists_eval_of_fault_misshapen : ∃ fault uri p,
    ((compileValue { world := .ofTable [] } misshapenDocument none).run.run {}).1 =
      .error (.schema fault uri (some p)) ∧
    p = Pointer.mk ["$defs", "a", "properties", "b/c", "minLength"] ∧
    ∃ q : Pointer, p = q ∧ ∃ v, q.eval misshapenDocument = .ok v := by
  have hfault : faultsAt (Pointer.mk ["$defs", "a", "properties", "b/c", "minLength"])
      ((compileValue { world := .ofTable [] } misshapenDocument none).run.run {}).1 = true := by
    decide +kernel
  unfold faultsAt at hfault
  split at hfault
  · rename_i fault uri p h
    have hgives : ∀ uri v, ¬(.ofTable [] : World).Gives uri v := by
      rintro uri v ⟨r, hr, -⟩
      cases (Loader.serves_table rfl).1 hr
    exact ⟨fault, uri, p, h, beq_iff_eq.1 hfault, exists_eval_of_fault (by decide +kernel) hgives h⟩
  · cases hfault

end Schema

end Conform
