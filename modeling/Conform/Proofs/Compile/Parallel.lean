import Conform.Proofs.Compile.Alike

/-!
# Compilations that run alike

A lawful frame (`Frame.Lawful`) tells of two sessions what a compilation that starts at a location needs to agree on.  Then
the compilation runs alike from both (`Frame.Lawful.alike_compile`), one step after another: what an object is checked for
does not depend on the session, and what it leads to is reached again.
-/

namespace Conform

namespace Scope

/-! ### Samples -/

section Samples

variable {sc : Scope} {n : Node}

private theorem quiet_defaultCheck : Quiet (do
    if sc.setup.options.checkDefaults then
      match lookupKey (.str "default") sc.members with
      | some sample =>
        let entries ← sampleFindings n sample (sc.pointer.child "default")
        modify fun session => { session with defaults := session.defaults ++ entries }
      | none => return) := by
  split
  · split
    · exact (Quiet.ofExcept _).bind fun _ => .modify fun _ => ⟨rfl, rfl, rfl⟩
    · exact .pure _
  · exact .pure _

theorem quiet_selfCheck : Quiet (sc.selfCheck n) := by
  unfold selfCheck
  cases sc.setup.options.checkExamples with
  | true =>
    refine Quiet.bind (.forIn fun sample _ => ?_) fun _ => quiet_defaultCheck
    refine (Quiet.ofExcept _).bind fun _ => ?_
    exact Quiet.bind (.modify fun _ => ⟨rfl, rfl, rfl⟩) fun _ => .pure _
  | false => exact quiet_defaultCheck

end Samples

/-! ### References -/

section References

variable {B : Frame} {P : Prop} {setup : Setup} {descend descend' : Location → Compiling Node} {l : Location}
  {members : List (Scalar × Value)} {path : Pointer}

/-- The later session knows what the earlier one does. -/
private def Grows (s t : Session) : Prop := Extends s.homes t.homes

private theorem Grows.refl (s : Session) : Grows s s := Extends.refl s.homes

private theorem Grows.trans {s t u : Session} (h : Grows s t) (h' : Grows t u) : Grows s u := Extends.trans h h'

/-- The course on which what is known under URIs stays. -/
private def growing : Course Failure Session where
  inv _ := True
  later := Grows
  fails _ _ := True
  refl := Grows.refl
  trans := Grows.trans

/-- What a reference has led to it leads to from then on. -/
theorem leads_of_target {ref : String} {t : Location} {fragment : Option String} {s s' : Session}
    (h : ((l.scope setup descend members).target ref path).run.run s = (.ok (t, fragment), s')) :
    s'.Leads l ref t fragment := by
  have hruns : Runs growing (fun _ => True) ((l.scope setup descend members).target ref path) fun t s =>
      TargetOf (s.Names l.document) l ref t.1 t.2 := by
    refine runs_target (fun s => s.Names l.document) (fun full uri fragment _ hsplit => ?_) fun _ _ _ _ _ _ => trivial
    refine runs_home (Uri.not_mem_of_splitFragment hsplit) (fun hempty s _ => .inl ⟨hempty, rfl⟩)
      (fun hne s home _ _ hlookup t ht => .inr ⟨hne, ht uri home hlookup⟩) (fun hne s d t _ _ hloads => ?_)
      fun _ _ _ _ _ _ _ => trivial
    have hknown := hloads.registers.own rfl hloads.unknown
    exact ⟨trivial, hloads.registers.extend, fun u hu => .inr ⟨hne, hu _ _ hknown⟩⟩
  have hend := hruns s trivial fun _ _ => trivial
  rw [h] at hend
  exact hend.2.2.self

theorem alike_target {ref : String} (huri : ∀ full uri fragment, resolveUri l.base ref = .ok full →
      Uri.splitFragment full = (uri, fragment) → P → uri.isEmpty = false → B.uri uri → B.stray) :
    Alike B P ((l.scope setup descend members).target ref path) ((l.scope setup descend' members).target ref path) := by
  refine (Alike.congruence B P).target fun full uri fragment hfull hsplit => ?_
  exact .home (Uri.not_mem_of_splitFragment hsplit) (huri full uri fragment hfull hsplit)

theorem alike_reference {value : Value}
    (ht : ∀ ref, value = .str ref → Alike B P ((l.scope setup descend members).target ref (l.pointer.child "$ref"))
      ((l.scope setup descend' members).target ref (l.pointer.child "$ref")))
    (hd : ∀ ref t fragment, value = .str ref → Alike B (P ∧ B.final.Leads l ref t fragment) (descend t) (descend' t)) :
    Alike B P ((l.scope setup descend members).reference value) ((l.scope setup descend' members).reference value) := by
  unfold reference
  dsimp only
  split
  · rename_i ref
    refine (ht ref rfl).bindWith fun (t, fragment) _ => ?_
    refine Alike.bind ((hd ref t fragment rfl).weaken fun ⟨hP, s, s', hrun, hext⟩ => ⟨hP, ?_⟩) fun _ => .pure _
    exact (leads_of_target hrun).on hext
  · exact .of_quiet (.throw _)

end References

end Scope

/-! ### Compiling -/

/-- The frame is right about the compilation of the locations that it tells of. -/
structure Frame.Lawful (B : Frame) (setup : Setup) : Prop where
  part : ∀ {l inner part members}, B.reached l → l.value = .obj members → l.isReplaced members = false →
    l.Inner members inner → part ∈ inner.subschemas members → B.reached part
  target : ∀ {l inner t members ref fragment}, B.reached l → l.value = .obj members → l.Inner members inner →
    (.str "$ref", .str ref) ∈ members → B.final.Leads inner ref t fragment → B.reached t
  marked : ∀ {p}, B.marked p → B.place p ∧ B.forgives (.schema .recursion p.uri? (some p.pointer))
  place : ∀ {l}, B.reached l → B.place l.place → B.marked l.place ∨ B.stray
  uri : ∀ {l uri}, B.reached l → l.Refers uri → uri.isEmpty = false → B.uri uri → B.stray

namespace Frame.Lawful

variable {B : Frame} {setup : Setup} {l : Location}

theorem alike_build (hB : B.Lawful setup) {descend descend' : Location → Compiling Node}
    (hd : ∀ t, Alike B (B.reached t) (descend t) (descend' t)) :
    Alike B (B.reached l) (build setup descend l) (build setup descend' l) := by
  unfold build
  split
  · exact .pure _
  · rename_i members hvalue
    refine (Alike.congruence B (B.reached l)).object (fun hreplaced inner hinner part hpart => ?_)
      (fun inner hinner value hmem => ?_) fun inner n _ => .of_quiet Scope.quiet_selfCheck
    · exact (hd part).weaken fun hl => hB.part hl hvalue hreplaced hinner hpart
    · refine Scope.alike_reference (fun ref href => ?_) fun ref t fragment href => ?_
      · subst href
        refine Scope.alike_target fun full uri fragment hfull hsplit hl => ?_
        exact hB.uri hl ⟨members, inner, ref, full, fragment, hvalue, hinner, hmem, hfull, hsplit⟩
      · subst href
        exact (hd t).weaken fun ⟨hl, hleads⟩ => hB.target hl hvalue hinner hmem hleads
  · exact .of_quiet (.throw _)

/-- A location that is marked is told so under its own URI and pointer. -/
theorem forgives_recursion (hB : B.Lawful setup) (h : B.marked l.place) : B.place l.place ∧ B.forgives l.place.recursion := by
  rw [Place.recursion_of_isPlain l.isPlain_place]
  exact hB.marked h

theorem alike_compile (hB : B.Lawful setup) (fuel : Nat) :
    Alike B (B.reached l) (compile setup fuel l) (compile setup fuel l) := by
  induction fuel generalizing l with
  | zero => exact .of_quiet (.throw _)
  | succ fuel ih => exact .getOrCreate (hB.alike_build fun t => ih) hB.forgives_recursion hB.place

/-- A compilation that is allowed to go deeper runs alike, where a lack of depth is forgiven. -/
theorem alike_compile_of_le (hB : B.Lawful setup) (hendless : B.forgives .endless) {fuel fuel' : Nat} (hfuel : fuel ≤ fuel') :
    Alike B (B.reached l) (compile setup fuel l) (compile setup fuel' l) := by
  induction fuel generalizing fuel' l with
  | zero => exact .forgiven (fun _ => hendless) (hB.alike_compile fuel').before
  | succ fuel ih =>
    cases fuel' with
    | zero => omega
    | succ fuel' => exact .getOrCreate (hB.alike_build fun t => ih (by omega)) hB.forgives_recursion hB.place

end Frame.Lawful

end Conform
