import Conform.Proofs.Schema.Invariance

/-!
# Trees in concord

Two trees are in concord if they agree on every JSON value that both tell anything of (`Node.Concord`).  Trees of one kind
are in concord if their parts are, in whatever order a tree asks those of its parts that all have to accept a value.
-/

namespace Conform

/-- On every JSON value of which both tell anything the trees tell the same. -/
def Node.Concord (n m : Node) : Prop := ∀ v : Value, v.isJson = true → Consistent (n.accepts v) (m.accepts v)

/-- Each of the one list has a partner in the other. -/
def Paired {α β : Type} (R : α → β → Prop) (as : List α) (bs : List β) : Prop :=
  (∀ a ∈ as, ∃ b ∈ bs, R a b) ∧ ∀ b ∈ bs, ∃ a ∈ as, R a b

theorem paired_of_forall₂ {α β : Type} {R : α → β → Prop} {as : List α} {bs bs' : List β} (h : List.Forall₂ R as bs)
    (horder : bs.Perm bs') : Paired R as bs' where
  left _ ha := by
    obtain ⟨b, hb, hab⟩ := exists_right_of_forall₂ h ha
    exact ⟨b, horder.mem_iff.1 hb, hab⟩
  right _ hb := exists_left_of_forall₂ h (horder.mem_iff.2 hb)

namespace Node

variable {n m : Node} {ns ms : List Node} {s : Site}

theorem concord_self (n : Node) : n.Concord n := fun _ _ => consistent_self _

theorem Concord.symm (h : n.Concord m) : m.Concord n := fun v hv => (h v hv).symm

theorem concord_group {title title' description description' dialect dialect' : Option String} {s' : Site}
    (h : Paired Concord ns ms) : (group s ns title description dialect).Concord (group s' ms title' description' dialect') := by
  intro v hv
  rw [accepts, accepts]
  refine consistent_acceptsAll (fun n hn => ?_) fun m hm => ?_
  · obtain ⟨m, hm, hnm⟩ := h.1 n hn
    exact ⟨m, hm, hnm v hv⟩
  · obtain ⟨n, hn, hnm⟩ := h.2 m hm
    exact ⟨n, hn, hnm v hv⟩

theorem concord_reference {fragment fragment' : Option String} (h : n.Concord m) :
    (reference s n fragment).Concord (reference s m fragment') := by
  intro v hv
  rw [accepts, accepts]
  exact h v hv

theorem concord_not (h : n.Concord m) : (Node.not s n).Concord (.not s m) := by
  intro v hv
  rw [accepts, accepts]
  exact consistent_map (h v hv) _

theorem concord_combine {keyword : String} {counting : Counting} (h : List.Forall₂ Concord ns ms) :
    (combine s keyword counting ns).Concord (combine s keyword counting ms) := by
  intro v hv
  have heach : List.Forall₂ (fun n m => Consistent (n.accepts v) (m.accepts v)) ns ms := h.imp fun _ _ h => h v hv
  cases counting with
  | all =>
    rw [accepts, accepts]
    exact consistent_acceptsAll (fun _ hn => exists_right_of_forall₂ heach hn) fun _ hm => exists_left_of_forall₂ heach hm
  | any => exact consistent_acceptsAny heach
  | one => exact consistent_acceptsOne heach false

theorem concord_conditional {t t' e e' : Option Node} (hc : n.Concord m) (ht : Option.Rel Concord t t')
    (he : Option.Rel Concord e e') : (conditional s n t e).Concord (conditional s m t' e') := by
  intro v hv
  have hbranch {b b' : Option Node} (h : Option.Rel Concord b b') :
      Consistent (acceptsBranch b v) (acceptsBranch b' v) := by
    refine consistent_acceptsBranch ?_
    cases h with
    | none => exact .none
    | some h => exact .some (h v hv)
  rw [accepts, accepts]
  refine consistent_bind (hc v hv) fun here => ?_
  cases here with
  | true => exact hbranch ht
  | false => exact hbranch he

/-! ### Keywords for objects -/

theorem concord_properties {es fs : List (Scalar × Node)} (h : Paired (fun e f => e.1 = f.1 ∧ e.2.Concord f.2) es fs) :
    (properties s es).Concord (properties s fs) := by
  intro v hv
  cases v with
  | obj ms =>
    have hentry {e f : Scalar × Node} (hef : e.1 = f.1 ∧ e.2.Concord f.2) : e.1 = f.1 ∧
        ∀ v w, lookupKey e.1 ms = some v → lookupKey e.1 ms = some w → Consistent (e.2.accepts v) (f.2.accepts w) := by
      refine ⟨hef.1, fun v w hv' hw => ?_⟩
      obtain rfl := Option.some.inj (hv'.symm.trans hw)
      obtain ⟨key, hmem⟩ := exists_mem_of_lookupKey hv'
      exact hef.2 v (isJson_of_mem hv hmem).2
    refine consistent_acceptsEntries (fun e he => ?_) (fun f hf => ?_) fun _ => rfl
    · obtain ⟨f, hf, hef⟩ := h.1 e he
      exact ⟨f, hf, hentry hef⟩
    · obtain ⟨e, he, hef⟩ := h.2 f hf
      exact ⟨e, he, hentry hef⟩
  | scalar | arr | set => exact consistent_self _

theorem concord_patternProperties {es fs : List (Regex × Node)}
    (h : Paired (fun e f => e.1 = f.1 ∧ e.2.Concord f.2) es fs) :
    (patternProperties s es).Concord (patternProperties s fs) := by
  intro v hv
  cases v with
  | obj ms =>
    have hentry {e f : Regex × Node} (hef : e.1 = f.1 ∧ e.2.Concord f.2) :
        Consistent (allOk (fun m => do if ← matchesKey e.1 m.1 then e.2.accepts m.2 else return true) ms)
          (allOk (fun m => do if ← matchesKey f.1 m.1 then f.2.accepts m.2 else return true) ms) := by
      rw [← hef.1]
      refine consistent_allOk_forall₂ (List.forall₂_same.2 fun ⟨key, v⟩ hm => consistent_when ?_)
      exact hef.2 v (isJson_of_mem hv hm).2
    rw [accepts, accepts, acceptsMatches_eq, acceptsMatches_eq]
    refine consistent_allOk (fun e he => ?_) fun f hf => ?_
    · obtain ⟨f, hf, hef⟩ := h.1 e he
      exact ⟨f, hf, hentry hef⟩
    · obtain ⟨e, he, hef⟩ := h.2 f hf
      exact ⟨e, he, hentry hef⟩
  | scalar | arr | set => exact consistent_self _

theorem matchesAny_str (text : String) (patterns : List Regex) :
    matchesAny (.str text) patterns = .ok (patterns.any fun regex => regex.pattern.search text.toList) := by
  induction patterns with
  | nil => rfl
  | cons regex patterns ih =>
    rw [matchesAny, ih, List.any_cons]
    cases hsearch : regex.pattern.search text.toList with
    | true =>
      simp only [matchesKey, hsearch, Bool.true_or]
      rfl
    | false =>
      simp only [matchesKey, hsearch, Bool.false_or]
      rfl

/-- Whether a text is a name beyond others depends on which these are, not on their order. -/
theorem isAdditional_congr {names names' : List Scalar} {patterns patterns' : List Regex}
    (hnames : ∀ key, key ∈ names ↔ key ∈ names') (hpatterns : ∀ regex, regex ∈ patterns ↔ regex ∈ patterns') (text : String) :
    isAdditional names patterns (.str text) = isAdditional names' patterns' (.str text) := by
  have hany {α : Type} {as bs : List α} (h : ∀ a, a ∈ as ↔ a ∈ bs) (p : α → Bool) : as.any p = bs.any p := by
    rw [Bool.eq_iff_iff, List.any_eq_true, List.any_eq_true]
    exact exists_congr fun a => and_congr_left' (h a)
  rw [isAdditional, isAdditional, matchesAny_str, matchesAny_str, hany hnames, hany hpatterns]

theorem concord_additionalProperties {names names' : List Scalar} {patterns patterns' : List Regex} (h : n.Concord m)
    (hnames : ∀ key, key ∈ names ↔ key ∈ names') (hpatterns : ∀ regex, regex ∈ patterns ↔ regex ∈ patterns') :
    (additionalProperties s n names patterns).Concord (additionalProperties s m names' patterns') := by
  intro v hv
  cases v with
  | obj ms =>
    refine consistent_allOk_forall₂ (List.forall₂_same.2 fun ⟨key, v⟩ hm => ?_)
    obtain ⟨⟨text, rfl⟩, hjson⟩ := isJson_of_mem hv hm
    rw [isAdditional_congr hnames hpatterns]
    exact consistent_when (h v hjson)
  | scalar | arr | set => exact consistent_self _

theorem concord_propertyNames (h : n.Concord m) : (propertyNames s n).Concord (propertyNames s m) := by
  intro v hv
  cases v with
  | obj ms =>
    refine consistent_allOk_forall₂ (List.forall₂_same.2 fun ⟨key, v⟩ hm => ?_)
    obtain ⟨⟨text, rfl⟩, -⟩ := isJson_of_mem hv hm
    exact h _ rfl
  | scalar | arr | set => exact consistent_self _

/-! ### Keywords for arrays -/

theorem concord_items (h : n.Concord m) : (items s n).Concord (items s m) := by
  intro v hv
  cases v with
  | arr vs => exact consistent_allOk_forall₂ (List.forall₂_same.2 fun v hmem => h v (itemsJson_iff.1 hv v hmem))
  | scalar | obj | set => exact consistent_self _

theorem concord_itemsTuple (h : List.Forall₂ Concord ns ms) : (itemsTuple s ns).Concord (itemsTuple s ms) := by
  intro v hv
  cases v with
  | arr vs =>
    have hvs : List.Forall₂ (fun v w : Value => v = w ∧ v.isJson = true) vs vs :=
      List.forall₂_same.2 fun v hmem => ⟨rfl, itemsJson_iff.1 hv v hmem⟩
    refine consistent_acceptsTuple hvs (h.imp fun n m h v w hvw => ?_)
    obtain ⟨rfl, hjson⟩ := hvw
    exact h v hjson
  | scalar | obj | set => exact consistent_self _

theorem concord_additionalItems {tupleSize : Nat} {applies : Bool} (h : n.Concord m) :
    (additionalItems s n tupleSize applies).Concord (additionalItems s m tupleSize applies) := by
  intro v hv
  cases v with
  | arr vs =>
    refine consistent_allOk_forall₂ (List.forall₂_same.2 fun v hmem => h v (itemsJson_iff.1 hv v ?_))
    unfold itemsBeyond at hmem
    split at hmem
    · exact List.mem_of_mem_drop hmem
    · cases hmem
  | scalar | obj | set => exact consistent_self _

theorem concord_contains {minimum maximum : Option Int} (h : n.Concord m) :
    (contains s n minimum maximum).Concord (contains s m minimum maximum) := by
  intro v hv
  cases v with
  | arr vs =>
    refine consistent_bind (consistent_countOk (List.forall₂_same.2 fun v hmem => h v (itemsJson_iff.1 hv v hmem))) ?_
    exact fun count => consistent_self _
  | scalar | obj | set => exact consistent_self _

/-! ### Values of schemas -/

/-- Two answers that are there are one, if the one is yes whenever the other is. -/
private theorem answer_eq {x y : Option Bool} (hx : x.isSome = true) (hy : y.isSome = true)
    (h : x = some true ↔ y = some true) : x = y := by
  obtain ⟨b, rfl⟩ := Option.isSome_iff_exists.1 hx
  obtain ⟨b', rfl⟩ := Option.isSome_iff_exists.1 hy
  rw [Option.some_inj, Option.some_inj] at h
  rw [Bool.eq_iff_iff.2 h]

/-- Constraints that tell of one answer make leaves in concord. -/
private theorem concord_answered {c d : Constraint} {x y : Value → Option Bool} {message message' : Value → Message}
    (hc : ∀ v, c.refusal? v = (answered (x v)).map (Constraint.failing · (message v)))
    (hd : ∀ v, d.refusal? v = (answered (y v)).map (Constraint.failing · (message' v)))
    (h : ∀ v : Value, v.isJson = true → x v = y v) : (leaf s c).Concord (leaf s d) := by
  intro v hv
  refine Constraint.consistent_told ?_
  rw [hc, hd, h v hv]
  cases hy : y v with
  | none => exact consistent_self _
  | some b => cases b <;> exact consistent_self _

theorem concord_const {w w' : Value} (hw : w.isJson = true) (hw' : w'.isJson = true) (h : w.canonical = w'.canonical) :
    (leaf s (.const w)).Concord (leaf s (.const w')) := by
  refine concord_answered (fun _ => rfl) (fun _ => rfl) fun v hv => ?_
  refine answer_eq (Value.isSome_equal? hv hw) (Value.isSome_equal? hv hw') ?_
  rw [Value.equal?_eq_true_iff hv hw, Value.equal?_eq_true_iff hv hw', h]

theorem concord_enum {ws ws' : List Value} (hws : ∀ w ∈ ws, w.isJson = true) (hws' : ∀ w ∈ ws', w.isJson = true)
    (h : ws.map (·.canonical) = ws'.map (·.canonical)) : (leaf s (.enum ws)).Concord (leaf s (.enum ws')) := by
  refine concord_answered (fun _ => rfl) (fun _ => rfl) fun v hv => ?_
  refine answer_eq (isSome_memberOf? hv hws) (isSome_memberOf? hv hws') ?_
  rw [memberOf?_eq_true_iff hv hws, memberOf?_eq_true_iff hv hws', h]

/-- Constraints that let everything pass make leaves in concord. -/
theorem concord_passing {c d : Constraint} (hc : ∀ v, c.failure? v = .ok none) (hd : ∀ v, d.failure? v = .ok none) :
    (leaf s c).Concord (leaf s d) := by
  intro v _
  rw [accepts, accepts, hc, hd]
  exact consistent_self _

end Node

end Conform
