import Conform.Proofs.Json.Canonical
import Conform.Proofs.Schema.Consistent
import Conform.Proofs.Schema.Tractable
import Conform.Proofs.Schema.Tree

/-!
# Acceptance by canonical form

What a tree without a test for multiples says of a JSON value depends on the canonical form of the value alone: numbers
written in another way and members in another order, at any depth, make no difference (`Node.accepts_invariant`).
-/

namespace Conform

/-- Two JSON values of one canonical form. -/
structure Value.Same (v w : Value) : Prop where
  left : v.isJson = true
  right : w.isJson = true
  form : v.canonical = w.canonical

theorem Value.same_of_equal? {v w : Value} (hv : v.isJson = true) (hw : w.isJson = true)
    (h : v.equal? w = some true) : v.Same w :=
  ⟨hv, hw, (equal?_eq_true_iff hv hw).1 h⟩

/-! ### Arrays and objects -/

section Parts

variable {vs ws : List Value} {ms ns : List (Scalar × Value)}

theorem Value.Same.symm {v w : Value} (h : v.Same w) : w.Same v := ⟨h.right, h.left, h.form.symm⟩

theorem forall₂_same_items (h : (Value.arr vs).Same (.arr ws)) : List.Forall₂ Value.Same vs ws :=
  (forall₂_mem (Value.canonical_arr_eq_iff.1 h.form)).imp fun v w ⟨hv, hw, heq⟩ =>
    ⟨itemsJson_iff.1 h.left v hv, itemsJson_iff.1 h.right w hw, heq⟩

theorem exists_same_member (h : (Value.obj ms).Same (.obj ns)) {m : Scalar × Value} (hm : m ∈ ms) :
    ∃ n ∈ ns, m.1 = n.1 ∧ m.2.Same n.2 := by
  obtain ⟨w, hmem, heq⟩ := Value.exists_member_of_canonical h.left h.form hm
  exact ⟨(m.1, w), hmem, rfl, (isJson_of_mem h.left hm).2, (isJson_of_mem h.right hmem).2, heq⟩

theorem hasKey_congr (h : (Value.obj ms).Same (.obj ns)) (key : Scalar) : hasKey key ms = hasKey key ns := by
  have hstr (name : String) : hasKey (.str name) ms = hasKey (.str name) ns :=
    Value.isSome_congr (Value.canonical_obj_eq_iff.1 h.form name)
  rw [Bool.eq_iff_iff]
  constructor
  · intro hkey
    obtain ⟨name, rfl⟩ := exists_str_of_lookupKey h.left hkey
    rwa [← hstr]
  · intro hkey
    obtain ⟨name, rfl⟩ := exists_str_of_lookupKey h.right hkey
    rwa [hstr]

theorem same_of_lookupKey (h : (Value.obj ms).Same (.obj ns)) {key : Scalar} {v w : Value}
    (hv : lookupKey key ms = some v) (hw : lookupKey key ns = some w) : v.Same w := by
  obtain ⟨name, rfl⟩ := exists_str_of_lookupKey h.left (Option.isSome_iff_exists.2 ⟨v, hv⟩)
  have heq := Value.canonical_obj_eq_iff.1 h.form name
  rw [hv, hw, Option.map_some, Option.map_some, Option.some_inj] at heq
  exact ⟨(isJson_of_mem h.left (mem_of_lookupKey hv)).2, (isJson_of_mem h.right (mem_of_lookupKey hw)).2, heq⟩

theorem length_members (h : (Value.obj ms).Same (.obj ns)) : ms.length = ns.length := by
  have hmem {ms ns : List (Scalar × Value)} (h : (Value.obj ms).Same (.obj ns)) {key : Scalar}
      (hkey : key ∈ ms.map (·.1)) : key ∈ ns.map (·.1) := by
    obtain ⟨m, hm, rfl⟩ := List.mem_map.1 hkey
    obtain ⟨n, hn, heq, -⟩ := exists_same_member h hm
    exact List.mem_map.2 ⟨n, hn, heq.symm⟩
  have hperm : (ms.map (·.1)).Perm (ns.map (·.1)) :=
    (List.perm_ext_iff_of_nodup (membersJson_iff.1 h.left).1 (membersJson_iff.1 h.right).1).2 fun key => ⟨hmem h, hmem h.symm⟩
  simpa using hperm.length_eq

end Parts

/-- Values of one canonical form are of one kind, and their parts are of one canonical form each. -/
@[elab_as_elim]
theorem Value.Same.cases {P : (v w : Value) → v.Same w → Prop} (null : ∀ h, P .null .null h)
    (bool : ∀ b h, P (.bool b) (.bool b) h) (num : ∀ (m n : Number) (h : (Value.num m).Same (.num n)),
      m.isJson = true → n.isJson = true → m.value = n.value → P (.num m) (.num n) h)
    (str : ∀ s h, P (.str s) (.str s) h) (arr : ∀ vs ws h, P (.arr vs) (.arr ws) h)
    (obj : ∀ ms ns h, P (.obj ms) (.obj ns) h) {v w : Value} (h : v.Same w) : P v w h := by
  have hform := h.form
  cases v with
  | scalar a =>
    cases w with
    | scalar b =>
      cases a <;> cases b
      case bytes.bytes => cases h.left
      case num.num m n => exact num m n h h.left h.right (by simpa [canonical] using hform)
      all_goals simp only [canonical, reduceCtorEq, Canonical.bool.injEq, Canonical.str.injEq] at hform
      · exact null h
      · subst hform
        exact bool _ h
      · subst hform
        exact str _ h
    | arr | obj => cases a <;> simp [canonical] at hform
    | set => cases h.right
  | arr vs =>
    cases w with
    | arr ws => exact arr vs ws h
    | scalar b => cases b <;> simp [canonical] at hform
    | obj | set => simp [canonical] at hform
  | obj ms =>
    cases w with
    | obj ns => exact obj ms ns h
    | scalar b => cases b <;> simp [canonical] at hform
    | arr | set => simp [canonical] at hform
  | set => cases h.left

/-! ### Constraints -/

section Constraints

variable {v w : Value}

theorem memberOf?_congr (h : v.Same w) {values : List Value} {p q : Bool} (hp : memberOf? v values = some p)
    (hq : memberOf? w values = some q) : p = q := by
  induction values with
  | nil => exact Option.some_inj.1 (hp.symm.trans hq)
  | cons u values ih =>
    have hequal {p q : Bool} (hp : v.equal? u = some p) (hq : w.equal? u = some q) : p = q :=
      Value.equal?_congr h.left h.right h.form hp hq
    rw [memberOf?] at hp hq
    split at hp
    · rename_i hv
      split at hq
      · exact ih hp hq
      · rename_i hw
        exact absurd (hequal hv hq) fun h => hw (by rw [h, hq])
    · rename_i hv
      split at hq
      · rename_i hw
        exact absurd (hequal hp hw) fun h => hv (by rw [hp, h])
      · exact hequal hp hq

theorem memberOf?_eq_true_iff {values : List Value} (hv : v.isJson = true) (hvalues : ∀ u ∈ values, u.isJson = true) :
    memberOf? v values = some true ↔ v.canonical ∈ values.map (·.canonical) := by
  induction values with
  | nil => simp [memberOf?]
  | cons u values ih =>
    obtain ⟨hu, hvalues⟩ := List.forall_mem_cons.1 hvalues
    obtain ⟨b, hb⟩ := Option.isSome_iff_exists.1 (Value.isSome_equal? hv hu)
    have hequal := Value.equal?_eq_true_iff hv hu
    rw [memberOf?, hb, List.map_cons, List.mem_cons, ← ih hvalues, ← hequal, hb]
    cases b <;> simp

/-- An array has a repeated item exactly if a canonical form is repeated. -/
theorem hasRepeat?_eq_true_iff {before vs : List Value} (hbefore : ∀ u ∈ before, u.isJson = true)
    (hvs : ∀ u ∈ vs, u.isJson = true) (hnodup : (before.map (·.canonical)).Nodup) :
    hasRepeat? before vs = some true ↔ ¬((before ++ vs).map (·.canonical)).Nodup := by
  induction vs generalizing before with
  | nil => simpa [hasRepeat?] using hnodup
  | cons v vs ih =>
    obtain ⟨hv, hvs⟩ := List.forall_mem_cons.1 hvs
    obtain ⟨b, hb⟩ := Option.isSome_iff_exists.1 (isSome_memberOf? hv hbefore)
    have hmember := memberOf?_eq_true_iff hv hbefore
    rw [hasRepeat?, hb]
    cases b with
    | true =>
      refine iff_of_true rfl fun h => ?_
      rw [List.map_append, List.nodup_append] at h
      exact h.2.2 _ (hmember.1 hb) v.canonical (by simp) rfl
    | false =>
      have hnew : v.canonical ∉ before.map (·.canonical) := fun h => by
        rw [← hmember, hb] at h
        cases h
      have hsplit : before ++ v :: vs = before ++ [v] ++ vs := by simp
      rw [hsplit]
      refine ih (fun u hu => ?_) hvs ?_
      · rcases List.mem_append.1 hu with hu | hu
        · exact hbefore u hu
        · rw [List.mem_singleton.1 hu]
          exact hv
      · rw [List.map_append, List.map_singleton, List.nodup_append]
        exact ⟨hnodup, by simp, fun a ha b hb heq => hnew (by simp_all)⟩

/-- The constraint is no test for multiples. -/
def Constraint.TestsNoMultiple : Constraint → Prop
  | .limit _ relation _ => relation ≠ .multipleOf
  | _ => True

/-- A caller's test is what a format is meant to be, a predicate over JSON values: it does not tell apart what is one
value. -/
def Check.OfValues (check : Check) : Prop :=
  ∀ v w : Value, v.isJson = true → w.isJson = true → v.equal? w = some true →
    Consistent (check.answer v) (check.answer w)

/-- The constraint, if it is a caller's test, is one of JSON values. -/
def Constraint.TestsValues : Constraint → Prop
  | .checked _ _ check => check.OfValues
  | _ => True

private theorem isInteger_congr (h : v.Same w) : v.isInteger = w.isInteger := by
  cases h using Value.Same.cases with
  | num m n _ hm hn hvalue => exact Number.isInteger_congr hm hn hvalue
  | null | bool | str | arr | obj => rfl

private theorem kind?_congr (h : v.Same w) : v.kind? = w.kind? := by
  cases h using Value.Same.cases with
  | null | bool | num | str | arr | obj => rfl

private theorem consistent_hasTypeIn (h : v.Same w) (names : List String) :
    Consistent (hasTypeIn names v) (hasTypeIn names w) := by
  induction names with
  | nil => exact consistent_self _
  | cons name names ih =>
    have hone : Consistent (hasType name v) (hasType name w) := by
      unfold hasType
      rw [isInteger_congr h, kind?_congr h]
      split
      · exact consistent_self _
      · cases w.kind? with
        | none => exact nofun
        | some kind => exact consistent_self _
    refine consistent_bind hone fun here => ?_
    cases here with
    | true => exact consistent_self _
    | false => exact ih

private theorem consistent_holds {m n bound : Number} {relation : Relation} (hrelation : relation ≠ .multipleOf)
    (hm : m.isJson = true) (hn : n.isJson = true) (h : m.value = n.value) {p q : Bool}
    (hp : relation.holds m bound = .ok p) (hq : relation.holds n bound = .ok q) : p = q := by
  have horder {f : Option Ordering → Bool} (hp : (m.order bound).map f = .ok p) (hq : (n.order bound).map f = .ok q) :
      p = q := by
    obtain ⟨o, ho, rfl⟩ := map_eq_ok.1 hp
    obtain ⟨o', ho', rfl⟩ := map_eq_ok.1 hq
    rw [Number.order_congr hm hn h ho ho']
  cases relation with
  | multipleOf => exact absurd rfl hrelation
  | atMost | below | atLeast | above => exact horder hp hq

private theorem consistent_answered {a b : Option Bool} (h : ∀ p q, a = some p → b = some q → p = q) :
    Consistent (answered a) (answered b) := by
  intro p q hp hq
  cases a with
  | none => cases hp
  | some p' =>
    cases b with
    | none => cases hq
    | some q' =>
      cases hp
      cases hq
      exact h p q rfl rfl

/-- What a value is told does not matter, but whether it is told anything. -/
private theorem map_failing (x : Except EvalError Bool) (message : Message) :
    (x.map (Constraint.failing · message)).map (·.isNone) = x := by
  cases x with
  | error e => rfl
  | ok b => cases b <;> rfl

private theorem isFinite_of_isJson {n : Number} (hn : n.isJson = true) : n.isFinite = true := by
  cases n with
  | int | dec => exact hn
  | dbl => cases hn

private theorem consistent_limit {m n bound : Number} {relation : Relation} (hrelation : relation ≠ .multipleOf)
    (hm : m.isJson = true) (hn : n.isJson = true) (h : m.value = n.value) (keyword : String) :
    Consistent (((Constraint.limit keyword relation bound).refusal? (.num m)).map (·.isNone))
      (((Constraint.limit keyword relation bound).refusal? (.num n)).map (·.isNone)) := by
  have hholds {k : Number} (hk : k.isJson = true) {p : Bool}
      (hp : ((Constraint.limit keyword relation bound).refusal? (.num k)).map (·.isNone) = .ok p) :
      relation.holds k bound = .ok p := by
    rw [Constraint.refusal?, if_pos (isFinite_of_isJson hk), Number.exact_of_isJson hk] at hp
    cases hanswer : relation.holds k bound with
    | error fault =>
      rw [hanswer] at hp
      cases hp
    | ok holds =>
      rw [hanswer] at hp
      cases hp
      cases holds <;> rfl
  exact fun p q hp hq => consistent_holds hrelation hm hn h (hholds hm hp) (hholds hn hq)

private theorem acceptsNumber_congr {m n : Number} (hm : m.isJson = true) (hn : n.isJson = true) (h : m.value = n.value)
    (standard : StandardFormat) : standard.acceptsNumber m = standard.acceptsNumber n := by
  unfold StandardFormat.acceptsNumber
  cases standard.bits? with
  | none => rfl
  | some bits => exact Number.isIntegerWithin_congr hm hn h _ _

private theorem consistent_uniqueItems {vs ws : List Value} (h : (Value.arr vs).Same (.arr ws)) :
    Consistent (answered (hasRepeat? [] vs)) (answered (hasRepeat? [] ws)) := by
  have hrepeat {vs : List Value} (hvs : (Value.arr vs).isJson = true) :
      hasRepeat? [] vs = some true ↔ ¬(vs.map (·.canonical)).Nodup :=
    hasRepeat?_eq_true_iff (by simp) (itemsJson_iff.1 hvs) List.nodup_nil
  have hforms : vs.map (·.canonical) = ws.map (·.canonical) := by
    have hform := h.form
    rwa [Value.canonical, Value.canonical, Canonical.arr.injEq, itemsCanonical_eq, itemsCanonical_eq] at hform
  refine consistent_answered fun p q hp hq => ?_
  have hiff : hasRepeat? [] vs = some true ↔ hasRepeat? [] ws = some true := by
    rw [hrepeat h.left, hrepeat h.right, hforms]
  rw [hp, hq, Option.some_inj, Option.some_inj] at hiff
  exact Bool.eq_iff_iff.2 hiff

private theorem consistent_standard (standard : StandardFormat) (h : v.Same w) :
    standard.accepts v = standard.accepts w := by
  cases h using Value.Same.cases with
  | null | bool | str | arr | obj => rfl
  | num m n _ hm hn hvalue => rw [StandardFormat.accepts, StandardFormat.accepts, acceptsNumber_congr hm hn hvalue]

theorem Constraint.consistent_refusal? {c : Constraint} (hc : c.TestsNoMultiple) (hchecks : c.TestsValues) (h : v.Same w) :
    Consistent ((c.refusal? v).map (·.isNone)) ((c.refusal? w).map (·.isNone)) := by
  cases c with
  | type names =>
    rw [refusal?, refusal?, map_failing, map_failing]
    exact consistent_hasTypeIn h names
  | enum values =>
    rw [refusal?, refusal?, map_failing, map_failing]
    exact consistent_answered fun _ _ => memberOf?_congr h
  | const value =>
    rw [refusal?, refusal?, map_failing, map_failing]
    exact consistent_answered fun _ _ => Value.equal?_congr h.left h.right h.form
  | limit keyword relation bound =>
    cases h using Value.Same.cases with
    | num m n _ hm hn hvalue => exact consistent_limit hc hm hn hvalue keyword
    | null | bool | str | arr | obj => exact consistent_self _
  | size sized keyword lower bound =>
    cases h using Value.Same.cases with
    | null | bool | str => exact consistent_self _
    | num => cases sized <;> exact consistent_self _
    | arr vs ws h =>
      have hlength := (forall₂_same_items h).length_eq
      cases sized <;> simp only [refusal?, Sized.count?, hlength] <;> exact consistent_self _
    | obj ms ns h =>
      have hlength := length_members h
      cases sized <;> simp only [refusal?, Sized.count?, hlength] <;> exact consistent_self _
  | pattern regex =>
    cases h using Value.Same.cases with
    | null | bool | num | str | arr | obj => exact consistent_self _
  | format name standard =>
    intro p q hp hq
    rw [refusal?, consistent_standard standard h] at hp
    rw [refusal?] at hq
    cases hanswer : standard.accepts w with
    | error e =>
      rw [hanswer] at hp
      cases hp
    | ok b =>
      rw [hanswer] at hp hq
      cases hp
      cases hq
      cases b <;> rfl
  | checked name checker check =>
    rw [refusal?, refusal?, map_failing, map_failing]
    exact hchecks v w h.left h.right ((Value.equal?_eq_true_iff h.left h.right).2 h.form)
  | uniqueItems =>
    cases h using Value.Same.cases with
    | null | bool | num | str | obj => exact consistent_self _
    | arr vs ws h => exact consistent_map (consistent_map (consistent_uniqueItems h) _) _
  | default | extension => exact consistent_self _

/-! ### Callers' tests -/

/-- A test of texts is one of JSON values: a text is the same value as no other. -/
theorem Check.ofValues_ofTexts (test : String → Except EvalError Bool) : (ofTexts test).OfValues := by
  intro v w hv hw hequal
  cases Value.same_of_equal? hv hw hequal using Value.Same.cases with
  | null | bool | num | str | arr | obj => exact consistent_self _

theorem Check.ofValues_ofStandard (standard : StandardFormat) : (ofStandard standard).OfValues := by
  intro v w hv hw hequal p q hp hq
  have hsame := consistent_standard standard (Value.same_of_equal? hv hw hequal)
  have hp := mapError_eq_ok.1 hp
  rw [hsame, mapError_eq_ok.1 hq] at hp
  exact (Except.ok.inj hp).symm

end Constraints

/-! ### Trees -/

namespace Node

variable {v w : Value}

/-- The node is no test for multiples. -/
def TestsNoMultiple : Node → Prop
  | .leaf _ constraint => constraint.TestsNoMultiple
  | _ => True

/-- The node, if it is a caller's test, is one of JSON values. -/
def TestsValues : Node → Prop
  | .leaf _ constraint => constraint.TestsValues
  | _ => True

/-- A question that is put to the members of an object, each under its key. -/
private theorem consistent_allOk_members {ms ns : List (Scalar × Value)} (h : (Value.obj ms).Same (.obj ns))
    {test : Scalar × Value → Except EvalError Bool}
    (htest : ∀ key v w, v.Same w → Consistent (test (key, v)) (test (key, w))) :
    Consistent (allOk test ms) (allOk test ns) := by
  refine consistent_allOk (fun ⟨key, v⟩ hm => ?_) fun ⟨key, w⟩ hn => ?_
  · obtain ⟨⟨key', w⟩, hn, rfl, hsame⟩ := exists_same_member h hm
    exact ⟨_, hn, htest key v w hsame⟩
  · obtain ⟨⟨key', v⟩, hm, rfl, hsame⟩ := exists_same_member h.symm hn
    exact ⟨_, hm, htest key v w hsame.symm⟩

/-- What a tree without a test for multiples says of a JSON value depends on its canonical form. -/
theorem consistent_accepts {n : Node} (hn : n.All TestsNoMultiple) (hchecks : n.All TestsValues) (h : v.Same w) :
    Consistent (n.accepts v) (n.accepts w) := by
  induction n using Node.induction generalizing v w with
  | step n ih =>
    have hsub {c : Node} (hc : c ∈ n.subnodes) {v w : Value} (h : v.Same w) : Consistent (c.accepts v) (c.accepts w) :=
      ih c hc (hn.sub hc) (hchecks.sub hc) h
    have hall {ns : List Node} (hns : ∀ c ∈ ns, c ∈ n.subnodes) : Consistent (acceptsAll ns v) (acceptsAll ns w) :=
      consistent_acceptsAll (fun c hc => ⟨c, hc, hsub (hns c hc) h⟩) fun c hc => ⟨c, hc, hsub (hns c hc) h⟩
    cases n with
    | constant | bare => exact consistent_self _
    | not s child =>
      rw [accepts, accepts]
      exact consistent_map (hsub (by simp [subnodes]) h) _
    | combine s keyword counting children =>
      have heach : List.Forall₂ (fun n m => Consistent (n.accepts v) (m.accepts w)) children children :=
        List.forall₂_same.2 fun c hc => hsub hc h
      cases counting with
      | all => exact hall fun _ hc => hc
      | any => exact consistent_acceptsAny heach
      | one => exact consistent_acceptsOne heach false
    | group s children => exact hall fun _ hc => hc
    | delegatedFormat s name checker constraints =>
      refine consistent_bind (hall fun _ hc => hc) fun ok => Message.consistent_written ?_
      cases ok <;> rfl
    | conditional s condition thenBranch elseBranch =>
      rw [accepts, accepts]
      have hbranch {branch : Option Node} (hb : ∀ c ∈ branch, c ∈ (conditional s condition thenBranch elseBranch).subnodes) :
          Consistent (acceptsBranch branch v) (acceptsBranch branch w) := by
        cases branch with
        | none => exact consistent_self _
        | some c => exact hsub (hb c rfl) h
      refine consistent_bind (hsub (by simp [subnodes]) h) fun here => ?_
      cases here with
      | true => exact hbranch (by simp +contextual [subnodes])
      | false => exact hbranch (by simp +contextual [subnodes])
    | reference s target =>
      rw [accepts, accepts]
      exact hsub (by simp [subnodes]) h
    | delegating s key inner =>
      rw [accepts, accepts]
      exact hsub (by simp [subnodes]) h
    | leaf s constraint =>
      rw [accepts, accepts]
      exact Constraint.consistent_told (Constraint.consistent_refusal? hn.self hchecks.self h)
    | properties s entries =>
      cases h using Value.Same.cases with
      | null | bool | num | str | arr => exact consistent_self _
      | obj ms ns h =>
        have hentry : ∀ e ∈ entries, ∀ v w, lookupKey e.1 ms = some v → lookupKey e.1 ns = some w →
            Consistent (e.2.accepts v) (e.2.accepts w) := fun e he v w hv hw =>
          hsub (List.mem_map.2 ⟨e, he, rfl⟩) (same_of_lookupKey h hv hw)
        exact consistent_acceptsEntries (fun e he => ⟨e, he, rfl, hentry e he⟩) (fun e he => ⟨e, he, rfl, hentry e he⟩)
          fun key => hasKey_congr h key
    | patternProperties s entries =>
      cases h using Value.Same.cases with
      | null | bool | num | str | arr => exact consistent_self _
      | obj ms ns h =>
        rw [accepts, accepts, acceptsMatches_eq, acceptsMatches_eq]
        refine consistent_allOk_forall₂ (List.forall₂_same.2 fun e he => consistent_allOk_members h fun key v w hsame => ?_)
        exact consistent_when (hsub (List.mem_map.2 ⟨e, he, rfl⟩) hsame)
    | additionalProperties s schema names patterns =>
      cases h using Value.Same.cases with
      | null | bool | num | str | arr => exact consistent_self _
      | obj ms ns h =>
        exact consistent_allOk_members h fun key v w hsame => consistent_when (hsub (by simp [subnodes]) hsame)
    | propertyNames s schema =>
      cases h using Value.Same.cases with
      | null | bool | num | str | arr => exact consistent_self _
      | obj ms ns h => exact consistent_allOk_members h fun key v w _ => consistent_self _
    | required s names =>
      cases h using Value.Same.cases with
      | null | bool | num | str | arr => exact consistent_self _
      | obj ms ns h =>
        rw [accepts, accepts]
        simp only [hasKey_congr h]
        exact consistent_self _
    | items s schema =>
      cases h using Value.Same.cases with
      | null | bool | num | str | obj => exact consistent_self _
      | arr vs ws h =>
        exact consistent_allOk_forall₂ ((forall₂_same_items h).imp fun v w hsame => hsub (by simp [subnodes]) hsame)
    | itemsTuple s schemas =>
      cases h using Value.Same.cases with
      | null | bool | num | str | obj => exact consistent_self _
      | arr vs ws h =>
        exact consistent_acceptsTuple (forall₂_same_items h) (List.forall₂_same.2 fun c hc v w hsame => hsub hc hsame)
    | additionalItems s schema tupleSize applies =>
      cases h using Value.Same.cases with
      | null | bool | num | str | obj => exact consistent_self _
      | arr vs ws h =>
        have hbeyond : List.Forall₂ Value.Same (itemsBeyond tupleSize applies vs) (itemsBeyond tupleSize applies ws) := by
          cases applies with
          | true => exact List.forall₂_drop tupleSize (forall₂_same_items h)
          | false => exact .nil
        exact consistent_allOk_forall₂ (hbeyond.imp fun v w hsame => hsub (by simp [subnodes]) hsame)
    | contains s schema minimum maximum =>
      cases h using Value.Same.cases with
      | null | bool | num | str | obj => exact consistent_self _
      | arr vs ws h =>
        have hcount := consistent_countOk ((forall₂_same_items h).imp fun v w hsame =>
          hsub (c := schema) (by simp [subnodes]) hsame)
        exact consistent_bind hcount fun count => consistent_self _

/-- Validity depends on the JSON value alone: on equal values a tree agrees that has no test for multiples, and whose
formats of a caller's are tests of JSON values. -/
theorem accepts_invariant {n : Node} {a b : Value} {p q : Bool} (hn : n.All TestsNoMultiple) (hchecks : n.All TestsValues)
    (ha : a.isJson = true) (hb : b.isJson = true) (hequal : a.equal? b = some true) (hp : n.accepts a = .ok p)
    (hq : n.accepts b = .ok q) : p = q :=
  consistent_accepts hn hchecks (Value.same_of_equal? ha hb hequal) p q hp hq

/-- Members in another order, and the number `1` written as `1.0` and as `10e-1`: an enumeration, a bound, a test for
repetitions and a caller's test of texts all take them for the same. -/
theorem accepts_invariant_rewritten :
    let short : Check := .ofTexts fun s => .ok (decide (s.length ≤ 3))
    let bounded : Node := .combine {} "allOf" .all [.leaf {} (.type ["integer"]), .leaf {} (.limit "maximum" .atMost (.int 1))]
    let listed : Node := .leaf {} (.enum [.null, .arr [.int 1, .int 2]])
    let n : Node := .group {} [.properties {} [(.str "x", bounded), (.str "y", listed)],
      .propertyNames {} (.leaf {} (.checked "short" "short" short))] none none none
    let a := Value.ofPairs [("x", .int 1), ("y", .arr [.int 1, .int 2])]
    let b := Value.ofPairs [("y", .arr [.num (.dec (.finite false 10 (-1))), .int 2]),
      ("x", .num (.dec (.finite false 100 (-2))))]
    a.equal? b = some true ∧ ∃ p q, n.accepts a = .ok p ∧ n.accepts b = .ok q ∧ p = true ∧ p = q := by
  intro short bounded listed n a b
  have hleaf (c : Constraint) (hc : c.TestsNoMultiple ∧ c.TestsValues) :
      (Node.leaf {} c).All fun m => m.TestsNoMultiple ∧ m.TestsValues := .intro hc (by simp [subnodes])
  have hbounded : bounded.All fun m => m.TestsNoMultiple ∧ m.TestsValues := .intro ⟨trivial, trivial⟩ fun c hc => by
    rcases List.mem_pair.1 hc with rfl | rfl
    · exact hleaf _ ⟨trivial, trivial⟩
    · exact hleaf _ ⟨by simp [Constraint.TestsNoMultiple], trivial⟩
  have hplain : n.All fun m => m.TestsNoMultiple ∧ m.TestsValues := .intro ⟨trivial, trivial⟩ fun c hc => by
    rcases List.mem_pair.1 hc with rfl | rfl
    · exact .intro ⟨trivial, trivial⟩ fun c hc => by
        rcases List.mem_pair.1 hc with rfl | rfl
        · exact hbounded
        · exact hleaf _ ⟨trivial, trivial⟩
    · exact .intro ⟨trivial, trivial⟩ fun c hc => by
        rw [List.mem_singleton.1 hc]
        exact hleaf _ ⟨trivial, Check.ofValues_ofTexts _⟩
  have hp : n.accepts a = .ok true := toOption_eq_some.1 (by decide +kernel)
  have hq : n.accepts b = .ok true := toOption_eq_some.1 (by decide +kernel)
  exact ⟨rfl, true, true, hp, hq, rfl,
    accepts_invariant (hplain.mono fun _ h => h.1) (hplain.mono fun _ h => h.2) rfl rfl rfl hp hq⟩

end Node

end Conform
