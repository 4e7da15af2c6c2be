import Conform.Pointer
import Conform.Proofs.Json.Decoded
import Mathlib.Tactic.IntervalCases

/-!
# Walking down a document

The value at the location of a part is that part, for members and for items (`Pointer.eval_child`,
`Pointer.eval_item`).
-/

namespace Conform

namespace Text

theorem isDecimal_of_isDigit {c : Char} (h : c.isDigit = true) : isDecimal c = true := by
  simp [isDecimal, decimalValue?, h]

private theorem decimalOf_eq_ofDigitChars {cs : List Char} (h : ∀ c ∈ cs, c.isDigit = true) (n : Nat) :
    cs.foldl (fun n c => 10 * n + (decimalValue? c).getD 0) n = Nat.ofDigitChars 10 cs n := by
  induction cs generalizing n with
  | nil => rfl
  | cons c cs ih =>
    have hc := h c (by simp)
    rw [List.foldl_cons, ih (fun d hd => h d (by simp [hd]))]
    simp [Nat.ofDigitChars, decimalValue?, hc]

theorem decimalOf_toDigits (n : Nat) : decimalOf (Nat.toDigits 10 n) = n := by
  have hdigits : ∀ c ∈ Nat.toDigits 10 n, c.isDigit = true :=
    fun c hc => Nat.isDigit_of_mem_toDigits (by decide) (by decide) hc
  rw [decimalOf, decimalOf_eq_ofDigitChars hdigits, Nat.ofDigitChars_ten_toDigits]

end Text

namespace Pointer

private theorem digitChar_ne_zero {n : Nat} (hpos : 0 < n) (h : n < 10) : n.digitChar ≠ '0' := by
  interval_cases n
  all_goals decide

/-- The digits of a positive number do not start with a zero. -/
theorem head?_toDigits {n : Nat} (hpos : 0 < n) : (Nat.toDigits 10 n).head? ≠ some '0' := by
  induction n using Nat.strongRecOn with
  | ind n ih =>
    rw [Nat.toDigits_eq_if (by decide)]
    split
    · rename_i h
      simpa using digitChar_ne_zero hpos h
    · rename_i h
      have hrest := ih (n / 10) (by omega) (by omega)
      rw [List.head?_append_of_ne_nil _ Nat.toDigits_ne_nil]
      exact hrest

/-- The number of an item is its index. -/
theorem index?_toString (i : Nat) : index? (toString i) = .ok i := by
  have hdigits : ∀ c ∈ Nat.toDigits 10 i, c.isDigit = true :=
    fun c hc => Nat.isDigit_of_mem_toDigits (by decide) (by decide) hc
  have hdecimal : (Nat.toDigits 10 i).all Text.isDecimal = true :=
    List.all_eq_true.2 fun c hc => Text.isDecimal_of_isDigit (hdigits c hc)
  have hsign : (Nat.toDigits 10 i).all Text.isDigitSign = true :=
    List.all_eq_true.2 fun c hc => by simp [Text.isDigitSign, Text.isDecimal_of_isDigit (hdigits c hc)]
  have hhead : 1 < (Nat.toDigits 10 i).length → (Nat.toDigits 10 i).head? ≠ some '0' := by
    intro hlength
    refine head?_toDigits (Nat.pos_of_ne_zero ?_)
    rintro rfl
    simp at hlength
  unfold index?
  simp only [Nat.toString_eq_repr, Nat.toList_repr]
  rw [if_neg, if_pos hdecimal, Text.decimalOf_toDigits]
  simpa [hsign] using hhead

/-- A walk that goes on by one token. -/
theorem walk_append_token {here : Pointer} {ts : List String} {t : String} {v w u : Value}
    (hw : walk here ts v = .ok w) (hu : ∀ p, step p t w = .ok u) : walk here (ts ++ [t]) v = .ok u := by
  induction ts generalizing here v with
  | nil =>
    cases hw
    simp [walk, hu]
  | cons s ts ih =>
    rw [walk] at hw
    rw [List.cons_append, walk]
    split at hw
    · cases hw
    · exact ih hw

theorem eval_child {p : Pointer} {D : Value} {ms : List (Scalar × Value)} {name : String} {v : Value}
    (hp : p.eval D = .ok (.obj ms)) (hv : lookupKey (.str name) ms = some v) : (p.child name).eval D = .ok v :=
  walk_append_token hp fun here => by simp [step, hv]

theorem eval_item {p : Pointer} {D : Value} {vs : List Value} {i : Nat} {v : Value}
    (hp : p.eval D = .ok (.arr vs)) (hv : vs[i]? = some v) : (p.item i).eval D = .ok v :=
  walk_append_token hp fun here => by simp only [step, index?_toString, hv]

/-- What holds of a value at the root and passes on to items and members holds wherever a pointer leads. -/
theorem eval_induction {P : Pointer → Value → Prop}
    (hitem : ∀ p vs t i v, P p (.arr vs) → index? t = .ok i → vs[i]? = some v → P (p.child t) v)
    (hmember : ∀ p ms name v, P p (.obj ms) → lookupKey (.str name) ms = some v → P (p.child name) v) {p : Pointer}
    {D v : Value} (hD : P root D) (h : p.eval D = .ok v) : P p v := by
  have hwalk : ∀ (ts : List String) (here : Pointer) (D : Value), P here D → walk here ts D = .ok v →
      P ⟨here.tokens ++ ts⟩ v := by
    -- The induction is on the tokens that are left, from wherever the walk has come to.
    intro ts
    induction ts with
    | nil =>
      intro here D hD h
      cases h
      rwa [List.append_nil]
    | cons t ts ih =>
      intro here D hD h
      rw [walk] at h
      split at h
      · cases h
      · rename_i w hstep
        have hw : P (here.child t) w := by
          unfold step at hstep
          split at hstep
          · split at hstep
            · rename_i hlookup
              cases hstep
              exact hmember _ _ _ _ hD hlookup
            · cases hstep
          · split at hstep
            · cases hstep
            · rename_i i hindex
              split at hstep
              · rename_i hw
                cases hstep
                exact hitem _ _ _ i _ hD hindex hw
              · cases hstep
          · cases hstep
        have hrest := ih (here.child t) w hw h
        rwa [child, List.append_assoc] at hrest
  exact hwalk p.tokens root D hD h

/-- What holds of a value and passes on to items and members holds of everything in it. -/
theorem of_eval {P : Value → Prop} (hitem : ∀ vs v, P (.arr vs) → v ∈ vs → P v)
    (hmember : ∀ ms name v, P (.obj ms) → (.str name, v) ∈ ms → P v) {p : Pointer} {D v : Value} (hD : P D)
    (h : p.eval D = .ok v) : P v :=
  eval_induction (P := fun _ v => P v) (fun _ vs _ _ v hvs _ hv => hitem vs v hvs (List.mem_of_getElem? hv))
    (fun _ ms name v hms hv => hmember ms name v hms (mem_of_lookupKey hv)) hD h

/-- Whatever a pointer leads to is of a kind that everything in the value is of. -/
theorem of_every {p : Pointer} {D v : Value} {kind : Value → Bool} (hD : D.every kind = true) (h : p.eval D = .ok v) :
    kind v = true :=
  Value.of_every (of_eval (P := (·.every kind = true)) (fun _ _ => every_of_mem_items)
    (fun _ _ _ => every_of_mem_members) hD h)

/-- The parts of a JSON value are JSON values. -/
theorem isJson_of_eval {p : Pointer} {D v : Value} (hD : D.isJson = true) (h : p.eval D = .ok v) :
    v.isJson = true :=
  of_eval (P := (·.isJson = true)) (fun _ _ hvs hv => itemsJson_iff.1 hvs _ hv)
    (fun _ _ _ hms hv => (isJson_of_mem hms hv).2) hD h

/-- The pointer leads from a value to a part of it, where a member goes by the text of its key. -/
inductive Leads (D : Value) : Pointer → Value → Prop where
  | root : Leads D .root D
  | member {p : Pointer} {ms : List (Scalar × Value)} {k : Scalar} {v : Value} (h : Leads D p (.obj ms))
      (hv : (k, v) ∈ ms) : Leads D (p.key k) v
  | item {p : Pointer} {vs : List Value} {t : String} {i : Nat} {v : Value} (h : Leads D p (.arr vs))
      (ht : index? t = .ok i) (hv : vs[i]? = some v) : Leads D (p.child t) v

/-- In a JSON value there is one part at a pointer. -/
theorem Leads.eval {p : Pointer} {D v : Value} (h : Leads D p v) (hD : D.isJson = true) : p.eval D = .ok v := by
  induction h with
  | root => rfl
  | member h hv ih =>
    have hms := isJson_of_eval hD ih
    obtain ⟨⟨name, rfl⟩, -⟩ := isJson_of_mem hms hv
    exact eval_child ih (lookupKey_of_mem hms hv)
  | item h ht hv ih => exact walk_append_token ih fun here => by simp only [step, ht, hv]

theorem leads_of_eval {p : Pointer} {D v : Value} (h : p.eval D = .ok v) : Leads D p v :=
  eval_induction (P := Leads D) (fun _ _ _ _ _ hvs hi hv => .item hvs hi hv)
    (fun _ _ name _ hms hv => .member (k := .str name) hms (mem_of_lookupKey hv)) .root h

theorem root_append (p : Pointer) : root.append p = p := rfl

/-- A pointer reads the same with the mark of a fragment and without. -/
theorem ofFragment_hash {fragment : String} {rest : List Char} (h : fragment.toList = '/' :: rest) :
    ofFragment (String.ofList ('#' :: '/' :: rest)) = ofFragment fragment := by
  simp [ofFragment, h]

end Pointer

end Conform
