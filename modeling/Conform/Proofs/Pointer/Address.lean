import Conform.Failure
import Conform.Proofs.Pointer

/-!
# What a pointer addresses

A pointer leads from part to part: to the member under a name, and to the item whose index is written as the token
(`Pointer.Follows`, `Pointer.Numbers`).  Evaluation gives the value that it leads to, and tells that there is none otherwise,
so that two pointers never lead to one location (`Pointer.eval_iff_of_plain`).

Indexes are read with the digits of all scripts (`Pointer.index?`), and characters that stand for a digit without being one
are no index but a fault of another kind, and so is an index with more digits than integers are read from.  So all this is
said of pointers that come to no array with such a token (`Pointer.PlainIn`), and it fails for others
(`Pointer.eval_foreign_digits`).
-/

namespace Conform

namespace Pointer

/-! ### Where tokens lead -/

/-- The tokens lead from the one value to the other, by the members and items at these positions, where a token is read as an
index in this way. -/
inductive Follows (reads : String → Nat → Prop) : List String → List Nat → Value → Value → Prop where
  | here {v : Value} : Follows reads [] [] v v
  | member {t : String} {ts : List String} {i : Nat} {path : List Nat} {ms : List (Scalar × Value)} {v w : Value}
      (hv : ms[i]? = some (.str t, v)) (h : Follows reads ts path v w) : Follows reads (t :: ts) (i :: path) (.obj ms) w
  | item {t : String} {ts : List String} {i : Nat} {path : List Nat} {vs : List Value} {v w : Value} (ht : reads t i)
      (hv : vs[i]? = some v) (h : Follows reads ts path v w) : Follows reads (t :: ts) (i :: path) (.arr vs) w

/-- Evaluation reads the token as the index. -/
def Reads (t : String) (i : Nat) : Prop := index? t = .ok i

/-- The token is the index as it is written: ASCII digits without a leading zero. -/
def Numbers (t : String) (i : Nat) : Prop := t = toString i

section Follows

variable {reads : String → Nat → Prop} {t : String} {ts : List String} {v w : Value}

private theorem follows_nil : (∃ path, Follows reads [] path v w) ↔ v = w := by
  constructor
  · rintro ⟨_, ⟨⟩⟩
    rfl
  · rintro rfl
    exact ⟨[], .here⟩

private theorem follows_obj {ms : List (Scalar × Value)} (hms : membersJson ms = true) :
    (∃ path, Follows reads (t :: ts) path (.obj ms) w) ↔
      ∃ v, lookupKey (.str t) ms = some v ∧ ∃ path, Follows reads ts path v w := by
  constructor
  · rintro ⟨_, _ | ⟨hv, h⟩⟩
    exact ⟨_, lookupKey_of_mem hms (List.mem_of_getElem? hv), _, h⟩
  · rintro ⟨v, hv, path, h⟩
    obtain ⟨i, hi⟩ := List.mem_iff_getElem?.1 (mem_of_lookupKey hv)
    exact ⟨i :: path, .member hi h⟩

private theorem follows_arr {vs : List Value} : (∃ path, Follows reads (t :: ts) path (.arr vs) w) ↔
    ∃ i v, reads t i ∧ vs[i]? = some v ∧ ∃ path, Follows reads ts path v w := by
  constructor
  · rintro ⟨_, _ | _ | ⟨ht, hv, h⟩⟩
    exact ⟨_, _, ht, hv, _, h⟩
  · rintro ⟨i, v, ht, hv, path, h⟩
    exact ⟨i :: path, .item ht hv h⟩

/-- Evaluation gives the value that the tokens lead to. -/
theorem walk_eq_ok_iff (hv : v.isJson = true) (here : Pointer) :
    walk here ts v = .ok w ↔ ∃ path, Follows Reads ts path v w := by
  induction ts generalizing here v with
  | nil =>
    rw [follows_nil, walk]
    exact ⟨fun h => Except.ok.inj h, fun h => congrArg Except.ok h⟩
  | cons t ts ih =>
    rw [walk]
    cases v with
    | obj ms =>
      rw [follows_obj hv, step]
      cases hlookup : lookupKey (.str t) ms with
      | none => simp
      | some u =>
        have hu := (isJson_of_mem hv (mem_of_lookupKey hlookup)).2
        simp [ih hu]
    | arr vs =>
      rw [follows_arr, step]
      cases hindex : index? t with
      | error fault => simp [Reads, hindex]
      | ok i =>
        cases hitem : vs[i]? with
        | none => simp [Reads, hindex, hitem]
        | some u =>
          have hu := itemsJson_iff.1 hv u (List.mem_of_getElem? hitem)
          simp [Reads, hindex, hitem, ih hu]
    | scalar | set =>
      simp only [step, reduceCtorEq, false_iff]
      rintro ⟨_, ⟨⟩⟩

end Follows

/-! ### Tokens without digits of other scripts -/

/-- The token is no row of digit signs with one beyond ASCII among them, nor with more than an integer is read from. -/
def IsPlain (t : String) : Prop :=
  (∀ c ∈ t.toList, Text.isDigitSign c = true) → (∀ c ∈ t.toList, c.isDigit = true) ∧ t.length ≤ Text.digitLimit

section Plain

variable {t : String} {i : Nat}

/-- A digit is what its value is written as. -/
private theorem toDigits_of_isDigit {c : Char} (hc : c.isDigit = true) :
    c.toNat - 48 < 10 ∧ Nat.toDigits 10 (c.toNat - 48) = [c] := by
  obtain ⟨hlow, hhigh⟩ : 48 ≤ c.toNat ∧ c.toNat ≤ 57 := Char.isDigit_iff_toNat.1 hc
  refine ⟨by omega, ?_⟩
  rw [Nat.toDigits_of_lt_base (by omega), List.cons.injEq]
  refine ⟨Char.toNat_inj.1 ?_, rfl⟩
  rw [Nat.toNat_digitChar_of_lt_ten (by omega)]
  omega

/-- Digits after those of a positive number are those of a number. -/
private theorem toDigits_append {cs : List Char} (hcs : ∀ c ∈ cs, c.isDigit = true) {n : Nat} (hn : 0 < n) :
    Nat.toDigits 10 n ++ cs = Nat.toDigits 10 (Nat.ofDigitChars 10 cs n) := by
  induction cs generalizing n with
  | nil => rw [List.append_nil, Nat.ofDigitChars_nil]
  | cons c cs ih =>
    obtain ⟨hlt, hdigit⟩ := toDigits_of_isDigit (hcs c (by simp))
    have hnext := Nat.toDigits_append_toDigits (b := 10) (by decide) hn hlt
    rw [hdigit] at hnext
    calc Nat.toDigits 10 n ++ c :: cs = (Nat.toDigits 10 n ++ [c]) ++ cs := by simp
      _ = Nat.toDigits 10 (10 * n + (c.toNat - 48)) ++ cs := by rw [hnext]
      _ = Nat.toDigits 10 (Nat.ofDigitChars 10 (c :: cs) n) := by
        rw [ih (fun d hd => hcs d (by simp [hd])) (by omega), Nat.ofDigitChars_cons]
        rfl

/-- What an index is written as: ASCII digits that do not start with a zero, unless they are that zero. -/
theorem exists_numbers_iff : (∃ i, Numbers t i) ↔
    t.toList ≠ [] ∧ (∀ c ∈ t.toList, c.isDigit = true) ∧ (t.toList.head? = some '0' → t = "0") := by
  constructor
  · rintro ⟨i, rfl⟩
    rw [Nat.toString_eq_repr, Nat.toList_repr]
    refine ⟨Nat.toDigits_ne_nil, fun c hc => Nat.isDigit_of_mem_toDigits (by decide) (by decide) hc, fun hhead => ?_⟩
    rcases Nat.eq_zero_or_pos i with rfl | hpos
    · rfl
    · exact absurd hhead (head?_toDigits hpos)
  · rintro ⟨hne, hdigits, hzero⟩
    obtain ⟨c, cs, hcs⟩ := List.exists_cons_of_ne_nil hne
    rw [hcs] at hdigits hzero
    -- Only after a positive number do further digits stay as they are written, so zero is a case of its own.
    by_cases hc : c = '0'
    · exact ⟨0, hzero (by rw [hc]; rfl)⟩
    · obtain ⟨-, hdigit⟩ := toDigits_of_isDigit (hdigits c (by simp))
      have hpos : 0 < c.toNat - 48 := by
        refine Nat.pos_of_ne_zero fun heq => hc ?_
        rw [heq] at hdigit
        exact (List.cons.inj hdigit).1.symm
      refine ⟨Nat.ofDigitChars 10 cs (c.toNat - 48), String.toList_inj.1 ?_⟩
      rw [Nat.toString_eq_repr, Nat.toList_repr, ← toDigits_append (fun d hd => hdigits d (by simp [hd])) hpos, hdigit, hcs]
      rfl

/-- A token without digits of other scripts is read as the index that it is written for. -/
theorem reads_iff (ht : IsPlain t) : Reads t i ↔ Numbers t i := by
  constructor
  · intro h
    have hindex := h
    unfold Reads index? at hindex
    dsimp only at hindex
    split at hindex
    · cases hindex
    · rename_i hshape
      simp only [Bool.or_eq_true, Bool.and_eq_true, not_or, not_and, Bool.not_eq_true', decide_eq_true_eq, beq_iff_eq,
        Bool.not_eq_false, List.isEmpty_iff, List.all_eq_true] at hshape
      obtain ⟨⟨hne, hsigns⟩, hzero⟩ := hshape
      -- The guard lets through what is written for some index, and that index is read back.
      have hnumbers : ∃ j, Numbers t j := by
        refine exists_numbers_iff.2 ⟨hne, (ht hsigns).1, fun hhead => ?_⟩
        obtain ⟨cs, hcs⟩ := List.head?_eq_some_iff.1 hhead
        have hlength : ¬1 < t.toList.length := fun hlt => hzero hlt hhead
        have hnil : cs = [] := List.length_eq_zero_iff.1 (by rw [hcs, List.length_cons] at hlength; omega)
        exact String.toList_inj.1 (by rw [hcs, hnil]; rfl)
      obtain ⟨j, rfl⟩ := hnumbers
      rw [Reads, index?_toString] at h
      rw [← Except.ok.inj h]
      rfl
  · rintro rfl
    exact index?_toString i

/-- A token without digits of other scripts that is no index is told as such. -/
theorem eq_badIndex_of_index? (ht : IsPlain t) {fault : PointerFault} (h : index? t = .error fault) :
    fault = .badIndex t := by
  unfold index? at h
  dsimp only at h
  split at h
  · cases h
    rfl
  · rename_i hshape
    simp only [Bool.or_eq_true, not_or, Bool.not_eq_true', Bool.not_eq_false, List.all_eq_true] at hshape
    rw [if_pos] at h
    · cases h
    · exact List.all_eq_true.2 fun c hc => Text.isDecimal_of_isDigit ((ht hshape.1.2).1 c hc)

/-- A token without digits of other scripts that is an index has no more digits than an integer is read from. -/
private theorem length_le_of_index? (ht : IsPlain t) (h : index? t = .ok i) : t.length ≤ Text.digitLimit := by
  unfold index? at h
  dsimp only at h
  split at h
  · cases h
  · rename_i hshape
    simp only [Bool.or_eq_true, not_or, Bool.not_eq_true', Bool.not_eq_false, List.all_eq_true] at hshape
    exact (ht hshape.1.2).2

end Plain

/-! ### Pointers that come to arrays with plain tokens -/

/-- Where the tokens come to an array, the next one is plain. -/
def PlainOn (ts : List String) (v : Value) : Prop :=
  ∀ front t rest path vs, ts = front ++ t :: rest → Follows Reads front path v (.arr vs) → IsPlain t

/-- Where the pointer comes to an array in the document, its next token is plain. -/
def PlainIn (p : Pointer) (D : Value) : Prop := PlainOn p.tokens D

section PlainOn

variable {t : String} {ts ts' : List String} {i : Nat} {path : List Nat} {v w w' : Value}

private theorem PlainOn.member {ms : List (Scalar × Value)} (h : PlainOn (t :: ts) (.obj ms))
    (hv : ms[i]? = some (.str t, v)) : PlainOn ts v := by
  intro front u rest path vs hts hfront
  exact h (t :: front) u rest (i :: path) vs (by rw [hts, List.cons_append]) (.member hv hfront)

private theorem PlainOn.first {vs : List Value} (h : PlainOn (t :: ts) (.arr vs)) : IsPlain t :=
  h [] t ts [] vs rfl .here

private theorem PlainOn.item {vs : List Value} (h : PlainOn (t :: ts) (.arr vs)) (ht : Reads t i) (hv : vs[i]? = some v) :
    PlainOn ts v := by
  intro front u rest path vs' hts hfront
  exact h (t :: front) u rest (i :: path) vs' (by rw [hts, List.cons_append]) (.item ht hv hfront)

/-- Plain tokens lead where they lead as written indexes. -/
theorem follows_reads_iff (h : PlainOn ts v) : Follows Reads ts path v w ↔ Follows Numbers ts path v w := by
  constructor
  · intro hfollows
    induction hfollows with
    | here => exact .here
    | member hv _ ih => exact .member hv (ih (h.member hv))
    | item ht hv _ ih => exact .item ((reads_iff h.first).1 ht) hv (ih (h.item ht hv))
  · intro hfollows
    induction hfollows with
    | here => exact .here
    | member hv _ ih => exact .member hv (ih (h.member hv))
    | item ht hv _ ih =>
      have hreads := (reads_iff h.first).2 ht
      exact .item hreads hv (ih (h.item hreads hv))

/-- There is one way to write how to come to a location. -/
theorem Follows.tokens_unique (h : Follows Numbers ts path v w) (h' : Follows Numbers ts' path v w') : ts = ts' := by
  induction h generalizing ts' with
  | here =>
    cases h'
    rfl
  | member hv _ ih =>
    cases h' with
    | member hv' h' =>
      cases hv.symm.trans hv'
      rw [ih h']
  | item ht hv _ ih =>
    cases h' with
    | item ht' hv' h' =>
      cases hv.symm.trans hv'
      rw [ih h', ht, ht']

/-- With plain tokens nothing goes wrong but that there is no value. -/
theorem origin_of_walk (h : PlainOn ts v) {here : Pointer} {fault : PointerFault} (hfault : walk here ts v = .error fault) :
    (Failure.pointer fault).origin = .lookup := by
  induction ts generalizing here v with
  | nil => cases hfault
  | cons t ts ih =>
    rw [walk] at hfault
    cases v with
    | obj ms =>
      rw [step] at hfault
      cases hlookup : lookupKey (.str t) ms with
      | none =>
        rw [hlookup] at hfault
        cases hfault
        rfl
      | some u =>
        obtain ⟨i, hi⟩ := List.mem_iff_getElem?.1 (mem_of_lookupKey hlookup)
        rw [hlookup] at hfault
        exact ih (h.member hi) hfault
    | arr vs =>
      rw [step] at hfault
      cases hindex : index? t with
      | error fault' =>
        rw [hindex] at hfault
        cases hfault
        rw [eq_badIndex_of_index? h.first hindex]
        rfl
      | ok i =>
        cases hitem : vs[i]? with
        | none =>
          simp only [hindex, hitem, if_neg (not_lt.2 (length_le_of_index? h.first hindex))] at hfault
          cases hfault
          rfl
        | some u =>
          simp only [hindex, hitem] at hfault
          exact ih (h.item hindex hitem) hfault
    | scalar | set =>
      cases hfault
      rfl

end PlainOn

/-- In a JSON document, a pointer that comes to no array with digits of other scripts, or with too many, is evaluated to the
value that it leads to by the names of members and the indexes of items as they are written; otherwise it is told that there
is none, and nothing else goes wrong.  Asking whether there is a value gives an answer, and the right one.  No other such
pointer leads to the same location. -/
theorem eval_iff_of_plain {p : Pointer} {D : Value} (hD : D.isJson = true) (hp : p.PlainIn D) :
    (∀ v, p.eval D = .ok v ↔ ∃ path, Follows Numbers p.tokens path D v) ∧
      (∀ fault, p.eval D = .error fault → (Failure.pointer fault).origin = .lookup) ∧
      (∃ b, p.exists? D = .ok b ∧ (b = true ↔ Returns (p.eval D))) ∧
      ∀ q : Pointer, q.PlainIn D → ∀ path v w, Follows Reads p.tokens path D v → Follows Reads q.tokens path D w → p = q := by
  have hfault : ∀ fault, p.eval D = .error fault → (Failure.pointer fault).origin = .lookup :=
    fun fault h => origin_of_walk hp h
  refine ⟨fun v => ?_, hfault, ?_, fun q hq path v w hv hw => ?_⟩
  · rw [eval, walk_eq_ok_iff hD]
    exact exists_congr fun path => follows_reads_iff hp
  · cases heval : p.eval D with
    | ok v => exact ⟨true, by rw [exists?, heval], iff_of_true rfl (returns_ok v)⟩
    | error fault =>
      refine ⟨false, ?_, iff_of_false Bool.false_ne_true fun ⟨_, h⟩ => by cases h⟩
      have horigin := hfault fault heval
      rw [exists?, heval]
      cases fault with
      | badNumeral => cases horigin
      | malformed | notFound | badIndex | noParent => rfl
  · obtain ⟨ts⟩ := p
    obtain ⟨us⟩ := q
    exact congrArg Pointer.mk (((follows_reads_iff hp).1 hv).tokens_unique ((follows_reads_iff hq).1 hw))

theorem eval_iff_of_plain_nested :
    PlainIn ⟨["²", "10"]⟩ (.ofPairs [("²", .arr [.null])]) ∧
      eval ⟨["²", "10"]⟩ (.ofPairs [("²", .arr [.null])]) = .error (.notFound ⟨["²", "10"]⟩) ∧
      exists? ⟨["²", "10"]⟩ (.ofPairs [("²", .arr [.null])]) = .ok false := by
  have hplain : PlainIn ⟨["²", "10"]⟩ (.ofPairs [("²", .arr [.null])]) := by
    intro front t rest path vs htokens hfront
    cases front with
    | nil => cases hfront
    | cons first front =>
      cases front with
      | nil =>
        cases htokens
        exact fun _ => ⟨List.all_eq_true.1 rfl, by decide⟩
      | cons second front => simp at htokens
  have hfault : eval ⟨["²", "10"]⟩ (.ofPairs [("²", .arr [.null])]) = .error (.notFound ⟨["²", "10"]⟩) := rfl
  refine ⟨hplain, hfault, ?_⟩
  obtain ⟨b, hb, hreturns⟩ := (eval_iff_of_plain rfl hplain).2.2.1
  cases b with
  | false => exact hb
  | true =>
    obtain ⟨v, hv⟩ := hreturns.1 rfl
    cases hfault.symm.trans hv

/-- An item is found under a digit of another script, too, and where a character stands for a digit without being one, neither
evaluation nor the question whether there is a value ends with an answer or with there being none. -/
theorem eval_foreign_digits :
    (∃ path v, Follows Reads ["1"] path (.arr [.int 10, .int 20]) v ∧ Follows Reads ["١"] path (.arr [.int 10, .int 20]) v) ∧
      eval ⟨["١"]⟩ (.arr [.int 10, .int 20]) = .ok (.int 20) ∧
      (∃ fault, eval ⟨["²"]⟩ (.arr [.int 10, .int 20]) = .error fault ∧ (Failure.pointer fault).origin ≠ .lookup) ∧
      ¬Returns (exists? ⟨["²"]⟩ (.arr [.int 10, .int 20])) := by
  refine ⟨⟨[1], .int 20, ?_, ?_⟩, rfl, ⟨.badNumeral "²", rfl, by decide⟩, ?_⟩
  · exact .item (i := 1) rfl rfl .here
  · exact .item (i := 1) rfl rfl .here
  · rintro ⟨b, hb⟩
    cases hb

end Pointer

end Conform
