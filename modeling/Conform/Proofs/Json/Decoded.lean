import Conform.Proofs.Json.Members
import Conform.Proofs.Result
import Conform.Source.Resource
import Mathlib.Data.List.TakeDrop
import Mathlib.Data.List.TakeWhile

/-!
# Decoded values

A JSON value has text keys, each of them once, finite numbers, and neither byte strings nor sets
(`Value.isJson`).  Every value that a JSON text is decoded to is one (`isJson_of_decode`).
-/

namespace Conform

/-- A number of a JSON text: an integer, or a decimal numeral that is finite. -/
def Number.isJson : Number → Bool
  | .int _ => true
  | .dec d => d.isFinite
  | .dbl _ => false

/-- A scalar of a JSON text. -/
def Scalar.isJson : Scalar → Bool
  | .num n => n.isJson
  | .bytes _ => false
  | _ => true

/-- The key is a text that is no key of the members. -/
def isNewKey (ms : List (Scalar × Value)) : Scalar → Bool
  | .str name => (lookupKey (.str name) ms).isNone
  | _ => false

mutual

/-- The value is one that a JSON text can denote. -/
def Value.isJson : Value → Bool
  | .scalar s => s.isJson
  | .arr vs => itemsJson vs
  | .obj ms => membersJson ms
  | .set _ => false

/-- All items are JSON values. -/
def itemsJson : List Value → Bool
  | [] => true
  | v :: vs => v.isJson && itemsJson vs

/-- All members are JSON values under texts, each under one of its own. -/
def membersJson : List (Scalar × Value) → Bool
  | [] => true
  | (key, v) :: ms => isNewKey ms key && v.isJson && membersJson ms

end

theorem itemsJson_iff {vs : List Value} : itemsJson vs = true ↔ ∀ v ∈ vs, v.isJson = true := by
  induction vs with
  | nil => simp [itemsJson]
  | cons v vs ih => simp [itemsJson, ih]

theorem isJson_of_mem {ms : List (Scalar × Value)} (h : membersJson ms = true) {key : Scalar} {v : Value}
    (hm : (key, v) ∈ ms) : (∃ name, key = .str name) ∧ v.isJson = true := by
  induction ms with
  | nil => simp at hm
  | cons m ms ih =>
    obtain ⟨k, w⟩ := m
    simp only [membersJson, Bool.and_eq_true] at h
    rcases List.mem_cons.1 hm with heq | hm
    · cases heq
      refine ⟨?_, h.1.2⟩
      cases key with
      | str name => exact ⟨name, rfl⟩
      | null | bool | num | bytes => simp [isNewKey] at h
    · exact ih h.2 hm

/-- Each key of a JSON object is there once, so a lookup finds every member. -/
theorem lookupKey_of_mem {ms : List (Scalar × Value)} (h : membersJson ms = true) {name : String} {v : Value}
    (hm : (.str name, v) ∈ ms) : lookupKey (.str name) ms = some v := by
  induction ms with
  | nil => simp at hm
  | cons m ms ih =>
    obtain ⟨k, w⟩ := m
    simp only [membersJson, Bool.and_eq_true] at h
    rcases List.mem_cons.1 hm with heq | hm
    · cases heq
      simp [lookupKey, Scalar.sameKey_str]
    · have hlookup := ih h.2 hm
      rw [lookupKey]
      split
      · rename_i hkey
        rw [Scalar.sameKey_str_iff] at hkey
        subst hkey
        simp [isNewKey, hlookup] at h
      · exact hlookup

/-- The members of a JSON object are JSON values under texts, no two under one. -/
theorem membersJson_iff {ms : List (Scalar × Value)} : membersJson ms = true ↔
    (ms.map (·.1)).Nodup ∧ ∀ m ∈ ms, (∃ name, m.1 = .str name) ∧ m.2.isJson = true := by
  constructor
  · intro h
    refine ⟨?_, fun m hm => isJson_of_mem (v := m.2) h hm⟩
    induction ms with
    | nil => exact List.nodup_nil
    | cons m ms ih =>
      obtain ⟨key, v⟩ := m
      simp only [membersJson, Bool.and_eq_true] at h
      refine List.nodup_cons.2 ⟨fun hmem => ?_, ih h.2⟩
      obtain ⟨⟨k, w⟩, hm, rfl⟩ := List.mem_map.1 hmem
      cases k with
      | str name => exact lookupKey_eq_none.1 (Option.isNone_iff_eq_none.1 h.1.1) w hm
      | null | bool | num | bytes => exact Bool.noConfusion h.1.1
  · rintro ⟨hnodup, hms⟩
    induction ms with
    | nil => rfl
    | cons m ms ih =>
      obtain ⟨key, v⟩ := m
      obtain ⟨⟨⟨name, hname⟩, hv⟩, hrest⟩ := List.forall_mem_cons.1 hms
      obtain rfl : key = .str name := hname
      obtain ⟨hnew, hnodup'⟩ := List.nodup_cons.1 hnodup
      have hnone : lookupKey (.str name) ms = none :=
        lookupKey_eq_none.2 fun w hw => hnew (List.mem_map.2 ⟨_, hw, rfl⟩)
      simp [membersJson, isNewKey, hnone, ih hnodup' hrest, hv]

/-- If the value is an object, its keys are texts, no two of them alike. -/
def Value.isKeyed : Value → Bool
  | .obj ms => decide (ms.map (·.1)).Nodup && ms.all fun
    | (.str _, _) => true
    | _ => false
  | _ => true

theorem isKeyed_obj_iff {ms : List (Scalar × Value)} : (Value.obj ms).isKeyed = true ↔
    (ms.map (·.1)).Nodup ∧ ∀ m ∈ ms, ∃ name, m.1 = .str name := by
  have htext : ∀ m : Scalar × Value, (match m with
      | (.str _, _) => true
      | _ => false) = true ↔ ∃ name, m.1 = .str name := by
    rintro ⟨key, v⟩
    cases key <;> simp
  simp only [Value.isKeyed, Bool.and_eq_true, decide_eq_true_eq, List.all_eq_true, htext]

/-- All objects in a JSON value have texts for keys. -/
theorem Value.every_isKeyed {v : Value} (h : v.isJson = true) : v.every isKeyed = true := by
  induction v using Value.induction with
  | scalar | set => rfl
  | arr vs ih =>
    refine Bool.and_eq_true_iff.2 ⟨rfl, itemsEvery_iff.2 fun v hv => ?_⟩
    exact ih v hv (itemsJson_iff.1 h v hv)
  | obj ms ih =>
    obtain ⟨hnodup, hms⟩ := membersJson_iff.1 h
    have hkeyed : (Value.obj ms).isKeyed = true := isKeyed_obj_iff.2 ⟨hnodup, fun m hm => (hms m hm).1⟩
    refine Bool.and_eq_true_iff.2 ⟨hkeyed, membersEvery_iff.2 fun m hm => ?_⟩
    exact ih m hm (hms m hm).2

theorem membersJson_setKey {ms : List (Scalar × Value)} {name : String} {v : Value} (h : membersJson ms = true)
    (hv : v.isJson = true) : membersJson (setKey (.str name) v ms) = true := by
  induction ms with
  | nil => simp [setKey, membersJson, isNewKey, lookupKey, hv]
  | cons m ms ih =>
    obtain ⟨k, w⟩ := m
    simp only [membersJson, Bool.and_eq_true] at h
    rw [setKey]
    split
    · rename_i hkey
      simp [membersJson, hv, h]
    · rename_i hkey
      rw [Scalar.sameKey_str_iff] at hkey
      have hnew : isNewKey (setKey (.str name) v ms) k = true := by
        cases k with
        | str other =>
          have hne : other ≠ name := fun heq => hkey (by rw [heq])
          rw [isNewKey, lookupKey_setKey, if_neg hne]
          exact h.1.1
        | null | bool | num | bytes => simp [isNewKey] at h
      simp [membersJson, hnew, ih h.2, h.1.2]

/-! ### Numerals -/

namespace Decimal

/-- A character of a numeral with a fraction or an exponent. -/
def IsNumeralChar (c : Char) : Prop := c.isDigit = true ∨ c ∈ ['-', '+', '.', 'e', 'E']

private theorem asciiDigit_of_isDigit {c : Char} (h : c.isDigit = true) : asciiDigit c = c := by
  have hrange : 48 ≤ c.toNat ∧ c.toNat ≤ 57 := by
    simp only [Char.isDigit, Bool.and_eq_true, decide_eq_true_eq, UInt32.le_iff_toNat_le] at h
    exact h
  unfold asciiDigit Text.decimalValue?
  rw [if_pos h]
  have : 48 + (c.toNat - 48) = c.toNat := by omega
  simp only [this, Char.ofNat_toNat]

private theorem asciiDigit_isNumeralChar {c : Char} (h : IsNumeralChar c) : IsNumeralChar (asciiDigit c) := by
  rcases h with h | h
  · rw [asciiDigit_of_isDigit h]
    exact .inl h
  · simp only [List.mem_cons, List.not_mem_nil, or_false] at h
    rcases h with rfl | rfl | rfl | rfl | rfl
    all_goals
      refine .inr ?_
      decide

private theorem toLower_ne_n {c : Char} (h : IsNumeralChar c) : c.toLower ≠ 'n' := by
  rcases h with h | h
  · have hlower : c.toLower = c := by
      simp only [Char.isDigit, Bool.and_eq_true, decide_eq_true_eq, UInt32.le_iff_toNat_le] at h
      unfold Char.toLower
      rw [dif_neg]
      simp only [ge_iff_le, UInt32.le_iff_toNat_le, not_and_or]
      left
      have : ('A' : Char).val.toNat = 65 := rfl
      have : ('9' : Char).val.toNat = 57 := rfl
      omega
    rw [hlower]
    rintro rfl
    simp at h
  · simp only [List.mem_cons, List.not_mem_nil, or_false] at h
    rcases h with rfl | rfl | rfl | rfl | rfl
    all_goals decide

theorem isFinite_of_ofNumeral? {negative : Bool} {cs : List Char} {d : Decimal}
    (h : ofNumeral? negative cs = some d) : d.isFinite = true := by
  have hparts : ∀ c e, ofParts? negative c e = some d → d.isFinite = true := by
    intro c e h
    unfold ofParts? at h
    split at h
    · cases h
      rfl
    · simp at h
  unfold ofNumeral? at h
  dsimp only at h
  split at h
  all_goals
    dsimp only at h
    split at h
    · simp at h
    · obtain ⟨e, -, h⟩ := Option.bind_eq_some_iff.1 h
      exact hparts _ _ h

/-- Every name of a number that is not finite has an `n`. -/
theorem mem_of_ofName? {negative : Bool} {cs : List Char} {d : Decimal} (h : ofName? negative cs = some d) :
    'n' ∈ cs := by
  unfold ofName? at h
  dsimp only at h
  split at h
  · rename_i hinf
    simp only [Bool.or_eq_true, beq_iff_eq] at hinf
    rcases hinf with rfl | rfl
    all_goals decide
  · split at h
    · simp
    · simp
    · simp at h

theorem isFinite_of_ofText? {cs : List Char} {d : Decimal} (hcs : ∀ c ∈ cs, IsNumeralChar c)
    (h : ofText? cs = some d) : d.isFinite = true := by
  have htrim : ∀ c ∈ ((Text.trim cs).filter (· != '_')).map asciiDigit, IsNumeralChar c := by
    intro c hc
    obtain ⟨b, hb, rfl⟩ := List.mem_map.1 hc
    have hb := (List.mem_filter.1 hb).1
    unfold Text.trim at hb
    rw [List.mem_reverse] at hb
    have hb := (List.dropWhile_sublist _).subset hb
    rw [List.mem_reverse] at hb
    exact asciiDigit_isNumeralChar (hcs b ((List.dropWhile_sublist _).subset hb))
  unfold ofText? at h
  dsimp only at h
  generalize ((Text.trim cs).filter (· != '_')).map asciiDigit = text at h htrim
  have hbody : ∀ negative body, (∀ c ∈ body, IsNumeralChar c) →
      (ofNumeral? negative body <|> ofName? negative (body.map Char.toLower)) = some d → d.isFinite = true := by
    intro negative body hmem h
    rw [Option.orElse_eq_orElse, Option.orElse_eq_or, Option.or_eq_some_iff] at h
    rcases h with h | ⟨-, h⟩
    · exact isFinite_of_ofNumeral? h
    · obtain ⟨c, hc, hn⟩ := List.mem_map.1 (mem_of_ofName? h)
      exact absurd hn (toLower_ne_n (hmem c hc))
  split at h
  all_goals
    refine hbody _ _ (fun c hc => htrim c ?_) h
    simp_all

end Decimal

/-! ### Reading -/

namespace Json

open Decimal (IsNumeralChar)

private theorem numeralChar_of_mem_takeWhile {cs : List Char} {c : Char} (h : c ∈ cs.takeWhile Char.isDigit) :
    IsNumeralChar c := .inl (List.mem_takeWhile_imp h)

private theorem numeralChar_of_wholePart {cs whole rest : List Char} (h : wholePart? cs = some (whole, rest)) :
    ∀ c ∈ whole, IsNumeralChar c := by
  unfold wholePart? at h
  split at h
  · cases h
    intro c hc
    rw [List.mem_singleton] at hc
    subst hc
    exact .inl (by decide)
  · split at h
    · rw [List.span_eq_takeWhile_dropWhile] at h
      cases h
      exact fun c hc => numeralChar_of_mem_takeWhile hc
    · simp at h
  · simp at h

private theorem numeralChar_of_fraction (cs : List Char) : ∀ c ∈ (fraction cs).1, IsNumeralChar c := by
  unfold fraction
  split
  · split
    · rw [List.span_eq_takeWhile_dropWhile]
      intro c hc
      rcases List.mem_cons.1 hc with rfl | hc
      · exact .inr (by decide)
      · exact numeralChar_of_mem_takeWhile hc
    · simp
  · simp

private theorem numeralChar_of_power {e : Char} {sign digits : List Char} (he : (e == 'e' || e == 'E') = true)
    (hsign : ∀ c ∈ sign, IsNumeralChar c) : ∀ c ∈ e :: sign ++ digits.takeWhile Char.isDigit, IsNumeralChar c := by
  intro c hc
  rcases List.mem_append.1 hc with hc | hc
  · rcases List.mem_cons.1 hc with rfl | hc
    · simp only [Bool.or_eq_true, beq_iff_eq] at he
      rcases he with rfl | rfl
      · exact .inr (by decide)
      · exact .inr (by decide)
    · exact hsign c hc
  · exact numeralChar_of_mem_takeWhile hc

private theorem numeralChar_of_exponent (cs : List Char) : ∀ c ∈ (exponent cs).1, IsNumeralChar c := by
  unfold exponent
  split
  · split
    · rename_i he
      dsimp only
      split
      all_goals
        rw [List.span_eq_takeWhile_dropWhile]
        dsimp only
        split
        · simp
        · exact numeralChar_of_power he (by simp [IsNumeralChar])
    · simp
  · simp

private theorem numeralChar_sign (start : List Char) : ∀ c ∈ (match start with
    | '-' :: rest => (['-'], rest)
    | cs => (([] : List Char), cs)).1, IsNumeralChar c := by
  split <;> simp [IsNumeralChar]

/-- A numeral denotes an integer or a finite decimal. -/
theorem isJson_of_number {start rest : List Char} {v : Value} (h : number .decimal start = .ok (v, rest)) :
    v.isJson = true := by
  unfold number at h
  dsimp only at h
  split at h
  · simp at h
  · rename_i whole tail hwhole
    split at h
    · split at h
      · cases h
      · cases h
        rfl
    · split at h
      · rename_i n hn
        cases h
        obtain ⟨d, hd, rfl⟩ := Option.map_eq_some_iff.1 hn
        refine Decimal.isFinite_of_ofText? (fun c hc => ?_) hd
        simp only [List.mem_append, or_assoc] at hc
        rcases hc with hc | hc | hc | hc
        · exact numeralChar_sign _ c hc
        · exact numeralChar_of_wholePart hwhole c hc
        · exact numeralChar_of_fraction _ c hc
        · exact numeralChar_of_exponent _ c hc
      · simp at h

theorem isJson_of_plain {cs rest : List Char} {v : Value} (h : plain .decimal cs = .ok (v, rest)) :
    v.isJson = true := by
  unfold plain at h
  split at h
  · rename_i w tail hw
    cases h
    obtain ⟨entry, hentry, hmap⟩ := List.exists_of_findSome?_eq_some hw
    obtain ⟨r, -, heq⟩ := Option.map_eq_some_iff.1 hmap
    cases heq
    have hliterals : ∀ entry ∈ literals, entry.2.isJson = true := by decide
    exact hliterals entry hentry
  · split at h
    · simp at h
    · exact isJson_of_number h

private theorem itemsJson_reverse {vs : List Value} (h : itemsJson vs = true) : itemsJson vs.reverse = true := by
  rw [itemsJson_iff] at h ⊢
  simpa using h

/-- What is read of a value, of items and of members is JSON, if what has been read before is. -/
private theorem isJson_of_step (fuel : Nat) :
    (∀ cs v rest, value .decimal fuel cs = .ok (v, rest) → v.isJson = true) ∧
    (∀ done cs v rest, itemsJson done = true → items .decimal fuel done cs = .ok (v, rest) → v.isJson = true) ∧
    (∀ done cs v rest, membersJson done = true → members .decimal fuel done cs = .ok (v, rest) →
      v.isJson = true) := by
  induction fuel with
  | zero => simp [value, items, members]
  | succ fuel ih =>
    -- The three readers call one another, each with one less of fuel, so they are proved together.
    obtain ⟨ihvalue, ihitems, ihmembers⟩ := ih
    refine ⟨?_, ?_, ?_⟩
    · intro cs v rest h
      unfold value at h
      split at h
      · simp at h
      · obtain ⟨s, -, heq⟩ := map_eq_ok.1 h
        cases heq
        rfl
      · split at h
        · cases h
          rfl
        · exact ihitems [] _ v rest rfl h
      · split at h
        · cases h
          rfl
        · exact ihmembers [] _ v rest rfl h
      · exact isJson_of_plain h
    · intro done cs v rest hdone h
      unfold items at h
      split at h
      · simp at h
      · rename_i w tail hw
        have hnext : itemsJson (w :: done) = true := by simp [itemsJson, ihvalue _ _ _ hw, hdone]
        split at h
        · cases h
          exact itemsJson_reverse hnext
        · exact ihitems _ _ v rest hnext h
        · simp at h
    · intro done cs v rest hdone h
      unfold members at h
      split at h
      · split at h
        · simp at h
        · split at h
          · split at h
            · simp at h
            · rename_i w tail hw
              have hnext : ∀ key, membersJson (setKey (.str key) w done) = true :=
                fun key => membersJson_setKey hdone (ihvalue _ _ _ hw)
              dsimp only at h
              split at h
              · cases h
                exact hnext _
              · exact ihmembers _ _ v rest (hnext _) h
              · simp at h
          · simp at h
      · simp at h

/-- A text is read to a JSON value. -/
theorem isJson_of_read {text : List Char} {v : Value} (h : read .decimal text = .ok v) : v.isJson = true := by
  unfold read at h
  dsimp only at h
  split at h
  · simp at h
  · split at h
    · simp at h
    · simp at h
    · simp at h
    · simp at h
    · simp at h
    · rename_i w rest hw
      split at h
      · cases h
        exact (isJson_of_step _).1 _ _ _ hw
      · simp at h

end Json

/-- What a resource that is JSON is decoded to is a JSON value. -/
theorem isJson_of_decode {yaml : Yaml.Reader} {r : Resource} {uri : String} {v : Value}
    (hyaml : isYaml uri r.contentType = .ok false) (h : r.decode yaml uri = .ok v) : v.isJson = true := by
  unfold Resource.decode at h
  obtain ⟨cs, -, h⟩ := bind_eq_ok.1 h
  rw [hyaml] at h
  exact Json.isJson_of_read (mapError_eq_ok.1 h)

/-- What a text without a URI is decoded to is a JSON value. -/
theorem isJson_of_decodeText {text : String} {v : Value} (h : decodeText text = .ok v) : v.isJson = true :=
  Json.isJson_of_read (mapError_eq_ok.1 h)

end Conform
