import Conform.Proofs.Compile.Reached
import Conform.Proofs.Uri
import Mathlib.Algebra.Order.BigOperators.Group.List

/-!
# How many places a compilation comes to

The places that the compilation of a document can come to are the pointers into the document and into those of the world,
each under its URI and under its name, where an index is written in its own way or in one of the odd ways that stand in
the documents (`Document.placesIn`).  There are no more of them than `Session.extent` says (`length_le_extent`), so a
compilation never runs out of depth.
-/

namespace Conform

open Library (AtHand)

/-! ### Pointers into a value -/

mutual

/-- The tokens of the pointers into a value, where an index may be written in these odd ways beside its own. -/
def Value.ways (odd : List String) : Value → List (List String)
  | .scalar _ | .set _ => [[]]
  | .arr vs => [] :: itemsWays odd 0 vs
  | .obj ms => [] :: membersWays odd ms

/-- The tokens of the pointers into items, from an index on. -/
def itemsWays (odd : List String) (index : Nat) : List Value → List (List String)
  | [] => []
  | v :: vs => ((toString index :: odd).flatMap fun t => (v.ways odd).map (t :: ·)) ++ itemsWays odd (index + 1) vs

/-- The tokens of the pointers into members. -/
def membersWays (odd : List String) : List (Scalar × Value) → List (List String)
  | [] => []
  | (key, v) :: ms => (v.ways odd).map (key.words :: ·) ++ membersWays odd ms

end

section Ways

variable {odd : List String}

private theorem length_flatMap_map (ts : List String) (ways : List (List String)) :
    (ts.flatMap fun t => ways.map (t :: ·)).length = ts.length * ways.length := by
  simp [List.length_flatMap]

mutual

/-- The extent of a value is the number of the pointers into it. -/
theorem Value.length_ways : ∀ v : Value, (v.ways odd).length = v.extent odd.length
  | .scalar _ | .set _ => by simp [Value.ways, Value.extent]
  | .arr vs => by rw [Value.ways, Value.extent, List.length_cons, length_itemsWays 0 vs]
  | .obj ms => by rw [Value.ways, Value.extent, List.length_cons, length_membersWays ms]

theorem length_itemsWays : ∀ (index : Nat) (vs : List Value),
    (itemsWays odd index vs).length = (odd.length + 1) * itemsExtent odd.length vs
  | _, [] => by simp [itemsWays, itemsExtent]
  | index, v :: vs => by
    rw [itemsWays, itemsExtent, List.length_append, length_flatMap_map, Value.length_ways v, length_itemsWays (index + 1) vs,
      List.length_cons, Nat.mul_add]

theorem length_membersWays : ∀ ms : List (Scalar × Value),
    (membersWays odd ms).length = membersExtent odd.length ms
  | [] => by simp [membersWays, membersExtent]
  | (key, v) :: ms => by
    rw [membersWays, membersExtent, List.length_append, List.length_map, Value.length_ways v, length_membersWays ms]

end

theorem itemsExtent_eq_sum (n : Nat) (vs : List Value) : itemsExtent n vs = (vs.map (Value.extent n)).sum := by
  induction vs with
  | nil => rfl
  | cons v vs ih => rw [itemsExtent, ih, List.map_cons, List.sum_cons]

theorem nil_mem_ways (v : Value) : [] ∈ v.ways odd := by
  cases v <;> simp [Value.ways]

theorem cons_mem_itemsWays {vs : List Value} {i : Nat} {v : Value} {t : String} {ts : List String} (hv : vs[i]? = some v)
    (index : Nat) (ht : t = toString (index + i) ∨ t ∈ odd) (hts : ts ∈ v.ways odd) : t :: ts ∈ itemsWays odd index vs := by
  induction vs generalizing index i with
  | nil => cases hv
  | cons w vs ih =>
    rw [itemsWays, List.mem_append]
    cases i with
    | zero =>
      cases hv
      refine .inl (List.mem_flatMap.2 ⟨t, ?_, List.mem_map_of_mem hts⟩)
      exact List.mem_cons.2 ht
    | succ i =>
      refine .inr (ih hv (index + 1) ?_)
      rwa [Nat.add_right_comm, Nat.add_assoc]

theorem cons_mem_membersWays {ms : List (Scalar × Value)} {key : Scalar} {v : Value} {ts : List String} (hv : (key, v) ∈ ms)
    (hts : ts ∈ v.ways odd) : key.words :: ts ∈ membersWays odd ms := by
  induction ms with
  | nil => cases hv
  | cons m ms ih =>
    rw [membersWays, List.mem_append]
    rcases List.mem_cons.1 hv with rfl | hv
    · exact .inl (List.mem_map_of_mem hts)
    · exact .inr (ih hv)

/-- A pointer into a part goes on from one into the value. -/
private theorem append_mem_ways {D v : Value} {p : Pointer} (h : Pointer.Leads D p v)
    (hodd : ∀ t ∈ p.tokens, Pointer.isOddIndex t = true → t ∈ odd) {ts : List String} (hts : ts ∈ v.ways odd) :
    p.tokens ++ ts ∈ D.ways odd := by
  induction h generalizing ts with
  | root => exact hts
  | member h hv ih =>
    rw [Pointer.key, Pointer.child, List.append_assoc]
    refine ih (fun t ht => hodd t (List.mem_append_left _ ht)) ?_
    exact List.mem_cons_of_mem _ (cons_mem_membersWays hv hts)
  | item h ht hv ih =>
    rename_i p vs t i v
    have hi : t = toString (0 + i) ∨ t ∈ odd := by
      rw [Nat.zero_add]
      by_cases heq : toString i = t
      · exact .inl heq.symm
      · refine .inr (hodd t (List.mem_append_right _ (List.mem_singleton_self t)) ?_)
        rw [Pointer.isOddIndex, ht]
        exact bne_iff_ne.2 heq
    rw [Pointer.child, List.append_assoc]
    refine ih (fun t ht => hodd t (List.mem_append_left _ ht)) ?_
    exact List.mem_cons_of_mem _ (cons_mem_itemsWays hv 0 hi hts)

/-- A pointer whose odd indexes are among these is one of those into the value. -/
theorem mem_ways {D v : Value} {p : Pointer} (h : Pointer.Leads D p v)
    (hodd : ∀ t ∈ p.tokens, Pointer.isOddIndex t = true → t ∈ odd) : p.tokens ∈ D.ways odd := by
  simpa using append_mem_ways h hodd (nil_mem_ways v)

end Ways

/-! ### Odd indexes of a document -/

theorem mem_itemsOddIndexes {vs : List Value} {v : Value} {t : String} (hv : v ∈ vs) (ht : t ∈ v.oddIndexes) :
    t ∈ itemsOddIndexes vs := by
  induction vs with
  | nil => cases hv
  | cons w vs ih =>
    rw [itemsOddIndexes, List.mem_append]
    rcases List.mem_cons.1 hv with rfl | hv
    · exact .inl ht
    · exact .inr (ih hv)

theorem mem_membersOddIndexes {ms : List (Scalar × Value)} {key : Scalar} {v : Value} {t : String} (hv : (key, v) ∈ ms)
    (ht : t = key.words ∧ Pointer.isOddIndex t = true ∨ t ∈ v.oddIndexes) : t ∈ membersOddIndexes ms := by
  induction ms with
  | nil => cases hv
  | cons m ms ih =>
    rw [membersOddIndexes, List.mem_append, List.mem_append]
    rcases List.mem_cons.1 hv with rfl | hv
    · refine .inl (ht.imp_left ?_)
      rintro ⟨rfl, hodd⟩
      exact List.mem_filter.2 ⟨List.mem_singleton_self _, hodd⟩
    · exact .inr (ih hv)

/-- The odd indexes in a part are odd indexes in the value. -/
theorem Pointer.Leads.oddIndexes {D v : Value} {p : Pointer} (h : Leads D p v) {t : String} (ht : t ∈ v.oddIndexes) :
    t ∈ D.oddIndexes := by
  induction h with
  | root => exact ht
  | member h hv ih =>
    refine ih ?_
    rw [Value.oddIndexes]
    exact mem_membersOddIndexes hv (.inr ht)
  | item h hi hv ih =>
    refine ih ?_
    rw [Value.oddIndexes]
    exact mem_itemsOddIndexes (List.mem_of_getElem? hv) ht

/-- The odd indexes in the fragment of a reference are odd indexes in its text. -/
theorem mem_oddIndexes {ref front : List Char} {fragment : String} {q : Pointer} {t : String}
    (hcut : Text.cut? '#' ref = some (front, fragment.toList)) (hq : Pointer.ofFragment fragment = .ok q)
    (ht : t ∈ q.tokens) (hodd : Pointer.isOddIndex t = true) : t ∈ Conform.oddIndexes ref := by
  unfold Conform.oddIndexes
  rw [hcut]
  dsimp only
  rw [String.ofList_toList, hq]
  exact List.mem_filter.2 ⟨ht, hodd⟩

/-! ### Places in a world -/

/-- What a table has, with the URIs that it is under. -/
def sourcesOf (yaml : Yaml.Reader) (answers : List (String × Answer)) : List (String × Value) :=
  answers.filterMap fun (uri, answer) =>
    match answer with
    | .found r => (r.decode yaml uri).toOption.map (uri, ·)
    | _ => none

theorem mem_sourcesOf {w : World} {answers : List (String × Answer)} (hw : w.resolver = .table answers) {uri : String}
    {v : Value} (h : w.Gives uri v) : (uri, v) ∈ sourcesOf w.yaml answers := by
  obtain ⟨r, hr, hv⟩ := h
  refine List.mem_filterMap.2 ⟨_, mem_of_lookup ((Loader.serves_table hw).1 hr), ?_⟩
  dsimp only
  rw [hv]
  rfl

theorem contents_table {w : World} {answers : List (String × Answer)} (hw : w.resolver = .table answers) :
    w.contents = (sourcesOf w.yaml answers).map (·.2) := by
  unfold World.contents sourcesOf
  rw [hw, List.map_filterMap]
  refine List.filterMap_congr fun (uri, answer) _ => ?_
  cases answer with
  | found r =>
    dsimp only
    rw [Option.map_map, Function.comp_def, Option.map_id']
  | missing | failed => rfl

/-- The places in a document under a key, where indexes may be written in these odd ways. -/
def placesUnder (odd : List String) (key : String) (v : Value) : List Place :=
  (v.ways odd).map fun tokens => ⟨key, Pointer.mk tokens⟩

/-- The places in a document under the name that it gives itself. -/
def placesUnderName (odd : List String) (v : Value) : List Place :=
  match v.member? "$id" with
  | some (.str name) =>
    match Uri.dropFragment name with
    | .ok short => placesUnder odd short v
    | .error _ => []
  | _ => []

/-- The places that the compilation of a document can come to, where a table has the others. -/
def Document.placesIn (d : Document) (odd : List String) (sources : List (String × Value)) : List Place :=
  placesUnder odd d.key d.content ++ sources.flatMap (fun (uri, v) => placesUnder odd uri v) ++
    sources.flatMap fun (_, v) => placesUnderName odd v

section Places

variable {odd : List String}

theorem length_placesUnder (key : String) (v : Value) : (placesUnder odd key v).length = v.extent odd.length := by
  rw [placesUnder, List.length_map, Value.length_ways]

theorem length_placesUnderName (v : Value) : (placesUnderName odd v).length ≤ v.extent odd.length := by
  unfold placesUnderName
  split
  · split
    · exact (length_placesUnder _ v).le
    · exact Nat.zero_le _
  · exact Nat.zero_le _

/-- There are no more places than the values are extended. -/
theorem length_placesIn (d : Document) (sources : List (String × Value)) : (d.placesIn odd sources).length ≤
    ((d.content :: (sources.map (·.2) ++ sources.map (·.2))).map (Value.extent odd.length)).sum := by
  have hnames : (sources.flatMap fun (_, v) => placesUnderName odd v).length ≤
      ((sources.map (·.2)).map (Value.extent odd.length)).sum := by
    rw [List.length_flatMap, List.map_map]
    exact List.sum_le_sum fun source _ => length_placesUnderName source.2
  have huris : (sources.flatMap fun (uri, v) => placesUnder odd uri v).length =
      ((sources.map (·.2)).map (Value.extent odd.length)).sum := by
    rw [List.length_flatMap, List.map_map]
    exact congrArg List.sum (List.map_congr_left fun source _ => length_placesUnder source.1 source.2)
  rw [Document.placesIn, List.length_append, List.length_append, length_placesUnder, huris, List.map_cons, List.sum_cons,
    List.map_append, List.sum_append]
  omega

end Places

/-! ### Tokens of a world -/

/-- The odd indexes that the compilation of a document at a pointer can come to. -/
def Document.oddIndexes (d : Document) (w : World) (p : Pointer) : List String :=
  p.tokens.filter Pointer.isOddIndex ++ (d.content :: w.contents).flatMap Value.oddIndexes

/-- The tokens that the compilation of a document at a pointer can come to. -/
def Document.Token (d : Document) (w : World) (p : Pointer) (t : String) : Prop :=
  Pointer.isOddIndex t = true → t ∈ d.oddIndexes w p

section Tokens

variable {w : World} {odd : List String} {answers : List (String × Answer)} {d d' : Document} {p : Pointer}

theorem token_of_mem {t : String} (ht : t ∈ p.tokens) (w : World) : d.Token w p t :=
  fun hodd => List.mem_append_left _ (List.mem_filter.2 ⟨ht, hodd⟩)

/-- The documents at hand are the one that is compiled and those of the table. -/
theorem content_of_atHand (hw : w.resolver = .table answers) (h : AtHand w (· = d) d') :
    d'.content ∈ d.content :: w.contents := by
  rw [contents_table hw]
  rcases h with (rfl | ⟨uri, v, hv, rfl⟩) | ⟨uri, v, name, short, hv, -, -, rfl⟩
  · exact List.mem_cons_self
  · exact List.mem_cons_of_mem _ (List.mem_map_of_mem (mem_sourcesOf hw hv))
  · exact List.mem_cons_of_mem _ (List.mem_map_of_mem (mem_sourcesOf hw hv))

theorem spells_table (hw : w.resolver = .table answers) (d : Document) (p : Pointer) : Spells w (· = d) (d.Token w p) where
  index i hodd := by
    rw [Pointer.isOddIndex, Pointer.index?_toString] at hodd
    simp at hodd
  key {d' q ms k v} hd hq hv hodd := by
    have hobj : k.words ∈ (Value.obj ms).oddIndexes := by
      rw [Value.oddIndexes]
      exact mem_membersOddIndexes hv (.inl ⟨rfl, hodd⟩)
    exact List.mem_append_right _ (List.mem_flatMap.2 ⟨_, content_of_atHand hw hd, hq.oddIndexes hobj⟩)
  fragment {d' q ref base full uri text r} hd hq hbase hfull hsplit hr t ht hodd := by
    have hbase' : '#' ∉ (base.getD "").toList := by
      cases base with
      | none => simp
      | some b => exact hbase b rfl
    have hresolve : Uri.resolve (base.getD "") ref = .ok full := by
      unfold resolveUri at hfull
      cases hresolve : Uri.resolve (base.getD "") ref with
      | error fault =>
        rw [hresolve] at hfull
        cases hfull
      | ok full' =>
        rw [hresolve] at hfull
        exact congrArg Except.ok (Except.ok.inj hfull)
    have htext : t ∈ (Value.str ref).oddIndexes := by
      rw [Value.oddIndexes, List.mem_append]
      -- The base has no fragment, so that of the target is cut from the text of the reference.
      rcases Uri.fragment_of_resolve hbase' hresolve hsplit with ⟨front, hcut⟩ | ⟨front, hcut⟩
      · exact .inl (mem_oddIndexes hcut hr ht hodd)
      · exact .inr (mem_oddIndexes hcut hr ht hodd)
    exact List.mem_append_right _ (List.mem_flatMap.2 ⟨_, content_of_atHand hw hd, hq.oddIndexes htext⟩)

theorem mem_placesUnder {key : String} {v w : Value} {q : Pointer} (h : Pointer.Leads v q w)
    (hodd : ∀ t ∈ q.tokens, Pointer.isOddIndex t = true → t ∈ odd) : ⟨key, q⟩ ∈ placesUnder odd key v :=
  List.mem_map.2 ⟨q.tokens, mem_ways h hodd, rfl⟩

/-- The places of locations that the compilation comes to are among those. -/
theorem Houses.mem_placesIn (hw : w.resolver = .table answers) {homes : List (String × Home)} {l : Location}
    (hl : Houses w (· = d) (d.Token w p) homes l) (hodd : ∀ t ∈ d.oddIndexes w p, t ∈ odd) :
    l.place ∈ d.placesIn odd (sourcesOf w.yaml answers) := by
  have hplace (key : String) : ⟨key, l.pointer⟩ ∈ placesUnder odd key l.document.content :=
    mem_placesUnder hl.sits fun t ht hindex => hodd t (hl.spelt t ht hindex)
  have hatHand := hl.hosted.atHand
  obtain ⟨document, value, pointer, base, dialect⟩ := l
  dsimp only [Location.place] at hplace hatHand ⊢
  rw [Document.placesIn, List.mem_append, List.mem_append]
  rcases hatHand with (rfl | ⟨uri, v, hv, rfl⟩) | ⟨uri, v, name, short, hv, hname, hshort, rfl⟩
  · exact .inl (.inl (hplace _))
  · exact .inl (.inr (List.mem_flatMap.2 ⟨_, mem_sourcesOf hw hv, hplace _⟩))
  · refine .inr (List.mem_flatMap.2 ⟨_, mem_sourcesOf hw hv, ?_⟩)
    dsimp only [placesUnderName]
    rw [hname]
    dsimp only
    rw [hshort]
    exact hplace _

/-- Different places that the compilation comes to are no more than its extent, in whatever session. -/
theorem length_le_extent (hw : w.resolver = .table answers) {homes : List (String × Home)} {way : List Location}
    (hway : (way.map Location.place).Nodup) (hhouses : ∀ x ∈ way, Houses w (· = d) (d.Token w p) homes x) (s : Session) :
    way.length ≤ s.extent w d p := by
  obtain ⟨odd, hodd⟩ : ∃ odd, odd = p.tokens.filter Pointer.isOddIndex ++
    (s.contents w d).flatMap Value.oddIndexes := ⟨_, rfl⟩
  have hsub : ∀ t ∈ d.oddIndexes w p, t ∈ odd := by
    intro t ht
    rw [hodd]
    refine List.mem_append.2 ((List.mem_append.1 ht).imp_right fun ht => ?_)
    obtain ⟨v, hv, ht⟩ := List.mem_flatMap.1 ht
    refine List.mem_flatMap.2 ⟨v, ?_, ht⟩
    exact (List.mem_cons.1 hv).elim (fun h => List.mem_cons.2 (.inl h)) fun h => List.mem_cons.2 (.inr (List.mem_append_right _ h))
  have hmem : ∀ q ∈ way.map Location.place, q ∈ d.placesIn odd (sourcesOf w.yaml answers) := by
    intro q hq
    obtain ⟨x, hx, rfl⟩ := List.mem_map.1 hq
    exact (hhouses x hx).mem_placesIn hw hsub
  calc way.length = (way.map Location.place).length := (List.length_map _).symm
    _ ≤ (d.placesIn odd (sourcesOf w.yaml answers)).length := hway.length_le_of_subset hmem
    _ ≤ _ := length_placesIn d (sourcesOf w.yaml answers)
    _ ≤ s.extent w d p := by
      have hextent : s.extent w d p = ((s.contents w d).map (Value.extent odd.length)).sum := by
        rw [hodd, ← itemsExtent_eq_sum]
        unfold Session.extent
        rw [hw]
        rfl
      rw [hextent, ← contents_table hw]
      simp only [Session.contents, List.map_cons, List.map_append, List.sum_cons, List.sum_append]
      omega

end Tokens

/-! ### Extents of a smaller world -/

section Bare

variable {odd odd' : Nat}

mutual

/-- A value is extended further where an index may be written in more ways. -/
theorem Value.extent_mono (h : odd ≤ odd') : ∀ v : Value, v.extent odd ≤ v.extent odd'
  | .scalar _ | .set _ => by simp [Value.extent]
  | .arr vs => by
    have hitems := itemsExtent_mono h vs
    have hways : (odd + 1) * itemsExtent odd vs ≤ (odd' + 1) * itemsExtent odd' vs :=
      Nat.mul_le_mul (by omega) hitems
    simp only [Value.extent]
    omega
  | .obj ms => by
    have hmembers := membersExtent_mono h ms
    simp only [Value.extent]
    omega

theorem itemsExtent_mono (h : odd ≤ odd') : ∀ vs : List Value, itemsExtent odd vs ≤ itemsExtent odd' vs
  | [] => by simp [itemsExtent]
  | v :: vs => by
    have hv := Value.extent_mono h v
    have hvs := itemsExtent_mono h vs
    simp only [itemsExtent]
    omega

theorem membersExtent_mono (h : odd ≤ odd') : ∀ ms : List (Scalar × Value), membersExtent odd ms ≤ membersExtent odd' ms
  | [] => by simp [membersExtent]
  | (_, v) :: ms => by
    have hv := Value.extent_mono h v
    have hms := membersExtent_mono h ms
    simp only [membersExtent]
    omega

end

/-- A world that has no documents. -/
def World.bare : World := .ofTable []

theorem Value.extent_pos (odd : Nat) (v : Value) : 0 < v.extent odd := by
  cases v <;> simp [Value.extent]

/-- Further values extend the first one no less. -/
theorem Pointer.extent_le_cons (p : Pointer) (v : Value) (vs : List Value) : p.extent [v] ≤ p.extent (v :: vs) := by
  have hodd : (p.tokens.filter isOddIndex ++ [v].flatMap Value.oddIndexes).length ≤
      (p.tokens.filter isOddIndex ++ (v :: vs).flatMap Value.oddIndexes).length := by
    simp only [List.length_append, List.flatMap_cons, List.flatMap_nil, List.length_nil]
    omega
  have hv := Value.extent_mono hodd v
  simp only [extent, itemsExtent]
  omega

/-- Where there are no documents to load and none are known, no more locations can be under way. -/
theorem Session.extent_bare_le (s : Session) (w : World) (d : Document) (p : Pointer) :
    ({} : Session).extent World.bare d p ≤ s.extent w d p := by
  change p.extent [d.content] ≤ s.extent w d p
  unfold extent
  split
  · exact p.extent_le_cons d.content _
  · exact Nat.le_add_right ..

/-- For files, what is known counts for nothing. -/
theorem Session.extent_files {w : World} (hw : w.resolver = .files) (s : Session) (d : Document) (p : Pointer) :
    s.extent w d p = p.extent [d.content] + World.fileDepth := by
  unfold extent
  rw [hw]

end Bare

end Conform
