import Conform.Proofs.Compile.Answers
import Conform.Proofs.Compile.Requested

/-!
# Compilation is faithful

A document whose schemas carry no names and refer to the document itself by pointers (`Location.Plain`) is compiled
to a tree that accepts what the document says (`Schema.says_of_accepts`), as long as the references still name the document
when they are resolved against its URI.  They need not: a URI is rewritten on the way, and what it is rewritten to may be
the URI of another document (`Schema.says_otherwise_rewritten`).
-/

namespace Conform

open Direct

/-- Where only the URI of the document at hand names a home, that of the document; without a URI it is the empty one. -/
def Home.Own (d : Document) (uri : String) (home : Home) : Prop := uri = d.uri.getD "" ∧ home = ⟨d, .root⟩

/-- The reference leads to its own document, by a pointer or as a whole. -/
def isInner (ref : String) : Bool :=
  match ref.toList with
  | ['#'] | '#' :: '/' :: _ => true
  | _ => false

/-- The reference, resolved against the URI of a document, names the document and in it what it names by itself. -/
def staysAt (uri : Option String) (ref : String) : Bool :=
  match resolveUri uri ref with
  | .ok full => Uri.splitFragment full == (uri.getD "", (Uri.splitFragment ref).2)
  | .error _ => false

/-- At the location no name is in force but that of the document, none is given, nothing is counted and no multiple asked
for, and the reference, if there is one, leads to its own document by a pointer. -/
structure Location.Plain (l : Location) : Prop where
  base : l.base = l.document.uri
  keywords : ∀ members, l.value = .obj members → ∀ name ∈ ["$id", "contains", "multipleOf"],
    lookupKey (.str name) members = none
  references : ∀ members ref, l.value = .obj members → lookupKey (.str "$ref") members = some (.str ref) → isInner ref = true

/-- The references at a location stay at the URI of its document. -/
def Location.Stays (l : Location) : Prop :=
  ∀ members ref, l.value = .obj members → lookupKey (.str "$ref") members = some (.str ref) →
    staysAt l.document.uri ref = true

/-! ### Plain documents -/

mutual

/-- No object in the value carries a name, counts items or asks for a multiple, and all references are inner and stay at
the URI. -/
def Value.isPlain (uri : Option String) : Value → Bool
  | .arr vs => itemsPlain uri vs
  | .obj ms => ["$id", "contains", "multipleOf"].all (fun name => (lookupKey (.str name) ms).isNone) &&
      ((lookupKey (.str "$ref") ms).all fun v => v.text?.all fun ref => isInner ref && staysAt uri ref) &&
      membersPlain uri ms
  | _ => true

/-- All items are plain. -/
def itemsPlain (uri : Option String) : List Value → Bool
  | [] => true
  | v :: vs => v.isPlain uri && itemsPlain uri vs

/-- All members are plain. -/
def membersPlain (uri : Option String) : List (Scalar × Value) → Bool
  | [] => true
  | (_, v) :: ms => v.isPlain uri && membersPlain uri ms

end

section Plain

variable {uri : Option String}

private theorem isPlain_of_mem_items {vs : List Value} {v : Value} (h : itemsPlain uri vs = true) (hv : v ∈ vs) :
    v.isPlain uri = true := by
  induction vs with
  | nil => cases hv
  | cons w vs ih =>
    obtain ⟨hw, hvs⟩ := Bool.and_eq_true_iff.1 h
    rcases List.mem_cons.1 hv with rfl | hv
    · exact hw
    · exact ih hvs hv

private theorem isPlain_of_mem_members {ms : List (Scalar × Value)} {key : Scalar} {v : Value}
    (h : (Value.obj ms).isPlain uri = true) (hv : (key, v) ∈ ms) : v.isPlain uri = true := by
  have hms : membersPlain uri ms = true := (Bool.and_eq_true_iff.1 h).2
  clear h
  induction ms with
  | nil => cases hv
  | cons m ms ih =>
    obtain ⟨hm, hrest⟩ := Bool.and_eq_true_iff.1 hms
    rcases List.mem_cons.1 hv with rfl | hv
    · exact hm
    · exact ih hv hrest

private theorem isPlain_of_eval {p : Pointer} {D v : Value} (hD : D.isPlain uri = true) (h : p.eval D = .ok v) :
    v.isPlain uri = true :=
  Pointer.of_eval (P := (·.isPlain uri = true)) (fun _ _ => isPlain_of_mem_items)
    (fun _ _ _ => isPlain_of_mem_members) hD h

private theorem lookupKey_of_isPlain {ms : List (Scalar × Value)} (h : (Value.obj ms).isPlain uri = true) :
    ∀ name ∈ ["$id", "contains", "multipleOf"], lookupKey (.str name) ms = none := by
  intro name hname
  have hnames := (Bool.and_eq_true_iff.1 (Bool.and_eq_true_iff.1 h).1).1
  simpa using List.all_eq_true.1 hnames name hname

/-- On no way into a plain value does a name come into force. -/
private theorem baseAlong_of_isPlain {ts : List String} {v : Value} {base inner : Option String} (hv : v.isPlain uri = true)
    (h : baseAlong base ts v = .ok inner) : inner = base := by
  -- The induction is on the way: no object on it has a name, and what a token leads to is plain again.
  induction ts generalizing v with
  | nil =>
    cases h
    rfl
  | cons t ts ih =>
    obtain ⟨within, hwithin, h⟩ := bind_eq_ok.1 h
    have hsame : within = base := by
      cases v with
      | obj ms =>
        rw [baseWithin, Value.member?, lookupKey_of_isPlain hv "$id" (by simp)] at hwithin
        exact (Except.ok.inj hwithin).symm
      | scalar | arr | set => exact (Except.ok.inj hwithin).symm
    rw [hsame] at h
    obtain ⟨w, hw, h⟩ := bind_eq_ok.1 h
    cases w with
    | none => exact (Except.ok.inj h).symm
    | some w =>
      refine ih (v := w) ?_ h
      rcases part_of_baseStep hw with ⟨ms, rfl, hmem⟩ | ⟨vs, i, rfl, hitem⟩
      · exact isPlain_of_mem_members hv hmem
      · exact isPlain_of_mem_items hv (List.mem_of_getElem? hitem)

end Plain

/-! ### References of plain locations -/

private theorem eq_ofList {s : String} {cs : List Char} (h : s.toList = cs) : s = String.ofList cs := by
  rw [← h, String.ofList_toList]

theorem splitFragment_of_isInner {ref : String} (h : isInner ref = true) : ∃ fragment,
    Uri.splitFragment ref = ("", some fragment) ∧
      (fragment = "" ∧ ref = "#" ∨ ∃ rest, fragment.toList = '/' :: rest ∧ Pointer.ofFragment ref = Pointer.ofFragment fragment) := by
  unfold isInner at h
  split at h
  · rename_i href
    cases eq_ofList href
    exact ⟨"", rfl, .inl ⟨rfl, rfl⟩⟩
  · rename_i rest href
    refine ⟨String.ofList ('/' :: rest), by simp [Uri.splitFragment, Text.cut?, href], .inr ⟨rest, by simp, ?_⟩⟩
    rw [eq_ofList href]
    exact Pointer.ofFragment_hash (by simp)
  · cases h

theorem splitFragment_of_staysAt {uri : Option String} {ref full : String} (h : staysAt uri ref = true)
    (hfull : resolveUri uri ref = .ok full) : Uri.splitFragment full = (uri.getD "", (Uri.splitFragment ref).2) := by
  unfold staysAt at h
  rw [hfull] at h
  exact beq_iff_eq.1 h

/-- In a document without a URI every inner reference stays. -/
theorem Location.Plain.stays {l : Location} (h : l.Plain) (huri : l.document.uri = none) : l.Stays := by
  intro members ref hmembers href
  obtain ⟨f, hf, -⟩ := splitFragment_of_isInner (h.references members ref hmembers href)
  simp [huri, staysAt, show resolveUri none ref = .ok ref from rfl, hf]

/-- Such a reference leads to the part of the document that it names. -/
theorem TargetOf.referred {d : Document} {l t : Location} {ref : String} {fragment : Option String}
    (h : TargetOf (Home.Own d) l ref t fragment) (hbase : l.base = d.uri) (hinner : isInner ref = true)
    (hstays : staysAt d.uri ref = true) : referred? d.content ref = some t.value := by
  obtain ⟨full, uri, home, hfull, hsplit, ⟨-, rfl⟩, hp, hvalue, -⟩ := h
  rw [hbase] at hfull
  obtain ⟨f, hf, hcase⟩ := splitFragment_of_isInner hinner
  rw [splitFragment_of_staysAt hstays hfull, hf] at hsplit
  cases hsplit
  have heval := Scope.eval_of_valueAt? hvalue
  have hpointer : Pointer.ofFragment ref = .ok t.pointer := by
    -- An inner reference is the mark alone, or the mark and the text of a pointer.
    rcases hcase with ⟨rfl, rfl⟩ | ⟨rest, hrest, hsame⟩
    · simp only [targetPointer?, String.toList_empty] at hp
      rw [← Option.some.inj (Except.ok.inj hp)]
      simp [Pointer.ofFragment, Pointer.parse, Text.Percent.decode, Text.Percent.decodeRun, Text.Percent.bytes,
        Text.Utf8.decodeLossy]
    · rw [hsame]
      simp only [targetPointer?, hrest, mapError_eq_ok, map_eq_ok, Pointer.root_append] at hp
      obtain ⟨p, hp, heq⟩ := hp
      cases heq
      exact hp
  rw [referred?, hpointer]
  simp only [heval]
  rfl

/-! ### Reached locations -/

section Reached

variable {D : Value} {d : Document} {root l : Location}

/-- What is reached within a JSON document lies in it and is read under its dialect. -/
theorem Document.Reaches.own (h : d.Reaches (Home.Own d) l) (hd : d.content.isJson = true) :
    l.document = d ∧ d.dialect? = .ok l.dialect ∧ l.Lies ∧ l.value.isJson = true := by
  obtain ⟨root, hroot, h⟩ := h
  induction h with
  | refl =>
    exact ⟨hroot.document, hroot.dialect, hroot.lies,
      Pointer.isJson_of_eval hd (Scope.eval_of_valueAt? hroot.value)⟩
  | tail _ hstep ih =>
    obtain ⟨hdocument, hdialect, hlies, hjson⟩ := ih
    cases hstep with
    | part hvalue hreplaced hinner hsub =>
      rw [hvalue] at hjson
      obtain ⟨hsubDocument, -, hsubDialect⟩ := Location.of_mem_subschemas hsub
      refine ⟨?_, ?_, ?_, Location.isJson_of_mem_subschemas hjson hsub⟩
      · rw [hsubDocument, hinner.document, hdocument]
      · rw [hsubDialect, hinner.dialect, hdialect]
      · exact (hinner.lies hlies).part (hinner.value.trans hvalue) hjson hsub
    | reference hvalue hinner href htarget =>
      have hlies := htarget.lies
      obtain ⟨full, uri, home, -, -, ⟨-, rfl⟩, -, hvalue, htdocument, -, dialect, htdialect, heq⟩ := htarget
      refine ⟨htdocument, ?_, hlies, Pointer.isJson_of_eval hd (Scope.eval_of_valueAt? hvalue)⟩
      -- The target inherits nothing: its document is the one that the reference stands in.
      rw [htdocument, hdialect] at htdialect
      cases htdialect
      rw [heq, hinner.dialect, Option.or_self, hdialect]

theorem Location.Plain.inner {members : List (Scalar × Value)} {inner : Location} (h : l.Plain)
    (hvalue : l.value = .obj members) (hinner : l.Inner members inner) : inner = l := by
  rw [hinner.eq]
  unfold Location.Inner at hinner
  split at hinner
  · rw [hinner]
  · obtain ⟨base, ⟨hbase, -⟩, rfl⟩ := hinner
    rw [baseWithin, Value.member?, h.keywords members hvalue "$id" (by simp)] at hbase
    cases hbase
    rfl

private theorem plain_of_value {uri : Option String} (hbase : l.base = l.document.uri)
    (hvalue : l.value.isPlain uri = true) : l.Plain where
  base := hbase
  keywords members hmembers := lookupKey_of_isPlain (by rwa [hmembers] at hvalue)
  references members ref hmembers href := by
    rw [hmembers] at hvalue
    have hrefs := (Bool.and_eq_true_iff.1 (Bool.and_eq_true_iff.1 hvalue).1).2
    rw [href] at hrefs
    exact (Bool.and_eq_true_iff.1 hrefs).1

private theorem stays_of_value {uri : Option String} (huri : l.document.uri = uri) (hvalue : l.value.isPlain uri = true) :
    l.Stays := by
  intro members ref hmembers href
  rw [hmembers] at hvalue
  have hrefs := (Bool.and_eq_true_iff.1 (Bool.and_eq_true_iff.1 hvalue).1).2
  rw [href] at hrefs
  rw [huri]
  exact (Bool.and_eq_true_iff.1 hrefs).2

/-- In a plain document everything that is reached is plain, and the references stay in the document. -/
private theorem Document.Reaches.isPlain (h : d.Reaches (Home.Own d) l) (hd : d.content.isPlain d.uri = true) :
    l.Plain ∧ l.Stays := by
  -- What a step keeps is that the base is that of the document and that the value is plain.
  suffices hl : l.document = d ∧ l.base = d.uri ∧ l.value.isPlain d.uri = true from
    ⟨plain_of_value (by rw [hl.1, hl.2.1]) hl.2.2, stays_of_value (by rw [hl.1]) hl.2.2⟩
  obtain ⟨root, hroot, h⟩ := h
  induction h with
  | refl =>
    refine ⟨hroot.document, ?_, isPlain_of_eval hd (Scope.eval_of_valueAt? hroot.value)⟩
    exact (Except.ok.inj hroot.base).symm
  | tail _ hstep ih =>
    obtain ⟨hdocument, hbase, hvalue⟩ := ih
    have hplain := plain_of_value (by rw [hdocument, hbase]) hvalue
    cases hstep with
    | part hmembers hreplaced hinner hsub =>
      cases hplain.inner hmembers hinner
      rw [hmembers] at hvalue
      refine ⟨(Location.of_mem_subschemas hsub).1.trans hdocument, (Location.of_mem_subschemas hsub).2.1.trans hbase, ?_⟩
      obtain ⟨name, v, hmem, hpart⟩ := Location.mem_subschemas hsub
      have hv := isPlain_of_mem_members hvalue hmem
      rcases hpart with rfl | ⟨vs, i, w, rfl, hw, rfl⟩ | ⟨es, key, w, rfl, hw, rfl⟩
      · exact hv
      · exact isPlain_of_mem_items hv (List.mem_of_getElem? hw)
      · exact isPlain_of_mem_members hv hw
    | reference hmembers hinner href htarget =>
      obtain ⟨full, uri, home, -, -, ⟨-, rfl⟩, -, htvalue, htdocument, htbase, -⟩ := htarget
      refine ⟨htdocument, ?_, isPlain_of_eval hd (Scope.eval_of_valueAt? htvalue)⟩
      rw [htdocument, Document.baseAt] at htbase
      exact baseAlong_of_isPlain hd htbase

/-! ### Trees of reached locations -/

/-- The tree of a location of the document is read as the location is, as soon as the reading may go as deep as the
tree. -/
def Mirrors (characters : CharacterNames) (D : Value) (l : Location) (n : Node) : Prop :=
  ∀ depth, sizeOf n ≤ depth → Faithful (reads characters D depth) l.value n

theorem isDraft07_eq {dialect : Option Dialect} (h : d.dialect? = .ok dialect) :
    isDraft07 d.content = (dialect == some .draft07) := by
  unfold Document.dialect? at h
  unfold isDraft07
  split at h
  · rename_i hschema
    cases h
    rw [hschema]
    rfl
  · rename_i uri hschema
    cases h
    rw [hschema]
    rfl
  · cases h

theorem mirrors_of_built {setup : Setup} {means : Location → Node → Prop} {n : Node}
    (hmeans : ∀ l n, means l n → Mirrors setup.world.characters d.content l n) (hformat : ∀ name, setup.format name = none)
    (hextension : ∀ name base path value, setup.keyword name base path value = none) (hplain : l.Plain)
    (hjson : l.value.isJson = true) (hdialect : d.dialect? = .ok l.dialect)
    (h : Built setup means (fun _ ref t _ => referred? d.content ref = some t.value) l n) :
    Mirrors setup.world.characters d.content l n := by
  intro depth hdepth v hv
  -- The reading goes one schema deeper than the tree below the node, so it reaches the schemas below.
  obtain ⟨depth, rfl⟩ : ∃ m, depth = m + 1 := ⟨depth - 1, by cases n <;> simp at hdepth <;> omega⟩
  have hbelow : ∀ {m : Node}, sizeOf m < sizeOf n → ∀ s, ∀ c ∈ m.subnodes, means s c →
      Faithful (reads setup.world.characters d.content depth) s.value c := by
    intro m hm s c hc hs
    have := Node.sizeOf_lt_of_mem_subnodes hc
    exact hmeans s c hs depth (by omega)
  cases h.node with
  | constant hvalue =>
    rw [hvalue]
    exact answers_ok _
  | @replaced members _ _ _ hvalue hinner hreplaced href hr =>
    cases hplain.inner hvalue hinner
    obtain ⟨ref, t, fragment, m, rfl, hleads, hm, rfl⟩ := hr
    have hdraft : (l.dialect == some .draft07) = true := (Bool.and_eq_true_iff.1 hreplaced).1
    have hread (read : Value → Value → Bool) :
        keyword setup.world.characters read members (referredRead read d.content) "$ref" (.str ref) v = read t.value v :=
      congrArg (fun o : Option Value => o.any fun s => read s v) hleads
    rw [hvalue, reads, isDraft07_eq hdialect, hdraft, href]
    dsimp only
    rw [hread]
    exact Node.answers_acceptsAll_single
      (hbelow (m := .reference _ m fragment) (by simp +arith) t m (by simp [Node.subnodes]) hm v hv)
  | @group members _ _ _ children hvalue hinner hreplaced _ _ hchildren =>
    have hms : membersJson members = true := by rwa [hvalue] at hjson
    cases hplain.inner hvalue hinner
    have hall : ∀ name ∈ ["contains", "multipleOf"], lookupKey (.str name) members = none :=
      fun name hname => hplain.keywords members hvalue name (List.mem_cons_of_mem _ hname)
    have hanswers : Answers (Node.acceptsAll children v)
        (membersRead setup.world.characters (reads setup.world.characters d.content depth) members
          (referredRead (reads setup.world.characters d.content depth) d.content) v) := by
      refine answers_children hchildren hms hv hformat hextension hall (fun m hm => hbelow ?_) fun ref t _ h => ?_
      · have := List.sizeOf_lt_of_mem hm
        simp +arith
        omega
      · funext v
        rw [referredRead, h]
        rfl
    rw [hvalue, reads, isDraft07_eq hdialect]
    split
    · rename_i item hdraft href
      simp [Location.isReplaced, hdraft, hasKey, href] at hreplaced
    · exact hanswers

/-- The home of the document is filed under its URI, if it has one. -/
def Document.IsHome (d : Document) (_ : List (String × Loaded)) (homes : List (String × Home)) : Prop :=
  ∀ uri, d.uri = some uri → homes.lookup uri = some ⟨d, .root⟩

theorem keeps_home_own {setup : Setup} {descend : Location → Compiling Node} {members : List (Scalar × Value)}
    {filed : Place → Node → Prop} {uri : String} (hdocument : l.document = d) (huri : uri = d.uri.getD "") :
    Keeps (Session.Sound d.IsHome filed) ((l.scope setup descend members).home uri) (Home.Own d uri) := by
  unfold Scope.home
  split
  · exact .pure ⟨huri, by rw [← hdocument]; rfl⟩
  · rename_i hempty
    refine Keeps.get.bind fun s hs => ?_
    have hlookup : s.homes.lookup uri = some ⟨d, .root⟩ := by
      cases h : d.uri with
      | none => simp [huri, h] at hempty
      | some own =>
        rw [huri, h]
        exact hs.stock own h
    rw [hlookup]
    exact .pure ⟨huri, rfl⟩

end Reached

/-- The account of a document whose schemas are plain, with references that stay in it: its trees are read as their
locations. -/
def Account.ofPlain (setup : Setup) (d : Document) (hd : d.content.isJson = true)
    (hplain : ∀ l, d.Reaches (Home.Own d) l → l.Plain ∧ l.Stays) (hformat : ∀ name, setup.format name = none)
    (hextension : ∀ name base path value, setup.keyword name base path value = none) : Account setup where
  stock := d.IsHome
  good := d.Reaches (Home.Own d)
  means := Mirrors setup.world.characters d.content
  leads _ ref t _ := referred? d.content ref = some t.value
  good_part := by
    rintro l members inner ⟨root, hroot, hl⟩ hvalue hreplaced hinner part hpart
    exact ⟨root, hroot, .tail hl (.part hvalue hreplaced hinner hpart)⟩
  stock_name _ _ _ _ _ hstock uri huri := extends_addHome _ _ _ _ _ (hstock uri huri)
  keeps_target := by
    intro l members inner ref hl hvalue hinner href filed descend path
    obtain ⟨hpl, hstays⟩ := hplain l hl
    obtain ⟨hdocument, -, -, hjson⟩ := hl.own hd
    rw [hvalue] at hjson
    have href' := lookupKey_of_mem hjson href
    have hinn := hpl.references members ref hvalue href'
    have hstay : staysAt d.uri ref = true := hdocument ▸ hstays members ref hvalue href'
    have hbase : l.base = d.uri := hdocument ▸ hpl.base
    cases hpl.inner hvalue hinner
    refine (Scope.keeps_target (Home.Own d) fun full uri fragment hfull hsplit => ?_).weaken fun t ht => ?_
    · rw [hbase] at hfull
      rw [splitFragment_of_staysAt hstay hfull] at hsplit
      cases hsplit
      exact keeps_home_own hdocument rfl
    · obtain ⟨root, hroot, hl⟩ := hl
      exact ⟨⟨root, hroot, .tail hl (.reference hvalue hinner href ht)⟩, ht.referred hbase hinn hstay⟩
  means_built := by
    intro l n hl h
    obtain ⟨-, hdialect, -, hjson⟩ := hl.own hd
    exact mirrors_of_built (fun _ _ h => h.2) hformat hextension (hplain l hl).1 hjson hdialect h
  means_place := by
    intro l l' n hl hl' hplace h
    obtain ⟨hdocument, hdialect, hlies, -⟩ := hl.own hd
    obtain ⟨hdocument', hdialect', hlies', -⟩ := hl'.own hd
    have hsame : l.document = l'.document := hdocument.trans hdocument'.symm
    have hbase : l.base = l'.base := by rw [(hplain l hl).1.base, (hplain l' hl').1.base, hsame]
    have heq : l = l' := hlies.ext hlies' hsame (Location.pointer_of_place hplace) hbase
      (Except.ok.inj (hdialect.symm.trans hdialect'))
    rwa [← heq]

/-- All schemas that the value has as a document under the URI, under whatever key it is filed, are of a kind. -/
def Value.HasSchemas (D : Value) (uri : Option String) (kind : Location → Prop) : Prop :=
  ∀ key l, Document.Reaches (Home.Own ⟨key, uri, D⟩) ⟨key, uri, D⟩ l → kind l

namespace Schema

/-- Compilation is faithful: where a session that has compiled nothing grants a request for a plain document, whose
references stay in it when they are resolved against its URI, if it has one, whenever the schema has an answer for a value,
the document read at its root gives it too. -/
theorem says_of_accepts {w : World} {options : Options} {request : Request} {x : Compiling Schema} {uri : Option String}
    {D v : Value} {s t : Session} {schema : Schema} {b : Bool}
    (hasks : request.Asks w s.loader uri D .root) (hD : D.isJson = true) (hplain : D.HasSchemas uri Location.Plain)
    (hstays : uri ≠ none → D.HasSchemas uri Location.Stays) (hs : s.Fresh)
    (hrequest : request.schema? { world := w, options } = some x) (hgranted : x.run.run s = (.ok schema, t))
    (hv : v.isJson = true) (haccepts : schema.root.accepts v = .ok b) : Says w.characters D v b := by
  obtain ⟨key, -, s', hs', hcompile⟩ := Session.opens_of_asks hrequest hasks hs hgranted
  have hschemas : ∀ l, Document.Reaches (Home.Own ⟨key, uri, D⟩) ⟨key, uri, D⟩ l → l.Plain ∧ l.Stays :=
    fun l hl => ⟨hplain key l hl, by
      cases uri with
      | none => exact (hplain key l hl).stays (by rw [(hl.own hD).1])
      | some uri => exact hstays (by simp) key l hl⟩
  let A := Account.ofPlain { world := w, options } ⟨key, uri, D⟩ hD hschemas (fun _ => rfl) fun _ _ _ _ => rfl
  cases Session.ended_compileAt hcompile with
  | unregistered _ hresult | unlocated _ hresult => cases hresult
  | @compiled first root r hregistered hroot hrun hresult =>
    obtain ⟨homes, hregisters, rfl⟩ := hs'.registers hregistered
    cases r with
    | error e => cases hresult
    | ok n =>
      cases hresult
      have hsound : A.Sound { s' with homes } := ⟨fun uri huri => hregisters.own huri rfl, fun hn => by
        simp [Registry.node?, Registry.find?, hs'.entries] at hn⟩
      have hkeeps := Account.keeps_compile (A := A) (({ s' with homes } : Session).extent w ⟨key, uri, D⟩ .root + 1)
        (l := root) ⟨root, hroot, .refl⟩
      have hmeans := (hkeeps _ hsound).2 n (congrArg Prod.fst hrun)
      have hvalue : root.value = D := (Except.ok.inj (Scope.eval_of_valueAt? hroot.value)).symm
      refine ⟨sizeOf n, fun depth hdepth => ?_⟩
      rw [← hmeans depth hdepth v hv b haccepts, hvalue]

/-- A document that bounds every member but one by way of a reference. -/
def boundingDocument : Value :=
  .ofPairs [("properties", .ofPairs [("a", .bool true)]), ("additionalProperties", .ofPairs [("$ref", .str "#/$defs/n")]),
    ("$defs", .ofPairs [("n", .ofPairs [("maximum", .int 3)])])]

theorem says_of_accepts_bounding : Says .empty boundingDocument (.ofPairs [("a", .int 5), ("b", .int 4)]) false := by
  obtain ⟨schema, hcompile, haccepts⟩ := exists_eq_ok_of_any
    (x := ((compileValue { world := .ofTable [] } boundingDocument (some "http://x/a")).run.run {}).1)
    (p := fun schema => (schema.root.accepts (.ofPairs [("a", .int 5), ("b", .int 4)])).toOption == some false)
    (by decide +kernel)
  have hplain : boundingDocument.isPlain (some "http://x/a") = true := by decide +kernel
  have hnamed : Document.IsNamed (some "http://x/a") (some "http://x/a") := ⟨_, by decide +kernel, rfl⟩
  have hrequest : Request.schema? { world := .ofTable [] } (.value boundingDocument (some "http://x/a")) = some _ := rfl
  exact says_of_accepts (.value hnamed) (by decide +kernel) (fun _ _ hl => (hl.isPlain hplain).1)
    (fun _ _ _ hl => (hl.isPlain hplain).2) ⟨rfl, rfl⟩ hrequest
    (Prod.ext hcompile rfl) (by decide +kernel) (toOption_eq_some.1 (beq_iff_eq.1 haccepts))

/-- A document that bounds every value by way of a reference. -/
def limitedDocument : Value :=
  .ofPairs [("$ref", .str "#/$defs/n"), ("$defs", .ofPairs [("n", .ofPairs [("maximum", .int 3)])])]

/-- What is too large for the bound is too large for the document. -/
theorem says_limitedDocument (characters : CharacterNames) : Says characters limitedDocument (.int 4) false := by
  have hdraft : isDraft07 limitedDocument = false := by decide +kernel
  have hpointer : (Pointer.ofFragment "#/$defs/n").toOption = some ⟨["$defs", "n"]⟩ := by decide +kernel
  have href : referred? limitedDocument "#/$defs/n" = some (.ofPairs [("maximum", .int 3)]) := by
    rw [referred?, toOption_eq_some.1 hpointer]
    rfl
  refine ⟨2, fun depth hdepth => ?_⟩
  obtain ⟨depth, rfl⟩ := Nat.exists_eq_add_of_le' hdepth
  have hpart : reads characters limitedDocument (depth + 1) (.ofPairs [("maximum", .int 3)]) (.int 4) = false := by
    have hmax : ∀ read ms refer, keyword characters read ms refer "maximum" (.int 3) (.int 4) = false := fun _ _ _ => rfl
    simp [reads, hdraft, Value.ofPairs, membersRead, hmax]
  have hwhole : ∀ ms, keyword characters (reads characters limitedDocument (depth + 1)) ms
      (referredRead (reads characters limitedDocument (depth + 1)) limitedDocument) "$ref" (.str "#/$defs/n") (.int 4) =
        false := by
    intro ms
    change referredRead _ _ _ _ = false
    rw [referredRead, href]
    exact hpart
  rw [reads.eq_def]
  simp only [hdraft]
  exact List.all_eq_false.2 ⟨(.str "$ref", .str "#/$defs/n"), List.mem_cons_self, by simp [hwhole]⟩

/-- Under a URI whose scheme has capitals the reference of the document leads to a part of another one, and what the
document says to be too large is accepted. -/
theorem says_otherwise_rewritten :
    limitedDocument.isPlain none = true ∧ Says .empty limitedDocument (.int 4) false ∧ ∃ schema : Schema,
      ((compileValue { world := .ofTable [("http://x/s", .found ⟨.text r#"{"$defs": {"n": true}}"#, none⟩)] } limitedDocument
        (some "HTTP://x/s")).run.run {}).1 = .ok schema ∧ schema.root.accepts (.int 4) = .ok true := by
  obtain ⟨schema, hcompile, haccepts⟩ := exists_eq_ok_of_any
    (x := ((compileValue { world := .ofTable [("http://x/s", .found ⟨.text r#"{"$defs": {"n": true}}"#, none⟩)] }
      limitedDocument (some "HTTP://x/s")).run.run {}).1)
    (p := fun schema => (schema.root.accepts (.int 4)).toOption == some true) (by decide +kernel)
  exact ⟨by decide +kernel, says_limitedDocument .empty, schema, hcompile, toOption_eq_some.1 (beq_iff_eq.1 haccepts)⟩

end Schema

end Conform
