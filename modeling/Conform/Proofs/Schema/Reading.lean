import Conform.Compile.Document
import Conform.Proofs.Json.Decoded
import Conform.Proofs.Schema.Acceptance
import Conform.Proofs.Schema.Words

/-!
# Reading a document as a schema

What a schema says of a value, read straight from the document that it stands in, keyword by keyword and by name
(`Direct.reads`).  Nothing is compiled: a reference is followed when the reading comes to it, and a keyword that
depends on its neighbours looks at them in the object.  As references may lead in a circle, the reading is given the
number of schemas that it may go through in depth; `Direct.Says` is what it comes to as that number grows.
-/

namespace Conform

namespace Direct

/-! ### Parts of values -/

/-- The items of an array; another value has none. -/
def items (v : Value) : List Value := v.items?.getD []

/-- The members of an object; another value has none. -/
def members (v : Value) : List (Scalar × Value) := v.members?.getD []

/-- The texts that a value lists; a single text lists itself. -/
def texts : Value → List String
  | .str s => [s]
  | v => (items v).filterMap Value.text?

/-! ### Constraints -/

/-- The value is of the named type: an integer is a number too. -/
def isOfType (v : Value) (name : String) : Bool := v.kind? == some name || (name == "integer" && v.isInteger)

/-- The two are the same JSON value. -/
def isSame (v w : Value) : Bool := v.equal? w == some true

/-- The two numbers stand in one of these orders; what is no number passes. -/
def isOrdered (orders : List Ordering) (v bound : Value) : Bool :=
  match v, bound with
  | .num n, .num b =>
    match n.order b with
    | .ok (some o) => orders.contains o
    | _ => false
  | _, _ => true

/-- The size of a value is at least (`lower`) or at most the bound; a value without such a size passes. -/
def isSized (sized : Sized) (lower : Bool) (v bound : Value) : Bool :=
  match sized.count? v, bound with
  | some count, .num b => if lower then b.truncate ≤ count else count ≤ b.truncate
  | _, _ => true

/-- The pattern is found in the text. -/
def isFound (characters : CharacterNames) (pattern text : String) : Bool :=
  match Regex.ofText characters pattern with
  | .ok regex => regex.pattern.search text.toList
  | .error _ => false

/-- The value has the format; one of an unknown name is passed over. -/
def isFormatted (characters : CharacterNames) (name : String) (v : Value) : Bool :=
  match StandardFormat.ofName? characters name with
  | some format =>
    match format.accepts v with
    | .ok b => b
    | .error _ => false
  | none => true

/-- What a keyword with no schema inside says of a value. -/
def constraint (characters : CharacterNames) (name : String) (item v : Value) : Bool :=
  match name with
  | "type" => (texts item).any (isOfType v)
  | "enum" => (items item).any (isSame v)
  | "const" => isSame v item
  | "required" => !v.isObject || (texts item).all fun name => v.hasMember name
  | "uniqueItems" => !(item matches .bool true) || decide ((items v).Pairwise fun a b => !isSame b a)
  | "maximum" => isOrdered [.lt, .eq] v item
  | "exclusiveMaximum" => isOrdered [.lt] v item
  | "minimum" => isOrdered [.gt, .eq] v item
  | "exclusiveMinimum" => isOrdered [.gt] v item
  | "minProperties" => isSized .properties true v item
  | "maxProperties" => isSized .properties false v item
  | "minItems" => isSized .items true v item
  | "maxItems" => isSized .items false v item
  | "minLength" => isSized .characters true v item
  | "maxLength" => isSized .characters false v item
  | "pattern" =>
    match item, v with
    | .str pattern, .str text => isFound characters pattern text
    | _, _ => true
  | "format" =>
    match item with
    | .str format => isFormatted characters format v
    | _ => true
  | _ => true

/-! ### Keywords with schemas inside -/

section Keywords

variable (characters : CharacterNames) (read : Value → Value → Bool) (neighbours : List (Scalar × Value))

/-- What the schema under a neighbouring keyword says of a value; a missing one says nothing. -/
def branch (name : String) (v : Value) : Bool := (lookupKey (.str name) neighbours).all fun s => read s v

/-- The key is a key of the neighbouring `properties`. -/
def isNamed (key : Scalar) : Bool :=
  (lookupKey (.str "properties") neighbours).any fun item => hasKey key (members item)

/-- The pattern of one key is found in the other key. -/
def isFoundKey (pattern key : Scalar) : Bool :=
  match pattern, key with
  | .str pattern, .str text => isFound characters pattern text
  | _, _ => false

/-- The key is matched by a key of the neighbouring `patternProperties`. -/
def isMatched (key : Scalar) : Bool :=
  (lookupKey (.str "patternProperties") neighbours).any fun item => (members item).any fun m => isFoundKey characters m.1 key

/-- The items at and beyond the number of schemas that the neighbouring `items` lists. -/
def beyond (vs : List Value) : List Value :=
  match lookupKey (.str "items") neighbours with
  | some (.arr schemas) => vs.drop schemas.length
  | _ => []

/-- What a keyword says of a value, where `refer` tells what a reference says. -/
def keyword (refer : String → Value → Bool) (name : String) (item v : Value) : Bool :=
  match name with
  | "$ref" =>
    match item with
    | .str ref => refer ref v
    | _ => true
  | "allOf" => (items item).all fun s => read s v
  | "anyOf" => (items item).any fun s => read s v
  | "oneOf" => (items item).countP (fun s => read s v) == 1
  | "not" => !read item v
  | "if" => if read item v then branch read neighbours "then" v else branch read neighbours "else" v
  | "properties" => (members item).all fun m => (lookupKey m.1 (members v)).all fun w => read m.2 w
  | "patternProperties" =>
    (members item).all fun m => (members v).all fun w => !isFoundKey characters m.1 w.1 || read m.2 w.2
  | "additionalProperties" =>
    (members v).all fun w => isNamed neighbours w.1 || isMatched characters neighbours w.1 || read item w.2
  | "propertyNames" => (members v).all fun w => read item (.scalar w.1)
  | "items" =>
    match item with
    | .arr schemas => (schemas.zip (items v)).all fun m => read m.1 m.2
    | _ => (items v).all fun w => read item w
  | "additionalItems" => (beyond neighbours (items v)).all fun w => read item w
  | _ => constraint characters name item v

/-- What the members of an object say of a value, one and all. -/
def membersRead (refer : String → Value → Bool) (v : Value) : Bool :=
  neighbours.all fun m =>
    match m.1 with
    | .str name => keyword characters read neighbours refer name m.2 v
    | _ => true

end Keywords

/-! ### Schemas -/

/-- The document is of draft 07, where a reference replaces its neighbours. -/
def isDraft07 (D : Value) : Bool :=
  match D.member? "$schema" with
  | some (.str uri) => Dialect.ofUri uri == .draft07
  | _ => false

/-- The part of a document that a reference names: the document itself, or what lies at a pointer in it. -/
def referred? (D : Value) (ref : String) : Option Value :=
  match Pointer.ofFragment ref with
  | .ok p => (p.eval D).toOption
  | .error _ => none

/-- What the part of a document that a reference names says of a value. -/
def referredRead (read : Value → Value → Bool) (D : Value) (ref : String) (v : Value) : Bool :=
  (referred? D ref).any fun s => read s v

/-- What a schema in the document `D` says of a value, going through so many schemas in depth. -/
def reads (characters : CharacterNames) (D : Value) : Nat → Value → Value → Bool
  | 0, _, _ => false
  | depth + 1, schema, v =>
    let refer := referredRead (reads characters D depth) D
    match schema with
    | .bool b => b
    | .obj ms =>
      match isDraft07 D, lookupKey (.str "$ref") ms with
      | true, some item => keyword characters (reads characters D depth) ms refer "$ref" item v
      | _, _ => membersRead characters (reads characters D depth) ms refer v
    | _ => false

/-- What the document says of a value at its root, however many schemas the reading may go through beyond some
number. -/
def Says (characters : CharacterNames) (D v : Value) (b : Bool) : Prop :=
  ∃ n, ∀ depth, n ≤ depth → reads characters D depth D v = b

theorem Says.unique {characters : CharacterNames} {D v : Value} {b b' : Bool} (h : Says characters D v b)
    (h' : Says characters D v b') : b = b' := by
  obtain ⟨n, hn⟩ := h
  obtain ⟨n', hn'⟩ := h'
  rw [← hn (max n n') (Nat.le_max_left _ _), hn' (max n n') (Nat.le_max_right _ _)]

/-! ### Answers of constraints -/

theorem answers_hasType (name : String) (v : Value) : Answers (hasType name v) (isOfType v name) := by
  have hkind : v.kind? ≠ some "integer" := by
    cases v with
    | scalar s => cases s <;> simp [Value.kind?]
    | arr | obj | set => simp [Value.kind?]
  intro b hb
  unfold hasType at hb
  unfold isOfType
  split at hb
  · rename_i hname
    cases hb
    rw [hname, beq_iff_eq.1 hname]
    simp [hkind]
  · rename_i hname
    split at hb
    · rename_i kind hv
      cases hb
      simp [hname, hv]
    · cases hb

theorem answers_hasTypeIn (names : List String) (v : Value) : Answers (hasTypeIn names v) (names.any (isOfType v)) := by
  intro b hb
  induction names with
  | nil =>
    cases hb
    rfl
  | cons name names ih =>
    obtain ⟨here, hhere, hb⟩ := bind_eq_ok.1 hb
    rw [List.any_cons, answers_hasType name v here hhere]
    cases here with
    | true =>
      cases hb
      rfl
    | false => exact ih hb

theorem memberOf?_eq_some {v : Value} {ws : List Value} {b : Bool} (h : memberOf? v ws = some b) :
    ws.any (isSame v) = b := by
  induction ws with
  | nil =>
    cases h
    rfl
  | cons w ws ih =>
    rw [memberOf?] at h
    rw [List.any_cons, isSame]
    split at h
    · rename_i heq
      simp [heq, ih h]
    · cases b with
      | true => simp [h]
      | false => simp_all

/-- Items are compared with those before them. -/
theorem hasRepeat?_eq_some {before vs : List Value} {b : Bool} (h : hasRepeat? before vs = some b) :
    b = false ↔ vs.Pairwise (fun v w => !isSame w v) ∧ ∀ w ∈ vs, ∀ v ∈ before, isSame w v = false := by
  induction vs generalizing before with
  | nil => simp_all [hasRepeat?]
  | cons v vs ih =>
    rw [hasRepeat?] at h
    split at h
    · rename_i hv
      have hv := List.any_eq_false.1 (memberOf?_eq_some hv)
      rw [ih h]
      simp only [List.pairwise_cons, List.mem_append, List.mem_cons, List.not_mem_nil, or_false]
      constructor
      · rintro ⟨hp, hbefore⟩
        refine ⟨⟨fun w hw => by simpa using hbefore w hw v (.inr rfl), hp⟩, ?_⟩
        rintro w (rfl | hw) u hu
        · simpa using hv u hu
        · exact hbefore w hw u (.inl hu)
      · rintro ⟨⟨hfirst, hp⟩, hbefore⟩
        refine ⟨hp, ?_⟩
        rintro w hw u (hu | rfl)
        · exact hbefore w (.inr hw) u hu
        · simpa using hfirst w hw
    · rename_i hne
      cases b with
      | false => exact (hne h).elim
      | true =>
        obtain ⟨u, hu, hsame⟩ := List.any_eq_true.1 (memberOf?_eq_some h)
        simp only [Bool.true_eq_false, false_iff, not_and]
        intro _ hbefore
        rw [hbefore v (by simp) u hu] at hsame
        cases hsame

/-! ### Constraints and their answers -/

variable {characters : CharacterNames}

/-- What the node of a constraint answers. -/
def LeafAnswers (c : Constraint) (v : Value) (r : Bool) : Prop := Answers ((c.failure? v).map (·.isNone)) r

/-- A value is refused, or not, before it is told so. -/
private theorem leafAnswers_of_refusal {c : Constraint} {v : Value} {r : Bool}
    (h : Answers ((c.refusal? v).map (·.isNone)) r) : LeafAnswers c v r := by
  intro b hb
  obtain ⟨told, htold, rfl⟩ := map_eq_ok.1 hb
  exact h told.isNone (map_eq_ok.2 ⟨told, (Constraint.failure?_eq_ok.1 htold).1, rfl⟩)

private theorem answers_failing {x : Except EvalError Bool} {r : Bool} {m : Message} (f : Bool → Bool)
    (h : Answers x r) : Answers ((x.map fun b => Constraint.failing (f b) m).map (·.isNone)) (f r) := by
  intro b hb
  obtain ⟨told, htold, rfl⟩ := map_eq_ok.1 hb
  obtain ⟨a, ha, rfl⟩ := map_eq_ok.1 htold
  rw [h a ha]
  cases f a <;> rfl

private theorem answers_answered {x : Option Bool} {r : Bool} (h : ∀ b, x = some b → r = b) :
    Answers (answered x) r := by
  intro b hb
  cases x with
  | none => cases hb
  | some a =>
    cases hb
    exact h b rfl

theorem answers_type {item v : Value} {names : List String} (h : texts item = names) :
    LeafAnswers (.type names) v ((texts item).any (isOfType v)) := by
  subst h
  exact leafAnswers_of_refusal (answers_failing id (answers_hasTypeIn _ v))

theorem answers_enum {vs : List Value} {v : Value} : LeafAnswers (.enum vs) v (vs.any (isSame v)) :=
  leafAnswers_of_refusal (answers_failing id (answers_answered fun _ => memberOf?_eq_some))

theorem answers_const {item v : Value} : LeafAnswers (.const item) v (isSame v item) :=
  leafAnswers_of_refusal (answers_failing id (answers_answered fun b hb => by simp [hb]))

theorem answers_uniqueItems {v : Value} :
    LeafAnswers .uniqueItems v (decide ((items v).Pairwise fun a b => !isSame b a)) := by
  cases v with
  | arr vs =>
    have h : Answers (answered (hasRepeat? [] vs)) (!decide (vs.Pairwise fun a b => !isSame b a)) := by
      refine answers_answered fun b hb => ?_
      have := hasRepeat?_eq_some hb
      cases b <;> simp_all
    have := answers_failing (m := .notUnique) (!·) h
    exact leafAnswers_of_refusal (by simpa [items, Value.items?, Constraint.refusal?] using this)
  | scalar | obj | set => exact answers_ok true

theorem answers_pattern {pattern : String} {regex : Regex} (h : Regex.ofText characters pattern = .ok regex) {v : Value} :
    LeafAnswers (.pattern regex) v (constraint characters "pattern" (.str pattern) v) := by
  cases v with
  | scalar s =>
    cases s with
    | str text =>
      have := answers_failing (m := .pattern regex.text (.str text)) id
        (answers_ok (regex.pattern.search text.toList))
      simp only [constraint, isFound, h]
      exact leafAnswers_of_refusal this
    | null | bool | num | bytes => exact answers_ok true
  | arr | obj | set => exact answers_ok true

theorem answers_format {format : String} {f : StandardFormat} (h : StandardFormat.ofName? characters format = some f)
    {v : Value} :
    LeafAnswers (.format format f) v (constraint characters "format" (.str format) v) := by
  refine leafAnswers_of_refusal fun b hb => ?_
  obtain ⟨m, hm, rfl⟩ := map_eq_ok.1 hb
  cases haccepts : f.accepts v with
  | ok ok =>
    simp only [Constraint.refusal?, haccepts] at hm
    cases hm
    simp only [constraint, isFormatted, h, haccepts]
    cases ok <;> rfl
  | error e =>
    simp only [Constraint.refusal?, haccepts] at hm
    cases hm

/-- JSON numbers are exact as they are. -/
theorem exact_of_isJson {n : Number} (h : n.isJson = true) : n.exact = n ∧ n.isFinite = true := by
  cases n with
  | int n => exact ⟨rfl, rfl⟩
  | dec d => exact ⟨rfl, h⟩
  | dbl x => cases h

/-- The orders to a bound that a relation lets pass. -/
def orders : Relation → List Ordering
  | .multipleOf => []
  | .atMost => [.lt, .eq]
  | .below => [.lt]
  | .atLeast => [.gt, .eq]
  | .above => [.gt]

private theorem holds_eq {relation : Relation} (h : relation ≠ .multipleOf) (n b : Number) :
    relation.holds n b = (n.order b).map fun o => o.any (orders relation).contains := by
  unfold Relation.holds
  cases relation with
  | multipleOf => exact absurd rfl h
  | atMost | below | atLeast | above =>
    cases n.order b with
    | error e => rfl
    | ok o =>
      cases o with
      | none => rfl
      | some o => cases o <;> rfl

/-- The bounds of order, by the orders that they let pass. -/
theorem answers_limit {keyword : String} {relation : Relation} (h : relation ≠ .multipleOf) {bound : Number}
    {v : Value} (hv : v.isJson = true) :
    LeafAnswers (.limit keyword relation bound) v (isOrdered (orders relation) v (.num bound)) := by
  cases v with
  | scalar s =>
    cases s with
    | num n =>
      obtain ⟨hexact, hfinite⟩ := exact_of_isJson (n := n) hv
      refine leafAnswers_of_refusal fun b hb => ?_
      obtain ⟨m, hm, rfl⟩ := map_eq_ok.1 hb
      simp only [Constraint.refusal?, hfinite, ↓reduceIte, hexact, holds_eq h] at hm
      simp only [isOrdered]
      cases horder : n.order bound with
      | error e =>
        rw [horder] at hm
        cases hm
      | ok o =>
        rw [horder] at hm
        cases hm
        cases o with
        | none => rfl
        | some o =>
          simp only [Option.any_some]
          cases (orders relation).contains o <;> rfl
    | null | bool | str | bytes => exact answers_ok true
  | arr | obj | set => exact answers_ok true

theorem answers_size {sized : Sized} {keyword : String} {lower : Bool} {n : Number} {v : Value} :
    LeafAnswers (.size sized keyword lower n.truncate) v (isSized sized lower v (.num n)) := by
  refine leafAnswers_of_refusal ?_
  cases hcount : sized.count? v with
  | none =>
    simp only [isSized, Constraint.refusal?, hcount]
    exact answers_ok true
  | some count =>
    simp only [isSized, Constraint.refusal?, hcount]
    exact answers_failing id (answers_ok _)

theorem answers_required {item v : Value} {names : List String} {site : Site} (h : texts item = names) :
    Answers ((Node.required site names).accepts v) (!v.isObject || (texts item).all fun name => v.hasMember name) := by
  subst h
  cases v with
  | obj ms => exact answers_ok _
  | scalar | arr | set => exact answers_ok true

/-! ### Keywords with schemas inside and their answers -/

/-- The reading of the schema is what the tree answers. -/
def Faithful (read : Value → Value → Bool) (schema : Value) (n : Node) : Prop :=
  ∀ v, v.isJson = true → Answers (n.accepts v) (read schema v)

section Keywords

variable {read : Value → Value → Bool} {neighbours : List (Scalar × Value)} {refer : String → Value → Bool}
  {site : Site} {item v : Value} {ss : List Value} {n : Node} {ns : List Node}

theorem answers_allOf {name : String} (h : List.Forall₂ (Faithful read) ss ns) (hv : v.isJson = true) :
    Answers ((Node.combine site name .all ns).accepts v) (keyword characters read neighbours refer "allOf" (.arr ss) v) := by
  rw [Node.accepts, Node.acceptsAll_eq]
  exact all_of_allOk (h.imp fun _ _ h => h v hv)

theorem answers_anyOf {name : String} (h : List.Forall₂ (Faithful read) ss ns) (hv : v.isJson = true) :
    Answers ((Node.combine site name .any ns).accepts v) (keyword characters read neighbours refer "anyOf" (.arr ss) v) :=
  Node.answers_acceptsAny (h.imp fun _ _ h => h v hv)

theorem answers_oneOf {name : String} (h : List.Forall₂ (Faithful read) ss ns) (hv : v.isJson = true) :
    Answers ((Node.combine site name .one ns).accepts v) (keyword characters read neighbours refer "oneOf" (.arr ss) v) :=
  Node.answers_acceptsOne (h.imp fun _ _ h => h v hv) false

theorem answers_not (h : Faithful read item n) (hv : v.isJson = true) :
    Answers ((Node.not site n).accepts v) (keyword characters read neighbours refer "not" item v) :=
  answers_map (!·) (h v hv)

theorem answers_branch {name : String} {n : Option Node} (hv : v.isJson = true)
    (h : match n with
      | none => lookupKey (.str name) neighbours = none
      | some n => ∃ s, lookupKey (.str name) neighbours = some s ∧ Faithful read s n) :
    Answers (Node.acceptsBranch n v) (branch read neighbours name v) := by
  cases n with
  | none =>
    rw [branch, h]
    exact answers_ok true
  | some n =>
    obtain ⟨s, hs, hn⟩ := h
    rw [branch, hs]
    exact hn v hv

theorem answers_if {thenBranch elseBranch : Option Node} (hv : v.isJson = true) (h : Faithful read item n)
    (hthen : Answers (Node.acceptsBranch thenBranch v) (branch read neighbours "then" v))
    (helse : Answers (Node.acceptsBranch elseBranch v) (branch read neighbours "else" v)) :
    Answers ((Node.conditional site n thenBranch elseBranch).accepts v)
      (keyword characters read neighbours refer "if" item v) := by
  intro b hb
  obtain ⟨c, hc, hb⟩ := bind_eq_ok.1 hb
  simp only [keyword, h v hv c hc]
  cases c with
  | true => exact hthen b hb
  | false => exact helse b hb

theorem answers_properties {es : List (Scalar × Node)} {ss : List (Scalar × Value)}
    (h : List.Forall₂ (fun m e => e.1 = m.1 ∧ Faithful read m.2 e.2) ss es) (hss : membersJson ss = true)
    (hv : v.isJson = true) :
    Answers ((Node.properties site es).accepts v) (keyword characters read neighbours refer "properties" (.obj ss) v) := by
  cases v with
  | obj ms =>
    rw [Node.accepts, Node.acceptsEntries_eq]
    refine all_of_allOk ((forall₂_mem h).imp fun m e h => ?_)
    obtain ⟨hm, -, hkey, he⟩ := h
    obtain ⟨name, hname⟩ := (isJson_of_mem hss hm).1
    rw [hkey]
    simp only [members, Value.members?, Option.getD_some]
    rw [hname]
    cases hlookup : lookupKey (.str name) ms with
    | none => exact answers_ok true
    | some w => exact he w (isJson_of_mem hv (mem_of_lookupKey hlookup)).2
  | scalar | arr | set => exact answers_all_true (l := ss)

private theorem answers_matchesKey {pattern text : String} {regex : Regex} (h : Regex.ofText characters pattern = .ok regex) :
    Answers (matchesKey regex (.str text)) (isFoundKey characters (.str pattern) (.str text)) := by
  simp only [isFoundKey, isFound, h]
  exact answers_ok _

theorem answers_patternProperties {es : List (Regex × Node)} {ss : List (Scalar × Value)}
    (h : List.Forall₂ (fun m e => (∃ text, m.1 = .str text ∧ Regex.ofText characters text = .ok e.1) ∧
      Faithful read m.2 e.2) ss es)
    (hv : v.isJson = true) :
    Answers ((Node.patternProperties site es).accepts v)
      (keyword characters read neighbours refer "patternProperties" (.obj ss) v) := by
  cases v with
  | obj ms =>
    rw [Node.accepts, Node.acceptsMatches_eq]
    refine all_of_allOk (h.imp fun m e h => all_of_allOk_self fun w hw => ?_)
    obtain ⟨⟨pattern, hpattern, hregex⟩, he⟩ := h
    obtain ⟨⟨text, htext⟩, hwJson⟩ := isJson_of_mem hv hw
    rw [hpattern, htext]
    exact answers_when (answers_matchesKey hregex) (he w.2 hwJson)
  | scalar | arr | set => exact answers_all_true (l := ss)

theorem answers_propertyNames (h : Faithful read item n) (hv : v.isJson = true) :
    Answers ((Node.propertyNames site n).accepts v) (keyword characters read neighbours refer "propertyNames" item v) := by
  cases v with
  | obj ms =>
    refine all_of_allOk_self fun w hw => h (.scalar w.1) ?_
    obtain ⟨name, hname⟩ := (isJson_of_mem hv hw).1
    rw [hname]
    rfl
  | scalar | arr | set => exact answers_ok true

theorem answers_items (hitem : item.isArray = false) (h : Faithful read item n) (hv : v.isJson = true) :
    Answers ((Node.items site n).accepts v) (keyword characters read neighbours refer "items" item v) := by
  have hkeyword : keyword characters read neighbours refer "items" item v = (items v).all fun w => read item w := by
    cases item with
    | arr ss => cases hitem
    | scalar | obj | set => rfl
  rw [hkeyword]
  cases v with
  | arr vs => exact all_of_allOk_self fun w hw => h w (itemsJson_iff.1 hv w hw)
  | scalar | obj | set => exact answers_ok true

theorem answers_itemsTuple (h : List.Forall₂ (Faithful read) ss ns) (hv : v.isJson = true) :
    Answers ((Node.itemsTuple site ns).accepts v) (keyword characters read neighbours refer "items" (.arr ss) v) := by
  cases v with
  | arr vs =>
    rw [Node.accepts, Node.acceptsTuple_eq]
    refine all_of_allOk ((forall₂_zip h vs).imp fun s n h => ?_)
    obtain ⟨hn, heq, hw⟩ := h
    rw [← heq]
    exact hn s.2 (itemsJson_iff.1 hv _ hw)
  | scalar | obj | set =>
    simp only [keyword, items, Value.items?, Option.getD_none, List.zip_nil_right]
    exact answers_ok true

/-! ### Keywords that depend on their neighbours -/

private theorem answers_matchesAny {patterns : List Scalar} {regexes : List Regex} {text : String}
    (h : List.Forall₂ (fun p regex => ∃ pattern, p = .str pattern ∧ Regex.ofText characters pattern = .ok regex) patterns
      regexes) :
    Answers (matchesAny (.str text) regexes) (patterns.any fun p => isFoundKey characters p (.str text)) := by
  intro b hb
  induction h with
  | nil =>
    cases hb
    rfl
  | cons hr _ ih =>
    obtain ⟨pattern, rfl, hregex⟩ := hr
    obtain ⟨here, hhere, hb⟩ := bind_eq_ok.1 hb
    rw [List.any_cons, answers_matchesKey hregex here hhere]
    cases here with
    | true =>
      cases hb
      rfl
    | false => exact ih hb

theorem answers_additionalProperties {names : List Scalar} {patterns : List Scalar} {regexes : List Regex}
    (hnames : ∀ key, isNamed neighbours key = names.any (·.sameKey key))
    (hpatterns : ∀ key, isMatched characters neighbours key = patterns.any fun p => isFoundKey characters p key)
    (hregexes : List.Forall₂ (fun p regex => ∃ pattern, p = .str pattern ∧ Regex.ofText characters pattern = .ok regex)
      patterns regexes)
    (h : Faithful read item n) (hv : v.isJson = true) :
    Answers ((Node.additionalProperties site n names regexes).accepts v)
      (keyword characters read neighbours refer "additionalProperties" item v) := by
  cases v with
  | obj ms =>
    refine all_of_allOk_self fun w hw => ?_
    obtain ⟨⟨text, htext⟩, hwJson⟩ := isJson_of_mem hv hw
    have hadditional : Answers (isAdditional names regexes w.1)
        (!(isNamed neighbours w.1 || isMatched characters neighbours w.1)) := by
      unfold isAdditional
      rw [hnames, hpatterns, htext]
      split
      · rename_i hnamed
        simpa [hnamed] using answers_ok false
      · rename_i hnamed
        simpa [hnamed] using answers_map (!·) (answers_matchesAny hregexes)
    have := answers_when hadditional (h w.2 hwJson)
    rwa [Bool.not_not] at this
  | scalar | arr | set => exact answers_ok true

theorem answers_additionalItems {size? : Option Nat}
    (hsize : ∀ vs, beyond neighbours vs = itemsBeyond (size?.getD 0) size?.isSome vs)
    (h : Faithful read item n) (hv : v.isJson = true) :
    Answers ((Node.additionalItems site n (size?.getD 0) size?.isSome).accepts v)
      (keyword characters read neighbours refer "additionalItems" item v) := by
  simp only [keyword, hsize]
  cases v with
  | arr vs =>
    refine all_of_allOk_self fun w hw => h w (itemsJson_iff.1 hv w ?_)
    unfold itemsBeyond at hw
    split at hw
    · exact List.mem_of_mem_drop hw
    · cases hw
  | scalar | obj | set =>
    simp only [items, Value.items?, Option.getD_none, itemsBeyond, List.drop_nil, ite_self]
    exact answers_ok true

end Keywords

end Direct

end Conform
