import Conform.Compile.Build
import Conform.Proofs.Lists

/-!
# What a location is built to

`Built` says what the node of a location is, given what other locations mean (`means`) and where references lead
(`leads`).  It holds of everything that `build` yields, and there is one clause for each keyword (`KeywordOf`).
The locations right below an object that are compiled on its behalf are its `Location.subschemas`.
-/

namespace Conform

/-! ### Names of keywords -/

namespace Keyword

/-- The keyword is that of one name. -/
def isNamed : Keyword → Bool
  | .passive | .extension | .unknown => false
  | _ => true

/-- A name that stands for a keyword of its own is in the table. -/
theorem mem_table {name : String} {keyword : Keyword} (h : ofName name = keyword) (hnamed : keyword.isNamed = true) :
    (name, keyword) ∈ table := by
  unfold ofName at h
  split at h
  · subst h
    cases hnamed
  · split at h
    · rename_i k hk
      subst h
      exact mem_of_lookup hk
    · split at h
      · subst h
        cases hnamed
      · subst h
        cases hnamed

/-- The name of a keyword of its own. -/
def name (keyword : Keyword) : String := ((table.find? (·.2 == keyword)).map (·.1)).getD ""

/-- A keyword of its own has one name. -/
theorem eq_name_of_ofName {name : String} {keyword : Keyword} (h : ofName name = keyword)
    (hnamed : keyword.isNamed = true) : name = keyword.name := by
  have hnames : ∀ entry ∈ table, entry.1 = entry.2.name := by decide
  exact hnames _ (mem_table h hnamed)

theorem eq_if_of_ofName {name : String} (h : ofName name = .condition) : name = "if" :=
  eq_name_of_ofName h rfl

theorem eq_ref_of_ofName {name : String} (h : ofName name = .reference) : name = "$ref" :=
  eq_name_of_ofName h rfl

end Keyword

/-! ### Values of keywords -/

namespace Value

/-- The name of a type. -/
def typeName? : Value → Option String
  | .str name => if typeNames.contains name then some name else none
  | _ => none

/-- The names of types that a value lists. -/
def types? : Value → Option (List String)
  | .arr [] => none
  | .arr vs => vs.mapM typeName?
  | v => v.typeName?.map ([·])

/-- The size that a value is. -/
def size? : Value → Option Int
  | .num n => if n.isInteger && !n.isNegative then some n.truncate else none
  | _ => none

/-- The exact number that a value is, as a bound. -/
def bound? (relation : Relation) : Value → Option Number
  | .num n => if n.isFinite && !(relation == .multipleOf && !n.exact.isPositive) then some n.exact else none
  | _ => none

/-- The texts that a value lists. -/
def texts? : Value → Option (List String)
  | .arr vs => vs.mapM text?
  | _ => none

/-- Values that are read as texts are those texts, where only a text is read as it. -/
theorem eq_map_str_of_mapM {read : Value → Option String} (hread : ∀ v text, read v = some text → v = .str text)
    {vs : List Value} {texts : List String} (h : vs.mapM read = some texts) : vs = texts.map .str := by
  induction vs generalizing texts with
  | nil =>
    cases h
    rfl
  | cons v vs ih =>
    rw [List.mapM_cons] at h
    obtain ⟨text, htext, h⟩ := Option.bind_eq_some_iff.1 h
    obtain ⟨rest, hrest, h⟩ := Option.bind_eq_some_iff.1 h
    cases h
    rw [hread v text htext, ih hrest]
    rfl

theorem eq_str_of_text? {v : Value} {text : String} (h : v.text? = some text) : v = .str text := by
  unfold Value.text? at h
  split at h
  · cases h
    rfl
  · cases h

theorem eq_arr_of_texts? {v : Value} {texts : List String} (h : v.texts? = some texts) : v = .arr (texts.map .str) := by
  unfold texts? at h
  split at h
  · rw [eq_map_str_of_mapM (fun _ _ => eq_str_of_text?) h]
  · cases h

end Value

/-! ### Parts of a location -/

namespace Location

/-- The site of a node at a place in the document of a location. -/
def site (l : Location) (path : Pointer) : Site := ⟨l.base, path⟩

/-- The location of a value inside an object. -/
def part (l : Location) (path : Pointer) (value : Value) : Location := { l with value, pointer := path }

/-- The scope in which an object is compiled. -/
def scope (l : Location) (setup : Setup) (descend : Location → Compiling Node) (members : List (Scalar × Value)) :
    Scope :=
  ⟨setup, l.document, l.pointer, l.base, l.dialect, members, descend⟩

/-- The locations of the items of an array. -/
def parts (l : Location) (path : Pointer) (values : List Value) : List Location :=
  values.zipIdx.map fun (v, i) => l.part (path.item i) v

theorem part_mem_parts {l : Location} {path : Pointer} {values : List Value} {vi : Value × Nat} (h : vi ∈ values.zipIdx) :
    l.part (path.item vi.2) vi.1 ∈ l.parts path values :=
  List.mem_map_of_mem h

/-- The locations of the members of an object. -/
def entries (l : Location) (path : Pointer) (members : List (Scalar × Value)) : List Location :=
  members.map fun (key, v) => l.part (path.key key) v

/-- The location under a name, if there is one. -/
def branch (l : Location) (members : List (Scalar × Value)) (name : String) : List Location :=
  ((lookupKey (.str name) members).map (l.part (l.pointer.child name))).toList

/-- The locations that are compiled on behalf of a keyword among the members of an object. -/
def keywordParts (l : Location) (members : List (Scalar × Value)) (keyword : Keyword) (name : String)
    (value : Value) : List Location :=
  let path := l.pointer.child name
  match keyword, value with
  | .combination _, .arr vs | .items, .arr vs => l.parts path vs
  | .properties, .obj ms | .patternProperties, .obj ms => l.entries path ms
  | .condition, v =>
    l.branch members "then" ++ l.branch members "else" ++ [l.part (l.pointer.child "if") v]
  | .negation, v | .propertyNames, v | .contains, v | .items, v | .additionalProperties, v | .additionalItems, v =>
    [l.part path v]
  | _, _ => []

/-- The locations that are compiled on behalf of a member of an object. -/
def memberParts (l : Location) (members : List (Scalar × Value)) : Scalar × Value → List Location
  | (.str name, value) => l.keywordParts members (.ofName name) name value
  | _ => []

/-- The locations of the subschemas of an object. -/
def subschemas (l : Location) (members : List (Scalar × Value)) : List Location :=
  members.flatMap (l.memberParts members)

/-- The value of a keyword that depends on its neighbours is its only part. -/
theorem keywordParts_of_isLate {keyword : Keyword} (hlate : keyword.isLate = true) (l : Location)
    (members : List (Scalar × Value)) (name : String) (value : Value) :
    l.keywordParts members keyword name value = [l.part (l.pointer.child name) value] := by
  cases keyword with
  | additionalProperties | additionalItems => rfl
  | _ => cases hlate

theorem part_of_isLate {l : Location} {members : List (Scalar × Value)} {name : String} {value : Value}
    (hmem : (.str name, value) ∈ members) (hlate : (Keyword.ofName name).isLate = true) :
    l.part (l.pointer.child name) value ∈ l.subschemas members := by
  refine List.mem_flatMap.2 ⟨_, hmem, ?_⟩
  unfold memberParts
  dsimp only
  rw [keywordParts_of_isLate hlate, List.mem_singleton]

/-- The object is replaced by its reference. -/
def isReplaced (l : Location) (members : List (Scalar × Value)) : Bool :=
  l.dialect == some .draft07 && hasKey (.str "$ref") members

end Location

/-- The base that is in force inside a schema object, whose name, if it has one, is a text. -/
def BaseInside (base : Option String) (members : List (Scalar × Value)) (inner : Option String) : Prop :=
  baseWithin base (.obj members) = .ok inner ∧
    ∀ v, lookupKey (.str "$id") members = some v → ∃ name, v = .str name

/-- Inside an object its own name is in force, unless the object is replaced by its reference. -/
def Location.Inner (l : Location) (members : List (Scalar × Value)) (inner : Location) : Prop :=
  if l.isReplaced members then inner = l else ∃ base, BaseInside l.base members base ∧ inner = { l with base }

/-! ### Targets of references -/

/-- A reference at `l` leads to the location `t`, with this fragment, where the URIs without a fragment name such
`homes`. -/
def TargetOf (homes : String → Home → Prop) (l : Location) (ref : String) (t : Location) (fragment : Option String) :
    Prop :=
  ∃ full uri home, resolveUri l.base ref = .ok full ∧ Uri.splitFragment full = (uri, fragment) ∧ homes uri home ∧
    targetPointer? home.document.content home.origin fragment = .ok (some t.pointer) ∧
    Scope.valueAt? home.document.content t.pointer = .ok (some t.value) ∧ t.document = home.document ∧
    t.document.baseAt t.pointer = .ok t.base ∧
    ∃ dialect, t.document.dialect? = .ok dialect ∧ t.dialect = dialect.or l.dialect

/-! ### Nodes of keywords -/

section Clauses

variable (setup : Setup) (means : Location → Node → Prop)
  (leads : Location → String → Location → Option String → Prop)

/-- The node of a reference. -/
def ReferenceOf (l : Location) (value : Value) (n : Node) : Prop :=
  ∃ ref target fragment m, value = .str ref ∧ leads l ref target fragment ∧ means target m ∧
    n = .reference (l.site (l.pointer.child "$ref")) m fragment

/-- The branch of a conditional, if there is one. -/
def BranchOf (l : Location) (members : List (Scalar × Value)) (name : String) : Option Node → Prop
  | none => lookupKey (.str name) members = none
  | some n => ∃ v, lookupKey (.str name) members = some v ∧ means (l.part (l.pointer.child name) v) n

/-- The size under a neighbouring keyword, if there is one. -/
def SizeUnder (members : List (Scalar × Value)) (name : String) : Option Int → Prop
  | none => lookupKey (.str name) members = none
  | some k => ∃ v, lookupKey (.str name) members = some v ∧ v.size? = some k

/-- The nodes of the items of an array. -/
def PartsOf (l : Location) (path : Pointer) (values : List Value) (nodes : List Node) : Prop :=
  List.Forall₂ (fun (v, i) n => means (l.part (path.item i) v) n) values.zipIdx nodes

/-- The node of a format, if it is known. -/
def formatNode? (site : Site) (name : String) : Option Node :=
  match setup.format name with
  | some (.test checker check) => some (.leaf site (.checked name checker check))
  | some (.delegating checker constraints) => some (.delegatedFormat site name checker constraints)
  | none => (StandardFormat.ofName? setup.world.characters name).map fun f => .leaf site (.format name f)

/-- The node of a keyword with the extension mark. -/
def extensionNode (l : Location) (name : String) (path : Pointer) (value : Value) : Node :=
  match setup.keyword name l.base path value with
  | some inner => .delegating (l.site path) name inner
  | none => .leaf (l.site path) (.extension name value)

/-- The node of a keyword that does not depend on its neighbours, if it has one. -/
def KeywordOf (l : Location) (members : List (Scalar × Value)) (keyword : Keyword) (name : String) (value : Value)
    (result : Option Node) : Prop :=
  let path := l.pointer.child name
  let site := l.site path
  match keyword with
  | .passive | .unknown | .additionalProperties | .additionalItems => result = none
  | .reference => ∃ n, ReferenceOf means leads l value n ∧ result = some n
  | .combination counting =>
    ∃ vs ns, value = .arr vs ∧ vs ≠ [] ∧ PartsOf means l path vs ns ∧ result = some (.combine site name counting ns)
  | .negation => ∃ n, means (l.part path value) n ∧ result = some (.not site n)
  | .condition =>
    ∃ t e c, BranchOf means l members "then" t ∧ BranchOf means l members "else" e ∧
      means (l.part (l.pointer.child "if") value) c ∧ result = some (.conditional (l.site l.pointer) c t e)
  | .type => ∃ names, value.types? = some names ∧ result = some (.leaf site (.type names))
  | .enum => ∃ vs, value = .arr vs ∧ result = some (.leaf site (.enum vs))
  | .const => result = some (.leaf site (.const value))
  | .properties =>
    ∃ ms es, value = .obj ms ∧
      List.Forall₂ (fun m e => e.1 = m.1 ∧ means (l.part (path.key m.1) m.2) e.2) ms es ∧
      result = some (.properties site es)
  | .patternProperties =>
    ∃ ms es, value = .obj ms ∧
      List.Forall₂ (fun m e => (∃ text, m.1 = .str text ∧ Regex.ofText setup.world.characters text = .ok e.1) ∧
        means (l.part (path.key m.1) m.2) e.2) ms es ∧
      result = some (.patternProperties site es)
  | .propertyNames => ∃ n, means (l.part path value) n ∧ result = some (.propertyNames site n)
  | .required => ∃ names, value.texts? = some names ∧ result = some (.required site names)
  | .items =>
    (∃ vs ns, value = .arr vs ∧ PartsOf means l path vs ns ∧ result = some (.itemsTuple site ns)) ∨
      (value.isArray = false ∧ ∃ n, means (l.part path value) n ∧ result = some (.items site n))
  | .uniqueItems => ∃ b, value = .bool b ∧ result = if b then some (.leaf site .uniqueItems) else none
  | .contains =>
    ∃ n minimum maximum, means (l.part path value) n ∧ SizeUnder members "minContains" minimum ∧
      SizeUnder members "maxContains" maximum ∧ result = some (.contains site n minimum maximum)
  | .limit relation =>
    ∃ b, value.bound? relation = some b ∧ result = some (.leaf site (.limit name relation b))
  | .size sized lower => ∃ k, value.size? = some k ∧ result = some (.leaf site (.size sized name lower k))
  | .pattern =>
    ∃ text regex, value = .str text ∧ Regex.ofText setup.world.characters text = .ok regex ∧
      result = some (.leaf site (.pattern regex))
  | .format => ∃ format, value = .str format ∧ result = formatNode? setup site format
  | .default => result = some (.leaf site (.default value))
  | .extension => result = some (extensionNode setup l name path value)

/-- The first look at a member. -/
def EarlyOf (l : Location) (members : List (Scalar × Value)) (member : Scalar × Value) (child : Scope.Child) :
    Prop :=
  ∃ name, member.1 = .str name ∧
    if (Keyword.ofName name).isLate then child = .late (.ofName name) name member.2
    else ∃ result, KeywordOf setup means leads l members (.ofName name) name member.2 result ∧ child = .early result

/-- The node of a keyword that depends on its neighbours. -/
def neighbourNode (site : Site) (keyword : Keyword) (siblings : List Node) (schema : Node) : Node :=
  match keyword with
  | .additionalProperties =>
    .additionalProperties site schema (Scope.knownNames siblings) (Scope.knownPatterns siblings)
  | _ => .additionalItems site schema ((Scope.tupleSize? siblings).getD 0) (Scope.tupleSize? siblings).isSome

/-- The node of a child after its neighbours, if it has one. -/
def LateOf (l : Location) (siblings : List Node) (child : Scope.Child) (result : Option Node) : Prop :=
  match child with
  | .early node => result = node
  | .late keyword name value =>
    ∃ n, means (l.part (l.pointer.child name) value) n ∧
      result = some (neighbourNode (l.site (l.pointer.child name)) keyword siblings n)

/-- The children of a schema object. -/
def ChildrenOf (l : Location) (members : List (Scalar × Value)) (children : List Node) : Prop :=
  ∃ firsts results, List.Forall₂ (EarlyOf setup means leads l members) members firsts ∧
    List.Forall₂ (LateOf means l (firsts.filterMap Scope.Child.node?)) firsts results ∧
    children = results.filterMap id

/-! ### Objects -/

/-- The title of a schema object. -/
def TitleOf (members : List (Scalar × Value)) : Option String → Prop
  | none => lookupKey (.str "title") members = none ∨ lookupKey (.str "title") members = some .null
  | some title => lookupKey (.str "title") members = some (.str title)

/-- The text under a URI, as some loader reads it. -/
def TextUnder (w : World) (uri text : String) : Prop :=
  ∃ loader, ((Loader.readText w uri).run.run loader).1 = .ok text

/-- The description of a schema object, which may be a text elsewhere. -/
def DescriptionOf (l : Location) (members : List (Scalar × Value)) : Option String → Prop
  | none => lookupKey (.str "description") members = none ∨ lookupKey (.str "description") members = some .null
  | some d =>
    lookupKey (.str "description") members = some (.str d) ∨
      ∃ ref uri text, lookupKey (.str "description") members = some (.obj [(.str "$ref", .str ref)]) ∧
        resolveUri l.base ref = .ok uri ∧ TextUnder setup.world uri text ∧
        d = String.ofList (Text.trim text.toList)

/-- The node of a schema object whose own name is in force. -/
def GroupOf (l : Location) (members : List (Scalar × Value)) (n : Node) : Prop :=
  ∃ title description children, TitleOf members title ∧ DescriptionOf setup l members description ∧
    ChildrenOf setup means leads l members children ∧
    n = .group (l.site l.pointer) children title description (l.dialect.map Dialect.uri)

/-- The node of a schema object. -/
def ObjectOf (l : Location) (members : List (Scalar × Value)) (n : Node) : Prop :=
  (hasKey (.str "$schema") members = true → l.pointer.isRoot = true) ∧
    ∃ inner, l.Inner members inner ∧
      if l.isReplaced members then
        ∃ ref r, lookupKey (.str "$ref") members = some ref ∧ ReferenceOf means leads inner ref r ∧
          n = .group (l.site l.pointer) [r] none none (some Dialect.draft07.uri)
      else GroupOf setup means leads inner members n

/-- The node of a location. -/
def Built (l : Location) (n : Node) : Prop :=
  match l.value with
  | .bool allows => n = .constant (l.site l.pointer) allows
  | .obj members => ObjectOf setup means leads l members n
  | _ => False

/-! ### The clauses, read from the node -/

/-- What the node of a keyword at `path` is, with what the value of the keyword must be for it. -/
inductive KeywordNode (l : Location) (members : List (Scalar × Value)) (name : String) (path : Pointer) :
    Keyword → Value → Node → Prop where
  | reference {ref : String} {target : Location} {fragment : Option String} {m : Node}
      (hleads : leads l ref target fragment) (hm : means target m) :
      KeywordNode l members name path .reference (.str ref) (.reference (l.site (l.pointer.child "$ref")) m fragment)
  | combination {counting : Counting} {vs : List Value} {ns : List Node} (hne : vs ≠ [])
      (hns : PartsOf means l path vs ns) :
      KeywordNode l members name path (.combination counting) (.arr vs) (.combine (l.site path) name counting ns)
  | negation {value : Value} {m : Node} (hm : means (l.part path value) m) :
      KeywordNode l members name path .negation value (.not (l.site path) m)
  | condition {value : Value} {t e : Option Node} {c : Node} (ht : BranchOf means l members "then" t)
      (he : BranchOf means l members "else" e) (hc : means (l.part (l.pointer.child "if") value) c) :
      KeywordNode l members name path .condition value (.conditional (l.site l.pointer) c t e)
  | type {value : Value} {names : List String} (hnames : value.types? = some names) :
      KeywordNode l members name path .type value (.leaf (l.site path) (.type names))
  | enum (vs : List Value) :
      KeywordNode l members name path .enum (.arr vs) (.leaf (l.site path) (.enum vs))
  | const (value : Value) :
      KeywordNode l members name path .const value (.leaf (l.site path) (.const value))
  | properties {ms : List (Scalar × Value)} {es : List (Scalar × Node)}
      (hes : List.Forall₂ (fun m e => e.1 = m.1 ∧ means (l.part (path.key m.1) m.2) e.2) ms es) :
      KeywordNode l members name path .properties (.obj ms) (.properties (l.site path) es)
  | patternProperties {ms : List (Scalar × Value)} {es : List (Regex × Node)}
      (hes : List.Forall₂ (fun m e => (∃ text, m.1 = .str text ∧ Regex.ofText setup.world.characters text = .ok e.1) ∧
        means (l.part (path.key m.1) m.2) e.2) ms es) :
      KeywordNode l members name path .patternProperties (.obj ms) (.patternProperties (l.site path) es)
  | propertyNames {value : Value} {m : Node} (hm : means (l.part path value) m) :
      KeywordNode l members name path .propertyNames value (.propertyNames (l.site path) m)
  | required {value : Value} {names : List String} (hnames : value.texts? = some names) :
      KeywordNode l members name path .required value (.required (l.site path) names)
  | itemsTuple {vs : List Value} {ns : List Node} (hns : PartsOf means l path vs ns) :
      KeywordNode l members name path .items (.arr vs) (.itemsTuple (l.site path) ns)
  | items {value : Value} {m : Node} (harray : value.isArray = false) (hm : means (l.part path value) m) :
      KeywordNode l members name path .items value (.items (l.site path) m)
  | uniqueItems :
      KeywordNode l members name path .uniqueItems (.bool true) (.leaf (l.site path) .uniqueItems)
  | contains {value : Value} {m : Node} {minimum maximum : Option Int} (hm : means (l.part path value) m)
      (hmin : SizeUnder members "minContains" minimum) (hmax : SizeUnder members "maxContains" maximum) :
      KeywordNode l members name path .contains value (.contains (l.site path) m minimum maximum)
  | limit {relation : Relation} {value : Value} {b : Number} (hb : value.bound? relation = some b) :
      KeywordNode l members name path (.limit relation) value (.leaf (l.site path) (.limit name relation b))
  | size {sized : Sized} {lower : Bool} {value : Value} {k : Int} (hk : value.size? = some k) :
      KeywordNode l members name path (.size sized lower) value (.leaf (l.site path) (.size sized name lower k))
  | pattern {text : String} {regex : Regex} (hregex : Regex.ofText setup.world.characters text = .ok regex) :
      KeywordNode l members name path .pattern (.str text) (.leaf (l.site path) (.pattern regex))
  | givenTest {format checker : String} {check : Check} (hformat : setup.format format = some (.test checker check)) :
      KeywordNode l members name path .format (.str format) (.leaf (l.site path) (.checked format checker check))
  | givenFormat {format checker : String} {constraints : List Node}
      (hformat : setup.format format = some (.delegating checker constraints)) :
      KeywordNode l members name path .format (.str format) (.delegatedFormat (l.site path) format checker constraints)
  | format {format : String} {f : StandardFormat} (hf : StandardFormat.ofName? setup.world.characters format = some f) :
      KeywordNode l members name path .format (.str format) (.leaf (l.site path) (.format format f))
  | default (value : Value) :
      KeywordNode l members name path .default value (.leaf (l.site path) (.default value))
  | givenKeyword {value : Value} {inner : Node} (hkeyword : setup.keyword name l.base path value = some inner) :
      KeywordNode l members name path .extension value (.delegating (l.site path) name inner)
  | extension (value : Value) :
      KeywordNode l members name path .extension value (.leaf (l.site path) (.extension name value))

/-- What the node of a location is: a constant, the reference that an object is replaced by, or the group of the keywords
of an object. -/
inductive BuiltNode (l : Location) : Node → Prop where
  | constant {allows : Bool} (hvalue : l.value = .bool allows) : BuiltNode l (.constant (l.site l.pointer) allows)
  | replaced {members : List (Scalar × Value)} {inner : Location} {ref : Value} {r : Node}
      (hvalue : l.value = .obj members) (hinner : l.Inner members inner) (hreplaced : l.isReplaced members = true)
      (href : lookupKey (.str "$ref") members = some ref) (hr : ReferenceOf means leads inner ref r) :
      BuiltNode l (.group (l.site l.pointer) [r] none none (some Dialect.draft07.uri))
  | group {members : List (Scalar × Value)} {inner : Location} {title description : Option String}
      {children : List Node} (hvalue : l.value = .obj members) (hinner : l.Inner members inner)
      (hreplaced : l.isReplaced members = false) (htitle : TitleOf members title)
      (hdescription : DescriptionOf setup inner members description)
      (hchildren : ChildrenOf setup means leads inner members children) :
      BuiltNode l (.group (inner.site inner.pointer) children title description (inner.dialect.map Dialect.uri))

end Clauses

section Clauses

variable {setup : Setup} {means : Location → Node → Prop} {leads : Location → String → Location → Option String → Prop}
  {l : Location} {members : List (Scalar × Value)}

/-- The clause of a keyword that has a node, read from the node. -/
theorem KeywordOf.node {keyword : Keyword} {name : String} {value : Value} {n : Node}
    (h : KeywordOf setup means leads l members keyword name value (some n)) :
    KeywordNode setup means leads l members name (l.pointer.child name) keyword value n := by
  cases keyword with
  | passive | unknown | additionalProperties | additionalItems => cases h
  | reference =>
    obtain ⟨m, ⟨ref, target, fragment, k, rfl, hleads, hk, rfl⟩, heq⟩ := h
    cases heq
    exact .reference hleads hk
  | combination counting =>
    obtain ⟨vs, ns, rfl, hne, hns, heq⟩ := h
    cases heq
    exact .combination hne hns
  | negation =>
    obtain ⟨m, hm, heq⟩ := h
    cases heq
    exact .negation hm
  | condition =>
    obtain ⟨t, e, c, ht, he, hc, heq⟩ := h
    cases heq
    exact .condition ht he hc
  | type =>
    obtain ⟨names, hnames, heq⟩ := h
    cases heq
    exact .type hnames
  | enum =>
    obtain ⟨vs, rfl, heq⟩ := h
    cases heq
    exact .enum vs
  | const =>
    cases h
    exact .const value
  | properties =>
    obtain ⟨ms, es, rfl, hes, heq⟩ := h
    cases heq
    exact .properties hes
  | patternProperties =>
    obtain ⟨ms, es, rfl, hes, heq⟩ := h
    cases heq
    exact .patternProperties hes
  | propertyNames =>
    obtain ⟨m, hm, heq⟩ := h
    cases heq
    exact .propertyNames hm
  | required =>
    obtain ⟨names, hnames, heq⟩ := h
    cases heq
    exact .required hnames
  | items =>
    rcases h with ⟨vs, ns, rfl, hns, heq⟩ | ⟨harray, m, hm, heq⟩
    · cases heq
      exact .itemsTuple hns
    · cases heq
      exact .items harray hm
  | uniqueItems =>
    obtain ⟨b, rfl, heq⟩ := h
    cases b with
    | true =>
      cases heq
      exact .uniqueItems
    | false => cases heq
  | contains =>
    obtain ⟨m, minimum, maximum, hm, hmin, hmax, heq⟩ := h
    cases heq
    exact .contains hm hmin hmax
  | limit relation =>
    obtain ⟨b, hb, heq⟩ := h
    cases heq
    exact .limit hb
  | size sized lower =>
    obtain ⟨k, hk, heq⟩ := h
    cases heq
    exact .size hk
  | pattern =>
    obtain ⟨text, regex, rfl, hregex, heq⟩ := h
    cases heq
    exact .pattern hregex
  | format =>
    obtain ⟨format, rfl, heq⟩ := h
    unfold formatNode? at heq
    split at heq
    · rename_i hformat
      cases heq
      exact .givenTest hformat
    · rename_i hformat
      cases heq
      exact .givenFormat hformat
    · obtain ⟨f, hf, rfl⟩ := Option.map_eq_some_iff.1 heq.symm
      exact .format hf
  | default =>
    cases h
    exact .default value
  | extension =>
    cases h
    unfold extensionNode
    split
    · exact .givenKeyword ‹_›
    · exact .extension value

theorem Built.node {n : Node} (h : Built setup means leads l n) : BuiltNode setup means leads l n := by
  unfold Built at h
  split at h
  · rename_i allows hvalue
    rw [h]
    exact .constant hvalue
  · rename_i members hvalue
    obtain ⟨-, inner, hinner, h⟩ := h
    split at h
    · obtain ⟨ref, r, href, hr, rfl⟩ := h
      exact .replaced hvalue hinner ‹_› href hr
    · obtain ⟨title, description, children, htitle, hdescription, hchildren, rfl⟩ := h
      exact .group hvalue hinner (Bool.eq_false_iff.2 ‹_›) htitle hdescription hchildren
  · exact h.elim

end Clauses

end Conform
