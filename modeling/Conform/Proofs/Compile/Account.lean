import Conform.Proofs.Compile.Building
import Conform.Proofs.Compile.Documents
import Conform.Compile.Schema

/-!
# Accounts of compilation

An `Account` says what the nodes of locations mean, and of which locations and documents this is told.  It has one
condition for each step of a compilation: for the subschemas of an object, for its own name, for the targets of
references, and for what is built from all of these.  Then every node that a session comes to hold has the meaning of
its location, in whatever order locations are asked for (`Account.keeps_compile`).
-/

namespace Conform

/-- What is told of the locations of schemas and their nodes. -/
structure Account (setup : Setup) where
  /-- What the documents at hand are like. -/
  stock : Stock
  /-- The locations that compilations come to. -/
  good : Location → Prop
  /-- The node is as the location says. -/
  means : Location → Node → Prop
  /-- Where references lead. -/
  leads : Location → String → Location → Option String → Prop
  good_part : ∀ {l members inner}, good l → l.value = .obj members → l.isReplaced members = false →
    l.Inner members inner → ∀ part ∈ inner.subschemas members, good part
  stock_name : ∀ {l members cache homes name uri}, good l → l.value = .obj members → l.isReplaced members = false →
    lookupKey (.str "$id") members = some (.str name) → resolveName l.base name = .ok uri → stock cache homes →
    stock cache (addHome uri ⟨l.document, l.pointer⟩ homes)
  keeps_target : ∀ {l members inner ref}, good l → l.value = .obj members → l.Inner members inner →
    (.str "$ref", .str ref) ∈ members → ∀ filed descend path, Keeps (Session.Sound stock filed)
      ((inner.scope setup descend members).target ref path) fun t => good t.1 ∧ leads inner ref t.1 t.2
  means_built : ∀ {l n}, good l → Built setup (fun l n => good l ∧ means l n) leads l n → means l n
  means_place : ∀ {l l' n}, good l → good l' → l.place = l'.place → means l n → means l' n

namespace Account

variable {setup : Setup} (A : Account setup)

/-- The meaning of what is filed under a place. -/
def filed (p : Place) (n : Node) : Prop := ∀ l, A.good l → l.place = p → A.means l n

/-- The session is as the account tells. -/
def Sound (s : Session) : Prop := s.Sound A.stock A.filed

variable {A}

/-- What is built for a location is built from nodes with the meanings of theirs. -/
theorem keeps_built {descend : Location → Compiling Node} {l : Location} (hl : A.good l)
    (hd : ∀ l, A.good l → Keeps A.Sound (descend l) (A.means l)) :
    Keeps A.Sound (build setup descend l) (Built setup (fun l n => A.good l ∧ A.means l n) A.leads l) := by
  have hd' : ∀ l, A.good l → Keeps A.Sound (descend l) fun n => A.good l ∧ A.means l n :=
    fun l hl => (hd l hl).weaken fun n hn => ⟨hl, hn⟩
  unfold build
  split
  · rename_i allows hvalue
    refine .pure ?_
    rw [Built, hvalue]
    rfl
  · rename_i members hvalue
    -- The parts and what the reference leads to are good locations again, where the descent keeps what it has to.
    have hobject : Keeps A.Sound (l.scope setup descend members).object
        (ObjectOf setup (fun l n => A.good l ∧ A.means l n) A.leads l members) := by
      refine Scope.keeps_object (fun hreplaced cache homes name uri => ?_)
        (fun hreplaced inner hinner part hpart => ?_) fun inner hinner value hmem => ?_
      · exact A.stock_name hl hvalue hreplaced
      · exact hd' part (A.good_part hl hvalue hreplaced hinner part hpart)
      · refine Scope.keeps_reference hmem fun ref href => ?_
        subst href
        refine (A.keeps_target hl hvalue hinner hmem _ _ _).weaken fun t ht => ?_
        exact ⟨ht.2, hd' t.1 ht.1⟩
    refine hobject.weaken fun n hn => ?_
    rw [Built, hvalue]
    exact hn
  · exact .throw _

/-- Whatever is compiled, and whatever has been compiled before, the node of a location has its meaning. -/
theorem keeps_compile (fuel : Nat) {l : Location} (hl : A.good l) :
    Keeps A.Sound (compile setup fuel l) (A.means l) := by
  induction fuel generalizing l with
  | zero => exact .throw _
  | succ fuel ih =>
    have hbuild : Keeps A.Sound (build setup (compile setup fuel) l) (A.filed l.place) :=
      (keeps_built hl fun l hl => ih hl).weaken fun n hn l' hl' hplace =>
        A.means_place hl hl' hplace.symm (A.means_built hl hn)
    exact (Compiling.keeps_getOrCreate hbuild).weaken fun n hn => hn l hl rfl

/-- A schema that is asked for at a pointer of a document has the meaning of its location. -/
theorem keeps_compileAt {d : Document} {p : Pointer}
    (hclaims : ∀ uri home, d.Claims uri home → ∀ cache homes, A.stock cache homes →
      A.stock cache (addHome uri home homes))
    (hgood : ∀ l, d.LocatedAt p l → A.good l) :
    Keeps A.Sound (Schema.compileAt setup d p) fun schema => ∃ l, d.LocatedAt p l ∧ schema.place = l.place ∧
      A.means l schema.root := by
  unfold Schema.compileAt
  refine (Compiling.keeps_registerDocument hclaims).andThen ?_
  refine (Compiling.keeps_ofExcept fun _ h => h).bind fun value hvalue => ?_
  split
  · exact .throw _
  · rename_i value
    refine (Compiling.keeps_ofExcept fun _ h => h).bind fun dialect hdialect => ?_
    refine (Compiling.keeps_ofExcept fun _ h => h).bind fun base hbase => ?_
    refine Keeps.get.bind fun s _ => ?_
    have hl : d.LocatedAt p ⟨d, value, p, base, dialect⟩ := ⟨rfl, rfl, hvalue, hdialect, hbase⟩
    exact (keeps_compile _ (hgood _ hl)).bind fun n hn => .pure ⟨_, hl, rfl, hn⟩

end Account

end Conform
