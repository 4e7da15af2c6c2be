import Conform.Proofs.Compile.Causes
import Conform.Proofs.Compile.Parallel

/-!
# The depth of a compilation

How deep a compilation is allowed to go shows in nothing but that it may fail for a lack of depth (`compile_depth`).  What
comes from a table does not fail so, if it may go deeper than the extent of any session (`compile_ne_endless`).
-/

namespace Conform

open Library (AtHand)

variable {setup : Setup}

/-- Two runs from one session, of which the first may fail for a lack of depth. -/
def Frame.deeper (final : Session) : Frame where
  uri _ := False
  place _ := False
  marked _ := False
  reached _ := True
  forgives e := e = .endless
  stray := False
  final := final

theorem Frame.lawful_deeper (final : Session) : (Frame.deeper final).Lawful setup where
  part _ _ _ _ _ := trivial
  target _ _ _ _ _ := trivial
  marked h := h.elim
  place _ h := h.elim
  uri _ _ _ h := h.elim

/-- A compilation that may go less deep ends in the same way and knows the same in the end, or it fails for a lack of depth
and knows no more. -/
theorem compile_of_le {fuel fuel' : Nat} (hfuel : fuel ≤ fuel') (l : Location) (s : Session) :
    (((compile setup fuel l).run.run s).1 = ((compile setup fuel' l).run.run s).1 ∧
        Extends ((compile setup fuel' l).run.run s).2.homes ((compile setup fuel l).run.run s).2.homes ∨
      ((compile setup fuel l).run.run s).1 = .error .endless) ∧
      Extends ((compile setup fuel l).run.run s).2.homes ((compile setup fuel' l).run.run s).2.homes := by
  obtain ⟨B, hB⟩ : ∃ B, B = Frame.deeper ((compile setup fuel' l).run.run s).2 := ⟨_, rfl⟩
  have halike : Alike B (B.reached l) (compile setup fuel l) (compile setup fuel' l) := by
    rw [hB]
    exact (Frame.lawful_deeper _).alike_compile_of_le rfl hfuel
  have hagrees := halike.agrees (hB ▸ trivial) s s ⟨fun _ _ => rfl, fun _ _ => rfl, fun _ _ => rfl, hB ▸ fun _ h => h.elim⟩
    (hB ▸ .refl _)
  have huri : ∀ u, ¬B.uri u := hB ▸ fun _ h => h
  generalize (compile setup fuel l).run.run s = x at hagrees
  generalize (compile setup fuel' l).run.run s = y at hagrees
  cases hagrees with
  | same h =>
    refine ⟨.inl ⟨rfl, fun uri home hlookup => ?_⟩, fun uri home hlookup => ?_⟩
    · exact (h.homes uri (huri uri)).trans hlookup
    · exact (h.homes uri (huri uri)).symm.trans hlookup
  | forgiven he h =>
    rw [hB] at he
    exact ⟨.inr (congrArg Except.error he), fun uri home hlookup => h uri home (huri uri) hlookup⟩
  | stray h =>
    rw [hB] at h
    exact h.elim

/-- Whatever depth two compilations are allowed, they end in the same way, or one of them fails for a lack of depth. -/
theorem compile_depth (fuel fuel' : Nat) (l : Location) (s : Session) :
    ((compile setup fuel l).run.run s).1 = ((compile setup fuel' l).run.run s).1 ∨
      ((compile setup fuel l).run.run s).1 = .error .endless ∨ ((compile setup fuel' l).run.run s).1 = .error .endless := by
  rcases Nat.le_total fuel fuel' with h | h
  · rcases (compile_of_le h l s).1 with h | h
    · exact .inl h.1
    · exact .inr (.inl h)
  · rcases (compile_of_le h l s).1 with h | h
    · exact .inl h.1.symm
    · exact .inr (.inr h)

/-- No compilation leaves a place marked. -/
theorem before_compile (fuel : Nat) (l : Location) (s : Session) : s.Before ((compile setup fuel l).run.run s).2 :=
  ((Frame.lawful_deeper s).alike_compile fuel).before s

section Stock

variable {w : World} {own : Document → Prop} {token : String → Prop} {d : Document} {p : Pointer} {root : Location}

/-- A session that knows what a document claims, and nothing else, is stocked with documents at hand. -/
theorem Spells.stocks (hs : Spells w own token) (hown : own d) (hbase : IsBase d.uri) {cache : List (String × Loaded)}
    {homes : List (String × Home)} (hcached : ∀ {uri d}, cache.lookup uri = some d → AtHand w own (.under uri d.value))
    (hclaims : ∀ {uri home}, homes.lookup uri = some home → d.Claims uri home) : Stocks w own token cache homes where
  cached := hcached
  hosted hlookup := by
    rw [(hclaims hlookup).document_eq]
    exact ⟨.inl (.inl hown), .inl hown, hbase⟩
  spelt hlookup := hs.claims (.inl (.inl hown)) (hclaims hlookup)

/-- A document that has been registered, before anything has been compiled, is compiled without a lack of depth. -/
theorem compile_ne_endless {answers : List (String × Answer)} (hworld : setup.world.resolver = .table answers)
    (hbase : IsBase d.uri) (hroot : d.LocatedAt p root) {s : Session} (hentries : s.registry.entries = [])
    (hcached : ∀ {uri d'}, s.loader.cache.lookup uri = some d' → AtHand setup.world (· = d) (.under uri d'.value))
    (hclaims : ∀ {uri home}, s.homes.lookup uri = some home → d.Claims uri home) {fuel : Nat} {s' : Session}
    (hfuel : s'.extent setup.world d p < fuel) : ((compile setup fuel root).run.run s).1 ≠ .error .endless := by
  have hspells := spells_table hworld d p
  have hhouses : ∀ homes, Houses setup.world (· = d) (d.Token setup.world p) homes root :=
    Session.houses_of_locatedAt rfl (fun t ht => token_of_mem ht _) hbase hroot
  have hend := Session.runs_compile hspells hhouses fuel s
    (.of_entries hentries rfl (hspells.stocks rfl hbase hcached hclaims)) fun _ _ => trivial
  generalize (compile setup fuel root).run.run s = r at hend
  obtain ⟨r, t⟩ := r
  rintro ⟨⟩
  have hbreaks : t.Breaks setup (· = d) (d.Token setup.world p) root fuel .endless := hend
  rcases hbreaks.cause with ⟨_, _, _, ⟨⟩⟩ | hcause | ⟨way, hway, hlength, hhouses⟩
  · exact hcause.isPlain.ne_endless rfl
  · -- There are not so many places.
    have hle := length_le_extent hworld hway hhouses s'
    omega

end Stock

end Conform
