import Conform.Proofs.Schema.Collect
import Conform.Proofs.Result
import Conform.Proofs.Schema.Tree

/-!
# Findings elsewhere

What is found wrong with a value does not depend on where the value lies, nor on the location that it is reported from:
verdict and messages stay the same (`Node.gist_findings`).
-/

namespace Conform

section Congruence

variable {ε α β γ δ : Type}

/-- What follows two computations looks the same if their results do. -/
theorem map_bind_congr {x y : Except ε α} {look : α → γ} {k k' : α → Except ε β} {look' : β → δ}
    (h : x.map look = y.map look) (hk : ∀ a b, look a = look b → (k a).map look' = (k' b).map look') :
    (x >>= k).map look' = (y >>= k').map look' := by
  cases x with
  | error e =>
    cases y with
    | error e' =>
      cases h
      rfl
    | ok b => cases h
  | ok a =>
    cases y with
    | error e' => cases h
    | ok b => exact hk a b (Except.ok.inj h)

/-- The same computation, and what follows it looks the same. -/
theorem map_bind_same {x : Except ε α} {k k' : α → Except ε β} {look : β → δ} (hk : ∀ a, (k a).map look = (k' a).map look) :
    (x >>= k).map look = (x >>= k').map look := by
  cases x with
  | error e => rfl
  | ok a => exact hk a

theorem map_map_congr {x y : Except ε α} {look : α → γ} {g g' : α → β} {look' : β → δ}
    (h : x.map look = y.map look) (hg : ∀ a b, look a = look b → look' (g a) = look' (g' b)) :
    (x.map g).map look' = (y.map g').map look' := by
  cases x with
  | error e =>
    cases y with
    | error e' =>
      cases h
      rfl
    | ok b => cases h
  | ok a =>
    cases y with
    | error e' => cases h
    | ok b => exact congrArg Except.ok (hg a b (Except.ok.inj h))

end Congruence

/-- What entries say. -/
def messages (es : List Entry) : List Message := es.map (·.message)

/-- The verdict of findings and what they say. -/
def Findings.gist (f : Findings) : Bool × List Message := (f.valid, messages f.entries)

namespace Findings

variable {f g : Findings} {es es' : List Entry}

theorem messages_append (as bs : List Entry) : messages (as ++ bs) = messages as ++ messages bs := List.map_append

theorem isEmpty_messages (es : List Entry) : (messages es).isEmpty = es.isEmpty := List.isEmpty_map

theorem messages_faults (h : f.gist = g.gist) : messages f.faults = messages g.faults := by
  obtain ⟨hvalid, hmessages⟩ := Prod.mk.inj h
  unfold faults
  rw [hvalid]
  split
  · rfl
  · exact hmessages

theorem gist_ofEntries (h : messages es = messages es') : (ofEntries es).gist = (ofEntries es').gist := by
  unfold ofEntries
  rw [← isEmpty_messages es, h, isEmpty_messages es']
  split
  · rfl
  · exact congrArg (Prod.mk false) h

end Findings

namespace Node

open Findings

variable {n : Node} {v : Value} {r l r' l' : Pointer}

theorem collect_congr {α : Type} {f g : Nat → α → Except EvalError (List Entry)} {as : List α}
    (h : ∀ a ∈ as, ∀ i, (f i a).map messages = (g i a).map messages) (start : Nat) :
    (collect f start as).map messages = (collect g start as).map messages := by
  induction as generalizing start with
  | nil => rfl
  | cons a as ih =>
    refine map_bind_congr (h a (by simp) start) fun here here' hhere => ?_
    refine map_bind_congr (ih (fun b hb => h b (by simp [hb])) (start + 1)) fun others others' hothers => ?_
    exact congrArg Except.ok (by rw [messages_append, messages_append, hhere, hothers])

/-- What the node finds looks the same from everywhere. -/
def Steady (n : Node) : Prop :=
  ∀ v r l r' l', (n.findings v r l).map gist = (n.findings v r' l').map gist

theorem Steady.faultsOf (h : n.Steady) (v : Value) (r l r' l' : Pointer) :
    (n.faultsOf v r l).map messages = (n.faultsOf v r' l').map messages :=
  map_bind_congr (h v r l r' l') fun _ _ hgist => congrArg Except.ok (messages_faults hgist)

theorem Steady.additional (h : n.Steady) (own : Node) (m : Message) (v : Value) (r l r' l' : Pointer) :
    (do return own.additional r l m (← n.findings v r l) : Except EvalError (List Entry)).map messages =
      (do return own.additional r' l' m (← n.findings v r' l') : Except EvalError (List Entry)).map messages := by
  refine map_bind_congr (h v r l r' l') fun f g hgist => congrArg Except.ok ?_
  obtain ⟨hvalid, hmessages⟩ := Prod.mk.inj hgist
  unfold Node.additional
  rw [hvalid]
  split
  · rfl
  · exact congrArg (m :: ·) hmessages

theorem if_congr {c : Except EvalError Bool} {x y : Except EvalError (List Entry)} (h : x.map messages = y.map messages) :
    (do if ← c then x else return [] : Except EvalError (List Entry)).map messages =
      (do if ← c then y else return [] : Except EvalError (List Entry)).map messages := by
  refine map_bind_same fun b => ?_
  cases b with
  | true => exact h
  | false => rfl

theorem findingsIndexed_congr {ns : List Node} (h : ∀ n ∈ ns, n.Steady) (i : Nat) :
    (findingsIndexed i ns v r l).map (List.map gist) = (findingsIndexed i ns v r' l').map (List.map gist) := by
  induction ns generalizing i with
  | nil => rfl
  | cons n ns ih =>
    refine map_bind_congr (h n (by simp) v _ _ _ _) fun f f' hf => ?_
    refine map_bind_congr (ih (fun m hm => h m (by simp [hm])) (i + 1)) fun fs fs' hfs => ?_
    exact congrArg Except.ok (by rw [List.map_cons, List.map_cons, hf, hfs])

theorem countP_of_gist {fs fs' : List Findings} (h : fs.map gist = fs'.map gist) :
    fs.countP (·.valid) = fs'.countP (·.valid) := by
  have hcount : ∀ gs : List Findings, gs.countP (·.valid) = (gs.map gist).countP (·.1) := fun gs => by
    rw [List.countP_map]
    rfl
  rw [hcount, hcount, h]

theorem messages_faults_of_gist {fs fs' : List Findings} (h : fs.map gist = fs'.map gist) :
    messages (fs.flatMap (·.faults)) = messages (fs'.flatMap (·.faults)) := by
  induction fs generalizing fs' with
  | nil =>
    cases fs' with
    | nil => rfl
    | cons f' fs' => cases h
  | cons f fs ih =>
    cases fs' with
    | nil => cases h
    | cons f' fs' =>
      obtain ⟨hf, hfs⟩ := List.cons.inj h
      rw [List.flatMap_cons, List.flatMap_cons, messages_append, messages_append, messages_faults hf, ih hfs]

theorem gist_headed (own : Node) (m : Message) {es es' : List Entry} (h : messages es = messages es') :
    (own.headed r l m es).gist = (own.headed r' l' m es').gist := by
  unfold headed
  rw [← isEmpty_messages es, h, isEmpty_messages es']
  split
  · rfl
  · exact congrArg (fun ms => (false, m :: ms)) h

theorem gist_findingsOf {o o' : Option Entry} (h : o.map (·.message) = o'.map (·.message)) :
    (findingsOf o).gist = (findingsOf o').gist := by
  cases o with
  | none =>
    cases o' with
    | none => rfl
    | some e' => cases h
  | some e =>
    cases o' with
    | none => cases h
    | some e' => exact congrArg (fun m => (false, [m])) (Option.some.inj h)

theorem steady_of_subnodes {n : Node} (h : ∀ c ∈ n.subnodes, c.Steady) : n.Steady := by
  intro v r l r' l'
  cases n, v using cases_applied with
  | passing n v hpass =>
    rw [findings_of_passesOver hpass, findings_of_passesOver hpass]
  | constant s allows => cases allows <;> rfl
  | not s child v =>
    refine map_bind_congr (h child (by simp [subnodes]) v r l r' l') fun f f' hf => congrArg Except.ok ?_
    rw [(Prod.mk.inj hf).1]
    cases f'.valid <;> rfl
  | combine s k c ns =>
    refine map_bind_congr (findingsIndexed_congr h 0) fun fs fs' hfs => ?_
    rw [countP_of_gist hfs]
    dsimp only
    split
    · rfl
    · exact congrArg (fun ms => Except.ok (false, _ :: ms)) (messages_faults_of_gist hfs)
  | group s ns title description dialect v =>
    rw [findings, findings, findingsPlaced_eq 0, findingsPlaced_eq 0]
    have hes := collect_congr (fun c hc _ => (h c hc).faultsOf v (c.place r) l (c.place r') l') 0
    exact map_bind_congr hes fun es es' hmessages => congrArg Except.ok (gist_headed _ _ hmessages)
  | conditional s condition thenBranch elseBranch v =>
    refine map_bind_same fun b => ?_
    cases b with
    | true =>
      cases thenBranch with
      | none => rfl
      | some m => exact h m (by simp [subnodes]) v _ _ _ _
    | false =>
      cases elseBranch with
      | none => rfl
      | some m => exact h m (by simp [subnodes]) v _ _ _ _
  | reference s target fragment v => exact h target (by simp [subnodes]) v r l r' l'
  | delegating s key inner v => exact h inner (by simp [subnodes]) v r l r' l'
  | bare s => rfl
  | leaf s c =>
    refine map_bind_same fun m => congrArg Except.ok (gist_findingsOf ?_)
    cases m <;> rfl
  | delegatedFormat s name checker ns =>
    refine map_bind_same fun b => map_bind_same fun m => congrArg Except.ok (gist_findingsOf ?_)
    cases m <;> rfl
  | properties s entries ms =>
    rw [findings, findings]
    rw [findingsEntries_eq 0, findingsEntries_eq 0]
    refine map_map_congr (collect_congr (fun e he _ => ?_) 0) fun _ _ => gist_ofEntries
    cases lookupKey e.1 ms with
    | none => rfl
    | some w => exact (h e.2 (List.mem_map_of_mem he)).faultsOf w _ _ _ _
  | patternProperties s entries ms =>
    rw [findings, findings]
    rw [findingsMatches_eq 0, findingsMatches_eq 0]
    refine map_map_congr (collect_congr (fun e he _ => collect_congr (fun m _ _ => ?_) 0) 0) fun _ _ => gist_ofEntries
    exact if_congr ((h e.2 (List.mem_map_of_mem he)).faultsOf m.2 _ _ _ _)
  | additionalProperties s schema names patterns ms =>
    have hschema : schema.Steady := h schema (by simp [subnodes])
    exact map_map_congr (collect_congr (fun m _ _ => if_congr (hschema.additional _ _ m.2 _ _ _ _)) 0)
      fun _ _ => gist_ofEntries
  | propertyNames s schema ms =>
    have hschema : schema.Steady := h schema (by simp [subnodes])
    exact map_map_congr (collect_congr (fun m _ _ => hschema.faultsOf (.scalar m.1) _ _ _ _) 0)
      fun _ _ => gist_ofEntries
  | required s names ms =>
    refine map_map_congr (collect_congr (fun name _ i => ?_) 0) fun _ _ => gist_ofEntries
    split <;> rfl
  | items s schema vs =>
    have hschema : schema.Steady := h schema (by simp [subnodes])
    exact map_map_congr (collect_congr (fun w _ _ => hschema.faultsOf w _ _ _ _) 0) fun _ _ => gist_ofEntries
  | itemsTuple s schemas vs =>
    rw [findings, findings]
    rw [findingsTuple_eq, findingsTuple_eq]
    exact map_map_congr (collect_congr (fun p hp _ => (h p.1 (List.of_mem_zip hp).1).faultsOf p.2 _ _ _ _) 0)
      fun _ _ => gist_ofEntries
  | additionalItems s schema size applies vs =>
    have hschema : schema.Steady := h schema (by simp [subnodes])
    exact map_map_congr (collect_congr (fun w _ i => hschema.additional _ _ w _ _ _ _) size) fun _ _ => gist_ofEntries
  | contains s schema minimum maximum vs =>
    refine map_bind_same fun count => map_bind_same fun problem => congrArg Except.ok (gist_findingsOf ?_)
    rcases problem with _ | ⟨_ | keyword, m⟩ <;> rfl

theorem steady (n : Node) : n.Steady := n.induction fun _ => steady_of_subnodes

/-- Verdict and messages do not depend on where the value lies and where the node reports from. -/
theorem gist_findings {f : Findings} (h : n.findings v r l = .ok f) (r' l' : Pointer) :
    ∃ g, n.findings v r' l' = .ok g ∧ g.gist = f.gist := by
  have hsame := steady n v r l r' l'
  rw [h] at hsame
  exact map_eq_ok.1 hsame.symm

end Node

end Conform
