import Conform.Proofs.Schema.Elsewhere

/-!
# Relocated reports

A schema that is evaluated at other locations reports the same, with the new locations put in front of those of its
report (`Node.relocates`): in its findings (`Node.findings_append`) and all through the tree of its outcome
(`Node.outcome_append`).  A reference therefore reports what its target reports on its own.

Only `contains` looks further than below its location: what it says of the keywords beside it, it says beside its own
location, which at the root is below it.  A schema stands for no keyword, so the keywords that it evaluates lie below
its location, and no `contains` in it is ever at the root.
-/

namespace Conform

/-! ### Locations -/

namespace Pointer

variable {p q : Pointer}

theorem append_root (p : Pointer) : p.append root = p := by simp [append, root]

theorem append_child (p q : Pointer) (token : String) : (p.append q).child token = p.append (q.child token) := by
  simp [append, child]

theorem append_item (p q : Pointer) (i : Nat) : (p.append q).item i = p.append (q.item i) := append_child p q _

theorem append_key (p q : Pointer) (key : Scalar) : (p.append q).key key = p.append (q.key key) := append_child p q _

/-- What lies beside a location that is not the root lies below the same location as before. -/
theorem append_sibling (hq : q ≠ root) (p : Pointer) (token : String) :
    (p.append q).sibling token = p.append (q.sibling token) := by
  have htokens : q.tokens ≠ [] := fun h => hq (congrArg Pointer.mk h)
  simp [append, sibling, List.dropLast_append_of_ne_nil htokens]

theorem child_ne_root (p : Pointer) (token : String) : p.child token ≠ root := by simp [child, root]

end Pointer

/-! ### Reports below other locations -/

/-- The entry, reported from `r` on about a value at `i`. -/
def Entry.under (r i : Pointer) (e : Entry) : Entry :=
  { e with keyword := r.append e.keyword, location := i.append e.location }

/-- The findings, reported from `r` on about a value at `i`. -/
def Findings.under (r i : Pointer) (f : Findings) : Findings := { f with entries := f.entries.map (·.under r i) }

namespace Outcome

mutual

/-- The outcome with everything inside it, reported from `r` on about a value at `i`. -/
def under (r i : Pointer) : Outcome → Outcome
  | ⟨valid, keyword, absolute, location, message, errors, annotations⟩ =>
    ⟨valid, r.append keyword, absolute, i.append location, message, eachUnder r i errors, eachUnder r i annotations⟩

/-- The outcomes, reported from `r` on about a value at `i`. -/
def eachUnder (r i : Pointer) : List Outcome → List Outcome
  | [] => []
  | o :: rest => o.under r i :: eachUnder r i rest

end

theorem eachUnder_eq_map (r i : Pointer) (os : List Outcome) : eachUnder r i os = os.map (·.under r i) := by
  induction os with
  | nil => rfl
  | cons o os ih => rw [eachUnder, ih, List.map_cons]

@[simp] theorem valid_under (r i : Pointer) (o : Outcome) : (o.under r i).valid = o.valid := by
  cases o
  rw [under]

end Outcome

section Mapped

variable {ε α α' β β' : Type}

/-- What follows a computation with other results gives other results. -/
theorem bind_of_map {x : Except ε α} {x' : Except ε α'} {φ : α → α'} {ψ : β → β'} {k : α → Except ε β}
    {k' : α' → Except ε β'} (h : x' = x.map φ) (hk : ∀ a, k' (φ a) = (k a).map ψ) : (x' >>= k') = (x >>= k).map ψ := by
  subst h
  cases x with
  | error e => rfl
  | ok a => exact hk a

theorem bind_same {x : Except ε α} {ψ : β → β'} {k : α → Except ε β} {k' : α → Except ε β'}
    (hk : ∀ a, k' a = (k a).map ψ) : (x >>= k') = (x >>= k).map ψ := by
  cases x with
  | error e => rfl
  | ok a => exact hk a

theorem map_of_map {x : Except ε α} {x' : Except ε α'} {φ : α → α'} {ψ : β → β'} {g : α → β} {g' : α' → β'}
    (h : x' = x.map φ) (hg : ∀ a, g' (φ a) = ψ (g a)) : x'.map g' = (x.map g).map ψ := by
  subst h
  cases x with
  | error e => rfl
  | ok a => exact congrArg Except.ok (hg a)

end Mapped

namespace Node

variable {n : Node} {v : Value} {r i q j : Pointer}

theorem collect_map {α β : Type} {φ : β → β} {f g : Nat → α → Except EvalError (List β)} {as : List α}
    (h : ∀ a ∈ as, ∀ k, f k a = (g k a).map (List.map φ)) (start : Nat) :
    collect f start as = (collect g start as).map (List.map φ) := by
  induction as generalizing start with
  | nil => rfl
  | cons a as ih =>
    refine bind_of_map (h a (by simp) start) fun here => ?_
    refine bind_of_map (ih (fun b hb => h b (by simp [hb])) (start + 1)) fun others => ?_
    exact congrArg Except.ok List.map_append.symm

theorem if_map {α : Type} {φ : α → α} {c : Except EvalError Bool} {x y : Except EvalError (List α)}
    (h : x = y.map (List.map φ)) :
    (do if ← c then x else return [] : Except EvalError (List α)) =
      (do if ← c then y else return [] : Except EvalError (List α)).map (List.map φ) := by
  refine bind_same fun b => ?_
  cases b with
  | true => exact h
  | false => rfl

/-- The node evaluates nothing at the location, if it is the root, but only below it. -/
def Clears (n : Node) (q : Pointer) : Prop := n.keyword? = none ∨ q ≠ .root

theorem clears_child (n : Node) (q : Pointer) (token : String) : n.Clears (q.child token) :=
  .inr (q.child_ne_root token)

theorem clears_place (n : Node) (q : Pointer) : n.Clears (n.place q) := by
  cases h : n.keyword? with
  | none => exact .inl h
  | some keyword =>
    refine .inr ?_
    rw [place, h]
    exact q.child_ne_root keyword

theorem append_place (n : Node) (r q : Pointer) : n.place (r.append q) = r.append (n.place q) := by
  unfold place
  split
  · exact r.append_child q _
  · rfl

/-! ### Findings -/

theorem faults_under (f : Findings) (r i : Pointer) : (f.under r i).faults = f.faults.map (·.under r i) := by
  unfold Findings.faults Findings.under
  dsimp only
  split <;> rfl

theorem ofEntries_under (es : List Entry) (r i : Pointer) :
    Findings.ofEntries (es.map (·.under r i)) = (Findings.ofEntries es).under r i := by
  cases es <;> rfl

theorem findingsOf_under {e e' : Option Entry} (h : e' = e.map (·.under r i)) :
    findingsOf e' = (findingsOf e).under r i := by
  subst h
  cases e <;> rfl

theorem headed_under (n : Node) (m : Message) (es : List Entry) (r i q j : Pointer) :
    n.headed (r.append q) (i.append j) m (es.map (·.under r i)) = (n.headed q j m es).under r i := by
  cases es <;> rfl

theorem additional_under (n : Node) (m : Message) (f : Findings) (r i q j : Pointer) :
    n.additional (r.append q) (i.append j) m (f.under r i) = (n.additional q j m f).map (·.under r i) := by
  unfold additional Findings.under
  dsimp only
  split <;> rfl

/-- Away from the root, what a `contains` says beside its location moves with it. -/
theorem containsEntry_under (n : Node) (hq : q ≠ .root) (r i j : Pointer) (problem : Option String × Message) :
    n.containsEntry (r.append q) (i.append j) problem = (n.containsEntry q j problem).under r i := by
  obtain ⟨_ | keyword, m⟩ := problem
  · rfl
  · simp only [containsEntry, Entry.under, Pointer.append_sibling hq]

/-- The findings of the node move with the locations. -/
def FindingsMove (n : Node) : Prop :=
  ∀ v r i q j, n.Clears q → n.findings v (r.append q) (i.append j) = (n.findings v q j).map (·.under r i)

theorem FindingsMove.faultsOf (h : n.FindingsMove) (hq : n.Clears q) (v : Value) (r i j : Pointer) :
    n.faultsOf v (r.append q) (i.append j) = (n.faultsOf v q j).map (List.map (·.under r i)) :=
  bind_of_map (h v r i q j hq) fun f => congrArg Except.ok (faults_under f r i)

theorem FindingsMove.additional (h : n.FindingsMove) (hq : n.Clears q) (own : Node) (m : Message) (v : Value)
    (r i j : Pointer) :
    (do return own.additional (r.append q) (i.append j) m (← n.findings v (r.append q) (i.append j)) :
      Except EvalError (List Entry)) =
      (do return own.additional q j m (← n.findings v q j) : Except EvalError (List Entry)).map
        (List.map (·.under r i)) :=
  bind_of_map (h v r i q j hq) fun f => congrArg Except.ok (additional_under own m f r i q j)

theorem findingsIndexed_append {ns : List Node} (h : ∀ n ∈ ns, n.FindingsMove) (k : Nat) :
    findingsIndexed k ns v (r.append q) (i.append j) =
      (findingsIndexed k ns v q j).map (List.map (·.under r i)) := by
  rw [findingsIndexed_eq, findingsIndexed_eq]
  refine collect_map (fun n hn k => ?_) k
  rw [Pointer.append_item]
  exact map_of_map (h n hn v r i _ j (n.clears_child q _)) fun f => rfl

theorem findingsBranch_append {branch : Option Node} (h : ∀ m ∈ branch, m.FindingsMove) (token : String) :
    findingsBranch branch v ((r.append q).child token) (i.append j) =
      (findingsBranch branch v (q.child token) j).map (·.under r i) := by
  cases branch with
  | none => rfl
  | some m =>
    rw [Pointer.append_child]
    exact h m rfl v r i _ j (m.clears_child q token)

theorem countP_under (fs : List Findings) (r i : Pointer) :
    (fs.map (·.under r i)).countP (·.valid) = fs.countP (·.valid) := by
  rw [List.countP_map]
  rfl

theorem flatMap_faults_under (fs : List Findings) (r i : Pointer) :
    (fs.map (·.under r i)).flatMap (·.faults) = (fs.flatMap (·.faults)).map (·.under r i) := by
  rw [List.flatMap_map, List.map_flatMap]
  exact List.flatMap_congr fun f _ => faults_under f r i

theorem findings_append_of_subnodes {n : Node} (h : ∀ c ∈ n.subnodes, c.FindingsMove) : n.FindingsMove := by
  intro v r i q j hq
  cases n, v using cases_applied with
  | passing n v hpass =>
    rw [findings_of_passesOver hpass, findings_of_passesOver hpass]
    rfl
  | constant s allows => cases allows <;> rfl
  | not s child v =>
    have hq : q ≠ .root := hq.resolve_left (by simp [keyword?])
    refine bind_of_map (h child (by simp [subnodes]) v r i q j (.inr hq)) fun f => congrArg Except.ok ?_
    have hvalid : (f.under r i).valid = f.valid := rfl
    rw [hvalid]
    cases f.valid <;> rfl
  | combine s k c ns =>
    refine bind_of_map (findingsIndexed_append h 0) fun fs => ?_
    rw [countP_under, flatMap_faults_under]
    dsimp only
    split <;> rfl
  | group s ns title description dialect v =>
    rw [findings, findings, findingsPlaced_eq 0, findingsPlaced_eq 0]
    refine bind_of_map (collect_map (fun c hc _ => ?_) 0) fun es => congrArg Except.ok (headed_under _ _ es r i q j)
    rw [append_place]
    exact (h c hc).faultsOf (c.clears_place q) v r i j
  | conditional s condition thenBranch elseBranch =>
    refine bind_same fun b => ?_
    cases b with
    | true => exact findingsBranch_append (fun m hm => h m (by simp [subnodes, Option.mem_def.1 hm])) "then"
    | false => exact findingsBranch_append (fun m hm => h m (by simp [subnodes, Option.mem_def.1 hm])) "else"
  | reference s target fragment v =>
    exact h target (by simp [subnodes]) v r i q j (.inr (hq.resolve_left (by simp [keyword?])))
  | delegating s key inner v =>
    exact h inner (by simp [subnodes]) v r i q j (.inr (hq.resolve_left (by simp [keyword?])))
  | bare s => rfl
  | leaf s c =>
    refine bind_same fun m => congrArg Except.ok (findingsOf_under ?_)
    rw [Option.map_map]
    rfl
  | delegatedFormat s name checker ns =>
    refine bind_same fun b => bind_same fun m => congrArg Except.ok (findingsOf_under ?_)
    rw [Option.map_map]
    rfl
  | properties s entries ms =>
    rw [findings, findings, findingsEntries_eq 0, findingsEntries_eq 0]
    refine map_of_map (collect_map (fun e he _ => ?_) 0) fun es => ofEntries_under es r i
    rw [Pointer.append_key, Pointer.append_key]
    cases lookupKey e.1 ms with
    | none => rfl
    | some w => exact (h e.2 (List.mem_map_of_mem he)).faultsOf (e.2.clears_child q _) w r i _
  | patternProperties s entries ms =>
    rw [findings, findings, findingsMatches_eq 0, findingsMatches_eq 0]
    refine map_of_map (collect_map (fun e he _ => collect_map (fun m _ _ => ?_) 0) 0) fun es => ofEntries_under es r i
    rw [Pointer.append_child, Pointer.append_key]
    exact if_map ((h e.2 (List.mem_map_of_mem he)).faultsOf (e.2.clears_child q _) m.2 r i _)
  | additionalProperties s schema names patterns ms =>
    have hq : q ≠ .root := hq.resolve_left (by simp [keyword?])
    refine map_of_map (collect_map (fun m _ _ => ?_) 0) fun es => ofEntries_under es r i
    dsimp only
    rw [Pointer.append_key]
    exact if_map ((h schema (by simp [subnodes])).additional (.inr hq) _ _ m.2 r i _)
  | propertyNames s schema ms =>
    have hq : q ≠ .root := hq.resolve_left (by simp [keyword?])
    refine map_of_map (collect_map (fun m _ _ => ?_) 0) fun es => ofEntries_under es r i
    rw [Pointer.append_key]
    exact (h schema (by simp [subnodes])).faultsOf (.inr hq) (.scalar m.1) r i _
  | required s names ms =>
    refine map_of_map (collect_map (fun name _ k => ?_) 0) fun es => ofEntries_under es r i
    rw [Pointer.append_item]
    split <;> rfl
  | items s schema vs =>
    have hq : q ≠ .root := hq.resolve_left (by simp [keyword?])
    refine map_of_map (collect_map (fun w _ k => ?_) 0) fun es => ofEntries_under es r i
    rw [Pointer.append_item]
    exact (h schema (by simp [subnodes])).faultsOf (.inr hq) w r i _
  | itemsTuple s schemas vs =>
    rw [findings, findings, findingsTuple_eq, findingsTuple_eq]
    refine map_of_map (collect_map (fun p hp k => ?_) 0) fun es => ofEntries_under es r i
    rw [Pointer.append_item, Pointer.append_item]
    exact (h p.1 (List.of_mem_zip hp).1).faultsOf (p.1.clears_child q _) p.2 r i _
  | additionalItems s schema size applies vs =>
    have hq : q ≠ .root := hq.resolve_left (by simp [keyword?])
    refine map_of_map (collect_map (fun w _ k => ?_) size) fun es => ofEntries_under es r i
    dsimp only
    rw [Pointer.append_item]
    exact (h schema (by simp [subnodes])).additional (.inr hq) _ _ w r i _
  | contains s schema minimum maximum vs =>
    have hq : q ≠ .root := hq.resolve_left (by simp [keyword?])
    refine bind_same fun count => bind_same fun problem => congrArg Except.ok (findingsOf_under ?_)
    rw [Option.map_map]
    exact Option.map_congr fun problem _ => containsEntry_under _ hq r i j problem

/-- What a node finds moves with the locations, unless it stands for a keyword and is at the root. -/
theorem findings_append (n : Node) : n.FindingsMove := n.induction fun _ => findings_append_of_subnodes

/-! ### Outcomes -/

theorem told_under (n : Node) (valid : Bool) (m : Message) (es as : List Outcome) (r i q j : Pointer) :
    n.told valid (r.append q) (i.append j) m (es.map (·.under r i)) (as.map (·.under r i)) =
      (n.told valid q j m es as).under r i := by
  rw [told, told, Outcome.under, Outcome.eachUnder_eq_map, Outcome.eachUnder_eq_map]

theorem collapse_under (n : Node) (es : List Outcome) (passed failed : Message) (r i q j : Pointer) :
    n.collapse (r.append q) (i.append j) (es.map (·.under r i)) passed failed =
      (n.collapse q j es passed failed).under r i := by
  match es with
  | [] => exact n.told_under true passed [] [] r i q j
  | [error] => rfl
  | error :: error' :: es => exact n.told_under false failed (error :: error' :: es) [] r i q j

theorem wrapped_under (n : Node) (m : Message) (o : Outcome) (r i q j : Pointer) :
    n.wrapped (r.append q) (i.append j) m (o.under r i) = (n.wrapped q j m o).map (·.under r i) := by
  unfold wrapped
  rw [Outcome.valid_under]
  split
  · rfl
  · exact congrArg ([·]) (n.told_under false m [o] [] r i q j)

theorem failing_under (o : Outcome) (r i : Pointer) : failing (o.under r i) = (failing o).map (·.under r i) := by
  unfold failing
  rw [Outcome.valid_under]
  split <;> rfl

theorem judged_under (n : Node) (m : Option Message) (r i q j : Pointer) :
    n.judged (r.append q) (i.append j) m = (n.judged q j m).under r i := by
  cases m with
  | none => exact n.told_under true .success [] [] r i q j
  | some m => exact n.told_under false m [] [] r i q j

/-- The outcome of a conditional whose branch, if it has one, has an outcome. -/
def branched (n : Node) (q j : Pointer) (tested : Outcome) : Option Outcome → Outcome
  | none => n.told true q j (.condition tested.valid) [] [tested]
  | some o =>
    if o.valid then n.told true q j (.condition tested.valid) [] [tested, o]
    else n.told false q j .subschemaErrors [o] [tested]

theorem outcome_conditional (s : Site) (condition : Node) (thenBranch elseBranch : Option Node) (v : Value)
    (q j : Pointer) :
    (conditional s condition thenBranch elseBranch).outcome v q j =
      condition.outcome v (q.child "if") j >>= fun tested =>
        (if tested.valid then outcomeBranch thenBranch v (q.child "then") j
          else outcomeBranch elseBranch v (q.child "else") j) >>= fun branch =>
            .ok ((conditional s condition thenBranch elseBranch).branched q j tested branch) := by
  rw [outcome]
  refine bind_congr fun tested => ?_
  dsimp only
  split
  · exact bind_congr fun branch => by cases branch <;> rfl
  · exact bind_congr fun branch => by cases branch <;> rfl

theorem branched_under (n : Node) (tested : Outcome) (branch : Option Outcome) (r i q j : Pointer) :
    n.branched (r.append q) (i.append j) (tested.under r i) (branch.map (·.under r i)) =
      (n.branched q j tested branch).under r i := by
  cases branch with
  | none => simpa [branched] using n.told_under true (.condition tested.valid) [] [tested] r i q j
  | some o =>
    simp only [branched, Option.map, Outcome.valid_under]
    split
    · exact n.told_under true _ [] [tested, o] r i q j
    · exact n.told_under false _ [o] [tested] r i q j

/-- The outcome of the node moves with the locations. -/
def OutcomeMoves (n : Node) : Prop :=
  ∀ v r i q j, n.outcome v (r.append q) (i.append j) = (n.outcome v q j).map (·.under r i)

theorem OutcomeMoves.failureOf (h : n.OutcomeMoves) (v : Value) (r i q j : Pointer) :
    n.failureOf v (r.append q) (i.append j) = (n.failureOf v q j).map (List.map (·.under r i)) :=
  bind_of_map (h v r i q j) fun o => congrArg Except.ok (failing_under o r i)

theorem OutcomeMoves.wrapped (h : n.OutcomeMoves) (own : Node) (m : Message) (v : Value) (r i q j : Pointer) :
    (do return own.wrapped (r.append q) (i.append j) m (← n.outcome v (r.append q) (i.append j)) :
      Except EvalError (List Outcome)) =
      (do return own.wrapped q j m (← n.outcome v q j) : Except EvalError (List Outcome)).map
        (List.map (·.under r i)) :=
  bind_of_map (h v r i q j) fun o => congrArg Except.ok (wrapped_under own m o r i q j)

theorem outcomesIndexed_append {ns : List Node} (h : ∀ n ∈ ns, n.OutcomeMoves) (k : Nat) :
    outcomesIndexed k ns v (r.append q) (i.append j) =
      (outcomesIndexed k ns v q j).map (List.map (·.under r i)) := by
  rw [outcomesIndexed_eq, outcomesIndexed_eq]
  refine collect_map (fun n hn k => ?_) k
  rw [Pointer.append_item]
  exact map_of_map (h n hn v r i _ j) fun o => rfl

theorem outcomeBranch_append {branch : Option Node} (h : ∀ m ∈ branch, m.OutcomeMoves) (token : String) :
    outcomeBranch branch v ((r.append q).child token) (i.append j) =
      (outcomeBranch branch v (q.child token) j).map (Option.map (·.under r i)) := by
  cases branch with
  | none => rfl
  | some m =>
    rw [Pointer.append_child]
    exact map_of_map (h m rfl v r i _ j) fun o => rfl

theorem partition_under (os : List Outcome) (r i : Pointer) :
    (os.map (·.under r i)).partition (·.valid) =
      ((os.partition (·.valid)).1.map (·.under r i), (os.partition (·.valid)).2.map (·.under r i)) := by
  have hvalid : (fun o : Outcome => o.valid) ∘ Outcome.under r i = fun o => o.valid :=
    funext fun o => Outcome.valid_under r i o
  simp only [List.partition_eq_filter_filter, List.filter_map, Function.comp_assoc, hvalid]

theorem outcome_append_of_subnodes {n : Node} (h : ∀ c ∈ n.subnodes, c.OutcomeMoves) : n.OutcomeMoves := by
  intro v r i q j
  cases n, v using cases_applied with
  | passing n v hpass =>
    obtain ⟨m, hm⟩ := outcome_of_passesOver hpass
    rw [hm, hm]
    exact congrArg Except.ok (told_under n true m [] [] r i q j)
  | constant s allows => exact congrArg Except.ok (told_under _ allows _ [] [] r i q j)
  | not s child v =>
    refine bind_of_map (h child (by simp [subnodes]) v r i q j) fun o => congrArg Except.ok ?_
    rw [Outcome.valid_under]
    cases o.valid with
    | true => exact told_under _ false _ [] [o] r i q j
    | false => exact told_under _ true _ [o] [] r i q j
  | combine s k c ns =>
    refine bind_of_map (outcomesIndexed_append h 0) fun os => ?_
    rw [partition_under]
    dsimp only
    rw [List.length_map]
    exact congrArg Except.ok (told_under _ _ _ _ _ r i q j)
  | group s ns title description dialect v =>
    rw [outcome, outcome, failuresPlaced_eq 0, failuresPlaced_eq 0]
    refine bind_of_map (collect_map (fun c hc _ => ?_) 0) fun os =>
      congrArg Except.ok (collapse_under _ os _ _ r i q j)
    rw [append_place]
    exact (h c hc).failureOf v r i _ j
  | conditional s condition thenBranch elseBranch v =>
    have hcondition := h condition (by simp [subnodes]) v r i (q.child "if") j
    rw [← Pointer.append_child] at hcondition
    rw [outcome_conditional, outcome_conditional]
    refine bind_of_map hcondition fun tested => ?_
    rw [Outcome.valid_under]
    have hbranched (branch : Option Outcome) :=
      congrArg (Except.ok : Outcome → Except EvalError Outcome)
        (branched_under (.conditional s condition thenBranch elseBranch) tested branch r i q j)
    split
    · refine bind_of_map (outcomeBranch_append (fun m hm => ?_) "then") hbranched
      exact h m (by simp [subnodes, Option.mem_def.1 hm])
    · refine bind_of_map (outcomeBranch_append (fun m hm => ?_) "else") hbranched
      exact h m (by simp [subnodes, Option.mem_def.1 hm])
  | reference s target fragment v =>
    refine bind_of_map (h target (by simp [subnodes]) v r i q j) fun o => congrArg Except.ok ?_
    rw [Outcome.valid_under, failing_under]
    exact told_under _ o.valid _ (failing o) [] r i q j
  | delegating s key inner v => exact h inner (by simp [subnodes]) v r i q j
  | bare s => rfl
  | leaf s c => exact bind_same fun m => congrArg Except.ok (judged_under _ m r i q j)
  | delegatedFormat s name checker ns =>
    exact bind_same fun b => bind_same fun m => congrArg Except.ok (judged_under _ m r i q j)
  | properties s entries ms =>
    rw [outcome, outcome, failuresEntries_eq 0, failuresEntries_eq 0]
    refine bind_of_map (collect_map (fun e he _ => ?_) 0) fun os =>
      congrArg Except.ok (collapse_under _ os _ _ r i q j)
    rw [Pointer.append_key, Pointer.append_key]
    cases lookupKey e.1 ms with
    | none => rfl
    | some w => exact (h e.2 (List.mem_map_of_mem he)).failureOf w r i _ _
  | patternProperties s entries ms =>
    rw [outcome, outcome, failuresMatches_eq 0, failuresMatches_eq 0]
    refine bind_of_map (collect_map (fun e he _ => collect_map (fun m _ _ => ?_) 0) 0) fun os =>
      congrArg Except.ok (collapse_under _ os _ _ r i q j)
    rw [Pointer.append_child, Pointer.append_key]
    exact if_map ((h e.2 (List.mem_map_of_mem he)).failureOf m.2 r i _ _)
  | additionalProperties s schema names patterns ms =>
    refine bind_of_map (collect_map (fun m _ _ => ?_) 0) fun os =>
      congrArg Except.ok (collapse_under _ os _ _ r i q j)
    dsimp only
    rw [Pointer.append_key]
    exact if_map ((h schema (by simp [subnodes])).wrapped _ _ m.2 r i q _)
  | propertyNames s schema ms =>
    refine bind_of_map (collect_map (fun m _ _ => ?_) 0) fun os =>
      congrArg Except.ok (collapse_under _ os _ _ r i q j)
    rw [Pointer.append_key]
    exact (h schema (by simp [subnodes])).failureOf (.scalar m.1) r i q _
  | required s names ms =>
    refine bind_of_map (collect_map (fun name _ k => ?_) 0) fun os =>
      congrArg Except.ok (collapse_under _ os _ _ r i q j)
    rw [Pointer.append_item]
    split
    · rfl
    · exact congrArg (fun o => Except.ok [o]) (told_under _ false _ [] [] r i _ j)
  | items s schema vs =>
    refine bind_of_map (collect_map (fun w _ k => ?_) 0) fun os =>
      congrArg Except.ok (collapse_under _ os _ _ r i q j)
    rw [Pointer.append_item]
    exact (h schema (by simp [subnodes])).failureOf w r i q _
  | itemsTuple s schemas vs =>
    rw [outcome, outcome, failuresTuple_eq, failuresTuple_eq]
    refine bind_of_map (collect_map (fun p hp k => ?_) 0) fun os =>
      congrArg Except.ok (collapse_under _ os _ _ r i q j)
    rw [Pointer.append_item, Pointer.append_item]
    exact (h p.1 (List.of_mem_zip hp).1).failureOf p.2 r i _ _
  | additionalItems s schema size applies vs =>
    refine bind_of_map (collect_map (fun w _ k => ?_) size) fun os =>
      congrArg Except.ok (collapse_under _ os _ _ r i q j)
    dsimp only
    rw [Pointer.append_item]
    exact (h schema (by simp [subnodes])).wrapped _ _ w r i q _
  | contains s schema minimum maximum vs =>
    exact bind_same fun count => bind_same fun problem => congrArg Except.ok (judged_under _ _ r i q j)

/-- The outcome of a node moves with the locations. -/
theorem outcome_append (n : Node) : n.OutcomeMoves := n.induction fun _ => outcome_append_of_subnodes

/-! ### Schemas -/

/-- What a node that stands for no keyword, such as a group or a constant, reports about a value at `i` from `r` on is
what it reports on its own, with `r` in front of every location in the schema and `i` in front of every location in the
value; it fails to have a result for the same reason.  Through a reference it reports the same. -/
theorem relocates (n : Node) (h : n.keyword? = none) (v : Value) (r i : Pointer) :
    n.findings v r i = (n.findings v .root .root).map (·.under r i) ∧
      n.outcome v r i = (n.outcome v .root .root).map (·.under r i) ∧
      ∀ site fragment, let reference := Node.reference site n fragment
        reference.findings v r i = (n.findings v .root .root).map (·.under r i) ∧
          reference.outcome v r i = (n.outcome v .root .root).map fun o =>
            reference.told o.valid r i (.reference o.valid) (failing (o.under r i)) [] := by
  have hfindings := findings_append n v r i .root .root (.inl h)
  have houtcome := outcome_append n v r i .root .root
  rw [Pointer.append_root, Pointer.append_root] at hfindings houtcome
  refine ⟨hfindings, houtcome, fun site fragment => ⟨hfindings, ?_⟩⟩
  rw [outcome, houtcome]
  cases n.outcome v .root .root with
  | error e => rfl
  | ok o =>
    refine congrArg Except.ok ?_
    rw [Outcome.valid_under]

/-- A `contains` that wants two items finds one, behind the reference under the member `a` of an item: the entry of the
group comes first, and then that of the `minContains` beside the `contains`. -/
theorem relocates_minContains :
    let n : Node := .group {} [.contains {} (.constant {} true) (some 2) none] none none none
    let r : Pointer := ⟨["properties", "a", "$ref"]⟩
    let i : Pointer := ⟨["0", "a"]⟩
    let v : Value := .arr [.scalar .null]
    n.keyword? = none ∧
      (n.findings v r i).toOption.map (·.entries.map fun e => (e.keyword.tokens, e.location.tokens)) =
        some [(["properties", "a", "$ref"], ["0", "a"]), (["properties", "a", "$ref", "minContains"], ["0", "a"])] ∧
      n.findings v r i = (n.findings v .root .root).map (·.under r i) ∧
      n.outcome v r i = (n.outcome v .root .root).map (·.under r i) := by
  intro n r i v
  obtain ⟨hfindings, houtcome, -⟩ := relocates n rfl v r i
  exact ⟨rfl, rfl, hfindings, houtcome⟩

/-- At the root a `contains` of its own speaks of a `minContains` below it, and elsewhere of one beside it. -/
example :
    let n : Node := .contains {} (.constant {} true) (some 2) none
    let keywords (r : Pointer) :=
      (n.findings (.arr [.scalar .null]) r .root).toOption.map (·.entries.map (·.keyword.tokens))
    keywords .root = some [["minContains"]] ∧ keywords ⟨["contains"]⟩ = some [["minContains"]] :=
  ⟨rfl, rfl⟩

end Node

end Conform
