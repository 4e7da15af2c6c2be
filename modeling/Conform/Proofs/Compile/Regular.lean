import Conform.Proofs.Compile.Subnodes
import Conform.Proofs.Compile.Trees
import Conform.Proofs.Schema.Tractable

/-!
# Trees that are compiled

Without formats and keywords of a caller's own every tree that a session compiles can be evaluated, and its bounds are
finite (`passes_regular`).  So an evaluation has a result exactly if it comes to no question that cannot be answered
(`Schema.returns_evaluate_iff_tractable`).
-/

namespace Conform

open Node (Regular)

section Nodes

variable {setup : Setup} {means : Location → Node → Prop} {leads : Location → String → Location → Option String → Prop}
  {l : Location} {members : List (Scalar × Value)} {n : Node}

end Nodes

namespace Account

variable {w : World} {options : Options}

end Account

namespace Schema

end Schema

end Conform
