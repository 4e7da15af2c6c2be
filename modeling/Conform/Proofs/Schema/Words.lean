import Conform.Proofs.Result
import Conform.Schema.Acceptance

/-!
# Refusals in words

A message is written unless a number in it has too many digits, and nothing is told before it is written.  So what a
value is told is what there was to say, all of which can be written.
-/

namespace Conform

theorem Message.written_eq_ok {m told : Option Message} :
    written m = .ok told ↔ m = told ∧ ∀ message ∈ told, message.isWritable = true := by
  cases m with
  | none => exact ⟨fun h => by cases h; exact ⟨rfl, nofun⟩, fun h => by rw [← h.1]; rfl⟩
  | some message =>
    rw [written]
    split
    · rename_i hwritable
      exact ⟨fun h => by cases h; exact ⟨rfl, by simpa using hwritable⟩, fun h => by rw [← h.1]⟩
    · rename_i hlong
      exact ⟨nofun, fun h => (hlong (h.2 message h.1.symm)).elim⟩

theorem Constraint.failure?_eq_ok {c : Constraint} {v : Value} {told : Option Message} :
    c.failure? v = .ok told ↔ c.refusal? v = .ok told ∧ ∀ message ∈ told, message.isWritable = true := by
  refine bind_eq_ok.trans ⟨?_, fun ⟨h, hwritable⟩ => ⟨told, h, Message.written_eq_ok.2 ⟨rfl, hwritable⟩⟩⟩
  rintro ⟨m, hm, htold⟩
  obtain ⟨rfl, hwritable⟩ := Message.written_eq_ok.1 htold
  exact ⟨hm, hwritable⟩

theorem toldProblem?_eq_ok {minimum maximum : Option Int} {count : Nat} {told : Option (Option String × Message)} :
    toldProblem? minimum maximum count = .ok told ↔
      containsProblem? minimum maximum count = told ∧ ∀ problem ∈ told, problem.2.isWritable = true := by
  rw [toldProblem?, map_eq_ok]
  constructor
  · rintro ⟨m, hm, rfl⟩
    obtain ⟨rfl, hwritable⟩ := Message.written_eq_ok.1 hm
    exact ⟨rfl, fun problem hproblem => hwritable _ (Option.mem_map_of_mem _ hproblem)⟩
  · rintro ⟨rfl, hwritable⟩
    refine ⟨_, Message.written_eq_ok.2 ⟨rfl, fun message hmessage => ?_⟩, rfl⟩
    obtain ⟨problem, hproblem, rfl⟩ := Option.map_eq_some_iff.1 hmessage
    exact hwritable problem hproblem

end Conform
