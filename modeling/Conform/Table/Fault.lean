/-!
# Faults of tables

Why a text is no table, or lists of values are not the columns of one.
-/

namespace Conform

/-- What is wrong with a table. -/
inductive TableFault where
  /-- A text without a line. -/
  | empty
  /-- A quoted field without an end. -/
  | openQuote
  /-- A line with more fields than a line may have. -/
  | longLine (width fields : Nat)
  /-- Columns of different lengths. -/
  | unevenColumns
  /-- An index that is not as long as the columns. -/
  | unevenIndex (values index : Nat)
  /-- A text that tells no point in time. -/
  | notInstant (text : String)
  deriving DecidableEq, Repr

/-- The words for what is wrong with a table. -/
def TableFault.message : TableFault → String
  | .empty => "No columns to parse from file"
  | .openQuote => "EOF inside string"
  | .longLine width fields => "Expected " ++ toString width ++ " fields, saw " ++ toString fields
  | .unevenColumns => "All arrays must be of the same length"
  | .unevenIndex values index =>
    "Length of values (" ++ toString values ++ ") does not match length of index (" ++ toString index ++ ")"
  | .notInstant text => "Unknown datetime string format: " ++ text

end Conform
