/-!
# Punycode

The encoding of a label by ASCII characters: first its ASCII characters, then, behind a hyphen, digits that tell
which other characters belong where.  The others are taken in the order of their numbers; each is coded as a
difference in base 36 with digit thresholds that adapt to the differences before.
-/

namespace Conform.Network.Punycode

/-- The digit of a value below 36. -/
def digit (d : Nat) : Char := Char.ofNat (if d < 26 then 97 + d else 22 + d)

/-- The threshold of the digit at place `k`. -/
def threshold (k bias : Nat) : Nat := if k ≤ bias then 1 else if bias + 26 ≤ k then 26 else k - bias

theorem threshold_pos (k bias : Nat) : 0 < threshold k bias := by
  unfold threshold
  split
  · omega
  · split <;> omega

/-- The digits of a difference, from the place `k` on. -/
def digits (bias k q : Nat) : List Char :=
  let t := threshold k bias
  if _h : q < t then [digit q]
  else digit (t + (q - t) % (36 - t)) :: digits bias (k + 36) ((q - t) / (36 - t))
termination_by q
decreasing_by
  have h₁ := threshold_pos k bias
  have h₂ : (q - threshold k bias) / (36 - threshold k bias) ≤ q - threshold k bias := Nat.div_le_self _ _
  omega

/-- The last step of the adaptation: the difference brought into range, with its place. -/
def settle (k delta : Nat) : Nat :=
  if _h : delta ≤ 455 then k + 36 * delta / (delta + 38) else settle (k + 36) (delta / 35)
termination_by delta
decreasing_by exact Nat.div_lt_self (by omega) (by omega)

/-- The bias after a difference, when `count` characters have been placed. -/
def adapt (delta count : Nat) (first : Bool) : Nat :=
  let delta := if first then delta / 700 else delta / 2
  settle 0 (delta + delta / count)

/-- How far the encoder is. -/
structure State where
  delta : Nat
  bias : Nat
  placed : Nat
  first : Bool
  output : List Char

/-- One character of the label, while those with number `n` are being placed. -/
def place (n : Nat) (s : State) (c : Char) : State :=
  if c.toNat < n then { s with delta := s.delta + 1 }
  else if c.toNat == n then
    { delta := 0, bias := adapt s.delta (s.placed + 1) s.first, placed := s.placed + 1, first := false
      output := s.output ++ digits s.bias 36 s.delta }
  else s

/-- Place the characters with each of the numbers in turn; `from` is the least number not yet passed. -/
def placeAll (label : List Char) : Nat → State → List Nat → State
  | _, s, [] => s
  | start, s, n :: ns =>
    let s := { s with delta := s.delta + (n - start) * (s.placed + 1) }
    let s := label.foldl (place n) s
    placeAll label (n + 1) { s with delta := s.delta + 1 } ns

/-- The numbers of the characters beyond ASCII, in order and each once. -/
def extended (label : List Char) : List Nat :=
  (((label.map Char.toNat).filter (128 ≤ ·)).mergeSort (· ≤ ·)).eraseDups

/-- The Punycode of a label that is not all ASCII. -/
def encode (label : List Char) : List Char :=
  let basic := label.filter (·.toNat < 128)
  let start : State := ⟨0, 72, basic.length, true, []⟩
  let s := placeAll label 128 start (extended label)
  (if basic.isEmpty then [] else basic ++ ['-']) ++ s.output

end Conform.Network.Punycode
