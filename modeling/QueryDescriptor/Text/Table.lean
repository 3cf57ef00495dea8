namespace QueryDescriptor

abbrev CharRanges := List (Nat × Nat)

def CharRanges.has (ranges : CharRanges) (c : Char) : Bool :=
  ranges.any fun r => r.1 ≤ c.toNat && c.toNat ≤ r.2

/-- A run of code points, `step` apart, that are moved by the same distance. -/
structure CharRun where
  first : Nat
  last : Nat
  step : Nat
  shift : Int

def CharRun.image? (r : CharRun) (n : Nat) : Option Nat :=
  if r.first ≤ n ∧ n ≤ r.last ∧ (n - r.first) % r.step = 0 then some (n + r.shift).toNat else none

end QueryDescriptor
