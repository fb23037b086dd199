/-
Tables of a property of characters: the code points at which it changes, in
ascending order, alone or each with the value from there on.
-/

namespace MediaVault.Text

/-- How many of the numbers below `size` fulfil a condition that none fulfils after one that does
not, by halving the range in which the last of them can be. -/
def countBelow (p : Nat → Bool) (size : Nat) : Nat :=
  search (size.log2 + 1) 0 size
where
  /-- The count, known to be from `low` to `high`. -/
  search : (steps low high : Nat) → Nat
    | 0, low, _ => low
    | steps + 1, low, high =>
      let middle := (low + high) / 2
      if high ≤ low then low
      else if p middle then search steps (middle + 1) high
      else search steps low middle

/-- The number of changes at or below a code point. -/
def countUpTo (changes : Array Nat) (n : Nat) : Nat :=
  countBelow (fun i => changes.getD i 0 ≤ n) changes.size

/-- The value at a code point, which is zero before the first run. -/
def valueAt (runs : Array (Nat × Nat)) (n : Nat) : Nat :=
  match countBelow (fun i => (runs.getD i (0, 0)).1 ≤ n) runs.size with
  | 0 => 0
  | i + 1 => (runs.getD i (0, 0)).2

end MediaVault.Text
