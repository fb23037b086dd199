/-
Whole numbers written in decimal: a sign, if any, and at least one digit, and
nothing else. Leading zeros do not matter, and a number beyond its bound is
not read at all.
-/

namespace MediaVault.Text

/-- The value of a run of decimal digits, which must not be empty. -/
def digits? (cs : List Char) : Option Nat :=
  if cs ≠ [] ∧ cs.all Char.isDigit then some (cs.foldl (fun n c => n * 10 + (c.toNat - 48)) 0)
  else none

/-- A number that is not negative and at most `bound`, with an optional plus sign. -/
def natural? (bound : Nat) (s : String) : Option Nat :=
  let value := match s.toList with
    | '+' :: cs => digits? cs
    | cs => digits? cs
  value.filter (· ≤ bound)

/-- A number from zero to `bound` read with a sign of either kind, so that minus zero is zero. -/
def signedNatural? (bound : Nat) (s : String) : Option Nat :=
  match s.toList with
  | '-' :: cs => (digits? cs).filter (· = 0)
  | _ => natural? bound s

/-- The greatest number of 32 bits. -/
def maxWord32 : Nat := 0xffffffff

/-- The greatest number of 64 bits. -/
def maxWord64 : Nat := 0xffffffffffffffff

end MediaVault.Text
