/-
Text of any script written with the letters, digits and dashes of ASCII. What
is ASCII stands first, before a dash; the other characters follow as the steps
in which they are put in, the smaller code points first. A step counts the
places passed over since the one before it, where every code point has as many
places as the text so far leaves for it.
-/
import MediaVault.Text.Decimal

namespace MediaVault.Punycode

/-! ## Digits -/

/-- The number of digits. -/
def base : Nat := 36

/-- A digit: a letter, then the decimal digits. -/
def digit (n : Nat) : Char := Char.ofNat (if n < 26 then 97 + n else 22 + n)

/-- The value of a digit. -/
def value? (c : Char) : Option Nat :=
  if 'a' ≤ c ∧ c ≤ 'z' then some (c.toNat - 97)
  else if '0' ≤ c ∧ c ≤ '9' then some (c.toNat - 22)
  else none

/-- The values below which a digit is the last of its number, for a place that is a multiple of the
base. -/
def threshold (place bias : Nat) : Nat := min 26 (max 1 (place - bias))

/-- The digits of a number from a place on, the least first. -/
def digits (bias place n : Nat) : List Char :=
  let t := threshold place bias
  if n < t then [digit n]
  else digit (t + (n - t) % (base - t)) :: digits bias (place + base) ((n - t) / (base - t))
termination_by n
decreasing_by
  have : 1 ≤ threshold place bias := by unfold threshold; omega
  exact Nat.lt_of_le_of_lt (Nat.div_le_self _ _) (by omega)

/-- The number that begins a text, added to `n`, and what follows it. No part of it may pass 32
bits. -/
def number? (bias : Nat) : (place weight n : Nat) → List Char → Option (Nat × List Char)
  | _, _, _, [] => none
  | place, weight, n, c :: rest => do
    let d ← value? c
    let n := n + d * weight
    let t := threshold place bias
    if Text.maxWord32 < n then none
    else if d < t then return (n, rest)
    else if Text.maxWord32 < weight * (base - t) then none
    else number? bias (place + base) (weight * (base - t)) n rest

theorem length_lt_of_number? {bias place weight n m : Nat} {cs rest : List Char}
    (h : number? bias place weight n cs = some (m, rest)) : rest.length < cs.length := by
  induction cs generalizing place weight n with
  | nil => simp [number?] at h
  | cons c cs ih =>
    simp only [number?, Option.bind_eq_bind, Option.bind_eq_some_iff] at h
    obtain ⟨d, _, h⟩ := h
    split at h
    · simp at h
    · split at h
      · simp only [pure, Option.some.injEq, Prod.mk.injEq] at h
        simp [← h.2]
      · split at h
        · simp at h
        · have := ih h
          simp only [List.length_cons]
          omega

/-! ## Bias -/

/-- The bias for steps of a size that has been brought down to the digits it is about. -/
def biasOf (skipped size : Nat) : Nat :=
  if 455 < size then biasOf (skipped + base) (size / 35)
  else skipped + base * size / (size + 38)
termination_by size
decreasing_by omega

/-- The bias after a step, by its size and the length of the text with what it put in. The first
step is larger than those after it. -/
def adapt (first : Bool) (step length : Nat) : Nat :=
  let size := step / (if first then 700 else 2)
  biasOf 0 (size + size / length)

/-- The bias before the first step. -/
def firstBias : Nat := 72

/-- The first code point that is no ASCII. -/
def firstCode : Nat := 0x80

/-! ## Writing -/

/-- Whether a character stands for itself. -/
def isBasic (c : Char) : Bool := c.toNat < firstCode

/-- The characters to be put in, by code point and then by place, each with its place among those
that are there before it. -/
def insertions (cs : List Char) : List (Nat × Nat) :=
  let put := cs.zipIdx.filterMap fun (c, i) =>
    if isBasic c then none else some (c.toNat, (cs.take i).countP (·.toNat ≤ c.toNat))
  put.mergeSort fun a b => a.1 ≤ b.1

/-- What is known between two steps: the code point and the place reached, the length of the text and
the bias. -/
structure Reached where
  code : Nat
  place : Nat
  length : Nat
  bias : Nat

namespace Reached

/-- Before the first step. -/
def start (basic : Nat) : Reached := ⟨firstCode, 0, basic, firstBias⟩

/-- After a step of a size, which puts in a code point at a place. -/
def after (r : Reached) (first : Bool) (step code place : Nat) : Reached :=
  ⟨code, place + 1, r.length + 1, adapt first step (r.length + 1)⟩

/-- The digits of the steps that put characters in. -/
def write (r : Reached) (first : Bool) : List (Nat × Nat) → List Char
  | [] => []
  | (code, place) :: rest =>
    let step := (code - r.code) * (r.length + 1) + place - r.place
    digits r.bias base step ++ (r.after first step code place).write false rest

/-- The text that steps lead to. -/
def read? (r : Reached) (first : Bool) (text : List Char) (cs : List Char) : Option (List Char) :=
  if cs = [] then some text
  else
    match h : number? r.bias base 1 r.place cs with
    | none => none
    | some (n, rest) =>
      have := length_lt_of_number? h
      let code := r.code + n / (r.length + 1)
      let place := n % (r.length + 1)
      if code.isValidChar then
        (r.after first (n - r.place) code place).read? false
          (text.insertIdx place (Char.ofNat code)) rest
      else none
termination_by cs.length

end Reached

/-- The written form of a text. -/
def encode (cs : List Char) : List Char :=
  let basic := cs.filter isBasic
  basic ++ (if basic = [] then [] else ['-'])
    ++ (Reached.start basic.length).write true (insertions cs)

/-- The text of a written form. -/
def decode? (cs : List Char) : Option (List Char) :=
  let tail := (cs.reverse.takeWhile (· ≠ '-')).reverse
  let basic := cs.take (cs.length - tail.length - 1)
  let steps := if basic = [] then cs else tail
  if basic.all isBasic then (Reached.start basic.length).read? true basic steps else none

end MediaVault.Punycode
