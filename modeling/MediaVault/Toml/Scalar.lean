/-
Values in TOML that are written in one word: booleans, numbers, dates and
times. Underscores may stand between digits. Of fractions, dates and times
only the form is looked at, and that a fraction is not too great to have a
finite value.
-/
import MediaVault.Toml.Item
import MediaVault.Toml.Text

namespace MediaVault.Toml

/-! ## Digits -/

/-- The digits of a run in which single underscores may stand between digits. -/
def digitRun? (isDigit : Char → Bool) : List Char → Option (List Char)
  | [] => none
  | [c] => if isDigit c then some [c] else none
  | c :: '_' :: rest => if isDigit c then (digitRun? isDigit rest).map (c :: ·) else none
  | c :: rest => if isDigit c then (digitRun? isDigit rest).map (c :: ·) else none

/-- The number that digits of a base write. -/
def numberOf (base : Nat) (digits : List Char) : Nat :=
  digits.foldl (fun n c => n * base + (hexValue? c).getD 0) 0

/-- The digits of a whole number, which do not begin with a zero unless it is the only one. -/
def wholeDigits? (cs : List Char) : Option (List Char) :=
  (digitRun? Char.isDigit cs).filter fun digits => digits.head? ≠ some '0' || cs.length = 1

/-- The sign of a number and what follows it. -/
def splitSign : List Char → Bool × List Char
  | '-' :: rest => (true, rest)
  | '+' :: rest => (false, rest)
  | cs => (false, cs)

/-! ## Numbers -/

/-- Whether a number fits into 64 bits with a sign. -/
def fits (n : Int) : Bool := -0x8000000000000000 ≤ n && n < 0x8000000000000000

/-- A whole number in decimal with an optional sign, or in another base after its mark. -/
def integer? (cs : List Char) : Option Int :=
  let marked (base : Nat) (isDigit : Char → Bool) (rest : List Char) : Option Int :=
    ((digitRun? isDigit rest).map fun digits => (numberOf base digits : Int)).filter fits
  match cs with
  | '0' :: 'x' :: rest => marked 16 (fun c => (hexValue? c).isSome) rest
  | '0' :: 'o' :: rest => marked 8 (fun c => '0' ≤ c && c ≤ '7') rest
  | '0' :: 'b' :: rest => marked 2 (fun c => c = '0' || c = '1') rest
  | cs =>
    let (negative, rest) := splitSign cs
    ((wholeDigits? rest).map fun digits =>
      let n : Int := numberOf 10 digits
      if negative then -n else n).filter fits

/-- The least number without a finite value of double precision near to it: the middle between the
greatest such value and the next power of two. -/
def infinite : Nat := Nat.pow 2 1024 - Nat.pow 2 970

/-- Whether `digits · 10 ^ power` is too great for a finite value. -/
def overflows (digits : Nat) (power : Int) : Bool :=
  let width := (toString digits).length
  if digits = 0 then false
  else if 400 < (width : Int) + power then true
  else if (width : Int) + power < 300 then false
  else if 0 ≤ power then infinite ≤ digits * Nat.pow 10 power.toNat
  else infinite * Nat.pow 10 (-power).toNat ≤ digits

/-- What stands before the first character of a kind and what follows it, if there is one. -/
def cutWhere (p : Char → Bool) (cs : List Char) : List Char × Option (List Char) :=
  match cs.dropWhile (! p ·) with
  | [] => (cs, none)
  | _ :: rest => (cs.takeWhile (! p ·), some rest)

/-- Whether a word is a fraction: a point with digits after it, an exponent, or both. -/
def isFraction (cs : List Char) : Bool :=
  let (negative, rest) := splitSign cs
  rest = "inf".toList || rest = "nan".toList ||
    ((do
      let (mantissa, exponent) := cutWhere (fun c => c = 'e' || c = 'E') rest
      let (whole, decimals) := cutWhere (· = '.') mantissa
      let whole ← wholeDigits? whole
      let decimals ← match decimals with
        | some ds => digitRun? Char.isDigit ds
        | none => if exponent.isSome then some [] else none
      let power ← match exponent with
        | some e =>
          let (below, e) := splitSign e
          (digitRun? Char.isDigit e).map fun ds =>
            if below then -(numberOf 10 ds : Int) else (numberOf 10 ds : Int)
        | none => some 0
      return negative || ! overflows (numberOf 10 (whole ++ decimals)) (power - decimals.length)
      : Option Bool).getD false)

/-! ## Dates and times -/

/-- The number of exactly `n` digits. -/
def exactly? (n : Nat) (cs : List Char) : Option Nat :=
  if cs.length = n ∧ cs.all Char.isDigit then some (numberOf 10 cs) else none

/-- The days of a month. -/
def monthLength (year month : Nat) : Nat :=
  if month = 2 then (if year % 4 = 0 ∧ (year % 100 ≠ 0 ∨ year % 400 = 0) then 29 else 28)
  else if month = 4 ∨ month = 6 ∨ month = 9 ∨ month = 11 then 30
  else 31

/-- Whether ten characters are a date. -/
def isDate (cs : List Char) : Bool :=
  cs[4]? = some '-' && cs[7]? = some '-' &&
    match exactly? 4 (cs.take 4), exactly? 2 ((cs.drop 5).take 2), exactly? 2 (cs.drop 8) with
    | some year, some month, some day =>
      1 ≤ month && month ≤ 12 && 1 ≤ day && day ≤ monthLength year month
    | _, _, _ => false

/-- Whether characters are a time of the day, perhaps with a fraction of a second. -/
def isTime (cs : List Char) : Bool :=
  cs[2]? = some ':' && cs[5]? = some ':' &&
    (match exactly? 2 (cs.take 2), exactly? 2 ((cs.drop 3).take 2),
        exactly? 2 ((cs.drop 6).take 2) with
    | some hour, some minute, some second => hour ≤ 23 && minute ≤ 59 && second ≤ 60
    | _, _, _ => false) &&
    match cs.drop 8 with
    | [] => true
    | '.' :: digits => digits ≠ [] && digits.all Char.isDigit
    | _ => false

/-- Whether characters are the distance of a clock from universal time. -/
def isOffset (cs : List Char) : Bool :=
  match cs with
  | ['Z'] | ['z'] => true
  | sign :: a :: b :: ':' :: c :: d :: [] =>
    (sign = '+' || sign = '-') &&
      match exactly? 2 [a, b], exactly? 2 [c, d] with
      | some hour, some minute => hour ≤ 23 && minute ≤ 59
      | _, _ => false
  | _ => false

/-- Whether characters are a time of the day, perhaps with the distance of its clock. -/
def isClock (cs : List Char) : Bool :=
  let inTime (c : Char) : Bool := c.isDigit || c = ':' || c = '.'
  isTime (cs.takeWhile inTime) &&
    (cs.dropWhile inTime = [] || isOffset (cs.dropWhile inTime))

/-- Whether a word is a date, a time, or both with a letter between them. -/
def isMoment (cs : List Char) : Bool :=
  isTime cs || (isDate (cs.take 10) &&
    match cs.drop 10 with
    | [] => true
    | 'T' :: clock | 't' :: clock => isClock clock
    | _ => false)

/-! ## Words -/

/-- Whether a character may stand in a value that is one word. -/
def inWord (c : Char) : Bool := c.isAlphanum || "+-_.:".toList.contains c

/-- The value of a word. -/
def ofWord? (cs : List Char) : Option Item :=
  match integer? cs with
  | some n => some (.integer n)
  | none =>
    if cs = "true".toList ∨ cs = "false".toList ∨ isFraction cs ∨ isMoment cs then some .other
    else none

/-- A value that is one word and what follows it. A blank may stand between a date and a time. -/
def word? (cs : List Char) : Option (Item × List Char) :=
  let word := cs.takeWhile inWord
  let rest := cs.dropWhile inWord
  match rest with
  | ' ' :: c :: after =>
    if isDate word ∧ c.isDigit then
      if isClock ((c :: after).takeWhile inWord) then
        some (.other, (c :: after).dropWhile inWord)
      else none
    else (ofWord? word).map (·, rest)
  | _ => (ofWord? word).map (·, rest)

end MediaVault.Toml
