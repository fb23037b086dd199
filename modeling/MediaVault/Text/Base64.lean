/-
Octets written with sixty-four symbols, six bits each, and filled up with `=`
to a multiple of four. Reading accepts exactly the written forms: padding is
required, and bits that stand for nothing must be zero. A refusal names the
first place that is wrong.
-/
import MediaVault.Bytes

namespace MediaVault.Base64

/-- The symbols in the order of their values. -/
def symbols : List UInt8 := Bytes.ofText
  "ABCDEFGHIJKLMNOPQRSTUVWXYZabcdefghijklmnopqrstuvwxyz0123456789+/"

/-- The octet that fills up the last group. -/
def padding : UInt8 := 61

/-- The symbol of a value below 64. -/
def symbol (n : Nat) : UInt8 := symbols.getD n padding

/-- The value of a symbol. -/
def value? (x : UInt8) : Option Nat :=
  let n := x.toNat
  if 65 ≤ n ∧ n ≤ 90 then some (n - 65)
  else if 97 ≤ n ∧ n ≤ 122 then some (n - 71)
  else if 48 ≤ n ∧ n ≤ 57 then some (n + 4)
  else if n = 43 then some 62
  else if n = 47 then some 63
  else none

/-- The written form. -/
def encode : Bytes → Bytes
  | [] => []
  | [a] =>
    let n := a.toNat
    [symbol (n / 4), symbol (n % 4 * 16), padding, padding]
  | [a, b] =>
    let n := a.toNat * 256 + b.toNat
    [symbol (n / 1024), symbol (n / 16 % 64), symbol (n % 16 * 4), padding]
  | a :: b :: c :: rest =>
    let n := (a.toNat * 256 + b.toNat) * 256 + c.toNat
    symbol (n / 262144) :: symbol (n / 4096 % 64) :: symbol (n / 64 % 64) :: symbol (n % 64)
      :: encode rest

/-- Why octets are not a written form. -/
inductive DecodeFault where
  /-- An octet that is no symbol, or padding where none may stand. -/
  | symbol (octet : UInt8) (offset : Nat)
  /-- The last symbol has bits that stand for nothing. -/
  | lastSymbol (octet : UInt8) (offset : Nat)
  /-- A single symbol is left over. -/
  | length (n : Nat)
  /-- The padding does not fill up the last group. -/
  | padding
  deriving DecidableEq, Repr

/-- The wording of a refusal. -/
def DecodeFault.message : DecodeFault → String
  | .symbol octet offset => s!"Invalid symbol {octet.toNat}, offset {offset}."
  | .lastSymbol octet offset => s!"Invalid last symbol {octet.toNat}, offset {offset}."
  | .length n => s!"Invalid input length: {n}"
  | .padding => "Invalid padding"

/-- The value of the symbol at an offset. -/
def valueAt (offset : Nat) (x : UInt8) : Except DecodeFault Nat :=
  match value? x with
  | some n => .ok n
  | none => .error (.symbol x offset)

/-- The last group, cut into the octets before the first padding and the number of paddings from
there on. `offset` is where the rest stands and `index` how much of the group is behind. -/
def lastGroup (offset : Nat) : (index : Nat) → Bytes → Except DecodeFault (List (UInt8 × Nat) × Nat)
  | _, [] => .ok ([], 0)
  | index, x :: rest =>
    if x = padding then
      if index < 2 then .error (.symbol x (offset + index))
      else if rest.all (· = padding) then .ok ([], rest.length + 1)
      else .error (.symbol x (offset + index))
    else do
      let n ← valueAt (offset + index) x
      let (values, pads) ← lastGroup offset (index + 1) rest
      return ((x, n) :: values, pads)

/-- The octets of the last group, which starts at `offset`. -/
def decodeLast (offset : Nat) (group : Bytes) : Except DecodeFault Bytes := do
  let (values, pads) ← lastGroup offset 0 group
  if group = [] then return []
  if values.length < 2 then throw (.length (offset + values.length))
  if (values.length + pads) % 4 ≠ 0 then throw .padding
  match values with
  | [(_, a), (x, b)] =>
    if b % 16 ≠ 0 then throw (.lastSymbol x (offset + 1))
    return [UInt8.ofNat (a * 4 + b / 16)]
  | [(_, a), (_, b), (x, c)] =>
    if c % 4 ≠ 0 then throw (.lastSymbol x (offset + 2))
    let n := (a * 64 + b) * 64 + c
    return [UInt8.ofNat (n / 1024), UInt8.ofNat (n / 4 % 256)]
  | [(_, a), (_, b), (_, c), (_, d)] =>
    let n := ((a * 64 + b) * 64 + c) * 64 + d
    return [UInt8.ofNat (n / 65536), UInt8.ofNat (n / 256 % 256), UInt8.ofNat (n % 256)]
  | _ => throw .padding

/-- The octets of whole groups of four symbols and of the last group, from an offset on. -/
def decodeFrom (offset : Nat) : Bytes → Except DecodeFault Bytes
  | a :: b :: c :: d :: e :: rest => do
    let a ← valueAt offset a
    let b ← valueAt (offset + 1) b
    let c ← valueAt (offset + 2) c
    let d ← valueAt (offset + 3) d
    let n := ((a * 64 + b) * 64 + c) * 64 + d
    let tail ← decodeFrom (offset + 4) (e :: rest)
    return UInt8.ofNat (n / 65536) :: UInt8.ofNat (n / 256 % 256) :: UInt8.ofNat (n % 256) :: tail
  | group => decodeLast offset group

/-- The octets of a written form. An octet that is left over and is no symbol, such as the end of a
line, is named before anything else. -/
def decode (text : Bytes) : Except DecodeFault Bytes :=
  match text.getLast? with
  | some x =>
    if text.length % 4 = 1 ∧ x ≠ padding ∧ value? x = none then .error (.symbol x (text.length - 1))
    else decodeFrom 0 text
  | none => .ok []

end MediaVault.Base64
