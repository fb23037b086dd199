/-
The AES block cipher with a 256-bit key, in the enciphering direction, which
is the only one that counter mode needs. The substitution box is computed
from its definition: the inverse in the field of 256 elements, followed by an
affine map of the bits.
-/
import MediaVault.Cipher.Block

namespace MediaVault.Aes

/-! ## The field of 256 elements -/

/-- Multiplication by the generator `x`, reduced by `x⁸ + x⁴ + x³ + x + 1`. -/
def double (a : UInt8) : UInt8 := (a <<< 1) ^^^ (if a < 0x80 then 0 else 0x1b)

/-- The product of two field elements, by the bits of the second. -/
def mul (a b : UInt8) : UInt8 :=
  ((List.range 8).foldl (fun (p : UInt8 × UInt8) i =>
    (if (b >>> UInt8.ofNat i) &&& 1 = 1 then p.1 ^^^ p.2 else p.1, double p.2)) (0, a)).1

/-- The inverse of a nonzero element, and zero of zero: the 254th power. -/
def inverse (a : UInt8) : UInt8 :=
  ((List.range 7).foldl (fun (p : UInt8 × UInt8) _ =>
    let square := mul p.2 p.2
    (mul p.1 square, square)) (1, a)).1

/-- The bits of an octet rotated upwards. -/
def rotate (a : UInt8) (n : UInt8) : UInt8 := (a <<< n) ||| (a >>> (8 - n))

/-- The substitution of one octet. -/
def substitute (a : UInt8) : UInt8 :=
  let b := inverse a
  b ^^^ rotate b 1 ^^^ rotate b 2 ^^^ rotate b 3 ^^^ rotate b 4 ^^^ 0x63

/-- The substitution box. -/
def box : Vector UInt8 256 := Vector.ofFn fun i => substitute (UInt8.ofNat i)

/-- The substitution box at an octet. -/
def sub (a : UInt8) : UInt8 := box.get ⟨a.toNat, a.toNat_lt⟩

/-! ## Columns and rounds -/

/-- A column of the state, its first row on top. -/
abbrev Column := UInt32

/-- A column rotated so that its last row comes first. -/
def rotateColumn (c : Column) (n : UInt32) : Column := (c >>> n) ||| (c <<< (32 - n))

/-- For each octet, the contribution of its substitute in the first row to the mixed column. -/
def mixed : Vector Column 256 :=
  Vector.ofFn fun i =>
    let s := sub (UInt8.ofNat i)
    let t := double s
    (t.toUInt32 <<< 24) ||| (s.toUInt32 <<< 16) ||| (s.toUInt32 <<< 8) ||| (t ^^^ s).toUInt32

/-- `mixed` at an octet. -/
def mix (a : UInt8) : Column := mixed.get ⟨a.toNat, a.toNat_lt⟩

/-- The row `r` of a column. -/
def row (c : Column) (r : UInt32) : UInt8 := (c >>> (24 - 8 * r)).toUInt8

/-- Four columns: a state of the cipher or the key of one round. -/
structure State where
  c0 : Column
  c1 : Column
  c2 : Column
  c3 : Column

namespace State

def xor (a b : State) : State := ⟨a.c0 ^^^ b.c0, a.c1 ^^^ b.c1, a.c2 ^^^ b.c2, a.c3 ^^^ b.c3⟩

def ofBlock (b : Block) : State :=
  ⟨(b.hi >>> 32).toUInt32, b.hi.toUInt32, (b.lo >>> 32).toUInt32, b.lo.toUInt32⟩

def toBlock (s : State) : Block :=
  ⟨(s.c0.toUInt64 <<< 32) ||| s.c1.toUInt64, (s.c2.toUInt64 <<< 32) ||| s.c3.toUInt64⟩

end State

/-- One column of an inner round, from the four columns that the row shift brings together. -/
def roundColumn (a b c d : Column) : Column :=
  mix (row a 0) ^^^ rotateColumn (mix (row b 1)) 8 ^^^ rotateColumn (mix (row c 2)) 16
    ^^^ rotateColumn (mix (row d 3)) 24

/-- An inner round: substitute, shift the rows, mix the columns, add the round key. -/
def round (s : State) (key : State) : State :=
  State.xor ⟨roundColumn s.c0 s.c1 s.c2 s.c3, roundColumn s.c1 s.c2 s.c3 s.c0,
    roundColumn s.c2 s.c3 s.c0 s.c1, roundColumn s.c3 s.c0 s.c1 s.c2⟩ key

/-- One column of the last round, which does not mix. -/
def lastColumn (a b c d : Column) : Column :=
  ((sub (row a 0)).toUInt32 <<< 24) ||| ((sub (row b 1)).toUInt32 <<< 16)
    ||| ((sub (row c 2)).toUInt32 <<< 8) ||| (sub (row d 3)).toUInt32

/-- The last round. -/
def lastRound (s : State) (key : State) : State :=
  State.xor ⟨lastColumn s.c0 s.c1 s.c2 s.c3, lastColumn s.c1 s.c2 s.c3 s.c0,
    lastColumn s.c2 s.c3 s.c0 s.c1, lastColumn s.c3 s.c0 s.c1 s.c2⟩ key

/-! ## The key schedule -/

/-- The substitution on every row of a column. -/
def subColumn (c : Column) : Column := lastColumn c c c c

/-- Eight columns of the expanded key. -/
structure Window where
  low : State
  high : State

/-- The eight columns after these. -/
def Window.next (w : Window) (constant : UInt8) : Window :=
  let b0 := w.low.c0 ^^^ subColumn (rotateColumn w.high.c3 24) ^^^ (constant.toUInt32 <<< 24)
  let b1 := w.low.c1 ^^^ b0
  let b2 := w.low.c2 ^^^ b1
  let b3 := w.low.c3 ^^^ b2
  let b4 := w.high.c0 ^^^ subColumn b3
  let b5 := w.high.c1 ^^^ b4
  let b6 := w.high.c2 ^^^ b5
  let b7 := w.high.c3 ^^^ b6
  ⟨⟨b0, b1, b2, b3⟩, ⟨b4, b5, b6, b7⟩⟩

/-- The round keys: one before the first round, thirteen of inner rounds and one of the last. -/
structure Schedule where
  first : State
  inner : List State
  last : State

/-- The seven windows after a window, with their constants doubling from one. -/
def windows : Nat → UInt8 → Window → List Window
  | 0, _, _ => []
  | n + 1, constant, w =>
    let w' := w.next constant
    w' :: windows n (double constant) w'

/-- The round keys of a key of 32 octets. -/
def expand (key : Bytes) : Schedule :=
  let start : Window :=
    ⟨State.ofBlock (Block.ofBytes key), State.ofBlock (Block.ofBytes (key.drop 16))⟩
  let keys := start.high :: (windows 7 1 start).flatMap fun w => [w.low, w.high]
  ⟨start.low, keys.take 13, (keys.drop 13).headD start.low⟩

/-- One block enciphered. -/
def encipher (s : Schedule) (b : Block) : Block :=
  (lastRound (s.inner.foldl round (State.xor (State.ofBlock b) s.first)) s.last).toBlock

end MediaVault.Aes
