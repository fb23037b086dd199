/-
Characters written as percent signs and hexadecimal digits. Which characters
of ASCII are written so depends on the part of the address they stand in;
controls and characters beyond ASCII are always written so.
-/
import MediaVault.Bytes

namespace MediaVault.Percent

/-- A hexadecimal digit, with capital letters. -/
def digit (n : Nat) : Char := if n < 10 then Char.ofNat (48 + n) else Char.ofNat (55 + n)

/-- An octet as a percent sign and two digits. -/
def escape (x : UInt8) : List Char := ['%', digit (x.toNat / 16), digit (x.toNat % 16)]

/-- One character, which stands for itself where it may. -/
def encodeChar (reserved : List Char) (c : Char) : List Char :=
  if 0x20 ≤ c.toNat ∧ c.toNat < 0x7f ∧ c ∉ reserved then [c]
  else (String.utf8EncodeChar c).flatMap escape

/-- A text in which the reserved characters do not stand for themselves. -/
def encode (reserved : List Char) (cs : List Char) : String :=
  String.ofList (cs.flatMap (encodeChar reserved))

/-- The octets meant. A percent sign without two digits after it stands for itself. -/
def decode : Bytes → Bytes
  | [] => []
  | [x] => [x]
  | [x, y] => [x, y]
  | x :: a :: b :: rest =>
    match Bytes.hexValue? a, Bytes.hexValue? b with
    | some m, some n =>
      if x = 0x25 then UInt8.ofNat (m * 16 + n) :: decode rest else x :: decode (a :: b :: rest)
    | _, _ => x :: decode (a :: b :: rest)

end MediaVault.Percent
