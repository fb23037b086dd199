/-
Sealing a long object in segments. Each segment is sealed on its own, under a
nonce that names its place: its position and whether it is the last one. What
a segment cipher does inside a segment does not matter to the framing, so the
framing is written over any pair of functions that encrypt and decrypt at a
place.
-/
import MediaVault.Cipher.Gcm

namespace MediaVault

/-- Where a segment stands in its object. -/
structure Place where
  index : Nat
  last : Bool
  deriving DecidableEq, Repr

namespace Place

/-- The highest position that is counted to, well below the flag; a segment that is not the last
stands before it. -/
def limit : Nat := 0xfffffff

/-- The position with the last-segment flag in the top bit. -/
def word (p : Place) : UInt32 := UInt32.ofNat p.index ||| (if p.last then 0x80000000 else 0)

/-- The nonce of a place: the object's own octets, then the word of the place. -/
def nonce (p : Place) (lead : Bytes) : Bytes := lead ++ Bytes.ofWordLE p.word

end Place

/-- A cipher for one segment at a time. Decryption answers nothing for a segment that was not
encrypted at that place. -/
structure SegmentCipher where
  encrypt : Place → Bytes → Bytes
  decrypt : Place → Bytes → Option Bytes

namespace SegmentCipher

/-- AES-256-GCM under a key, with nonces led by `lead`. -/
def aesGcm (key lead : Bytes) : SegmentCipher :=
  let schedule := Aes.expand key
  { encrypt := fun p text => Gcm.encrypt schedule (p.nonce lead) text
    decrypt := fun p sealed => Gcm.decrypt schedule (p.nonce lead) sealed }

end SegmentCipher

end MediaVault
