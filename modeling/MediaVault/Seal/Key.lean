/-
The secret of one object: the key of its cipher and the octets that lead its
nonces. Both lengths are fixed, so a secret exists only with the right ones.
-/
import MediaVault.Cipher.Segment
import MediaVault.Seal.Fault

namespace MediaVault

/-- The key material of one object. -/
structure SealKey where
  key : Bytes
  lead : Bytes
  length_key : key.length = Seal.keyLength
  length_lead : lead.length = Seal.leadLength

namespace SealKey

/-- The secret made of these octets. The key is measured first. -/
def ofBytes (key lead : Bytes) : Except SealFault SealKey :=
  if hk : key.length = Seal.keyLength then
    if hl : lead.length = Seal.leadLength then .ok ⟨key, lead, hk, hl⟩
    else .error (.leadLength lead.length)
  else .error (.keyLength key.length)

/-- The first `n` octets, with zeros where there are none. -/
def padded (n : Nat) (random : Bytes) : Bytes := (random.take n).rightpad n 0

theorem length_padded (n : Nat) (random : Bytes) : (padded n random).length = n := by
  rw [padded, List.length_rightpad]
  exact Nat.max_eq_left (List.length_take_le n random)

/-- A fresh secret from octets drawn at random; missing octets are zero. -/
def ofRandom (random : Bytes) : SealKey :=
  ⟨padded Seal.keyLength random, padded Seal.leadLength (random.drop Seal.keyLength),
    length_padded _ _, length_padded _ _⟩

/-- The cipher of the object. -/
def cipher (k : SealKey) : SegmentCipher := .aesGcm k.key k.lead

/-- What may be shown of a secret: that it is one. -/
def redacted (_ : SealKey) : String :=
  "MediaEncryptionParameters \x7b key: \"<redacted>\", nonce: \"<redacted>\" \x7d"

end SealKey

end MediaVault
