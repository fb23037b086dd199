/-
Opening a sealed object. The length alone says where the segments end: as
long as a sealed full segment fits it is one and not the last, and what
remains is the last. Any change to the octets or to their order meets a
segment that was not sealed at its place.
-/
import MediaVault.Seal.Stream

namespace MediaVault.SegmentCipher

/-- The text of the segments from a position on. `total` is the length of the whole object. -/
def openFrom (c : SegmentCipher) (total : Nat) (index : Nat) (sealed : Bytes) :
    Except SealFault Bytes :=
  if _h : Seal.sealedSegmentLength ≤ sealed.length then
    if index = Place.limit then .error .opening
    else
      match c.decrypt ⟨index, false⟩ (sealed.take Seal.sealedSegmentLength) with
      | none => .error .opening
      | some text =>
        (c.openFrom total (index + 1) (sealed.drop Seal.sealedSegmentLength)).map (text ++ ·)
  else if sealed.length < Seal.tagLength then .error (.malformed total)
  else
    match c.decrypt ⟨index, true⟩ sealed with
    | none => .error .opening
    | some text => .ok text
termination_by sealed.length
decreasing_by
  simp only [List.length_drop, Seal.sealedSegmentLength, Seal.segmentLength, Seal.tagLength] at *
  omega

/-- The text of a sealed object. -/
def openObject (c : SegmentCipher) (sealed : Bytes) : Except SealFault Bytes :=
  c.openFrom sealed.length 0 sealed

end MediaVault.SegmentCipher

/-- The text of an object sealed under a secret. -/
def MediaVault.SealKey.openObject (k : MediaVault.SealKey) (sealed : MediaVault.Bytes) :
    Except MediaVault.SealFault MediaVault.Bytes :=
  k.cipher.openObject sealed
