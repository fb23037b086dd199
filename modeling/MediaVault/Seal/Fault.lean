/-
What can go wrong while an object is sealed or opened.
-/
import MediaVault.Seal.Size

namespace MediaVault

/-- Why sealing or opening failed. -/
inductive SealFault where
  /-- The cipher refused to seal. -/
  | sealing
  /-- A segment is not one that was sealed at its place under the key. -/
  | opening
  /-- A key of the wrong length. -/
  | keyLength (actual : Nat)
  /-- A nonce lead of the wrong length. -/
  | leadLength (actual : Nat)
  /-- The source failed while it was read. -/
  | source (reason : String)
  /-- The source held more than was declared. -/
  | overrun (declared actual : Nat)
  /-- The source ended before what was declared. -/
  | truncated (declared actual : Nat)
  /-- The sealed octets are not as many as the length arithmetic says. -/
  | sealedLength (expected actual : Nat)
  /-- Too few octets for the tag of a final segment. -/
  | malformed (length : Nat)
  deriving DecidableEq, Repr

namespace SealFault

/-- The wording of a fault. -/
def message : SealFault → String
  | sealing => "encryption failed"
  | opening => "decryption failed"
  | keyLength n => s!"invalid key length: expected 32, got {n}"
  | leadLength n => s!"invalid nonce length: expected 8, got {n}"
  | source reason => s!"source read failed: {reason}"
  | overrun declared actual => s!"source produced {actual} bytes, more than the declared {declared}"
  | truncated declared actual => s!"source ended after {actual} of {declared} declared bytes"
  | sealedLength expected actual => s!"emitted {actual} ciphertext bytes, expected {expected}"
  | malformed n => s!"malformed ciphertext of {n} bytes"

/-- The wording of what lies beneath a fault: only a failing source has a reason of its own. -/
def cause? : SealFault → Option String
  | source reason => some reason
  | _ => none

end SealFault

end MediaVault
