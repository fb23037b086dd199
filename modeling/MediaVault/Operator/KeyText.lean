/-
Key material as it is given and shown: Base64 of the key and of the octets
that lead its nonces.
-/
import MediaVault.Operator.Failure
import MediaVault.Seal.Key
import MediaVault.Text.Base64

namespace MediaVault.SealKey

/-- The secret that two texts stand for. -/
def ofTexts (key lead : String) : Except CommandFailure SealKey :=
  match Base64.decode (Bytes.ofText key) with
  | .error f => .error (.other "key is not valid base64" [f.message])
  | .ok key =>
    match Base64.decode (Bytes.ofText lead) with
    | .error f => .error (.other "nonce is not valid base64" [f.message])
    | .ok lead =>
      match ofBytes key lead with
      | .error f => .error (.crypto f)
      | .ok k => .ok k

/-- Octets in Base64. -/
def shown (b : Bytes) : String := String.ofList ((Base64.encode b).map fun x => Char.ofNat x.toNat)

/-- The lines that show a secret, so that what it sealed can be opened later. -/
def lines (k : SealKey) : String := "key=" ++ shown k.key ++ "\nnonce=" ++ shown k.lead ++ "\n"

/-- The secret of a copy, from the texts given or else from random octets, and what is shown of it.
Both texts are given or none. -/
def forCopy (random : Bytes) : Option String → Option String → Except CommandFailure (SealKey × String)
  | some key, some lead => (ofTexts key lead).map (·, "")
  | none, none => let k := ofRandom random; .ok (k, k.lines)
  | _, _ => .error (.other "--key and --nonce must be given together" [])

end MediaVault.SealKey
