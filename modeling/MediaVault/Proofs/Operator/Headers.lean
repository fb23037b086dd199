/-
From header arguments to the fields of an upload. An argument is cut at its
first equals sign; of several arguments with one name the last counts; and an
upload has every field that counts as it was given, but for the three fields
that say how it is uploaded.
-/
import MediaVault.Operator.HeaderArgument
import MediaVault.Proofs.Url.Reading
import MediaVault.Proofs.Vault.Requests

namespace MediaVault

/-! ## Arguments -/

namespace Text

variable {cs : List Char}

end Text

namespace HeaderArgument

open Text

variable {a : String}

end HeaderArgument

/-! ## Names that count -/

namespace UploadGrant

/-- An argument is the last one of its name. -/
def Counts (pairs : List (String × String)) (x : String × String) : Prop :=
  ∃ before after, pairs = before ++ x :: after ∧ ∀ y ∈ after, y.1 ≠ x.1

variable {pairs : List (String × String)} {x : String × String}

variable {given front rest : List (String × String)} {before fields : Headers} {field : String}

end UploadGrant

namespace UploadGrant

variable {pairs : List (String × String)} {x : String × String} {fields : Headers}

end UploadGrant

/-! ## The upload -/

namespace Client

open MediaVault.Action Network UploadGrant

variable {pairs : List (String × String)} {expected : Nat} {fields : Headers}

variable {c : Client} {source location : Url} {key : SealKey} {g : UploadGrant} {s : Session}
variable {reply : Reply}

end Client

end MediaVault
