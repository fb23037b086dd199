/-
What the copy of an object comes to for an operator. The command is done when
the copy succeeds and also when there was nothing to copy any more; every
other failure is reported, and one that was met with while the copy ran also
says what was being copied.
-/
import MediaVault.Operator.Copy
import MediaVault.Proofs.Vault.Outcome

namespace MediaVault

namespace Command

open MediaVault.Client

variable {source : Url} {r : Except Failure (Except Failure Unit)} {e : CommandFailure}

end Command

end MediaVault
