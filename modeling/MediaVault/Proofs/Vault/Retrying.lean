/-
When to come back. Every operation that fails does so for one reason, which is
told from what it met with: what it was given, the network as it stands, and
the answers on it. Its failure says that the same call may succeed another time
for some reasons only, and carries the status that it was answered with.
-/
import MediaVault.Proofs.Vault.Listings
import MediaVault.Proofs.Vault.Reasons

namespace MediaVault

namespace Client

open MediaVault.Action Network SealStream

/-! ## Copies -/

variable {source location : Url} {expected : Nat} {key : SealKey} {fields : Headers}
variable {grant : UploadGrant} {s : Session} {reply : Reply}

variable {c : Client} {lead path : String} {pairs : List (String × String)} {α : Type}

/-- A page is refused for a key outside of the part, and for nothing else. -/
theorem relativeTo_eq_error {page : Page} :
    (∃ f, page.relativeTo lead = .error f) ↔
      ∃ e ∈ page.entries, ¬ lead.toList <+: e.key.toList := by
  have hshown : (∃ f, page.relativeTo lead = .error f) ↔
      ¬ ∃ shown, page.relativeTo lead = .ok shown := by
    rcases page.relativeTo lead with f | shown <;> simp
  simp only [hshown, Page.relativeTo_eq_ok, Page.exists_shownAs_iff, Entry.Under,
    Bytes.ofText_isPrefix_iff, not_forall, exists_prop]

end Client

end MediaVault
