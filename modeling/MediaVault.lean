import MediaVault.Main
import MediaVault.Vault.Job
import MediaVault.Proofs.Cipher.Lawful
import MediaVault.Proofs.Seal.Segments
import MediaVault.Proofs.Seal.Intake
import MediaVault.Proofs.Seal.Run
import MediaVault.Proofs.Seal.Record
import MediaVault.Proofs.Seal.RoundTrip
import MediaVault.Proofs.Seal.Failing
import MediaVault.Proofs.Seal.Stopping
import MediaVault.Proofs.Seal.Lockstep
import MediaVault.Proofs.Seal.Tampering
import MediaVault.Proofs.Seal.Chunking
import MediaVault.Proofs.Seal.Nonces
import MediaVault.Proofs.Seal.Refusing
import MediaVault.Proofs.Seal.Turns
import MediaVault.Proofs.Seal.Asking
import MediaVault.Proofs.Seal.Lengths
import MediaVault.Proofs.Seal.Drawing
import MediaVault.Proofs.Text.Octets
import MediaVault.Proofs.Text.Base64
import MediaVault.Proofs.Json.Reading
import MediaVault.Proofs.Url.Reading
import MediaVault.Proofs.Url.Paths
import MediaVault.Proofs.Url.Forms
import MediaVault.Proofs.Http.Exchange
import MediaVault.Proofs.Vault.Action
import MediaVault.Proofs.Vault.Copying
import MediaVault.Proofs.Vault.CopyIntegrity
import MediaVault.Proofs.Vault.Requests
import MediaVault.Proofs.Vault.Outcome
import MediaVault.Proofs.Vault.Questions
import MediaVault.Proofs.Vault.Together
import MediaVault.Proofs.Vault.Calls
import MediaVault.Proofs.Vault.Secrets
import MediaVault.Proofs.Vault.Accounting
import MediaVault.Proofs.Vault.Reasons
import MediaVault.Proofs.Vault.Retrying
import MediaVault.Proofs.Vault.Endpoints
import MediaVault.Proofs.Vault.Written
import MediaVault.Proofs.Vault.Listings
import MediaVault.Proofs.Operator.Copying
import MediaVault.Proofs.Operator.Pages
import MediaVault.Proofs.Vault.Queries
import MediaVault.Proofs.Operator.Headers
import MediaVault.Proofs.Operator.Disk
import MediaVault.Proofs.Operator.Opening
import MediaVault.Proofs.Operator.KeyTexts
