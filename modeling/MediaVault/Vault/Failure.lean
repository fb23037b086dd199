/-
What can go wrong between a caller and the vault. A failure says whether the
object was simply not there, which status was received, and whether the same
call may succeed another time.
-/
import MediaVault.Http.Failure

namespace MediaVault

/-- A failed operation. -/
inductive Failure where
  /-- The source of a copy does not exist. -/
  | sourceMissing
  /-- The source is not as long as it should be. -/
  | lengthMismatch (expected actual : Nat)
  /-- The source or the upload answered with another status, or the source with no length. -/
  | transfer (status : Option Nat) (message : String)
  /-- The body of the source broke off. -/
  | sourceBroken (reason : String)
  /-- A listed key lies outside of the part that was asked for. -/
  | foreignKey (key lead : String)
  /-- The status with which a listing was refused. -/
  | listing (status : Nat)
  /-- The status with which the usage was refused. -/
  | usage (status : Nat)
  /-- An upload for another vault. -/
  | otherVault (expected actual : Nat)
  /-- The sealed body was not what was announced. -/
  | integrity (reason : String)
  | http (f : HttpFailure)
  /-- An answer that is not the JSON it should be. -/
  | json
  | crypto (f : SealFault)
  /-- A header field that cannot be sent, by its name. -/
  | header (name : String)
  /-- An upload location that is no address, with the reason. -/
  | location (text : String)
  /-- Settings that cannot be used. -/
  | settings (text : String)
  /-- The task of an operation did not come to its end. -/
  | task
  deriving DecidableEq, Repr

namespace Failure

/-- The wording of a failure. -/
def message : Failure → String
  | sourceMissing => "source object not found"
  | lengthMismatch expected actual => s!"provided source length {expected} was {actual}"
  | transfer _ message => message
  | sourceBroken reason => "error reading from source: " ++ reason
  | foreignKey key lead =>
    s!"prefix listing returned unexpected result: {key} does not start with {lead}"
  | listing status => s!"failed to list objects: {status}"
  | usage status => s!"failed to retrieve usage: {status}"
  | otherVault expected actual =>
    s!"upload descriptor targets cdn {actual}, this client only copies to cdn {expected}"
  | integrity reason => "integrity check failed: " ++ reason
  | http f => "HTTP error: " ++ f.message
  | json => "JSON error"
  | crypto f => "crypto error: " ++ f.message
  | header name => "invalid header: " ++ name
  | location text => "invalid URI: " ++ text
  | settings text => "invalid configuration: " ++ text
  | task => "background task failed"

/-- The texts of what lies beneath a failure, the nearest first. -/
def causeTexts : Failure → List String
  | http f => f.message :: f.causeTexts
  | crypto f => f.message :: f.cause?.toList
  | _ => []

/-- The status that a failure carries. -/
def status? : Failure → Option Nat
  | transfer status _ => status
  | listing status => some status
  | usage status => some status
  | sourceMissing => some 404
  | _ => none

/-- Whether the source of a copy was simply not there. -/
def isNotFound (f : Failure) : Bool := f = sourceMissing

/-- Whether a status asks to come back later: too many requests, or an error of the server. -/
def isRetryableStatus (status : Nat) : Bool := status = 429 || (500 ≤ status && status < 600)

/-- Whether the same call may succeed another time. -/
def isRetryable : Failure → Bool
  | http f => f.isTransient
  | sourceBroken _ => true
  | transfer (some status) _ => isRetryableStatus status
  | listing status => isRetryableStatus status
  | usage status => isRetryableStatus status
  | _ => false

/-- How a failed upload counts: as a failure of the sealed body if one lies beneath it. -/
def ofUpload (f : HttpFailure) : Failure :=
  match f.sealFault? with
  | some (.source reason) => sourceBroken reason
  | some fault => integrity fault.message
  | none => http f

end Failure

end MediaVault
