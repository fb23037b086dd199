/-
How an exchange over the network can fail, and what lies beneath a failure.
A fault of the sealed body that was being sent is kept as a fault, so that it
can be told from a failure of the network however deep it lies.
-/
import MediaVault.Seal.Fault
import MediaVault.Url.Basic

namespace MediaVault

/-- One of the things that lie beneath a failure. -/
inductive Cause where
  | text (s : String)
  | sealing (f : SealFault)
  deriving DecidableEq, Repr

/-- The wording of a cause. -/
def Cause.message : Cause → String
  | text s => s
  | sealing f => f.message

/-- The step of an exchange that failed. -/
inductive HttpStep where
  /-- The address cannot be asked. -/
  | address
  /-- No connection could be made. -/
  | connection
  /-- Nothing came in time. -/
  | waiting
  /-- The request or its answer broke off. -/
  | exchange
  /-- The body of the answer broke off. -/
  | body
  /-- The body of the answer did not come in time. -/
  | stalledBody
  deriving DecidableEq, Repr

/-- A failed exchange. -/
structure HttpFailure where
  step : HttpStep
  url : Option Url
  causes : List Cause
  deriving DecidableEq, Repr

namespace HttpFailure

/-- The wording of a failure, without what lies beneath it. -/
def message (f : HttpFailure) : String :=
  let what := match f.step with
    | .address => "builder error"
    | .body | .stalledBody => "error decoding response body"
    | _ => "error sending request"
  what ++ f.url.elim "" fun u => " for url (" ++ u.text ++ ")"

/-- The texts of what lies beneath a failure, the nearest first. -/
def causeTexts (f : HttpFailure) : List String := f.causes.map Cause.message

/-- Whether the same request may succeed another time. -/
def isTransient (f : HttpFailure) : Bool :=
  f.step = .connection || f.step = .waiting || f.step = .stalledBody

/-- The fault of a sealed body beneath a failure. -/
def sealFault? (f : HttpFailure) : Option SealFault :=
  f.causes.findSome? fun
    | .sealing fault => some fault
    | .text _ => none

end HttpFailure

end MediaVault
