/-
Operations and what they leave behind. An operation runs against the network
as it stands and adds to three records: what was sent, what was measured and
what was logged. The records are kept when it fails.
-/
import MediaVault.Http.Network
import MediaVault.Vault.Failure
import MediaVault.Vault.Log
import MediaVault.Vault.Metrics

namespace MediaVault

/-- The network and the records of what was done over it. -/
structure Session where
  network : Network
  attempts : List Attempt := []
  marks : List Mark := []
  log : List LogLine := []

namespace Session

/-- The requests that servers have heard, in order. -/
def heard (s : Session) : List Attempt := s.attempts.filter (·.complete)

end Session

/-- An operation. -/
abbrev Action (α : Type) := ExceptT Failure (StateM Session) α

namespace Action

/-- Adds a line to the log. -/
def log (level : Level) (origin message : String) (fields : List (String × LogValue)) :
    Action Unit :=
  modify fun s => { s with log := s.log ++ [⟨level, origin, message, fields⟩] }

/-- Adds a mark to what is measured. -/
def mark (m : Mark) : Action Unit := modify fun s => { s with marks := s.marks ++ [m] }

/-- One exchange over the network, with the failure it may end in. -/
def exchange (method : Method) (u : Url) (headers : Headers) (payload : Payload) :
    Action (Except HttpFailure Reply) := do
  let (result, attempt, network) := (← get).network.exchange method u headers payload
  modify fun s => { s with network, attempts := s.attempts ++ attempt.toList }
  return result

/-- An operation whose time is taken, however it ends. -/
def timed {α : Type} (op : Operation) (action : Action α) : Action α := do
  try
    let a ← action
    mark (.duration op)
    return a
  catch f =>
    mark (.duration op)
    throw f

end Action

end MediaVault
