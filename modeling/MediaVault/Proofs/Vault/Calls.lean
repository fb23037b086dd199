/-
Sequences of calls. The calls of a client follow one another over one session;
each comes to something and leaves the session to the next, and in between the
servers may be given a new script.
-/
import MediaVault.Proofs.Operator.Pages
import MediaVault.Proofs.Vault.Requests

namespace MediaVault

namespace Client

/-- A call of a client, or a new script for the servers that it meets. -/
inductive Call where
  | copy (source : Url) (expected : Nat) (key : SealKey) (grant : UploadGrant)
  | list (lead : String) (cursor : Option String) (limit : Nat)
  | usage (lead : String)
  | listAll (lead : String) (limit : Nat)
  | script (n : Network)

/-- What a call comes to. -/
inductive Outcome where
  | copied (r : Except Failure (Except Failure Unit))
  | listed (r : Except Failure Page)
  | used (r : Except Failure Usage)
  | collected (r : Except CommandFailure (List Entry))
  | scripted

/-- A call that was made, with what it came to and the requests that it sent. -/
structure Deed where
  call : Call
  outcome : Outcome
  sent : List Attempt

/-- What a call comes to, and the session after it. -/
def perform (c : Client) (s : Session) : Call → Outcome × Session
  | .copy source expected key grant =>
    Prod.map .copied id (c.callCopy source expected key grant s)
  | .list lead cursor limit => Prod.map .listed id ((c.list lead cursor limit).run s)
  | .usage lead => Prod.map .used id ((c.usage lead).run s)
  | .listAll lead limit => Prod.map .collected id ((Pages.listAll c lead limit).run s)
  | .script n => (.scripted, { s with network := n })

theorem perform_copy (c : Client) (s : Session) (source : Url) (expected : Nat) (key : SealKey)
    (grant : UploadGrant) :
    c.perform s (.copy source expected key grant) =
      (.copied (c.callCopy source expected key grant s).1,
        (c.callCopy source expected key grant s).2) := by
  rw [perform, Prod.map_def]
  rfl

theorem perform_list (c : Client) (s : Session) (lead : String) (cursor : Option String)
    (limit : Nat) :
    c.perform s (.list lead cursor limit) =
      (.listed ((c.list lead cursor limit).runFrom s).1,
        ((c.list lead cursor limit).runFrom s).2) := by
  rw [perform, Prod.map_def]
  rfl

theorem perform_usage (c : Client) (s : Session) (lead : String) :
    c.perform s (.usage lead) =
      (.used ((c.usage lead).runFrom s).1, ((c.usage lead).runFrom s).2) := by
  rw [perform, Prod.map_def]
  rfl

/-- One call after another, each with what it added to the requests. -/
def performAll (c : Client) : List Call → Session → List Deed × Session
  | [], s => ([], s)
  | call :: calls, s =>
    let (outcome, s') := c.perform s call
    let (deeds, s'') := c.performAll calls s'
    (⟨call, outcome, s'.attempts.drop s.attempts.length⟩ :: deeds, s'')

end Client

end MediaVault
