/-
The copy of an object as an operator asks for it: a source that is not there
any more leaves nothing to do and is no failure, and any other failure says
what was being copied.
-/
import MediaVault.Operator.Failure
import MediaVault.Vault.Client

namespace MediaVault

/-- A command that works with a vault. -/
abbrev Command (α : Type) := ExceptT CommandFailure (StateM Session) α

namespace Command

/-- Where the commands' lines in the log come from. -/
def origin : String := "backupstore::commands"

/-- Adds a line to the log. -/
def log (message : String) (fields : List (String × LogValue)) : Command Unit :=
  modify fun s => { s with log := s.log ++ [⟨.info, origin, message, fields⟩] }

/-- An operation of the vault as a command. -/
def ofAction {α : Type} (action : Action α) : Command α :=
  ExceptT.adapt (CommandFailure.vault · none) action

/-- The copy of a source to where a grant says. -/
def copy (c : Client) (source : Url) (length : Nat) (key : SealKey) (grant : UploadGrant) :
    Command Unit := do
  match c.copy source length key grant with
  | .error f => throw (.vault f none)
  | .ok action =>
    match ← (action.run : StateM Session (Except Failure Unit)) with
    | .ok () => log "copy complete" [("source", .plain source.text)]
    | .error f =>
      if f.isNotFound then
        log "source object no longer exists, nothing copied" [("source", .plain source.text)]
      else throw (.vault f (some ("copying " ++ source.text)))

end Command

end MediaVault
