/-
All pages of a listing, one after another. Each page is asked for with the
cursor of the page before. A page that gives back the cursor it was asked for
with would be asked for again for ever, so that is an error.
-/
import MediaVault.Operator.Failure
import MediaVault.Text.Quoted
import MediaVault.Vault.Client

namespace MediaVault.Pages

/-- The failure of a walk that would not go on. -/
def repeated (cursor lead : String) : CommandFailure :=
  .other ("storage manager repeated cursor " ++ Text.quote cursor ++ " for prefix "
    ++ Text.quote lead) []

/-- The entries of all pages from a cursor on, asked for in at most `steps` questions; `none` if
that is not enough of them. What the questions are asked of is left open. -/
def walk {σ : Type} (fetch : Option String → ExceptT Failure (StateM σ) Page) (lead : String) :
    (steps : Nat) → Option String → ExceptT CommandFailure (StateM σ) (Option (List Entry))
  | 0, _ => return none
  | steps + 1, cursor => do
    let page ← (fetch cursor).adapt (CommandFailure.vault · none)
    match page.cursor with
    | none => return some page.entries
    | some next =>
      if cursor = some next then throw (repeated next lead)
      let rest ← walk fetch lead steps (some next)
      return rest.map (page.entries ++ ·)

/-- All objects whose keys begin with `lead`, in pages of at most `limit`. There are no more pages
than answers of the network. -/
def listAll (c : Client) (lead : String) (limit : Nat) :
    ExceptT CommandFailure (StateM Session) (List Entry) := do
  let steps := (← get).network.gets.length + 1
  match ← walk (fun cursor => c.list lead cursor limit) lead steps none with
  | some entries => return entries
  | none => throw (.vault .task none)

end MediaVault.Pages
