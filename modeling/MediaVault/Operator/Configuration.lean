/-
The configuration of the commands: the settings of their client and how many
objects a page of a listing has. It is read from a TOML document, in which a
record may also be given as the list of its members.
-/
import MediaVault.Operator.Disk
import MediaVault.Operator.Failure
import MediaVault.Toml.Document
import MediaVault.Vault.Log
import MediaVault.Vault.Settings

namespace MediaVault

/-- The configuration of the commands. -/
structure Configuration where
  settings : Settings
  pageSize : Nat
  deriving DecidableEq, Repr

namespace Configuration

open Toml (Item Entries)

/-! ## Reading TOML -/

/-- A text. -/
def text? : Item → Option String
  | .text s => some s
  | _ => none

/-- A number that is not negative. -/
def number? : Item → Option Nat
  | .integer n => if 0 ≤ n then some n.toNat else none
  | _ => none

/-- A list of texts. -/
def texts? : Item → Option (List String)
  | .array items => items.mapM text?
  | _ => none

/-- The members of a record by their names, or in their order from a list. -/
def membersOf? (names : List String) : Item → Option (String → Option Item)
  | .table _ entries => some (Entries.get? entries)
  | .array items => some fun name => items[names.idxOf name]?
  | .tables each => some fun name => (each[names.idxOf name]?).map (.table .header ·)
  | _ => none

/-- The settings of a client. -/
def settings? (item : Item) : Option Settings := do
  let member ← membersOf? Settings.names item
  let draft : Settings.Draft := {
    baseUri := ← (member "base_uri").mapM text?
    clientId := ← (member "client_id").mapM text?
    clientSecret := ← (member "client_secret").mapM text?
    connectTimeout := ← (member "connect_timeout_secs").mapM number?
    trusted := ← (member "cdn_ca_certificates").mapM texts? }
  Settings.ofDraft? draft

/-- The size of a page where none is given. -/
def defaultPageSize : Nat := 100

/-- The configuration that a TOML document holds. -/
def ofToml? (text : String) : Option Configuration := do
  let entries ← Toml.document? text
  let settings ← (entries.get? "storage_manager").bind settings?
  let pageSize ← (entries.get? "default_limit").mapM number?
  return { settings, pageSize := pageSize.getD defaultPageSize }

/-- What may be shown of a configuration. -/
def redacted (c : Configuration) : String :=
  "Config \x7b storage_manager: " ++ c.settings.redacted ++ ", default_limit: "
    ++ toString c.pageSize ++ " \x7d"

/-! ## Files -/

/-- A path and a name in it. -/
def join (path name : String) : String :=
  if path = "" ∨ path.endsWith "/" then path ++ name else path ++ "/" ++ name

/-- The path of the configuration in a home directory. -/
def homePath (home : String) : String :=
  join (join (join home ".config") "backupstore") "cdn3.toml"

/-- The path of the configuration: the one that was given, or else the one in the home directory. -/
def path (given home : Option String) : Except CommandFailure String :=
  match given, home with
  | some path, _ => .ok path
  | none, some home => .ok (homePath home)
  | none, none => .error (.other "HOME is not set" ["environment variable not found"])

/-- The configuration in the file at a path. -/
def load (d : Disk) (path : String) : Except CommandFailure Configuration :=
  match d.readText path with
  | .error f => .error (.other ("reading configuration from " ++ path) [f.message])
  | .ok text =>
    match ofToml? text with
    | none => .error (.configuration ("parsing configuration in " ++ path))
    | some c =>
      match c.settings.fault? with
      | some f => .error (.vault f none)
      | none => .ok c

/-- What the log says of a configuration that was loaded. -/
def loadedLine (path : String) : LogLine :=
  ⟨.debug, "backupstore::config", "configuration loaded", [("path", .plain path)]⟩

end Configuration

end MediaVault
