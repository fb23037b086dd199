/-
The settings of a client: where its vault is, who it says it is, how long it
waits for a connection and whom it trusts. The secret is never shown. Settings
are read from parts that may still be missing, of which the waiting time and
the trusted certificates have a default.
-/
import MediaVault.Json.Reader
import MediaVault.Json.Value
import MediaVault.Text.Decimal
import MediaVault.Text.Quoted
import MediaVault.Trust.Certificate
import MediaVault.Url.Reader
import MediaVault.Vault.Failure

namespace MediaVault

/-- The settings of a client. -/
structure Settings where
  baseUri : String
  clientId : String
  clientSecret : String
  /-- How many seconds a connection is waited for. -/
  connectTimeout : Nat
  /-- The certificates that are trusted in place of the usual ones, if there are any. -/
  trusted : List String
  deriving DecidableEq, Repr

namespace Settings

/-- Settings of which some are still missing. -/
structure Draft where
  baseUri : Option String := none
  clientId : Option String := none
  clientSecret : Option String := none
  connectTimeout : Option Nat := none
  trusted : Option (List String) := none

/-- The waiting time where none is given. -/
def defaultTimeout : Nat := 10

/-- The settings that a draft has become. -/
def ofDraft? (d : Draft) : Option Settings := do
  return {
    baseUri := ← d.baseUri
    clientId := ← d.clientId
    clientSecret := ← d.clientSecret
    connectTimeout := d.connectTimeout.getD defaultTimeout
    trusted := d.trusted.getD [] }

/-- The names of the settings, in their order. -/
def names : List String :=
  ["base_uri", "client_id", "client_secret", "connect_timeout_secs", "cdn_ca_certificates"]

open Json.Reader in
/-- The settings as the members of a JSON record. -/
def members : List (Member Draft) :=
  [{ name := "base_uri", isRead := (·.baseUri.isSome)
     read := fun d => do return { d with baseUri := some (← text) } },
   { name := "client_id", isRead := (·.clientId.isSome)
     read := fun d => do return { d with clientId := some (← text) } },
   { name := "client_secret", isRead := (·.clientSecret.isSome)
     read := fun d => do return { d with clientSecret := some (← text) } },
   { name := "connect_timeout_secs", isRead := (·.connectTimeout.isSome)
     read := fun d => do return { d with connectTimeout := some (← number Text.maxWord64) } },
   { name := "cdn_ca_certificates", isRead := (·.trusted.isSome)
     read := fun d => do return { d with trusted := some (← list text) } }]

/-- The settings that a JSON text holds. -/
def ofJson? (text : Bytes) : Option Settings :=
  (Json.Reader.whole (Json.Reader.record members {}) text).bind ofDraft?

/-- The settings as JSON. -/
def toJson (s : Settings) : Json :=
  .record [("base_uri", .text s.baseUri), ("client_id", .text s.clientId),
    ("client_secret", .text s.clientSecret), ("connect_timeout_secs", .number s.connectTimeout),
    ("cdn_ca_certificates", .list (s.trusted.map .text))]

/-- What may be shown of the settings. -/
def redacted (s : Settings) : String :=
  "Cdn3Config \x7b base_uri: " ++ Text.quote s.baseUri ++ ", client_id: " ++ Text.quote s.clientId
    ++ ", client_secret: \"<redacted>\", connect_timeout_secs: " ++ toString s.connectTimeout
    ++ ", cdn_ca_certificates: " ++ toString s.trusted.length ++ " \x7d"

/-- The base address without one slash at its end. -/
def baseUrl (s : Settings) : String :=
  match s.baseUri.toList.reverse with
  | '/' :: rest => String.ofList rest.reverse
  | _ => s.baseUri

/-- What is wrong with the settings, if anything is. -/
def fault? (s : Settings) : Option Failure :=
  match Url.read s.baseUrl with
  | .error f => some (.settings ("base_uri " ++ Text.quote s.baseUri ++ ": " ++ f.message))
  | .ok _ =>
    if s.clientId = "" then some (.settings "client_id is empty")
    else if s.clientSecret = "" then some (.settings "client_secret is empty")
    else if s.connectTimeout = 0 then some (.settings "connect_timeout_secs must be positive")
    else none

/-- What is wrong with the trusted certificates, if anything is. -/
def trustFault? (s : Settings) : Option Failure :=
  if s.trusted.all Certificate.isTrustText then none
  else some (.http ⟨.address, none, [.text "invalid certificate encoding"]⟩)

end Settings

end MediaVault
