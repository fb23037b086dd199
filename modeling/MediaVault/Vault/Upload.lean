/-
Leave to upload one object: the vault it was given for, the location to upload
to, and the header fields that the upload must have. A field given twice has
its last value.
-/
import MediaVault.Http.Header
import MediaVault.Json.Reader
import MediaVault.Json.Value
import MediaVault.Text.Decimal
import MediaVault.Url.Reader
import MediaVault.Vault.Failure

namespace MediaVault

/-- Leave to upload one object. -/
structure UploadGrant where
  /-- The number of the vault. -/
  vault : Nat
  location : String
  /-- Names and values as they were given, with distinct names. -/
  headers : List (String × String)
  deriving DecidableEq, Repr

namespace UploadGrant

/-- Names and values with one value set. -/
def setHeader (headers : List (String × String)) (name value : String) : List (String × String) :=
  headers.filter (·.1 ≠ name) ++ [(name, value)]

/-- Names and values of which the last one of each name counts. -/
def gather (pairs : List (String × String)) : List (String × String) :=
  pairs.foldl (fun headers (name, value) => setHeader headers name value) []

/-- A grant of which some parts are still missing. -/
structure Draft where
  vault : Option Nat := none
  location : Option String := none
  headers : Option (List (String × String)) := none

open Json.Reader in
/-- The parts of a grant as the members of a JSON record. -/
def members : List (Member Draft) :=
  [{ name := "cdn", isRead := (·.vault.isSome)
     read := fun d => do return { d with vault := some (← number Text.maxWord32) } },
   { name := "signedUploadLocation", isRead := (·.location.isSome)
     read := fun d => do return { d with location := some (← text) } },
   { name := "headers", isRead := (·.headers.isSome)
     read := fun d => do
       let headers ← object (fun name headers => do return setHeader headers name (← text)) []
       return { d with headers := some headers } }]

/-- The grant that a draft has become. -/
def ofDraft? (d : Draft) : Option UploadGrant := do
  return { vault := ← d.vault, location := ← d.location, headers := d.headers.getD [] }

/-- The grant that a JSON text holds. -/
def ofJson? (text : Bytes) : Option UploadGrant :=
  (Json.Reader.whole (Json.Reader.record members {}) text).bind ofDraft?

/-- A grant as JSON. -/
def toJson (g : UploadGrant) : Json :=
  .record [("cdn", .number g.vault), ("signedUploadLocation", .text g.location),
    ("headers", .record (g.headers.map fun (name, value) => (name, .text value)))]

/-- The address to upload to. -/
def url (g : UploadGrant) : Except Failure Url :=
  match Url.read g.location with
  | .ok u => .ok u
  | .error f => .error (.location (g.location ++ ": " ++ f.message))

/-- The header fields of the upload. A bad name is named as it was given, a bad value by the name
in lower case. -/
def fields (g : UploadGrant) : Except Failure Headers :=
  g.headers.foldlM (fun fields (name, value) =>
    match HeaderName.read? name with
    | none => .error (.header name)
    | some field =>
      if isHeaderValue value then .ok (fields.insert field value) else .error (.header field)) []

end UploadGrant

end MediaVault
