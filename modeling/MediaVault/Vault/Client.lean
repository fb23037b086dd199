/-
The client of a vault. Copies go straight from their source to the upload
location and are sealed on the way; listings and usages are asked of the
storage manager, which knows the client by two header fields. Those fields
never go anywhere else.
-/
import MediaVault.Url.Query
import MediaVault.Vault.Listing
import MediaVault.Vault.Session
import MediaVault.Vault.Settings
import MediaVault.Vault.Upload

namespace MediaVault

/-- A client that can ask its storage manager. -/
structure Client where
  baseUrl : String
  clientId : String
  clientSecret : String

namespace Client

/-- The number of the vault that clients copy to. -/
def vaultNumber : Nat := 3

/-- The path of listings. -/
def listingPath : String := "backups"

/-- The field that names the client. -/
def idHeader : String := "CF-Access-Client-Id"

/-- The field that shows the client's secret. -/
def secretHeader : String := "CF-Access-Client-Secret"

/-- The version of the upload protocol. -/
def uploadVersion : String := "1.0.0"

/-- Where the client's lines in the log come from. -/
def origin : String := "backupstore_remote_storage::cdn3"

/-- A client with some settings, over connections that are given. -/
def ofSettings (s : Settings) : Except Failure Client :=
  match s.fault? with
  | some f => .error f
  | none =>
    if ¬ isHeaderValue s.clientId then .error (.header idHeader)
    else if ¬ isHeaderValue s.clientSecret then .error (.header secretHeader)
    else .ok { baseUrl := s.baseUrl, clientId := s.clientId, clientSecret := s.clientSecret }

/-- A client with some settings and connections that trust what the settings say. -/
def connect (s : Settings) : Except Failure Client :=
  match s.trustFault? with
  | some f => .error f
  | none => ofSettings s

/-! ## Copies -/

/-- The answer of a copy's source. -/
def fetch (source : Url) : Action Reply := do
  match ← Action.exchange .get source [] .nothing with
  | .ok reply => return reply
  | .error f => throw (.http f)

/-- The length of what a source has to deliver. -/
def sourceLength (source : Url) (expected : Nat) (reply : Reply) : Action Nat := do
  if reply.status = 404 then
    Action.log .debug origin "copy source not found" [("source", .plain source.text)]
    throw .sourceMissing
  if reply.status ≠ 200 then
    Action.log .warn origin "error reading from source"
      [("source", .plain source.text), ("status", .plain (toString reply.status))]
    throw (.transfer (some reply.status) ("error reading from source: " ++ toString reply.status))
  match reply.length? with
  | none => throw (.transfer none "upstream missing Content-Length")
  | some actual =>
    if actual ≠ expected then throw (.lengthMismatch expected actual)
    return actual

/-- The header fields of an upload of so many sealed octets. -/
def uploadHeaders (fields : Headers) (length : Nat) : Headers :=
  ((fields.insert "upload-length" (toString length)).insert "tus-resumable" uploadVersion).insert
    "content-length" (toString length)

/-- A source sealed and sent to a location. -/
def transfer (source : Url) (expected : Nat) (key : SealKey) (location : Url) (fields : Headers) :
    Action Unit := do
  let reply ← fetch source
  let length ← sourceLength source expected reply
  let sealedLength := Seal.announcedLength length
  let stream := SealStream.start key.cipher length
  match ← Action.exchange .post location (uploadHeaders fields sealedLength)
      (.sealing stream reply.body) with
  | .error f => throw (Failure.ofUpload f)
  | .ok answer =>
    if answer.status ≠ 201 ∧ answer.status ≠ 200 then
      Action.log .warn origin "upload rejected by cdn3"
        [("status", .plain (toString answer.status))]
      throw (.transfer (some answer.status) ("failed to copy object: " ++ toString answer.status))
    Action.log .info origin "copied object to cdn3"
      [("source", .plain source.text), ("plaintext_bytes", .plain (toString length)),
       ("encrypted_bytes", .plain (toString sealedLength))]

/-- The copy of a source to where a grant says. A grant for another vault is refused at once; all
else is found out when the copy runs. -/
def copy (_ : Client) (source : Url) (expected : Nat) (key : SealKey) (grant : UploadGrant) :
    Except Failure (Action Unit) :=
  if grant.vault ≠ vaultNumber then .error (.otherVault vaultNumber grant.vault)
  else .ok (Action.timed .copy do
    let location ← (grant.url : Except Failure Url)
    let fields ← (grant.fields : Except Failure Headers)
    transfer source expected key location fields)

/-! ## The storage manager -/

/-- The address that a text of the storage manager stands for. -/
def managerUrl (text : String) : Except HttpFailure Url :=
  match Url.read text with
  | .error f => .error ⟨.address, none, [.text f.message]⟩
  | .ok u =>
    if u.host?.isSome then .ok u
    else .error ⟨.address, some u, [.text "URL scheme is not allowed"]⟩

/-- The fields by which the storage manager knows the client. -/
def accessHeaders (c : Client) : Headers :=
  [("cf-access-client-id", c.clientId), ("cf-access-client-secret", c.clientSecret)]

/-- The answer of the storage manager to a question. -/
def ask (c : Client) (path : String) (pairs : List (String × String)) : Action Reply := do
  match managerUrl (c.baseUrl ++ path) with
  | .error f => throw (.http f)
  | .ok u =>
    match ← Action.exchange .get (u.addQuery pairs) c.accessHeaders .nothing with
    | .ok reply => return reply
    | .error f => throw (.http f)

/-- The whole body of an answer. -/
def bodyOf (reply : Reply) : Action Bytes := do
  match reply.wholeBody with
  | .ok body => return body
  | .error reason => throw (.http (reply.bodyFailure reason))

/-- A page with its keys as they stand after `lead`. -/
def relative (page : Page) (lead : String) : Action Page := do
  match page.relativeTo lead with
  | .ok page => return page
  | .error f =>
    if let .foreignKey key _ := f then
      Action.log .error "backupstore_remote_storage::types"
        "unexpected listing result from cdn3: entry does not contain requested prefix"
        [("key", .plain key), ("prefix", .quoted lead)]
    throw f

/-- What a listing asks for. -/
def listPairs (lead : String) (cursor : Option String) (limit : Nat) : List (String × String) :=
  [("prefix", lead), ("limit", toString limit)] ++ (cursor.map ("cursor", ·)).toList

/-- One page of the objects whose keys begin with `lead`, at most `limit` of them. -/
def list (c : Client) (lead : String) (cursor : Option String) (limit : Nat) : Action Page :=
  Action.timed .list do
    let reply ← c.ask ("/" ++ listingPath ++ "/") (listPairs lead cursor limit)
    Action.mark (.status .list reply.status)
    if ¬ reply.isSuccess then
      Action.log .warn origin "failed to list objects"
        [("prefix", .quoted lead), ("status", .plain (toString reply.status))]
      throw (.listing reply.status)
    match Page.ofJson? (← bodyOf reply) with
    | none => throw .json
    | some page =>
      let page ← relative page lead
      Action.log .debug origin "listed objects"
        [("prefix", .quoted lead), ("entries", .plain (toString page.entries.length)),
         ("more", .plain (toString page.hasMore))]
      return page

/-- How much the objects hold whose keys begin with `lead`. -/
def usage (c : Client) (lead : String) : Action Usage :=
  Action.timed .usage do
    let reply ← c.ask "/usage" [("prefix", lead)]
    Action.mark (.status .usage reply.status)
    if ¬ reply.isSuccess then
      Action.log .warn origin "failed to retrieve usage"
        [("prefix", .quoted lead), ("status", .plain (toString reply.status))]
      throw (.usage reply.status)
    match Usage.ofJson? (← bodyOf reply) with
    | none => throw .json
    | some usage => return usage

end Client

end MediaVault
