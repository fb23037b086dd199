/-
Requests and answers. A request carries nothing or a body that is sealed while
it is sent, as far as it is asked for. An answer's body arrives in parts and
may break off; when its length was announced, no more than that is received,
and less is a break.
-/
import MediaVault.Http.Failure
import MediaVault.Http.Header
import MediaVault.Seal.Stream
import MediaVault.Text.Base64
import MediaVault.Text.Decimal
import MediaVault.Url.Basic

namespace MediaVault

/-- What a request asks for. -/
inductive Method where
  | get
  | post
  deriving DecidableEq, Repr

/-- The word for a method. -/
def Method.text : Method → String
  | get => "GET"
  | post => "POST"

/-- A request as it goes out. -/
structure Request where
  method : Method
  url : Url
  headers : Headers
  deriving DecidableEq, Repr

namespace Request

/-- The value that shows a user and password to a server. -/
def basicCredentials (user : String) (password : Option String) : String :=
  let shown := Base64.encode (Bytes.ofText (user ++ ":" ++ password.getD ""))
  "Basic " ++ String.ofList (shown.map fun x => Char.ofNat x.toNat)

/-- The host as the request names it. -/
def hostText (u : Url) : String := (u.host.elim "" Host.text) ++ u.portText

/-- A request with the fields that every request has. A user in the address goes into a field. -/
def build (method : Method) (u : Url) (headers : Headers) : Request :=
  let headers := match u.credentials? with
    | some (user, password) => headers.insertNew "authorization" (basicCredentials user password)
    | none => headers
  { method, url := u.anonymous
    headers := (headers.insertNew "accept" "*/*").insertNew "host" (hostText u) }

end Request

/-- What a request carries. -/
inductive Payload where
  | nothing
  /-- A body sealed from what a source delivers. -/
  | sealing (stream : SealStream) (source : List Arrival)

namespace Payload

/-- As many times as a payload has to be asked until it has ended. -/
def enough : Payload → Nat
  | nothing => 0
  | sealing stream source => stream.pollBound source

/-- What goes out of a payload that is asked `n` times, and the fault that ended it if one did. -/
def drawn (n : Nat) : Payload → Bytes × Option SealFault
  | nothing => ([], none)
  | sealing stream source => stream.drawn n source

/-- Whether all of a payload has gone out when it was asked `n` times. -/
def isSpent (n : Nat) : Payload → Bool
  | nothing => true
  | sealing stream source => stream.isSpent n source

end Payload

/-- An answer to a request. -/
structure Reply where
  status : Nat
  /-- The announced length of the body, as it was written. -/
  contentLength : Option String
  body : List Arrival
  /-- Whether the body, where it breaks off, does so because nothing more of it came in time. -/
  stalls : Bool := false
  deriving DecidableEq, Repr

namespace Reply

/-- The words for a body that broke off. -/
def bodyBroken : String := "error decoding response body"

/-- An answer whose length is announced, `length` where it is not that of its body. -/
def announced (status : Nat) (length : Option Nat) (body : Bytes) : Reply :=
  let body := if status = 204 ∨ status = 304 then [] else body
  let n := length.getD body.length
  { status, contentLength := some (toString n)
    body := [.chunk (body.take n)]
      ++ (if body.length < n ∧ status ≠ 204 ∧ status ≠ 304 then [.failure bodyBroken] else []) }

/-- An answer whose body is sent in parts, whatever its announced length says. -/
def inParts (status : Nat) (length : Option String) (parts : List Bytes) : Reply :=
  { status, contentLength := length
    body := if status = 204 ∨ status = 304 then [] else parts.map .chunk }

/-- The announced length where it is a whole number. -/
def length? (r : Reply) : Option Nat := r.contentLength.bind (Text.natural? Text.maxWord64)

/-- The whole body, unless it breaks off. -/
def wholeBody (r : Reply) : Except String Bytes :=
  r.body.foldlM (fun got a =>
    match a with
    | .pending => .ok got
    | .chunk data => .ok (got ++ data)
    | .failure reason => .error reason) []

/-- The failure of an answer whose body broke off for this reason. -/
def bodyFailure (r : Reply) (reason : String) : HttpFailure :=
  ⟨if r.stalls then .stalledBody else .body, none, [.text reason]⟩

/-- Whether the status says that the request was done. -/
def isSuccess (r : Reply) : Bool := 200 ≤ r.status && r.status < 300

end Reply

end MediaVault
