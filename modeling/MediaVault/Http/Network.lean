/-
The network as one exchange after another meets it: for each request in order,
whether a connection is made for it and what the server does then, which it may
do before it has the whole request. A secure connection that cannot be agreed on
is one that is not made. Where a server sends a client elsewhere, what comes in
the end is the answer. What is sent is written down whether or not it arrives,
since only a whole request is one that a server has heard.
-/
import MediaVault.Http.Failure
import MediaVault.Http.Message

namespace MediaVault

/-- What a server does about a request. -/
inductive Reaction where
  | reply (r : Reply)
  /-- The connection ends without an answer. -/
  | hangUp
  /-- Nothing ever comes. -/
  | silence
  deriving DecidableEq, Repr

/-- How much of a request's body goes out where a server acts before it was sent all of it, since it
refuses the request or has as many octets as were announced. -/
structure Early where
  /-- How often the body was asked for more before the server acted. -/
  before : Nat
  /-- How often it was asked for more after that. -/
  after : Nat
  deriving DecidableEq, Repr

/-- How often the body was asked for more in all. -/
def Early.asked (e : Early) : Nat := e.before + e.after

/-- How a payload goes out. A server that is not early takes it to its end. -/
def Payload.pace (p : Payload) (early : Option Early) : Early := early.getD ⟨p.enough, 0⟩

/-- What a request meets with. -/
inductive Answer where
  /-- No connection is made, for these reasons, the nearest first. -/
  | unconnected (causes : List String)
  /-- A connection is waited for in vain. -/
  | unmet
  /-- A server acts, early or when it was sent the whole request. -/
  | met (reaction : Reaction) (early : Option Early)
  deriving DecidableEq, Repr

namespace Answer

/-- A server that replies to the whole request. -/
def reply (r : Reply) : Answer := .met (.reply r) none

/-- A server that takes the whole request and ends the connection. -/
def hangUp : Answer := .met .hangUp none

/-- A server that takes the whole request and does nothing. -/
def silence : Answer := .met .silence none

/-- The reply in an answer. -/
def reply? : Answer → Option Reply
  | met (.reply r) _ => some r
  | _ => none

end Answer

/-- Whether there is a way to any server. -/
inductive Reach where
  | available
  /-- Every connection fails, for this reason. -/
  | barred (reason : String)
  /-- Every connection is waited for in vain. -/
  | silent
  deriving DecidableEq, Repr

/-- The network with the answers that are still to come. -/
structure Network where
  reach : Reach
  gets : List Answer
  posts : List Answer
  deriving DecidableEq, Repr

/-- A request that was sent, with as much of its body as went out. -/
structure Attempt where
  request : Request
  sent : Bytes
  /-- Whether the request and all of its body went out. -/
  complete : Bool
  deriving DecidableEq, Repr

namespace Network

/-- Whether the scheme and the host of an address can be asked over HTTP. -/
def speaks (u : Url) : Bool := u.host?.isSome && (u.scheme == "http" || u.scheme == "https")

/-- The greatest length of an address in a request. -/
def maxUrlLength : Nat := 65534

/-- Whether a request line can hold the address: its host name has none of four signs that an
address may have, and it is not too long. -/
def fits (u : Url) : Bool :=
  u.text.length ≤ maxUrlLength &&
    match u.host with
    | some (.name s) => s.toList.all fun c => !"\"\x60\x7b\x7d".toList.contains c
    | _ => true

/-- What went wrong before anything was sent, if something did. -/
def addressFailure? (u : Url) : Option HttpFailure :=
  if ¬ speaks u then some ⟨.address, some u, [.text "URL scheme is not allowed"]⟩
  else if ¬ fits u then some ⟨.address, some u, [.text "Parsed Url is not a valid Uri"]⟩
  else none

/-- The failure of an exchange that was cut off, with what lies beneath. -/
def brokenOff (u : Url) (causes : List Cause) : HttpFailure :=
  ⟨.exchange, some u, .text "client error (SendRequest)" :: causes⟩

/-- The failure of an exchange for which nothing came in time. -/
def timedOut (u : Url) : HttpFailure := ⟨.waiting, some u, [.text "operation timed out"]⟩

/-- The failure of an exchange for which no connection could be made. -/
def noConnection (u : Url) (causes : List String) : HttpFailure :=
  ⟨.connection, some u, .text "client error (Connect)" :: causes.map .text⟩

/-- What the next request of a method meets with, and the network after it. Without a way to any
server no answer is used up. When there is none left the connection ends. -/
def nextAnswer (n : Network) (method : Method) : Answer × Network :=
  match n.reach, method with
  | .barred reason, _ => (.unconnected ["tcp connect error", reason], n)
  | .silent, _ => (.unmet, n)
  | .available, .get => (n.gets.head?.getD .hangUp, { n with gets := n.gets.drop 1 })
  | .available, .post => (n.posts.head?.getD .hangUp, { n with posts := n.posts.drop 1 })

/-- What the sender makes of what a server does. -/
def received (u : Url) : Reaction → Except HttpFailure Reply
  | .reply r => .ok r
  | .hangUp => .error (brokenOff u [.text "connection closed before message completed"])
  | .silence => .error (timedOut u)

/-- What comes of a request that meets with an answer, and what was sent of it. A fault of the
payload only counts if it is met with before the server acts. -/
def deliver (request : Request) (payload : Payload) :
    Answer → Except HttpFailure Reply × Attempt
  | .unconnected causes => (.error (noConnection request.url causes), ⟨request, [], false⟩)
  | .unmet => (.error (timedOut request.url), ⟨request, [], false⟩)
  | .met reaction early =>
    let pace := payload.pace early
    match payload.drawn pace.before with
    | (sent, some fault) =>
      (.error (brokenOff request.url [.text "error from user's Body stream", .sealing fault]),
        ⟨request, sent, false⟩)
    | (_, none) =>
      (received request.url reaction,
        ⟨request, (payload.drawn pace.asked).1, payload.isSpent pace.asked⟩)

/-- One exchange: what came of it, what was sent if anything was, and the network after it. -/
def exchange (n : Network) (method : Method) (u : Url) (headers : Headers) (payload : Payload) :
    Except HttpFailure Reply × Option Attempt × Network :=
  let request := Request.build method u headers
  match addressFailure? request.url with
  | some f => (.error f, none, n)
  | none =>
    let (answer, n) := n.nextAnswer method
    let (result, attempt) := deliver request payload answer
    (result, some attempt, n)

end Network

end MediaVault
