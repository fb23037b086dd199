/-
Addresses in their normal form. Every part is kept as it is written, with
percent signs in it, so that the text of an address is its parts put together.
-/
import MediaVault.Url.Host

namespace MediaVault

/-- The path of an address: segments after a slash each, or a text of no structure. -/
inductive UrlPath where
  | segments (parts : List String)
  | plain (text : String)
  deriving DecidableEq, Repr

/-- An address. Without a host it has no authority at all; an authority with nothing in it is an
empty host name. -/
structure Url where
  scheme : String
  user : String
  password : String
  host : Option Host
  port : Option Nat
  path : UrlPath
  query : Option String
  fragment : Option String
  deriving DecidableEq, Repr

namespace UrlPath

/-- The text of a path. -/
def text : UrlPath → String
  | segments parts => String.join (parts.map ("/" ++ ·))
  | plain s => s

end UrlPath

namespace Url

/-- The port that a scheme stands for. -/
def defaultPort? : String → Option Nat
  | "http" | "ws" => some 80
  | "https" | "wss" => some 443
  | "ftp" => some 21
  | _ => none

/-- Whether the scheme is one of those with rules of their own for hosts and slashes. -/
def isSpecial (scheme : String) : Bool := (defaultPort? scheme).isSome || scheme == "file"

/-- The host that stands in an authority, unless it is empty. -/
def host? (u : Url) : Option Host := u.host.filter (· ≠ .name "")

/-- User and password as they stand before the host. -/
def userText (u : Url) : String :=
  if u.user = "" ∧ u.password = "" then ""
  else u.user ++ (if u.password = "" then "" else ":" ++ u.password) ++ "@"

/-- A port after its colon. -/
def portText (u : Url) : String := u.port.elim "" fun n => ":" ++ toString n

/-- The authority with its slashes. A path that would be taken for one is kept apart. -/
def authorityText (u : Url) : String :=
  match u.host with
  | some host => "//" ++ u.userText ++ host.text ++ u.portText
  | none =>
    match u.path with
    | .segments ("" :: _ :: _) => "/."
    | _ => ""

/-- The text of an address. -/
def text (u : Url) : String :=
  u.scheme ++ ":" ++ u.authorityText ++ u.path.text
    ++ u.query.elim "" ("?" ++ ·) ++ u.fragment.elim "" ("#" ++ ·)

/-- User and password, where their percent forms stand for text. A password that does not is left
out. -/
def credentials? (u : Url) : Option (String × Option String) := do
  guard u.host.isSome
  let user ← (Percent.decode (Bytes.ofText u.user)).text?
  let password :=
    if u.password = "" then none else (Percent.decode (Bytes.ofText u.password)).text?
  if user = "" ∧ password = none then none else return (user, password)

/-- The address that a request is made to: without the user, if that can be told to the server in
another way. -/
def anonymous (u : Url) : Url :=
  if u.credentials?.isSome then { u with user := "", password := "" } else u

/-- The address as a server hears it. -/
def target (u : Url) : Url := { u with user := "", password := "", fragment := none }

end Url

end MediaVault
