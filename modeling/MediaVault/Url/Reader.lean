/-
Reading addresses. Blanks and controls at the ends and line ends anywhere are
left out; then the text is cut, in this order, at the scheme, the fragment,
the query, the authority and the path, and every part is brought to its
normal form.
-/
import MediaVault.Url.Basic

namespace MediaVault.Url

/-! ## Characters kept out of the parts -/

/-- What is written with percent signs in a fragment. -/
def fragmentReserved : List Char := [' ', '"', '<', '>', '\x60']

/-- What is written with percent signs in a path. -/
def pathReserved : List Char := fragmentReserved ++ ['#', '?', '\x7b', '\x7d']

/-- What is written with percent signs in a user name or password. -/
def userReserved : List Char := pathReserved ++ ['/', ':', ';', '=', '@', '[', '\\', ']', '^', '|']

/-- What is written with percent signs in a query. -/
def queryReserved (scheme : String) : List Char :=
  [' ', '"', '#', '<', '>'] ++ (if isSpecial scheme then ['\''] else [])

/-! ## Cutting -/

/-- The text without what does not count in it. -/
def clean (s : String) : List Char :=
  let outer (c : Char) : Bool := c.toNat ≤ 0x20
  let cs := ((s.toList.dropWhile outer).reverse.dropWhile outer).reverse
  cs.filter fun c => c ≠ '\t' ∧ c ≠ '\n' ∧ c ≠ '\r'

/-- The scheme and what follows its colon. -/
def splitScheme? (cs : List Char) : Option (String × List Char) :=
  let inScheme (c : Char) : Bool := c.isAlphanum || c = '+' || c = '-' || c = '.'
  match cs.dropWhile inScheme with
  | ':' :: rest =>
    if cs.head?.any Char.isAlpha then
      some (String.ofList ((cs.takeWhile inScheme).map Char.toLower), rest)
    else none
  | _ => none

/-- What stands before a character and what follows it, if it is there. -/
def cutAt (d : Char) (cs : List Char) : List Char × Option (List Char) :=
  match cs.dropWhile (· ≠ d) with
  | [] => (cs, none)
  | _ :: rest => (cs.takeWhile (· ≠ d), some rest)

/-- What separates the segments of a path. -/
def isSlash (special : Bool) (c : Char) : Bool := c = '/' || (special && c = '\\')

/-- The user part before the last `@` of an authority, if there is one, and the rest. -/
def splitUser (cs : List Char) : Option (List Char) × List Char :=
  let host := (cs.reverse.takeWhile (· ≠ '@')).reverse
  if host.length = cs.length then (none, cs)
  else (some (cs.take (cs.length - host.length - 1)), host)

/-- The host of an authority and what follows it: a colon counts only outside of brackets. -/
def splitHost (inside : Bool) : List Char → List Char × List Char
  | [] => ([], [])
  | c :: rest =>
    if c = ':' ∧ ¬ inside then ([], c :: rest)
    else
      let (host, after) := splitHost (if c = '[' then true else if c = ']' then false else inside) rest
      (c :: host, after)

/-! ## Authorities -/

/-- What stands between the slashes and the path. -/
structure Authority where
  user : String
  password : String
  host : Host
  port : Option Nat

/-- The port after a host and what of the text is left to the path. -/
def readPort (scheme : String) (cs : List Char) : Except UrlFault (Option Nat × List Char) :=
  match cs with
  | ':' :: rest =>
    let digits := rest.takeWhile Char.isDigit
    let after := rest.dropWhile Char.isDigit
    let n := digits.foldl (fun n c => n * 10 + (c.toNat - 48)) 0
    if 65535 < n ∨ (after ≠ [] ∧ after.head? ≠ some '\\') then .error .port
    else .ok (if digits = [] ∨ defaultPort? scheme = some n then none else some n, after)
  | _ => .ok (none, cs)

/-- An authority and what of its text is left to the path. `atEnd` says that nothing follows it. -/
def readAuthority (scheme : String) (atEnd : Bool) (cs : List Char) :
    Except UrlFault (Authority × List Char) := do
  let (userPart, rest) := splitUser cs
  if userPart = some [] ∧ rest = [] ∧ ¬ atEnd then throw .emptyHost
  let (user, password) := cutAt ':' (userPart.getD [])
  let user := Percent.encode userReserved user
  let password := Percent.encode userReserved (password.getD [])
  let (hostPart, rest) := splitHost false rest
  if hostPart = [] ∧ (isSpecial scheme ∨ rest ≠ []) then throw .emptyHost
  let host ← if isSpecial scheme then Host.read hostPart else Host.readPlain hostPart
  let (port, rest) ← readPort scheme rest
  if hostPart = [] ∧ (user ≠ "" ∨ password ≠ "") then throw .emptyHost
  return (⟨user, password, host, port⟩, rest)

/-! ## Paths -/

/-- Whether a segment stands for the place where it is. -/
def isDot (segment : List Char) : Bool :=
  segment.map Char.toLower ∈ [".".toList, "%2e".toList]

/-- Whether a segment stands for the place above. -/
def isDoubleDot (segment : List Char) : Bool :=
  segment.map Char.toLower ∈ ["..".toList, ".%2e".toList, "%2e.".toList, "%2e%2e".toList]

/-- Whether a segment is the letter of a drive. -/
def isDrive (segment : List Char) : Bool :=
  match segment with
  | [a, b] => a.isAlpha && (b = ':' || b = '|')
  | _ => false

/-- Whether a segment names a drive, with or without a backslash and more after it. -/
def namesDrive (segment : List Char) : Bool :=
  isDrive (segment.take 2) && (segment.drop 2).head?.all (· = '\\')

/-- The segments of a path text. -/
def splitSegments (special : Bool) : List Char → List (List Char)
  | [] => [[]]
  | c :: rest =>
    if isSlash special c then [] :: splitSegments special rest
    else
      match splitSegments special rest with
      | [] => [[c]]
      | part :: parts => (c :: part) :: parts

/-- A path without its last segment. A drive stays. -/
def above (path : List String) : List String :=
  if path.getLast?.any (namesDrive ·.toList) then path else path.dropLast

/-- The segments that a path text leads to, from those reached so far. A drive at the beginning of
the path of a file is written with a colon. -/
def walk (file : Bool) (path : List String) : List (List Char) → List String
  | [] => path
  | segment :: rest =>
    if isDoubleDot segment then walk file (above path ++ (if rest = [] then [""] else [])) rest
    else if isDot segment then walk file (path ++ (if rest = [] then [""] else [])) rest
    else if file ∧ path = [] ∧ isDrive segment then
      walk file [String.ofList (segment.take 1 ++ [':'])] rest
    else walk file (path ++ [Percent.encode pathReserved segment]) rest

/-- A path text without the slash that it may begin with. -/
def dropSlash (special : Bool) (cs : List Char) : List Char :=
  if cs.head?.any (isSlash special) then cs.drop 1 else cs

/-- The path of a text that begins with a slash or would if it had one. -/
def readPath (special : Bool) (cs : List Char) : UrlPath :=
  .segments (walk false [] (splitSegments special (dropSlash special cs)))

/-- The segments that the path text of a file leads to. -/
def walkFile (cs : List Char) : List String := walk true [] (splitSegments true cs)

/-- The path of an address of a file, which does not begin with empty segments. -/
def trimFile (path : List String) : List String :=
  match path.dropWhile (· = "") with
  | [] => [""]
  | path => path

/-- The host and the path of an address of a file. A drive at the beginning of the path leaves no
host; where two slashes name no host, the path begins with an empty segment, and no drive does. -/
def readFile (cs : List Char) : Except UrlFault (Host × List String) := do
  match cs with
  | a :: b :: rest =>
    if isSlash true a ∧ isSlash true b then
      let hostPart := rest.takeWhile (! isSlash true ·)
      let pathPart := rest.dropWhile (! isSlash true ·)
      if isDrive hostPart then return (.name "", trimFile (walkFile rest))
      let host ← if hostPart = [] then pure (.name "") else Host.read hostPart
      if host = .name "" ∨ host = .name "localhost" then
        return (.name "", trimFile (walkFile pathPart))
      let path := walkFile (dropSlash true pathPart)
      return (if path.head?.any (isDrive ·.toList) then .name "" else host, trimFile path)
    else return (.name "", trimFile (walkFile (dropSlash true cs)))
  | _ => return (.name "", trimFile (walkFile (dropSlash true cs)))

/-! ## Addresses -/

/-- The address with an authority that follows two slashes. -/
def readHierarchy (scheme : String) (cs : List Char) (query fragment : Option String) :
    Except UrlFault Url := do
  let special := isSpecial scheme
  let authority := cs.takeWhile (! isSlash special ·)
  let path := cs.dropWhile (! isSlash special ·)
  let atEnd := path = [] ∧ query = none ∧ fragment = none
  let (a, rest) ← readAuthority scheme atEnd authority
  let path := rest ++ path
  return { scheme, user := a.user, password := a.password, host := some a.host, port := a.port
           path := if ¬ special ∧ path = [] then .segments [] else readPath special path
           query, fragment }

/-- The address that a text stands for. -/
def read (s : String) : Except UrlFault Url := do
  let some (scheme, rest) := splitScheme? (clean s) | throw .relative
  let (rest, fragment) := cutAt '#' rest
  let (rest, query) := cutAt '?' rest
  let query := query.map (Percent.encode (queryReserved scheme))
  let fragment := fragment.map (Percent.encode fragmentReserved)
  let bare : Url :=
    { scheme, user := "", password := "", host := none, port := none, path := .plain "", query
      fragment }
  if scheme = "file" then
    let (host, path) ← readFile rest
    return { bare with host := some host, path := .segments path }
  else if isSpecial scheme then
    readHierarchy scheme (rest.dropWhile (isSlash true)) query fragment
  else
    match rest with
    | '/' :: '/' :: rest => readHierarchy scheme rest query fragment
    | '/' :: _ => return { bare with path := readPath false rest }
    | _ => return { bare with path := .plain (Percent.encode [] rest) }

end MediaVault.Url
