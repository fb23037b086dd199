/-
The hosts of addresses: names, and numbers of the fourth and sixth version
of the protocol. A name whose last label looks like a number must be a number
of the fourth version; brackets hold one of the sixth. A name of any script is
kept in its form of ASCII.
-/
import MediaVault.Url.Name
import MediaVault.Url.Percent

namespace MediaVault

/-- Why a text is no address. -/
inductive UrlFault where
  | relative
  | emptyHost
  | port
  | hostV4
  | hostV6
  | hostName
  | hostCharacter
  deriving DecidableEq, Repr

/-- The wording of a refusal. -/
def UrlFault.message : UrlFault → String
  | relative => "relative URL without a base"
  | emptyHost => "empty host"
  | port => "invalid port number"
  | hostV4 => "invalid IPv4 address"
  | hostV6 => "invalid IPv6 address"
  | hostName => "invalid international domain name"
  | hostCharacter => "invalid domain character"

/-- The host of an address. -/
inductive Host where
  | name (s : String)
  | v4 (address : Nat)
  /-- Eight pieces of sixteen bits each. -/
  | v6 (pieces : List Nat)
  deriving DecidableEq, Repr

namespace Host

/-- The parts of a text between the places where a character stands. -/
def splitAt (d : Char) : List Char → List (List Char)
  | [] => [[]]
  | c :: rest =>
    if c = d then [] :: splitAt d rest
    else
      match splitAt d rest with
      | [] => [[c]]
      | part :: parts => (c :: part) :: parts

/-- The number written by digits of a base, none of which may be another character. -/
def digits? (base : Nat) (cs : List Char) : Option Nat :=
  cs.foldlM (fun n c => do
    let d ← Bytes.hexValue? (UInt8.ofNat c.toNat)
    if c.toNat < 0x80 ∧ d < base then return n * base + d else none) 0

/-! ## Version four -/

/-- One part of a number of version four: hexadecimal after `0x`, octal after a zero. -/
def part? : List Char → Option Nat
  | [] => none
  | '0' :: 'x' :: cs | '0' :: 'X' :: cs => digits? 16 cs
  | ['0'] => some 0
  | '0' :: cs => digits? 8 cs
  | cs => digits? 10 cs

/-- Whether a name is meant as a number of version four. -/
def endsInNumber (name : List Char) : Bool :=
  let last := match (splitAt '.' name).reverse with
    | [] :: last :: _ => last
    | last :: _ => last
    | [] => []
  (last ≠ [] && last.all Char.isDigit) || (part? last).isSome

/-- The number of version four written by up to four parts, of which the last fills up the rest. -/
def readV4 (name : List Char) : Except UrlFault Nat := do
  let parts := match (splitAt '.' name).reverse with
    | [] :: rest => rest
    | rest => rest
  let some numbers := parts.mapM part? | throw .hostV4
  match numbers with
  | [] => throw .hostV4
  | last :: front =>
    if 3 < front.length ∨ front.any (255 < ·) ∨ Nat.pow 256 (4 - front.length) ≤ last then throw .hostV4
    return front.reverse.foldl (fun n x => n * 256 + x) 0 * Nat.pow 256 (4 - front.length) + last

/-- A number of version four as four parts. -/
def writeV4 (n : Nat) : String :=
  ".".intercalate ([n / 16777216, n / 65536 % 256, n / 256 % 256, n % 256].map toString)

/-! ## Version six -/

/-- One of the four parts of version four that may end a number of version six. -/
def tailPart? (cs : List Char) : Option Nat :=
  if cs = [] ∨ (cs.head? = some '0' ∧ cs.length ≠ 1) then none
  else (digits? 10 cs).filter (· ≤ 255)

/-- The two pieces written as four parts of version four. -/
def tailPieces? (cs : List Char) : Option (List Nat) := do
  match ← (splitAt '.' cs).mapM tailPart? with
  | [a, b, c, d] => return [a * 256 + b, c * 256 + d]
  | _ => none

/-- The pieces of a number of version six, and how many of them stand before its gap. The gap counts
as a piece while it is read. -/
def pieces? (read : List Nat) (gap : Option Nat) (cs : List Char) : Option (List Nat × Option Nat) :=
  let digits := (cs.take 4).takeWhile fun c => (digits? 16 [c]).isSome
  match _h : cs with
  | [] => some (read, gap)
  | ':' :: rest =>
    if read.length = 8 ∨ gap.isSome then none
    else pieces? (read ++ [0]) (some (read.length + 1)) rest
  | _ :: _ =>
    if read.length = 8 then none
    else
      match _hd : cs.drop digits.length with
      | [] => do return (read ++ [← digits? 16 digits], gap)
      | '.' :: _ =>
        if digits = [] ∨ 6 < read.length then none
        else do return (read ++ (← tailPieces? cs), gap)
      | ':' :: rest =>
        if rest = [] then none
        else do pieces? (read ++ [← digits? 16 digits]) gap rest
      | _ => none
termination_by cs.length
decreasing_by
  · simp
  · have := congrArg List.length _hd
    simp only [List.length_drop, List.length_cons, _h] at this ⊢
    omega

/-- The number of version six between brackets. -/
def readV6 (cs : List Char) : Except UrlFault (List Nat) :=
  let start := match cs with
    | ':' :: ':' :: rest => pieces? [0] (some 1) rest
    | ':' :: _ => none
    | [_] => none
    | [] => none
    | cs => pieces? [] none cs
  match start with
  | some (pieces, some gap) =>
    .ok (pieces.take gap ++ List.replicate (8 - pieces.length) 0 ++ pieces.drop gap)
  | some (pieces, none) => if pieces.length = 8 then .ok pieces else .error .hostV6
  | none => .error .hostV6

/-- The place and the length of the first longest run of zero pieces. -/
def longestGap (pieces : List Nat) : Nat × Nat :=
  (List.range pieces.length).foldl (fun best i =>
    let n := ((pieces.drop i).takeWhile (· = 0)).length
    if best.2 < n then (i, n) else best) (0, 0)

/-- Pieces in hexadecimal with colons between them. -/
def writePieces (pieces : List Nat) : String :=
  ":".intercalate (pieces.map fun n => String.ofList (Nat.toDigits 16 n))

/-- A number of version six, in which the longest run of two zeros or more is left out. -/
def writeV6 (pieces : List Nat) : String :=
  let (start, n) := longestGap pieces
  if n < 2 then writePieces pieces
  else writePieces (pieces.take start) ++ "::" ++ writePieces (pieces.drop (start + n))

/-! ## Hosts -/

/-- What may not stand in a host name. -/
def isDenied (c : Char) : Bool := c.toNat ≤ 0x20 || c.toNat = 0x7f || "%#/:<>?@[\\]^|".toList.contains c

/-- What may not stand in the host of an address of an unknown scheme. -/
def isForbidden (c : Char) : Bool := "\x00\t\n\r #/:<>?@[\\]^|".toList.contains c

/-- The text between brackets, if there are any. -/
def bracketed? (cs : List Char) : Option (Except UrlFault (List Char)) :=
  match cs with
  | '[' :: rest =>
    if rest.getLast? = some ']' then some (.ok rest.dropLast) else some (.error .hostV6)
  | _ => none

/-- The host of an address of a known scheme. -/
def read (cs : List Char) : Except UrlFault Host := do
  match bracketed? cs with
  | some inner => return .v6 (← readV6 (← inner))
  | none =>
    let octets := Percent.decode (Bytes.ofText (String.ofList cs))
    let some s := (Bytes.text? octets).bind (HostName.toAscii? ·.toList) | throw .hostName
    if s.any isDenied then throw .hostName
    if s = [] then throw .emptyHost
    if endsInNumber s then return .v4 (← readV4 s)
    return .name (String.ofList s)

/-- The host of an address of an unknown scheme, whose name is kept as it is. -/
def readPlain (cs : List Char) : Except UrlFault Host := do
  match bracketed? cs with
  | some inner => return .v6 (← readV6 (← inner))
  | none =>
    if cs.any isForbidden then throw .hostCharacter
    return .name (Percent.encode [] cs)

/-- The text of a host. -/
def text : Host → String
  | name s => s
  | v4 n => writeV4 n
  | v6 pieces => "[" ++ writeV6 pieces ++ "]"

end Host

end MediaVault
