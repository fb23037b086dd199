/-
Blocks of Base64 between lines that say what they hold. Lines outside of
blocks do not matter. A text is spoiled by a block that does not end, by an
opening line without its dashes, and by a block of a known kind that does not
hold Base64.

A block that is opened before the one in front of it has ended takes over the
lines of that one.
-/
import MediaVault.Text.Base64

namespace MediaVault.Armor

/-- A block: what it says it holds, and its octets. -/
structure Block where
  label : Bytes
  content : Bytes
  deriving DecidableEq, Repr

/-- The beginning of the line that opens a block. -/
def opening : Bytes := Bytes.ofText "-----BEGIN "

/-- The beginning of the line that closes a block. -/
def closing : Bytes := Bytes.ofText "-----END "

/-- The sign that labels stand between. -/
def dash : UInt8 := 0x2d

/-- What follows a label. -/
def dashes : Bytes := List.replicate 5 dash

/-- The labels of the blocks whose content is looked at. -/
def knownLabels : List Bytes :=
  ["CERTIFICATE", "PUBLIC KEY", "RSA PRIVATE KEY", "PRIVATE KEY", "EC PRIVATE KEY", "X509 CRL",
    "CERTIFICATE REQUEST", "ECHCONFIG"].map Bytes.ofText

/-! ## Lines -/

/-- The lines of a text, without what ends them: every line feed and every carriage return. -/
def lines : Bytes → List Bytes
  | [] => [[]]
  | x :: rest =>
    if x = 0x0a ∨ x = 0x0d then [] :: lines rest
    else
      match lines rest with
      | [] => [[x]]
      | line :: more => (x :: line) :: more

/-- The label in the line that opens a block: what stands before the five dashes at its end, which
may have blanks between them and after them. `none` where there are more dashes or fewer. -/
def label? (line : Bytes) : Option Bytes :=
  let tail := (line.reverse.takeWhile fun x => x = dash || x = 0x20).reverse
  if tail.count dash = dashes.length then
    some ((line.take (line.length - tail.length) ++ tail.takeWhile (· ≠ dash)).drop opening.length)
  else none

/-- Whether a line closes the block of a label. -/
def closes (label line : Bytes) : Bool := (closing ++ label ++ dashes).isPrefixOf line

/-! ## Contents -/

/-- What may stand between the symbols of a content. -/
def isBlank (x : UInt8) : Bool := x = 0x20 || (0x09 ≤ x && x ≤ 0x0d)

/-- The octets of values below 64: three for four of them, and as many as are complete for what is
left. -/
def octets : List Nat → Bytes
  | a :: b :: c :: d :: rest =>
    let n := ((a * 64 + b) * 64 + c) * 64 + d
    UInt8.ofNat (n / 65536) :: UInt8.ofNat (n / 256 % 256) :: UInt8.ofNat (n % 256) :: octets rest
  | [a, b, c] =>
    let n := (a * 64 + b) * 64 + c
    [UInt8.ofNat (n / 1024), UInt8.ofNat (n / 4 % 256)]
  | [a, b] => [UInt8.ofNat (a * 4 + b / 16)]
  | _ => []

/-- The octets of Base64 with blanks in it. The padding may be left out, but what is there of it
fills up the last group; bits that stand for nothing do not matter. -/
def decode? (text : Bytes) : Option Bytes := do
  let text := text.filter (! isBlank ·)
  let body := text.takeWhile (· ≠ Base64.padding)
  let fill := text.drop body.length
  let values ← body.mapM Base64.value?
  if body.length % 4 = 1 then none
  if fill.any (· ≠ Base64.padding) then none
  if fill ≠ [] ∧ ¬ (fill.length ≤ 2 ∧ text.length % 4 = 0) then none
  return octets values

/-! ## Blocks -/

/-- What is known in the middle of a text: the label of the block that is open, and the lines that
belong to the next block that ends. -/
structure Progress where
  label : Option Bytes
  gathered : Bytes

namespace Progress

/-- Before the first line. -/
def start : Progress := ⟨none, []⟩

/-- What a line leads to, and the block that it ends. -/
def step (p : Progress) (line : Bytes) : Option (Progress × Option Block) :=
  if opening.isPrefixOf line then
    (label? line).map fun label => ({ p with label := some label }, none)
  else
    match p.label with
    | none => some (p, none)
    | some label =>
      if ! closes label line then some ({ p with gathered := p.gathered ++ line }, none)
      else if knownLabels.contains label then
        (decode? p.gathered).map fun content => (start, some ⟨label, content⟩)
      else some (start, none)

/-- The blocks that end in some lines. -/
def blocks? (p : Progress) : List Bytes → Option (List Block)
  | [] => if p.label.isSome then none else some []
  | line :: rest => do
    let (next, block) ← p.step line
    return block.toList ++ (← next.blocks? rest)

end Progress

/-- The blocks of a text. -/
def blocks? (text : String) : Option (List Block) := Progress.start.blocks? (lines (Bytes.ofText text))

end MediaVault.Armor
