/-
Reading JSON into known shapes. A reader takes the octets of a text and gives
what it has read with the octets after it, or nothing when the text does not
fit. Texts that are kept must be valid UTF-8 with paired surrogates; values
that are passed over are only followed to their end, to any depth.
-/
import MediaVault.Bytes

namespace MediaVault.Json

/-- A reader of the front of some octets. -/
abbrev Reader (α : Type) := StateT Bytes Option α

namespace Reader

/-! ## Signs and blanks -/

/-- Blanks between the parts of a text. -/
def isBlank (x : UInt8) : Bool := x = 0x20 || x = 0x0a || x = 0x0d || x = 0x09

/-- Passes over blanks. -/
def blanks : Reader Unit := modify (·.dropWhile isBlank)

/-- The next octet after blanks, which stays where it is. -/
def peek : Reader UInt8 := do
  blanks
  (← get).head?

/-- Takes the given octet after blanks. -/
def sign (c : Char) : Reader Unit := do
  if (← peek) = UInt8.ofNat c.toNat then modify (·.drop 1) else failure

/-- Whether the given octet is next after blanks. -/
def next? (c : Char) : Reader Bool := do return (← peek) = UInt8.ofNat c.toNat

/-! ## Texts -/

/-- The value of four hexadecimal digits. -/
def hexWord? (a b c d : UInt8) : Option Nat := do
  return (((← Bytes.hexValue? a) * 16 + (← Bytes.hexValue? b)) * 16 + (← Bytes.hexValue? c)) * 16 + (← Bytes.hexValue? d)

/-- What a single character after a backslash stands for. -/
def shortEscape? (x : UInt8) : Option UInt8 :=
  match x.toNat with
  | 0x22 => some 0x22
  | 0x5c => some 0x5c
  | 0x2f => some 0x2f
  | 0x62 => some 0x08
  | 0x66 => some 0x0c
  | 0x6e => some 0x0a
  | 0x72 => some 0x0d
  | 0x74 => some 0x09
  | _ => none

/-- The UTF-8 form of a code point that is no surrogate. -/
def codePoint? (n : Nat) : Option Bytes :=
  if n.isValidChar then some (String.utf8EncodeChar (Char.ofNat n)) else none

/-- The octets of a text after its opening quote, unescaped, and what follows its closing quote. -/
def textBody : Bytes → Option (Bytes × Bytes)
  | 0x22 :: rest => some ([], rest)
  | 0x5c :: 0x75 :: a :: b :: c :: d :: 0x5c :: 0x75 :: e :: f :: g :: h :: rest => do
    let high ← hexWord? a b c d
    if 0xd800 ≤ high ∧ high < 0xdc00 then
      let low ← hexWord? e f g h
      if 0xdc00 ≤ low ∧ low < 0xe000 then
        let front ← codePoint? (0x10000 + (high - 0xd800) * 0x400 + (low - 0xdc00))
        let (s, after) ← textBody rest
        return (front ++ s, after)
      else none
    else
      let front ← codePoint? high
      let (s, after) ← textBody (0x5c :: 0x75 :: e :: f :: g :: h :: rest)
      return (front ++ s, after)
  | 0x5c :: 0x75 :: a :: b :: c :: d :: rest => do
    let front ← (hexWord? a b c d).bind codePoint?
    let (s, after) ← textBody rest
    return (front ++ s, after)
  | 0x5c :: x :: rest => do
    let front ← shortEscape? x
    let (s, after) ← textBody rest
    return (front :: s, after)
  | x :: rest =>
    if x < 0x20 ∨ x = 0x5c then none
    else do
      let (s, after) ← textBody rest
      return (x :: s, after)
  | [] => none

/-- A text that is kept. -/
def text : Reader String := do
  sign '"'
  let (s, after) ← textBody (← get)
  set after
  Bytes.text? s

/-! ## Numbers -/

/-- A decimal digit. -/
def isDigit (x : UInt8) : Bool := 48 ≤ x.toNat && x.toNat ≤ 57

/-- A whole number from zero to `bound`, written without sign, leading zeros, point and exponent. -/
def number (bound : Nat) : Reader Nat := do
  blanks
  let digits := (← get).takeWhile isDigit
  let after := (← get).dropWhile isDigit
  let n := digits.foldl (fun n x => n * 10 + (x.toNat - 48)) 0
  if digits = [] ∨ (digits.head? = some 48 ∧ digits.length ≠ 1) ∨ bound < n then failure
  if after.head?.any (fun x => x = 0x2e ∨ x = 0x65 ∨ x = 0x45) then failure
  set after
  return n

/-- What remains after a run of digits that must not be empty. -/
def skipDigits (b : Bytes) : Option Bytes :=
  if b.head?.any isDigit then some (b.dropWhile isDigit) else none

/-- What remains after a number of any form. -/
def skipNumber (b : Bytes) : Option Bytes := do
  let b := if b.head? = some 0x2d then b.drop 1 else b
  let b ← if b.head? = some 48 then
      (if (b.drop 1).head?.any isDigit then none else some (b.drop 1))
    else skipDigits b
  let b ← if b.head? = some 0x2e then skipDigits (b.drop 1) else some b
  if b.head?.any (fun x => x = 0x65 ∨ x = 0x45) then
    let b := b.drop 1
    skipDigits (if b.head?.any (fun x => x = 0x2b ∨ x = 0x2d) then b.drop 1 else b)
  else some b

/-! ## Values that are passed over -/

/-- What remains after a text that is not kept: only its escapes and controls are looked at. -/
def skipText : Bytes → Option Bytes
  | [] => none
  | 0x22 :: rest => some rest
  | 0x5c :: 0x75 :: a :: b :: c :: d :: rest =>
    if (hexWord? a b c d).isSome then skipText rest else none
  | 0x5c :: x :: rest => if (shortEscape? x).isSome then skipText rest else none
  | x :: rest => if x < 0x20 ∨ x = 0x5c then none else skipText rest

/-- What remains after the name of a member and its colon, from behind the opening quote on. -/
def skipName (b : Bytes) : Option Bytes := do
  let after := (← skipText b).dropWhile isBlank
  if after.head? = some 0x3a then some (after.drop 1) else none

/-- What may come next inside a value that is passed over. -/
inductive Expected where
  | value
  | valueOrEnd
  | name
  | nameOrEnd
  | separator

/-- What remains after a value, given the kinds of the lists and records around the place reached,
innermost first (`true` is a record). Every step takes at least one octet. -/
def skipFrom : (steps : Nat) → List Bool → Expected → Bytes → Option Bytes
  | 0, _, _, _ => none
  | steps + 1, around, expected, b =>
    match expected, around, (b.dropWhile isBlank : Bytes) with
    | .separator, [], _ => some b
    | .separator, true :: _, 0x2c :: rest => skipFrom steps around .name rest
    | .separator, false :: _, 0x2c :: rest => skipFrom steps around .value rest
    | .separator, true :: outer, 0x7d :: rest => skipFrom steps outer .separator rest
    | .separator, false :: outer, 0x5d :: rest => skipFrom steps outer .separator rest
    | .separator, _, _ => none
    | .nameOrEnd, _ :: outer, 0x7d :: rest => skipFrom steps outer .separator rest
    | .name, _, 0x22 :: rest | .nameOrEnd, _, 0x22 :: rest =>
      (skipName rest).bind (skipFrom steps around .value)
    | .name, _, _ | .nameOrEnd, _, _ => none
    | .valueOrEnd, _ :: outer, 0x5d :: rest => skipFrom steps outer .separator rest
    | _, _, 0x7b :: rest => skipFrom steps (true :: around) .nameOrEnd rest
    | _, _, 0x5b :: rest => skipFrom steps (false :: around) .valueOrEnd rest
    | _, _, 0x22 :: rest => (skipText rest).bind (skipFrom steps around .separator)
    | _, _, 0x74 :: 0x72 :: 0x75 :: 0x65 :: rest => skipFrom steps around .separator rest
    | _, _, 0x66 :: 0x61 :: 0x6c :: 0x73 :: 0x65 :: rest => skipFrom steps around .separator rest
    | _, _, 0x6e :: 0x75 :: 0x6c :: 0x6c :: rest => skipFrom steps around .separator rest
    | _, _, b => (skipNumber b).bind (skipFrom steps around .separator)

/-- Passes over one value. -/
def skip : Reader Unit := do
  let b ← get
  set (← skipFrom (b.length + 2) [] .value b)

/-! ## Composite values -/

/-- A value, or nothing where the text has `null`. -/
def orNull {α : Type} (value : Reader α) : Reader (Option α) := do
  blanks
  match ← get with
  | 0x6e :: 0x75 :: 0x6c :: 0x6c :: rest => do set rest; return none
  | _ => some <$> value

/-- The items of a list after the first one. -/
def moreItems {α : Type} (item : Reader α) : (steps : Nat) → Reader (List α)
  | 0 => failure
  | steps + 1 => do
    if ← next? ']' then
      sign ']'
      return []
    else
      sign ','
      let x ← item
      return x :: (← moreItems item steps)

/-- A list. -/
def list {α : Type} (item : Reader α) : Reader (List α) := do
  sign '['
  if ← next? ']' then
    sign ']'
    return []
  else
    let x ← item
    return x :: (← moreItems item ((← get).length + 1))

/-- The members of an object after the first one, each read by its name into what was gathered. -/
def moreMembers {σ : Type} (member : String → σ → Reader σ) : (steps : Nat) → σ → Reader σ
  | 0, _ => failure
  | steps + 1, s => do
    if ← next? '}' then
      sign '}'
      return s
    else
      sign ','
      let name ← text
      sign ':'
      moreMembers member steps (← member name s)

/-- An object, whose members are gathered in their order. -/
def object {σ : Type} (member : String → σ → Reader σ) (start : σ) : Reader σ := do
  sign '{'
  if ← next? '}' then
    sign '}'
    return start
  else
    let name ← text
    sign ':'
    let s ← member name start
    moreMembers member ((← get).length + 1) s

/-- One member of a record: its name, whether it was read already, and the reader of its value. -/
structure Member (σ : Type) where
  name : String
  isRead : σ → Bool
  read : σ → Reader σ

/-- A member of an object by its name. Unknown names are passed over; a known one stands once. -/
def byName {σ : Type} (members : List (Member σ)) (name : String) (s : σ) : Reader σ :=
  match members.find? (·.name = name) with
  | some m => if m.isRead s then failure else m.read s
  | none => do skip; return s

/-- The members by their order in a list, which may end early. -/
def byOrder {σ : Type} : (first : Bool) → List (Member σ) → σ → Reader σ
  | _, [], s => do sign ']'; return s
  | first, m :: rest, s => do
    if ← next? ']' then
      sign ']'
      return s
    else
      if ¬ first then sign ','
      byOrder false rest (← m.read s)

/-- A record: an object with its members by name, or a list with its members in order. -/
def record {σ : Type} (members : List (Member σ)) (start : σ) : Reader σ := do
  if ← next? '[' then
    sign '['
    byOrder true members start
  else object (byName members) start

/-- What a whole text holds, with nothing but blanks after it. -/
def whole {α : Type} (reader : Reader α) (b : Bytes) : Option α :=
  match reader.run b with
  | some (x, rest) => if rest.all isBlank then some x else none
  | none => none

end Reader

end MediaVault.Json
