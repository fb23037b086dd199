/-
Which texts are patterns, as they are given for the values of fields: letters
and escapes, points, brackets, groups, choices and repetitions. What a pattern
fits is of no concern here.

Patterns are about characters; what a flag turns into a pattern about octets
must still keep to whole characters. The cases, the words, the digits and the
blanks of all scripts are not known, so a pattern that needs them is none.
-/
import MediaVault.Text.Blank
import MediaVault.Text.Decimal
import MediaVault.Text.Word
import MediaVault.Bytes

namespace MediaVault.Pattern

/-- What the flags of a pattern say about what follows. -/
structure Mode where
  /-- Capitals and small letters are the same. -/
  foldsCase : Bool := false
  /-- It is about characters, and not about octets. -/
  unicode : Bool := true
  /-- Blanks and remarks do not count. -/
  spaced : Bool := false
  deriving DecidableEq, Repr

/-- Text without the blanks and remarks at its front that do not count. A remark goes to the end of
its line. -/
def Mode.skip (m : Mode) (cs : List Char) : List Char :=
  if m.spaced then go false cs else cs
where
  /-- The same inside a remark or outside of one. -/
  go (remark : Bool) : List Char → List Char
    | [] => []
    | c :: rest =>
      if remark then go (c ≠ '\n') rest
      else if Text.isBlank c then go false rest
      else if c = '#' then go true rest
      else c :: rest

/-! ## Single characters -/

/-- What an escape or a single character is. -/
inductive Atom where
  /-- A character. It is an octet if it was written with two hexadecimal digits. -/
  | literal (code : Nat) (octet : Bool)
  /-- Digits, blanks or letters, or all but them. -/
  | kind (negated : Bool)
  /-- A property of characters. -/
  | property
  /-- A place next to a word. -/
  | wordPlace
  /-- The beginning or the end. -/
  | edge

/-- Whether an atom can stand outside of brackets. -/
def Atom.fits (m : Mode) : Atom → Bool
  | literal code octet => if m.unicode then ! m.foldsCase else ! (octet && 0x80 ≤ code)
  | kind negated => ! m.unicode && ! negated
  | property => false
  | wordPlace => ! m.unicode
  | edge => true

/-- Whether an atom can stand between brackets. -/
def Atom.fitsClass (m : Mode) : Atom → Bool
  | literal code _ => m.unicode || code < 0x80
  | kind negated => ! m.unicode && ! negated
  | _ => false

/-- The character of a number of hexadecimal digits, and what follows them. -/
def hex? (m : Mode) : (digits value : Nat) → List Char → Option (Nat × List Char)
  | 0, value, cs => if value.isValidChar then some (value, cs) else none
  | digits + 1, value, cs =>
    match m.skip cs with
    | [] => none
    | c :: rest => do
      let d ← if c.toNat < 0x80 then Bytes.hexValue? (UInt8.ofNat c.toNat) else none
      hex? m digits (value * 16 + d) rest

/-- What follows a backslash, and the rest. -/
def escape? (m : Mode) : List Char → Option (Atom × List Char)
  | [] => none
  | c :: rest =>
    if c = 'x' then (hex? m 2 0 rest).map fun (n, rest) => (.literal n true, rest)
    else if c = 'u' then (hex? m 4 0 rest).map fun (n, rest) => (.literal n false, rest)
    else if c = 'U' then (hex? m 8 0 rest).map fun (n, rest) => (.literal n false, rest)
    else if c = 'p' ∨ c = 'P' then some (.property, rest)
    else if "dsw".toList.contains c then some (.kind false, rest)
    else if "DSW".toList.contains c then some (.kind true, rest)
    else if "bB<>".toList.contains c then some (.wordPlace, rest)
    else if "Az".toList.contains c then some (.edge, rest)
    else if "aftnrv".toList.contains c then some (.literal 0x0a false, rest)
    else if c.toNat < 0x80 ∧ ¬ c.isAlphanum then some (.literal c.toNat false, rest)
    else none

/-! ## Brackets -/

/-- The names of classes between brackets. -/
def classNames : List String :=
  ["alnum", "alpha", "ascii", "blank", "cntrl", "digit", "graph", "lower", "print", "punct", "space",
    "upper", "word", "xdigit"]

/-- A named class, whether it is turned round, and what follows it. -/
def namedClass? : List Char → Option (Bool × List Char)
  | '[' :: ':' :: rest =>
    let negated := rest.head? = some '^'
    let rest := if negated then rest.drop 1 else rest
    match rest.dropWhile (· ≠ ':') with
    | ':' :: ']' :: after =>
      if classNames.contains (String.ofList (rest.takeWhile (· ≠ ':'))) then some (negated, after)
      else none
    | _ => none
  | _ => none

/-- What follows the sign that opens brackets: they may be turned round, and a closing bracket that
comes first stands for itself. -/
def openClass? (m : Mode) (cs : List Char) : Option (List Char) :=
  let cs := m.skip cs
  let negated := cs.head? = some '^'
  let cs := if negated then m.skip (cs.drop 1) else cs
  if negated ∧ ¬ m.unicode then none
  else if cs.head? = some ']' then some (cs.drop 1)
  else some cs

/-- One item of a class and the rest. -/
def classItem? (m : Mode) : List Char → Option (Atom × List Char)
  | [] => none
  | '\\' :: rest => escape? m rest
  | c :: rest => some (.literal c.toNat false, rest)

/-- An item of a class or a range of them, and the rest. -/
def classRange? (m : Mode) (cs : List Char) : Option (List Char) := do
  let (first, rest) ← classItem? m cs
  let rest := m.skip rest
  let single := if first.fitsClass m then some rest else none
  match rest with
  | '-' :: after =>
    match m.skip after with
    | [] => none
    | ']' :: _ | '-' :: _ => single
    | after => do
      let (last, rest) ← classItem? m after
      match first, last with
      | .literal low _, .literal high _ =>
        if low ≤ high ∧ first.fitsClass m ∧ last.fitsClass m then some rest else none
      | _, _ => none
  | _ => single

/-- What follows the brackets that are open, `depth` of them within each other. -/
def closeClass? (m : Mode) : (fuel depth : Nat) → List Char → Option (List Char)
  | 0, _, _ => none
  | fuel + 1, depth, cs =>
    match m.skip cs with
    | [] => none
    | '[' :: rest =>
      match namedClass? ('[' :: rest) with
      | some (negated, rest) =>
        if negated ∧ ¬ m.unicode then none else closeClass? m fuel depth rest
      | none => (openClass? m rest).bind (closeClass? m fuel (depth + 1))
    | ']' :: rest => if depth = 1 then some rest else closeClass? m fuel (depth - 1) rest
    | '&' :: '&' :: rest | '-' :: '-' :: rest | '~' :: '~' :: rest => closeClass? m fuel depth rest
    | cs => (classRange? m cs).bind (closeClass? m fuel depth)

/-! ## Groups -/

/-- The mode that flags lead to, whether there are any, and the sign after them. -/
def flags? (m : Mode) (seen : List Char) : List Char → Option (Mode × Bool × List Char)
  | [] => none
  | c :: rest =>
    if c = ':' ∨ c = ')' then
      if seen.head? = some '-' then none else some (m, ! seen.isEmpty, c :: rest)
    else if seen.contains c then none
    else
      let on := ! seen.contains '-'
      match c with
      | '-' | 'm' | 's' | 'U' | 'R' => flags? m (c :: seen) rest
      | 'i' => flags? { m with foldsCase := on } (c :: seen) rest
      | 'u' => flags? { m with unicode := on } (c :: seen) rest
      | 'x' => flags? { m with spaced := on } (c :: seen) rest
      | _ => none

/-- A name of a group and what follows the sign that ends it. -/
def groupName? (cs : List Char) : Option (String × List Char) :=
  let name := cs.takeWhile (· ≠ '>')
  let isFirst (c : Char) : Bool := c = '_' || (Text.isWordChar c && ! c.isDigit)
  let isLater (c : Char) : Bool := "_.[]".toList.contains c || Text.isWordChar c
  match cs.drop name.length with
  | _ :: rest =>
    if name.head?.any isFirst ∧ (name.drop 1).all isLater then some (String.ofList name, rest)
    else none
  | [] => none

/-! ## Patterns -/

/-- What is known in the middle of a pattern. -/
structure State where
  mode : Mode := {}
  /-- The modes around the groups that are open. -/
  outer : List Mode := []
  /-- Something stands here that can be repeated. -/
  repeatable : Bool := false
  names : List String := []

/-- The rest of a pattern can follow. -/
def follows : (fuel : Nat) → State → List Char → Bool
  | 0, _, _ => false
  | fuel + 1, s, cs =>
    let m := s.mode
    let next (cs : List Char) : Bool := follows fuel { s with repeatable := true } cs
    let inside (m : Mode) (names : List String) (cs : List Char) : Bool :=
      follows fuel ⟨m, s.mode :: s.outer, false, names⟩ cs
    match m.skip cs with
    | [] => s.outer.isEmpty
    | '(' :: rest =>
      let named (rest : List Char) : Bool :=
        match groupName? rest with
        | some (name, rest) => ! s.names.contains name && inside m (name :: s.names) rest
        | none => false
      match m.skip rest with
      | '?' :: 'P' :: '<' :: rest => named rest
      | '?' :: '<' :: '!' :: _ | '?' :: '<' :: '=' :: _ => false
      | '?' :: '<' :: rest => named rest
      | '?' :: rest =>
        match flags? m [] rest with
        | some (m, _, ':' :: rest) => inside m s.names rest
        | some (m, true, _ :: rest) => follows fuel { s with mode := m, repeatable := false } rest
        | _ => false
      | rest => inside m s.names rest
    | ')' :: rest =>
      match s.outer with
      | [] => false
      | m :: outer => follows fuel ⟨m, outer, true, s.names⟩ rest
    | '|' :: rest => follows fuel { s with repeatable := false } rest
    | '[' :: rest =>
      ! (m.unicode && m.foldsCase)
        && ((openClass? m rest).bind (closeClass? m rest.length 1)).any next
    | '*' :: rest | '+' :: rest | '?' :: rest =>
      s.repeatable && next (if rest.head? = some '?' then rest.drop 1 else rest)
    | '\x7b' :: _ => false
    | '\\' :: rest =>
      match escape? m rest with
      | some (atom, rest) => atom.fits m && next rest
      | none => false
    | '.' :: rest => m.unicode && next rest
    | '^' :: rest | '$' :: rest => next rest
    | c :: rest => (Atom.literal c.toNat false).fits m && next rest

/-- Whether a text is a pattern. -/
def isPattern (s : String) : Bool := follows (s.length + 1) {} s.toList

/-! ## Values -/

/-- Whether a text is a decimal number with a plus sign. -/
def isPlusNumber (s : String) : Bool :=
  match s.toList with
  | '+' :: cs =>
    let word := String.ofList (cs.map Char.toLower)
    let whole := cs.takeWhile Char.isDigit
    let rest := cs.drop whole.length
    let part := if rest.head? = some '.' then (rest.drop 1).takeWhile Char.isDigit else []
    let rest := if rest.head? = some '.' then rest.drop (part.length + 1) else rest
    let exponent :=
      match rest with
      | [] => true
      | e :: sign :: digits =>
        let digits := if sign = '+' ∨ sign = '-' then digits else sign :: digits
        e.toLower = 'e' && (Text.digits? digits).isSome
      | _ => false
    ["inf", "infinity", "nan"].contains word || ((whole ≠ [] || part ≠ []) && exponent)
  | _ => false

/-- Whether a text can be what a value is compared with: a pattern, or a number that is none for its
sign. -/
def isValue (s : String) : Bool := isPlusNumber s || isPattern s

end MediaVault.Pattern
