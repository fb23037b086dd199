/-
JSON texts as they are written: whole numbers, texts, lists and records with
their members in a fixed order, on one line or indented.
-/

namespace MediaVault

/-- What is written as JSON. -/
inductive Json where
  | number (n : Nat)
  | text (s : String)
  | list (items : List Json)
  | record (members : List (String × Json))

namespace Json

/-- One character of a text. Quotes, backslashes and controls are escaped; all else stands for
itself. -/
def textChar (c : Char) : List Char :=
  if c = '"' then ['\\', '"']
  else if c = '\\' then ['\\', '\\']
  else if c = '\x08' then ['\\', 'b']
  else if c = '\x0c' then ['\\', 'f']
  else if c = '\n' then ['\\', 'n']
  else if c = '\r' then ['\\', 'r']
  else if c = '\t' then ['\\', 't']
  else if c.toNat < 0x20 then
    ['\\', 'u', '0', '0', Nat.digitChar (c.toNat / 16), Nat.digitChar (c.toNat % 16)]
  else [c]

/-- A text between quotes. -/
def writeText (s : String) : String := String.ofList ('"' :: s.toList.flatMap textChar ++ ['"'])

mutual

/-- The text on one line, without blanks. -/
def compact : Json → String
  | .number n => toString n
  | .text s => writeText s
  | .list items => "[" ++ ",".intercalate (compactItems items) ++ "]"
  | .record members => "\x7b" ++ ",".intercalate (compactMembers members) ++ "\x7d"

def compactItems : List Json → List String
  | [] => []
  | v :: rest => v.compact :: compactItems rest

def compactMembers : List (String × Json) → List String
  | [] => []
  | (name, v) :: rest => (writeText name ++ ":" ++ v.compact) :: compactMembers rest

end

/-- The parts of a list or record on lines of their own, two blanks further in than `indent`. -/
def block (indent : String) (opening closing : String) (parts : List String) : String :=
  if parts.isEmpty then opening ++ closing
  else
    let inner := indent ++ "  "
    opening ++ "\n" ++ ",\n".intercalate (parts.map (inner ++ ·)) ++ "\n" ++ indent ++ closing

mutual

/-- The text with every part of a list or record on a line of its own. -/
def indented (indent : String) : Json → String
  | .number n => toString n
  | .text s => writeText s
  | .list items => block indent "[" "]" (indentedItems (indent ++ "  ") items)
  | .record members => block indent "\x7b" "\x7d" (indentedMembers (indent ++ "  ") members)

def indentedItems (indent : String) : List Json → List String
  | [] => []
  | v :: rest => v.indented indent :: indentedItems indent rest

def indentedMembers (indent : String) : List (String × Json) → List String
  | [] => []
  | (name, v) :: rest => (writeText name ++ ": " ++ v.indented indent) :: indentedMembers indent rest

end

/-- The indented text of a whole document. -/
def pretty (v : Json) : String := v.indented ""

end Json

end MediaVault
