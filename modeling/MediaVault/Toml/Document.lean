/-
TOML documents. A document is read line by line into pairs and headers; the
pairs up to the next header fill the table that the header before them names.
Values in brackets and braces are nested to a limited depth, and so are dotted
keys.
-/
import MediaVault.Toml.Scalar

namespace MediaVault.Toml

/-- The depth that nested values and dotted keys stay below. -/
def depthLimit : Nat := 80

/-- A reader of the front of a text. -/
abbrev Reader (α : Type) := StateT (List Char) Option α

namespace Reader

/-! ## Blanks, comments and line ends -/

/-- Passes over blanks. -/
def blanks : Reader Unit := modify (·.dropWhile fun c => c = ' ' || c = '\t')

/-- The next character, if there is one. -/
def next? : Reader (Option Char) := do return (← get).head?

/-- Takes a character. -/
def sign (c : Char) : Reader Unit := do
  if (← get).head? = some c then modify (·.drop 1) else failure

/-- Takes the end of a line. -/
def lineEnd : Reader Unit := do
  match ← get with
  | '\n' :: rest | '\r' :: '\n' :: rest => set rest
  | _ => failure

/-- Passes over a comment, if there is one. -/
def comment : Reader Unit := do
  if (← next?) = some '#' then modify fun cs => (cs.drop 1).dropWhile isPrintable

/-- Passes over the rest of a line, in which nothing but a comment may stand. -/
def restOfLine : Reader Unit := do
  blanks
  comment
  if (← get) ≠ [] then lineEnd

/-- Passes over blanks, comments and line ends; a comment needs a line end. -/
def space : (steps : Nat) → Reader Unit
  | 0 => failure
  | steps + 1 => do
    blanks
    match ← next? with
    | some '#' => do comment; lineEnd; space steps
    | some '\n' => do lineEnd; space steps
    | some '\r' => do lineEnd; space steps
    | _ => return ()

/-- Passes over blanks, comments and line ends. -/
def anySpace : Reader Unit := do space ((← get).length + 1)

/-! ## Keys -/

/-- Whether a character may stand in a key without quotes. -/
def inBareKey (c : Char) : Bool := c.isAlphanum || c = '_' || c = '-'

/-- One part of a key. -/
def simpleKey : Reader String := do
  let cs ← get
  if cs.head?.any fun c => c = '"' || c = '\'' then
    let (name, rest) ← (lineText? cs : Option (String × List Char))
    set rest
    return name
  else
    let name := cs.takeWhile inBareKey
    if name = [] then failure
    set (cs.dropWhile inBareKey)
    return String.ofList name

/-- The parts of a key with points between them. -/
def keyParts : (steps : Nat) → Reader (List String)
  | 0 => failure
  | steps + 1 => do
    blanks
    let name ← simpleKey
    blanks
    if (← next?) = some '.' then
      sign '.'
      return name :: (← keyParts steps)
    else return [name]

/-- A key: the path to its table and its name there. -/
def key : Reader (List String × String) := do
  let parts ← keyParts (depthLimit - 1)
  match parts.getLast? with
  | some name => return (parts.dropLast, name)
  | none => failure

/-! ## Values -/

/-- The items of an array after the first one. -/
def moreItems (item : Reader Item) : (steps : Nat) → Reader (List Item)
  | 0 => failure
  | steps + 1 => do
    anySpace
    if (← next?) = some ']' then return []
    sign ','
    anySpace
    if (← next?) = some ']' then return []
    let x ← item
    return x :: (← moreItems item steps)

/-- An array. -/
def array (item : Reader Item) : Reader Item := do
  sign '['
  anySpace
  if (← next?) = some ']' then
    sign ']'
    return .array []
  let x ← item
  let items ← moreItems item ((← get).length + 1)
  sign ']'
  return .array (x :: items)

/-- A pair, in which a value follows the key and an equals sign. -/
def pair (value : Reader Item) : Reader (List String × String × Item) := do
  let (path, name) ← key
  sign '='
  blanks
  return (path, name, ← value)

/-- The pairs between braces after the first one. -/
def morePairs (value : Reader Item) : (steps : Nat) → Entries → Reader Entries
  | 0, _ => failure
  | steps + 1, entries => do
    blanks
    if (← next?) = some '\x7d' then return entries
    sign ','
    let (path, name, item) ← pair value
    let entries ← (Entries.addPair .header entries path name item : Option Entries)
    morePairs value steps entries

/-- A table in braces. -/
def braces (value : Reader Item) : Reader Item := do
  sign '\x7b'
  blanks
  if (← next?) = some '\x7d' then
    sign '\x7d'
    return .table .braces []
  let (path, name, item) ← pair value
  let entries ← (Entries.addPair .header [] path name item : Option Entries)
  let entries ← morePairs value ((← get).length + 1) entries
  sign '\x7d'
  return .table .braces entries

/-- A value that does not hold others. -/
def scalar : Reader Item := do
  let cs ← get
  if cs.head?.any fun c => c = '"' || c = '\'' then
    let (s, rest) ← (text? cs : Option (String × List Char))
    set rest
    return .text s
  else
    let (item, rest) ← (word? cs : Option (Item × List Char))
    set rest
    return item

/-- A value that holds others at most `depth` deep. -/
def value : (depth : Nat) → Reader Item
  | 0 => scalar
  | depth + 1 => do
    match ← next? with
    | some '[' => array (value depth)
    | some '\x7b' => braces (value depth)
    | _ => scalar

/-! ## Documents -/

/-- A line that holds something. -/
inductive Line where
  | pair (path : List String) (name : String) (item : Item)
  | table (path : List String) (name : String)
  | next (path : List String) (name : String)

/-- The line that comes next, or nothing for one without content. -/
def line : Reader (Option Line) := do
  blanks
  match ← get with
  | [] => return none
  | '#' :: _ | '\n' :: _ | '\r' :: _ => do
    restOfLine
    return none
  | '[' :: '[' :: rest => do
    set rest
    let (path, name) ← key
    sign ']'
    sign ']'
    restOfLine
    return some (.next path name)
  | '[' :: rest => do
    set rest
    let (path, name) ← key
    sign ']'
    restOfLine
    return some (.table path name)
  | _ => do
    let (path, name, item) ← pair (value (depthLimit - 1))
    restOfLine
    return some (.pair path name item)

/-- The lines of a text that hold something. -/
def lines : (steps : Nat) → Reader (List Line)
  | 0 => failure
  | steps + 1 => do
    if (← get) = [] then return []
    let l ← line
    return l.toList ++ (← lines steps)

end Reader

/-- The pairs up to the next header, and the lines from there on. -/
def splitPairs : List Reader.Line → List (List String × String × Item) × List Reader.Line
  | .pair path name item :: rest =>
    let (pairs, more) := splitPairs rest
    ((path, name, item) :: pairs, more)
  | rest => ([], rest)

theorem length_splitPairs (lines : List Reader.Line) :
    (splitPairs lines).2.length ≤ lines.length := by
  induction lines with
  | nil => simp [splitPairs]
  | cons l rest ih =>
    cases l with
    | pair path name item => simp only [splitPairs, List.length_cons]; omega
    | table path name => simp [splitPairs]
    | next path name => simp [splitPairs]

/-- A table filled with pairs. -/
def fill (pairs : List (List String × String × Item)) (entries : Entries) : Option Entries :=
  pairs.foldlM (fun entries (path, name, item) => entries.addPair .header path name item) entries

/-- The tables that headers and the pairs after them make. -/
def addTables (entries : Entries) : List Reader.Line → Option Entries
  | [] => some entries
  | .pair .. :: _ => none
  | .table path name :: rest => do
    addTables (← Entries.addTable (fill (splitPairs rest).1) entries path name) (splitPairs rest).2
  | .next path name :: rest => do
    addTables (← Entries.addNext (fill (splitPairs rest).1) entries path name) (splitPairs rest).2
termination_by lines => lines.length
decreasing_by
  all_goals have := length_splitPairs rest; simp only [List.length_cons]; omega

/-- The outermost table of a document. A mark of the octet order may stand before it. -/
def document? (text : String) : Option Entries := do
  let cs := match text.toList with
    | '\ufeff' :: rest => rest
    | cs => cs
  let (lines, _) ← (Reader.lines (cs.length + 1)).run cs
  let (pairs, tables) := splitPairs lines
  addTables (← fill pairs []) tables

end MediaVault.Toml
