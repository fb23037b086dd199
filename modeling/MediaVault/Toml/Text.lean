/-
Texts in TOML: between quotes with escapes or between apostrophes without, on
one line or, with three marks, on several. In all of them only the tab is an
allowed control.
-/

namespace MediaVault.Toml

/-- Whether a character may stand in a comment or a text. -/
def isPrintable (c : Char) : Bool := c = '\t' || (0x20 ≤ c.toNat && c.toNat ≠ 0x7f)

/-- The value of a hexadecimal digit. -/
def hexValue? (c : Char) : Option Nat :=
  if '0' ≤ c ∧ c ≤ '9' then some (c.toNat - 48)
  else if 'a' ≤ c ∧ c ≤ 'f' then some (c.toNat - 87)
  else if 'A' ≤ c ∧ c ≤ 'F' then some (c.toNat - 55)
  else none

/-- The character whose code point the digits write. -/
def codePoint? (digits : List Char) : Option Char := do
  let n ← digits.foldlM (fun n c => do return n * 16 + (← hexValue? c)) 0
  if n.isValidChar then some (Char.ofNat n) else none

/-- What a single character after a backslash stands for. -/
def shortEscape? : Char → Option Char
  | 'b' => some '\x08'
  | 'f' => some '\x0c'
  | 'n' => some '\n'
  | 'r' => some '\r'
  | 't' => some '\t'
  | '"' => some '"'
  | '\\' => some '\\'
  | _ => none

/-- A character put in front of what was read. -/
def consChar (c : Char) : List Char × List Char → List Char × List Char
  | (text, rest) => (c :: text, rest)

/-- A text on one line from behind its opening quote on, and what follows its closing quote. -/
def basicBody : List Char → Option (List Char × List Char)
  | '"' :: rest => some ([], rest)
  | '\\' :: 'u' :: a :: b :: c :: d :: rest => do
    return consChar (← codePoint? [a, b, c, d]) (← basicBody rest)
  | '\\' :: 'U' :: a :: b :: c :: d :: e :: f :: g :: h :: rest => do
    return consChar (← codePoint? [a, b, c, d, e, f, g, h]) (← basicBody rest)
  | '\\' :: c :: rest => do return consChar (← shortEscape? c) (← basicBody rest)
  | c :: rest =>
    if isPrintable c ∧ c ≠ '\\' then do return consChar c (← basicBody rest) else none
  | [] => none

/-- Where a text on several lines leaves out the end of a line and the blanks after it. -/
inductive Gap where
  | none
  /-- Behind the backslash that begins it, before the end of the line. -/
  | opened
  /-- Behind the end of the line. -/
  | crossed
  deriving DecidableEq

/-- A text on several lines from behind its opening marks on, and what follows its closing marks. Up
to two quotes may stand right before the closing marks. -/
def basicLines : Gap → List Char → Option (List Char × List Char)
  | .opened, ' ' :: rest | .opened, '\t' :: rest => basicLines .opened rest
  | .opened, '\n' :: rest | .opened, '\r' :: '\n' :: rest => basicLines .crossed rest
  | .opened, _ => Option.none
  | .crossed, ' ' :: rest | .crossed, '\t' :: rest => basicLines .crossed rest
  | .crossed, '\n' :: rest | .crossed, '\r' :: '\n' :: rest => basicLines .crossed rest
  | _, '"' :: '"' :: '"' :: '"' :: '"' :: rest => some (['"', '"'], rest)
  | _, '"' :: '"' :: '"' :: '"' :: rest => some (['"'], rest)
  | _, '"' :: '"' :: '"' :: rest => some ([], rest)
  | _, '\\' :: 'u' :: a :: b :: c :: d :: rest => do
    return consChar (← codePoint? [a, b, c, d]) (← basicLines .none rest)
  | _, '\\' :: 'U' :: a :: b :: c :: d :: e :: f :: g :: h :: rest => do
    return consChar (← codePoint? [a, b, c, d, e, f, g, h]) (← basicLines .none rest)
  | _, '\\' :: ' ' :: rest | _, '\\' :: '\t' :: rest => basicLines .opened rest
  | _, '\\' :: '\n' :: rest | _, '\\' :: '\r' :: '\n' :: rest => basicLines .crossed rest
  | _, '\\' :: c :: rest => do return consChar (← shortEscape? c) (← basicLines .none rest)
  | _, '\n' :: rest | _, '\r' :: '\n' :: rest => do return consChar '\n' (← basicLines .none rest)
  | _, c :: rest =>
    if isPrintable c ∧ c ≠ '\\' then do return consChar c (← basicLines .none rest) else Option.none
  | _, [] => Option.none

/-- A text without escapes on one line, from behind its opening apostrophe on. -/
def literalBody : List Char → Option (List Char × List Char)
  | '\'' :: rest => some ([], rest)
  | c :: rest => if isPrintable c then do return consChar c (← literalBody rest) else none
  | [] => none

/-- A text without escapes on several lines, from behind its opening marks on. -/
def literalLines : List Char → Option (List Char × List Char)
  | '\'' :: '\'' :: '\'' :: '\'' :: '\'' :: rest => some (['\'', '\''], rest)
  | '\'' :: '\'' :: '\'' :: '\'' :: rest => some (['\''], rest)
  | '\'' :: '\'' :: '\'' :: rest => some ([], rest)
  | '\n' :: rest | '\r' :: '\n' :: rest => do return consChar '\n' (← literalLines rest)
  | c :: rest => if isPrintable c then do return consChar c (← literalLines rest) else none
  | [] => none

/-- What follows the end of the line that may stand right behind opening marks. -/
def dropLineEnd : List Char → List Char
  | '\n' :: rest | '\r' :: '\n' :: rest => rest
  | cs => cs

/-- A text on one line and what follows it. -/
def lineText? : List Char → Option (String × List Char)
  | '"' :: rest => (basicBody rest).map fun (s, after) => (String.ofList s, after)
  | '\'' :: rest => (literalBody rest).map fun (s, after) => (String.ofList s, after)
  | _ => none

/-- A text of any form and what follows it. -/
def text? : List Char → Option (String × List Char)
  | '"' :: '"' :: '"' :: rest =>
    (basicLines .none (dropLineEnd rest)).map fun (s, after) => (String.ofList s, after)
  | '\'' :: '\'' :: '\'' :: rest =>
    (literalLines (dropLineEnd rest)).map fun (s, after) => (String.ofList s, after)
  | cs => lineText? cs

end MediaVault.Toml
