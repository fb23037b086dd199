/-
The directives that a log filter is made of, and how they are written: the
name of a part of the program, a span and a field between brackets, and a level
after an equals sign. Each of the three may be left out; a bare word is a level
if it can be one, and a name if not.

The parts of a directive are found in its text without the blanks around it,
but cut out of the text with them. So blanks after a level spoil it, blanks in
front move every part, and where a character would be cut apart by that, nothing
can go on.
-/
import MediaVault.Bytes
import MediaVault.Text.Blank
import MediaVault.Text.Decimal
import MediaVault.Text.Pattern

namespace MediaVault

/-- The greatest rank that is shown of some lines: those whose origin begins with a name and that
have a field. Without a name or a field any line will do. -/
structure LogDirective where
  origin : Option String
  field : Option String
  rank : Nat
  deriving DecidableEq, Repr

namespace LogDirective

/-! ## Levels -/

/-- The rank that shows everything. -/
def everything : Nat := 5

/-- The rank that a level is written for: its number, or its name in either case. -/
def rank? (s : String) : Option Nat :=
  match Text.natural? everything s with
  | some n => some n
  | none =>
    match String.ofList (s.toList.map Char.toLower) with
    | "off" => some 0
    | "error" => some 1
    | "warn" => some 2
    | "info" => some 3
    | "debug" => some 4
    | "trace" => some 5
    | _ => none

/-! ## Parts -/

/-- Why a text is no directive. -/
inductive Fault where
  /-- It is not written as one. -/
  | unreadable
  /-- A part would begin or end in the middle of a character. -/
  | cutCharacter
  deriving DecidableEq, Repr

/-- What stands in a text from one octet to before another. -/
def cut (text : Bytes) (start stop : Nat) : Except Fault String :=
  match Bytes.text? (text.take start), Bytes.text? ((text.take stop).drop start) with
  | some _, some part => .ok part
  | _, _ => .error .cutCharacter

/-- Whether a directive can begin with a character. -/
def isStart (c : Char) : Bool := "-:_[".toList.contains c || Text.isWordChar c

/-- Whether a character ends the name. -/
def endsName (c : Char) : Bool := c = '=' || c = '['

/-- What stands between brackets. -/
structure Scope where
  /-- A span is named. -/
  spanned : Bool
  field : Option String

/-- Whether what stands between braces is a field: the name of one, or a name and a value to compare
with. A second equals sign ends the value. -/
def isField (s : String) : Bool :=
  match s.toList.dropWhile (· ≠ '=') with
  | [] => s ≠ ""
  | _ :: value => Pattern.isValue (String.ofList (value.takeWhile (· ≠ '=')))

/-- What stands after a bracket, read by `part`, which gives what is between two rests of the text,
and what follows the bracket that closes it. -/
def readScope (part : List Char → List Char → Except Fault String) (cs : List Char) :
    Except Fault (Scope × List Char) := do
  let tail := cs.dropWhile fun c => c ≠ ']' ∧ c ≠ '\x7b'
  if tail = [] then throw .unreadable
  let span ← part cs tail
  match tail with
  | '\x7b' :: inner =>
    let tail := inner.dropWhile (· ≠ '\x7d')
    if tail = [] then throw .unreadable
    let field ← part inner tail
    if ¬ isField field then throw .unreadable
    match tail with
    | _ :: ']' :: rest => return (⟨span ≠ "", some field⟩, rest)
    | _ => throw .unreadable
  | _ => return (⟨true, none⟩, tail.drop 1)

/-! ## Reading -/

/-- What a bare word says. -/
def ofWord (s : String) : LogDirective :=
  match rank? s with
  | some rank => ⟨none, none, rank⟩
  | none => ⟨some s, none, everything⟩

/-- The rank of a level, of which nothing need be written. -/
def readLevel (s : String) : Except Fault Nat :=
  if s = "" then .ok everything
  else
    match rank? s with
    | some rank => .ok rank
    | none => .error .unreadable

/-- What a text says. A directive that names a span, or a value of a field, says nothing about lines
outside of spans. -/
def read (s : String) : Except Fault (Option LogDirective) := do
  let text := Bytes.ofText s
  let cs := Text.trimChars s.toList
  let place (rest : List Char) : Nat :=
    (String.ofList cs).utf8ByteSize - (String.ofList rest).utf8ByteSize
  let part (start stop : List Char) : Except Fault String := cut text (place start) (place stop)
  if ¬ cs.head?.any isStart then throw .unreadable
  let tail := cs.dropWhile (! endsName ·)
  if tail = [] then return some (ofWord s)
  let name ← if tail.length = cs.length then pure none else some <$> part cs tail
  let (scope, tail) ←
    match tail with
    | '[' :: tail => readScope part tail
    | _ => pure (⟨false, none⟩, tail)
  let rank ←
    match tail with
    | [] => pure everything
    | '=' :: level => cut text (place level) text.length >>= readLevel
    | _ => throw .unreadable
  if scope.spanned ∨ scope.field.any (·.toList.contains '=') then return none
  else return some ⟨name, scope.field, rank⟩

end LogDirective

end MediaVault
