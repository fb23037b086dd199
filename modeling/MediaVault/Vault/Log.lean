/-
Lines of the log. Each has a level, the part of the program it comes from, a
message, and fields whose values are shown as they are or between quotes.
-/
import MediaVault.Text.Quoted

namespace MediaVault

/-- How important a line is, the most important first. -/
inductive Level where
  | error
  | warn
  | info
  | debug
  | trace
  deriving DecidableEq, Repr

namespace Level

/-- The word for a level. -/
def text : Level → String
  | error => "ERROR"
  | warn => "WARN"
  | info => "INFO"
  | debug => "DEBUG"
  | trace => "TRACE"

/-- The levels by number: a greater one lets more through. -/
def rank : Level → Nat
  | error => 1
  | warn => 2
  | info => 3
  | debug => 4
  | trace => 5

end Level

/-- The value of a field. -/
inductive LogValue where
  | plain (s : String)
  | quoted (s : String)
  deriving DecidableEq, Repr

/-- The text of a value. -/
def LogValue.text : LogValue → String
  | plain s => s
  | quoted s => Text.quote s

/-- A line of the log. -/
structure LogLine where
  level : Level
  /-- The part of the program that the line comes from. -/
  origin : String
  message : String
  fields : List (String × LogValue)
  deriving DecidableEq, Repr

namespace LogLine

/-- The text of a line, without the time. -/
def text (l : LogLine) : String :=
  l.level.text ++ " " ++ l.origin ++ ": " ++ l.message
    ++ String.join (l.fields.map fun (name, value) => " " ++ name ++ "=" ++ value.text)

end LogLine

end MediaVault
