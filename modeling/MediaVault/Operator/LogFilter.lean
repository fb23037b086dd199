/-
Which lines of the log are shown. A filter is a list of directives with commas
between them. Of those that a line comes under, the most particular one
decides: the one with the longest name, then one that asks for a field.
-/
import MediaVault.Operator.LogDirective
import MediaVault.Vault.Log

namespace MediaVault

namespace LogDirective

/-- The field that every line has. -/
def messageField : String := "message"

/-- Whether a line comes under a directive. -/
def covers (d : LogDirective) (l : LogLine) : Bool :=
  d.origin.all (fun name => name.toList.isPrefixOf l.origin.toList)
    && d.field.all (fun name => name = messageField || l.fields.any (·.1 = name))

/-- How particular a directive is about names: none at all, or one of some length. -/
def reach (d : LogDirective) : Nat := d.origin.elim 0 (·.utf8ByteSize + 1)

/-- Whether, over a line that comes under both, a directive decides before another. -/
def isBefore (d e : LogDirective) : Bool :=
  e.reach < d.reach || (d.reach = e.reach &&
    match d.field, e.field with
    | some f, some g => g < f
    | some _, none => true
    | none, _ => false)

end LogDirective

/-- The directives of a filter. -/
abbrev LogFilter := List LogDirective

namespace LogFilter

/-- The filter that shows everything up to a level. -/
def upTo (level : Level) : LogFilter := [⟨none, none, level.rank⟩]

/-- The filter that a text stands for. Without any directive only errors are shown. -/
def read (s : String) : Except LogDirective.Fault LogFilter := do
  let directives ← ((s.splitOn ",").filter (· ≠ "")).mapM LogDirective.read
  return if directives = [] then upTo .error else directives.filterMap id

/-- The filter of an environment: lines up to `info` where it says nothing that can be read. There
is none where a character would be cut apart. -/
def ofSetting? (setting : Option String) : Option LogFilter :=
  match setting.map read with
  | some (.ok f) => some f
  | some (.error .cutCharacter) => none
  | some (.error .unreadable) | none => some (upTo .info)

/-- The directive that decides over a line: of those that are equally particular, the last. -/
def deciding? (f : LogFilter) (l : LogLine) : Option LogDirective :=
  (f.filter (·.covers l)).foldl (fun best d =>
    if best.any (·.isBefore d) then best else some d) none

/-- Whether a line is shown. -/
def shows (f : LogFilter) (l : LogLine) : Bool := (f.deciding? l).any (l.level.rank ≤ ·.rank)

/-- The text of the lines that are shown. -/
def text (f : LogFilter) (lines : List LogLine) : String :=
  String.join ((lines.filter f.shows).map (·.text ++ "\n"))

end LogFilter

end MediaVault
