/-
Header fields given as arguments: a name, an equals sign and a value. Only the
first equals sign counts, and the name must not be blank.
-/
import MediaVault.Text.Blank
import MediaVault.Text.Quoted

namespace MediaVault.HeaderArgument

/-- What stands before the first equals sign and what follows it. -/
def split? (cs : List Char) : Option (List Char × List Char) :=
  match cs.dropWhile (· ≠ '=') with
  | _ :: value => some (cs.takeWhile (· ≠ '='), value)
  | [] => none

/-- The name and the value of an argument, or what is wrong with it. -/
def read (argument : String) : Except String (String × String) :=
  match split? argument.toList with
  | some (name, value) =>
    if Text.trimChars name = [] then .error ("expected name=value, got " ++ Text.quote argument)
    else .ok (String.ofList (Text.trimChars name), String.ofList value)
  | none => .error ("expected name=value, got " ++ Text.quote argument)

end MediaVault.HeaderArgument
