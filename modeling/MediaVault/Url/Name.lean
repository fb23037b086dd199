/-
Host names of all scripts and the names of ASCII that they stand for. A name is
folded, composed and cut into labels at its points; a label that holds more than
ASCII is written after four characters that announce it. A label that is given
in that form is read and must be one that could have been written so.
-/
import MediaVault.Text.Mark
import MediaVault.Url.Name.Direction
import MediaVault.Url.Name.Folding
import MediaVault.Url.Name.Joining
import MediaVault.Url.Name.Punycode

namespace MediaVault.HostName

/-- What a label in written form begins with. -/
def announcement : List Char := "xn--".toList

/-- The greatest number of characters of a label beyond ASCII. -/
def labelLimit : Nat := 1000

/-- The greatest number of characters of a written form that is read, without what announces it. -/
def readLimit : Nat := 2000

/-- The labels of a name. -/
def labels (cs : List Char) : List (List Char) :=
  match cs with
  | [] => [[]]
  | c :: rest =>
    if c = '.' then [] :: labels rest
    else
      match labels rest with
      | [] => [[c]]
      | label :: more => (c :: label) :: more

/-- Whether a label is one of ASCII. -/
def isAscii (label : List Char) : Bool := label.all (·.toNat < 0x80)

/-- Whether a label can stand in a name: it holds what stands for itself, does not begin with a mark
and has no invisible character without need. -/
def isSound (label : List Char) : Bool :=
  label.all isPlain && ! label.head?.any Text.isMark && joinersFit [] label

/-- The label that is meant by one. A written form is the one of a label beyond ASCII in composed
form. -/
def readLabel? (label : List Char) : Option (List Char) :=
  if announcement.isPrefixOf label then do
    let form := label.drop announcement.length
    if readLimit < form.length then none
    let meant ← Punycode.decode? form
    if labelLimit < meant.length ∨ isAscii meant then none
    if Text.composed meant ≠ meant ∨ ¬ isSound meant then none
    return meant
  else if isSound label then some label
  else none

/-- The form of ASCII of a label. -/
def writeLabel? (label : List Char) : Option (List Char) :=
  if isAscii label then some label
  else if labelLimit < label.length then none
  else some (announcement ++ Punycode.encode label)

/-- The name of ASCII that a name stands for. -/
def toAscii? (name : List Char) : Option (List Char) := do
  let folded ← name.mapM fold?
  let meant ← (labels (Text.composed folded.flatten)).mapM readLabel?
  if meant.any turns ∧ ¬ meant.all keepsDirection then none
  return ['.'].intercalate (← meant.mapM writeLabel?)

end MediaVault.HostName
