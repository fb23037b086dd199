/-
How a command can fail, and the report of it: what failed, and beneath it
what led to that, indented, and numbered where there are several.
-/
import MediaVault.Vault.Failure

namespace MediaVault

/-- A failed command. -/
inductive CommandFailure where
  /-- The vault failed, perhaps while something was done that is worth naming. -/
  | vault (f : Failure) (doing : Option String)
  | crypto (f : SealFault)
  /-- A configuration that is none, by what was done with it. -/
  | configuration (doing : String)
  /-- Anything else, with what lies beneath it. -/
  | other (message : String) (causes : List String)
  deriving DecidableEq, Repr

namespace CommandFailure

/-- The outermost text of a failure. -/
def message : CommandFailure → String
  | vault f doing => doing.getD f.message
  | crypto f => f.message
  | configuration doing => doing
  | other message _ => message

/-- The texts beneath it, the nearest first. -/
def causeTexts : CommandFailure → List String
  | vault f none => f.causeTexts
  | vault f (some _) => f.message :: f.causeTexts
  | crypto f => f.cause?.toList
  | configuration _ => []
  | other _ causes => causes

/-- A text whose lines after the first are indented, and its first line led by `lead`. -/
def indent (lead rest : String) (s : String) : String :=
  lead ++ ("\n" ++ rest).intercalate (s.splitOn "\n")

/-- A number of up to five digits, filled up with blanks. -/
def numberText (n : Nat) : String :=
  let digits := toString n
  String.ofList (List.replicate (5 - digits.length) ' ') ++ digits ++ ": "

/-- The lines of the causes, numbered if there are several. -/
def causeLines : List String → List String
  | [cause] => [indent "    " "    " cause]
  | causes => causes.zipIdx.map fun (cause, i) => indent (numberText i) "       " cause

/-- The report of a failure. -/
def report (f : CommandFailure) : String :=
  let beneath := if f.causeTexts = [] then ""
    else "\n\nCaused by:\n" ++ "\n".intercalate (causeLines f.causeTexts)
  "Error: " ++ f.message ++ beneath ++ "\n"

end CommandFailure

end MediaVault
