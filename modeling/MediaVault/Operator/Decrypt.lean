/-
Opening a sealed file into another file. Nothing is written unless the whole
object has been opened.
-/
import MediaVault.Operator.Copy
import MediaVault.Operator.Disk
import MediaVault.Operator.KeyText
import MediaVault.Seal.Open

namespace MediaVault

namespace Decrypt

/-- The text that is written, by what it is read from. -/
def textOf (d : Disk) (input key lead : String) : Except CommandFailure Bytes :=
  match SealKey.ofTexts key lead with
  | .error f => .error f
  | .ok k =>
    match d.read input with
    | .error f => .error (.other ("reading " ++ input) [f.message])
    | .ok sealed =>
      match k.openObject sealed with
      | .error f => .error (.crypto f)
      | .ok text => .ok text

/-- The files after the object in one of them was opened into another, and what the log says. -/
def run (d : Disk) (input output key lead : String) : Except CommandFailure (Disk × LogLine) :=
  match textOf d input key lead with
  | .error f => .error f
  | .ok text =>
    match d.write output text with
    | .error f => .error (.other ("writing " ++ output) [f.message])
    | .ok d' => .ok (d', ⟨.info, Command.origin, "decrypted object",
        [("input", .plain input), ("output", .plain output),
         ("bytes", .plain (toString text.length))]⟩)

end Decrypt

end MediaVault
