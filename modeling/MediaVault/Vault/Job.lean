/-
Jobs that run beside their caller. A job gives way to others a number of times
and then ends; the caller sees whether it has ended and in the end what came
of it. A job that nobody waits for runs all the same.
-/
import MediaVault.Vault.Failure

namespace MediaVault

/-- How a job ends. -/
inductive Ending (α : Type) where
  | value (a : α)
  | failure (f : Failure)
  /-- The job breaks down before it has a result. -/
  | breakdown

/-- A job that gives way `yields` times and then ends. -/
structure Job (α : Type) where
  yields : Nat
  ending : Ending α

namespace Job

variable {α : Type}

/-- Whether the job has ended after its caller gave way `turns` times. Each time the job comes to
the next point where it gives way itself, or to its end. -/
def isFinished (j : Job α) (turns : Nat) : Bool := j.yields < turns

/-- What the job is seen as right after its start and after each of so many turns. -/
def observed (j : Job α) (turns : Nat) : List Bool := (List.range (turns + 1)).map j.isFinished

/-- What came of the job. -/
def result (j : Job α) : Except Failure α :=
  match j.ending with
  | .value a => .ok a
  | .failure f => .error f
  | .breakdown => .error .task

/-- Whether the job comes to a result, waited for or not. -/
def runsThrough (j : Job α) : Bool :=
  match j.ending with
  | .breakdown => false
  | _ => true

end Job

end MediaVault
