/-
Why operations fail. A reason says of the network and of what was sent over it
what is true of the failure that is reported for it. An operation that goes
step by step is judged step by step: what fails is its first step, or the next
ones after it.
-/
import MediaVault.Proofs.Http.Exchange
import MediaVault.Proofs.Vault.Outcome

namespace MediaVault

/-! ## Reasons -/

/-- Whoever answers a request. -/
inductive Party where
  | source
  | upload
  | manager
  deriving DecidableEq

/-- Why an operation failed. -/
inductive Reason where
  /-- The grant is for another vault, or has no address or a field that cannot be sent. -/
  | grant
  /-- Nothing came in time. -/
  | timedOut
  /-- No connection could be made. -/
  | unconnected
  /-- The request could not be sent, or the connection ended before it was answered. -/
  | unanswered
  /-- The request was answered with a status that the operation cannot go on with. -/
  | answered (party : Party) (status : Nat)
  /-- The source has no length, or not the expected one. -/
  | length
  /-- The body of the source broke off while it was read. -/
  | sourceBroken
  /-- The body of the source was not what was declared, or is too long to be sealed. -/
  | unsound
  /-- The body of the answer broke off, or it is not the JSON that it should be. -/
  | unreadable
  /-- A listed key lies outside of the part that was asked for. -/
  | foreignKey

/-- A reason that may be gone another time. -/
def Reason.Passing : Reason → Prop
  | timedOut | unconnected | sourceBroken => True
  | answered _ status => status = 429 ∨ 500 ≤ status ∧ status ≤ 599
  | _ => False

/-- The status that the operation could not go on with. -/
def Reason.status? : Reason → Option Nat
  | answered _ status => some status
  | _ => none

/-- A failure says of an operation what is true of one that failed for this reason. -/
structure Failure.Because (f : Failure) (reason : Reason) : Prop where
  retryable : f.isRetryable = true ↔ reason.Passing
  notFound : f.isNotFound = true ↔ reason = .answered .source 404
  apart : f.isNotFound = true → f.isRetryable = false
  status : f.status? = reason.status?

namespace Failure

variable {f : Failure} {reason : Reason}

end Failure

/-- What an operation came to where it fails for these reasons: there was none and it succeeded, or
there was one and its failure says so. -/
inductive Judged {α : Type} (fails : Reason → Prop) : Except Failure α → Prop
  | done (a : α) : (∀ reason, ¬ fails reason) → Judged fails (.ok a)
  | failed (f : Failure) (reason : Reason) : fails reason → (∀ other, fails other → other = reason) →
      f.Because reason → Judged fails (.error f)

namespace Judged

variable {α β : Type} {fails fails' : Reason → Prop} {x : Except Failure α}

theorem congr (h : Judged fails x) (hiff : ∀ reason, fails reason ↔ fails' reason) :
    Judged fails' x := by
  rwa [← funext fun reason => propext (hiff reason)]

/-- A step that can only fail for one reason. -/
theorem single (reason : Reason) (h : ∀ f, x = .error f → f.Because reason) :
    Judged (fun r => r = reason ∧ ∃ f, x = .error f) x := by
  cases x with
  | error f => exact .failed f reason ⟨rfl, f, rfl⟩ (fun _ hother => hother.1) (h f rfl)
  | ok a =>
    refine .done a fun _ hreason => ?_
    obtain ⟨-, f, hf⟩ := hreason
    cases hf

/-- **A step after another**: what fails is the first one, or the second after the first. -/
theorem bind {next : α → Reason → Prop} {k : α → Except Failure β} (hx : Judged fails x)
    (hk : ∀ a, x = .ok a → Judged (next a) (k a)) :
    Judged (fun reason => fails reason ∨ ∃ a, x = .ok a ∧ next a reason) (x >>= k) := by
  cases hx with
  | failed f reason hfails hunique hbecause =>
    refine .failed f reason (.inl hfails) (fun other hother => ?_) hbecause
    rcases hother with hother | ⟨a, ha, -⟩
    · exact hunique other hother
    · cases ha
  | done a hnone =>
    refine (hk a rfl).congr fun reason => ?_
    constructor
    · exact fun hnext => .inr ⟨a, rfl, hnext⟩
    · rintro (hfails | ⟨b, hb, hnext⟩)
      · exact absurd hfails (hnone reason)
      · cases hb
        exact hnext

/-- What is made of a result cannot fail. -/
theorem map (hx : Judged fails x) (g : α → β) : Judged fails (x >>= fun a => pure (g a)) := by
  cases hx with
  | failed f reason hfails hunique hbecause => exact .failed f reason hfails hunique hbecause
  | done a hnone => exact .done (g a) hnone

end Judged

/-! ## Requests without an answer -/

/-- Why an exchange failed at a step. -/
def HttpStep.reason : HttpStep → Reason
  | address | exchange => .unanswered
  | connection => .unconnected
  | waiting | stalledBody => .timedOut
  | body => .unreadable

/-- Why a sealed body ended in a fault. -/
def SealFault.reason : SealFault → Reason
  | source _ => .sourceBroken
  | _ => .unsound

/-- Why an exchange with a body failed: for the fault that lies beneath, or else at its step. -/
def HttpFailure.reason (f : HttpFailure) : Reason :=
  match f.sealFault? with
  | some fault => fault.reason
  | none => f.step.reason

namespace Failure

end Failure

namespace Network

variable {n : Network} {method : Method} {u : Url} {headers : Headers} {payload : Payload}
variable {reason : Reason}

end Network

end MediaVault
