/-
The ways in which a copy can run. A copy is one request to the source and, if
the answer is the right one, one upload of what the source delivers; each way
says what comes of the copy and which session it leaves but for the lines of
the log, so that later proofs never open the operation itself.
-/
import MediaVault.Proofs.Http.Exchange
import MediaVault.Proofs.Vault.Action
import MediaVault.Vault.Client

namespace MediaVault

namespace Client

open MediaVault.Action Network

variable {source location : Url} {expected : Nat} {key : SealKey} {fields : Headers}
variable {grant : UploadGrant} {s : Session}

/-- The length that a source's answer settles on, or why it cannot be copied. -/
def checkedLength (expected : Nat) (reply : Reply) : Except Failure Nat :=
  if reply.status = 404 then .error .sourceMissing
  else if reply.status ≠ 200 then
    .error (.transfer (some reply.status) ("error reading from source: " ++ toString reply.status))
  else
    match reply.length? with
    | none => .error (.transfer none "upstream missing Content-Length")
    | some actual => if actual ≠ expected then .error (.lengthMismatch expected actual) else .ok actual

/-- What an upload's answer makes of a copy. -/
def uploadResult : Except HttpFailure Reply → Except Failure Unit
  | .error f => .error (.ofUpload f)
  | .ok answer =>
    if answer.status ≠ 201 ∧ answer.status ≠ 200 then
      .error (.transfer (some answer.status) ("failed to copy object: " ++ toString answer.status))
    else .ok ()

/-- Only an answer with status 200 and the expected length is copied. -/
theorem checkedLength_eq_ok {reply : Reply} {n : Nat} :
    checkedLength expected reply = .ok n ↔
      reply.status = 200 ∧ reply.length? = some expected ∧ n = expected := by
  unfold checkedLength
  constructor
  · intro h
    split at h
    · cases h
    split at h
    · cases h
    next hstatus =>
      split at h
      · cases h
      next actual hlength =>
        split at h
        · cases h
        next hactual =>
          cases h
          have hactual := Decidable.not_not.mp hactual
          exact ⟨Decidable.not_not.mp hstatus, hactual ▸ hlength, hactual⟩
  · rintro ⟨hstatus, hlength, rfl⟩
    simp [hstatus, hlength]

/-- The exchange with the source. -/
def asked (s : Session) (source : Url) : Except HttpFailure Reply × Option Attempt × Network :=
  s.network.exchange .get source [] .nothing

/-- A source that replied was the next one to answer. -/
theorem reply?_of_asked_eq_ok {reply : Reply} (h : (asked s source).1 = .ok reply) :
    (s.network.nextAnswer .get).1.reply? = some reply :=
  (of_exchange_eq_ok h).1

/-- The upload meets with what it would have met with before the source was asked. -/
theorem nextAnswer_post_asked (s : Session) (source : Url) :
    ((asked s source).2.2.nextAnswer .post).1 = (s.network.nextAnswer .post).1 :=
  s.network.nextAnswer_post_exchange_get source [] .nothing

/-- The question to the source was sent whole if it was answered. -/
theorem asked_eq_ok {reply : Reply} (h : (asked s source).1 = .ok reply) :
    ∃ question : Attempt, (asked s source).2.1 = some question ∧ question.complete = true ∧
      question.request = .build .get source [] := by
  obtain ⟨question, hattempt, hcomplete⟩ := attempt_of_exchange_eq_ok h
  exact ⟨question, hattempt, hcomplete, request_of_mem_exchange (by rw [hattempt]; simp)⟩

theorem runFrom_fetch (source : Url) (s : Session) :
    (fetch source).runFrom s =
      ((asked s source).1.mapError .http,
        { s with
          network := (asked s source).2.2
          attempts := s.attempts ++ (asked s source).2.1.toList }) := by
  rw [fetch, runFrom_bind, runFrom_exchange, asked]
  rcases (s.network.exchange .get source [] .nothing) with ⟨f | reply, _⟩ <;> rfl

/-- The look at the answer of a source only adds to the log. -/
theorem runFrom_sourceLength (source : Url) (expected : Nat) (reply : Reply) (s : Session) :
    ∃ log, (sourceLength source expected reply).runFrom s =
      (checkedLength expected reply, { s with log }) := by
  unfold sourceLength checkedLength
  by_cases hmissing : reply.status = 404
  · simp only [hmissing, if_true, runFrom_bind, runFrom_log, runFrom_throw]
    exact ⟨_, rfl⟩
  simp only [hmissing, if_false]
  by_cases hstatus : reply.status = 200
  · simp only [hstatus, ne_eq, not_true_eq_false, if_false]
    cases reply.length? with
    | none => exact ⟨s.log, rfl⟩
    | some actual =>
      by_cases hactual : actual = expected
      · simp only [hactual, not_true_eq_false, if_false]
        exact ⟨s.log, rfl⟩
      · simp only [hactual, not_false_eq_true, if_true, runFrom_bind, runFrom_throw]
        exact ⟨s.log, rfl⟩
  · simp only [hstatus, ne_eq, not_false_eq_true, if_true, runFrom_bind, runFrom_log, runFrom_throw]
    exact ⟨_, rfl⟩

/-- The exchange with the upload location after the source has answered. -/
def posted (s : Session) (source : Url) (expected : Nat) (key : SealKey) (location : Url)
    (fields : Headers) (reply : Reply) : Except HttpFailure Reply × Option Attempt × Network :=
  (asked s source).2.2.exchange .post location (uploadHeaders fields (Seal.announcedLength expected))
    (.sealing (SealStream.start key.cipher expected) reply.body)

/-- How an upload can go. -/
theorem exchanged_posted (s : Session) (source : Url) (expected : Nat) (key : SealKey)
    (location : Url) (fields : Headers) (reply : Reply) :
    Exchanged (asked s source).2.2
      (.build .post location (uploadHeaders fields (Seal.announcedLength expected)))
      (.sealing (SealStream.start key.cipher expected) reply.body)
      (posted s source expected key location fields reply) :=
  exchanged _ _ _ _ _

/-- How a transfer can run from a session. -/
inductive Transferred (source : Url) (expected : Nat) (key : SealKey) (location : Url)
    (fields : Headers) (s : Session) : Except Failure Unit × Session → Prop
  /-- The source gave no answer. -/
  | unanswered (f : HttpFailure) (log : List LogLine) : (asked s source).1 = .error f →
      Transferred source expected key location fields s
        (.error (.http f),
          { s with
            network := (asked s source).2.2
            attempts := s.attempts ++ (asked s source).2.1.toList
            log := log })
  /-- The source gave an answer that cannot be copied. -/
  | declined (reply : Reply) (f : Failure) (log : List LogLine) : (asked s source).1 = .ok reply →
      checkedLength expected reply = .error f →
      Transferred source expected key location fields s
        (.error f,
          { s with
            network := (asked s source).2.2
            attempts := s.attempts ++ (asked s source).2.1.toList
            log := log })
  /-- What the source delivers was sent to the upload location. -/
  | uploaded (reply : Reply) (log : List LogLine) : (asked s source).1 = .ok reply →
      checkedLength expected reply = .ok expected →
      Transferred source expected key location fields s
        (uploadResult (posted s source expected key location fields reply).1,
          { s with
            network := (posted s source expected key location fields reply).2.2
            attempts := s.attempts ++ (asked s source).2.1.toList ++
              (posted s source expected key location fields reply).2.1.toList
            log := log })

/-- **A transfer runs in one of these ways.** -/
theorem runFrom_transfer (source : Url) (expected : Nat) (key : SealKey) (location : Url)
    (fields : Headers) (s : Session) :
    Transferred source expected key location fields s
      ((transfer source expected key location fields).runFrom s) := by
  rw [transfer, runFrom_bind, runFrom_fetch]
  rcases hasked : (asked s source).1 with f | reply
  · exact .unanswered f s.log hasked
  have hreply : Except.mapError Failure.http (.ok reply) = .ok reply := rfl
  simp only [hreply, runFrom_bind]
  generalize hs₁ : ({ s with
    network := (asked s source).2.2
    attempts := s.attempts ++ (asked s source).2.1.toList } : Session) = s₁
  obtain ⟨log, hlength⟩ := runFrom_sourceLength source expected reply s₁
  rw [hlength]
  rcases hchecked : checkedLength expected reply with f | n
  · subst hs₁
    exact .declined reply f log hasked hchecked
  obtain ⟨-, -, rfl⟩ := checkedLength_eq_ok.mp hchecked
  subst hs₁
  have huploaded := fun log => @Transferred.uploaded source n key location fields s reply log
    hasked hchecked
  simp only [posted, runFrom_exchange] at huploaded ⊢
  generalize (asked s source).2.2.exchange .post location
    (uploadHeaders fields (Seal.announcedLength n))
    (.sealing (SealStream.start key.cipher n) reply.body) = post at huploaded ⊢
  rcases post with ⟨f | answer, attempt, network⟩
  · exact huploaded log
  simp only [uploadResult] at huploaded ⊢
  split
  next hstatus =>
    simp only [if_pos hstatus, runFrom_bind, runFrom_log, runFrom_throw] at huploaded ⊢
    exact huploaded _
  next hstatus =>
    simp only [if_neg hstatus, runFrom_log] at huploaded ⊢
    exact huploaded _

/-- How a copy to a grant of this vault can run from a session. -/
inductive Copied (source : Url) (expected : Nat) (key : SealKey) (grant : UploadGrant)
    (s : Session) : Except Failure Unit × Session → Prop
  /-- The grant names no address. -/
  | mislaid (f : Failure) : grant.url = .error f →
      Copied source expected key grant s (.error f, { s with marks := s.marks ++ [.duration .copy] })
  /-- The grant has a header field that cannot be sent. -/
  | misheaded (location : Url) (f : Failure) : grant.url = .ok location → grant.fields = .error f →
      Copied source expected key grant s (.error f, { s with marks := s.marks ++ [.duration .copy] })
  | transferred (location : Url) (fields : Headers) (r : Except Failure Unit) (s' : Session) :
      grant.url = .ok location → grant.fields = .ok fields →
      Transferred source expected key location fields s (r, s') →
      Copied source expected key grant s (r, { s' with marks := s'.marks ++ [.duration .copy] })

/-- **A copy runs in one of these ways**, and only a grant for this vault is copied to. -/
theorem runFrom_copy {c : Client} {action : Action Unit}
    (h : c.copy source expected key grant = .ok action) (s : Session) :
    grant.vault = vaultNumber ∧ Copied source expected key grant s (action.runFrom s) := by
  unfold copy at h
  split at h
  · cases h
  next hvault =>
  cases h
  refine ⟨Decidable.not_not.mp hvault, ?_⟩
  rw [runFrom_timed, runFrom_bind]
  rcases hurl : grant.url with f | location
  · exact .mislaid f hurl
  simp only [runFrom_lift, runFrom_bind]
  rcases hfields : grant.fields with f | fields
  · exact .misheaded location f hurl hfields
  exact .transferred location fields _ _ hurl hfields (runFrom_transfer _ _ _ _ _ _)

/-- What a copy comes to. Of the session only the network counts. -/
def copied (s : Session) (source : Url) (expected : Nat) (key : SealKey) (grant : UploadGrant) :
    Except Failure Unit := do
  let location ← grant.url
  let fields ← grant.fields
  let reply ← (asked s source).1.mapError .http
  let _ ← checkedLength expected reply
  uploadResult (posted s source expected key location fields reply).1

theorem Copied.fst_eq {outcome : Except Failure Unit × Session}
    (h : Copied source expected key grant s outcome) :
    outcome.1 = copied s source expected key grant := by
  unfold copied
  cases h with
  | mislaid f hurl => rw [hurl]; rfl
  | misheaded location f hurl hfields => rw [hurl, hfields]; rfl
  | transferred location fields r s' hurl hfields ht =>
    rw [hurl, hfields]
    cases ht with
    | unanswered f log hasked => rw [hasked]; rfl
    | declined reply f log hasked hchecked | uploaded reply log hasked hchecked =>
      rw [hasked]
      simp [hchecked, bind, Except.bind]

end Client

end MediaVault
