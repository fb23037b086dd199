/-
What comes of a copy. The things that can stand in its way are listed here,
each with what it is reported as and with what it takes by itself, so several
of them can be there at once. They have an order, and a call comes to what the
first of them in that order is reported as; it succeeds if there is none.
-/
import MediaVault.Proofs.Seal.Drawing
import MediaVault.Proofs.Vault.Requests

namespace MediaVault

/-! ## Failures of a sealed body -/

namespace HttpFailure

/-- A fault of the sealed body is found however deep it lies. -/
theorem sealFault?_of_fault (step : HttpStep) (url : Option Url) (above : List String)
    (f : SealFault) (below : List Cause) :
    sealFault? ⟨step, url, above.map .text ++ .sealing f :: below⟩ = some f := by
  induction above with
  | nil => rfl
  | cons text above ih => exact ih

/-- There is none beneath a failure of which there are words only. -/
theorem sealFault?_of_texts (step : HttpStep) (url : Option Url) (texts : List String) :
    sealFault? ⟨step, url, texts.map .text⟩ = none := by
  induction texts with
  | nil => rfl
  | cons text texts ih => exact ih

end HttpFailure

/-- What goes wrong before anything is sent has nothing to do with a body. -/
theorem Network.of_addressFailure? {u : Url} {f : HttpFailure} (h : addressFailure? u = some f) :
    f.step = .address ∧ f.sealFault? = none := by
  unfold addressFailure? at h
  split at h
  · cases h
    exact ⟨rfl, rfl⟩
  split at h
  · cases h
    exact ⟨rfl, rfl⟩
  · cases h

namespace Failure

/-- What a fault of a sealed body is reported as: a source that broke by its own words, anything
else as a body that is not what was announced. -/
def ofFault : SealFault → Failure
  | .source reason => .sourceBroken reason
  | f => .integrity f.message

theorem ofUpload_of_sealFault? {f : HttpFailure} {fault : SealFault}
    (h : f.sealFault? = some fault) : ofUpload f = ofFault fault := by
  rw [ofUpload, h]
  cases fault <;> rfl

theorem ofUpload_of_sealFault?_eq_none {f : HttpFailure} (h : f.sealFault? = none) :
    ofUpload f = .http f := by
  rw [ofUpload, h]

end Failure

namespace Client

open MediaVault.Action Network SealStream UploadGrant

/-! ## What can stand in the way -/

/-- The points at which a copy can fail, in the order in which they are come to. -/
inductive Stage where
  | vault
  | location
  | header
  | answer
  | missing
  | status
  | length
  | mismatch
  | body
  | upload
  | verdict
  deriving DecidableEq, Repr

/-- The number of a point in the order. -/
def Stage.rank : Stage → Nat
  | vault => 0
  | location => 1
  | header => 2
  | answer => 3
  | missing => 4
  | status => 5
  | length => 6
  | mismatch => 7
  | body => 8
  | upload => 9
  | verdict => 10

theorem Stage.eq_of_rank_eq {a b : Stage} (h : a.rank = b.rank) : a = b := by
  cases a <;> cases b <;> first | rfl | cases h

/-- The sealed body of an upload over a network ends in a fault before the server has done anything
about the upload. A server that is not early is sent the body to its end. -/
structure Interrupted (n : Network) (location : Url) (key : SealKey) (expected : Nat)
    (body : List Arrival) (fault : SealFault) : Prop where
  address : addressFailure? location.anonymous = none
  aborts : Aborts expected body fault
  timely : ∃ reaction early, (n.nextAnswer .post).1 = .met reaction early ∧
    ∀ e ∈ early, ((SealStream.start key.cipher expected).drawn e.before body).2 = some fault

/-- What stands in the way of a copy at a point, with what it is reported as. Each says no more than
it takes to be met with, whatever else stands in the way. -/
inductive Objection (s : Session) (source : Url) (expected : Nat) (key : SealKey)
    (grant : UploadGrant) : Stage → Failure → Prop
  | otherVault : grant.vault ≠ vaultNumber →
      Objection s source expected key grant .vault (.otherVault vaultNumber grant.vault)
  | unreadable {e} : Url.read grant.location = .error e →
      Objection s source expected key grant .location
        (.location (grant.location ++ ": " ++ e.message))
  /-- The first field that cannot be sent, as they are gone through. -/
  | illegal {before x after name} : grant.headers = before ++ x :: after →
      (∀ y ∈ before, ∀ n, ¬ Illegal y n) → Illegal x name →
      Objection s source expected key grant .header (.header name)
  | unanswered {f} : (asked s source).1 = .error f →
      Objection s source expected key grant .answer (.http f)
  | missing {reply} : (asked s source).1 = .ok reply → reply.status = 404 →
      Objection s source expected key grant .missing .sourceMissing
  | status {reply} : (asked s source).1 = .ok reply → reply.status ≠ 200 →
      Objection s source expected key grant .status
        (.transfer (some reply.status) ("error reading from source: " ++ toString reply.status))
  | unmeasured {reply} : (asked s source).1 = .ok reply → reply.length? = none →
      Objection s source expected key grant .length
        (.transfer none "upstream missing Content-Length")
  | mismatch {reply actual} : (asked s source).1 = .ok reply → reply.length? = some actual →
      actual ≠ expected →
      Objection s source expected key grant .mismatch (.lengthMismatch expected actual)
  /-- The body of the source broke off while it was sealed. -/
  | broken {location reply reason} : grant.url = .ok location → (asked s source).1 = .ok reply →
      Interrupted s.network location key expected reply.body (.source reason) →
      Objection s source expected key grant .body (.sourceBroken reason)
  /-- The sealed body ended for another reason: it was too long or too short. -/
  | unsound {location reply f} : grant.url = .ok location → (asked s source).1 = .ok reply →
      Interrupted s.network location key expected reply.body f → (∀ reason, f ≠ .source reason) →
      Objection s source expected key grant .body (.integrity f.message)
  | unsent {location fields reply f} : grant.url = .ok location → grant.fields = .ok fields →
      (asked s source).1 = .ok reply →
      (posted s source expected key location fields reply).1 = .error f →
      Objection s source expected key grant .upload (.http f)
  | rejected {location fields reply answer} : grant.url = .ok location → grant.fields = .ok fields →
      (asked s source).1 = .ok reply →
      (posted s source expected key location fields reply).1 = .ok answer →
      answer.status ≠ 200 → answer.status ≠ 201 →
      Objection s source expected key grant .verdict
        (.transfer (some answer.status) ("failed to copy object: " ++ toString answer.status))

variable {s : Session} {source location : Url} {expected : Nat} {key : SealKey}
variable {grant : UploadGrant} {fields : Headers} {reply : Reply} {stage stage' : Stage}
variable {f f' : Failure}

/-- Nothing stands in the way before the point with this number. -/
def Clear (s : Session) (source : Url) (expected : Nat) (key : SealKey) (grant : UploadGrant)
    (n : Nat) : Prop :=
  ∀ stage f, stage.rank < n → ¬ Objection s source expected key grant stage f

/-- What stands in the way at this point and is the first that does. -/
structure First (s : Session) (source : Url) (expected : Nat) (key : SealKey)
    (grant : UploadGrant) (stage : Stage) (f : Failure) : Prop where
  objection : Objection s source expected key grant stage f
  clear : Clear s source expected key grant stage.rank

/-- What a call comes to: what the first thing in its way is reported as, by the call itself or by
the operation, or success if there is none. -/
inductive Decided (s : Session) (source : Url) (expected : Nat) (key : SealKey)
    (grant : UploadGrant) : Except Failure (Except Failure Unit) → Prop
  | refused {f : Failure} : First s source expected key grant .vault f →
      Decided s source expected key grant (.error f)
  | failed {stage : Stage} {f : Failure} : stage ≠ .vault → First s source expected key grant stage f →
      Decided s source expected key grant (.ok (.error f))
  | done : (∀ stage f, ¬ Objection s source expected key grant stage f) →
      Decided s source expected key grant (.ok (.ok ()))

/-! ## The first one settles the outcome -/

/-- At one point there is at most one thing in the way. -/
theorem Objection.unique (h : Objection s source expected key grant stage f)
    (h' : Objection s source expected key grant stage f') : f = f' := by
  have sameReply : ∀ {a b : Reply}, (asked s source).1 = .ok a → (asked s source).1 = .ok b →
      a = b := fun ha hb => Except.ok.inj (ha.symm.trans hb)
  have sameFault : ∀ {a b : Reply} {x y : SealFault}, (asked s source).1 = .ok a →
      (asked s source).1 = .ok b → Aborts expected a.body x → Aborts expected b.body y → x = y := by
    intro a b x y ha hb hx hy
    cases sameReply ha hb
    rw [← snd_drain_eq_some key.lawful_cipher] at hx hy
    exact Option.some.inj (hx.symm.trans hy)
  have samePost : ∀ {u v : Url} {hu hv : Headers} {a b : Reply}, grant.url = .ok u →
      grant.url = .ok v → grant.fields = .ok hu → grant.fields = .ok hv →
      (asked s source).1 = .ok a → (asked s source).1 = .ok b →
      posted s source expected key u hu a = posted s source expected key v hv b := by
    intro u v hu hv a b hu₁ hv₁ hu₂ hv₂ ha hb
    cases Except.ok.inj (hu₁.symm.trans hv₁)
    cases Except.ok.inj (hu₂.symm.trans hv₂)
    rw [sameReply ha hb]
  cases h with
  | otherVault => cases h'; rfl
  | unreadable he =>
    cases h' with
    | unreadable he' => rw [Except.error.inj (he.symm.trans he')]
  | illegal hheaders hlegal hx =>
    cases h' with
    | illegal hheaders' hlegal' hx' =>
      have hfields := fields_eq_error.mpr ⟨_, _, _, _, hheaders, hlegal, hx, rfl⟩
      have hfields' := fields_eq_error.mpr ⟨_, _, _, _, hheaders', hlegal', hx', rfl⟩
      exact Except.error.inj (hfields.symm.trans hfields')
  | unanswered hasked =>
    cases h' with
    | unanswered hasked' => rw [Except.error.inj (hasked.symm.trans hasked')]
  | missing => cases h'; rfl
  | status hasked _ =>
    cases h' with
    | status hasked' _ => rw [sameReply hasked hasked']
  | unmeasured => cases h'; rfl
  | mismatch hasked hlength _ =>
    cases h' with
    | mismatch hasked' hlength' _ =>
      cases sameReply hasked hasked'
      rw [Option.some.inj (hlength.symm.trans hlength')]
  | broken _ hasked hfault =>
    cases h' with
    | broken _ hasked' hfault' =>
      cases sameFault hasked hasked' hfault.aborts hfault'.aborts
      rfl
    | unsound _ hasked' hfault' hother =>
      exact absurd (sameFault hasked' hasked hfault'.aborts hfault.aborts) (hother _)
  | unsound _ hasked hfault hother =>
    cases h' with
    | broken _ hasked' hfault' =>
      exact absurd (sameFault hasked hasked' hfault.aborts hfault'.aborts) (hother _)
    | unsound _ hasked' hfault' _ => rw [sameFault hasked hasked' hfault.aborts hfault'.aborts]
  | unsent hurl hfields hasked hposted =>
    cases h' with
    | unsent hurl' hfields' hasked' hposted' =>
      rw [samePost hurl hurl' hfields hfields' hasked hasked'] at hposted
      rw [Except.error.inj (hposted.symm.trans hposted')]
  | rejected hurl hfields hasked hposted _ _ =>
    cases h' with
    | rejected hurl' hfields' hasked' hposted' _ _ =>
      rw [samePost hurl hurl' hfields hfields' hasked hasked'] at hposted
      rw [Except.ok.inj (hposted.symm.trans hposted')]

/-- Only one thing can be the first. -/
theorem First.unique (h : First s source expected key grant stage f)
    (h' : First s source expected key grant stage' f') : stage = stage' ∧ f = f' := by
  have hrank : stage.rank = stage'.rank := by
    refine Nat.le_antisymm (Nat.le_of_not_lt fun hlt => ?_) (Nat.le_of_not_lt fun hlt => ?_)
    · exact h.clear _ _ hlt h'.objection
    · exact h'.clear _ _ hlt h.objection
  cases Stage.eq_of_rank_eq hrank
  exact ⟨rfl, h.objection.unique h'.objection⟩

theorem Decided.unique {r r' : Except Failure (Except Failure Unit)}
    (h : Decided s source expected key grant r) (h' : Decided s source expected key grant r') :
    r = r' := by
  cases h with
  | refused hfirst =>
    cases h' with
    | refused hfirst' => rw [(hfirst.unique hfirst').2]
    | failed hstage hfirst' => exact absurd (hfirst'.unique hfirst).1 hstage
    | done hnone => exact absurd hfirst.objection (hnone _ _)
  | failed hstage hfirst =>
    cases h' with
    | refused hfirst' => exact absurd (hfirst.unique hfirst').1 hstage
    | failed _ hfirst' => rw [(hfirst.unique hfirst').2]
    | done hnone => exact absurd hfirst.objection (hnone _ _)
  | done hnone =>
    cases h' with
    | refused hfirst' => exact absurd hfirst'.objection (hnone _ _)
    | failed _ hfirst' => exact absurd hfirst'.objection (hnone _ _)
    | done _ => rfl

/-! ## Point by point -/

theorem Clear.next (h : Clear s source expected key grant stage.rank)
    (hnone : ∀ f, ¬ Objection s source expected key grant stage f) :
    Clear s source expected key grant (stage.rank + 1) := by
  intro earlier f hlt
  rcases Nat.lt_or_eq_of_le (Nat.le_of_lt_succ hlt) with hlt | heq
  · exact h earlier f hlt
  · cases Stage.eq_of_rank_eq heq
    exact hnone f

theorem Clear.header (h : Clear s source expected key grant Stage.location.rank)
    (hurl : grant.url = .ok location) : Clear s source expected key grant Stage.header.rank := by
  refine h.next fun f h => ?_
  cases h with
  | unreadable he =>
    rw [url_eq_error.mpr ⟨_, he, rfl⟩] at hurl
    cases hurl

theorem Clear.answer (h : Clear s source expected key grant Stage.header.rank)
    (hfields : grant.fields = .ok fields) :
    Clear s source expected key grant Stage.answer.rank := by
  refine h.next fun f h => ?_
  cases h with
  | illegal hheaders hlegal hx =>
    rw [fields_eq_error.mpr ⟨_, _, _, _, hheaders, hlegal, hx, rfl⟩] at hfields
    cases hfields

theorem Clear.missing (h : Clear s source expected key grant Stage.answer.rank)
    (hasked : (asked s source).1 = .ok reply) :
    Clear s source expected key grant Stage.missing.rank := by
  refine h.next fun f h => ?_
  cases h with
  | unanswered hasked' =>
    rw [hasked'] at hasked
    cases hasked

/-- An upload that does not end at a fault of its body is not in the way as a body. -/
theorem Clear.upload (h : Clear s source expected key grant Stage.body.rank)
    (hurl : grant.url = .ok location) (hasked : (asked s source).1 = .ok reply)
    (hnone : ∀ fault, ¬ Interrupted s.network location key expected reply.body fault) :
    Clear s source expected key grant Stage.upload.rank := by
  refine h.next fun f hf => ?_
  cases hf with
  | broken hurl' hasked' hfault | unsound hurl' hasked' hfault _ =>
    cases Except.ok.inj (hurl'.symm.trans hurl)
    cases Except.ok.inj (hasked'.symm.trans hasked)
    exact hnone _ hfault

/-- A fault at which an upload ends is the first thing in the way. -/
theorem Clear.interrupted (h : Clear s source expected key grant Stage.body.rank)
    (hurl : grant.url = .ok location) (hasked : (asked s source).1 = .ok reply) {fault : SealFault}
    (hfault : Interrupted s.network location key expected reply.body fault) :
    First s source expected key grant .body (Failure.ofFault fault) := by
  refine ⟨?_, h⟩
  unfold Failure.ofFault
  split
  next reason => exact .broken hurl hasked hfault
  next hother => exact .unsound hurl hasked hfault hother

/-- An upload that meets with a server ends at the fault that its body has met with by the time that
the server acts. -/
theorem interrupted_iff_drawn {n : Network} {body : List Arrival} {fault : SealFault}
    {reaction : Reaction} {early : Option Early}
    (hanswer : (n.nextAnswer .post).1 = .met reaction early) :
    Interrupted n location key expected body fault ↔
      addressFailure? location.anonymous = none ∧
        (Payload.drawn (Payload.pace (.sealing (.start key.cipher expected) body) early).before
          (.sealing (.start key.cipher expected) body)).2 = some fault := by
  have hdrawn : ∀ n, (Payload.drawn n (.sealing (.start key.cipher expected) body)).2 =
      ((SealStream.start key.cipher expected).drawn n body).2 := fun _ => rfl
  rw [hdrawn]
  constructor
  · rintro ⟨haddress, habort, reaction', early', hanswer', htimely⟩
    rw [hanswer] at hanswer'
    cases hanswer'
    refine ⟨haddress, ?_⟩
    cases early with
    | none => exact (snd_drain_eq_some key.lawful_cipher).mpr habort
    | some e => exact htimely e rfl
  · rintro ⟨haddress, hfault⟩
    refine ⟨haddress, aborts_of_drawn key.lawful_cipher hfault, reaction, early, hanswer, ?_⟩
    rintro e ⟨⟩
    exact hfault

/-- An upload that meets with no server does not end at a fault of its body. -/
theorem not_interrupted {n : Network} {body : List Arrival} {fault : SealFault}
    (hanswer : ∀ reaction early, (n.nextAnswer .post).1 ≠ .met reaction early) :
    ¬ Interrupted n location key expected body fault := by
  rintro ⟨-, -, reaction, early, hmet, -⟩
  exact hanswer reaction early hmet

/-- A body that ended in a fault breaks the upload off. -/
theorem ofUpload_brokenOff (u : Url) (reason : String) (fault : SealFault) :
    Failure.ofUpload (brokenOff u [.text reason, .sealing fault]) = Failure.ofFault fault :=
  Failure.ofUpload_of_sealFault?
    (HttpFailure.sealFault?_of_fault .exchange (some u) ["client error (SendRequest)", reason] fault [])

/-- The answer to an upload is the last thing that can be in the way. -/
theorem Clear.answered (h : Clear s source expected key grant Stage.upload.rank)
    (hurl : grant.url = .ok location) (hfields : grant.fields = .ok fields)
    (hasked : (asked s source).1 = .ok reply) {answer : Reply}
    (hposted : (posted s source expected key location fields reply).1 = .ok answer) :
    Decided s source expected key grant (.ok (uploadResult (.ok answer))) := by
  have same : ∀ {u : Url} {given : Headers} {other : Reply}, grant.url = .ok u →
      grant.fields = .ok given → (asked s source).1 = .ok other →
      (posted s source expected key u given other).1 = .ok answer := by
    intro u given other hu hg ho
    cases Except.ok.inj (hu.symm.trans hurl)
    cases Except.ok.inj (hg.symm.trans hfields)
    cases Except.ok.inj (ho.symm.trans hasked)
    exact hposted
  have hverdict : Clear s source expected key grant Stage.verdict.rank := by
    refine h.next fun f hf => ?_
    cases hf with
    | unsent hurl' hfields' hasked' herror =>
      rw [same hurl' hfields' hasked'] at herror
      cases herror
  rw [uploadResult]
  by_cases hstatus : answer.status ≠ 201 ∧ answer.status ≠ 200
  · rw [if_pos hstatus]
    exact .failed (by decide)
      ⟨.rejected hurl hfields hasked hposted hstatus.2 hstatus.1, hverdict⟩
  · rw [if_neg hstatus]
    have hend := hverdict.next fun f hf => by
      cases hf with
      | rejected hurl' hfields' hasked' hanswer h200 h201 =>
        rw [same hurl' hfields' hasked'] at hanswer
        cases hanswer
        exact hstatus ⟨h201, h200⟩
    exact .done fun stage f => hend stage f (by cases stage <;> decide)

/-- An upload that was not answered, for a reason other than its body. -/
theorem Clear.unanswered (h : Clear s source expected key grant Stage.upload.rank)
    (hurl : grant.url = .ok location) (hfields : grant.fields = .ok fields)
    (hasked : (asked s source).1 = .ok reply) {f : HttpFailure}
    (hposted : (posted s source expected key location fields reply).1 = .error f)
    (hf : f.sealFault? = none) :
    Decided s source expected key grant (.ok (uploadResult (.error f))) := by
  rw [uploadResult, Failure.ofUpload_of_sealFault?_eq_none hf]
  exact .failed (by decide) ⟨.unsent hurl hfields hasked hposted, h⟩

/-- **The upload decides** if nothing before it has. -/
theorem Clear.posted (h : Clear s source expected key grant Stage.body.rank)
    (hurl : grant.url = .ok location) (hfields : grant.fields = .ok fields)
    (hasked : (asked s source).1 = .ok reply) :
    Decided s source expected key grant
      (.ok (uploadResult (posted s source expected key location fields reply).1)) := by
  have hnext := nextAnswer_post_asked s source
  have hcases := exchanged_posted s source expected key location fields reply
  have hdecided := @Clear.unanswered s source location expected key grant fields reply
  have hanswered := @Clear.answered s source location expected key grant fields reply
  rcases hx : Client.posted s source expected key location fields reply with ⟨result, attempt, n⟩
  rw [hx] at hcases hdecided hanswered
  cases hcases with
  | refused f hf =>
    refine hdecided ?_ hurl hfields hasked rfl (of_addressFailure? hf).2
    refine h.upload hurl hasked fun fault hfault => ?_
    cases hfault.address.symm.trans hf
  | unconnected causes _ hanswer =>
    rw [Request.method_build, hnext] at hanswer
    refine hdecided ?_ hurl hfields hasked rfl (HttpFailure.sealFault?_of_texts _ _ (_ :: causes))
    exact h.upload hurl hasked fun fault => not_interrupted (by simp [hanswer])
  | unmet _ hanswer =>
    rw [Request.method_build, hnext] at hanswer
    refine hdecided ?_ hurl hfields hasked rfl rfl
    exact h.upload hurl hasked fun fault => not_interrupted (by simp [hanswer])
  | broken _ early fault haddress hanswer hdrawn =>
    rw [Request.method_build, hnext] at hanswer
    have hfault := (interrupted_iff_drawn hanswer).mpr ⟨haddress, hdrawn⟩
    rw [uploadResult, ofUpload_brokenOff]
    exact .failed (by decide) (h.interrupted hurl hasked hfault)
  | acted reaction _ _ hanswer hdrawn =>
    rw [Request.method_build, hnext] at hanswer
    have hupload := h.upload hurl hasked fun fault hfault => by
      cases hdrawn.symm.trans ((interrupted_iff_drawn hanswer).mp hfault).2
    cases reaction with
    | reply answer => exact hanswered hupload hurl hfields hasked rfl
    | hangUp | silence => exact hdecided hupload hurl hfields hasked rfl rfl

end Client

end MediaVault
