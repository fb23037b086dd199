/-
What a copy leaves at its upload location. An upload announces the length of
the whole object before anything is sealed, and only a source that delivers
exactly what was expected, and ends, brings it to that length. So an upload that
went out whole opens to the text of its source. Every other one stays short of
what it announced, and fails where a server takes uploads for done only once it
has all of them.
-/
import MediaVault.Proofs.Seal.Drawing
import MediaVault.Proofs.Seal.RoundTrip
import MediaVault.Proofs.Vault.Copying

namespace MediaVault

namespace Network

/-- The source that is asked next answers with status 200 and the length of this text, delivers
the text and ends. -/
def Offers (n : Network) (text : Bytes) : Prop :=
  ∃ reply, (n.nextAnswer .get).1.reply? = some reply ∧ reply.status = 200 ∧
    reply.length? = some text.length ∧ Delivers reply.body text

/-- The server of the next upload does not say that it is done before it was sent all of it. -/
def Thorough (n : Network) : Prop :=
  ∀ reply early, (n.nextAnswer .post).1 = .met (.reply reply) (some early) →
    reply.status ≠ 200 ∧ reply.status ≠ 201

end Network

namespace Client

open MediaVault.Action Network

variable {source location : Url} {expected : Nat} {key : SealKey} {fields : Headers}
variable {grant : UploadGrant} {s : Session} {reply : Reply} {text : Bytes}

/-! ## The source -/

/-- What a source offers is what its answer delivers. -/
theorem delivers_of_offers (h : (asked s source).1 = .ok reply) (ho : s.network.Offers text) :
    Delivers reply.body text := by
  obtain ⟨other, hother, -, -, hd⟩ := ho
  rw [reply?_of_asked_eq_ok h] at hother
  cases hother
  exact hd

/-- An answer that can be copied and delivers the expected length is an offer. -/
theorem offers_of_delivers (h : (asked s source).1 = .ok reply)
    (hchecked : checkedLength expected reply = .ok expected) (hlen : text.length = expected)
    (hd : Delivers reply.body text) : s.network.Offers text := by
  obtain ⟨hstatus, hlength, -⟩ := checkedLength_eq_ok.mp hchecked
  exact ⟨reply, reply?_of_asked_eq_ok h, hstatus, by rw [hlength, hlen], hd⟩

/-! ## The upload -/

/-- What holds of an upload of `expected` octets over a network, in a copy with this result. -/
structure SoundUpload (n : Network) (key : SealKey) (expected : Nat)
    (result : Except Failure Unit) (a : Attempt) : Prop where
  /-- The length of the whole object is announced. -/
  announced : a.request.headers.get? "upload-length" = some (toString (Seal.sealedLength expected))
  /-- Only of a source that offers a text of the expected length all is sent. -/
  offered : a.complete = true → ∃ text, text.length = expected ∧ n.Offers text
  /-- All that is sent is all that was announced. -/
  whole : a.complete = true → a.sent.length = Seal.sealedLength expected
  /-- It opens to the text of the source. -/
  opens : a.complete = true → ∀ text, n.Offers text → key.openObject a.sent = .ok text
  /-- Otherwise less was sent. -/
  short : a.complete = false → a.sent.length < Seal.sealedLength expected
  /-- The copy fails then, unless the server took less for all. -/
  fails : a.complete = false → n.Thorough → ∃ f, result = .error f
  /-- A server that takes all of an upload is sent all of what the source offers. -/
  taken : ∀ reaction, (n.nextAnswer .post).1 = .met reaction none →
    ∀ text, text.length = expected → n.Offers text → a.complete = true

/-- An upload announces the length of the whole object. -/
theorem announced_of_mem_posted (hr : expected / Seal.segmentLength ≤ Place.limit) {a : Attempt}
    (h : a ∈ (posted s source expected key location fields reply).2.1.toList) :
    a.request.headers.get? "upload-length" = some (toString (Seal.sealedLength expected)) := by
  rw [request_of_mem_exchange h, Request.get?_build _ _ _ (by decide) (by decide) (by decide),
    uploadHeaders, Headers.get?_insert_of_ne _ _ (by decide),
    Headers.get?_insert_of_ne _ _ (by decide), Headers.get?_insert_self,
    Seal.announcedLength_eq hr]

/-- The sealed body of a source that offers what was expected does not end in a fault. -/
theorem snd_drain_of_offers (hasked : (asked s source).1 = .ok reply)
    (hr : expected / Seal.segmentLength ≤ Place.limit) (hlen : text.length = expected)
    (ho : s.network.Offers text) :
    ((SealStream.start key.cipher expected).drain reply.body).2 = none := by
  subst hlen
  rw [(SealStream.givesOut_of_delivers key.lawful_cipher (delivers_of_offers hasked ho) hr).drain]

/-- A server that acts early does not let a copy succeed. -/
theorem exists_error_of_early {u : Url} {reaction : Reaction} {early : Early}
    (hthorough : s.network.Thorough)
    (hanswer : (s.network.nextAnswer .post).1 = .met reaction (some early)) :
    ∃ f, uploadResult (received u reaction) = .error f := by
  cases reaction with
  | reply r =>
    obtain ⟨h200, h201⟩ := hthorough r early hanswer
    exact ⟨_, if_pos ⟨h201, h200⟩⟩
  | hangUp | silence => exact ⟨_, rfl⟩

/-- An upload of which not all was sent is sound if it stayed short and fails. -/
theorem SoundUpload.of_incomplete {n : Network} {result : Except Failure Unit} {a : Attempt}
    (hcomplete : a.complete = false)
    (hannounced :
      a.request.headers.get? "upload-length" = some (toString (Seal.sealedLength expected)))
    (hshort : a.sent.length < Seal.sealedLength expected)
    (hfails : n.Thorough → ∃ f, result = .error f)
    (htaken : ∀ reaction, (n.nextAnswer .post).1 = .met reaction none →
      ∀ text, text.length = expected → ¬ n.Offers text) :
    SoundUpload n key expected result a where
  announced := hannounced
  offered h := by cases hcomplete.symm.trans h
  whole h := by cases hcomplete.symm.trans h
  opens h := by cases hcomplete.symm.trans h
  short _ := hshort
  fails _ := hfails
  taken reaction h text hlen ho := absurd ho (htaken reaction h text hlen)

/-- An upload that went out to the end of its sealed body is sound. -/
theorem SoundUpload.of_isSpent {result : Except Failure Unit} {a : Attempt} {n : Nat}
    (hasked : (asked s source).1 = .ok reply)
    (hchecked : checkedLength expected reply = .ok expected)
    (hr : expected / Seal.segmentLength ≤ Place.limit) (hcomplete : a.complete = true)
    (hannounced :
      a.request.headers.get? "upload-length" = some (toString (Seal.sealedLength expected)))
    (hsent : a.sent = ((SealStream.start key.cipher expected).drawn n reply.body).1)
    (hspent : (SealStream.start key.cipher expected).isSpent n reply.body = true) :
    SoundUpload s.network key expected result a := by
  have hc := key.lawful_cipher
  obtain ⟨text, rfl, hd, hsealed⟩ := SealStream.delivers_of_isSpent hc hr hspent
  rw [hsealed] at hsent
  exact
    { announced := hannounced
      offered := fun _ => ⟨text, rfl, offers_of_delivers hasked hchecked rfl hd⟩
      whole := fun _ => by rw [hsent, hc.length_sealFrom]
      opens := fun _ other ho => by
        rw [hsent, (delivers_of_offers hasked ho).unique hd, SealKey.openObject_sealFrom key hr]
      short := fun h => by cases hcomplete.symm.trans h
      fails := fun h => by cases hcomplete.symm.trans h
      taken := fun _ _ _ _ _ => hcomplete }

/-- **An upload is sound.** -/
theorem soundUpload_of_mem_posted (hasked : (asked s source).1 = .ok reply)
    (hchecked : checkedLength expected reply = .ok expected)
    (hr : expected / Seal.segmentLength ≤ Place.limit) {a : Attempt}
    (ha : a ∈ (posted s source expected key location fields reply).2.1.toList) :
    SoundUpload s.network key expected
      (uploadResult (posted s source expected key location fields reply).1) a := by
  have hc := key.lawful_cipher
  have hannounced := announced_of_mem_posted hr ha
  have hnext := nextAnswer_post_asked s source
  have hcases := exchanged_posted s source expected key location fields reply
  rcases hx : posted s source expected key location fields reply with ⟨result, attempt, n⟩
  rw [hx] at ha hcases
  cases hcases with
  | refused => cases ha
  | unconnected _ _ hanswer | unmet _ hanswer =>
    rw [Request.method_build, hnext] at hanswer
    cases List.mem_singleton.mp ha
    refine .of_incomplete rfl hannounced (Seal.sealedLength_pos expected) (fun _ => ⟨_, rfl⟩) ?_
    intro reaction h
    cases hanswer.symm.trans h
  | broken _ early fault _ hanswer hdrawn =>
    rw [Request.method_build, hnext] at hanswer
    cases List.mem_singleton.mp ha
    have hopen : (SealStream.start key.cipher expected).isSpent
        (Payload.pace (.sealing (.start key.cipher expected) reply.body) early).before
        reply.body = false := by
      change (SealStream.drawn _ _ _).2 = _ at hdrawn
      rw [SealStream.isSpent, hdrawn]
      exact Bool.and_false _
    refine .of_incomplete rfl hannounced (SealStream.length_drawn_lt hc hr hopen)
      (fun _ => ⟨_, rfl⟩) ?_
    intro reaction h text hlen ho
    cases hanswer.symm.trans h
    cases (snd_drain_of_offers hasked hr hlen ho).symm.trans hdrawn
  | acted reaction early _ hanswer hdrawn =>
    rw [Request.method_build, hnext] at hanswer
    cases List.mem_singleton.mp ha
    rcases hspent : (SealStream.start key.cipher expected).isSpent
        (Payload.pace (.sealing (.start key.cipher expected) reply.body) early).asked
        reply.body with _ | _
    -- Only a server that acts early is not sent all of a body without a fault.
    · obtain ⟨e, rfl⟩ : ∃ e, early = some e := by
        rcases early with _ | e
        · cases (SealStream.isSpent_pollBound hc hdrawn).symm.trans hspent
        · exact ⟨e, rfl⟩
      refine .of_incomplete hspent hannounced (SealStream.length_drawn_lt hc hr hspent)
        (fun hthorough => exists_error_of_early hthorough hanswer) ?_
      intro reaction' h
      cases hanswer.symm.trans h
    · exact .of_isSpent hasked hchecked hr hspent hannounced rfl hspent

/-- A copy that comes to its end well has sent an upload. -/
theorem exists_mem_posted
    (h : uploadResult (posted s source expected key location fields reply).1 = .ok ()) :
    ∃ a, a ∈ (posted s source expected key location fields reply).2.1.toList := by
  have hcases := exchanged_posted s source expected key location fields reply
  rcases hx : posted s source expected key location fields reply with ⟨result, attempt, n⟩
  rw [hx] at h hcases
  cases hcases with
  | refused => cases h
  | unconnected | unmet | broken | acted => exact ⟨_, List.mem_singleton_self _⟩

/-! ## The copy -/

/-- A question to the source is no upload. -/
theorem method_ne_of_mem_asked {a : Attempt} (h : a ∈ (asked s source).2.1.toList) :
    a.request.method ≠ .post := by
  rw [request_of_mem_exchange h, Request.method_build]
  simp

/-- **A copy stores what its source offers or nothing.** Of the requests that a copy adds to the
session every upload is sound. Where a server does not take an upload for done before it was sent
all of it, a copy only succeeds if one of them was sent whole and opens to the text that the source
offered. -/
theorem copy_stores_source {c : Client} {action : Action Unit}
    (h : c.copy source expected key grant = .ok action)
    (hr : expected / Seal.segmentLength ≤ Place.limit) (s : Session) :
    ∃ sent, (action.runFrom s).2.attempts = s.attempts ++ sent ∧
      (∀ a ∈ sent, a.request.method = .post →
        SoundUpload s.network key expected (action.runFrom s).1 a) ∧
      (s.network.Thorough → (action.runFrom s).1 = .ok () →
        ∃ a ∈ sent, a.request.method = .post ∧ a.complete = true ∧
          ∃ text, text.length = expected ∧ s.network.Offers text ∧
            key.openObject a.sent = .ok text) := by
  obtain ⟨-, hcopied⟩ := runFrom_copy h s
  generalize action.runFrom s = outcome at hcopied ⊢
  cases hcopied with
  | mislaid f => exact ⟨[], by simp, by simp, by simp⟩
  | misheaded location f => exact ⟨[], by simp, by simp, by simp⟩
  | transferred location fields r s' hurl hfields ht =>
    cases ht with
    | unanswered f log hasked =>
      refine ⟨(asked s source).2.1.toList, rfl, ?_, by simp⟩
      intro a ha hpost
      exact absurd hpost (method_ne_of_mem_asked ha)
    | declined reply f log hasked hchecked =>
      refine ⟨(asked s source).2.1.toList, rfl, ?_, by simp⟩
      intro a ha hpost
      exact absurd hpost (method_ne_of_mem_asked ha)
    | uploaded reply log hasked hchecked =>
      refine ⟨(asked s source).2.1.toList ++
        (posted s source expected key location fields reply).2.1.toList,
        List.append_assoc _ _ _, ?_, ?_⟩
      · intro a ha hpost
        rcases List.mem_append.mp ha with ha | ha
        · exact absurd hpost (method_ne_of_mem_asked ha)
        · exact soundUpload_of_mem_posted hasked hchecked hr ha
      · intro hthorough hok
        obtain ⟨a, ha⟩ := exists_mem_posted hok
        have hsound := soundUpload_of_mem_posted hasked hchecked hr ha
        have hcomplete : a.complete = true := by
          rw [← Bool.not_eq_false]
          intro hshort
          obtain ⟨f, hf⟩ := hsound.fails hshort hthorough
          cases hok.symm.trans hf
        obtain ⟨text, hlen, ho⟩ := hsound.offered hcomplete
        have hpost : a.request.method = .post := by
          rw [request_of_mem_exchange ha, Request.method_build]
        exact ⟨a, List.mem_append_right _ ha, hpost, hcomplete, text, hlen, ho,
          hsound.opens hcomplete text ho⟩

/-- A source that delivers three octets in two chunks, with a wait between them, over secure
connections. -/
theorem copy_stores_source_in_chunks :
    let c : Client := ⟨"https://manager", "id", "secret"⟩
    let source : Url :=
      ⟨"https", "", "", some (.name "source"), none, .segments ["object"], none, none⟩
    let grant : UploadGrant := ⟨vaultNumber, "https://upload/object", []⟩
    let key := SealKey.ofRandom []
    let reply : Reply := ⟨200, some "3", [.chunk [1, 2], .pending, .chunk [3]], false⟩
    let s : Session := { network := ⟨.available, [.reply reply], [.reply (.announced 201 none [])]⟩ }
    s.network.Thorough ∧ ∃ action, c.copy source 3 key grant = .ok action ∧
      ∃ a ∈ (action.runFrom s).2.attempts, a.request.method = .post ∧ a.complete = true ∧
        key.openObject a.sent = .ok [1, 2, 3] := by
  intro c source grant key reply s
  have hthorough : s.network.Thorough := fun _ _ h => by cases h
  have hcopy : ∃ action, c.copy source 3 key grant = .ok action ∧
      (action.runFrom s).1.isOk = true := ⟨_, rfl, by decide +kernel⟩
  obtain ⟨action, h, hok⟩ := hcopy
  have hok : (action.runFrom s).1 = .ok () := by
    rcases hresult : (action.runFrom s).1 with f | _
    · rw [hresult] at hok
      cases hok
    · rfl
  obtain ⟨sent, hattempts, -, hstored⟩ := copy_stores_source h (by decide) s
  obtain ⟨a, ha, hpost, hcomplete, text, -, ho, hopens⟩ := hstored hthorough hok
  have htext : text = [1, 2, 3] := by
    obtain ⟨other, hother, -, -, hd⟩ := ho
    cases hother
    have hthree : Delivers reply.body ([1, 2] ++ ([3] ++ [])) := .chunk (.pending (.chunk .ended))
    exact hd.unique hthree
  refine ⟨hthorough, action, h, a, ?_, hpost, hcomplete, htext ▸ hopens⟩
  rw [hattempts]
  exact List.mem_append_right _ ha

end Client

end MediaVault
