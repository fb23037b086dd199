/-
The requests of one copy. At most two go out: a question to the source, and an
upload once the source has answered it with the right length. What a grant
says is checked before the question is sent, and a grant for another vault
before there is an operation at all. Neither request has a field that the
client is known by, unless the grant itself names it.
-/
import MediaVault.Proofs.Vault.Copying

namespace MediaVault

/-! ## Grants -/

namespace UploadGrant

variable {g : UploadGrant} {fields : Headers} {f : Failure} {x : String × String}

theorem url_eq_ok {location : Url} : g.url = .ok location ↔ Url.read g.location = .ok location := by
  unfold url
  rcases Url.read g.location with f | u <;> simp

theorem url_eq_error :
    g.url = .error f ↔
      ∃ e, Url.read g.location = .error e ∧ f = .location (g.location ++ ": " ++ e.message) := by
  unfold url
  rcases Url.read g.location with e | u <;> simp [eq_comm]

/-- The fields of an upload with one more that a grant gives. -/
def addField (fields : Headers) : String × String → Except Failure Headers
  | (name, value) =>
    match HeaderName.read? name with
    | none => .error (.header name)
    | some field => if isHeaderValue value then .ok (fields.insert field value) else .error (.header field)

theorem fields_eq_foldlM (g : UploadGrant) : g.fields = g.headers.foldlM addField [] := rfl

/-- A field that can be sent has a name and a value that can be sent, and is set. -/
theorem addField_eq_ok {x : String × String} {fields' : Headers}
    (h : addField fields x = .ok fields') :
    ∃ name, HeaderName.read? x.1 = some name ∧ isHeaderValue x.2 = true ∧
      fields' = fields.insert name x.2 := by
  obtain ⟨name, value⟩ := x
  simp only [addField] at h
  split at h
  · cases h
  next field hname =>
    split at h
    next hvalue =>
      cases h
      exact ⟨field, hname, hvalue, rfl⟩
    · cases h

/-- A field that cannot be sent, with the name that it is reported by: a bad name as it was given, a
bad value by its name in lower case. -/
inductive Illegal : String × String → String → Prop
  | name {name value} : HeaderName.read? name = none → Illegal (name, value) name
  | value {name value field} : HeaderName.read? name = some field → isHeaderValue value = false →
      Illegal (name, value) field

theorem addField_eq_error :
    addField fields x = .error f ↔ ∃ name, Illegal x name ∧ f = .header name := by
  obtain ⟨name, value⟩ := x
  rw [addField]
  constructor
  · intro h
    split at h
    next hname =>
      cases h
      exact ⟨_, .name hname, rfl⟩
    next field hname =>
      split at h
      · cases h
      next hvalue =>
        cases h
        exact ⟨_, .value hname (by simpa using hvalue), rfl⟩
  · rintro ⟨_, hillegal, rfl⟩
    cases hillegal with
    | name hname => simp only [hname]
    | value hname hvalue => simp only [hname, hvalue, Bool.false_eq_true, if_false]

/-- The fields of an upload are the ones that its grant gives, and all that it gives can be sent. -/
theorem of_foldlM_addField {given : List (String × String)} {before : Headers}
    (h : given.foldlM addField before = .ok fields) :
    (∀ x ∈ given, (HeaderName.read? x.1).isSome ∧ isHeaderValue x.2 = true) ∧
      ∀ field ∈ fields,
        field ∈ before ∨ ∃ x ∈ given, HeaderName.read? x.1 = some field.1 ∧ x.2 = field.2 := by
  induction given generalizing before with
  | nil =>
    cases h
    exact ⟨by simp, fun field hfield => .inl hfield⟩
  | cons x given ih =>
    rw [List.foldlM_cons] at h
    rcases hx : addField before x with f | fields'
    · rw [hx] at h
      cases h
    rw [hx] at h
    obtain ⟨name, hname, hvalue, rfl⟩ := addField_eq_ok hx
    obtain ⟨hlegal, hfields⟩ := ih h
    refine ⟨?_, fun field hfield => ?_⟩
    · rw [List.forall_mem_cons]
      exact ⟨⟨by rw [hname]; rfl, hvalue⟩, hlegal⟩
    · rcases hfields field hfield with hbefore | ⟨y, hy, hgiven⟩
      · rcases Headers.mem_or_eq_of_mem_insert hbefore with hbefore | rfl
        · exact .inl hbefore
        · exact .inr ⟨x, List.mem_cons_self, hname, rfl⟩
      · exact .inr ⟨y, List.mem_cons_of_mem x hy, hgiven⟩

/-- The fields are gone through up to the first that cannot be sent. -/
theorem foldlM_addField_eq_error {given : List (String × String)} :
    given.foldlM addField fields = .error f ↔
      ∃ before x after name, given = before ++ x :: after ∧
        (∀ y ∈ before, ∀ n, ¬ Illegal y n) ∧ Illegal x name ∧ f = .header name := by
  induction given generalizing fields with
  | nil =>
    constructor
    · intro h
      cases h
    · rintro ⟨before, x, after, name, h, -⟩
      simp at h
  | cons y given ih =>
    rw [List.foldlM_cons]
    rcases hy : addField fields y with f' | fields'
    · obtain ⟨name, hillegal, rfl⟩ := addField_eq_error.mp hy
      constructor
      · intro h
        cases h
        exact ⟨[], y, given, name, rfl, by simp, hillegal, rfl⟩
      · rintro ⟨before, x, after, name', h, hlegal, hx, rfl⟩
        cases before with
        | nil =>
          obtain ⟨rfl, -⟩ := List.cons.inj h
          exact hy.symm.trans (addField_eq_error.mpr ⟨name', hx, rfl⟩)
        | cons z before =>
          obtain ⟨rfl, -⟩ := List.cons.inj h
          exact absurd hillegal (hlegal y List.mem_cons_self name)
    · have hlegal : ∀ n, ¬ Illegal y n := by
        intro n hn
        rw [addField_eq_error.mpr ⟨n, hn, rfl⟩] at hy
        cases hy
      change given.foldlM addField fields' = _ ↔ _
      rw [ih]
      constructor
      · rintro ⟨before, x, after, name, rfl, hbefore, hx, rfl⟩
        exact ⟨y :: before, x, after, name, rfl, List.forall_mem_cons.mpr ⟨hlegal, hbefore⟩, hx, rfl⟩
      · rintro ⟨before, x, after, name, h, hbefore, hx, rfl⟩
        cases before with
        | nil =>
          obtain ⟨rfl, -⟩ := List.cons.inj h
          exact absurd hx (hlegal name)
        | cons z before =>
          obtain ⟨-, rfl⟩ := List.cons.inj h
          exact ⟨before, x, after, name, rfl, (List.forall_mem_cons.mp hbefore).2, hx, rfl⟩

/-- The first field that cannot be sent is the one that is reported. -/
theorem fields_eq_error :
    g.fields = .error f ↔
      ∃ before x after name, g.headers = before ++ x :: after ∧
        (∀ y ∈ before, ∀ n, ¬ Illegal y n) ∧ Illegal x name ∧ f = .header name :=
  foldlM_addField_eq_error

end UploadGrant

namespace Client

open MediaVault.Action Network

variable {source location : Url} {expected : Nat} {key : SealKey} {fields : Headers}
variable {grant : UploadGrant} {s : Session} {reply : Reply} {c : Client}

/-! ## What may be sent -/

/-- A grant of this vault that an upload can be sent to, at this location and with these fields. -/
structure Sendable (grant : UploadGrant) (location : Url) (fields : Headers) : Prop where
  vault : grant.vault = vaultNumber
  location_eq : Url.read grant.location = .ok location
  legal : ∀ x ∈ grant.headers, (HeaderName.read? x.1).isSome ∧ isHeaderValue x.2 = true
  given : ∀ field ∈ fields,
    ∃ x ∈ grant.headers, HeaderName.read? x.1 = some field.1 ∧ x.2 = field.2

theorem sendable (hvault : grant.vault = vaultNumber) (hurl : grant.url = .ok location)
    (hfields : grant.fields = .ok fields) : Sendable grant location fields := by
  rw [UploadGrant.fields_eq_foldlM] at hfields
  obtain ⟨hlegal, hgiven⟩ := UploadGrant.of_foldlM_addField hfields
  exact
    { vault := hvault
      location_eq := UploadGrant.url_eq_ok.mp hurl
      legal := hlegal
      given := fun field hfield => (hgiven field hfield).resolve_left (by simp) }

/-- The requests of a copy over a network, in the order in which they go out. -/
inductive CopySends (n : Network) (source : Url) (expected : Nat) (grant : UploadGrant) :
    List Attempt → Prop
  | nothing : CopySends n source expected grant []
  /-- Only the source is asked. -/
  | asked (question : Attempt) (location : Url) (fields : Headers) :
      Sendable grant location fields → question.request = .build .get source [] →
      CopySends n source expected grant [question]
  /-- The source has answered as it should, and then the upload is sent. -/
  | uploaded (question upload : Attempt) (reply : Reply) (location : Url) (fields : Headers) :
      Sendable grant location fields → question.request = .build .get source [] →
      question.complete = true → (n.nextAnswer .get).1.reply? = some reply → reply.status = 200 →
      reply.length? = some expected →
      upload.request = .build .post location (uploadHeaders fields (Seal.announcedLength expected)) →
      CopySends n source expected grant [question, upload]

/-- What an upload has beside the fields of its grant bears one of three names. -/
theorem mem_of_mem_uploadHeaders {n : Nat} {field : String × String}
    (hf : field ∈ uploadHeaders fields n) :
    field ∈ fields ∨ field.1 ∈ ["upload-length", "tus-resumable", "content-length"] := by
  rw [uploadHeaders] at hf
  obtain hf | rfl := Headers.mem_or_eq_of_mem_insert hf
  · obtain hf | rfl := Headers.mem_or_eq_of_mem_insert hf
    · obtain hf | rfl := Headers.mem_or_eq_of_mem_insert hf
      · exact .inl hf
      · exact .inr (by simp)
    · exact .inr (by simp)
  · exact .inr (by simp)

/-- A field that both requests can only have from the grant of an upload. -/
theorem CopySends.given_of_mem {n : Network} {sent : List Attempt}
    (h : CopySends n source expected grant sent) {a : Attempt} (ha : a ∈ sent)
    {field : String × String} (hf : field ∈ a.request.headers)
    (hname : field.1 ∉ ["authorization", "accept", "host"] ++
      ["upload-length", "tus-resumable", "content-length"]) :
    a.request.method = .post ∧
      ∃ x ∈ grant.headers, HeaderName.read? x.1 = some field.1 ∧ x.2 = field.2 := by
  have question : ∀ {a : Attempt}, a.request = .build .get source [] →
      field ∉ a.request.headers := by
    intro a hrequest hf
    rw [hrequest] at hf
    obtain hnone | hadded := Request.mem_of_mem_headers_build hf
    · cases hnone
    · exact hname (List.mem_append_left _ hadded)
  cases h with
  | nothing => cases ha
  | asked _ _ _ _ hrequest =>
    cases List.mem_singleton.mp ha
    exact absurd hf (question hrequest)
  | uploaded _ upload _ _ _ hsendable hrequest _ _ _ _ hupload =>
    rcases List.mem_cons.mp ha with rfl | ha
    · exact absurd hf (question hrequest)
    · cases List.mem_singleton.mp ha
      rw [hupload] at hf ⊢
      refine ⟨rfl, ?_⟩
      obtain hheaders | hadded := Request.mem_of_mem_headers_build hf
      · obtain hfields | hadded := mem_of_mem_uploadHeaders hheaders
        · exact hsendable.given field hfields
        · exact absurd (List.mem_append_right _ hadded) hname
      · exact absurd (List.mem_append_left _ hadded) hname

/-! ## What is sent -/

theorem Transferred.sends {outcome : Except Failure Unit × Session}
    (h : Transferred source expected key location fields s outcome)
    (hsendable : Sendable grant location fields) :
    outcome.2.marks = s.marks ∧ ∃ sent, outcome.2.attempts = s.attempts ++ sent ∧
      CopySends s.network source expected grant sent := by
  cases h with
  | unanswered f log hasked =>
    refine ⟨rfl, _, rfl, ?_⟩
    -- An address that cannot be asked leaves no request behind.
    rcases hattempt : (asked s source).2.1 with _ | question
    · exact .nothing
    · exact .asked _ _ _ hsendable (request_of_mem_exchange (by rw [← asked, hattempt]; simp))
  | declined reply f log hasked _ =>
    obtain ⟨question, hattempt, -, hrequest⟩ := asked_eq_ok hasked
    refine ⟨rfl, _, rfl, ?_⟩
    rw [hattempt]
    exact .asked _ _ _ hsendable hrequest
  | uploaded reply log hasked hchecked =>
    obtain ⟨question, hattempt, hcomplete, hrequest⟩ := asked_eq_ok hasked
    obtain ⟨hstatus, hlength, -⟩ := checkedLength_eq_ok.mp hchecked
    refine ⟨rfl, _, List.append_assoc _ _ _, ?_⟩
    rw [hattempt]
    rcases hupload : (posted s source expected key location fields reply).2.1 with _ | upload
    · exact .asked _ _ _ hsendable hrequest
    · exact .uploaded _ _ _ _ _ hsendable hrequest hcomplete (reply?_of_asked_eq_ok hasked) hstatus
        hlength (request_of_mem_exchange (by rw [← posted, hupload]; simp))

/-- A copy to a grant of this vault sends no more than that, and its time is taken once. -/
theorem Copied.sends {outcome : Except Failure Unit × Session}
    (h : Copied source expected key grant s outcome) (hvault : grant.vault = vaultNumber) :
    outcome.2.marks = s.marks ++ [.duration .copy] ∧
      ∃ sent, outcome.2.attempts = s.attempts ++ sent ∧
        CopySends s.network source expected grant sent := by
  cases h with
  | mislaid => exact ⟨rfl, [], (List.append_nil _).symm, .nothing⟩
  | misheaded => exact ⟨rfl, [], (List.append_nil _).symm, .nothing⟩
  | transferred location fields r s' hurl hfields ht =>
    obtain ⟨hmarks, hsent⟩ := ht.sends (sendable hvault hurl hfields)
    exact ⟨congrArg (· ++ [.duration .copy]) hmarks, hsent⟩

/-! ## What a running copy does not report -/

variable {a b : Nat}

theorem checkedLength_ne_otherVault :
    checkedLength expected reply ≠ .error (.otherVault a b) := by
  unfold checkedLength
  split
  · simp
  split
  · simp
  split
  · simp
  · split <;> simp

theorem uploadResult_ne_otherVault (answer : Except HttpFailure Reply) :
    uploadResult answer ≠ .error (.otherVault a b) := by
  cases answer with
  | error f =>
    rw [uploadResult, Failure.ofUpload]
    split <;> simp
  | ok answer =>
    rw [uploadResult]
    split <;> simp

/-- That a grant is for another vault is not found out by running. -/
theorem Copied.ne_otherVault {outcome : Except Failure Unit × Session}
    (h : Copied source expected key grant s outcome) : outcome.1 ≠ .error (.otherVault a b) := by
  cases h with
  | mislaid f hurl =>
    obtain ⟨e, -, rfl⟩ := UploadGrant.url_eq_error.mp hurl
    simp
  | misheaded location f _ hfields =>
    obtain ⟨_, _, _, name, -, -, -, rfl⟩ := UploadGrant.fields_eq_error.mp hfields
    simp
  | transferred location fields r s' _ _ ht =>
    cases ht with
    | unanswered => simp
    | declined reply f log _ hchecked =>
      intro h
      cases h
      exact checkedLength_ne_otherVault hchecked
    | uploaded => exact uploadResult_ne_otherVault _

/-! ## One call -/

/-- One call of a copy: what it answers at once, and otherwise what the operation that runs comes
to, with the session after it. -/
def callCopy (c : Client) (source : Url) (expected : Nat) (key : SealKey) (grant : UploadGrant)
    (s : Session) : Except Failure (Except Failure Unit) × Session :=
  match c.copy source expected key grant with
  | .error f => (.error f, s)
  | .ok action => (.ok (action.runFrom s).1, (action.runFrom s).2)

theorem callCopy_of_eq_ok {action : Action Unit} (h : c.copy source expected key grant = .ok action) :
    c.callCopy source expected key grant s = (.ok (action.runFrom s).1, (action.runFrom s).2) := by
  rw [callCopy, h]

theorem callCopy_of_ne (hvault : grant.vault ≠ vaultNumber) :
    c.callCopy source expected key grant s = (.error (.otherVault vaultNumber grant.vault), s) := by
  rw [callCopy, copy, if_pos hvault]

/-- There is something to run for every grant of this vault. -/
theorem exists_copy_eq_ok (c : Client) (source : Url) (expected : Nat) (key : SealKey)
    (hvault : grant.vault = vaultNumber) : ∃ action, c.copy source expected key grant = .ok action :=
  ⟨_, if_neg (Decidable.not_not.mpr hvault)⟩

/-- How a call of a copy can go from a session. -/
inductive Called (c : Client) (source : Url) (expected : Nat) (grant : UploadGrant) (s : Session) :
    Except Failure (Except Failure Unit) × Session → Prop
  /-- The call itself refuses a grant for another vault, and nothing was done. -/
  | refused : grant.vault ≠ vaultNumber →
      Called c source expected grant s (.error (.otherVault vaultNumber grant.vault), s)
  /-- The operation ran, its time was taken, and it sent what a copy may send. -/
  | ran (result : Except Failure Unit) (s' : Session) (sent : List Attempt) :
      grant.vault = vaultNumber → (∀ a b, result ≠ .error (.otherVault a b)) →
      s'.marks = s.marks ++ [.duration .copy] → s'.attempts = s.attempts ++ sent →
      CopySends s.network source expected grant sent →
      (∀ a ∈ sent, ∀ field ∈ a.request.headers, field.1 ∈ c.accessHeaders.map (·.1) →
        a.request.method = .post ∧
          ∃ x ∈ grant.headers, HeaderName.read? x.1 = some field.1 ∧ x.2 = field.2) →
      Called c source expected grant s (.ok result, s')

/-- **The requests of one copy.** A grant for another vault is refused by the call itself and
nothing is done. For any other the operation runs: it sends at most a question to the source and,
once that was answered as it should be, an upload, and no field of either comes from the client,
which changes nothing about a copy. -/
theorem called_callCopy (c : Client) (source : Url) (expected : Nat) (key : SealKey)
    (grant : UploadGrant) (s : Session) :
    Called c source expected grant s (c.callCopy source expected key grant s) ∧
      ∀ other : Client, other.callCopy source expected key grant s =
        c.callCopy source expected key grant s := by
  refine ⟨?_, fun _ => rfl⟩
  unfold callCopy
  rcases hcopy : c.copy source expected key grant with f | action
  · unfold copy at hcopy
    split at hcopy
    next hvault =>
      cases hcopy
      exact .refused hvault
    · cases hcopy
  · obtain ⟨hvault, hcopied⟩ := runFrom_copy hcopy s
    obtain ⟨hmarks, sent, hattempts, hsends⟩ := hcopied.sends hvault
    refine .ran _ _ sent hvault (fun _ _ => hcopied.ne_otherVault) hmarks hattempts hsends ?_
    intro a ha field hf hname
    refine hsends.given_of_mem ha hf ?_
    -- None of the fields that every request or every upload has is one of the client's two.
    have hnames : ∀ name ∈ c.accessHeaders.map (·.1), name ∉ ["authorization", "accept", "host"] ++
        ["upload-length", "tus-resumable", "content-length"] := by
      simp [accessHeaders]
    exact hnames _ hname

end Client

end MediaVault
