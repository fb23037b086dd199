/-
What the secrets have to do with. The client's secret is shown in one header
field of the questions to the storage manager, and an object's key decides
which octets its upload carries. Nothing else that can be seen of any sequence
of calls depends on either: not what the calls come to, not what is measured
or logged, not which requests go out when, and not what is shown of settings
and keys.
-/
import MediaVault.Operator.Configuration
import MediaVault.Proofs.Seal.Lockstep
import MediaVault.Proofs.Vault.Calls
import MediaVault.Proofs.Vault.Together

namespace MediaVault

/-! ## Requests that show another secret -/

/-- The fields with another value for the client's secret where that is among them. -/
def Headers.showing (secret : String) (h : Headers) : Headers :=
  h.map fun field => (field.1, if field.1 = "cf-access-client-secret" then secret else field.2)

/-- A request that shows another secret where it shows one. -/
def Attempt.showing (secret : String) (a : Attempt) : Attempt :=
  { a with request := { a.request with headers := a.request.headers.showing secret } }

namespace Headers

variable {secret name : String} {h : Headers}

theorem isSome_get?_showing : ((h.showing secret).get? name).isSome = (h.get? name).isSome := by
  induction h with
  | nil => rfl
  | cons field h ih =>
    by_cases hname : field.1 = name
    · simp [get?, showing, hname]
    · simp only [get?, showing, Option.isSome_map, List.map_cons, List.find?_cons, hname] at ih ⊢
      exact ih

theorem insert_showing (hname : name ≠ "cf-access-client-secret") (value : String) :
    (h.showing secret).insert name value = (h.insert name value).showing secret := by
  simp [insert, showing, List.filter_map, hname, Function.comp_def]

theorem insertNew_showing (hname : name ≠ "cf-access-client-secret") (value : String) :
    (h.showing secret).insertNew name value = (h.insertNew name value).showing secret := by
  unfold insertNew
  rw [isSome_get?_showing]
  split
  · rfl
  · exact insert_showing hname value

end Headers

/-- A request with another secret is built like the request. -/
theorem Request.build_showing (method : Method) (u : Url) (h : Headers) (secret : String) :
    Request.build method u (h.showing secret) =
      { Request.build method u h with headers := (Request.build method u h).headers.showing secret } := by
  unfold Request.build
  rcases u.credentials? with _ | ⟨user, password⟩
  · simp only [Headers.insertNew_showing (show "accept" ≠ "cf-access-client-secret" by decide),
      Headers.insertNew_showing (show "host" ≠ "cf-access-client-secret" by decide)]
  · simp only [Headers.insertNew_showing (show "authorization" ≠ "cf-access-client-secret" by decide),
      Headers.insertNew_showing (show "accept" ≠ "cf-access-client-secret" by decide),
      Headers.insertNew_showing (show "host" ≠ "cf-access-client-secret" by decide)]

namespace Client

open MediaVault.Action Network

/-! ## Two clients -/

/-- The client with another secret. -/
def withSecret (c : Client) (secret : String) : Client := { c with clientSecret := secret }

theorem accessHeaders_withSecret (c : Client) (secret : String) :
    (c.withSecret secret).accessHeaders = c.accessHeaders.showing secret := by
  simp [accessHeaders, withSecret, Headers.showing]

variable {c : Client} {secret : String}

/-- A question with another secret is met with the same. -/
theorem questioned_withSecret (c : Client) (secret path : String) (pairs : List (String × String))
    (s : Session) :
    ((c.withSecret secret).questioned path pairs s).1 = (c.questioned path pairs s).1 ∧
      ((c.withSecret secret).questioned path pairs s).2.2 = (c.questioned path pairs s).2.2 ∧
      List.Forall₂ (fun a b => b = a.showing secret) (c.questioned path pairs s).2.1.toList
        ((c.withSecret secret).questioned path pairs s).2.1.toList := by
  have hbase : (c.withSecret secret).baseUrl = c.baseUrl := rfl
  unfold questioned
  rw [hbase]
  rcases managerUrl (c.baseUrl ++ path) with f | u
  · exact ⟨rfl, rfl, .nil⟩
  rw [accessHeaders_withSecret]
  obtain ⟨hresult, hnetwork, halike⟩ := s.network.exchange_congr .get (u.addQuery pairs)
    c.accessHeaders (c.accessHeaders.showing secret) (Payload.inStep_self .nothing)
  refine ⟨hresult, hnetwork, halike.imp fun a b h => ?_⟩
  calc b = { a with
          request := .build .get (u.addQuery pairs) (c.accessHeaders.showing secret)
          sent := b.sent } := h.eq
    _ = a.showing secret := by rw [Attempt.showing, h.request, Request.build_showing, h.sent_eq]

/-- An operation that asks one question goes together with that of a client with another secret. -/
theorem together_of_question {α : Type} {op : Operation} {take : Reply → Except Failure α}
    {lines : Reply → List LogLine} {path : String} {pairs : List (String × String)}
    {x y : Action α}
    (hx : ∀ s, x.runFrom s = afterQuestion op take lines (c.questioned path pairs s) s)
    (hy : ∀ s, y.runFrom s =
      afterQuestion op take lines ((c.withSecret secret).questioned path pairs s) s) :
    Together (fun a b => b = a.showing secret) x y := by
  intro s others
  obtain ⟨hresult, hnetwork, hsent⟩ := c.questioned_withSecret secret path pairs s
  refine ⟨_, _, _, _, hx s, ?_, rfl, hsent⟩
  refine (hy { s with attempts := others }).trans ?_
  change afterQuestion op take lines ((c.withSecret secret).questioned path pairs s) _ = _
  simp only [afterQuestion, hresult, hnetwork]

theorem together_list (c : Client) (secret lead : String) (cursor : Option String) (limit : Nat) :
    Together (fun a b => b = a.showing secret) (c.list lead cursor limit)
      ((c.withSecret secret).list lead cursor limit) :=
  together_of_question (c.runFrom_list lead cursor limit)
    ((c.withSecret secret).runFrom_list lead cursor limit)

theorem together_usage (c : Client) (secret lead : String) :
    Together (fun a b => b = a.showing secret) (c.usage lead) ((c.withSecret secret).usage lead) :=
  together_of_question (c.runFrom_usage lead) ((c.withSecret secret).runFrom_usage lead)

/-- A walk goes together with a walk whose pages go together. -/
theorem together_walk {R : Attempt → Attempt → Prop}
    {fetch fetch' : Option String → ExceptT Failure (StateM Session) Page}
    (h : ∀ cursor, Together R (fetch cursor) (fetch' cursor)) (lead : String) (steps : Nat)
    (cursor : Option String) :
    Together R (Pages.walk fetch lead steps cursor) (Pages.walk fetch' lead steps cursor) := by
  induction steps generalizing cursor with
  | zero => exact .pure none
  | succ steps ih =>
    refine .bind ((h cursor).adapt _) fun page => ?_
    rcases page.cursor with _ | next
    · exact .pure _
    · by_cases hsame : cursor = some next
      · simp only [if_pos hsame]
        exact .bind (.throw _) fun _ => .bind (ih _) fun _ => .pure _
      · simp only [if_neg hsame]
        exact .bind (ih _) fun _ => .pure _

/-- What a walk makes of the pages that it found, if its questions were enough. -/
def ofFound : Option (List Entry) → ExceptT CommandFailure (StateM Session) (List Entry)
  | some entries => pure entries
  | none => throw (.vault .task none)

theorem listAll_eq (c : Client) (lead : String) (limit : Nat) :
    Pages.listAll c lead limit = get >>= fun s =>
      Pages.walk (c.list lead · limit) lead (s.network.gets.length + 1) none >>= ofFound := rfl

theorem together_listAll (c : Client) (secret lead : String) (limit : Nat) :
    Together (fun a b => b = a.showing secret) (Pages.listAll c lead limit)
      (Pages.listAll (c.withSecret secret) lead limit) := by
  rw [listAll_eq, listAll_eq]
  refine .get_bind (fun s => s.network.gets.length + 1)
    (fun steps => Pages.walk (c.list lead · limit) lead steps none >>= ofFound)
    (fun steps => Pages.walk ((c.withSecret secret).list lead · limit) lead steps none >>= ofFound)
    (fun _ _ => rfl) fun steps => ?_
  refine .bind (together_walk (together_list c secret lead · limit) lead steps none) fun found => ?_
  rcases found with _ | entries
  · exact .throw _
  · exact .pure _

/-! ## Two keys -/

variable {R : Attempt → Attempt → Prop} {key key' : SealKey}

/-- A body that is sealed under another cipher goes out in step. -/
theorem inStep_withCipher {stream : SealStream} {c : SegmentCipher} (hs : stream.cipher.Lawful)
    (hc : c.Lawful) (source : List Arrival) :
    Payload.InStep (.sealing stream source) (.sealing (stream.withCipher c) source) where
  enough := rfl
  length n := (stream.drawn_inStep hs hc n source).2
  fault n := (stream.drawn_inStep hs hc n source).1
  spent n := stream.isSpent_inStep hs hc n source

/-- Bodies that are sealed with two keys go out in step. -/
theorem inStep_sealing (key key' : SealKey) (declared : Nat) (source : List Arrival) :
    Payload.InStep (.sealing (.start key.cipher declared) source)
      (.sealing (.start key'.cipher declared) source) :=
  inStep_withCipher key.lawful_cipher key'.lawful_cipher source

theorem together_fetch (hself : ∀ a, R a a) (source : Url) :
    Together R (fetch source) (fetch source) := by
  refine .bind (.exchange (Payload.inStep_self _) fun a b h => h.eq_self ▸ hself a) fun r => ?_
  rcases r with f | reply
  · exact .throw _
  · exact .pure _

theorem together_log (level : Level) (origin message : String) (fields : List (String × LogValue)) :
    Together R (log level origin message fields) (log level origin message fields) :=
  .quiet fun s => ⟨.ok (), { s with log := s.log ++ [⟨level, origin, message, fields⟩] }, rfl,
    fun _ => rfl⟩

theorem together_sourceLength (source : Url) (expected : Nat) (reply : Reply) :
    Together R (sourceLength source expected reply) (sourceLength source expected reply) := by
  unfold sourceLength
  by_cases hmissing : reply.status = 404
  · simp only [if_pos hmissing]
    exact .bind (together_log _ _ _ _) fun _ => .throw _
  by_cases hstatus : reply.status ≠ 200
  · simp only [if_neg hmissing, if_pos hstatus]
    exact .bind (together_log _ _ _ _) fun _ => .throw _
  simp only [if_neg hmissing, if_neg hstatus]
  rcases reply.length? with _ | actual
  · exact .throw _
  by_cases hactual : actual ≠ expected
  · simp only [if_pos hactual]
    exact .throw _
  · simp only [if_neg hactual]
    exact .pure _

theorem together_transfer (hself : ∀ a, R a a) (source : Url) (expected : Nat) (location : Url)
    (fields : Headers)
    (hbody : ∀ u headers declared source a b,
      SentAlike .post u headers headers (.sealing (.start key.cipher declared) source)
        (.sealing (.start key'.cipher declared) source) a b → R a b) :
    Together R (transfer source expected key location fields)
      (transfer source expected key' location fields) := by
  refine .bind (together_fetch hself source) fun reply => ?_
  refine .bind (together_sourceLength source expected reply) fun length => ?_
  refine .bind (.exchange (inStep_sealing key key' length reply.body)
    fun a b h => hbody _ _ _ _ a b h) fun r => ?_
  rcases r with f | answer
  · exact .throw _
  by_cases hstatus : answer.status ≠ 201 ∧ answer.status ≠ 200
  · simp only [if_pos hstatus]
    exact .bind (together_log _ _ _ _) fun _ => .throw _
  · simp only [if_neg hstatus]
    exact together_log _ _ _ _

/-- The calls of two copies that differ in their keys, from sessions that differ in what was sent
before. -/
theorem callCopy_together (key key' : SealKey) (hself : ∀ a, R a a)
    (hbody : ∀ u headers declared source a b,
      SentAlike .post u headers headers (.sealing (.start key.cipher declared) source)
        (.sealing (.start key'.cipher declared) source) a b → R a b)
    (c d : Client) (source : Url) (expected : Nat) (grant : UploadGrant) (s : Session)
    (others : List Attempt) :
    ∃ r s' sent sent', c.callCopy source expected key grant s = (r, s') ∧
      d.callCopy source expected key' grant { s with attempts := others } =
        (r, { s' with attempts := others ++ sent' }) ∧
      s'.attempts = s.attempts ++ sent ∧ List.Forall₂ R sent sent' := by
  unfold callCopy copy
  by_cases hvault : grant.vault ≠ vaultNumber
  · simp only [if_pos hvault]
    exact ⟨_, s, [], [], rfl, by rw [List.append_nil], (List.append_nil _).symm, .nil⟩
  simp only [if_neg hvault]
  have hlift : ∀ {α : Type} (x : Except Failure α), Together R (liftM x : Action α) (liftM x) :=
    fun x => .quiet fun s => ⟨x, s, rfl, fun _ => rfl⟩
  have hcopy : Together R
      (timed .copy do
        let location ← (grant.url : Except Failure Url)
        let fields ← (grant.fields : Except Failure Headers)
        transfer source expected key location fields)
      (timed .copy do
        let location ← (grant.url : Except Failure Url)
        let fields ← (grant.fields : Except Failure Headers)
        transfer source expected key' location fields) :=
    .timed _ (.bind (hlift _) fun location => .bind (hlift _) fun fields =>
      together_transfer hself source expected location fields hbody)
  obtain ⟨r, s', sent, sent', hx, hy, hattempts, hsent⟩ := hcopy s others
  refine ⟨.ok r, s', sent, sent', ?_, ?_, hattempts, hsent⟩
  · rw [runFrom, hx]
  · rw [runFrom, hy]

/-! ## Sequences of calls with another secret -/

/-- A call with another secret in its questions to the storage manager. A copy asks none. -/
def Deed.showing (secret : String) (d : Deed) : Deed :=
  match d.call with
  | .copy .. => d
  | _ => { d with sent := d.sent.map (·.showing secret) }

theorem eq_map_of_forall₂ {α β : Type} {f : α → β} {l : List α} {l' : List β}
    (h : List.Forall₂ (fun a b => b = f a) l l') : l' = l.map f := by
  induction h with
  | nil => rfl
  | cons hb _ ih => rw [List.map_cons, hb, ih]

/-- What goes together with another secret in its questions. -/
theorem run_showing {ε α : Type} {x y : ExceptT ε (StateM Session) α}
    (h : Together (fun a b => b = a.showing secret) x y) (s : Session) (others : List Attempt) :
    ∃ r s' sent, x.run s = (r, s') ∧ s'.attempts = s.attempts ++ sent ∧
      y.run { s with attempts := others } =
        (r, { s' with attempts := others ++ sent.map (·.showing secret) }) := by
  obtain ⟨r, s', sent, sent', hx, hy, hattempts, hsent⟩ := h s others
  rw [eq_map_of_forall₂ hsent] at hy
  exact ⟨r, s', sent, hx, hattempts, hy⟩

/-- **One call** comes to the same with another secret. -/
theorem perform_withSecret (c : Client) (secret : String) (call : Call) (s : Session)
    (others : List Attempt) :
    ∃ outcome s' sent, c.perform s call = (outcome, s') ∧ s'.attempts = s.attempts ++ sent ∧
      (c.withSecret secret).perform { s with attempts := others } call =
        (outcome, { s' with
          attempts := others ++ (Deed.showing secret ⟨call, outcome, sent⟩).sent }) := by
  cases call with
  | copy source expected key grant =>
    obtain ⟨r, s', sent, sent', hx, hy, hattempts, hsent⟩ :=
      callCopy_together (R := Eq) key key (fun _ => rfl) (fun _ _ _ _ _ _ h => h.eq_self.symm) c
        (c.withSecret secret) source expected grant s others
    rw [List.forall₂_eq_eq_eq] at hsent
    subst hsent
    exact ⟨.copied r, s', sent, by rw [perform, hx]; rfl, hattempts, by rw [perform, hy]; rfl⟩
  | list lead cursor limit =>
    obtain ⟨r, s', sent, hx, hattempts, hy⟩ :=
      run_showing (together_list c secret lead cursor limit) s others
    exact ⟨.listed r, s', sent, by rw [perform, hx]; rfl, hattempts, by rw [perform, hy]; rfl⟩
  | usage lead =>
    obtain ⟨r, s', sent, hx, hattempts, hy⟩ :=
      run_showing (together_usage c secret lead) s others
    exact ⟨.used r, s', sent, by rw [perform, hx]; rfl, hattempts, by rw [perform, hy]; rfl⟩
  | listAll lead limit =>
    obtain ⟨r, s', sent, hx, hattempts, hy⟩ :=
      run_showing (together_listAll c secret lead limit) s others
    exact ⟨.collected r, s', sent, by rw [perform, hx]; rfl, hattempts, by rw [perform, hy]; rfl⟩
  | script n =>
    exact ⟨.scripted, { s with network := n }, [], rfl, (List.append_nil _).symm,
      by simp [perform, Deed.showing]⟩

/-- **All calls** come to the same with another secret. -/
theorem performAll_withSecret (c : Client) (secret : String) (calls : List Call) (s : Session)
    (others : List Attempt) :
    ∃ deeds s', c.performAll calls s = (deeds, s') ∧
      s'.attempts = s.attempts ++ deeds.flatMap (·.sent) ∧
      (c.withSecret secret).performAll calls { s with attempts := others } =
        (deeds.map (·.showing secret), { s' with
          attempts := others ++ (deeds.map (·.showing secret)).flatMap (·.sent) }) := by
  induction calls generalizing s others with
  | nil => exact ⟨[], s, rfl, (List.append_nil _).symm, by simp [performAll]⟩
  | cons call calls ih =>
    obtain ⟨outcome, s₁, sent, hx, hattempts₁, hy⟩ := c.perform_withSecret secret call s others
    obtain ⟨deeds, s₂, hxs, hattempts₂, hys⟩ :=
      ih s₁ (others ++ (Deed.showing secret ⟨call, outcome, sent⟩).sent)
    refine ⟨⟨call, outcome, sent⟩ :: deeds, s₂, ?_, ?_, ?_⟩
    · simp only [performAll, hx, hxs, hattempts₁, List.drop_left]
    · rw [hattempts₂, hattempts₁, List.flatMap_cons, List.append_assoc]
    · have hdeed : (⟨call, outcome, (Deed.showing secret ⟨call, outcome, sent⟩).sent⟩ : Deed) =
          Deed.showing secret ⟨call, outcome, sent⟩ := by cases call <;> rfl
      simp only [performAll, hy, hys, List.drop_left, List.map_cons, List.flatMap_cons,
        List.append_assoc, hdeed]

/-! ## What the secrets decide -/

/-- An upload and the upload of the same copy with another key: as many octets go out. -/
structure SameButBody (a b : Attempt) : Prop where
  eq : b = { a with sent := b.sent }
  length : b.sent.length = a.sent.length
  question : a.request.method = .get → b = a

theorem sameButBody_self (a : Attempt) : SameButBody a a := ⟨rfl, rfl, fun _ => rfl⟩

theorem sameButBody_of_sentAlike (key key' : SealKey) (u : Url) (headers : Headers)
    (declared : Nat) (source : List Arrival) (a b : Attempt)
    (h : SentAlike .post u headers headers (.sealing (.start key.cipher declared) source)
      (.sealing (.start key'.cipher declared) source) a b) : SameButBody a b where
  eq := by
    rw [h.eq, ← h.request]
  length := h.length_eq (inStep_sealing key key' declared source)
  question hget := by
    rw [h.request] at hget
    cases hget

/-- A copy with another key comes to the same. -/
theorem perform_copy_of_key (c : Client) (source : Url) (expected : Nat) (key key' : SealKey)
    (grant : UploadGrant) (s : Session) :
    ∃ outcome s' sent sent', c.perform s (.copy source expected key grant) = (outcome, s') ∧
      s'.attempts = s.attempts ++ sent ∧
      c.perform s (.copy source expected key' grant) =
        (outcome, { s' with attempts := s.attempts ++ sent' }) ∧
      List.Forall₂ SameButBody sent sent' := by
  obtain ⟨r, s', sent, sent', hx, hy, hattempts, hsent⟩ :=
    callCopy_together key key' sameButBody_self (sameButBody_of_sentAlike key key') c c source
      expected grant s s.attempts
  change c.callCopy source expected key' grant s = _ at hy
  exact ⟨.copied r, s', sent, sent', by rw [perform, hx]; rfl, hattempts,
    by rw [perform, hy]; rfl, hsent⟩

/-- **Secrets decide nothing else.** Two clients whose settings differ in the secret alone do and
report the same in any sequence of calls, over any network; only the questions to the storage
manager show the one secret or the other. Two copies that differ in the key alone come to the same
and send the same, but for the octets, not the length, of the upload. Neither secret is part of
what is shown of settings and keys. -/
theorem secrets_confined {a b : Settings} {c d : Client} (hc : ofSettings a = .ok c)
    (hd : ofSettings b = .ok d) (hab : b = { a with clientSecret := b.clientSecret }) :
    (∀ calls s, ∃ deeds s', c.performAll calls s = (deeds, s') ∧
      s'.attempts = s.attempts ++ deeds.flatMap (·.sent) ∧
      d.performAll calls s =
        (deeds.map (·.showing b.clientSecret), { s' with
          attempts := s.attempts ++ (deeds.map (·.showing b.clientSecret)).flatMap (·.sent) })) ∧
    b.redacted = a.redacted ∧
    (∀ pageSize, (⟨b, pageSize⟩ : Configuration).redacted =
      (⟨a, pageSize⟩ : Configuration).redacted) ∧
    ∀ source expected (key key' : SealKey) grant s,
      (∃ outcome s' sent sent', c.perform s (.copy source expected key grant) = (outcome, s') ∧
        s'.attempts = s.attempts ++ sent ∧
        c.perform s (.copy source expected key' grant) =
          (outcome, { s' with attempts := s.attempts ++ sent' }) ∧
        List.Forall₂ SameButBody sent sent') ∧
      key'.redacted = key.redacted := by
  have hredacted : b.redacted = a.redacted := by
    rw [hab]
    rfl
  have hclient : d = c.withSecret b.clientSecret := by
    rw [ofSettings_eq_ok hc, ofSettings_eq_ok hd, hab]
    rfl
  refine ⟨fun calls s => ?_, hredacted, fun pageSize => ?_,
    fun source expected key key' grant s => ⟨?_, rfl⟩⟩
  · rw [hclient]
    exact c.performAll_withSecret b.clientSecret calls s s.attempts
  · unfold Configuration.redacted
    dsimp only
    rw [hredacted]
  · exact c.perform_copy_of_key source expected key key' grant s

/-- Two clients that ask for a page, which is refused, and for a usage, which is not answered. -/
theorem secrets_confined_two_questions :
    let a : Settings := ⟨"http://manager", "id", "one", 10, []⟩
    let b : Settings := { a with clientSecret := "two" }
    let calls : List Call := [.list "p/" none 1, .usage "p/"]
    let s : Session := { network := ⟨.available, [.reply (.announced 403 none [])], []⟩ }
    ∃ c d, ofSettings a = .ok c ∧ ofSettings b = .ok d ∧
      (d.performAll calls s).1 = (c.performAll calls s).1.map (·.showing "two") ∧
      (c.performAll calls s).2.attempts.map
        (·.request.headers.get? "cf-access-client-secret") = [some "one", some "one"] := by
  intro a b calls s
  have hc : (ofSettings a).isOk = true := by decide +kernel
  have hd : (ofSettings b).isOk = true := by decide +kernel
  rcases ha : ofSettings a with f | c
  · rw [ha] at hc
    cases hc
  rcases hb : ofSettings b with f | d
  · rw [hb] at hd
    cases hd
  obtain ⟨deeds, s', hx, -, hy⟩ := (secrets_confined ha hb rfl).1 calls s
  refine ⟨c, d, rfl, rfl, by rw [hx, hy], ?_⟩
  rw [ofSettings_eq_ok ha]
  decide +kernel

end Client

end MediaVault
