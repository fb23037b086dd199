/-
The questions to the storage manager. Each operation that asks one is one
request and a look at its answer, and leaves its time and the status that it
was answered with. What it comes to and what it logs are settled by the
answer alone, so both are said here as functions of it.
-/
import MediaVault.Proofs.Http.Exchange
import MediaVault.Proofs.Vault.Action
import MediaVault.Vault.Client

namespace MediaVault

namespace Client

open MediaVault.Action Network

variable {c : Client} {s : Session} {lead path : String} {reply : Reply}
variable {pairs : List (String × String)}

/-- A client holds its settings as they were given. -/
theorem ofSettings_eq_ok {a : Settings} (h : ofSettings a = .ok c) :
    c = ⟨a.baseUrl, a.clientId, a.clientSecret⟩ := by
  unfold ofSettings at h
  split at h
  · cases h
  split at h
  · cases h
  split at h
  · cases h
  · cases h
    rfl

/-! ## One question -/

/-- The exchange with the storage manager. An address that is none leaves the network alone. -/
def questioned (c : Client) (path : String) (pairs : List (String × String)) (s : Session) :
    Except HttpFailure Reply × Option Attempt × Network :=
  match managerUrl (c.baseUrl ++ path) with
  | .error f => (.error f, none, s.network)
  | .ok u => s.network.exchange .get (u.addQuery pairs) c.accessHeaders .nothing

theorem runFrom_ask (c : Client) (path : String) (pairs : List (String × String)) (s : Session) :
    (c.ask path pairs).runFrom s =
      ((c.questioned path pairs s).1.mapError .http,
        { s with
          network := (c.questioned path pairs s).2.2
          attempts := s.attempts ++ (c.questioned path pairs s).2.1.toList }) := by
  unfold ask questioned
  rcases managerUrl (c.baseUrl ++ path) with f | u
  · simp
  simp only [runFrom_bind, runFrom_exchange]
  generalize s.network.exchange .get (u.addQuery pairs) c.accessHeaders .nothing = x
  rcases x with ⟨f | reply, _, _⟩ <;> rfl

/-- A reply was in the next answer that was to come. -/
theorem gets_of_questioned_eq_ok (h : (c.questioned path pairs s).1 = .ok reply) :
    ∃ answer, s.network.gets = answer :: (c.questioned path pairs s).2.2.gets ∧
      answer.reply? = some reply := by
  unfold questioned at h ⊢
  rcases hu : managerUrl (c.baseUrl ++ path) with f | u <;> simp only [hu] at h ⊢
  · cases h
  obtain ⟨hreply, hnetwork⟩ := of_exchange_eq_ok h
  rw [hnetwork]
  exact gets_of_reply?_nextAnswer hreply

/-- The mark that the answer to a question leaves. -/
def answerMarks (op : Operation) : Except HttpFailure Reply → List Mark
  | .ok reply => [.status op reply.status]
  | .error _ => []

/-- What an operation comes to that asks one question, takes what it wants from the answer, and
adds some lines to the log then. -/
def afterQuestion {α : Type} (op : Operation) (take : Reply → Except Failure α)
    (lines : Reply → List LogLine) (x : Except HttpFailure Reply × Option Attempt × Network)
    (s : Session) : Except Failure α × Session :=
  (x.1.mapError .http >>= take,
    { s with
      network := x.2.2
      attempts := s.attempts ++ x.2.1.toList
      marks := s.marks ++ (answerMarks op x.1 ++ [.duration op])
      log := s.log ++ (x.1.toOption.elim [] lines) })

/-- An operation that asks one question and then only looks at the answer. -/
theorem runFrom_timed_ask {α : Type} {op : Operation} {look : Reply → Action α}
    {take : Reply → Except Failure α} {lines : Reply → List LogLine}
    (hlook : ∀ reply s, (look reply).runFrom s =
      (take reply,
        { s with marks := s.marks ++ [.status op reply.status], log := s.log ++ lines reply }))
    (c : Client) (path : String) (pairs : List (String × String)) (s : Session) :
    (timed op (c.ask path pairs >>= look)).runFrom s =
      afterQuestion op take lines (c.questioned path pairs s) s := by
  rw [runFrom_timed, runFrom_bind, runFrom_ask, afterQuestion]
  rcases c.questioned path pairs s with ⟨f | reply, attempt, n⟩
  · simp [Except.toOption, answerMarks, bind, Except.bind]
  · simp [Except.toOption, answerMarks, bind, Except.bind, hlook]

theorem runFrom_bodyOf (reply : Reply) (s : Session) :
    (bodyOf reply).runFrom s =
      (reply.wholeBody.mapError fun reason => .http (reply.bodyFailure reason), s) := by
  unfold bodyOf
  rcases reply.wholeBody with reason | body <;> rfl

/-! ## Listings -/

/-- What an answer comes to: what its body is taken for, unless the status refuses the question, the
body breaks off or it is not the JSON that it should be. -/
def answerOf {α : Type} (refusal : Nat → Failure) (read : Bytes → Option α) (reply : Reply) :
    Except Failure α :=
  if ¬ reply.isSuccess then .error (refusal reply.status)
  else
    match reply.wholeBody with
    | .error reason => .error (.http (reply.bodyFailure reason))
    | .ok body => (read body).elim (.error .json) .ok

/-- The page that an answer holds, or why it is none. -/
def pageOf (lead : String) (reply : Reply) : Except Failure Page :=
  match answerOf .listing Page.ofJson? reply with
  | .ok page => page.relativeTo lead
  | .error f => .error f

/-- What the log says of a page that was looked at: which key does not belong there, or how many
entries there are. -/
def keyLines (lead : String) : Except Failure Page → List LogLine
  | .ok page =>
    [⟨.debug, origin, "listed objects",
      [("prefix", .quoted lead), ("entries", .plain (toString page.entries.length)),
       ("more", .plain (toString page.hasMore))]⟩]
  | .error (.foreignKey key _) =>
    [⟨.error, "backupstore_remote_storage::types",
      "unexpected listing result from cdn3: entry does not contain requested prefix",
      [("key", .plain key), ("prefix", .quoted lead)]⟩]
  | .error _ => []

/-- What the log says of the answer to a listing. -/
def pageLines (lead : String) (reply : Reply) : List LogLine :=
  if ¬ reply.isSuccess then
    [⟨.warn, origin, "failed to list objects",
      [("prefix", .quoted lead), ("status", .plain (toString reply.status))]⟩]
  else keyLines lead (pageOf lead reply)

/-- A page is refused for a key only. -/
theorem foreignKey_of_relativeTo {page : Page} {f : Failure} (h : page.relativeTo lead = .error f) :
    ∃ key, f = .foreignKey key lead := by
  unfold Page.relativeTo at h
  split at h
  next e _ =>
    cases h
    exact ⟨e.key, rfl⟩
  · cases h

/-- **A listing** is one question and the page in its answer. -/
theorem runFrom_list (c : Client) (lead : String) (cursor : Option String) (limit : Nat)
    (s : Session) :
    (c.list lead cursor limit).runFrom s =
      afterQuestion .list (pageOf lead) (pageLines lead)
        (c.questioned ("/" ++ listingPath ++ "/") (listPairs lead cursor limit) s) s := by
  refine runFrom_timed_ask (fun reply s => ?_) _ _ _ _
  unfold pageLines pageOf answerOf
  by_cases hsuccess : reply.isSuccess = true
  · simp only [hsuccess, not_true_eq_false, if_false, runFrom_bind, runFrom_mark, runFrom_bodyOf]
    rcases reply.wholeBody with reason | body
    · simp [keyLines]
    simp only [mapError_ok]
    rcases Page.ofJson? body with _ | page
    · simp [keyLines]
    simp only [runFrom_bind, relative, Option.elim]
    rcases hpage : page.relativeTo lead with f | page
    · obtain ⟨key, rfl⟩ := foreignKey_of_relativeTo hpage
      simp [runFrom_bind, keyLines]
    · simp [keyLines]
  · simp only [hsuccess, not_false_eq_true, if_true, Bool.false_eq_true, runFrom_bind, runFrom_mark,
      runFrom_log, runFrom_throw]

/-! ## Usages -/

/-- What the log says of the answer to the question for a usage. -/
def usageLines (lead : String) (reply : Reply) : List LogLine :=
  if ¬ reply.isSuccess then
    [⟨.warn, origin, "failed to retrieve usage",
      [("prefix", .quoted lead), ("status", .plain (toString reply.status))]⟩]
  else []

/-- **A usage** is one question and the numbers in its answer. -/
theorem runFrom_usage (c : Client) (lead : String) (s : Session) :
    (c.usage lead).runFrom s =
      afterQuestion .usage (answerOf .usage Usage.ofJson?) (usageLines lead)
        (c.questioned "/usage" [("prefix", lead)] s) s := by
  refine runFrom_timed_ask (fun reply s => ?_) _ _ _ _
  unfold usageLines answerOf
  by_cases hsuccess : reply.isSuccess = true
  · simp only [hsuccess, not_true_eq_false, if_false, runFrom_bind, runFrom_mark, runFrom_bodyOf]
    rcases reply.wholeBody with reason | body
    · simp
    simp only [mapError_ok]
    rcases Usage.ofJson? body with _ | usage <;> simp
  · simp only [hsuccess, not_false_eq_true, if_true, Bool.false_eq_true, runFrom_bind, runFrom_mark,
      runFrom_log, runFrom_throw]

end Client

end MediaVault
