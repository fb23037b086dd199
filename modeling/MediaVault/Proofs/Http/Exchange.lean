/-
The ways in which one exchange over the network can go: what comes of it, what
is written down as sent, and which answers are still to come. What a request
says in its header fields is what it was given, but for the fields that every
request has.
-/
import MediaVault.Http.Network

namespace MediaVault

/-! ## Header fields -/

namespace Headers

theorem get?_insert_self (h : Headers) (name value : String) :
    (h.insert name value).get? name = some value := by
  have hnone : (h.filter (·.1 ≠ name)).find? (·.1 = name) = none := by
    rw [List.find?_eq_none]
    intro field hfield
    simpa using (List.mem_filter.mp hfield).2
  rw [get?, insert, List.find?_append, hnone, Option.none_or, List.find?_cons_of_pos (by simp)]
  rfl

theorem get?_insert_of_ne (h : Headers) {name other : String} (value : String) (hne : other ≠ name) :
    (h.insert name value).get? other = h.get? other := by
  have hkept : (h.filter (·.1 ≠ name)).find? (·.1 = other) = h.find? (·.1 = other) := by
    rw [List.find?_filter]
    congr 1
    funext field
    by_cases hfield : field.1 = other
    · simp [hfield, hne]
    · simp [hfield]
  have hlast : [(name, value)].find? (·.1 = other) = none := by simp [hne.symm]
  rw [get?, insert, List.find?_append, hkept, hlast, Option.or_none, get?]

theorem get?_insertNew_of_ne (h : Headers) {name other : String} (value : String)
    (hne : other ≠ name) : (h.insertNew name value).get? other = h.get? other := by
  unfold insertNew
  split
  · rfl
  · exact get?_insert_of_ne h value hne

/-- What is among the fields after one was set was there before or is that one. -/
theorem mem_or_eq_of_mem_insert {h : Headers} {name value : String} {field : String × String}
    (hf : field ∈ h.insert name value) : field ∈ h ∨ field = (name, value) := by
  rcases List.mem_append.mp hf with hf | hf
  · exact .inl (List.mem_filter.mp hf).1
  · exact .inr (List.mem_singleton.mp hf)

theorem mem_or_eq_of_mem_insertNew {h : Headers} {name value : String} {field : String × String}
    (hf : field ∈ h.insertNew name value) : field ∈ h ∨ field = (name, value) := by
  unfold insertNew at hf
  split at hf
  · exact .inl hf
  · exact mem_or_eq_of_mem_insert hf

end Headers

namespace Request

@[simp] theorem method_build (method : Method) (u : Url) (headers : Headers) :
    (build method u headers).method = method := rfl

/-- Only three fields of a request can come from elsewhere than its caller. -/
theorem get?_build (method : Method) (u : Url) (headers : Headers) {name : String}
    (hauthorization : name ≠ "authorization") (haccept : name ≠ "accept") (hhost : name ≠ "host") :
    (build method u headers).headers.get? name = headers.get? name := by
  rw [build, Headers.get?_insertNew_of_ne _ _ hhost, Headers.get?_insertNew_of_ne _ _ haccept]
  split
  · exact Headers.get?_insertNew_of_ne _ _ hauthorization
  · rfl

/-- What a request has beside the fields of its caller bears one of three names. -/
theorem mem_of_mem_headers_build {method : Method} {u : Url} {headers : Headers}
    {field : String × String} (hf : field ∈ (build method u headers).headers) :
    field ∈ headers ∨ field.1 ∈ ["authorization", "accept", "host"] := by
  rw [build] at hf
  obtain hf | rfl := Headers.mem_or_eq_of_mem_insertNew hf
  · obtain hf | rfl := Headers.mem_or_eq_of_mem_insertNew hf
    · split at hf
      · obtain hf | rfl := Headers.mem_or_eq_of_mem_insertNew hf
        · exact .inl hf
        · exact .inr (by simp)
      · exact .inl hf
    · exact .inr (by simp)
  · exact .inr (by simp)

end Request

/-! ## Addresses -/

namespace Url

variable (u : Url)

@[simp] theorem scheme_anonymous : u.anonymous.scheme = u.scheme := by
  unfold anonymous; split <;> rfl

@[simp] theorem host_anonymous : u.anonymous.host = u.host := by unfold anonymous; split <;> rfl

@[simp] theorem port_anonymous : u.anonymous.port = u.port := by unfold anonymous; split <;> rfl

@[simp] theorem path_anonymous : u.anonymous.path = u.path := by unfold anonymous; split <;> rfl

@[simp] theorem query_anonymous : u.anonymous.query = u.query := by unfold anonymous; split <;> rfl

@[simp] theorem fragment_anonymous : u.anonymous.fragment = u.fragment := by
  unfold anonymous; split <;> rfl

end Url

/-! ## Exchanges -/

namespace Network

variable {n : Network} {method : Method} {u : Url} {headers : Headers} {payload : Payload}

/-- The answer to a question leaves what an upload meets with as it was. -/
theorem nextAnswer_post_nextAnswer_get (n : Network) :
    ((n.nextAnswer .get).2.nextAnswer .post).1 = (n.nextAnswer .post).1 := by
  obtain ⟨reach, gets, posts⟩ := n
  cases reach <;> rfl

/-- A reply to a question is the first of those that are still to come. -/
theorem gets_of_reply?_nextAnswer {reply : Reply}
    (h : (n.nextAnswer .get).1.reply? = some reply) :
    ∃ answer, n.gets = answer :: (n.nextAnswer .get).2.gets ∧ answer.reply? = some reply := by
  obtain ⟨reach, gets, posts⟩ := n
  cases reach with
  | available =>
    rcases gets with _ | ⟨answer, rest⟩
    · cases h
    · exact ⟨answer, rfl, h⟩
  | barred | silent => cases h

/-- How an exchange of a request with its payload can go over a network. -/
inductive Exchanged (n : Network) (request : Request) (payload : Payload) :
    Except HttpFailure Reply × Option Attempt × Network → Prop
  /-- The address cannot be asked. -/
  | refused (f : HttpFailure) : addressFailure? request.url = some f →
      Exchanged n request payload (.error f, none, n)
  /-- No connection was made. -/
  | unconnected (causes : List String) : addressFailure? request.url = none →
      (n.nextAnswer request.method).1 = .unconnected causes →
      Exchanged n request payload
        (.error (noConnection request.url causes), some ⟨request, [], false⟩,
          (n.nextAnswer request.method).2)
  /-- No connection was made in time. -/
  | unmet : addressFailure? request.url = none → (n.nextAnswer request.method).1 = .unmet →
      Exchanged n request payload
        (.error (timedOut request.url), some ⟨request, [], false⟩, (n.nextAnswer request.method).2)
  /-- The payload ended in a fault before the server acted. -/
  | broken (reaction : Reaction) (early : Option Early) (fault : SealFault) :
      addressFailure? request.url = none →
      (n.nextAnswer request.method).1 = .met reaction early →
      (payload.drawn (payload.pace early).before).2 = some fault →
      Exchanged n request payload
        (.error (brokenOff request.url [.text "error from user's Body stream", .sealing fault]),
          some ⟨request, (payload.drawn (payload.pace early).before).1, false⟩,
          (n.nextAnswer request.method).2)
  /-- A server acted on what it was sent. -/
  | acted (reaction : Reaction) (early : Option Early) : addressFailure? request.url = none →
      (n.nextAnswer request.method).1 = .met reaction early →
      (payload.drawn (payload.pace early).before).2 = none →
      Exchanged n request payload
        (received request.url reaction,
          some ⟨request, (payload.drawn (payload.pace early).asked).1,
            payload.isSpent (payload.pace early).asked⟩,
          (n.nextAnswer request.method).2)

/-- **An exchange goes in one of these ways.** -/
theorem exchanged (n : Network) (method : Method) (u : Url) (headers : Headers)
    (payload : Payload) :
    Exchanged n (.build method u headers) payload (n.exchange method u headers payload) := by
  unfold exchange
  generalize hrequest : Request.build method u headers = request
  obtain rfl : request.method = method := by rw [← hrequest, Request.method_build]
  simp only
  split
  next f hf => exact .refused f hf
  next haddress =>
    rcases hanswer : n.nextAnswer request.method with ⟨causes | _ | ⟨reaction, early⟩, n'⟩
    all_goals
      have hfirst := congrArg Prod.fst hanswer
      obtain rfl : (n.nextAnswer request.method).2 = n' := congrArg Prod.snd hanswer
    · exact .unconnected causes haddress hfirst
    · exact .unmet haddress hfirst
    · simp only [deliver]
      rcases hdrawn : payload.drawn (payload.pace early).before with ⟨sent, fault | fault⟩
      · exact .acted reaction early haddress hfirst (congrArg Prod.snd hdrawn)
      · obtain rfl : (payload.drawn (payload.pace early).before).1 = sent := congrArg Prod.fst hdrawn
        exact .broken reaction early fault haddress hfirst (congrArg Prod.snd hdrawn)

/-- A request goes out once if its address can be asked, and otherwise not at all. -/
theorem requests_exchange (n : Network) (method : Method) (u : Url) (headers : Headers)
    (payload : Payload) :
    (n.exchange method u headers payload).2.1.toList.map (·.request) =
      if addressFailure? u.anonymous = none then [.build method u headers] else [] := by
  have hcases := exchanged n method u headers payload
  have hurl : (Request.build method u headers).url = u.anonymous := rfl
  rw [← hurl]
  rcases hx : n.exchange method u headers payload with ⟨result, attempt, n'⟩
  rw [hx] at hcases
  cases hcases with
  | refused f hf => simp [hf]
  | unconnected _ haddress | unmet haddress | broken _ _ _ haddress | acted _ _ haddress =>
    rw [if_pos haddress]
    rfl

/-- What is written down is the request as it was built. -/
theorem request_of_mem_exchange {a : Attempt}
    (h : a ∈ (n.exchange method u headers payload).2.1.toList) :
    a.request = .build method u headers := by
  have hmem := List.mem_map_of_mem (f := (·.request)) h
  rw [requests_exchange] at hmem
  split at hmem
  · exact List.mem_singleton.mp hmem
  · cases hmem

/-- An address of HTTP is asked once if a request line can hold it, and otherwise not at all. -/
theorem requests_exchange_of_host (hhost : u.host?.isSome = true)
    (hscheme : u.scheme = "http" ∨ u.scheme = "https") (n : Network) (method : Method)
    (headers : Headers) (payload : Payload) :
    (n.exchange method u headers payload).2.1.toList.map (·.request) =
      if fits u.anonymous then [.build method u headers] else [] := by
  have hspeaks : speaks u.anonymous = true := by
    rw [speaks, Url.host?, Url.host_anonymous, ← Url.host?, hhost, Url.scheme_anonymous]
    rcases hscheme with h | h <;> simp [h]
  rw [requests_exchange]
  simp only [addressFailure?, hspeaks]
  by_cases hfits : fits u.anonymous = true <;> simp [hfits]

/-- What comes of a server's reaction is its reply, if it gave one. -/
theorem received_eq_ok {reaction : Reaction} {reply : Reply} (h : received u reaction = .ok reply) :
    reaction = .reply reply := by
  cases reaction with
  | reply r => cases h; rfl
  | hangUp | silence => cases h

/-- A reply was in the next answer to come. -/
theorem of_exchange_eq_ok {reply : Reply}
    (h : (n.exchange method u headers payload).1 = .ok reply) :
    (n.nextAnswer method).1.reply? = some reply ∧
      (n.exchange method u headers payload).2.2 = (n.nextAnswer method).2 := by
  have hcases := exchanged n method u headers payload
  rcases hx : n.exchange method u headers payload with ⟨result, attempt, n'⟩
  rw [hx] at h hcases
  cases hcases with
  | acted reaction early _ hanswer =>
    rw [Request.method_build] at hanswer ⊢
    rw [hanswer, received_eq_ok h]
    exact ⟨rfl, rfl⟩
  | refused | unconnected | unmet | broken => cases h

/-- A question that was answered was sent whole. -/
theorem attempt_of_exchange_eq_ok {reply : Reply}
    (h : (n.exchange method u headers .nothing).1 = .ok reply) :
    ∃ a, (n.exchange method u headers .nothing).2.1 = some a ∧ a.complete = true := by
  have hcases := exchanged n method u headers .nothing
  rcases hx : n.exchange method u headers .nothing with ⟨result, attempt, n'⟩
  rw [hx] at h hcases
  cases hcases with
  | acted => exact ⟨_, rfl, rfl⟩
  | refused | unconnected | unmet | broken => cases h

/-- An exchange leaves what an upload meets with as it was if it is a question. -/
theorem nextAnswer_post_exchange_get (n : Network) (u : Url) (headers : Headers)
    (payload : Payload) :
    ((n.exchange .get u headers payload).2.2.nextAnswer .post).1 = (n.nextAnswer .post).1 := by
  have hcases := exchanged n .get u headers payload
  rcases hx : n.exchange .get u headers payload with ⟨result, attempt, n'⟩
  rw [hx] at hcases
  cases hcases with
  | refused => rfl
  | unconnected | unmet | broken | acted => exact n.nextAnswer_post_nextAnswer_get

end Network

end MediaVault
