/-
Two operations side by side. They go together if they come to the same in the
same circumstances and leave the same behind, but for the requests that they
send, which are related one by one. Going together is kept by all the ways in
which operations are put together, so of two operations that are built alike
only the exchanges need to be compared.
-/
import Mathlib.Data.List.Forall2
import MediaVault.Proofs.Http.Exchange
import MediaVault.Proofs.Vault.Questions

namespace MediaVault

/-! ## Exchanges -/

namespace Payload

/-- Two payloads that go out in step: asked as often, as many octets of each have gone out, and if
that is all of the one or it has met with a fault, so it is with the other. -/
structure InStep (p q : Payload) : Prop where
  enough : q.enough = p.enough
  length : ∀ n, (q.drawn n).1.length = (p.drawn n).1.length
  fault : ∀ n, (q.drawn n).2 = (p.drawn n).2
  spent : ∀ n, q.isSpent n = p.isSpent n

theorem inStep_self (p : Payload) : p.InStep p :=
  ⟨rfl, fun _ => rfl, fun _ => rfl, fun _ => rfl⟩

end Payload

namespace Network

variable {method : Method} {u : Url} {headers headers' : Headers} {payload payload' : Payload}
variable {a b : Attempt}

/-- What is written down of two requests with different fields and payloads: both payloads were
asked as often, or neither was. -/
structure SentAlike (method : Method) (u : Url) (headers headers' : Headers)
    (payload payload' : Payload) (a b : Attempt) : Prop where
  request : a.request = .build method u headers
  request' : b.request = .build method u headers'
  complete : b.complete = a.complete
  sent : a.sent = [] ∧ b.sent = [] ∨
    ∃ n, a.sent = (payload.drawn n).1 ∧ b.sent = (payload'.drawn n).1

namespace SentAlike

/-- The second differs from the first in its request and in what was sent. -/
theorem eq (h : SentAlike method u headers headers' payload payload' a b) :
    b = { a with request := .build method u headers', sent := b.sent } := by
  rw [← h.request', ← h.complete]

/-- Of payloads in step equally much was sent. -/
theorem length_eq (h : SentAlike method u headers headers' payload payload' a b)
    (hp : payload.InStep payload') : b.sent.length = a.sent.length := by
  rcases h.sent with ⟨ha, hb⟩ | ⟨n, ha, hb⟩
  · rw [ha, hb]
  · rw [ha, hb, hp.length]

/-- Of equal payloads the same was sent. -/
theorem sent_eq (h : SentAlike method u headers headers' payload payload a b) : b.sent = a.sent := by
  rcases h.sent with ⟨ha, hb⟩ | ⟨_, ha, hb⟩ <;> rw [ha, hb]

/-- The same request is written down alike. -/
theorem eq_self (h : SentAlike method u headers headers payload payload a b) : b = a := by
  rw [h.eq, h.sent_eq, ← h.request]

end SentAlike

/-- Two requests with the same address and payloads in step come to the same with any answer. -/
theorem deliver_congr (method : Method) (u : Url) (headers headers' : Headers)
    (hp : payload.InStep payload') (answer : Answer) :
    (deliver (.build method u headers') payload' answer).1 =
        (deliver (.build method u headers) payload answer).1 ∧
      SentAlike method u headers headers' payload payload'
        (deliver (.build method u headers) payload answer).2
        (deliver (.build method u headers') payload' answer).2 := by
  have hurl : (Request.build method u headers').url = (Request.build method u headers).url := rfl
  rcases answer with causes | _ | ⟨reaction, early⟩
  · exact ⟨rfl, rfl, rfl, rfl, .inl ⟨rfl, rfl⟩⟩
  · exact ⟨rfl, rfl, rfl, rfl, .inl ⟨rfl, rfl⟩⟩
  have hpace : payload'.pace early = payload.pace early := by
    rw [Payload.pace, Payload.pace, hp.enough]
  have hfault := hp.fault (payload.pace early).before
  simp only [deliver, hpace, hurl]
  generalize payload.pace early = pace at hfault
  rcases hdrawn : payload.drawn pace.before with ⟨sent, fault⟩
  rcases hdrawn' : payload'.drawn pace.before with ⟨sent', fault'⟩
  rw [hdrawn, hdrawn'] at hfault
  obtain rfl : fault' = fault := hfault
  rcases fault' with _ | fault
  · exact ⟨rfl, rfl, rfl, hp.spent _, .inr ⟨pace.asked, rfl, rfl⟩⟩
  · exact ⟨rfl, rfl, rfl, rfl, .inr ⟨pace.before, by rw [hdrawn], by rw [hdrawn']⟩⟩

/-- Two exchanges with the same address, of payloads in step, come to the same. -/
theorem exchange_congr (n : Network) (method : Method) (u : Url) (headers headers' : Headers)
    (hp : payload.InStep payload') :
    (n.exchange method u headers' payload').1 = (n.exchange method u headers payload).1 ∧
      (n.exchange method u headers' payload').2.2 = (n.exchange method u headers payload).2.2 ∧
      List.Forall₂ (SentAlike method u headers headers' payload payload')
        (n.exchange method u headers payload).2.1.toList
        (n.exchange method u headers' payload').2.1.toList := by
  have hurl : (Request.build method u headers').url = (Request.build method u headers).url := rfl
  obtain ⟨hresult, halike⟩ := deliver_congr method u headers headers' hp (n.nextAnswer method).1
  unfold exchange
  simp only [hurl]
  rcases addressFailure? (Request.build method u headers).url with _ | f
  · exact ⟨hresult, rfl, .cons halike .nil⟩
  · exact ⟨rfl, rfl, .nil⟩

end Network

/-! ## Operations -/

section

variable {ε ε' α β : Type} {R : Attempt → Attempt → Prop}

/-- From two sessions that differ at most in what was sent before, the operations come to the same
and leave the same, but for what they send, which `R` relates. -/
def Together (R : Attempt → Attempt → Prop) (x y : ExceptT ε (StateM Session) α) : Prop :=
  ∀ (s : Session) (others : List Attempt), ∃ (r : Except ε α) (s' : Session) (sent sent' : List Attempt),
    x.run s = (r, s') ∧ y.run { s with attempts := others } =
      (r, { s' with attempts := others ++ sent' }) ∧
    s'.attempts = s.attempts ++ sent ∧ List.Forall₂ R sent sent'

namespace Together

/-- A step that sends nothing goes together with itself. -/
theorem quiet {x : ExceptT ε (StateM Session) α}
    (h : ∀ s : Session, ∃ (r : Except ε α) (s' : Session), s'.attempts = s.attempts ∧
      ∀ others, x.run { s with attempts := others } = (r, { s' with attempts := others })) :
    Together R x x := by
  intro s others
  obtain ⟨r, s', hattempts, hrun⟩ := h s
  refine ⟨r, s', [], [], ?_, ?_, ?_, .nil⟩
  · have hsame := hrun s.attempts
    have hs' : { s' with attempts := s.attempts } = s' := by rw [← hattempts]
    rwa [hs'] at hsame
  · rw [hrun, List.append_nil]
  · rw [hattempts, List.append_nil]

theorem pure (a : α) : Together R (Pure.pure a : ExceptT ε (StateM Session) α) (Pure.pure a) :=
  quiet fun s => ⟨.ok a, s, rfl, fun _ => rfl⟩

theorem throw (f : ε) : Together R (MonadExcept.throw f : ExceptT ε (StateM Session) α)
    (MonadExcept.throw f) :=
  quiet fun s => ⟨.error f, s, rfl, fun _ => rfl⟩

theorem bind {x y : ExceptT ε (StateM Session) α} {next next' : α → ExceptT ε (StateM Session) β}
    (h : Together R x y) (hnext : ∀ a, Together R (next a) (next' a)) :
    Together R (x >>= next) (y >>= next') := by
  intro s others
  obtain ⟨r, s₁, sent₁, sent₁', hx, hy, hattempts₁, hsent₁⟩ := h s others
  rcases r with f | a
  · refine ⟨.error f, s₁, sent₁, sent₁', ?_, ?_, hattempts₁, hsent₁⟩
    · rw [run_bind, hx]
    · rw [run_bind, hy]
  · obtain ⟨r, s₂, sent₂, sent₂', hx', hy', hattempts₂, hsent₂⟩ := hnext a s₁ (others ++ sent₁')
    refine ⟨r, s₂, sent₁ ++ sent₂, sent₁' ++ sent₂', ?_, ?_, ?_, List.rel_append hsent₁ hsent₂⟩
    · rw [run_bind, hx]
      exact hx'
    · rw [run_bind, hy]
      simp only
      rw [hy', List.append_assoc]
    · rw [hattempts₂, hattempts₁, List.append_assoc]

/-- What an operation looks up in its session, where that is not what was sent. -/
theorem get_bind (f : Session → β) (next next' : β → ExceptT ε (StateM Session) α)
    (hf : ∀ s others, f { s with attempts := others } = f s)
    (h : ∀ b, Together R (next b) (next' b)) :
    Together R (get >>= fun s => next (f s)) (get >>= fun s => next' (f s)) := by
  intro s others
  obtain ⟨r, s', sent, sent', hx, hy, hattempts, hsent⟩ := h (f s) s others
  refine ⟨r, s', sent, sent', ?_, ?_, hattempts, hsent⟩
  · rw [run_bind, run_get]
    exact hx
  · rw [run_bind, run_get]
    simp only [hf]
    exact hy

theorem adapt {x y : ExceptT ε (StateM Session) α} (f : ε → ε') (h : Together R x y) :
    Together R (x.adapt f) (y.adapt f) := by
  intro s others
  obtain ⟨r, s', sent, sent', hx, hy, hattempts, hsent⟩ := h s others
  refine ⟨r.mapError f, s', sent, sent', ?_, ?_, hattempts, hsent⟩
  · rw [run_adapt, hx]
  · rw [run_adapt, hy]

theorem timed {x y : Action α} (op : Operation) (h : Together R x y) :
    Together R (Action.timed op x) (Action.timed op y) := by
  intro s others
  obtain ⟨r, s', sent, sent', hx, hy, hattempts, hsent⟩ := h s others
  refine ⟨r, { s' with marks := s'.marks ++ [.duration op] }, sent, sent', ?_, ?_, hattempts, hsent⟩
  · have := Action.runFrom_timed op x s
    rwa [Action.runFrom, Action.runFrom, hx] at this
  · have := Action.runFrom_timed op y { s with attempts := others }
    rwa [Action.runFrom, Action.runFrom, hy] at this

theorem exchange {method : Method} {u : Url} {headers headers' : Headers}
    {payload payload' : Payload} (hp : payload.InStep payload')
    (hsent : ∀ a b, Network.SentAlike method u headers headers' payload payload' a b → R a b) :
    Together R (Action.exchange method u headers payload)
      (Action.exchange method u headers' payload') := by
  intro s others
  obtain ⟨hresult, hnetwork, halike⟩ := s.network.exchange_congr method u headers headers' hp
  refine ⟨_, _, _, _, Action.runFrom_exchange method u headers payload s, ?_, rfl,
    halike.imp hsent⟩
  refine (Action.runFrom_exchange method u headers' payload' _).trans ?_
  simp only [hresult, hnetwork]

end Together

end

end MediaVault
