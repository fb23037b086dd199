/-
How an operation runs, step by step. Each step has one equation that says what
comes of it and which session it leaves, so that an operation is read without
opening the monad it is written in.
-/
import MediaVault.Vault.Session

namespace MediaVault

/-! ## Steps over any state -/

section

variable {ε ε' σ α β : Type}

/-- After a step that failed nothing more is done. -/
theorem run_bind (x : ExceptT ε (StateM σ) α) (next : α → ExceptT ε (StateM σ) β) (s : σ) :
    ((x >>= next).run s : Except ε β × σ) =
      match (x.run s : Except ε α × σ) with
      | (.ok a, s') => (next a).run s'
      | (.error f, s') => (.error f, s') := by
  change (ExceptT.bindCont next (x.run s).1).run (x.run s).2 = _
  rcases x.run s with ⟨f | a, s'⟩ <;> rfl

theorem run_get (s : σ) :
    ((get : ExceptT ε (StateM σ) σ).run s : Except ε σ × σ) = (.ok s, s) := rfl

theorem run_adapt (f : ε → ε') (x : ExceptT ε (StateM σ) α) (s : σ) :
    ((x.adapt f).run s : Except ε' α × σ) =
      (((x.run s : Except ε α × σ)).1.mapError f, (x.run s : Except ε α × σ).2) := rfl

@[simp] theorem mapError_ok (f : ε → ε') (a : α) : (Except.ok a).mapError f = .ok a := rfl

@[simp] theorem mapError_error (f : ε → ε') (e : ε) :
    (Except.error e : Except ε α).mapError f = .error (f e) := rfl

end

/-! ## Steps of an operation -/

namespace Action

variable {α β : Type}

/-- What comes of an action in a session, and the session after it. -/
def runFrom (action : Action α) (s : Session) : Except Failure α × Session := action.run s

@[simp] theorem runFrom_pure (a : α) (s : Session) : (pure a : Action α).runFrom s = (.ok a, s) := rfl

@[simp] theorem runFrom_throw (f : Failure) (s : Session) :
    (throw f : Action α).runFrom s = (.error f, s) := rfl

theorem runFrom_bind (x : Action α) (next : α → Action β) (s : Session) :
    (x >>= next).runFrom s =
      match x.runFrom s with
      | (.ok a, s') => (next a).runFrom s'
      | (.error f, s') => (.error f, s') := by
  refine (run_bind x next s).trans ?_
  rcases hx : x.runFrom s with ⟨f | a, s'⟩ <;> simp only [runFrom] at hx ⊢ <;> rw [hx]

theorem runFrom_tryCatch (x : Action α) (handle : Failure → Action α) (s : Session) :
    (tryCatch x handle).runFrom s =
      match x.runFrom s with
      | (.ok a, s') => (.ok a, s')
      | (.error f, s') => (handle f).runFrom s' := by
  simp only [runFrom, ExceptT.run, tryCatch, tryCatchThe, MonadExceptOf.tryCatch,
    ExceptT.tryCatch, ExceptT.mk, bind, StateT.bind]
  rcases x s with ⟨f | a, s'⟩ <;> rfl

@[simp] theorem runFrom_lift (x : Except Failure α) (s : Session) :
    (liftM x : Action α).runFrom s = (x, s) := rfl

@[simp] theorem runFrom_log (level : Level) (origin message : String)
    (fields : List (String × LogValue)) (s : Session) :
    (log level origin message fields).runFrom s =
      (.ok (), { s with log := s.log ++ [⟨level, origin, message, fields⟩] }) := rfl

@[simp] theorem runFrom_mark (m : Mark) (s : Session) :
    (mark m).runFrom s = (.ok (), { s with marks := s.marks ++ [m] }) := rfl

theorem runFrom_exchange (method : Method) (u : Url) (headers : Headers) (payload : Payload)
    (s : Session) :
    (exchange method u headers payload).runFrom s =
      (.ok (s.network.exchange method u headers payload).1,
        { s with
          network := (s.network.exchange method u headers payload).2.2
          attempts := s.attempts ++ (s.network.exchange method u headers payload).2.1.toList }) := rfl

/-- A timed action comes to what it comes to untimed, and leaves one mark more. -/
theorem runFrom_timed (op : Operation) (action : Action α) (s : Session) :
    (timed op action).runFrom s =
      ((action.runFrom s).1,
        { (action.runFrom s).2 with marks := (action.runFrom s).2.marks ++ [.duration op] }) := by
  rw [timed, runFrom_bind, runFrom_tryCatch, runFrom_bind]
  rcases action.runFrom s with ⟨f | a, s'⟩ <;> rfl

end Action

end MediaVault
