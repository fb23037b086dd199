/-
What a stream has given out when it is asked no further. As long as it is open
that is less than it announced; once it has closed it is all that it gives out
at all. So what was announced only goes out whole if the source delivers all of
it and is asked to its end.
-/
import MediaVault.Proofs.Seal.Lengths
import MediaVault.Proofs.Seal.Stopping

namespace MediaVault

namespace SealStream

variable {s : SealStream} {source : List Arrival} {c : SegmentCipher} {declared n : Nat}
variable {f : SealFault}

theorem after_of_closed (h : s.phase = .closed) (n : Nat) (source : List Arrival) :
    s.after n source = (s, source) := by
  induction n with
  | zero => rfl
  | succ n ih => rw [after, poll_of_closed h, ih]

/-! ## Closed streams -/

/-- A stream that has closed gives out no more. -/
theorem drawn_add_of_closed (h : (s.after n source).1.phase = .closed) (k : Nat) :
    s.drawn (n + k) source = s.drawn n source := by
  rw [drawn_eq, drawn_eq, polls_add, polls_of_closed h, List.flatMap_append,
    Emission.flatMap_octets_replicate_ended, List.append_nil, List.findSome?_append,
    Emission.findSome?_fault_replicate_ended, Option.or_none]

/-- A fault that was met with is not taken back. -/
theorem snd_drawn_add (h : (s.drawn n source).2 = some f) (k : Nat) :
    (s.drawn (n + k) source).2 = some f := by
  change (s.polls n source).findSome? Emission.fault? = some f at h
  change (s.polls (n + k) source).findSome? Emission.fault? = some f
  rw [polls_add, List.findSome?_append, h, Option.some_or]

/-- A stream has closed after as many polls as it has answers left. -/
theorem Taking.closed_after (h : s.Taking) (hi : s.index ≤ Place.limit)
    (hn : s.left source < n) : (s.after n source).1.phase = .closed := by
  induction n generalizing s source with
  | zero => cases hn
  | succ n ih =>
    have hstep := h.stopping hi source
    rw [after]
    rcases hp : s.poll source with ⟨e, s', rest⟩
    rw [hp] at hstep
    cases hstep with
    | on _ _ _ h' hi' _ _ hleft =>
      have hn' : s'.left rest < n := by omega
      exact ih h' hi' hn'
    | last _ _ _ hclosed _ => rw [after_of_closed hclosed, hclosed]

/-- A drained stream has closed. -/
theorem closed_after_pollBound (hc : c.Lawful) (declared : Nat) (source : List Arrival) :
    ((start c declared).after ((start c declared).pollBound source) source).1.phase = .closed := by
  refine (taking_start hc).closed_after (Nat.zero_le _) ?_
  rw [left, pollBound]
  omega

/-- What a closed stream has given out is all that it gives out. -/
theorem drawn_of_closed (hc : c.Lawful)
    (h : ((start c declared).after n source).1.phase = .closed) :
    (start c declared).drawn n source = (start c declared).drain source := by
  rw [drain]
  rcases Nat.le_total n ((start c declared).pollBound source) with hle | hle
  · rw [← Nat.add_sub_cancel' hle, drawn_add_of_closed h]
  · rw [← Nat.add_sub_cancel' hle, drawn_add_of_closed (closed_after_pollBound hc declared source)]

/-- A fault that is met with however early is the one at which the stream stops. -/
theorem aborts_of_drawn (hc : c.Lawful) (h : ((start c declared).drawn n source).2 = some f) :
    Aborts declared source f := by
  rw [← snd_drain_eq_some hc, drain,
    ← drawn_add_of_closed (closed_after_pollBound hc declared source) n, Nat.add_comm]
  exact snd_drawn_add h _

/-! ## Spent streams -/

/-- A drained stream is spent unless it stopped at a fault. -/
theorem isSpent_pollBound (hc : c.Lawful) (h : ((start c declared).drain source).2 = none) :
    (start c declared).isSpent ((start c declared).pollBound source) source = true := by
  rw [drain] at h
  simp [isSpent, closed_after_pollBound hc declared source, h]

/-- A spent stream has given out the sealed object of what its source delivered. -/
theorem delivers_of_isSpent (hc : c.Lawful) (hr : declared / Seal.segmentLength ≤ Place.limit)
    (h : (start c declared).isSpent n source = true) :
    ∃ text, text.length = declared ∧ Delivers source text ∧
      ((start c declared).drawn n source).1 = c.sealFrom 0 text := by
  simp only [isSpent, Bool.and_eq_true, decide_eq_true_eq, Option.isNone_iff_eq_none] at h
  obtain ⟨hclosed, hnone⟩ := h
  rw [drawn_of_closed hc hclosed] at hnone ⊢
  exact delivers_of_drain hc hr (Prod.ext rfl hnone)

/-- An open stream has given out less than it announced. -/
theorem length_drawn_lt_of_open (hc : c.Lawful) (hr : declared / Seal.segmentLength ≤ Place.limit)
    (hopen : ((start c declared).after n source).1.phase ≠ .closed) :
    ((start c declared).drawn n source).1.length < Seal.sealedLength declared := by
  obtain ⟨k, hitems, hreached⟩ := exists_turns_polls n (start c declared) source
  have haccounting := (accounting_turns hc hr source k).1
  have hoctets : givenOut ((start c declared).turns k source) =
      ((start c declared).drawn n source).1 := by
    rw [givenOut, hitems, drawn_eq]
  rw [← hoctets]
  rw [← hreached] at hopen
  generalize (start c declared).turns k source = run at haccounting ⊢
  generalize (start c declared).reached k source = state at haccounting hopen
  obtain ⟨s, rest⟩ := state
  cases haccounting with
  | reading h hdeclared _ _ _ hcounts =>
    rw [hcounts.octets, ← hdeclared]
    exact h.taking.emitted_lt
  | draining h hdeclared _ _ hcounts =>
    rw [hcounts.octets, ← hdeclared]
    exact h.taking.emitted_lt
  | done hclosed | failed hclosed => exact absurd hclosed hopen

/-- **A stream that is not spent has given out less than it announced.** -/
theorem length_drawn_lt (hc : c.Lawful) (hr : declared / Seal.segmentLength ≤ Place.limit)
    (h : (start c declared).isSpent n source = false) :
    ((start c declared).drawn n source).1.length < Seal.sealedLength declared := by
  by_cases hclosed : ((start c declared).after n source).1.phase = .closed
  · have hdrain := drawn_of_closed hc hclosed
    have hfault : ((start c declared).drawn n source).2 ≠ none := by
      intro hnone
      simp [isSpent, hclosed, hnone] at h
    obtain ⟨fault, hfault⟩ := Option.ne_none_iff_exists'.mp hfault
    rw [hdrain] at hfault ⊢
    exact length_lt_of_drain hc hr (Prod.ext rfl hfault)
  · exact length_drawn_lt_of_open hc hr hclosed

end SealStream

end MediaVault
