/-
Where a stream stops, however long its object. A source can deliver more full
segments than there are positions to seal them at; a stream then stops before
it comes to what its source does next. Apart from that it stops at the fault
that its source runs into, or at the end. `Aborts` says so of the source alone.
-/
import MediaVault.Proofs.Seal.Failing

namespace MediaVault

namespace SealStream

variable {s : SealStream} {source rest : List Arrival} {declared : Nat} {f : SealFault}

/-- The least number of octets that cannot be sealed: one full segment more than can be counted. -/
def capacity : Nat := (Place.limit + 1) * Seal.segmentLength

/-- The stream accepts octets and then stops at this fault before its final segment. -/
inductive Aborts (declared : Nat) (source : List Arrival) : SealFault → Prop
  /-- The source fails while there are positions left. -/
  | fails {accepted f} : FailsWith declared source accepted f → accepted.length < capacity →
      Aborts declared source f
  /-- The source goes on after the last position. -/
  | exhausts {before rest accepted} : source = before ++ rest → Delivers before accepted →
      capacity ≤ accepted.length → accepted.length ≤ declared → Aborts declared source .sealing

/-- The fault at which a stream that takes octets in will stop. -/
def stop (s : SealStream) (source : List Arrival) : Option SealFault :=
  if capacity ≤ s.received + (intake s.declared s.received source).1.length then some .sealing
  else (intake s.declared s.received source).2

/-- A bound on the answers that a stream has still to give before its last one. -/
def left (s : SealStream) (source : List Arrival) : Nat :=
  source.length + (s.backlog.size + octetCount source) / Seal.segmentLength

/-- What one poll may do for a stream that will stop at `stop` and has `left` answers left. -/
inductive Stopping (stop : Option SealFault) (left : Nat) :
    Emission × SealStream × List Arrival → Prop
  | on (e : Emission) (s : SealStream) (rest : List Arrival) : s.Taking → s.index ≤ Place.limit →
      e.fault? = none → s.stop rest = stop → s.left rest < left → Stopping stop left (e, s, rest)
  | last (e : Emission) (s : SealStream) (rest : List Arrival) : s.phase = .closed →
      e.fault? = stop → Stopping stop left (e, s, rest)

theorem Stopping.mono {stop : Option SealFault} {m n : Nat}
    {x : Emission × SealStream × List Arrival} (h : Stopping stop m x) (hle : m ≤ n) :
    Stopping stop n x := by
  cases h with
  | on e s rest ht hi he hstop hleft => exact .on e s rest ht hi he hstop (Nat.lt_of_lt_of_le hleft hle)
  | last e s rest hclosed he => exact .last e s rest hclosed he

/-! ## One poll -/

/-- A segment that was given out leaves the stream to stop where it would have stopped. -/
theorem stop_advance (s : SealStream) (source : List Arrival) :
    s.advance.stop source = s.stop source := rfl

theorem left_advance (hf : Seal.segmentLength ≤ s.backlog.toBytes.length) (source : List Arrival) :
    s.advance.left source < s.left source := by
  have hsize : s.advance.backlog.size = s.backlog.size - Seal.segmentLength := by
    rw [Backlog.size_eq_length, Backlog.size_eq_length, advance, Backlog.toBytes_snd_split,
      List.length_drop]
  rw [← Backlog.size_eq_length] at hf
  have hcount : (s.backlog.size + octetCount source) / Seal.segmentLength =
      (s.backlog.size - Seal.segmentLength + octetCount source) / Seal.segmentLength + 1 := by
    rw [← Nat.add_div_right _ Seal.segmentLength_pos]
    congr 1
    omega
  rw [left, left, hsize, hcount]
  omega

theorem stop_accept {data : Bytes} (hle : ¬ s.declared < s.received + data.length) :
    s.stop (.chunk data :: rest) = (s.accept data).stop rest := by
  simp only [stop, intake_chunk_of_le hle, accept, List.length_append, Nat.add_assoc]

theorem left_accept (s : SealStream) (data : Bytes) (rest : List Arrival) :
    (s.accept data).left rest ≤ s.left (.chunk data :: rest) := by
  simp only [left, accept, Backlog.push, octetCount, List.length_cons, Nat.add_assoc]
  omega

/-- After the last position nothing more is sealed. -/
theorem sealFull_of_limit (hi : s.index = Place.limit) :
    s.sealFull.1 = .fault .sealing ∧ s.sealFull.2.phase = .closed := by
  simp only [sealFull, Backlog.split, hi, if_true, close, and_self]

/-- With less than a segment in hand there are still positions for all that was received. -/
theorem Taking.received_lt (h : s.Taking) (hi : s.index ≤ Place.limit)
    (hf : s.backlog.toBytes.length < Seal.segmentLength) : s.received < capacity := by
  have hmul : s.index * Seal.segmentLength ≤ Place.limit * Seal.segmentLength :=
    Nat.mul_le_mul_right _ hi
  rw [h.received, capacity, Nat.succ_mul]
  omega

/-- A source that has nothing more to be accepted settles where the stream stops. -/
theorem Taking.stop_eq (h : s.Taking) (hi : s.index ≤ Place.limit)
    (hf : s.backlog.toBytes.length < Seal.segmentLength) {fault : Option SealFault}
    (hintake : intake s.declared s.received source = ([], fault)) : s.stop source = fault := by
  have hlt : ¬ capacity ≤ s.received := Nat.not_le_of_lt (h.received_lt hi hf)
  rw [stop, hintake, List.length_nil, Nat.add_zero, if_neg hlt]

/-- **One poll** gives an answer and leaves the stream to stop where it would have stopped, or
stops there. -/
theorem Taking.stopping {s : SealStream} (h : s.Taking) (hi : s.index ≤ Place.limit)
    (source : List Arrival) : Stopping (s.stop source) (s.left source) (s.poll source) := by
  by_cases hfull : Seal.segmentLength ≤ s.backlog.toBytes.length
  · rw [poll_of_full h.phase (by rwa [Backlog.size_eq_length])]
    by_cases hlimit : s.index = Place.limit
    · have hcapacity : capacity ≤ s.received := by
        rw [h.received, hlimit, capacity, Nat.succ_mul]
        omega
      have hstop : s.stop source = some .sealing := by
        rw [stop, if_pos (Nat.le_add_right_of_le hcapacity)]
      obtain ⟨hitem, hclosed⟩ := sealFull_of_limit hlimit
      rw [hstop, hitem]
      exact .last _ _ _ hclosed rfl
    · rw [h.sealFull_eq hfull hlimit]
      exact .on _ _ _ (h.advance hfull) (Nat.lt_of_le_of_ne hi hlimit) rfl (stop_advance s source)
        (left_advance hfull source)
  have hsize : ¬ Seal.segmentLength ≤ s.backlog.size := by rwa [Backlog.size_eq_length]
  have hlt := Nat.lt_of_not_le hfull
  cases source with
  | nil =>
    rw [poll_nil h.phase hsize]
    split
    next hshort => exact .last _ _ _ rfl (h.stop_eq hi hlt (by simp [intake, hshort, Emission.fault?])).symm
    next hend =>
      obtain ⟨hitem, hclosed⟩ := h.sealLast_eq hlt hend
      rw [hitem]
      exact .last _ _ _ hclosed (h.stop_eq hi hlt (by simp [intake, hend, Emission.fault?])).symm
  | cons a rest =>
    cases a with
    | pending =>
      rw [poll_pending h.phase hsize]
      refine .on _ _ _ h hi rfl rfl ?_
      simp only [left, octetCount, List.length_cons]
      omega
    | failure reason =>
      rw [poll_failure h.phase hsize]
      exact .last _ _ _ rfl (h.stop_eq hi hlt rfl).symm
    | chunk data =>
      by_cases hover : s.declared < s.received + data.length
      · rw [poll_chunk_of_lt h.phase hsize hover]
        exact .last _ _ _ rfl (h.stop_eq hi hlt (intake_chunk_of_lt hover)).symm
      · rw [poll_chunk_of_le h.phase hsize hover, stop_accept hover]
        exact ((h.accept hover).stopping hi rest).mono (left_accept s data rest)
termination_by source.length

/-! ## A whole run -/

/-- **A run** that is long enough reports the fault at which the stream stops, and no other. -/
theorem Taking.findSome?_fault_polls (h : s.Taking) (hi : s.index ≤ Place.limit) {n : Nat}
    (hn : s.left source < n) : (s.polls n source).findSome? Emission.fault? = s.stop source := by
  induction n generalizing s source with
  | zero => cases hn
  | succ n ih =>
    have hstep := h.stopping hi source
    rw [polls_succ]
    rcases hp : s.poll source with ⟨e, s', rest⟩
    rw [hp] at hstep
    cases hstep with
    | on _ _ _ h' hi' he hstop hleft =>
      have hn' : s'.left rest < n := by omega
      rw [List.findSome?_cons, he, ← hstop]
      exact ih h' hi' hn'
    | last _ _ _ hclosed he =>
      rw [polls_of_closed hclosed, List.findSome?_cons, he,
        Emission.findSome?_fault_replicate_ended]
      cases s.stop source <;> rfl

/-- What a drained stream reports is where it stops. -/
theorem snd_drain {c : SegmentCipher} (hc : c.Lawful) (declared : Nat) (source : List Arrival) :
    ((start c declared).drain source).2 = (start c declared).stop source := by
  have hbound : (start c declared).left source < (start c declared).pollBound source := by
    rw [left, pollBound]
    omega
  exact (taking_start hc).findSome?_fault_polls (Nat.zero_le _) hbound

theorem stop_start (c : SegmentCipher) (declared : Nat) (source : List Arrival) :
    (start c declared).stop source =
      if capacity ≤ (intake declared 0 source).1.length then some .sealing
      else (intake declared 0 source).2 := by
  rw [stop, start, Nat.zero_add]

/-- What is accepted is what the source delivers at first. -/
theorem exists_delivers_intake (declared : Nat) (source : List Arrival) :
    ∃ before rest, source = before ++ rest ∧ Delivers before (intake declared 0 source).1 := by
  rcases hintake : intake declared 0 source with ⟨accepted, fault | f⟩
  · obtain ⟨hd, -⟩ := delivers_of_intake hintake (Nat.zero_le _)
    exact ⟨source, [], (List.append_nil _).symm, hd⟩
  · have hfails := failsWith_of_intake .ended (Nat.zero_le _) hintake
    rw [List.nil_append, List.nil_append] at hfails
    cases hfails with
    | overrun hd _ _ => exact ⟨_, _, rfl, hd⟩
    | truncated hd _ => exact ⟨_, [], (List.append_nil _).symm, hd⟩
    | source hd _ => exact ⟨_, _, rfl, hd⟩

/-- **Which fault a drained stream reports** is settled by its source, whatever the cipher. -/
theorem snd_drain_eq_some {c : SegmentCipher} (hc : c.Lawful) :
    ((start c declared).drain source).2 = some f ↔ Aborts declared source f := by
  rw [snd_drain hc, stop_start]
  constructor
  · intro h
    split at h
    next hcapacity =>
      cases h
      obtain ⟨before, rest, hsource, hd⟩ := exists_delivers_intake declared source
      have hle := @length_intake_le declared 0 source (Nat.zero_le _)
      exact .exhausts hsource hd hcapacity (by rwa [Nat.zero_add] at hle)
    next hcapacity =>
      have hfails := failsWith_of_intake .ended (Nat.zero_le _)
        (show intake declared ([] : Bytes).length source = (_, some f) from Prod.ext rfl h)
      exact .fails hfails (Nat.lt_of_not_le hcapacity)
  · intro h
    cases h with
    | fails hfails hlt =>
      rw [intake_of_failsWith hfails, if_neg (Nat.not_le_of_lt hlt)]
    | @exhausts before rest accepted hsource hd hcapacity hle =>
      subst hsource
      rw [intake_append hd (by rwa [Nat.zero_add]), List.length_append,
        if_pos (Nat.le_add_right_of_le hcapacity)]

end SealStream

end MediaVault
