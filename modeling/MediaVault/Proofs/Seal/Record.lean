/-
What a stream encrypts and what it holds. A poll is told here with a record of
the encryptions that it makes, each with its place and its text; the record
changes nothing of the poll. Between two polls a stream that still reads holds
what it has received and not yet sealed (`Holds`), whatever its source does,
and a poll keeps that, or makes the last encryption, or fails without one.
-/
import MediaVault.Proofs.Seal.Run

namespace MediaVault

/-- What a step comes to, with the encryptions that it makes in their order. -/
abbrev Recorded (α : Type) := α × List (Place × Bytes)

/-- An encryption with its record. -/
def SegmentCipher.encryptRecorded (c : SegmentCipher) (p : Place) (text : Bytes) :
    Recorded Bytes := (c.encrypt p text, [(p, text)])

namespace SealStream

variable {s : SealStream} {source rest : List Arrival}

/-! ## The record -/

/-- A full segment sealed at the next position, with the record of it. -/
def sealFullRecorded (s : SealStream) : Recorded (Emission × SealStream) :=
  let (text, rest) := s.backlog.split Seal.segmentLength
  if s.index = Place.limit then ((.fault .sealing, { s with backlog := rest }.close), [])
  else
    let (sealed, record) := s.cipher.encryptRecorded ⟨s.index, false⟩ text
    ((.segment sealed,
      { s with backlog := rest, emitted := s.emitted + sealed.length, index := s.index + 1 }), record)

/-- The final segment sealed at the next position, with the record of it. -/
def sealLastRecorded (s : SealStream) : Recorded (Emission × SealStream) :=
  let (sealed, record) := s.cipher.encryptRecorded ⟨s.index, true⟩ s.backlog.toBytes
  let emitted := s.emitted + sealed.length
  let s' := { s with backlog := .empty, emitted := emitted }.close
  if emitted = s.sealedLength then ((.segment sealed, s'), record)
  else ((.fault (.sealedLength s.sealedLength emitted), s'), record)

/-- The stream asked once, with a record of what it encrypts. -/
def pollRecorded (s : SealStream) (source : List Arrival) :
    Recorded (Emission × SealStream × List Arrival) :=
  match s.phase with
  | .closed => ((.ended, s, source), [])
  | .draining =>
    let ((e, s'), record) :=
      if Seal.segmentLength ≤ s.backlog.size then s.sealFullRecorded else s.sealLastRecorded
    ((e, s', source), record)
  | .reading =>
    if Seal.segmentLength ≤ s.backlog.size then
      let ((e, s'), record) := s.sealFullRecorded
      ((e, s', source), record)
    else
      match source with
      | [] =>
        if s.received < s.declared then
          ((.fault (.truncated s.declared s.received), s.close, []), [])
        else
          let ((e, s'), record) := { s with phase := .draining }.sealLastRecorded
          ((e, s', []), record)
      | .pending :: rest => ((.pending, s, rest), [])
      | .failure reason :: rest => ((.fault (.source reason), s.close, rest), [])
      | .chunk data :: rest =>
        match s.receive data with
        | .error f => ((.fault f, s.close, rest), [])
        | .ok s' => s'.pollRecorded rest
termination_by source.length

theorem fst_sealFullRecorded (s : SealStream) : s.sealFullRecorded.1 = s.sealFull := by
  unfold sealFullRecorded sealFull SegmentCipher.encryptRecorded
  simp only
  split <;> rfl

theorem fst_sealLastRecorded (s : SealStream) : s.sealLastRecorded.1 = s.sealLast := by
  unfold sealLastRecorded sealLast SegmentCipher.encryptRecorded
  simp only
  split <;> rfl

/-- The final segment is encrypted, given out or not, and the stream has ended. -/
theorem sealLastRecorded_eq (s : SealStream) :
    ∃ e s', s.sealLastRecorded = ((e, s'), [(⟨s.index, true⟩, s.backlog.toBytes)]) ∧
      s'.phase = .closed ∧
      (e = .segment (s.cipher.encrypt ⟨s.index, true⟩ s.backlog.toBytes) ∨ ∃ f, e = .fault f) := by
  unfold sealLastRecorded SegmentCipher.encryptRecorded
  simp only
  split
  · exact ⟨_, _, rfl, rfl, .inl rfl⟩
  · exact ⟨_, _, rfl, rfl, .inr ⟨_, rfl⟩⟩

/-- The record changes nothing. -/
theorem fst_pollRecorded (s : SealStream) (source : List Arrival) :
    (s.pollRecorded source).1 = s.poll source := by
  fun_induction pollRecorded s source with
  | case1 s source h => rw [poll_of_closed h]
  | case2 s source h e s' record hitem =>
    rw [poll_of_draining h]
    split at hitem
    next hf =>
      rw [if_pos hf, ← fst_sealFullRecorded, hitem]
    next hf =>
      rw [if_neg hf, ← fst_sealLastRecorded, hitem]
  | case3 s source h hf e s' record hitem =>
    rw [poll_of_full h hf, ← fst_sealFullRecorded, hitem]
  | case4 s h hf hlt =>
    rw [poll_nil h hf, if_pos hlt]
  | case5 s h hf hlt e s' record hitem =>
    rw [poll_nil h hf, if_neg hlt, ← fst_sealLastRecorded, hitem]
  | case6 s h hf rest => rw [poll_pending h hf]
  | case7 s h hf reason rest => rw [poll_failure h hf]
  | case8 s h hf data rest f hreceive =>
    rw [poll, h]
    simp only [hf, if_false, hreceive]
  | case9 s h hf data rest s' hreceive ih =>
    rw [poll, h]
    simp only [hf, if_false, hreceive, ih]

/-- The encryptions that so many polls make, in their order. -/
def sealings : Nat → SealStream → List Arrival → List (Place × Bytes)
  | 0, _, _ => []
  | n + 1, s, source =>
    (s.pollRecorded source).2 ++ sealings n (s.poll source).2.1 (s.poll source).2.2

theorem sealings_succ (n : Nat) (s : SealStream) (source : List Arrival) :
    s.sealings (n + 1) source =
      (s.pollRecorded source).2 ++ (s.poll source).2.1.sealings n (s.poll source).2.2 := rfl

/-- More polls encrypt what the stream encrypts from where the first ones stopped. -/
theorem sealings_add (m n : Nat) (s : SealStream) (source : List Arrival) :
    s.sealings (m + n) source =
      s.sealings m source ++ (s.after m source).1.sealings n (s.after m source).2 := by
  induction m generalizing s source with
  | zero => rw [Nat.zero_add]; rfl
  | succ m ih =>
    rw [Nat.add_right_comm, sealings_succ, ih, sealings_succ, List.append_assoc, after]

theorem pollRecorded_of_closed (h : s.phase = .closed) :
    s.pollRecorded source = ((.ended, s, source), []) := by
  unfold pollRecorded
  simp only [h]

/-- A stream that has ended encrypts nothing more. -/
theorem sealings_of_closed (h : s.phase = .closed) (n : Nat) : s.sealings n source = [] := by
  induction n with
  | zero => rfl
  | succ n ih =>
    rw [sealings_succ, pollRecorded_of_closed h, poll_of_closed h, ih, List.append_nil]

/-! ## What a stream holds -/

/-- A stream that still reads, with `rest` to come from its source: what came before that has
delivered `got`, of which the segments before `s.index` are sealed and the octets after them are
held. -/
structure Holds (c : SegmentCipher) (declared : Nat) (source : List Arrival) (s : SealStream)
    (rest : List Arrival) (got : Bytes) : Prop where
  phase : s.phase = .reading
  cipher_eq : s.cipher = c
  declared_eq : s.declared = declared
  taken : ∃ before, source = before ++ rest ∧ Delivers before got
  received : s.received = got.length
  within : got.length ≤ declared
  sealed : s.index * Seal.segmentLength ≤ got.length
  held : s.backlog.toBytes = got.drop (s.index * Seal.segmentLength)
  counted : s.index ≤ Place.limit

/-- What one poll of a stream that holds octets before position `index` may do and encrypt. -/
inductive Sealing (c : SegmentCipher) (declared : Nat) (source : List Arrival) (index : Nat) :
    Recorded (Emission × SealStream × List Arrival) → Prop
  | wait {s rest got} : Holds c declared source s rest got → s.index = index →
      Sealing c declared source index ((.pending, s, rest), [])
  | full {text s rest got} : index < Place.limit → text.length = Seal.segmentLength →
      Holds c declared source s rest got → s.index = index + 1 →
      Sealing c declared source index
        ((.segment (c.encrypt ⟨index, false⟩ text), s, rest), [(⟨index, false⟩, text)])
  | last {e text s got} : index ≤ Place.limit → text.length < Seal.segmentLength →
      Delivers source got → got.length = declared → s.phase = .closed →
      (e = .segment (c.encrypt ⟨index, true⟩ text) ∨ ∃ f, e = .fault f) →
      Sealing c declared source index ((e, s, []), [(⟨index, true⟩, text)])
  | failed {f s rest} : s.phase = .closed →
      Sealing c declared source index ((.fault f, s, rest), [])

variable {c : SegmentCipher} {declared : Nat} {got : Bytes}

theorem holds_start (c : SegmentCipher) (declared : Nat) (source : List Arrival) :
    Holds c declared source (start c declared) source [] where
  phase := rfl
  cipher_eq := rfl
  declared_eq := rfl
  taken := ⟨[], rfl, .ended⟩
  received := rfl
  within := Nat.zero_le _
  sealed := by simp [start]
  held := by simp [start]
  counted := Nat.zero_le _

namespace Holds

theorem pending (h : Holds c declared source s (.pending :: rest) got) :
    Holds c declared source s rest got :=
  { h with
    taken := by
      obtain ⟨before, hsource, hd⟩ := h.taken
      refine ⟨before ++ [.pending], by rw [hsource, List.append_assoc]; rfl, ?_⟩
      have := hd.append (.pending .ended)
      rwa [List.append_nil] at this }

theorem accept {data : Bytes} (h : Holds c declared source s (.chunk data :: rest) got)
    (hle : got.length + data.length ≤ declared) :
    Holds c declared source (s.accept data) rest (got ++ data) :=
  { h with
    taken := by
      obtain ⟨before, hsource, hd⟩ := h.taken
      exact ⟨before ++ [.chunk data], by rw [hsource, List.append_assoc]; rfl,
        hd.append (.single data)⟩
    received := by rw [SealStream.accept, h.received, List.length_append]
    within := by rwa [List.length_append]
    sealed := by
      rw [List.length_append]
      exact Nat.le_add_right_of_le h.sealed
    held := by
      rw [SealStream.accept, Backlog.toBytes_push, h.held, List.drop_append_of_le_length h.sealed] }

/-- The next segment is sealed; how many octets it was sealed to plays no part. -/
theorem advance (h : Holds c declared source s rest got)
    (hf : Seal.segmentLength ≤ s.backlog.toBytes.length) (hi : s.index ≠ Place.limit)
    (emitted : Nat) :
    Holds c declared source
      { s with
        backlog := (s.backlog.split Seal.segmentLength).2, emitted := emitted
        index := s.index + 1 } rest got :=
  { h with
    sealed := by
      have := h.sealed
      rw [h.held, List.length_drop] at hf
      simp only [Nat.succ_mul]
      omega
    held := by simp only [Backlog.toBytes_snd_split, h.held, List.drop_drop, Nat.succ_mul]
    counted := Nat.lt_of_le_of_ne h.counted hi }

/-- **One poll** of a stream that still reads waits, or makes the next encryption, or makes the last
one after its source has delivered all that was declared, or fails without one. -/
theorem step {s : SealStream} {rest : List Arrival} {got : Bytes}
    (h : Holds c declared source s rest got) :
    Sealing c declared source s.index (s.pollRecorded rest) := by
  have hc := h.cipher_eq
  unfold pollRecorded
  simp only [h.phase]
  by_cases hfull : Seal.segmentLength ≤ s.backlog.size
  · have hf : Seal.segmentLength ≤ s.backlog.toBytes.length := by rwa [← Backlog.size_eq_length]
    rw [if_pos hfull, sealFullRecorded]
    by_cases hi : s.index = Place.limit
    · simp only [hi, if_true]
      exact .failed rfl
    · simp only [hi, if_false, SegmentCipher.encryptRecorded, Backlog.fst_split]
      rw [← hc] at h ⊢
      refine .full (Nat.lt_of_le_of_ne h.counted hi) ?_ (h.advance hf hi _) rfl
      rw [List.length_take, Nat.min_eq_left hf]
  rw [if_neg hfull]
  have hlt : s.backlog.toBytes.length < Seal.segmentLength := by
    rw [← Backlog.size_eq_length]
    exact Nat.lt_of_not_le hfull
  cases rest with
  | nil =>
    by_cases hshort : s.received < s.declared
    · simp only [hshort, if_true]
      exact .failed rfl
    · obtain ⟨before, hsource, hd⟩ := h.taken
      rw [List.append_nil] at hsource
      subst hsource
      have hall : got.length = declared := by
        have := h.within
        rw [h.received, h.declared_eq] at hshort
        omega
      obtain ⟨e, s', hlast, hclosed, hitem⟩ :=
        sealLastRecorded_eq { s with phase := .draining }
      simp only [hshort, if_false, hlast]
      exact .last h.counted hlt hd hall hclosed (hc ▸ hitem)
  | cons a rest =>
    cases a with
    | pending => exact .wait h.pending rfl
    | failure reason => exact .failed rfl
    | chunk data =>
      by_cases hover : s.declared < s.received + data.length
      · simp only [receive, hover, if_true]
        exact .failed rfl
      · have hle : got.length + data.length ≤ declared := by
          rw [h.received, h.declared_eq] at hover
          exact Nat.le_of_not_lt hover
        simp only [receive, hover, if_false]
        -- The same poll goes on with the rest of the source.
        exact (h.accept hle).step
termination_by rest.length

end Holds

/-! ## What a run encrypts -/

/-- Full segments, encrypted one after the other from the first position on. -/
structure Counted (record : List (Place × Bytes)) : Prop where
  places : record.map (·.1) = (List.range record.length).map (⟨·, false⟩)
  full : ∀ x ∈ record, x.2.length = Seal.segmentLength
  counted : record.length ≤ Place.limit

theorem Counted.append {record : List (Place × Bytes)} {text : Bytes} (h : Counted record)
    (hlt : record.length < Place.limit) (hl : text.length = Seal.segmentLength) :
    Counted (record ++ [(⟨record.length, false⟩, text)]) where
  places := by
    rw [List.map_append, h.places, List.length_append, List.length_singleton, List.range_succ,
      List.map_append]
    rfl
  full x hx := by
    rcases List.mem_append.mp hx with hx | hx
    · exact h.full x hx
    · rw [List.mem_singleton.mp hx, hl]
  counted := by rwa [List.length_append, List.length_singleton]

/-- How a run stands that has answered `items` and made the encryptions of `record`: its stream
still reads, or it failed before its final segment, or it encrypted that one when nothing was left
of its source. -/
inductive Progress (c : SegmentCipher) (declared : Nat) (source : List Arrival) :
    List Emission → List (Place × Bytes) → SealStream × List Arrival → Prop
  | reading {items record s rest got} : Holds c declared source s rest got → Counted record →
      record.length = s.index →
      items.filterMap Emission.segment? = (c.encryptAll record).map (·.2) →
      (∀ f, .fault f ∉ items) → Progress c declared source items record (s, rest)
  | failed {items record s rest} : s.phase = .closed → Counted record →
      items.filterMap Emission.segment? = (c.encryptAll record).map (·.2) →
      Progress c declared source items record (s, rest)
  | done {items record text s got} : s.phase = .closed → Counted record →
      text.length < Seal.segmentLength → Delivers source got → got.length = declared →
      items.filterMap Emission.segment? <+:
        (c.encryptAll (record ++ [(⟨record.length, true⟩, text)])).map (·.2) →
      Progress c declared source items (record ++ [(⟨record.length, true⟩, text)]) (s, [])

namespace Progress

variable {items : List Emission} {record : List (Place × Bytes)} {state : SealStream × List Arrival}

theorem step (h : Progress c declared source items record (s, rest)) :
    Progress c declared source (items ++ [(s.poll rest).1]) (record ++ (s.pollRecorded rest).2)
      (s.poll rest).2 := by
  cases h with
  | reading hold hcounted hlen hitems hsound =>
    have hstep := hold.step
    rw [← fst_pollRecorded]
    generalize s.pollRecorded rest = polled at hstep
    -- One case for each thing that a poll may do; only a segment lengthens the record.
    cases hstep with
    | wait hold' hindex =>
      rw [List.append_nil]
      refine .reading hold' hcounted (hlen.trans hindex.symm) ?_ (by simpa using hsound)
      rw [Emission.filterMap_segment?_concat rfl, hitems]
    | full hlt hl hold' hindex =>
      rw [← hlen] at hlt ⊢
      refine .reading hold' (hcounted.append hlt hl) ?_ ?_ ?_
      · rw [hindex, List.length_append, List.length_singleton, hlen]
      · simp [hitems, SegmentCipher.encryptAll, Emission.segment?]
      · simpa using hsound
    | last _ hl hd hall hclosed hitem =>
      rw [← hlen] at hitem ⊢
      refine .done hclosed hcounted hl hd hall ?_
      obtain rfl | ⟨f, rfl⟩ := hitem
      · simp [hitems, SegmentCipher.encryptAll, Emission.segment?]
      · rw [Emission.filterMap_segment?_concat rfl, hitems]
        simp [SegmentCipher.encryptAll]
    | failed hclosed =>
      rw [List.append_nil]
      refine .failed hclosed hcounted ?_
      rw [Emission.filterMap_segment?_concat rfl, hitems]
  | failed hclosed hcounted hitems =>
    rw [poll_of_closed hclosed, pollRecorded_of_closed hclosed, List.append_nil]
    refine .failed hclosed hcounted ?_
    rw [Emission.filterMap_segment?_concat rfl, hitems]
  | done hclosed hcounted hl hd hall hitems =>
    rw [poll_of_closed hclosed, pollRecorded_of_closed hclosed, List.append_nil]
    refine .done hclosed hcounted hl hd hall ?_
    rwa [Emission.filterMap_segment?_concat rfl]

theorem run (h : Progress c declared source items record (s, rest)) (n : Nat) :
    Progress c declared source (items ++ s.polls n rest) (record ++ s.sealings n rest)
      (s.after n rest) := by
  induction n generalizing items record s rest with
  | zero => simpa [SealStream.polls, sealings, after] using h
  | succ n ih =>
    have hmore := ih h.step
    rwa [List.append_assoc, List.append_assoc] at hmore

end Progress

/-- **Every run** stands so, after any number of polls and whatever its source does. -/
theorem progress_start (c : SegmentCipher) (declared : Nat) (source : List Arrival) (n : Nat) :
    Progress c declared source ((start c declared).polls n source)
      ((start c declared).sealings n source) ((start c declared).after n source) := by
  have hnone : Counted [] := ⟨rfl, by simp, Nat.zero_le _⟩
  have hstart : Progress c declared source [] [] (start c declared, source) :=
    .reading (holds_start c declared source) hnone rfl rfl (by simp)
  simpa using hstart.run n

end SealStream

end MediaVault
