/-
The run of a sealing stream. What a stream that still reads will answer is
settled by what it holds and what its source will deliver: `owed` is that
list, without the waits. A poll waits, or gives the first answer owed and
leaves the others owed, or gives the last one and closes the stream, so a run
gives exactly what is owed and then says that it has ended.
-/
import MediaVault.Proofs.Seal.Intake
import MediaVault.Proofs.Seal.Segments

namespace MediaVault

namespace Emission

/-- The octets that an answer gives out. -/
def octets : Emission → Bytes
  | segment sealed => sealed
  | _ => []

/-- The sealed segment that an answer is. -/
def segment? : Emission → Option Bytes
  | segment sealed => some sealed
  | _ => none

/-- The fault that an answer reports. -/
def fault? : Emission → Option SealFault
  | fault f => some f
  | _ => none

/-- An answer that is no segment adds none. -/
theorem filterMap_segment?_concat {e : Emission} (h : e.segment? = none) (items : List Emission) :
    (items ++ [e]).filterMap segment? = items.filterMap segment? := by
  rw [List.filterMap_append, List.filterMap_cons_none h, List.filterMap_nil, List.append_nil]

/-- Sealed segments as answers. -/
def ofSegments (parts : List (Place × Bytes)) : List Emission := parts.map fun x => .segment x.2

theorem flatMap_octets_ofSegments (parts : List (Place × Bytes)) :
    (ofSegments parts).flatMap octets = Seal.joined parts := by
  simp [ofSegments, Seal.joined, List.flatMap_map, octets]

/-- Waits give nothing out and report nothing. -/
theorem flatMap_octets_filter (items : List Emission) :
    (items.filter (· ≠ .pending)).flatMap octets = items.flatMap octets := by
  induction items with
  | nil => rfl
  | cons e items ih =>
    by_cases h : e = .pending
    · subst h
      rw [List.filter_cons_of_neg (by simp), ih]
      rfl
    · rw [List.filter_cons_of_pos (by simpa using h), List.flatMap_cons, List.flatMap_cons, ih]

theorem findSome?_fault_filter (items : List Emission) :
    (items.filter (· ≠ .pending)).findSome? fault? = items.findSome? fault? := by
  have hsilent : ∀ e : Emission, (if decide (e ≠ .pending) then e.fault? else none) = e.fault? := by
    intro e
    cases e <;> rfl
  simp only [← List.head?_filterMap, List.filterMap_filter, hsilent]

theorem flatMap_octets_replicate_ended (n : Nat) :
    (List.replicate n Emission.ended).flatMap octets = [] := by
  simp [List.flatMap_replicate, octets]

theorem findSome?_fault_replicate_ended (n : Nat) :
    (List.replicate n Emission.ended).findSome? fault? = none := by
  simp [List.findSome?_replicate, fault?]

theorem findSome?_fault_ofSegments (parts : List (Place × Bytes)) :
    (ofSegments parts).findSome? fault? = none := by
  rw [List.findSome?_eq_none_iff]
  intro e he
  obtain ⟨x, _, rfl⟩ := List.mem_map.mp he
  rfl

end Emission

namespace SegmentCipher

variable {c : SegmentCipher}

/-- The answers for a text that is received and then ended by a fault or by its end. -/
def answers (c : SegmentCipher) (index : Nat) (text : Bytes) : Option SealFault → List Emission
  | some f => Emission.ofSegments (c.encryptAll (Seal.fullSegments index text)) ++ [.fault f]
  | none => Emission.ofSegments (c.sealedSegments index text)

theorem answers_of_le {index : Nat} {text : Bytes} (h : Seal.segmentLength ≤ text.length)
    (f : Option SealFault) :
    c.answers index text f =
      .segment (c.encrypt ⟨index, false⟩ (text.take Seal.segmentLength)) ::
        c.answers (index + 1) (text.drop Seal.segmentLength) f := by
  cases f with
  | some f => simp [answers, Emission.ofSegments, Seal.fullSegments_of_le h]
  | none => simp [answers, Emission.ofSegments, sealedSegments_of_le h]

theorem answers_some_of_lt {index : Nat} {text : Bytes} (h : text.length < Seal.segmentLength)
    (f : SealFault) : c.answers index text (some f) = [.fault f] := by
  simp [answers, Emission.ofSegments, Seal.fullSegments_of_lt h]

theorem answers_none_of_lt {index : Nat} {text : Bytes} (h : text.length < Seal.segmentLength) :
    c.answers index text none = [.segment (c.encrypt ⟨index, true⟩ text)] := by
  simp [answers, Emission.ofSegments, sealedSegments_of_lt h]

theorem length_answers (index : Nat) (text : Bytes) (f : Option SealFault) :
    (c.answers index text f).length = text.length / Seal.segmentLength + 1 := by
  cases f <;>
    simp [answers, Emission.ofSegments, sealedSegments, encryptAll, Seal.segments, Seal.fullSegments]

theorem flatMap_octets_answers_none (index : Nat) (text : Bytes) :
    (c.answers index text none).flatMap Emission.octets = c.sealFrom index text :=
  Emission.flatMap_octets_ofSegments _

theorem flatMap_octets_answers_some (index : Nat) (text : Bytes) (f : SealFault) :
    (c.answers index text (some f)).flatMap Emission.octets =
      Seal.joined (c.encryptAll (Seal.fullSegments index text)) := by
  rw [answers, List.flatMap_append, Emission.flatMap_octets_ofSegments]
  exact List.append_nil _

/-- Only the fault that ends a text is among its answers. -/
theorem fault_mem_answers {index : Nat} {text : Bytes} {fault : Option SealFault} {f : SealFault} :
    .fault f ∈ c.answers index text fault ↔ fault = some f := by
  cases fault <;> simp [answers, Emission.ofSegments, eq_comm]

theorem findSome?_fault_answers (index : Nat) (text : Bytes) (f : Option SealFault) :
    (c.answers index text f).findSome? Emission.fault? = f := by
  cases f with
  | none => exact Emission.findSome?_fault_ofSegments _
  | some f =>
    rw [answers, List.findSome?_append, Emission.findSome?_fault_ofSegments]
    rfl

end SegmentCipher

namespace SealStream

variable {s : SealStream} {source rest : List Arrival}

/-! ## One poll, case by case -/

theorem poll_of_closed (h : s.phase = .closed) : s.poll source = (.ended, s, source) := by
  unfold poll
  simp only [h]

theorem poll_of_full (h : s.phase = .reading) (hf : Seal.segmentLength ≤ s.backlog.size) :
    s.poll source = (s.sealFull.1, s.sealFull.2, source) := by
  unfold poll
  simp only [h, hf, if_true]

/-- A stream that drains seals what it holds, whatever its source does. -/
theorem poll_of_draining (h : s.phase = .draining) (source : List Arrival) :
    s.poll source =
      if Seal.segmentLength ≤ s.backlog.size then (s.sealFull.1, s.sealFull.2, source)
      else (s.sealLast.1, s.sealLast.2, source) := by
  unfold poll
  simp only [h]
  split <;> rfl

theorem poll_nil (h : s.phase = .reading) (hf : ¬ Seal.segmentLength ≤ s.backlog.size) :
    s.poll [] =
      if s.received < s.declared then (.fault (.truncated s.declared s.received), s.close, [])
      else ({ s with phase := .draining }.sealLast.1, { s with phase := .draining }.sealLast.2, []) := by
  rw [poll, h]
  simp only [hf, if_false]

theorem poll_pending (h : s.phase = .reading) (hf : ¬ Seal.segmentLength ≤ s.backlog.size) :
    s.poll (.pending :: rest) = (.pending, s, rest) := by
  rw [poll, h]
  simp only [hf, if_false]

theorem poll_failure (h : s.phase = .reading) (hf : ¬ Seal.segmentLength ≤ s.backlog.size)
    (reason : String) :
    s.poll (.failure reason :: rest) = (.fault (.source reason), s.close, rest) := by
  rw [poll, h]
  simp only [hf, if_false]

theorem poll_chunk_of_lt (h : s.phase = .reading) (hf : ¬ Seal.segmentLength ≤ s.backlog.size)
    {data : Bytes} (hlt : s.declared < s.received + data.length) :
    s.poll (.chunk data :: rest) =
      (.fault (.overrun s.declared (s.received + data.length)), s.close, rest) := by
  rw [poll, h]
  simp only [hf, if_false, receive, hlt, if_true]

/-- A stream with a chunk more. -/
def accept (s : SealStream) (data : Bytes) : SealStream :=
  { s with backlog := s.backlog.push data, received := s.received + data.length }

theorem poll_chunk_of_le (h : s.phase = .reading) (hf : ¬ Seal.segmentLength ≤ s.backlog.size)
    {data : Bytes} (hle : ¬ s.declared < s.received + data.length) :
    s.poll (.chunk data :: rest) = (s.accept data).poll rest := by
  rw [poll, h]
  simp only [hf, if_false, receive, hle, accept]

/-- A stream whose first full segment was given out. -/
def advance (s : SealStream) : SealStream :=
  { s with
    backlog := (s.backlog.split Seal.segmentLength).2
    emitted := s.emitted + Seal.sealedSegmentLength
    index := s.index + 1 }

/-! ## What is owed -/

/-- A stream that takes octets in: all that it received it has sealed in full segments or holds. -/
structure Taking (s : SealStream) : Prop where
  phase : s.phase = .reading
  lawful : s.cipher.Lawful
  received : s.received = s.index * Seal.segmentLength + s.backlog.toBytes.length
  emitted : s.emitted = s.index * Seal.sealedSegmentLength
  within : s.received ≤ s.declared

theorem taking_start {c : SegmentCipher} {declared : Nat} (hc : c.Lawful) :
    (start c declared).Taking where
  phase := rfl
  lawful := hc
  received := by simp [start]
  emitted := by simp [start]
  within := Nat.zero_le _

namespace Taking

theorem accept (h : s.Taking) {data : Bytes} (hle : ¬ s.declared < s.received + data.length) :
    (s.accept data).Taking where
  phase := h.phase
  lawful := h.lawful
  received := by
    have := h.received
    simp only [SealStream.accept, Backlog.toBytes_push, List.length_append]
    omega
  emitted := h.emitted
  within := Nat.le_of_not_lt hle

theorem advance (h : s.Taking) (hf : Seal.segmentLength ≤ s.backlog.toBytes.length) :
    s.advance.Taking where
  phase := h.phase
  lawful := h.lawful
  received := by
    have := h.received
    simp only [SealStream.advance, Backlog.toBytes_snd_split, List.length_drop, Nat.succ_mul]
    omega
  emitted := by
    have := h.emitted
    simp only [SealStream.advance, Nat.succ_mul]
    omega
  within := h.within

theorem sealFull_eq (h : s.Taking) (hf : Seal.segmentLength ≤ s.backlog.toBytes.length)
    (hi : s.index ≠ Place.limit) :
    s.sealFull =
      (.segment (s.cipher.encrypt ⟨s.index, false⟩ (s.backlog.toBytes.take Seal.segmentLength)),
        s.advance) := by
  have hlen := h.lawful.length_encrypt_take ⟨s.index, false⟩ hf
  rw [SealStream.sealFull]
  simp only [Backlog.split, hi, if_false, hlen, SealStream.advance]

/-- A source that ended with all that was declared leaves a final segment of the right length. -/
theorem emitted_add_last (h : s.Taking) (hf : s.backlog.toBytes.length < Seal.segmentLength)
    (hend : ¬ s.received < s.declared) :
    s.emitted + (s.cipher.encrypt ⟨s.index, true⟩ s.backlog.toBytes).length = s.sealedLength := by
  have hdeclared : s.declared = s.index * Seal.segmentLength + s.backlog.toBytes.length := by
    have := h.received
    have := h.within
    omega
  have hcount : s.declared / Seal.segmentLength = s.index := by
    rw [hdeclared, Nat.add_comm, Nat.add_mul_div_right _ _ Seal.segmentLength_pos,
      Nat.div_eq_of_lt hf, Nat.zero_add]
  rw [h.emitted, h.lawful.length_encrypt, SealStream.sealedLength, Seal.sealedLength,
    Seal.segmentCount, hcount, hdeclared, Seal.sealedSegmentLength, Nat.mul_add, Nat.succ_mul]
  omega

theorem sealLast_eq (h : s.Taking) (hf : s.backlog.toBytes.length < Seal.segmentLength)
    (hend : ¬ s.received < s.declared) :
    ({ s with phase := .draining } : SealStream).sealLast.1 =
        .segment (s.cipher.encrypt ⟨s.index, true⟩ s.backlog.toBytes) ∧
      ({ s with phase := .draining } : SealStream).sealLast.2.phase = .closed := by
  have hlen : s.emitted + (s.cipher.encrypt ⟨s.index, true⟩ s.backlog.toBytes).length =
      ({ s with phase := .draining } : SealStream).sealedLength := h.emitted_add_last hf hend
  constructor <;> simp only [sealLast, hlen, if_true, close]

end Taking

/-- A stream that takes octets in and was told of no more than it can count. -/
structure Reading (s : SealStream) : Prop where
  phase : s.phase = .reading
  lawful : s.cipher.Lawful
  counted : s.declared / Seal.segmentLength ≤ Place.limit
  received : s.received = s.index * Seal.segmentLength + s.backlog.toBytes.length
  emitted : s.emitted = s.index * Seal.sealedSegmentLength
  within : s.received ≤ s.declared

/-- The answers that a reading stream still owes, without its waits. -/
def owed (s : SealStream) (source : List Arrival) : List Emission :=
  s.cipher.answers s.index (s.backlog.toBytes ++ (intake s.declared s.received source).1)
    (intake s.declared s.received source).2

/-- How often a reading stream will wait. -/
def delays (s : SealStream) (source : List Arrival) : Nat := waits s.declared s.received source

/-- What one poll may do for a stream that owes `owed` and waits `delays` times. -/
inductive Step (owed : List Emission) (delays : Nat) : Emission × SealStream × List Arrival → Prop
  | wait (s : SealStream) (rest : List Arrival) : s.Reading → s.owed rest = owed →
      s.delays rest + 1 = delays → Step owed delays (.pending, s, rest)
  | give (sealed : Bytes) (s : SealStream) (rest : List Arrival) : s.Reading →
      .segment sealed :: s.owed rest = owed → s.delays rest = delays →
      Step owed delays (.segment sealed, s, rest)
  | finish (e : Emission) (s : SealStream) (rest : List Arrival) : s.phase = .closed →
      [e] = owed → delays = 0 → e ≠ .pending → e ≠ .ended → Step owed delays (e, s, rest)

theorem Reading.taking (h : s.Reading) : s.Taking :=
  ⟨h.phase, h.lawful, h.received, h.emitted, h.within⟩

theorem Taking.reading (h : s.Taking) (hr : s.declared / Seal.segmentLength ≤ Place.limit) :
    s.Reading :=
  ⟨h.phase, h.lawful, hr, h.received, h.emitted, h.within⟩

theorem reading_start {c : SegmentCipher} {declared : Nat} (hc : c.Lawful)
    (hr : declared / Seal.segmentLength ≤ Place.limit) : (start c declared).Reading :=
  (taking_start hc).reading hr

namespace Reading

theorem accept (h : s.Reading) {data : Bytes} (hle : ¬ s.declared < s.received + data.length) :
    (s.accept data).Reading :=
  (h.taking.accept hle).reading h.counted

/-- A full segment that waits is still within the positions that can be counted. -/
theorem index_ne_limit (h : s.Reading) (hf : Seal.segmentLength ≤ s.backlog.toBytes.length) :
    s.index ≠ Place.limit := by
  have hmul : (s.index + 1) * Seal.segmentLength ≤ s.declared := by
    have := h.received
    have := h.within
    rw [Nat.succ_mul]
    omega
  have := (Nat.le_div_iff_mul_le Seal.segmentLength_pos).mpr hmul
  have := h.counted
  omega

theorem advance (h : s.Reading) (hf : Seal.segmentLength ≤ s.backlog.toBytes.length) :
    s.advance.Reading :=
  (h.taking.advance hf).reading h.counted

end Reading

theorem owed_of_full (hf : Seal.segmentLength ≤ s.backlog.toBytes.length) (source : List Arrival) :
    s.owed source =
      .segment (s.cipher.encrypt ⟨s.index, false⟩ (s.backlog.toBytes.take Seal.segmentLength)) ::
        s.advance.owed source := by
  rw [owed, SegmentCipher.answers_of_le (by rw [List.length_append]; omega),
    List.take_append_of_le_length hf, List.drop_append_of_le_length hf]
  simp only [owed, advance, Backlog.toBytes_snd_split]

theorem owed_chunk {data : Bytes} (hle : ¬ s.declared < s.received + data.length) :
    s.owed (.chunk data :: rest) = (s.accept data).owed rest := by
  simp only [owed, intake_chunk_of_le hle, accept, Backlog.toBytes_push, List.append_assoc]

/-- A fault that the source is met with at once is all that is owed. -/
theorem owed_of_fault (hf : s.backlog.toBytes.length < Seal.segmentLength) {f : SealFault}
    (h : intake s.declared s.received source = ([], some f)) : s.owed source = [.fault f] := by
  rw [owed, h, List.append_nil, SegmentCipher.answers_some_of_lt hf]

theorem delays_chunk {data : Bytes} (hle : ¬ s.declared < s.received + data.length) :
    s.delays (.chunk data :: rest) = (s.accept data).delays rest := by
  simp only [delays, waits, hle, if_false, accept]

/-- **One poll** of a reading stream waits, or gives the first answer that is owed, or gives the
only one and closes the stream. -/
theorem Reading.step {s : SealStream} (h : s.Reading) (source : List Arrival) :
    Step (s.owed source) (s.delays source) (s.poll source) := by
  by_cases hfull : Seal.segmentLength ≤ s.backlog.toBytes.length
  · rw [poll_of_full h.phase (by rwa [Backlog.size_eq_length]), h.taking.sealFull_eq hfull (h.index_ne_limit hfull)]
    exact .give _ _ _ (h.advance hfull) (owed_of_full hfull source).symm rfl
  have hsize : ¬ Seal.segmentLength ≤ s.backlog.size := by rwa [Backlog.size_eq_length]
  have hlt := Nat.lt_of_not_le hfull
  cases source with
  | nil =>
    rw [poll_nil h.phase hsize]
    split
    next hshort =>
      exact .finish _ _ _ rfl (owed_of_fault hlt (by simp [intake, hshort])).symm rfl (by simp) (by simp)
    next hend =>
      obtain ⟨hitem, hclosed⟩ := h.taking.sealLast_eq hlt hend
      rw [hitem]
      refine .finish _ _ _ hclosed ?_ rfl (by simp) (by simp)
      simp only [owed, intake, hend, if_false, List.append_nil, SegmentCipher.answers_none_of_lt hlt]
  | cons a rest =>
    cases a with
    | pending =>
      rw [poll_pending h.phase hsize]
      exact .wait _ _ h rfl rfl
    | failure reason =>
      rw [poll_failure h.phase hsize]
      exact .finish _ _ _ rfl (owed_of_fault hlt rfl).symm rfl (by simp) (by simp)
    | chunk data =>
      by_cases hover : s.declared < s.received + data.length
      · rw [poll_chunk_of_lt h.phase hsize hover]
        refine .finish _ _ _ rfl (owed_of_fault hlt (intake_chunk_of_lt hover)).symm ?_
          (by simp) (by simp)
        simp only [delays, waits, hover, if_true]
      · rw [poll_chunk_of_le h.phase hsize hover, owed_chunk hover, delays_chunk hover]
        exact (h.accept hover).step rest
termination_by source.length

/-! ## Many polls -/

theorem polls_succ (n : Nat) (s : SealStream) (source : List Arrival) :
    s.polls (n + 1) source =
      (s.poll source).1 :: (s.poll source).2.1.polls n (s.poll source).2.2 := rfl

/-- More polls go on where the first ones stopped. -/
theorem polls_add (m n : Nat) (s : SealStream) (source : List Arrival) :
    s.polls (m + n) source =
      s.polls m source ++ (s.after m source).1.polls n (s.after m source).2 := by
  induction m generalizing s source with
  | zero => rw [Nat.zero_add]; rfl
  | succ m ih => rw [Nat.add_right_comm, polls_succ, ih, polls_succ, List.cons_append, after]

theorem polls_of_closed (h : s.phase = .closed) (n : Nat) :
    s.polls n source = List.replicate n .ended := by
  induction n with
  | zero => rfl
  | succ n ih => rw [polls_succ, poll_of_closed h, ih, List.replicate_succ]

theorem length_owed (s : SealStream) (source : List Arrival) :
    (s.owed source).length =
      (s.backlog.toBytes ++ (intake s.declared s.received source).1).length / Seal.segmentLength + 1 :=
  SegmentCipher.length_answers _ _ _

/-- Asked again and again, the stream gives these items, waits so many times before the last of
them, and after that has ended. -/
def RunsTo (s : SealStream) (source : List Arrival) (items : List Emission) (waits : Nat) : Prop :=
  ∃ before last, before.filter (· ≠ .pending) ++ [last] = items ∧ before.count .pending = waits ∧
    ∀ n, s.polls (before.length + 1 + n) source = before ++ last :: List.replicate n .ended

/-- A run begins with what its first poll answers. -/
theorem RunsTo.cons {e : Emission} {s' : SealStream} {items : List Emission} {waits : Nat}
    (hp : s.poll source = (e, s', rest)) (h : s'.RunsTo rest items waits) :
    s.RunsTo source (if e = .pending then items else e :: items)
      (waits + if e = .pending then 1 else 0) := by
  obtain ⟨before, last, rfl, rfl, hrun⟩ := h
  refine ⟨e :: before, last, ?_, ?_, fun n => ?_⟩
  · split
    next he => rw [List.filter_cons_of_neg (by simpa using he)]
    next he => rw [List.filter_cons_of_pos (by simpa using he), List.cons_append]
  · simp only [List.count_cons, beq_iff_eq]
  · have hlen : (e :: before).length + 1 + n = (before.length + 1 + n) + 1 := by
      rw [List.length_cons]
      omega
    rw [hlen, polls_succ, hp, hrun, List.cons_append]

/-- **A run** waits as often as its source makes it wait, gives all answers that are owed in their
order, and for the rest of it has ended. -/
theorem Reading.runsTo {s : SealStream} (h : s.Reading) (source : List Arrival) :
    s.RunsTo source (s.owed source) (s.delays source) := by
  generalize hm : s.delays source + (s.owed source).length = m
  induction m generalizing s source with
  | zero =>
    rw [length_owed] at hm
    exact absurd hm (Nat.succ_ne_zero _)
  | succ m ih =>
    have hstep := h.step source
    rcases hp : s.poll source with ⟨e, s', rest⟩
    rw [hp] at hstep
    cases hstep with
    | wait _ _ h' howed hdelays =>
      have hrun := RunsTo.cons hp (ih h' rest (by rw [howed]; omega))
      rwa [if_pos rfl, if_pos rfl, howed, hdelays] at hrun
    | give sealed _ _ h' howed hdelays =>
      have hrun := RunsTo.cons hp (ih h' rest (by rw [← howed, List.length_cons] at hm; omega))
      rwa [if_neg (by simp), if_neg (by simp), howed, hdelays] at hrun
    | finish _ _ _ hclosed howed hdelays _ _ =>
      refine ⟨[], e, howed, hdelays.symm, fun n => ?_⟩
      rw [List.length_nil, Nat.zero_add, Nat.add_comm, polls_succ, hp, polls_of_closed hclosed,
        List.nil_append]

/-- What the polls of a run hold once there are enough of them. -/
theorem RunsTo.polls {items : List Emission} {waits n : Nat} (h : s.RunsTo source items waits)
    (hpending : .pending ∉ items) (hn : waits + items.length ≤ n) :
    (s.polls n source).count .pending = waits ∧
      (s.polls n source).filter (· ≠ .pending) =
        items ++ List.replicate (n - (waits + items.length)) .ended := by
  obtain ⟨before, last, rfl, rfl, hrun⟩ := h
  have hlast : last ≠ .pending := fun h => hpending (by simp [h])
  have hlen : before.length = before.count .pending + (before.filter (· ≠ .pending)).length := by
    rw [List.count, ← List.countP_eq_length_filter, List.length_eq_countP_add_countP (· == .pending)]
    simp
  rw [List.length_append, List.length_singleton] at hn ⊢
  obtain ⟨k, rfl⟩ : ∃ k, n = before.length + 1 + k := ⟨n - (before.length + 1), by omega⟩
  rw [hrun]
  refine ⟨?_, ?_⟩
  · rw [List.count_append, List.count_cons_of_ne hlast, List.count_replicate]
    rfl
  · have hk : before.length + 1 + k -
        (before.count .pending + ((before.filter (· ≠ .pending)).length + 1)) = k := by omega
    rw [hk, List.filter_append, List.filter_cons_of_pos (by simpa using hlast),
      List.filter_replicate]
    simp

/-- A run answers with its items, with waits and with its end. -/
theorem RunsTo.mem_of_mem_polls {items : List Emission} {waits n : Nat} {e : Emission}
    (h : s.RunsTo source items waits) (he : e ∈ s.polls n source) :
    e ∈ items ∨ e = .pending ∨ e = .ended := by
  obtain ⟨before, last, rfl, rfl, hrun⟩ := h
  have hmem : e ∈ before ++ last :: List.replicate n .ended := by
    rw [← hrun n, Nat.add_comm, polls_add]
    exact List.mem_append_left _ he
  by_cases hpending : e = .pending
  · exact .inr (.inl hpending)
  rcases List.mem_append.mp hmem with hbefore | hafter
  · exact .inl (List.mem_append_left _ (List.mem_filter.mpr ⟨hbefore, by simpa using hpending⟩))
  rcases List.mem_cons.mp hafter with rfl | hended
  · exact .inl (List.mem_append_right _ (List.mem_singleton.mpr rfl))
  · exact .inr (.inr (List.eq_of_mem_replicate hended))

theorem pending_not_mem_owed (s : SealStream) (source : List Arrival) : .pending ∉ s.owed source := by
  rw [owed]
  cases (intake s.declared s.received source).2 <;>
    simp [SegmentCipher.answers, Emission.ofSegments]

/-- A long enough run of a reading stream holds what is owed. -/
theorem Reading.polls {s : SealStream} (h : s.Reading) {source : List Arrival} {n : Nat}
    (hn : s.delays source + (s.owed source).length ≤ n) :
    (s.polls n source).count .pending = s.delays source ∧
      (s.polls n source).filter (· ≠ .pending) =
        s.owed source ++ List.replicate (n - (s.delays source + (s.owed source).length)) .ended :=
  (h.runsTo source).polls (s.pending_not_mem_owed source) hn

/-- After its end a stream only says that it has ended. -/
theorem Reading.polls_of_ended {s : SealStream} (h : s.Reading) {source : List Arrival} {n : Nat}
    (hn : .ended ∈ s.polls n source) : s.delays source + (s.owed source).length ≤ n := by
  induction n generalizing s source with
  | zero => simp [SealStream.polls] at hn
  | succ n ih =>
    have hstep := h.step source
    rw [polls_succ] at hn
    rcases hp : s.poll source with ⟨e, s', rest⟩
    rw [hp] at hstep hn
    cases hstep with
    | wait _ _ h' howed hdelays =>
      have := ih h' (by simpa using hn)
      rw [← howed, ← hdelays]
      omega
    | give sealed _ _ h' howed hdelays =>
      have := ih h' (by simpa using hn)
      rw [← howed, ← hdelays, List.length_cons]
      omega
    | finish _ _ _ hclosed howed hdelays _ hended =>
      rw [← howed, hdelays, List.length_singleton]
      omega

/-- The polls that a drained stream is given are enough. -/
theorem le_pollBound (s : SealStream) (source : List Arrival) :
    s.delays source + (s.owed source).length ≤ s.pollBound source := by
  have hwaits : s.delays source ≤ source.length := waits_le_length
  have hbytes : (intake s.declared s.received source).1.length ≤ octetCount source :=
    length_intake_le_octetCount
  have hdiv : (s.backlog.toBytes.length + (intake s.declared s.received source).1.length) /
      Seal.segmentLength ≤ (s.backlog.toBytes.length + octetCount source) / Seal.segmentLength :=
    Nat.div_le_div_right (Nat.add_le_add_left hbytes _)
  rw [length_owed, pollBound, Backlog.size_eq_length, List.length_append]
  omega

/-! ## What comes of a run -/

/-- Drained, or polled until it has ended, the stream gives out `sealed` and reports `fault`. -/
structure GivesOut (s : SealStream) (source : List Arrival) (sealed : Bytes)
    (fault : Option SealFault) : Prop where
  drain : s.drain source = (sealed, fault)
  octets : ∀ n, .ended ∈ s.polls n source → (s.polls n source).flatMap Emission.octets = sealed
  fault : ∀ n, .ended ∈ s.polls n source → (s.polls n source).findSome? Emission.fault? = fault

theorem drawn_eq (s : SealStream) (n : Nat) (source : List Arrival) :
    s.drawn n source =
      ((s.polls n source).flatMap Emission.octets, (s.polls n source).findSome? Emission.fault?) :=
  rfl

/-- What a long enough run gives out is what was owed. -/
theorem Reading.givesOut (h : s.Reading) (source : List Arrival) :
    s.GivesOut source ((s.owed source).flatMap Emission.octets)
      (intake s.declared s.received source).2 := by
  have octets : ∀ n, s.delays source + (s.owed source).length ≤ n →
      (s.polls n source).flatMap Emission.octets = (s.owed source).flatMap Emission.octets := by
    intro n hn
    rw [← Emission.flatMap_octets_filter, (h.polls hn).2, List.flatMap_append,
      Emission.flatMap_octets_replicate_ended, List.append_nil]
  have fault : ∀ n, s.delays source + (s.owed source).length ≤ n →
      (s.polls n source).findSome? Emission.fault? = (intake s.declared s.received source).2 := by
    intro n hn
    rw [← Emission.findSome?_fault_filter, (h.polls hn).2, List.findSome?_append, owed,
      SegmentCipher.findSome?_fault_answers, Emission.findSome?_fault_replicate_ended, Option.or_none]
  exact
    { drain := by rw [drain, drawn_eq, octets _ (le_pollBound s source), fault _ (le_pollBound s source)]
      octets := fun n hn => octets n (h.polls_of_ended hn)
      fault := fun n hn => fault n (h.polls_of_ended hn) }

variable {c : SegmentCipher} {declared : Nat} {text : Bytes}

/-- What a stream accepts and the fault it stops at settle its run. -/
theorem runsTo_of_intake (hc : c.Lawful) (hr : declared / Seal.segmentLength ≤ Place.limit)
    {fault : Option SealFault} (h : intake declared 0 source = (text, fault)) :
    (start c declared).RunsTo source (c.answers 0 text fault) (waits declared 0 source) := by
  have hrun := (reading_start hc hr).runsTo source
  have howed : (start c declared).owed source = c.answers 0 text fault := by
    simp [owed, start, h]
  rwa [howed] at hrun

/-- A source that is taken in whole is sealed in one piece. -/
theorem givesOut_of_intake_none (hc : c.Lawful) (hr : declared / Seal.segmentLength ≤ Place.limit)
    (h : intake declared 0 source = (text, none)) :
    (start c declared).GivesOut source (c.sealFrom 0 text) none := by
  have := (reading_start hc hr).givesOut source
  simpa [owed, start, h, SegmentCipher.flatMap_octets_answers_none] using this

/-- Of a source that ends in a fault no more than the full segments are given out. -/
theorem givesOut_of_intake_some (hc : c.Lawful) (hr : declared / Seal.segmentLength ≤ Place.limit)
    {f : SealFault} (h : intake declared 0 source = (text, some f)) :
    (start c declared).GivesOut source (Seal.joined (c.encryptAll (Seal.fullSegments 0 text)))
      (some f) := by
  have := (reading_start hc hr).givesOut source
  simpa [owed, start, h, SegmentCipher.flatMap_octets_answers_some] using this

/-- **A text is sealed alike however it arrives.** -/
theorem givesOut_of_delivers (hc : c.Lawful) (hd : Delivers source text)
    (hr : text.length / Seal.segmentLength ≤ Place.limit) :
    (start c text.length).GivesOut source (c.sealFrom 0 text) none :=
  givesOut_of_intake_none hc hr (intake_of_delivers hd (Nat.zero_add _))

/-- **Only what was declared is sealed without a fault**, and the object is that of the text. -/
theorem delivers_of_drain (hc : c.Lawful) (hr : declared / Seal.segmentLength ≤ Place.limit)
    {sealed : Bytes} (h : (start c declared).drain source = (sealed, none)) :
    ∃ text, text.length = declared ∧ Delivers source text ∧ sealed = c.sealFrom 0 text := by
  rcases hintake : intake declared 0 source with ⟨text, fault | f⟩
  · obtain ⟨hd, hlen⟩ := delivers_of_intake hintake (Nat.zero_le _)
    rw [(givesOut_of_intake_none hc hr hintake).drain] at h
    cases h
    exact ⟨text, by rwa [Nat.zero_add] at hlen, hd, rfl⟩
  · rw [(givesOut_of_intake_some hc hr hintake).drain] at h
    cases h

/-- **A stream that ends in a fault gives out less than it announces.** The final segment is
missing, however much the source delivered before the fault. -/
theorem length_lt_of_drain (hc : c.Lawful) (hr : declared / Seal.segmentLength ≤ Place.limit)
    {sealed : Bytes} {f : SealFault} (h : (start c declared).drain source = (sealed, some f)) :
    sealed.length < Seal.sealedLength declared := by
  rcases hintake : intake declared 0 source with ⟨text, fault | fault⟩
  · rw [(givesOut_of_intake_none hc hr hintake).drain] at h
    cases h
  · rw [(givesOut_of_intake_some hc hr hintake).drain] at h
    cases h
    have hle : text.length ≤ declared := by
      have := @length_intake_le declared 0 source (Nat.zero_le _)
      rwa [hintake, Nat.zero_add] at this
    have hfull : text.length / Seal.segmentLength * Seal.segmentLength ≤ text.length :=
      Nat.div_mul_le_self _ _
    have hcount : text.length / Seal.segmentLength ≤ declared / Seal.segmentLength :=
      Nat.div_le_div_right hle
    have htags : text.length / Seal.segmentLength * Seal.tagLength ≤
        declared / Seal.segmentLength * Seal.tagLength := Nat.mul_le_mul_right _ hcount
    rw [hc.length_joined_fullSegments, Seal.sealedLength, Seal.segmentCount,
      Seal.sealedSegmentLength, Nat.mul_add, Nat.succ_mul]
    have : 0 < Seal.tagLength := by decide
    omega

end SealStream

end MediaVault
