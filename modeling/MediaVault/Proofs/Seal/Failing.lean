/-
What a failing stream leaves behind. `FailsWith` says of a source alone which
octets are accepted before it fails and which failure comes first. The stream
then has given out the full segments of what it accepted and nothing else, it
reports that one failure, and what it gave out does not open: without a final
segment the octets end where a tag should be.
-/
import MediaVault.Proofs.Seal.RoundTrip

namespace MediaVault

/-- The source delivers these octets and then fails, for a stream that declared so many. The chunk
that is more than was declared is not accepted. -/
inductive FailsWith (declared : Nat) : List Arrival → Bytes → SealFault → Prop
  | overrun {before accepted data rest} : Delivers before accepted → accepted.length ≤ declared →
      declared < accepted.length + data.length →
      FailsWith declared (before ++ .chunk data :: rest) accepted
        (.overrun declared (accepted.length + data.length))
  | truncated {before accepted} : Delivers before accepted → accepted.length < declared →
      FailsWith declared before accepted (.truncated declared accepted.length)
  | source {before accepted reason rest} : Delivers before accepted → accepted.length ≤ declared →
      FailsWith declared (before ++ .failure reason :: rest) accepted (.source reason)

/-- No more is accepted than was declared. -/
theorem FailsWith.length_le {declared : Nat} {source : List Arrival} {accepted : Bytes}
    {f : SealFault} (h : FailsWith declared source accepted f) : accepted.length ≤ declared := by
  cases h with
  | overrun _ hle _ => exact hle
  | truncated _ hlt => exact Nat.le_of_lt hlt
  | source _ hle => exact hle

namespace SealStream

variable {declared received : Nat} {source before rest : List Arrival} {accepted text : Bytes}
variable {f : SealFault}

/-- What was delivered within the declared length is taken in before anything else. -/
theorem intake_append (hd : Delivers before text) (hle : received + text.length ≤ declared) :
    intake declared received (before ++ rest) =
      (text ++ (intake declared (received + text.length) rest).1,
        (intake declared (received + text.length) rest).2) := by
  induction hd generalizing received with
  | ended => simp
  | pending _ ih => exact ih hle
  | @chunk data before text _ ih =>
    rw [List.length_append, ← Nat.add_assoc] at hle
    rw [List.cons_append, intake_chunk_of_le (by omega), ih hle, List.length_append,
      ← Nat.add_assoc, List.append_assoc]

/-- A source that fails is taken in up to its failure. -/
theorem intake_of_failsWith (h : FailsWith declared source accepted f) :
    intake declared 0 source = (accepted, some f) := by
  cases h with
  | overrun hd hle hlt =>
    rw [intake_append hd (by rwa [Nat.zero_add]), Nat.zero_add, intake_chunk_of_lt hlt,
      List.append_nil]
  | truncated hd hlt =>
    rw [← List.append_nil source, intake_append hd (by rw [Nat.zero_add]; exact Nat.le_of_lt hlt),
      Nat.zero_add]
    simp [intake, hlt]
  | source hd hle =>
    rw [intake_append hd (by rwa [Nat.zero_add])]
    simp [intake]

/-- A stream that has taken in `text` and then stops at a fault has a source that fails. -/
theorem failsWith_of_intake (hd : Delivers before text) (hle : text.length ≤ declared)
    (h : intake declared text.length rest = (accepted, some f)) :
    FailsWith declared (before ++ rest) (text ++ accepted) f := by
  induction rest generalizing before text accepted with
  | nil =>
    simp only [intake, Prod.mk.injEq] at h
    obtain ⟨rfl, hf⟩ := h
    split at hf
    next hlt => cases hf; simpa using .truncated hd hlt
    next => cases hf
  | cons a rest ih =>
    cases a with
    | pending =>
      rw [intake] at h
      have hmore := ih (hd.append (.pending .ended)) (by simpa using hle) (by simpa using h)
      simpa using hmore
    | failure reason =>
      cases h
      rw [List.append_nil]
      exact .source hd hle
    | chunk data =>
      by_cases hlt : declared < text.length + data.length
      · rw [intake_chunk_of_lt hlt] at h
        cases h
        rw [List.append_nil]
        exact .overrun hd hle hlt
      · rcases hi : intake declared (text.length + data.length) rest with ⟨others, fault⟩
        rw [intake_chunk_of_le hlt, hi] at h
        cases h
        have hmore := ih (hd.append (.single data)) (by rw [List.length_append]; omega)
          (by rw [List.length_append]; exact hi)
        simpa using hmore

end SealStream

namespace SegmentCipher

variable {c : SegmentCipher} {total index : Nat} {text : Bytes}

/-- Nothing is too little for a final segment. -/
theorem openFrom_nil (c : SegmentCipher) (total index : Nat) :
    c.openFrom total index [] = .error (.malformed total) := by
  rw [openFrom]
  simp [Seal.sealedSegmentLength, Seal.segmentLength, Seal.tagLength]

/-- Full segments do not open if what comes after them does not. -/
theorem openFrom_fullSegments_append (hc : c.Lawful)
    (hr : index + text.length / Seal.segmentLength ≤ Place.limit) {rest : Bytes} {f : SealFault}
    (hrest : c.openFrom total (index + text.length / Seal.segmentLength) rest = .error f) :
    c.openFrom total index (Seal.joined (c.encryptAll (Seal.fullSegments index text)) ++ rest) =
      .error f := by
  induction index, text using Seal.segments_induction with
  | short index text hl =>
    rw [Seal.length_div_of_lt hl] at hrest
    rw [Seal.fullSegments_of_lt hl, encryptAll_nil, Seal.joined_nil]
    exact hrest
  | long index text hl ih =>
    have hne := Seal.index_ne_limit hl hr
    rw [Seal.length_div_of_le hl, ← Nat.add_assoc, Nat.add_right_comm] at hr hrest
    rw [Seal.fullSegments_of_le hl, encryptAll_cons, Seal.joined_cons, List.append_assoc,
      openFrom_encrypt_append hc hl hne, ih hr hrest]
    rfl

/-- Full segments alone do not open: there is no tag of a final segment after them. -/
theorem openFrom_fullSegments (hc : c.Lawful)
    (hr : index + text.length / Seal.segmentLength ≤ Place.limit) :
    c.openFrom total index (Seal.joined (c.encryptAll (Seal.fullSegments index text))) =
      .error (.malformed total) := by
  have hfull := openFrom_fullSegments_append hc hr (openFrom_nil c total _)
  rwa [List.append_nil] at hfull

end SegmentCipher

namespace SealKey

/-- **A failing stream leaves whole segments behind that do not open.** If a stream ever reports a
fault, then its source fails with it. Of a source that fails, the stream gives out the full
segments that it accepted, each sealed as one that is not the last, then reports that fault, and
has ended; and what it gave out ends where a final segment should be. -/
theorem runsTo_of_failsWith (k : SealKey) {declared : Nat} (source : List Arrival)
    (hr : declared / Seal.segmentLength ≤ Place.limit) :
    (∀ n f, .fault f ∈ (SealStream.start k.cipher declared).polls n source →
        ∃ accepted, FailsWith declared source accepted f) ∧
      ∀ accepted f, FailsWith declared source accepted f →
        let parts := k.cipher.encryptAll (Seal.fullSegments 0 accepted)
        (∃ waits, (SealStream.start k.cipher declared).RunsTo source
            (Emission.ofSegments parts ++ [.fault f]) waits) ∧
          k.openObject (Seal.joined parts) = .error (.malformed (Seal.joined parts).length) := by
  refine ⟨fun n f hf => ?_, fun accepted f h => ?_⟩
  · rcases hintake : SealStream.intake declared 0 source with ⟨accepted, fault⟩
    have hrun := SealStream.runsTo_of_intake k.lawful_cipher hr hintake
    have hitem : .fault f ∈ k.cipher.answers 0 accepted fault := by
      simpa using hrun.mem_of_mem_polls hf
    rw [SegmentCipher.fault_mem_answers.mp hitem] at hintake
    exact ⟨accepted, SealStream.failsWith_of_intake .ended (Nat.zero_le _) hintake⟩
  · have hrun := SealStream.runsTo_of_intake k.lawful_cipher hr (SealStream.intake_of_failsWith h)
    have hcounted : 0 + accepted.length / Seal.segmentLength ≤ Place.limit := by
      rw [Nat.zero_add]
      exact Nat.le_trans (Nat.div_le_div_right h.length_le) hr
    exact ⟨⟨_, hrun⟩, SegmentCipher.openFrom_fullSegments k.lawful_cipher hcounted⟩

/-- A source that delivers a full segment and three octets, and then two more where only one more
was declared. -/
theorem runsTo_of_failsWith_overrun :
    let k := SealKey.ofRandom []
    let accepted := List.replicate Seal.segmentLength 7 ++ [1, 2, 3]
    let source : List Arrival := [.chunk accepted, .pending, .chunk [4, 5]]
    let parts := k.cipher.encryptAll (Seal.fullSegments 0 accepted)
    (∃ waits, (SealStream.start k.cipher (accepted.length + 1)).RunsTo source
        (Emission.ofSegments parts ++
          [.fault (.overrun (accepted.length + 1) (accepted.length + 2))]) waits) ∧
      k.openObject (Seal.joined parts) = .error (.malformed (Seal.joined parts).length) := by
  intro k accepted source parts
  have hr : (accepted.length + 1) / Seal.segmentLength ≤ Place.limit := by
    simp only [accepted, List.length_append, List.length_replicate]
    decide
  have hd : Delivers [.chunk accepted, .pending] accepted := by
    have : Delivers [.chunk accepted, .pending] (accepted ++ []) := .chunk (.pending .ended)
    rwa [List.append_nil] at this
  have hfails : FailsWith (accepted.length + 1) source accepted
      (.overrun (accepted.length + 1) (accepted.length + 2)) :=
    @FailsWith.overrun _ [.chunk accepted, .pending] accepted [4, 5] [] hd (Nat.le_succ _)
      (Nat.lt_succ_self _)
  exact (runsTo_of_failsWith k source hr).2 accepted _ hfails

end SealKey

end MediaVault
