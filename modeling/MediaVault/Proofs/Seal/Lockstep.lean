/-
Two streams that differ in nothing but their cipher, asked in step. A lawful
cipher adds as many octets to every segment as any other, so each poll gives
answers of one length, and the same fault if it gives one.
-/
import MediaVault.Proofs.Seal.Run

namespace MediaVault

namespace Emission

/-- An answer with its octets blanked out; their number and a fault remain. -/
def blank : Emission → Emission
  | segment sealed => .segment (List.replicate sealed.length 0)
  | e => e

theorem blank_segment {a b : Bytes} (h : b.length = a.length) :
    (segment b).blank = (segment a).blank := by rw [blank, blank, h]

theorem fault?_blank (e : Emission) : e.blank.fault? = e.fault? := by cases e <;> rfl

theorem length_octets_blank (e : Emission) : e.blank.octets.length = e.octets.length := by
  cases e <;> simp [blank, octets]

end Emission

namespace SealStream

variable {s : SealStream} {c : SegmentCipher} {source rest : List Arrival}

/-- The stream with another cipher. -/
def withCipher (s : SealStream) (c : SegmentCipher) : SealStream := { s with cipher := c }

/-- An answer of a stream and that of the stream with another cipher: they are equally long, and
what is left is in step too. -/
structure InStep (c : SegmentCipher) (x y : Emission × SealStream × List Arrival) : Prop where
  answer : y.1.blank = x.1.blank
  stream : y.2.1 = x.2.1.withCipher c
  lawful : x.2.1.cipher.Lawful
  source : y.2.2 = x.2.2

/-! ## One poll -/

theorem sealFull_inStep (hs : s.cipher.Lawful) (hc : c.Lawful) (rest : List Arrival) :
    InStep c (s.sealFull.1, s.sealFull.2, rest)
      ((s.withCipher c).sealFull.1, (s.withCipher c).sealFull.2, rest) := by
  have hlen : (c.encrypt ⟨s.index, false⟩ (s.backlog.toBytes.take Seal.segmentLength)).length =
      (s.cipher.encrypt ⟨s.index, false⟩ (s.backlog.toBytes.take Seal.segmentLength)).length := by
    rw [hc.length_encrypt, hs.length_encrypt]
  unfold sealFull
  by_cases hi : s.index = Place.limit
  · simp only [withCipher, Backlog.split, hi, if_true]
    exact ⟨rfl, rfl, hs, rfl⟩
  · simp only [withCipher, Backlog.split, hi, if_false, hlen]
    exact ⟨Emission.blank_segment hlen, rfl, hs, rfl⟩

theorem sealLast_inStep (hs : s.cipher.Lawful) (hc : c.Lawful) (rest : List Arrival) :
    InStep c (s.sealLast.1, s.sealLast.2, rest)
      ((s.withCipher c).sealLast.1, (s.withCipher c).sealLast.2, rest) := by
  have hlen : (c.encrypt ⟨s.index, true⟩ s.backlog.toBytes).length =
      (s.cipher.encrypt ⟨s.index, true⟩ s.backlog.toBytes).length := by
    rw [hc.length_encrypt, hs.length_encrypt]
  unfold sealLast
  simp only [withCipher, sealedLength, hlen]
  by_cases htotal : s.emitted + (s.cipher.encrypt ⟨s.index, true⟩ s.backlog.toBytes).length =
      Seal.sealedLength s.declared
  · simp only [htotal, if_true]
    exact ⟨Emission.blank_segment hlen, rfl, hs, rfl⟩
  · simp only [htotal, if_false]
    exact ⟨rfl, rfl, hs, rfl⟩

/-- **One poll** gives answers in step. -/
theorem poll_inStep {s : SealStream} (hs : s.cipher.Lawful) (hc : c.Lawful)
    (source : List Arrival) : InStep c (s.poll source) ((s.withCipher c).poll source) := by
  rcases h : s.phase
  case closed =>
    rw [poll_of_closed h, poll_of_closed (s := s.withCipher c) h]
    exact ⟨rfl, rfl, hs, rfl⟩
  case draining =>
    rw [poll_of_draining h, poll_of_draining (s := s.withCipher c) h]
    by_cases hf : Seal.segmentLength ≤ s.backlog.size
    · rw [if_pos hf, if_pos (show Seal.segmentLength ≤ (s.withCipher c).backlog.size from hf)]
      exact sealFull_inStep hs hc source
    · rw [if_neg hf, if_neg (show ¬ Seal.segmentLength ≤ (s.withCipher c).backlog.size from hf)]
      exact sealLast_inStep hs hc source
  by_cases hf : Seal.segmentLength ≤ s.backlog.size
  · rw [poll_of_full h hf, poll_of_full (s := s.withCipher c) h hf]
    exact sealFull_inStep hs hc source
  cases source with
  | nil =>
    rw [poll_nil h hf, poll_nil (s := s.withCipher c) h hf]
    by_cases hshort : s.received < s.declared
    · rw [if_pos hshort, if_pos (show (s.withCipher c).received < (s.withCipher c).declared from hshort)]
      exact ⟨rfl, rfl, hs, rfl⟩
    · rw [if_neg hshort,
        if_neg (show ¬ (s.withCipher c).received < (s.withCipher c).declared from hshort)]
      exact sealLast_inStep (s := { s with phase := .draining }) hs hc []
  | cons a rest =>
    cases a with
    | pending =>
      rw [poll_pending h hf, poll_pending (s := s.withCipher c) h hf]
      exact ⟨rfl, rfl, hs, rfl⟩
    | failure reason =>
      rw [poll_failure h hf, poll_failure (s := s.withCipher c) h hf]
      exact ⟨rfl, rfl, hs, rfl⟩
    | chunk data =>
      by_cases hover : s.declared < s.received + data.length
      · rw [poll_chunk_of_lt h hf hover, poll_chunk_of_lt (s := s.withCipher c) h hf hover]
        exact ⟨rfl, rfl, hs, rfl⟩
      · rw [poll_chunk_of_le h hf hover, poll_chunk_of_le (s := s.withCipher c) h hf hover]
        exact poll_inStep (s := s.accept data) hs hc rest
termination_by source.length

/-! ## A whole run -/

/-- **A run** gives answers in step. -/
theorem polls_inStep (hs : s.cipher.Lawful) (hc : c.Lawful) (n : Nat) (source : List Arrival) :
    ((s.withCipher c).polls n source).map Emission.blank = (s.polls n source).map Emission.blank := by
  induction n generalizing s source with
  | zero => rfl
  | succ n ih =>
    have hstep := poll_inStep hs hc source
    rw [polls_succ, polls_succ, List.map_cons, List.map_cons, hstep.answer, hstep.stream,
      hstep.source, ih hstep.lawful]

theorem length_flatMap_octets (items : List Emission) :
    (items.flatMap Emission.octets).length =
      ((items.map Emission.blank).flatMap Emission.octets).length := by
  rw [List.length_flatMap, List.length_flatMap, List.map_map]
  congr 1
  exact List.map_congr_left fun e _ => (Emission.length_octets_blank e).symm

theorem findSome?_fault_blank (items : List Emission) :
    (items.map Emission.blank).findSome? Emission.fault? = items.findSome? Emission.fault? := by
  rw [List.findSome?_map]
  congr 1
  funext e
  exact Emission.fault?_blank e

/-- Asked as often under another cipher, a stream gives out as many octets and meets with the same
fault. -/
theorem drawn_inStep (hs : s.cipher.Lawful) (hc : c.Lawful) (n : Nat) (source : List Arrival) :
    ((s.withCipher c).drawn n source).2 = (s.drawn n source).2 ∧
      ((s.withCipher c).drawn n source).1.length = (s.drawn n source).1.length := by
  have hrun := polls_inStep hs hc n source
  rw [drawn_eq, drawn_eq]
  constructor
  · rw [← findSome?_fault_blank, hrun, findSome?_fault_blank]
  · rw [length_flatMap_octets, hrun, ← length_flatMap_octets]

/-- A stream and the stream with another cipher come as far. -/
theorem after_inStep (hs : s.cipher.Lawful) (hc : c.Lawful) (n : Nat) (source : List Arrival) :
    (s.withCipher c).after n source = ((s.after n source).1.withCipher c, (s.after n source).2) := by
  induction n generalizing s source with
  | zero => rfl
  | succ n ih =>
    have hstep := poll_inStep hs hc source
    rw [after, after, hstep.stream, hstep.source, ih hstep.lawful]

theorem isSpent_inStep (hs : s.cipher.Lawful) (hc : c.Lawful) (n : Nat) (source : List Arrival) :
    (s.withCipher c).isSpent n source = s.isSpent n source := by
  rw [isSpent, isSpent, after_inStep hs hc, (drawn_inStep hs hc n source).1]
  rfl

end SealStream

end MediaVault
