/-
A text that arrives in pieces. The items of a stream are the segments of the
whole text, whatever the pieces and the waits of its source; and a stream that
waits has kept every octet that it has received and not yet sealed, so that
what it holds and what its source still has to deliver is the rest of the
text.
-/
import MediaVault.Proofs.Seal.Record

namespace MediaVault

/-- What a source delivers after its first answers. -/
theorem Delivers.of_append {before rest : List Arrival} {got text : Bytes}
    (h : Delivers (before ++ rest) text) (hb : Delivers before got) :
    ∃ coming, Delivers rest coming ∧ got ++ coming = text := by
  induction hb generalizing text with
  | ended => exact ⟨text, h, rfl⟩
  | pending _ ih => cases h with | pending h => exact ih h
  | chunk _ ih =>
    cases h with
    | chunk h =>
      obtain ⟨coming, hd, rfl⟩ := ih h
      exact ⟨coming, hd, by rw [List.append_assoc]⟩

/-- What a text comes to item by item: each full segment of it sealed at its position, and then
what is left of it, possibly nothing, sealed as the final segment at the next one. -/
def SegmentCipher.itemsOf (c : SegmentCipher) (text : Bytes) : List Emission :=
  ((List.range (text.length / Seal.segmentLength)).map fun i =>
    .segment (c.encrypt ⟨i, false⟩
      ((text.drop (i * Seal.segmentLength)).take Seal.segmentLength))) ++
  [.segment (c.encrypt ⟨text.length / Seal.segmentLength, true⟩
    (text.drop (text.length / Seal.segmentLength * Seal.segmentLength)))]

theorem SegmentCipher.itemsOf_eq (c : SegmentCipher) (text : Bytes) :
    c.itemsOf text = Emission.ofSegments (c.sealedSegments 0 text) := by
  simp [itemsOf, Emission.ofSegments, sealedSegments, encryptAll, Seal.segments,
    Seal.fullSegments, Seal.finalPlace, Seal.remainder]

namespace SealStream

variable {s : SealStream} {c : SegmentCipher} {declared received : Nat}
variable {source rest : List Arrival} {got text : Bytes}

/-- A source that delivers no more than was declared is waited for each time that it is not ready. -/
theorem waits_of_delivers (hd : Delivers source text) (hle : received + text.length ≤ declared) :
    waits declared received source = source.count .pending := by
  induction hd generalizing received with
  | ended => rfl
  | pending _ ih => rw [waits, ih hle, List.count_cons_self]
  | @chunk data rest text _ ih =>
    rw [List.length_append, ← Nat.add_assoc] at hle
    have hfits : ¬ declared < received + data.length := by omega
    rw [waits, if_neg hfits, ih hle, List.count_cons_of_ne (by simp)]

/-- Every octet of a text is sealed, or held, or still to come. -/
theorem Holds.coming (h : Holds c declared source s rest got) (hd : Delivers source text) :
    ∃ coming, Delivers rest coming ∧ s.index * Seal.segmentLength ≤ text.length ∧
      s.backlog.toBytes ++ coming = text.drop (s.index * Seal.segmentLength) := by
  obtain ⟨before, rfl, hbefore⟩ := h.taken
  obtain ⟨coming, hcoming, rfl⟩ := hd.of_append hbefore
  have hsealed := h.sealed
  refine ⟨coming, hcoming, ?_, ?_⟩
  · rw [List.length_append]
    exact Nat.le_add_right_of_le hsealed
  · rw [h.held, List.drop_append_of_le_length hsealed]

/-- A stream that is not ready still holds what it has received, and has given out as many segments
as it has sealed. -/
theorem holds_of_pending {n : Nat} {s' : SealStream}
    (h : ((start c declared).after n source).1.poll ((start c declared).after n source).2 =
      (.pending, s', rest)) :
    (∃ got, Holds c declared source s' rest got) ∧
      s'.index = (((start c declared).polls n source).filterMap Emission.segment?).length := by
  have hprogress := progress_start c declared source n
  generalize (start c declared).after n source = state at h hprogress
  generalize (start c declared).sealings n source = record at hprogress
  cases hprogress with
  | reading hold _ hlen hitems _ =>
    have hstep := hold.step
    rw [← fst_pollRecorded] at h
    generalize pollRecorded _ _ = polled at h hstep
    cases hstep with
    | wait hold' hindex =>
      cases h
      refine ⟨⟨_, hold'⟩, ?_⟩
      rw [hitems, SegmentCipher.encryptAll, List.length_map, List.length_map, hlen, hindex]
    | full => cases h
    | last _ _ _ _ _ hitem =>
      cases h
      obtain hitem | ⟨_, hitem⟩ := hitem <;> cases hitem
    | failed => cases h
  | failed hclosed => rw [poll_of_closed hclosed] at h; cases h
  | done hclosed => rw [poll_of_closed hclosed] at h; cases h

end SealStream

namespace SealKey

/-- **Sealing by pieces is sealing by segments.** Of a source that delivers a text, in whatever
pieces and with whatever waits, the stream gives the full segments of the text in their order, each
sealed at its place as an item of its own, then the final segment with what is left, possibly
nothing, and then has ended; it waits as often as its source. Whenever it waits, what it holds and
what its source has still to deliver are the octets after the segments that it gave. -/
theorem runsTo_of_delivers (k : SealKey) {source : List Arrival} {text : Bytes}
    (hd : Delivers source text) (hr : text.length / Seal.segmentLength ≤ Place.limit) :
    let s := SealStream.start k.cipher text.length
    s.RunsTo source (k.cipher.itemsOf text) (source.count .pending) ∧
    ∀ n s' rest, (s.after n source).1.poll (s.after n source).2 = (.pending, s', rest) →
      let given := ((s.polls n source).filterMap Emission.segment?).length * Seal.segmentLength
      ∃ coming, Delivers rest coming ∧ given ≤ text.length ∧
        s'.backlog.toBytes ++ coming = text.drop given := by
  intro s
  refine ⟨?_, fun n s' rest hpoll => ?_⟩
  · have hintake := SealStream.intake_of_delivers hd (Nat.zero_add _)
    have hrun := SealStream.runsTo_of_intake k.lawful_cipher hr hintake
    rwa [SealStream.waits_of_delivers hd (Nat.le_of_eq (Nat.zero_add _)), SegmentCipher.answers,
      ← SegmentCipher.itemsOf_eq] at hrun
  · obtain ⟨⟨got, hold⟩, hindex⟩ := SealStream.holds_of_pending hpoll
    rw [← hindex]
    exact hold.coming hd

/-- A full segment and two octets that arrive in two pieces, after an empty one and with two waits. -/
theorem runsTo_of_delivers_two_pieces :
    let k := SealKey.ofRandom []
    let text := List.replicate Seal.segmentLength 7 ++ [1, 2]
    let source : List Arrival :=
      [.chunk [], .pending, .chunk (List.replicate Seal.segmentLength 7), .pending, .chunk [1, 2]]
    let s := SealStream.start k.cipher text.length
    text.length / Seal.segmentLength ≤ Place.limit ∧
    s.RunsTo source (k.cipher.itemsOf text) 2 := by
  intro k text source s
  have hr : text.length / Seal.segmentLength ≤ Place.limit := by
    simp only [text, List.length_append, List.length_replicate]
    decide
  have hd : Delivers source text :=
    .chunk (.pending (.chunk (.pending (.single [1, 2]))))
  exact ⟨hr, (runsTo_of_delivers k hd hr).1⟩

end SealKey

end MediaVault
