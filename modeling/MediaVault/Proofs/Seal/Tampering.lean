/-
What a changed object needs to be opened. Opening hands the cipher one segment
after another, each at a place that follows from those before it, so an object
of which every segment is one that was sealed at the same place is the sealed
object itself. Whoever cuts, drops, repeats, moves, replaces or appends
segments has to forge one of them.
-/
import MediaVault.Proofs.Seal.RoundTrip

namespace MediaVault

namespace SegmentCipher

variable {c : SegmentCipher} {total index : Nat} {sealed text plain : Bytes}

/-- Opening with a record of the segments that are handed to the cipher, each with the place at
which it is to be opened. -/
def openRecorded (c : SegmentCipher) (total : Nat) (index : Nat) (sealed : Bytes) :
    List (Place × Bytes) × Except SealFault Bytes :=
  if _h : Seal.sealedSegmentLength ≤ sealed.length then
    if index = Place.limit then ([], .error .opening)
    else
      match c.decrypt ⟨index, false⟩ (sealed.take Seal.sealedSegmentLength) with
      | none => ([(⟨index, false⟩, sealed.take Seal.sealedSegmentLength)], .error .opening)
      | some text =>
        (c.openRecorded total (index + 1) (sealed.drop Seal.sealedSegmentLength)).map
          ((⟨index, false⟩, sealed.take Seal.sealedSegmentLength) :: ·) (·.map (text ++ ·))
  else if sealed.length < Seal.tagLength then ([], .error (.malformed total))
  else
    match c.decrypt ⟨index, true⟩ sealed with
    | none => ([(⟨index, true⟩, sealed)], .error .opening)
    | some text => ([(⟨index, true⟩, sealed)], .ok text)
termination_by sealed.length
decreasing_by
  simp only [List.length_drop, Seal.sealedSegmentLength, Seal.segmentLength, Seal.tagLength] at *
  omega

/-- The record changes nothing. -/
theorem snd_openRecorded (c : SegmentCipher) (total index : Nat) (sealed : Bytes) :
    (c.openRecorded total index sealed).2 = c.openFrom total index sealed := by
  fun_induction openRecorded c total index sealed with
  | case1 sealed hfull => rw [openFrom, dif_pos hfull, if_pos rfl]
  | case2 index sealed hfull hi hd => rw [openFrom, dif_pos hfull, if_neg hi, hd]
  | case3 index sealed hfull hi text hd ih =>
    rw [openFrom, dif_pos hfull, if_neg hi, hd, Prod.map_snd, ih]
  | case4 index sealed hshort htag => rw [openFrom, dif_neg hshort, if_pos htag]
  | case5 index sealed hshort htag hd => rw [openFrom, dif_neg hshort, if_neg htag, hd]
  | case6 index sealed hshort htag text hd => rw [openFrom, dif_neg hshort, if_neg htag, hd]

/-- The segments that are handed to the cipher while an object is opened. -/
def openings (c : SegmentCipher) (sealed : Bytes) : List (Place × Bytes) :=
  (c.openRecorded sealed.length 0 sealed).1

/-- Positions are counted upwards. -/
theorem index_le_of_mem_openRecorded {x : Place × Bytes}
    (hx : x ∈ (c.openRecorded total index sealed).1) : index ≤ x.1.index := by
  fun_induction openRecorded c total index sealed with
  | case1 => cases hx
  | case2 => cases List.mem_singleton.mp hx; exact Nat.le_refl _
  | case3 index sealed hfull hi text hd ih =>
    rcases List.mem_cons.mp hx with rfl | hx
    · exact Nat.le_refl _
    · exact Nat.le_of_succ_le (ih hx)
  | case4 => cases hx
  | case5 => cases List.mem_singleton.mp hx; exact Nat.le_refl _
  | case6 => cases List.mem_singleton.mp hx; exact Nat.le_refl _

/-- What opens after a full segment opens in both parts. -/
theorem ok_of_map_ok {first : Bytes} {result : Except SealFault Bytes}
    (h : result.map (first ++ ·) = .ok plain) : ∃ rest, result = .ok rest := by
  cases result with
  | error f => cases h
  | ok rest => exact ⟨rest, rfl⟩

/-- Of an object that opens, every segment is opened. -/
theorem decrypt_of_mem_openRecorded (h : (c.openRecorded total index sealed).2 = .ok plain)
    {x : Place × Bytes} (hx : x ∈ (c.openRecorded total index sealed).1) :
    ∃ t, c.decrypt x.1 x.2 = some t := by
  fun_induction openRecorded c total index sealed generalizing plain with
  | case1 => cases h
  | case2 => cases h
  | case3 index sealed hfull hi text hd ih =>
    rcases List.mem_cons.mp hx with rfl | hx
    · exact ⟨text, hd⟩
    · obtain ⟨rest, hrest⟩ := ok_of_map_ok h
      exact ih hrest hx
  | case4 => cases h
  | case5 => cases h
  | case6 index sealed hshort htag text hd =>
    cases List.mem_singleton.mp hx
    exact ⟨text, hd⟩

/-- An object that opens and of which every segment was sealed at its place is the sealed text:
the places alone settle the order of the segments, their number and which is the last. -/
theorem sealFrom_of_openRecorded (h : (c.openRecorded total index sealed).2 = .ok plain)
    (hall : ∀ x ∈ (c.openRecorded total index sealed).1, x ∈ c.sealedSegments index text) :
    c.sealFrom index text = sealed := by
  fun_induction openRecorded c total index sealed generalizing text plain with
  | case1 => cases h
  | case2 => cases h
  | case3 index sealed hfull hi first hd ih =>
    obtain ⟨rest, hrest⟩ := ok_of_map_ok h
    have hfirst := hall _ (List.mem_cons_self ..)
    by_cases hl : text.length < Seal.segmentLength
    · rw [sealedSegments_of_lt hl] at hfirst
      simp at hfirst
    have hle := Nat.le_of_not_lt hl
    rw [sealedSegments_of_le hle] at hall hfirst
    have hothers : ∀ x ∈ (c.openRecorded total (index + 1)
        (sealed.drop Seal.sealedSegmentLength)).1,
        x ∈ c.sealedSegments (index + 1) (text.drop Seal.segmentLength) := by
      intro x hx
      rcases List.mem_cons.mp (hall x (List.mem_cons_of_mem _ hx)) with rfl | hx'
      · exact absurd (index_le_of_mem_openRecorded hx) (Nat.not_succ_le_self _)
      · exact hx'
    have hhead : sealed.take Seal.sealedSegmentLength =
        c.encrypt ⟨index, false⟩ (text.take Seal.segmentLength) := by
      rcases List.mem_cons.mp hfirst with heq | hlater
      · exact (Prod.mk.inj heq).2
      · exact absurd (index_le_of_mem_sealedSegments hlater) (Nat.not_succ_le_self _)
    rw [sealFrom_of_le hle, ih hrest hothers, ← hhead, List.take_append_drop]
  | case4 => cases h
  | case5 => cases h
  | case6 index sealed hshort htag last hd =>
    have hlast := hall _ (List.mem_singleton.mpr rfl)
    by_cases hl : text.length < Seal.segmentLength
    · rw [sealedSegments_of_lt hl] at hlast
      rw [sealFrom_of_lt hl]
      exact (Prod.mk.inj (List.mem_singleton.mp hlast)).2.symm
    · rw [sealedSegments_of_le (Nat.le_of_not_lt hl)] at hlast
      rcases List.mem_cons.mp hlast with heq | hlater
      · simp at heq
      · exact absurd (index_le_of_mem_sealedSegments hlater) (Nat.not_succ_le_self _)

end SegmentCipher

namespace SealKey

/-- **A changed object opens only with a forged segment.** An object is its sealed segments
joined. If another one opens, then among the segments that are opened on the way, each at a
position and as the last one or not, is one that was not sealed there. -/
theorem exists_forged_segment (k : SealKey) {source : List Arrival}
    {text sealed other plain : Bytes} (hd : Delivers source text)
    (hr : text.length / Seal.segmentLength ≤ Place.limit)
    (hs : (SealStream.start k.cipher text.length).GivesOut source sealed none)
    (hopen : k.openObject other = .ok plain) (hne : other ≠ sealed) :
    sealed = Seal.joined (k.cipher.sealedSegments 0 text) ∧
      ∃ x ∈ k.cipher.openings other, (∃ t, k.cipher.decrypt x.1 x.2 = some t) ∧
        x ∉ k.cipher.sealedSegments 0 text := by
  have hsealed : sealed = k.cipher.sealFrom 0 text := by
    have := hs.drain.symm.trans (SealStream.givesOut_of_delivers k.lawful_cipher hd hr).drain
    exact (Prod.mk.inj this).1
  refine ⟨hsealed, Classical.byContradiction fun hnone => ?_⟩
  have hok : (k.cipher.openRecorded other.length 0 other).2 = .ok plain := by
    rw [SegmentCipher.snd_openRecorded]
    exact hopen
  refine hne ?_
  rw [hsealed]
  refine (SegmentCipher.sealFrom_of_openRecorded hok fun x hx => ?_).symm
  refine Classical.byContradiction fun hforged => hnone ⟨x, hx, ?_, hforged⟩
  exact SegmentCipher.decrypt_of_mem_openRecorded hok hx

/-- The sealed form of nothing in place of one that begins with a full segment. -/
theorem exists_forged_segment_dropped :
    let k := SealKey.ofRandom []
    let text := List.replicate Seal.segmentLength 7
    ∃ x ∈ k.cipher.openings (k.cipher.sealFrom 0 []), (∃ t, k.cipher.decrypt x.1 x.2 = some t) ∧
      x ∉ k.cipher.sealedSegments 0 text := by
  intro k text
  have hr : text.length / Seal.segmentLength ≤ Place.limit := by
    rw [List.length_replicate]; decide
  have hne : k.cipher.sealFrom 0 [] ≠ k.cipher.sealFrom 0 text := by
    intro h
    have hlen := congrArg List.length h
    rw [k.lawful_cipher.length_sealFrom, k.lawful_cipher.length_sealFrom, List.length_replicate] at hlen
    exact absurd hlen (by decide)
  exact (exists_forged_segment k (.single text) hr
    (SealStream.givesOut_of_delivers k.lawful_cipher (.single text) hr)
    (openObject_sealFrom k (by decide)) hne).2

end SealKey

end MediaVault
