/-
Sealing and opening undo each other. The stream cuts by what it has received
and by the end of its source, opening by the length of what is left alone;
both come to the same borders, because the final segment is always shorter
than a full one. So a sealed text opens to the text, and what opens is what
would be sealed: a text has one sealed form.
-/
import MediaVault.Proofs.Seal.Run
import MediaVault.Seal.Open

namespace MediaVault

namespace SegmentCipher

variable {c : SegmentCipher} {total index : Nat} {sealed text : Bytes}

/-! ## Opening, segment by segment -/

theorem openFrom_of_full (h : Seal.sealedSegmentLength ≤ sealed.length) (hi : index ≠ Place.limit)
    (hd : c.decrypt ⟨index, false⟩ (sealed.take Seal.sealedSegmentLength) = some text) :
    c.openFrom total index sealed =
      (c.openFrom total (index + 1) (sealed.drop Seal.sealedSegmentLength)).map (text ++ ·) := by
  rw [openFrom, dif_pos h, if_neg hi, hd]

theorem openFrom_of_final (h : sealed.length < Seal.sealedSegmentLength)
    (ht : Seal.tagLength ≤ sealed.length) (hd : c.decrypt ⟨index, true⟩ sealed = some text) :
    c.openFrom total index sealed = .ok text := by
  rw [openFrom, dif_neg (Nat.not_le_of_lt h), if_neg (Nat.not_lt_of_le ht), hd]

/-- A sealed full segment opens, and what comes after it is opened at the next position. -/
theorem openFrom_encrypt_append (hc : c.Lawful) (hl : Seal.segmentLength ≤ text.length)
    (hi : index ≠ Place.limit) (sealed : Bytes) :
    c.openFrom total index (c.encrypt ⟨index, false⟩ (text.take Seal.segmentLength) ++ sealed) =
      (c.openFrom total (index + 1) sealed).map (text.take Seal.segmentLength ++ ·) := by
  have hlen := hc.length_encrypt_take ⟨index, false⟩ hl
  rw [openFrom_of_full (by rw [List.length_append, hlen]; exact Nat.le_add_right _ _) hi
    (by rw [List.take_left' hlen]; exact hc.decrypt_encrypt _ _), List.drop_left' hlen]

/-- A sealed text opens to the text. -/
theorem openFrom_sealFrom (hc : c.Lawful)
    (hr : index + text.length / Seal.segmentLength ≤ Place.limit) :
    c.openFrom total index (c.sealFrom index text) = .ok text := by
  induction index, text using Seal.segments_induction with
  | short index text hl =>
    rw [sealFrom_of_lt hl]
    have hlen := hc.length_encrypt ⟨index, true⟩ text
    refine openFrom_of_final ?_ (by omega) (hc.decrypt_encrypt _ _)
    rw [hlen, Seal.sealedSegmentLength]
    omega
  | long index text hl ih =>
    have hne := Seal.index_ne_limit hl hr
    rw [Seal.length_div_of_le hl] at hr
    rw [sealFrom_of_le hl, openFrom_encrypt_append hc hl hne, ih (by omega)]
    simp only [Except.map, List.take_append_drop]

/-- What is opened as a full segment is the text of one. -/
theorem Lawful.length_of_decrypt (hc : c.Lawful) {p : Place} (hd : c.decrypt p sealed = some text) :
    sealed.length = text.length + Seal.tagLength := by
  rw [← hc.encrypt_of_decrypt p sealed text hd, hc.length_encrypt]

/-- What opens is its text sealed again, and its segments are within the positions that can be
counted. -/
theorem sealFrom_of_openFrom (hc : c.Lawful) (h : c.openFrom total index sealed = .ok text)
    (hi : index ≤ Place.limit) :
    c.sealFrom index text = sealed ∧ index + text.length / Seal.segmentLength ≤ Place.limit := by
  fun_induction openFrom c total index sealed generalizing text with
  | case1 => cases h
  | case2 => cases h
  | case3 index sealed hfull hne first hd ih =>
    rcases hrest : c.openFrom total (index + 1) (sealed.drop Seal.sealedSegmentLength) with f | rest
    · rw [hrest] at h; cases h
    · rw [hrest] at h
      cases h
      obtain ⟨hsealed, hcount⟩ := ih hrest (by omega)
      have hfirst : first.length = Seal.segmentLength := by
        have := hc.length_of_decrypt hd
        rw [List.length_take, Nat.min_eq_left hfull, Seal.sealedSegmentLength] at this
        omega
      have hl : Seal.segmentLength ≤ (first ++ rest).length := by
        rw [List.length_append]; omega
      rw [sealFrom_of_le hl, Seal.length_div_of_le hl, List.take_left' hfirst,
        List.drop_left' hfirst, hsealed, hc.encrypt_of_decrypt _ _ _ hd, List.take_append_drop]
      exact ⟨rfl, by omega⟩
  | case4 => cases h
  | case5 => cases h
  | case6 index sealed hshort htag last hd =>
    cases h
    have hlen := hc.length_of_decrypt hd
    have hl : last.length < Seal.segmentLength := by
      rw [Seal.sealedSegmentLength] at hshort; omega
    rw [sealFrom_of_lt hl, Seal.length_div_of_lt hl]
    exact ⟨hc.encrypt_of_decrypt _ _ _ hd, hi⟩

end SegmentCipher

/-! ## Whole objects -/

namespace SealKey

variable {k : SealKey} {source : List Arrival} {text sealed : Bytes}

theorem openObject_sealFrom (k : SealKey) (hr : text.length / Seal.segmentLength ≤ Place.limit) :
    k.openObject (k.cipher.sealFrom 0 text) = .ok text :=
  SegmentCipher.openFrom_sealFrom k.lawful_cipher (by rwa [Nat.zero_add])

theorem sealFrom_of_openObject (h : k.openObject sealed = .ok text) :
    k.cipher.sealFrom 0 text = sealed :=
  (SegmentCipher.sealFrom_of_openFrom k.lawful_cipher h (Nat.zero_le _)).1

/-- What opens is never too long to be counted. -/
theorem counted_of_openObject (h : k.openObject sealed = .ok text) :
    text.length / Seal.segmentLength ≤ Place.limit := by
  have := (SegmentCipher.sealFrom_of_openFrom k.lawful_cipher h (Nat.zero_le _)).2
  rwa [Nat.zero_add] at this

/-- **Opening undoes sealing.** Whatever the chunks and the waits in which a text arrives, the
stream gives out an object without a fault, and the object opens to the text. -/
theorem openObject_of_delivers (k : SealKey) (hd : Delivers source text)
    (hr : text.length / Seal.segmentLength ≤ Place.limit) :
    ∃ sealed, (SealStream.start k.cipher text.length).GivesOut source sealed none ∧
      k.openObject sealed = .ok text :=
  ⟨k.cipher.sealFrom 0 text, SealStream.givesOut_of_delivers k.lawful_cipher hd hr,
    openObject_sealFrom k hr⟩

/-- A text of exactly one full segment, after an empty chunk and a wait. -/
theorem openObject_of_delivers_full_segment :
    let k := SealKey.ofRandom []
    let text := List.replicate Seal.segmentLength 7
    ∃ sealed, (SealStream.start k.cipher text.length).GivesOut
        [.chunk [], .pending, .chunk text] sealed none ∧ k.openObject sealed = .ok text :=
  openObject_of_delivers _ (.chunk (.pending (.single _))) (by rw [List.length_replicate]; decide)

/-- **Sealing undoes opening.** If an object opens, then its text, in whatever chunks it arrives,
is sealed to that very object, and no other object opens to the same text. -/
theorem givesOut_of_openObject (k : SealKey) (h : k.openObject sealed = .ok text) :
    (∀ source, Delivers source text →
        (SealStream.start k.cipher text.length).GivesOut source sealed none) ∧
      ∀ other, k.openObject other = .ok text → other = sealed := by
  refine ⟨fun source hd => ?_, fun other hother => ?_⟩
  · rw [← sealFrom_of_openObject h]
    exact SealStream.givesOut_of_delivers k.lawful_cipher hd (counted_of_openObject h)
  · rw [← sealFrom_of_openObject h, ← sealFrom_of_openObject hother]

/-- The sealed form of a text of exactly one full segment, whose final segment is empty. -/
theorem givesOut_of_openObject_full_segment :
    let k := SealKey.ofRandom []
    let text := List.replicate Seal.segmentLength 7
    let sealed := k.cipher.sealFrom 0 text
    k.openObject sealed = .ok text ∧
      (∀ source, Delivers source text →
        (SealStream.start k.cipher text.length).GivesOut source sealed none) ∧
      ∀ other, k.openObject other = .ok text → other = sealed := by
  intro k text
  have hr : text.length / Seal.segmentLength ≤ Place.limit := by
    rw [List.length_replicate]; decide
  have h := openObject_sealFrom k hr
  exact ⟨h, givesOut_of_openObject k h⟩

end SealKey

end MediaVault
