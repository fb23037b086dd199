/-
How a text is cut into segments: the full ones, counted from a position on,
and a final one that is shorter than a full one and possibly empty. A text
sealed in one piece is its segments encrypted at their places and joined; what
a stream gives out and what opening accepts are both measured by it.
-/
import MediaVault.Proofs.Cipher.Lawful

namespace MediaVault

namespace Seal

theorem segmentLength_pos : 0 < segmentLength := by decide

/-- Even the object of an empty text has a tag. -/
theorem sealedLength_pos (n : Nat) : 0 < sealedLength n :=
  Nat.lt_of_lt_of_le (Nat.mul_pos (Nat.succ_pos _) (by decide)) (Nat.le_add_left _ _)

/-- The full segments of a text, with their places from `index` on. -/
def fullSegments (index : Nat) (text : Bytes) : List (Place × Bytes) :=
  (List.range (text.length / segmentLength)).map fun i =>
    (⟨index + i, false⟩, (text.drop (i * segmentLength)).take segmentLength)

/-- What a text has after its full segments. -/
def remainder (text : Bytes) : Bytes := text.drop (text.length / segmentLength * segmentLength)

/-- The place of the final segment of a text whose first segment stands at `index`. -/
def finalPlace (index : Nat) (text : Bytes) : Place := ⟨index + text.length / segmentLength, true⟩

/-- All segments of a text, with their places from `index` on. -/
def segments (index : Nat) (text : Bytes) : List (Place × Bytes) :=
  fullSegments index text ++ [(finalPlace index text, remainder text)]

/-- Segments put together again. -/
def joined (parts : List (Place × Bytes)) : Bytes := parts.flatMap (·.2)

@[simp] theorem joined_nil : joined [] = [] := rfl

@[simp] theorem joined_cons (x : Place × Bytes) (parts : List (Place × Bytes)) :
    joined (x :: parts) = x.2 ++ joined parts := by simp [joined]

/-! ## One segment more -/

theorem length_div_of_lt {text : Bytes} (h : text.length < segmentLength) :
    text.length / segmentLength = 0 := Nat.div_eq_of_lt h

theorem length_div_of_le {text : Bytes} (h : segmentLength ≤ text.length) :
    text.length / segmentLength = (text.drop segmentLength).length / segmentLength + 1 := by
  rw [List.length_drop, Nat.div_eq_sub_div segmentLength_pos h]

theorem fullSegments_of_lt {index : Nat} {text : Bytes} (h : text.length < segmentLength) :
    fullSegments index text = [] := by simp [fullSegments, length_div_of_lt h]

theorem fullSegments_of_le {index : Nat} {text : Bytes} (h : segmentLength ≤ text.length) :
    fullSegments index text =
      (⟨index, false⟩, text.take segmentLength) ::
        fullSegments (index + 1) (text.drop segmentLength) := by
  rw [fullSegments, length_div_of_le h, List.range_succ_eq_map, List.map_cons, List.map_map,
    Nat.zero_mul, List.drop_zero, Nat.add_zero, fullSegments]
  congr 1
  refine List.map_congr_left fun i _ => ?_
  simp only [Function.comp_apply, List.drop_drop, Nat.succ_mul, Prod.mk.injEq, Place.mk.injEq,
    and_true]
  exact ⟨by omega, by rw [Nat.add_comm]⟩

theorem remainder_of_lt {text : Bytes} (h : text.length < segmentLength) : remainder text = text := by
  rw [remainder, length_div_of_lt h, Nat.zero_mul, List.drop_zero]

theorem remainder_of_le {text : Bytes} (h : segmentLength ≤ text.length) :
    remainder text = remainder (text.drop segmentLength) := by
  rw [remainder, remainder, List.drop_drop, length_div_of_le h, Nat.succ_mul, Nat.add_comm]

theorem finalPlace_of_lt {index : Nat} {text : Bytes} (h : text.length < segmentLength) :
    finalPlace index text = ⟨index, true⟩ := by rw [finalPlace, length_div_of_lt h, Nat.add_zero]

theorem finalPlace_of_le {index : Nat} {text : Bytes} (h : segmentLength ≤ text.length) :
    finalPlace index text = finalPlace (index + 1) (text.drop segmentLength) := by
  rw [finalPlace, length_div_of_le h, finalPlace, Nat.add_assoc, Nat.add_comm 1]

theorem segments_of_lt {index : Nat} {text : Bytes} (h : text.length < segmentLength) :
    segments index text = [(⟨index, true⟩, text)] := by
  rw [segments, fullSegments_of_lt h, finalPlace_of_lt h, remainder_of_lt h, List.nil_append]

theorem segments_of_le {index : Nat} {text : Bytes} (h : segmentLength ≤ text.length) :
    segments index text =
      (⟨index, false⟩, text.take segmentLength) ::
        segments (index + 1) (text.drop segmentLength) := by
  rw [segments, fullSegments_of_le h, finalPlace_of_le h, remainder_of_le h, segments,
    List.cons_append]

/-- To show something of every text from every position on, show it of the texts shorter than a
segment, and of a longer one from what comes after its first segment. -/
theorem segments_induction {motive : Nat → Bytes → Prop}
    (short : ∀ index text, text.length < segmentLength → motive index text)
    (long : ∀ index text, segmentLength ≤ text.length →
      motive (index + 1) (text.drop segmentLength) → motive index text)
    (index : Nat) (text : Bytes) : motive index text :=
  if h : segmentLength ≤ text.length then
    long index text h (segments_induction short long (index + 1) (text.drop segmentLength))
  else short index text (Nat.lt_of_not_le h)
termination_by text.length
decreasing_by
  rw [List.length_drop]
  have := segmentLength_pos
  omega

/-- A full segment of a text that can be counted stands before the highest position. -/
theorem index_ne_limit {index : Nat} {text : Bytes} (h : segmentLength ≤ text.length)
    (hr : index + text.length / segmentLength ≤ Place.limit) : index ≠ Place.limit := by
  rw [length_div_of_le h] at hr
  exact Nat.ne_of_lt (Nat.lt_of_lt_of_le (Nat.lt_add_of_pos_right (Nat.succ_pos _)) hr)

end Seal

namespace SegmentCipher

variable {c : SegmentCipher}

/-- Segments encrypted, each at its place. -/
def encryptAll (c : SegmentCipher) (parts : List (Place × Bytes)) : List (Place × Bytes) :=
  parts.map fun x => (x.1, c.encrypt x.1 x.2)

@[simp] theorem encryptAll_nil : c.encryptAll [] = [] := rfl

@[simp] theorem encryptAll_cons (x : Place × Bytes) (parts : List (Place × Bytes)) :
    c.encryptAll (x :: parts) = (x.1, c.encrypt x.1 x.2) :: c.encryptAll parts := rfl

/-- The sealed segments of a text with their places from `index` on. -/
def sealedSegments (c : SegmentCipher) (index : Nat) (text : Bytes) : List (Place × Bytes) :=
  c.encryptAll (Seal.segments index text)

/-- A text sealed in one piece, its first segment at `index`. -/
def sealFrom (c : SegmentCipher) (index : Nat) (text : Bytes) : Bytes :=
  Seal.joined (c.sealedSegments index text)

theorem sealedSegments_of_lt {index : Nat} {text : Bytes} (h : text.length < Seal.segmentLength) :
    c.sealedSegments index text = [(⟨index, true⟩, c.encrypt ⟨index, true⟩ text)] := by
  rw [sealedSegments, Seal.segments_of_lt h, encryptAll_cons, encryptAll_nil]

theorem sealedSegments_of_le {index : Nat} {text : Bytes} (h : Seal.segmentLength ≤ text.length) :
    c.sealedSegments index text =
      (⟨index, false⟩, c.encrypt ⟨index, false⟩ (text.take Seal.segmentLength)) ::
        c.sealedSegments (index + 1) (text.drop Seal.segmentLength) := by
  rw [sealedSegments, Seal.segments_of_le h, encryptAll_cons, sealedSegments]

theorem sealFrom_of_lt {index : Nat} {text : Bytes} (h : text.length < Seal.segmentLength) :
    c.sealFrom index text = c.encrypt ⟨index, true⟩ text := by
  rw [sealFrom, sealedSegments_of_lt h, Seal.joined_cons, Seal.joined_nil, List.append_nil]

theorem sealFrom_of_le {index : Nat} {text : Bytes} (h : Seal.segmentLength ≤ text.length) :
    c.sealFrom index text =
      c.encrypt ⟨index, false⟩ (text.take Seal.segmentLength) ++
        c.sealFrom (index + 1) (text.drop Seal.segmentLength) := by
  rw [sealFrom, sealedSegments_of_le h, Seal.joined_cons, sealFrom]

/-- The segments of one text stand at different places, counted upwards. -/
theorem index_le_of_mem_sealedSegments {index : Nat} {text : Bytes} {x : Place × Bytes}
    (hx : x ∈ c.sealedSegments index text) : index ≤ x.1.index := by
  induction index, text using Seal.segments_induction with
  | short index text hl =>
    rw [sealedSegments_of_lt hl] at hx
    cases List.mem_singleton.mp hx
    exact Nat.le_refl _
  | long index text hl ih =>
    rw [sealedSegments_of_le hl] at hx
    rcases List.mem_cons.mp hx with rfl | hx
    · exact Nat.le_refl _
    · exact Nat.le_of_succ_le (ih hx)

/-! ## Lengths -/

/-- A full segment is sealed to a segment of fixed length. -/
theorem Lawful.length_encrypt_take (h : c.Lawful) (p : Place) {text : Bytes}
    (hl : Seal.segmentLength ≤ text.length) :
    (c.encrypt p (text.take Seal.segmentLength)).length = Seal.sealedSegmentLength := by
  rw [h.length_encrypt, List.length_take, Nat.min_eq_left hl, Seal.sealedSegmentLength]

theorem Lawful.length_joined_fullSegments (h : c.Lawful) (index : Nat) (text : Bytes) :
    (Seal.joined (c.encryptAll (Seal.fullSegments index text))).length =
      text.length / Seal.segmentLength * Seal.sealedSegmentLength := by
  induction index, text using Seal.segments_induction with
  | short index text hl => simp [Seal.fullSegments_of_lt hl, Seal.length_div_of_lt hl]
  | long index text hl ih =>
    rw [Seal.fullSegments_of_le hl, encryptAll_cons, Seal.joined_cons, List.length_append, ih,
      h.length_encrypt_take _ hl, Seal.length_div_of_le hl, Nat.succ_mul, Nat.add_comm]

/-- The sealed length is the one that is announced. -/
theorem Lawful.length_sealFrom (h : c.Lawful) (index : Nat) (text : Bytes) :
    (c.sealFrom index text).length = Seal.sealedLength text.length := by
  induction index, text using Seal.segments_induction with
  | short index text hl =>
    rw [sealFrom_of_lt hl, h.length_encrypt, Seal.sealedLength, Seal.segmentCount,
      Seal.length_div_of_lt hl, Nat.zero_add, Nat.one_mul]
  | long index text hl ih =>
    have hcount : Seal.segmentCount text.length =
        Seal.segmentCount (text.drop Seal.segmentLength).length + 1 := by
      rw [Seal.segmentCount, Seal.segmentCount, Seal.length_div_of_le hl]
    rw [sealFrom_of_le hl, List.length_append, ih, h.length_encrypt_take _ hl, Seal.sealedLength,
      Seal.sealedLength, hcount, Seal.sealedSegmentLength, List.length_drop, Nat.succ_mul]
    omega

end SegmentCipher

end MediaVault
