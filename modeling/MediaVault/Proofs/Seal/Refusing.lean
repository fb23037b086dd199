/-
Why an object does not open. Its length alone cuts it into whole segments and
a final part. A whole segment that does not open at its position comes first;
only if all of them open is the final part looked at, which may be too short
for a tag or may not open. It is too short exactly if the object has a length
that no sealed text has.
-/
import MediaVault.Proofs.Seal.RoundTrip

namespace MediaVault

namespace Seal

/-- How many whole sealed segments an object begins with. -/
def wholeCount (sealed : Bytes) : Nat := sealed.length / sealedSegmentLength

/-- The whole segment at a position. -/
def wholeSegment (sealed : Bytes) (i : Nat) : Bytes :=
  (sealed.drop (i * sealedSegmentLength)).take sealedSegmentLength

/-- What an object has after its whole segments. -/
def finalPart (sealed : Bytes) : Bytes := sealed.drop (wholeCount sealed * sealedSegmentLength)

variable {sealed : Bytes}

theorem sealedSegmentLength_pos : 0 < sealedSegmentLength := by decide

theorem length_finalPart (sealed : Bytes) :
    (finalPart sealed).length = sealed.length % sealedSegmentLength := by
  rw [finalPart, List.length_drop, wholeCount, Nat.mul_comm, Nat.mod_eq_sub_mul_div]

/-! ## One whole segment more -/

theorem wholeCount_of_lt (h : sealed.length < sealedSegmentLength) : wholeCount sealed = 0 :=
  Nat.div_eq_of_lt h

theorem wholeCount_of_le (h : sealedSegmentLength ≤ sealed.length) :
    wholeCount sealed = wholeCount (sealed.drop sealedSegmentLength) + 1 := by
  rw [wholeCount, wholeCount, List.length_drop, Nat.div_eq_sub_div sealedSegmentLength_pos h]

theorem wholeSegment_zero (sealed : Bytes) :
    wholeSegment sealed 0 = sealed.take sealedSegmentLength := by
  rw [wholeSegment, Nat.zero_mul, List.drop_zero]

theorem wholeSegment_succ (sealed : Bytes) (i : Nat) :
    wholeSegment sealed (i + 1) = wholeSegment (sealed.drop sealedSegmentLength) i := by
  rw [wholeSegment, wholeSegment, List.drop_drop, Nat.succ_mul, Nat.add_comm]

theorem finalPart_of_lt (h : sealed.length < sealedSegmentLength) : finalPart sealed = sealed := by
  rw [finalPart, wholeCount_of_lt h, Nat.zero_mul, List.drop_zero]

theorem finalPart_of_le (h : sealedSegmentLength ≤ sealed.length) :
    finalPart sealed = finalPart (sealed.drop sealedSegmentLength) := by
  rw [finalPart, finalPart, List.drop_drop, wholeCount_of_le h, Nat.succ_mul, Nat.add_comm]

/-! ## The lengths of sealed texts -/

/-- A length is that of a sealed text exactly if what is left after the whole segments has a tag. -/
theorem exists_sealedLength_eq_iff (n : Nat) :
    (∃ m, sealedLength m = n) ↔ tagLength ≤ n % sealedSegmentLength := by
  simp only [sealedLength, segmentCount, sealedSegmentLength, segmentLength, tagLength]
  constructor
  · rintro ⟨m, rfl⟩
    omega
  · intro h
    exact ⟨n / 65552 * 65536 + (n % 65552 - 16), by omega⟩

end Seal

namespace SegmentCipher

variable {c : SegmentCipher} {total index : Nat} {sealed : Bytes} {f : SealFault}

/-- The whole segments open, the first of them at `index`. -/
def OpensWhole (c : SegmentCipher) (index : Nat) (sealed : Bytes) : Prop :=
  ∀ i < Seal.wholeCount sealed, c.decrypt ⟨index + i, false⟩ (Seal.wholeSegment sealed i) ≠ none

theorem opensWhole_of_lt (h : sealed.length < Seal.sealedSegmentLength) :
    c.OpensWhole index sealed := by
  intro i hi
  rw [Seal.wholeCount_of_lt h] at hi
  cases hi

theorem opensWhole_of_le (h : Seal.sealedSegmentLength ≤ sealed.length) :
    c.OpensWhole index sealed ↔
      c.decrypt ⟨index, false⟩ (sealed.take Seal.sealedSegmentLength) ≠ none ∧
        c.OpensWhole (index + 1) (sealed.drop Seal.sealedSegmentLength) := by
  simp only [OpensWhole, Seal.wholeCount_of_le h]
  constructor
  · intro hall
    refine ⟨?_, fun i hi => ?_⟩
    · rw [← Seal.wholeSegment_zero]
      exact hall 0 (Nat.succ_pos _)
    · rw [← Seal.wholeSegment_succ, Nat.add_right_comm]
      exact hall (i + 1) (Nat.succ_lt_succ hi)
  · rintro ⟨hfirst, hrest⟩ i hi
    cases i with
    | zero => rwa [Seal.wholeSegment_zero]
    | succ i =>
      rw [Seal.wholeSegment_succ, Nat.add_comm i, ← Nat.add_assoc]
      exact hrest i (Nat.lt_of_succ_lt_succ hi)

/-- A whole segment that does not open is the reason, whatever comes after it. -/
theorem openFrom_of_not_opensWhole (h : ¬ c.OpensWhole index sealed) :
    c.openFrom total index sealed = .error .opening := by
  fun_induction openFrom c total index sealed with
  | case1 => rfl
  | case2 => rfl
  | case3 index sealed hfull hi text hd ih =>
    rw [opensWhole_of_le hfull, hd] at h
    rw [ih fun hrest => h ⟨Option.some_ne_none text, hrest⟩]
    rfl
  | case4 _ _ hshort => exact absurd (opensWhole_of_lt (Nat.lt_of_not_le hshort)) h
  | case5 _ _ hshort => exact absurd (opensWhole_of_lt (Nat.lt_of_not_le hshort)) h
  | case6 _ _ hshort => exact absurd (opensWhole_of_lt (Nat.lt_of_not_le hshort)) h

/-- What opens after whole segments opens with their text before it, and what does not is refused
for its own reason. -/
theorem openFrom_of_opensWhole (h : c.OpensWhole index sealed)
    (hr : index + Seal.wholeCount sealed ≤ Place.limit) :
    ∃ front, c.openFrom total index sealed =
      (c.openFrom total (index + Seal.wholeCount sealed) (Seal.finalPart sealed)).map (front ++ ·) := by
  induction hm : Seal.wholeCount sealed generalizing index sealed with
  | zero =>
    have hlt : sealed.length < Seal.sealedSegmentLength :=
      (Nat.div_eq_zero_iff_lt Seal.sealedSegmentLength_pos).mp hm
    refine ⟨[], ?_⟩
    rw [Seal.finalPart_of_lt hlt, Nat.add_zero]
    cases c.openFrom total index sealed <;> rfl
  | succ m ih =>
    have hfull : Seal.sealedSegmentLength ≤ sealed.length := by
      refine Nat.le_of_not_lt fun hlt => ?_
      rw [Seal.wholeCount_of_lt hlt] at hm
      cases hm
    obtain ⟨hfirst, hrest⟩ := (opensWhole_of_le hfull).mp h
    obtain ⟨text, hd⟩ := Option.ne_none_iff_exists'.mp hfirst
    rw [hm] at hr
    have hcount : Seal.wholeCount (sealed.drop Seal.sealedSegmentLength) = m :=
      Nat.succ.inj ((Seal.wholeCount_of_le hfull).symm.trans hm)
    obtain ⟨front, hopen⟩ := ih hrest (by omega) hcount
    refine ⟨text ++ front, ?_⟩
    rw [openFrom_of_full hfull (by omega) hd, hopen, Seal.finalPart_of_le hfull,
      Nat.add_assoc, Nat.add_comm 1]
    cases c.openFrom total (index + (m + 1)) (Seal.finalPart (sealed.drop Seal.sealedSegmentLength))
    · rfl
    · simp only [Except.map, List.append_assoc]

/-- What is left for a final segment opens, or is too short, or is no final segment. -/
theorem openFrom_finalPart (c : SegmentCipher) (total index : Nat) (sealed : Bytes) :
    c.openFrom total index (Seal.finalPart sealed) =
      if (Seal.finalPart sealed).length < Seal.tagLength then .error (.malformed total)
      else
        match c.decrypt ⟨index, true⟩ (Seal.finalPart sealed) with
        | none => .error .opening
        | some text => .ok text := by
  have hlt : (Seal.finalPart sealed).length < Seal.sealedSegmentLength := by
    rw [Seal.length_finalPart]
    exact Nat.mod_lt _ Seal.sealedSegmentLength_pos
  rw [openFrom]
  exact dif_neg (Nat.not_le_of_lt hlt)

/-- Why an object does not open. -/
inductive Refuses (c : SegmentCipher) (sealed : Bytes) : SealFault → Prop
  /-- A whole segment does not open at its position as one that is not the last. -/
  | whole {i} : i < Seal.wholeCount sealed →
      c.decrypt ⟨i, false⟩ (Seal.wholeSegment sealed i) = none → Refuses c sealed .opening
  /-- All whole segments open, and nothing is left that could be a final one. -/
  | short : (∀ i < Seal.wholeCount sealed,
        c.decrypt ⟨i, false⟩ (Seal.wholeSegment sealed i) ≠ none) →
      (Seal.finalPart sealed).length < Seal.tagLength → Refuses c sealed (.malformed sealed.length)
  /-- All whole segments open, and what is left does not open at the next position as the last. -/
  | final : (∀ i < Seal.wholeCount sealed,
        c.decrypt ⟨i, false⟩ (Seal.wholeSegment sealed i) ≠ none) →
      Seal.tagLength ≤ (Seal.finalPart sealed).length →
      c.decrypt ⟨Seal.wholeCount sealed, true⟩ (Seal.finalPart sealed) = none →
      Refuses c sealed .opening

/-- **An object does not open** for the first of these reasons, and for no other. -/
theorem openObject_eq_error (hr : Seal.wholeCount sealed ≤ Place.limit) :
    c.openObject sealed = .error f ↔ c.Refuses sealed f := by
  have hwhole : c.OpensWhole 0 sealed ↔ ∀ i < Seal.wholeCount sealed,
      c.decrypt ⟨i, false⟩ (Seal.wholeSegment sealed i) ≠ none := by
    simp only [OpensWhole, Nat.zero_add]
  by_cases hall : c.OpensWhole 0 sealed
  · obtain ⟨front, hopen⟩ : ∃ front, c.openFrom sealed.length 0 sealed =
        (c.openFrom sealed.length (0 + Seal.wholeCount sealed) (Seal.finalPart sealed)).map
          (front ++ ·) :=
      openFrom_of_opensWhole hall (by rwa [Nat.zero_add])
    rw [Nat.zero_add, openFrom_finalPart] at hopen
    rw [hwhole] at hall
    rw [openObject, hopen]
    constructor
    · intro h
      split at h
      next hshort =>
        cases h
        exact .short hall hshort
      next htag =>
        split at h
        next hd =>
          cases h
          exact .final hall (Nat.le_of_not_lt htag) hd
        next => cases h
    · intro h
      cases h with
      | whole hi hd => exact absurd hd (hall _ hi)
      | short _ hshort => rw [if_pos hshort]; rfl
      | final _ htag hd => rw [if_neg (Nat.not_lt_of_le htag), hd]; rfl
  · rw [openObject, openFrom_of_not_opensWhole hall]
    rw [hwhole] at hall
    constructor
    · intro h
      cases h
      simp only [Classical.not_forall, Classical.not_not] at hall
      obtain ⟨i, hi, hd⟩ := hall
      exact .whole hi hd
    · intro h
      cases h with
      | whole => rfl
      | short hopens _ => exact absurd hopens hall
      | final => rfl

end SegmentCipher

namespace SealKey

/-- **Which fault an object is refused with.** The first whole segment that does not open, then an
end that is too short for a tag, then a final part that does not open; there is no other fault, and
without one of them the object opens. The end is too short exactly if no sealed text is as long as
the object: such an object never opens, and only such a one is called malformed. -/
theorem refused_as (k : SealKey) {sealed : Bytes} (hr : Seal.wholeCount sealed ≤ Place.limit) :
    (∀ f, k.openObject sealed = .error f ↔ k.cipher.Refuses sealed f) ∧
      ((Seal.finalPart sealed).length < Seal.tagLength ↔
        ∀ m, Seal.sealedLength m ≠ sealed.length) ∧
      (∀ text, k.openObject sealed = .ok text → Seal.sealedLength text.length = sealed.length) ∧
      ∀ n, k.openObject sealed = .error (.malformed n) →
        n = sealed.length ∧ ∀ m, Seal.sealedLength m ≠ sealed.length := by
  have hlengths : (Seal.finalPart sealed).length < Seal.tagLength ↔
      ∀ m, Seal.sealedLength m ≠ sealed.length := by
    rw [← not_exists, Seal.exists_sealedLength_eq_iff, Seal.length_finalPart, Nat.not_le]
  refine ⟨fun f => SegmentCipher.openObject_eq_error hr, hlengths, fun text hopen => ?_,
    fun n hopen => ?_⟩
  · rw [← k.lawful_cipher.length_sealFrom 0, sealFrom_of_openObject hopen]
  · cases (SegmentCipher.openObject_eq_error hr).mp hopen with
    | short _ hshort => exact ⟨rfl, hlengths.mp hshort⟩

/-- A full segment that has lost the empty final segment after it. -/
theorem refused_as_without_final :
    let k := SealKey.ofRandom []
    let sealed := k.cipher.encrypt ⟨0, false⟩ (List.replicate Seal.segmentLength 7)
    Seal.wholeCount sealed ≤ Place.limit ∧
      k.openObject sealed = .error (.malformed Seal.sealedSegmentLength) ∧
      ∀ m, Seal.sealedLength m ≠ sealed.length := by
  intro k sealed
  have hlen : sealed.length = Seal.sealedSegmentLength := by
    simp only [sealed, k.lawful_cipher.length_encrypt, List.length_replicate, Seal.sealedSegmentLength]
  have hcount : Seal.wholeCount sealed = 1 := by
    rw [Seal.wholeCount, hlen]
    decide
  have hr : Seal.wholeCount sealed ≤ Place.limit := by
    rw [hcount]
    decide
  obtain ⟨hrefused, hlengths, -, -⟩ := refused_as k hr
  have hshort : (Seal.finalPart sealed).length < Seal.tagLength := by
    rw [Seal.length_finalPart, hlen]
    decide
  refine ⟨hr, ?_, hlengths.mp hshort⟩
  rw [← hlen]
  refine (hrefused _).mpr (.short (fun i hi => ?_) hshort)
  obtain rfl : i = 0 := by omega
  rw [Seal.wholeSegment_zero, List.take_of_length_le (Nat.le_of_eq hlen),
    k.lawful_cipher.decrypt_encrypt]
  exact Option.some_ne_none _

end SealKey

end MediaVault
