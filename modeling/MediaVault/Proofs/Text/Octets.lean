/-
Texts and their octets. The UTF-8 form of a text is that of its characters one
after another, and the text is read again from it. A text begins with another
one exactly if its octets do.
-/
import MediaVault.Bytes

namespace MediaVault.Bytes

variable {s t : String} {c : Char} {x : UInt8}

/-! ## Characters -/

/-- A character of ASCII is its own octet. -/
theorem utf8EncodeChar_of_lt (h : c.toNat < 0x80) :
    String.utf8EncodeChar c = [UInt8.ofNat c.toNat] := by
  have hc : c.val.toNat ≤ 0x7f := Nat.lt_succ_iff.mp h
  rw [String.utf8EncodeChar]
  simp only [hc, if_true]
  rfl

theorem toNat_ofNat (h : c.toNat < 0x80) : (UInt8.ofNat c.toNat).toNat = c.toNat := by
  rw [UInt8.toNat_ofNat', Nat.mod_eq_of_lt (by omega)]

theorem le_ofNat {n : Nat} (hlow : 0x80 ≤ n) (hhigh : n < 0x100) : 0x80 ≤ UInt8.ofNat n := by
  rw [UInt8.le_iff_toNat_le, UInt8.toNat_ofNat', Nat.mod_eq_of_lt hhigh]
  exact hlow

/-- No octet of a character beyond ASCII is one of ASCII. -/
theorem le_of_mem_utf8EncodeChar (h : 0x80 ≤ c.toNat) (hx : x ∈ String.utf8EncodeChar c) :
    0x80 ≤ x := by
  have hc : ¬ c.val.toNat ≤ 0x7f := Nat.not_le.mpr h
  rw [String.utf8EncodeChar] at hx
  simp only [hc, if_false] at hx
  obtain ⟨n, hlow, hhigh, rfl⟩ : ∃ n, 0x80 ≤ n ∧ n < 0x100 ∧ x = UInt8.ofNat n := by
    split at hx
    · simp only [List.mem_cons, List.not_mem_nil, or_false] at hx
      rcases hx with rfl | rfl <;> exact ⟨_, by omega, by omega, rfl⟩
    split at hx <;> simp only [List.mem_cons, List.not_mem_nil, or_false] at hx
    · rcases hx with rfl | rfl | rfl <;> exact ⟨_, by omega, by omega, rfl⟩
    · rcases hx with rfl | rfl | rfl | rfl <;> exact ⟨_, by omega, by omega, rfl⟩
  exact le_ofNat hlow hhigh

/-! ## Texts -/

theorem ofText_ofList (cs : List Char) :
    ofText (String.ofList cs) = cs.flatMap String.utf8EncodeChar := by
  rw [ofText, String.toUTF8_eq_toByteArray, String.toByteArray_ofList, List.utf8Encode,
    List.data_toByteArray]

/-- A text of ASCII has an octet for each character. -/
theorem ofText_ofList_of_ascii {cs : List Char} (h : ∀ c ∈ cs, c.toNat < 0x80) :
    ofText (String.ofList cs) = cs.map fun c => UInt8.ofNat c.toNat := by
  rw [ofText_ofList]
  induction cs with
  | nil => rfl
  | cons c cs ih =>
    rw [List.forall_mem_cons] at h
    rw [List.flatMap_cons, utf8EncodeChar_of_lt h.1, ih h.2]
    rfl

theorem ofText_eq_flatMap (s : String) : ofText s = s.toList.flatMap String.utf8EncodeChar := by
  rw [← ofText_ofList, String.ofList_toList]

@[simp] theorem ofText_append (s t : String) : ofText (s ++ t) = ofText s ++ ofText t := by
  simp [ofText_eq_flatMap]

theorem ofText_intercalate (sep : String) (parts : List String) :
    ofText (sep.intercalate parts) = (ofText sep).intercalate (parts.map ofText) := by
  induction parts with
  | nil => rfl
  | cons part parts ih =>
    cases parts with
    | nil => rw [String.intercalate_singleton, List.map_singleton, List.intercalate_singleton]
    | cons =>
      rw [String.intercalate_cons_cons, ofText_append, ofText_append, ih, List.map_cons,
        List.map_cons, List.map_cons, List.intercalate_cons_cons, List.append_assoc]

/-- The octets of a text are read as that text. -/
@[simp] theorem text?_ofText (s : String) : text? (ofText s) = some s := by
  have hbytes : (⟨(ofText s).toArray⟩ : ByteArray) = s.toByteArray := rfl
  rw [text?, hbytes, String.fromUTF8?, dif_pos s.isValidUTF8]
  rfl

/-- A text begins with another one if its octets begin with those of the other. -/
theorem ofText_isPrefix_iff : ofText s <+: ofText t ↔ s.toList <+: t.toList := by
  constructor
  · rintro ⟨rest, h⟩
    refine List.isPrefix_of_utf8Encode_append_eq_utf8Encode rest.toByteArray ?_
    rw [String.utf8Encode_toList, String.utf8Encode_toList, ByteArray.ext_iff,
      ByteArray.data_append, List.data_toByteArray, ← Array.toList_inj, Array.toList_append]
    exact h
  · rintro ⟨rest, h⟩
    exact ⟨rest.flatMap String.utf8EncodeChar, by simp [ofText_eq_flatMap, ← h]⟩

end MediaVault.Bytes
