/-
How a server reads a query of names and values. It cuts the query at every `&`
and each part at its first `=`, takes every plus sign for a blank and then
every percent form for its octet. No name or value that was put into a query
has one of these signs in it, so what is read is what was put in.
-/
import Mathlib.Tactic.SplitIfs
import MediaVault.Proofs.Text.Octets
import MediaVault.Url.Query

namespace MediaVault

variable {x : UInt8} {n : Nat}

/-! ## Percent forms -/

namespace Percent

theorem decode_cons_of_ne (hx : x ≠ 0x25) (rest : Bytes) :
    decode (x :: rest) = x :: decode rest := by
  rcases rest with _ | ⟨a, _ | ⟨b, rest⟩⟩
  · rfl
  · rfl
  · rw [decode]
    split
    · rw [if_neg hx]
    · rfl

/-- A digit of a percent form is of ASCII, and no sign that ends a name or a value. -/
theorem of_digit (h : n < 16) :
    (digit n).toNat < 0x80 ∧ UInt8.ofNat (digit n).toNat ≠ 0x26 ∧
      UInt8.ofNat (digit n).toNat ≠ 0x3d := by
  have hall : ∀ n < 16, (digit n).toNat < 0x80 ∧ UInt8.ofNat (digit n).toNat ≠ 0x26 ∧
      UInt8.ofNat (digit n).toNat ≠ 0x3d := by decide
  exact hall n h

theorem hexValue?_digit (h : n < 16) :
    UInt8.ofNat (digit n).toNat ≠ 0x2b ∧
      Bytes.hexValue? (UInt8.ofNat (digit n).toNat) = some n := by
  have hall : ∀ n < 16, UInt8.ofNat (digit n).toNat ≠ 0x2b ∧
      Bytes.hexValue? (UInt8.ofNat (digit n).toNat) = some n := by decide
  exact hall n h

/-- The octets of a percent form. -/
def escapeOctets (x : UInt8) : Bytes := (escape x).map fun c => UInt8.ofNat c.toNat

theorem decode_escapeOctets (x : UInt8) (rest : Bytes) :
    decode (escapeOctets x ++ rest) = x :: decode rest := by
  have hx : x.toNat < 256 := x.toNat_lt
  obtain ⟨-, hhigh⟩ := hexValue?_digit (show x.toNat / 16 < 16 by omega)
  obtain ⟨-, hlow⟩ := hexValue?_digit (show x.toNat % 16 < 16 by omega)
  have hvalue : UInt8.ofNat (x.toNat / 16 * 16 + x.toNat % 16) = x := by
    rw [Nat.div_add_mod', UInt8.ofNat_toNat]
  have hpercent : UInt8.ofNat '%'.toNat = 0x25 := rfl
  simp only [escapeOctets, escape, List.map_cons, List.map_nil, List.cons_append, List.nil_append]
  rw [decode, hhigh, hlow]
  simp only [hpercent, if_true, hvalue]

end Percent

namespace Url

/-! ## Names and values -/

/-- What an octet of a query stands for before percent forms are looked at. -/
def blankOfPlus (x : UInt8) : UInt8 := if x = 0x2b then 0x20 else x

/-- The octets that a name or value in a query stands for. -/
def readForm (b : Bytes) : Bytes := Percent.decode (b.map blankOfPlus)

/-- The octets of what stands for an octet. -/
def formOctets (x : UInt8) : Bytes := (formOctet x).map fun c => UInt8.ofNat c.toNat

/-- An octet that stands for itself in a name or value. -/
def StandsForItself (x : UInt8) : Prop :=
  x < 0x80 ∧ ((Char.ofNat x.toNat).isAlphanum ∨ Char.ofNat x.toNat ∈ ['*', '-', '.', '_'])

/-- An octet that stands for itself means nothing in a query. -/
theorem StandsForItself.ne (h : StandsForItself x) : x ≠ 0x25 ∧ x ≠ 0x26 ∧ x ≠ 0x2b ∧ x ≠ 0x3d := by
  have hc := h.2
  refine ⟨?_, ?_, ?_, ?_⟩
  all_goals
    rintro rfl
    revert hc
    decide

theorem toNat_charOfOctet (x : UInt8) : (Char.ofNat x.toNat).toNat = x.toNat := by
  have hvalid : x.toNat.isValidChar := .inl (Nat.lt_trans x.toNat_lt (by decide))
  rw [Char.ofNat, dif_pos hvalid]
  rfl

/-- What stands for an octet is of ASCII, and has no sign in it that ends a name or a value. -/
theorem of_mem_formOctet {c : Char} (h : c ∈ formOctet x) :
    c.toNat < 0x80 ∧ UInt8.ofNat c.toNat ≠ 0x26 ∧ UInt8.ofNat c.toNat ≠ 0x3d := by
  unfold formOctet at h
  dsimp only at h
  split_ifs at h with hself hblank
  · obtain ⟨-, hamp, -, hequal⟩ := StandsForItself.ne hself
    rw [List.mem_singleton.mp h, toNat_charOfOctet, UInt8.ofNat_toNat]
    exact ⟨UInt8.lt_iff_toNat_lt.mp hself.1, hamp, hequal⟩
  · rw [List.mem_singleton.mp h]
    decide
  · have hx : x.toNat < 256 := x.toNat_lt
    simp only [Percent.escape, List.mem_cons, List.not_mem_nil, or_false] at h
    rcases h with rfl | rfl | rfl
    · decide
    · exact Percent.of_digit (by omega)
    · exact Percent.of_digit (by omega)

theorem readForm_cons_of_standsForItself (h : StandsForItself x) (rest : Bytes) :
    readForm (x :: rest) = x :: readForm rest := by
  obtain ⟨hpercent, -, hplus, -⟩ := h.ne
  rw [readForm, List.map_cons, blankOfPlus, if_neg hplus, Percent.decode_cons_of_ne hpercent]
  rfl

theorem readForm_escapeOctets (x : UInt8) (rest : Bytes) :
    readForm (Percent.escapeOctets x ++ rest) = x :: readForm rest := by
  have hx : x.toNat < 256 := x.toNat_lt
  obtain ⟨hhigh, -⟩ := Percent.hexValue?_digit (show x.toNat / 16 < 16 by omega)
  obtain ⟨hlow, -⟩ := Percent.hexValue?_digit (show x.toNat % 16 < 16 by omega)
  have hkept : (Percent.escapeOctets x).map blankOfPlus = Percent.escapeOctets x := by
    simp [Percent.escapeOctets, Percent.escape, blankOfPlus, hhigh, hlow]
  rw [readForm, List.map_append, hkept, Percent.decode_escapeOctets]
  rfl

/-- **An octet of a name or value** is read again. -/
theorem readForm_formOctets (x : UInt8) (rest : Bytes) :
    readForm (formOctets x ++ rest) = x :: readForm rest := by
  unfold formOctets formOctet
  dsimp only
  split_ifs with hself hblank
  · rw [List.map_singleton, toNat_charOfOctet, UInt8.ofNat_toNat]
    exact readForm_cons_of_standsForItself hself rest
  · subst hblank
    exact Percent.decode_cons_of_ne (by decide) _
  · exact readForm_escapeOctets x rest

/-- The octets of a name or value. -/
theorem ofText_formText (s : String) :
    Bytes.ofText (formText s) = (Bytes.ofText s).flatMap formOctets := by
  rw [formText, Bytes.ofText_ofList_of_ascii, List.map_flatMap]
  · rfl
  · intro c hc
    obtain ⟨x, -, hx⟩ := List.mem_flatMap.mp hc
    exact (of_mem_formOctet hx).1

theorem readForm_formText (s : String) : readForm (Bytes.ofText (formText s)) = Bytes.ofText s := by
  rw [ofText_formText]
  induction Bytes.ofText s with
  | nil => rfl
  | cons x rest ih => rw [List.flatMap_cons, readForm_formOctets, ih]

/-- No name or value has a sign in it that ends one. -/
theorem not_mem_formText {s : String} {x : UInt8} (h : x ∈ Bytes.ofText (formText s)) :
    x ≠ 0x26 ∧ x ≠ 0x3d := by
  rw [ofText_formText] at h
  obtain ⟨y, -, hy⟩ := List.mem_flatMap.mp h
  obtain ⟨c, hc, rfl⟩ := List.mem_map.mp hy
  exact (of_mem_formOctet hc).2

/-! ## Pairs -/

/-- The name and the value that a part of a query stands for, if both are texts. -/
def readPair (part : Bytes) : Option (String × String) := do
  let name ← (readForm (part.takeWhile (· ≠ 0x3d))).text?
  let value ← (readForm ((part.dropWhile (· ≠ 0x3d)).drop 1)).text?
  return (name, value)

/-- The names and values that a query stands for, if all of them are texts. -/
def readPairs (query : String) : Option (List (String × String)) :=
  (((Bytes.ofText query).splitOn 0x26).filter (· ≠ [])).mapM readPair

/-- The octets of a name and its value in a query. -/
def pairOctets (pair : String × String) : Bytes :=
  Bytes.ofText (formText pair.1) ++ 0x3d :: Bytes.ofText (formText pair.2)

theorem ofText_formPairs (pairs : List (String × String)) :
    Bytes.ofText (formPairs pairs) = [0x26].intercalate (pairs.map pairOctets) := by
  rw [formPairs, Bytes.ofText_intercalate, List.map_map]
  refine congrArg ([0x26] : Bytes).intercalate (List.map_congr_left fun pair _ => ?_)
  change Bytes.ofText (formText pair.1 ++ "=" ++ formText pair.2) = pairOctets pair
  rw [Bytes.ofText_append, Bytes.ofText_append, List.append_assoc]
  rfl

theorem not_mem_pairOctets (pair : String × String) : 0x26 ∉ pairOctets pair := by
  intro h
  rw [pairOctets, List.mem_append, List.mem_cons] at h
  rcases h with h | h | h
  · exact (not_mem_formText h).1 rfl
  · cases h
  · exact (not_mem_formText h).1 rfl

theorem readPair_pairOctets (pair : String × String) : readPair (pairOctets pair) = some pair := by
  have hname : ∀ x ∈ Bytes.ofText (formText pair.1), decide (x ≠ 0x3d) = true := fun x hx =>
    decide_eq_true (not_mem_formText hx).2
  rw [pairOctets, readPair, List.takeWhile_append_of_pos hname, List.dropWhile_append_of_pos hname]
  simp [readForm_formText]

theorem mapM_readPair (pairs : List (String × String)) :
    (pairs.map pairOctets).mapM readPair = some pairs := by
  induction pairs with
  | nil => rfl
  | cons pair pairs ih =>
    rw [List.map_cons, List.mapM_cons, readPair_pairOctets, ih]
    rfl

/-- **What is put into a query** is read from it again, name by name and value by value. -/
theorem readPairs_formPairs (pairs : List (String × String)) :
    readPairs (formPairs pairs) = some pairs := by
  by_cases hnone : pairs = []
  · subst hnone
    rfl
  have hparts : ∀ part ∈ pairs.map pairOctets, 0x26 ∉ part := by
    rw [List.forall_mem_map]
    exact fun pair _ => not_mem_pairOctets pair
  have hkept : (pairs.map pairOctets).filter (· ≠ []) = pairs.map pairOctets := by
    rw [List.filter_eq_self, List.forall_mem_map]
    intro pair _
    simp [pairOctets]
  rw [readPairs, ofText_formPairs, List.splitOn_intercalate _ hparts (by simpa using hnone), hkept,
    mapM_readPair]

/-- Different names and values make different queries. -/
theorem formPairs_inj {pairs others : List (String × String)} :
    formPairs pairs = formPairs others ↔ pairs = others := by
  refine ⟨fun h => ?_, congrArg formPairs⟩
  rw [← Option.some_inj, ← readPairs_formPairs pairs, h, readPairs_formPairs]

end Url

end MediaVault
