/-
What is written as JSON is read again. A reader takes a written value off the
front of the octets that hold it and leaves what follows; values follow each
other only behind a comma or before a closing sign, so a number ends where it
was ended. Lists and objects are read by what reads their parts.
-/
import Mathlib.Data.List.Forall2
import Mathlib.Tactic.SplitIfs
import MediaVault.Json.Reader
import MediaVault.Json.Value
import MediaVault.Proofs.Text.Octets

namespace MediaVault.Json

/-- The octets of a value on one line. -/
def octets (v : Json) : Bytes := Bytes.ofText v.compact

namespace Reader

variable {α β σ : Type} {x : UInt8} {rest b b' : Bytes} {a : α} {c : Char} {n : Nat}

/-! ## Steps -/

theorem run_bind_of {r : Reader α} {next : α → Reader β} (h : r.run b = some (a, b')) :
    (r >>= next).run b = (next a).run b' := by
  rw [StateT.run_bind, h]
  rfl

theorem run_blanks (hx : isBlank x = false) (rest : Bytes) :
    blanks.run (x :: rest) = some ((), x :: rest) := by simp [blanks, hx]

theorem run_get_bind (next : Bytes → Reader β) (b : Bytes) :
    (get >>= next).run b = (next b).run b := rfl

theorem run_peek (hx : isBlank x = false) (rest : Bytes) :
    peek.run (x :: rest) = some (x, x :: rest) := by
  rw [peek, run_bind_of (run_blanks hx rest)]
  rfl

theorem run_sign (hc : isBlank (UInt8.ofNat c.toNat) = false) (rest : Bytes) :
    (sign c).run (UInt8.ofNat c.toNat :: rest) = some ((), rest) := by
  rw [sign, run_bind_of (run_peek hc rest), if_pos rfl]
  rfl

theorem run_next? (hx : isBlank x = false) (rest : Bytes) :
    (next? c).run (x :: rest) = some (decide (x = UInt8.ofNat c.toNat), x :: rest) := by
  rw [next?, run_bind_of (run_peek hx rest)]
  rfl

/-- Where a closing sign is next, nothing more is read. -/
theorem run_closed (hc : isBlank (UInt8.ofNat c.toNat) = false) (a : α) (more : Reader α)
    (rest : Bytes) :
    (do if ← next? c then (do sign c; return a) else more : Reader α).run
      (UInt8.ofNat c.toNat :: rest) = some (a, rest) := by
  rw [run_bind_of (run_next? hc rest), if_pos (decide_eq_true rfl), run_bind_of (run_sign hc rest)]
  rfl

/-- Where another sign is next, more is read. -/
theorem run_unclosed (hx : isBlank x = false) (hne : x ≠ UInt8.ofNat c.toNat) (a : α)
    (more : Reader α) (rest : Bytes) :
    (do if ← next? c then (do sign c; return a) else more : Reader α).run (x :: rest) =
      more.run (x :: rest) := by
  rw [run_bind_of (run_next? hx rest), if_neg (by simpa using hne)]

/-! ## Texts -/

theorem textBody_quote (rest : Bytes) : textBody (0x22 :: rest) = some ([], rest) := by
  rw [textBody]

/-- An octet that stands for itself. -/
def IsPlain (x : UInt8) : Prop := 0x20 ≤ x ∧ x ≠ 0x22 ∧ x ≠ 0x5c

theorem textBody_plain (hx : IsPlain x) (rest : Bytes) :
    textBody (x :: rest) = (textBody rest).map fun p => (x :: p.1, p.2) := by
  obtain ⟨hcontrol, hquote, hback⟩ := hx
  have hkept : ¬ (x < 0x20 ∨ x = 0x5c) := by simp [hcontrol, hback]
  rw [textBody]
  · rw [if_neg hkept]
    cases textBody rest <;> rfl
  all_goals simp [hback, hquote]

theorem textBody_plain_append {bs : Bytes} (h : ∀ x ∈ bs, IsPlain x) (rest : Bytes) :
    textBody (bs ++ rest) = (textBody rest).map fun p => (bs ++ p.1, p.2) := by
  induction bs with
  | nil => simp
  | cons x bs ih =>
    rw [List.forall_mem_cons] at h
    rw [List.cons_append, textBody_plain h.1, ih h.2, Option.map_map]
    rfl

/-- A character after a backslash. -/
theorem textBody_short {y : UInt8} (hx : shortEscape? x = some y) (rest : Bytes) :
    textBody (0x5c :: x :: rest) = (textBody rest).map fun p => (y :: p.1, p.2) := by
  have hx' : x ≠ 0x75 := by
    rintro rfl
    simp [shortEscape?] at hx
  rw [textBody]
  · rw [hx]
    cases textBody rest <;> rfl
  all_goals simp [hx']

/-- Four digits after a backslash that are no half of a pair. Whether another such form follows
makes no difference. -/
theorem textBody_hex {h₁ h₂ h₃ h₄ : UInt8} (hn : hexWord? h₁ h₂ h₃ h₄ = some n) (hlow : n < 0xd800)
    (rest : Bytes) :
    textBody (0x5c :: 0x75 :: h₁ :: h₂ :: h₃ :: h₄ :: rest) =
      (textBody rest).map fun p => (String.utf8EncodeChar (Char.ofNat n) ++ p.1, p.2) := by
  have hchar : codePoint? n = some (String.utf8EncodeChar (Char.ofNat n)) := if_pos (.inl hlow)
  by_cases hpair : ∃ e f g h after, rest = 0x5c :: 0x75 :: e :: f :: g :: h :: after
  · obtain ⟨e, f, g, h, after, rfl⟩ := hpair
    rw [textBody, hn, Option.bind_eq_bind, Option.bind_some, if_neg (by omega), hchar]
    cases textBody (0x5c :: 0x75 :: e :: f :: g :: h :: after) <;> rfl
  · rw [textBody]
    · rw [hn, Option.bind_some, hchar]
      cases textBody rest <;> rfl
    · rintro e f g h after rfl
      exact hpair ⟨e, f, g, h, after, rfl⟩

/-- The digits that stand for a control. -/
theorem hexWord?_of_lt (hn : n < 0x20) :
    hexWord? 0x30 0x30 (UInt8.ofNat (Nat.digitChar (n / 16)).toNat)
      (UInt8.ofNat (Nat.digitChar (n % 16)).toNat) = some n := by
  have hall : ∀ n < 0x20, hexWord? 0x30 0x30 (UInt8.ofNat (Nat.digitChar (n / 16)).toNat)
      (UInt8.ofNat (Nat.digitChar (n % 16)).toNat) = some n := by decide
  exact hall n hn

theorem toNat_digitChar_lt (hn : n < 16) : (Nat.digitChar n).toNat < 0x80 := by
  have hall : ∀ n < 16, (Nat.digitChar n).toNat < 0x80 := by decide
  exact hall n hn

/-- A character that is not escaped has octets that stand for themselves. -/
theorem isPlain_of_mem (hcontrol : ¬ c.toNat < 0x20) (hquote : c ≠ '"') (hback : c ≠ '\\')
    (hx : x ∈ String.utf8EncodeChar c) : IsPlain x := by
  by_cases hascii : c.toNat < 0x80
  · rw [Bytes.utf8EncodeChar_of_lt hascii, List.mem_singleton] at hx
    have hnat : x.toNat = c.toNat := by
      rw [hx, UInt8.toNat_ofNat', Nat.mod_eq_of_lt (by omega)]
    have hne : ∀ d : Char, c ≠ d → x.toNat ≠ d.toNat := fun d hd heq =>
      hd (Char.toNat_inj.mp (hnat.symm.trans heq))
    refine ⟨?_, ?_, ?_⟩
    · rw [UInt8.le_iff_toNat_le, hnat]
      exact Nat.not_lt.mp hcontrol
    · exact fun heq => hne '"' hquote (congrArg UInt8.toNat heq)
    · exact fun heq => hne '\\' hback (congrArg UInt8.toNat heq)
  · have hhigh := Bytes.le_of_mem_utf8EncodeChar (Nat.not_lt.mp hascii) hx
    rw [UInt8.le_iff_toNat_le] at hhigh
    refine ⟨?_, ?_, ?_⟩
    · rw [UInt8.le_iff_toNat_le]
      exact Nat.le_trans (by decide) hhigh
    · rintro rfl
      exact absurd hhigh (by decide)
    · rintro rfl
      exact absurd hhigh (by decide)

/-- **A written character** is read as its octets. -/
theorem textBody_textChar (c : Char) (rest : Bytes) :
    textBody ((textChar c).flatMap String.utf8EncodeChar ++ rest) =
      (textBody rest).map fun p => (String.utf8EncodeChar c ++ p.1, p.2) := by
  unfold textChar
  split_ifs with hquote hback _ _ _ _ _ hcontrol
  -- Seven characters have a form of their own.
  iterate 7
    · subst_vars
      exact textBody_short rfl rest
  · have hhigh : (Nat.digitChar (c.toNat / 16)).toNat < 0x80 := toNat_digitChar_lt (by omega)
    have hlow : (Nat.digitChar (c.toNat % 16)).toNat < 0x80 := toNat_digitChar_lt (by omega)
    have hread := textBody_hex (hexWord?_of_lt hcontrol) (by omega) rest
    rw [Char.ofNat_toNat] at hread
    simpa [Bytes.utf8EncodeChar_of_lt, hhigh, hlow] using hread
  · rw [List.flatMap_singleton]
    exact textBody_plain_append (fun x => isPlain_of_mem hcontrol hquote hback) rest

theorem textBody_textChars (cs : List Char) (rest : Bytes) :
    textBody ((cs.flatMap textChar).flatMap String.utf8EncodeChar ++ 0x22 :: rest) =
      some (cs.flatMap String.utf8EncodeChar, rest) := by
  induction cs with
  | nil => exact textBody_quote rest
  | cons c cs ih =>
    rw [List.flatMap_cons, List.flatMap_append, List.append_assoc, textBody_textChar, ih]
    rfl

/-- A text begins with a quote. -/
theorem ofText_writeText (s : String) :
    Bytes.ofText (writeText s) =
      0x22 :: ((s.toList.flatMap textChar).flatMap String.utf8EncodeChar ++ [0x22]) := by
  rw [writeText, Bytes.ofText_ofList]
  simp [Bytes.utf8EncodeChar_of_lt]

/-- **A written text** is read, whatever follows it. -/
theorem run_text (s : String) (rest : Bytes) :
    text.run (Bytes.ofText (writeText s) ++ rest) = some (s, rest) := by
  have hquote : ∀ after, (sign '"').run (0x22 :: after) = some ((), after) := run_sign (by decide)
  have htext : Bytes.text? (s.toList.flatMap String.utf8EncodeChar) = some s := by
    rw [← Bytes.ofText_eq_flatMap, Bytes.text?_ofText]
  rw [ofText_writeText, List.cons_append, List.append_assoc, List.singleton_append, text,
    run_bind_of (hquote _)]
  simp [textBody_textChars, htext]

/-! ## Numbers -/

/-- What may follow a value: a comma or a closing sign, if anything. -/
def Follows (rest : Bytes) : Prop := ∀ x ∈ rest.head?, x = 0x2c ∨ x = 0x5d ∨ x = 0x7d

theorem toNat_of_isDigit (hc : c.isDigit = true) : 48 ≤ c.toNat ∧ c.toNat ≤ 57 := by
  simpa [Char.isDigit, UInt32.le_iff_toNat_le] using hc

theorem isBlank_of_isDigit (hx : isDigit x = true) : isBlank x = false := by
  have hdigit : 48 ≤ x.toNat ∧ x.toNat ≤ 57 := by simpa [isDigit] using hx
  unfold isBlank
  simp only [Bool.or_eq_false_iff, decide_eq_false_iff_not]
  refine ⟨⟨⟨?_, ?_⟩, ?_⟩, ?_⟩ <;> rintro rfl <;> exact absurd hdigit (by decide)

theorem isDigit_of_mem_toDigits (hc : c ∈ Nat.toDigits 10 n) : c.isDigit = true :=
  Nat.isDigit_of_mem_toDigits (by decide) (by decide) hc

/-- The octets of a number. -/
theorem ofText_toString (n : Nat) :
    Bytes.ofText (toString n) = (Nat.toDigits 10 n).map fun c => UInt8.ofNat c.toNat := by
  rw [Nat.toString_eq_ofList_toDigits]
  refine Bytes.ofText_ofList_of_ascii fun c hc => ?_
  have := toNat_of_isDigit (isDigit_of_mem_toDigits hc)
  omega

theorem isDigit_ofNat (hc : c.isDigit = true) : isDigit (UInt8.ofNat c.toNat) = true := by
  have hdigit := toNat_of_isDigit hc
  simp [isDigit, Bytes.toNat_ofNat (show c.toNat < 0x80 by omega), hdigit]

/-- The value of digits. -/
theorem foldl_digits {cs : List Char} (h : ∀ c ∈ cs, c.isDigit = true) (n : Nat) :
    (cs.map fun c => UInt8.ofNat c.toNat).foldl (fun n x => n * 10 + (x.toNat - 48)) n =
      Nat.ofDigitChars 10 cs n := by
  induction cs generalizing n with
  | nil => rfl
  | cons c cs ih =>
    rw [List.forall_mem_cons] at h
    have hdigit := toNat_of_isDigit h.1
    rw [List.map_cons, List.foldl_cons, ih h.2, Nat.ofDigitChars_cons,
      Bytes.toNat_ofNat (show c.toNat < 0x80 by omega), Nat.mul_comm]
    rfl

/-- Only zero begins with a zero. -/
theorem head?_toDigits_ne (h : 10 ≤ n) : (Nat.toDigits 10 n).head? ≠ some '0' := by
  induction n using Nat.strongRecOn with
  | ind n ih =>
    rw [Nat.toDigits_of_base_le (by decide) h, List.head?_append,
      Option.or_of_isSome (by simp)]
    by_cases hmore : 10 ≤ n / 10
    · exact ih (n / 10) (by omega) hmore
    · rw [Nat.toDigits_of_lt_base (by omega)]
      simp only [List.head?_cons, ne_eq, Option.some.injEq, Nat.digitChar_eq_zero]
      omega

/-- What the reader of numbers looks at: some digits, without a zero before others, and their
value. -/
theorem digits_toString (n : Nat) :
    let digits := Bytes.ofText (toString n)
    (∀ x ∈ digits, isDigit x = true) ∧ digits ≠ [] ∧
      ¬ (digits.head? = some 48 ∧ digits.length ≠ 1) ∧
      digits.foldl (fun n x => n * 10 + (x.toNat - 48)) 0 = n := by
  have hdigit : ∀ c ∈ Nat.toDigits 10 n, c.isDigit = true := fun c hc => isDigit_of_mem_toDigits hc
  simp only [ofText_toString]
  refine ⟨?_, by simp, ?_, ?_⟩
  · simpa using fun c hc => isDigit_ofNat (hdigit c hc)
  · rintro ⟨hzero, hlength⟩
    rw [List.length_map] at hlength
    by_cases hn : n < 10
    · rw [Nat.toDigits_of_lt_base hn] at hlength
      exact hlength rfl
    · refine head?_toDigits_ne (Nat.not_lt.mp hn) ?_
      rw [List.head?_map, Option.map_eq_some_iff] at hzero
      obtain ⟨c, hc, hzero⟩ := hzero
      have hascii := toNat_of_isDigit (hdigit c (List.mem_of_mem_head? hc))
      have hnat := congrArg UInt8.toNat hzero
      rw [Bytes.toNat_ofNat (by omega)] at hnat
      rw [hc, Char.toNat_inj.mp (show c.toNat = '0'.toNat from hnat)]
  · rw [foldl_digits hdigit, Nat.ofDigitChars_toDigits (by decide) (by decide)]

/-- **A written number** is read up to what may follow it. -/
theorem run_number {bound : Nat} (hn : n ≤ bound) (hrest : Follows rest) :
    (number bound).run (Bytes.ofText (toString n) ++ rest) = some (n, rest) := by
  obtain ⟨hdigits, hne, hzero, hvalue⟩ := digits_toString n
  generalize Bytes.ofText (toString n) = digits at hdigits hne hzero hvalue
  have hstop : rest.takeWhile isDigit = [] ∧ rest.dropWhile isDigit = rest ∧
      rest.head?.any (fun x => x = 0x2e ∨ x = 0x65 ∨ x = 0x45) = false := by
    cases rest with
    | nil => exact ⟨rfl, rfl, rfl⟩
    | cons x rest => rcases hrest x rfl with rfl | rfl | rfl <;> exact ⟨rfl, rfl, rfl⟩
  have hblanks : blanks.run (digits ++ rest) = some ((), digits ++ rest) := by
    obtain ⟨x, more, rfl⟩ := List.exists_cons_of_ne_nil hne
    exact run_blanks (isBlank_of_isDigit (hdigits x List.mem_cons_self)) (more ++ rest)
  have hread : ¬ (digits = [] ∨ (digits.head? = some 48 ∧ digits.length ≠ 1) ∨ bound < n) := by
    rw [not_or, not_or]
    exact ⟨hne, hzero, Nat.not_lt.mpr hn⟩
  rw [number, run_bind_of hblanks]
  simp only [StateT.run_bind, StateT.run_get, Option.pure_def, Option.bind_eq_bind,
    Option.bind_some, List.takeWhile_append_of_pos hdigits, List.dropWhile_append_of_pos hdigits,
    hstop, List.append_nil, hvalue, hread, if_false]
  simp

/-! ## Values -/

/-- The reader takes these octets as a value, whatever follows them. No blank stands before the
value, and it cannot be taken for the end of a list. -/
structure Takes (r : Reader α) (b : Bytes) (a : α) : Prop where
  head : ∃ x more, b = x :: more ∧ isBlank x = false ∧ x ≠ 0x5d
  run : ∀ rest, Follows rest → r.run (b ++ rest) = some (a, rest)

/-- A value is not the end of a list. -/
theorem Takes.unclosed {r : Reader α} (h : Takes r b a) (xs : β) (more : Reader β) (rest : Bytes) :
    (do if ← next? ']' then (do sign ']'; return xs) else more : Reader β).run (b ++ rest) =
      more.run (b ++ rest) := by
  obtain ⟨x, tail, rfl, hblank, hend⟩ := h.head
  exact run_unclosed (c := ']') hblank hend xs more _

theorem Takes.map {r : Reader α} (h : Takes r b a) (f : α → β) :
    Takes (do return f (← r)) b (f a) where
  head := h.head
  run rest hrest := by
    rw [run_bind_of (h.run rest hrest)]
    rfl

theorem takes_text (s : String) : Takes text (octets (.text s)) s where
  head := by
    rw [octets, compact, ofText_writeText]
    exact ⟨0x22, _, rfl, by decide, by decide⟩
  run rest _ := run_text s rest

theorem takes_number {bound : Nat} (hn : n ≤ bound) :
    Takes (number bound) (octets (.number n)) n where
  head := by
    obtain ⟨hdigits, hne, -, -⟩ := digits_toString n
    obtain ⟨x, more, hx⟩ := List.exists_cons_of_ne_nil hne
    have hdigit := hdigits x (hx ▸ List.mem_cons_self)
    refine ⟨x, more, hx, isBlank_of_isDigit hdigit, ?_⟩
    rintro rfl
    exact absurd hdigit (by decide)
  run _ hrest := run_number hn hrest

/-- Where there is `null`, no value is. -/
theorem takes_null (r : Reader α) : Takes (orNull r) (Bytes.ofText "null") none where
  head := ⟨0x6e, _, rfl, by decide, by decide⟩
  run rest _ := by
    have hnull : Bytes.ofText "null" ++ rest = 0x6e :: 0x75 :: 0x6c :: 0x6c :: rest := rfl
    rw [hnull, orNull, run_bind_of (run_blanks (by decide) _)]
    rfl

/-- A value that does not begin like `null` is read as a value. -/
theorem Takes.orNull {r : Reader α} (h : Takes r b a) (hnull : b.head? ≠ some 0x6e) :
    Takes (orNull r) b (some a) where
  head := h.head
  run rest hrest := by
    have hrun := h.run rest hrest
    obtain ⟨x, more, rfl, hblank, -⟩ := h.head
    rw [List.head?_cons, Ne, Option.some_inj] at hnull
    rw [List.cons_append] at hrun ⊢
    rw [Reader.orNull, run_bind_of (run_blanks hblank _), run_get_bind]
    split
    next heq => exact absurd (List.cons.inj heq).1 hnull
    next =>
      rw [StateT.run_map, hrun]
      rfl

/-! ## Lists -/

theorem intercalate_cons (sep part : Bytes) (parts : List Bytes) :
    sep.intercalate (part :: parts) = part ++ parts.flatMap (sep ++ ·) := by
  induction parts generalizing part with
  | nil => simp
  | cons next parts ih =>
    rw [List.intercalate_cons_cons, ih, List.flatMap_cons, List.append_assoc, List.append_assoc]

/-- The octets of a list, by those of its items. -/
def listed (items : List Bytes) : Bytes := 0x5b :: ([0x2c].intercalate items ++ [0x5d])

theorem octets_list (items : List Json) : octets (.list items) = listed (items.map octets) := by
  have hitems : compactItems items = items.map compact := by
    induction items with
    | nil => rfl
    | cons v items ih => rw [compactItems, ih, List.map_cons]
  rw [octets, compact, hitems, listed]
  simp only [Bytes.ofText_append, Bytes.ofText_intercalate, List.map_map]
  rfl

theorem follows_cons (hx : x = 0x2c ∨ x = 0x5d ∨ x = 0x7d) (rest : Bytes) :
    Follows (x :: rest) := by
  intro y hy
  cases hy
  exact hx

/-- What comes after an item is what ends it. -/
theorem follows_flatMap (parts : List Bytes) (hx : x = 0x5d ∨ x = 0x7d) (rest : Bytes) :
    Follows (parts.flatMap ([0x2c] ++ ·) ++ x :: rest) := by
  cases parts with
  | nil => exact follows_cons (.inr hx) rest
  | cons => exact follows_cons (.inl rfl) _

/-- There are at least as many octets as parts. -/
theorem length_le_flatMap (parts : List Bytes) (rest : Bytes) :
    parts.length ≤ (parts.flatMap ([0x2c] ++ ·) ++ rest).length := by
  induction parts with
  | nil => exact Nat.zero_le _
  | cons part parts ih =>
    simp only [List.flatMap_cons, List.length_append, List.length_cons] at ih ⊢
    omega

theorem run_moreItems {item : Reader α} {items : List Bytes} {xs : List α}
    (h : List.Forall₂ (Takes item) items xs) (rest : Bytes) {steps : Nat}
    (hsteps : items.length < steps) :
    (moreItems item steps).run (items.flatMap ([0x2c] ++ ·) ++ 0x5d :: rest) = some (xs, rest) := by
  induction h generalizing steps with
  | nil =>
    obtain ⟨steps, rfl⟩ := Nat.exists_eq_add_one_of_ne_zero (Nat.ne_zero_of_lt hsteps)
    rw [List.flatMap_nil, List.nil_append, moreItems]
    exact run_closed (by decide) [] _ rest
  | @cons b a items xs hitem _ ih =>
    obtain ⟨steps, rfl⟩ := Nat.exists_eq_add_one_of_ne_zero (Nat.ne_zero_of_lt hsteps)
    have hcomma : ∀ after, (sign ',').run (0x2c :: after) = some ((), after) := run_sign (by decide)
    rw [List.flatMap_cons, List.append_assoc, List.append_assoc, List.singleton_append, moreItems]
    refine (run_unclosed (by decide) (by decide) [] _ _).trans ?_
    rw [run_bind_of (hcomma _), run_bind_of (hitem.run _ (follows_flatMap items (.inl rfl) rest)),
      run_bind_of (ih (Nat.lt_of_succ_lt_succ hsteps))]
    rfl

/-- **A written list** is read by what reads its items. -/
theorem takes_list {item : Reader α} {items : List Bytes} {xs : List α}
    (h : List.Forall₂ (Takes item) items xs) : Takes (list item) (listed items) xs where
  head := ⟨0x5b, _, rfl, by decide, by decide⟩
  run rest _ := by
    have hopen : ∀ after, (sign '[').run (0x5b :: after) = some ((), after) := run_sign (by decide)
    rw [listed, List.cons_append, List.append_assoc, list, run_bind_of (hopen _)]
    cases h with
    | nil =>
      exact run_closed (by decide) [] _ rest
    | @cons b a items xs hitem hitems =>
      rw [intercalate_cons, List.append_assoc, List.singleton_append]
      refine (hitem.unclosed [] _ _).trans ?_
      rw [run_bind_of (hitem.run _ (follows_flatMap items (.inl rfl) rest)), run_get_bind,
        run_bind_of (run_moreItems hitems rest (Nat.lt_succ_of_le (length_le_flatMap items _)))]
      rfl

/-! ## Objects -/

/-- The octets of a member of an object, by those of its value. -/
def named (name : String) (value : Bytes) : Bytes := Bytes.ofText (writeText name) ++ 0x3a :: value

/-- The octets of an object, by its members. -/
def gathered (members : List (String × Bytes)) : Bytes :=
  0x7b :: ([0x2c].intercalate (members.map fun m => named m.1 m.2) ++ [0x7d])

theorem octets_record (members : List (String × Json)) :
    octets (.record members) = gathered (members.map fun m => (m.1, octets m.2)) := by
  have hmembers : compactMembers members =
      members.map fun m => writeText m.1 ++ ":" ++ m.2.compact := by
    induction members with
    | nil => rfl
    | cons m members ih => rw [compactMembers, ih, List.map_cons]
  rw [octets, compact, hmembers, gathered]
  have hparts : members.map (Bytes.ofText ∘ fun m => writeText m.1 ++ ":" ++ m.2.compact) =
      (members.map fun m => (m.1, octets m.2)).map fun m => named m.1 m.2 := by
    rw [List.map_map]
    refine List.map_congr_left fun m _ => ?_
    simp only [Function.comp, Bytes.ofText_append, List.append_assoc]
    rfl
  simp only [Bytes.ofText_append, Bytes.ofText_intercalate, List.map_map, hparts]
  rfl

/-- The members of an object, each read into what was gathered by those before it. -/
inductive Gathers (member : String → σ → Reader σ) : σ → List (String × Bytes) → σ → Prop
  | nil (s : σ) : Gathers member s [] s
  | cons {name : String} {value : Bytes} {members : List (String × Bytes)} {s s' s'' : σ} :
      Takes (member name s) value s' → Gathers member s' members s'' →
      Gathers member s ((name, value) :: members) s''

/-- A member is not the end of an object. -/
theorem named_unclosed (name : String) (value : Bytes) (s : σ) (more : Reader σ) (rest : Bytes) :
    (do if ← next? '\x7d' then (do sign '\x7d'; return s) else more : Reader σ).run
      (named name value ++ rest) = more.run (named name value ++ rest) := by
  rw [named, ofText_writeText]
  exact run_unclosed (by decide) (by decide) s more _

/-- More members are gathered to those before them. -/
theorem Gathers.append {member : String → σ → Reader σ} {members more : List (String × Bytes)}
    {s s' s'' : σ} (h : Gathers member s members s') (hmore : Gathers member s' more s'') :
    Gathers member s (members ++ more) s'' := by
  induction h with
  | nil => exact hmore
  | cons hmember _ ih => exact .cons hmember (ih hmore)

/-- The name of a member, its colon and its value. -/
theorem run_named {member : String → σ → Reader σ} {name : String} {value : Bytes} {s s' : σ}
    (h : Takes (member name s) value s') (hrest : Follows rest) (next : σ → Reader β) :
    (do
      let name ← text
      sign ':'
      let s ← member name s
      next s : Reader β).run (named name value ++ rest) = (next s').run rest := by
  have hcolon : ∀ after, (sign ':').run (0x3a :: after) = some ((), after) := run_sign (by decide)
  rw [named, List.append_assoc, run_bind_of (run_text name _), List.cons_append,
    run_bind_of (hcolon _), run_bind_of (h.run rest hrest)]

theorem run_moreMembers {member : String → σ → Reader σ} {members : List (String × Bytes)}
    {s s' : σ} (h : Gathers member s members s') (rest : Bytes) {steps : Nat}
    (hsteps : members.length < steps) :
    (moreMembers member steps s).run
      ((members.map fun m => named m.1 m.2).flatMap ([0x2c] ++ ·) ++ 0x7d :: rest) =
        some (s', rest) := by
  induction h generalizing steps with
  | nil s =>
    obtain ⟨steps, rfl⟩ := Nat.exists_eq_add_one_of_ne_zero (Nat.ne_zero_of_lt hsteps)
    rw [List.map_nil, List.flatMap_nil, List.nil_append, moreMembers]
    exact run_closed (by decide) s _ rest
  | @cons name value members s s' s'' hmember _ ih =>
    obtain ⟨steps, rfl⟩ := Nat.exists_eq_add_one_of_ne_zero (Nat.ne_zero_of_lt hsteps)
    have hcomma : ∀ after, (sign ',').run (0x2c :: after) = some ((), after) := run_sign (by decide)
    rw [List.map_cons, List.flatMap_cons, List.append_assoc, List.append_assoc,
      List.singleton_append, moreMembers]
    refine (run_unclosed (by decide) (by decide) s _ _).trans ?_
    rw [run_bind_of (hcomma _)]
    exact (run_named hmember (follows_flatMap _ (.inr rfl) rest) _).trans
      (ih (Nat.lt_of_succ_lt_succ hsteps))

/-- **A written object** is read by what reads its members. -/
theorem takes_object {member : String → σ → Reader σ} {members : List (String × Bytes)} {s s' : σ}
    (h : Gathers member s members s') : Takes (object member s) (gathered members) s' where
  head := ⟨0x7b, _, rfl, by decide, by decide⟩
  run rest _ := by
    have hopen : ∀ after, (sign '\x7b').run (0x7b :: after) = some ((), after) :=
      run_sign (by decide)
    rw [gathered, List.cons_append, List.append_assoc, object, run_bind_of (hopen _)]
    cases h with
    | nil => exact run_closed (by decide) s _ rest
    | @cons name value members s s₁ s' hmember hmembers =>
      have hsteps := length_le_flatMap (members.map fun m => named m.1 m.2) (0x7d :: rest)
      rw [List.length_map] at hsteps
      rw [List.map_cons, intercalate_cons, List.append_assoc]
      refine (named_unclosed name value s _ _).trans ?_
      refine (run_named hmember (follows_flatMap _ (.inr rfl) rest) _).trans ?_
      rw [run_get_bind]
      exact run_moreMembers hmembers rest (Nat.lt_succ_of_le hsteps)

/-! ## Records -/

/-- **A written record** is read by its members. -/
theorem takes_record {members : List (Member σ)} {written : List (String × Bytes)} {s s' : σ}
    (h : Gathers (byName members) s written s') :
    Takes (record members s) (gathered written) s' where
  head := (takes_object h).head
  run rest hrest := by
    have hnext : ∀ after, (next? '[').run (0x7b :: after) = some (false, 0x7b :: after) :=
      run_next? (by decide)
    have hobject := (takes_object h).run rest hrest
    rw [gathered, List.cons_append] at hobject ⊢
    rw [record, run_bind_of (hnext _), if_neg (by decide)]
    exact hobject

/-- A member that is known and new is read by its own reader. -/
theorem Takes.byName {members : List (Member σ)} {m : Member σ} {name : String} {s s' : σ}
    (hfind : members.find? (·.name = name) = some m) (hnew : m.isRead s = false)
    (h : Takes (m.read s) b s') : Takes (byName members name s) b s' := by
  rw [Reader.byName, hfind]
  simpa [hnew] using h

/-- A value that is all of a text. -/
theorem Takes.whole {r : Reader α} (h : Takes r b a) : whole r b = some a := by
  have hrun := h.run [] (by simp [Follows])
  rw [List.append_nil] at hrun
  rw [Reader.whole, hrun]
  rfl

end Reader

end MediaVault.Json
