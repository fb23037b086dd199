/-
Base64 has one text for every octet string. What is written is read again, and
only what is written is read: padding, unused bits and symbols leave no second
spelling. `Spells` says by the rule what is written: the bits of the octets,
filled up with zeros, six to a symbol, and padding up to a multiple of four.
-/
import Mathlib.Algebra.Group.Nat.Defs
import MediaVault.Proofs.Url.Reading
import MediaVault.Text.Base64

namespace MediaVault.Base64

variable {x : UInt8} {n offset index pads : Nat} {text group octets : Bytes} {ns : List Nat}

/-! ## Symbols -/

theorem value?_symbol (h : n < 64) : value? (symbol n) = some n := by
  have hall : ∀ n < 64, value? (symbol n) = some n := by decide +kernel
  exact hall n h

/-- An octet has the value of the symbol that it is. -/
theorem of_value?_eq_some (h : value? x = some n) : n < 64 ∧ symbol n = x := by
  have hall : ∀ i < 256, ∀ n ∈ value? (UInt8.ofNat i), n < 64 ∧ symbol n = UInt8.ofNat i := by
    decide +kernel
  have hx := hall x.toNat x.toNat_lt n
  rw [UInt8.ofNat_toNat] at hx
  exact hx h

theorem symbol_ne_padding (h : n < 64) : symbol n ≠ padding := by
  intro heq
  have hvalue := value?_symbol h
  rw [heq] at hvalue
  cases hvalue

theorem valueAt_symbol (h : n < 64) (offset : Nat) : valueAt offset (symbol n) = .ok n := by
  rw [valueAt, value?_symbol h]

theorem of_valueAt_eq_ok (h : valueAt offset x = .ok n) : n < 64 ∧ symbol n = x := by
  refine of_value?_eq_some ?_
  unfold valueAt at h
  cases hx : value? x with
  | none => rw [hx] at h; cases h
  | some m => rw [hx] at h; cases h; rfl

/-! ## The last group -/

/-- A value with its symbol. -/
def withSymbol (n : Nat) : UInt8 × Nat := (symbol n, n)

/-- The last group is cut into its symbols, with their values, and what fills it up. -/
theorem of_lastGroup_eq_ok {values : List (UInt8 × Nat)}
    (h : lastGroup offset index group = .ok (values, pads)) :
    ∃ ns : List Nat, (∀ n ∈ ns, n < 64) ∧ values = ns.map withSymbol ∧
      group = ns.map symbol ++ List.replicate pads padding := by
  fun_induction lastGroup offset index group generalizing values pads with
  | case1 index =>
    cases h
    exact ⟨[], by simp⟩
  | case2 => cases h
  | case3 index rest hindex hall =>
    cases h
    have hrest : rest = List.replicate rest.length padding := by
      simpa [List.eq_replicate_iff] using hall
    refine ⟨[], by simp, rfl, ?_⟩
    rw [List.map_nil, List.nil_append, List.replicate_succ, ← hrest]
  | case4 => cases h
  | case5 index x rest hx ih =>
    obtain ⟨n, hn, h⟩ := exists_of_bind_eq_ok h
    obtain ⟨⟨others, pads⟩, hothers, h⟩ := exists_of_bind_eq_ok h
    cases h
    obtain ⟨hlt, rfl⟩ := of_valueAt_eq_ok hn
    obtain ⟨ns, hns, rfl, rfl⟩ := ih hothers
    refine ⟨n :: ns, ?_, rfl, rfl⟩
    rw [List.forall_mem_cons]
    exact ⟨hlt, hns⟩

/-- Padding may stand after two symbols at least. -/
theorem lastGroup_symbols (hns : ∀ n ∈ ns, n < 64) (hpads : pads = 0 ∨ 2 ≤ index + ns.length) :
    lastGroup offset index (ns.map symbol ++ List.replicate pads padding) =
      .ok (ns.map withSymbol, pads) := by
  induction ns generalizing index with
  | nil =>
    cases pads with
    | zero => rfl
    | succ pads =>
      have hindex : ¬ index < 2 := Nat.not_lt_of_le (hpads.resolve_left (Nat.succ_ne_zero pads))
      simp [List.replicate_succ, lastGroup, hindex]
  | cons n ns ih =>
    rw [List.forall_mem_cons] at hns
    have hmore := @ih (index + 1) hns.2 (by rw [List.length_cons] at hpads; omega)
    rw [List.map_cons, List.cons_append, lastGroup, if_neg (symbol_ne_padding hns.1),
      valueAt_symbol hns.1, hmore]
    rfl

/-- The values of a last group are the bits of these octets, with zeros after them. -/
inductive Closes : List Nat → Bytes → Prop
  | one {a b x} : a * 64 + b = x.toNat * 16 → Closes [a, b] [x]
  | two {a b c x y} : (a * 64 + b) * 64 + c = (x.toNat * 256 + y.toNat) * 4 →
      Closes [a, b, c] [x, y]
  | three {a b c d x y z} :
      ((a * 64 + b) * 64 + c) * 64 + d = (x.toNat * 256 + y.toNat) * 256 + z.toNat →
      Closes [a, b, c, d] [x, y, z]

theorem Closes.length_values (h : Closes ns octets) : 2 ≤ ns.length ∧ ns.length ≤ 4 := by
  cases h <;> simp

theorem toNat_ofNat (h : n < 256) : (UInt8.ofNat n).toNat = n := UInt8.toNat_ofNat_of_lt' h

theorem ofNat_eq (h : n = x.toNat) : UInt8.ofNat n = x := by rw [h, UInt8.ofNat_toNat]

/-- The octets of a last group are those that its values stand for. -/
theorem of_decodeLast_eq_ok (hne : group ≠ []) (h : decodeLast offset group = .ok octets) :
    ∃ ns pads, (∀ n ∈ ns, n < 64) ∧ group = ns.map symbol ++ List.replicate pads padding ∧
      (ns.length + pads) % 4 = 0 ∧ Closes ns octets := by
  unfold decodeLast at h
  obtain ⟨⟨values, pads⟩, hlast, h⟩ := exists_of_bind_eq_ok h
  obtain ⟨ns, hns, rfl, hgroup⟩ := of_lastGroup_eq_ok hlast
  simp only [bind, Except.bind, pure, Except.pure, throw, throwThe, MonadExceptOf.throw,
    if_neg hne, List.length_map] at h
  split at h
  · cases h
  split at h
  · cases h
  next hfilled =>
  refine ⟨ns, pads, hns, hgroup, Decidable.not_not.mp hfilled, ?_⟩
  match ns, hns with
  | [], _ | [_], _ => cases h
  | [a, b], hns =>
    simp only [List.forall_mem_cons] at hns
    simp only [List.map_cons, List.map_nil, withSymbol] at h
    split at h
    · cases h
    · cases h
      refine .one ?_
      rw [toNat_ofNat (by omega)]
      omega
  | [a, b, c], hns =>
    simp only [List.forall_mem_cons] at hns
    simp only [List.map_cons, List.map_nil, withSymbol] at h
    split at h
    · cases h
    · cases h
      refine .two ?_
      rw [toNat_ofNat (by omega), toNat_ofNat (by omega)]
      omega
  | [a, b, c, d], hns =>
    simp only [List.forall_mem_cons] at hns
    cases h
    refine .three ?_
    rw [toNat_ofNat (by omega), toNat_ofNat (by omega), toNat_ofNat (by omega)]
    omega
  | _ :: _ :: _ :: _ :: _ :: _, _ => cases h

theorem decodeLast_symbols (hns : ∀ n ∈ ns, n < 64) (hfilled : (ns.length + pads) % 4 = 0)
    (h : Closes ns octets) :
    decodeLast offset (ns.map symbol ++ List.replicate pads padding) = .ok octets := by
  have hcount := h.length_values
  have hne : ns.map symbol ++ List.replicate pads padding ≠ [] := by
    intro hnil
    have hlen := congrArg List.length hnil
    rw [List.length_append, List.length_map, List.length_nil] at hlen
    omega
  rw [decodeLast, lastGroup_symbols hns (.inr (by omega))]
  simp only [bind, Except.bind, pure, Except.pure, throw, throwThe, MonadExceptOf.throw,
    if_neg hne, List.length_map]
  rw [if_neg (by omega), if_neg (by omega)]
  cases h with
  | @one a b x hn =>
    have hx := x.toNat_lt
    simp only [List.map_cons, List.map_nil, withSymbol]
    rw [if_neg (by omega), ofNat_eq (x := x) (by omega)]
  | @two a b c x y hn =>
    have hx := x.toNat_lt
    have hy := y.toNat_lt
    simp only [List.map_cons, List.map_nil, withSymbol]
    rw [if_neg (by omega), ofNat_eq (x := x) (by omega), ofNat_eq (x := y) (by omega)]
  | @three a b c d x y z hn =>
    have hx := x.toNat_lt
    have hy := y.toNat_lt
    have hz := z.toNat_lt
    simp only [List.map_cons, List.map_nil, withSymbol, hn]
    rw [ofNat_eq (x := x) (by omega), ofNat_eq (x := y) (by omega), ofNat_eq (x := z) (by omega)]

/-- Up to three octets are those of some last group. -/
theorem exists_closes (hne : octets ≠ []) (hlen : octets.length ≤ 3) :
    ∃ ns, (∀ n ∈ ns, n < 64) ∧ Closes ns octets := by
  match octets, hne, hlen with
  | [x], _, _ =>
    have hx := x.toNat_lt
    refine ⟨[x.toNat / 4, x.toNat % 4 * 16], ?_, .one (by omega)⟩
    simp only [List.forall_mem_cons]
    exact ⟨by omega, by omega, List.forall_mem_nil _⟩
  | [x, y], _, _ =>
    have hx := x.toNat_lt
    have hy := y.toNat_lt
    generalize hn : x.toNat * 256 + y.toNat = n
    refine ⟨[n / 1024, n / 16 % 64, n % 16 * 4], ?_, .two (by omega)⟩
    simp only [List.forall_mem_cons]
    exact ⟨by omega, by omega, by omega, List.forall_mem_nil _⟩
  | [x, y, z], _, _ =>
    have hx := x.toNat_lt
    have hy := y.toNat_lt
    have hz := z.toNat_lt
    generalize hn : (x.toNat * 256 + y.toNat) * 256 + z.toNat = n
    refine ⟨[n / 262144, n / 4096 % 64, n / 64 % 64, n % 64], ?_, .three (by omega)⟩
    simp only [List.forall_mem_cons]
    exact ⟨by omega, by omega, by omega, by omega, List.forall_mem_nil _⟩

/-! ## What is written -/

/-- Three octets are written as four symbols, and what comes after them on its own. -/
theorem encode_three {a b c d : Nat} {x y z : UInt8} (hns : ∀ n ∈ [a, b, c, d], n < 64)
    (h : ((a * 64 + b) * 64 + c) * 64 + d = (x.toNat * 256 + y.toNat) * 256 + z.toNat)
    (rest : Bytes) :
    encode (x :: y :: z :: rest) = [a, b, c, d].map symbol ++ encode rest := by
  simp only [List.forall_mem_cons] at hns
  generalize hn : (x.toNat * 256 + y.toNat) * 256 + z.toNat = n at h
  have ha : n / 262144 = a := by omega
  have hb : n / 4096 % 64 = b := by omega
  have hc : n / 64 % 64 = c := by omega
  have hd : n % 64 = d := by omega
  rw [encode, hn, ha, hb, hc, hd]
  rfl

/-- The octets of a last group are written as that group. -/
theorem Closes.encode_eq (h : Closes ns octets) (hns : ∀ n ∈ ns, n < 64) :
    encode octets = ns.map symbol ++ List.replicate (4 - ns.length) padding := by
  cases h with
  | @one a b x hn =>
    simp only [List.forall_mem_cons] at hns
    have ha : x.toNat / 4 = a := by omega
    have hb : x.toNat % 4 * 16 = b := by omega
    rw [encode, ha, hb]
    rfl
  | @two a b c x y hn =>
    simp only [List.forall_mem_cons] at hns
    generalize hm : x.toNat * 256 + y.toNat = m at hn
    have ha : m / 1024 = a := by omega
    have hb : m / 16 % 64 = b := by omega
    have hc : m % 16 * 4 = c := by omega
    rw [encode, hm, ha, hb, hc]
    rfl
  | three hn =>
    rw [encode_three hns hn]
    rfl

/-! ## Only what is written is read -/

theorem encode_of_decodeLast (h : decodeLast offset group = .ok octets) (hlen : group.length ≤ 4) :
    encode octets = group := by
  by_cases hne : group = []
  · subst hne
    cases h
    rfl
  · obtain ⟨ns, pads, hns, rfl, hfilled, hcloses⟩ := of_decodeLast_eq_ok hne h
    have hcount := hcloses.length_values
    rw [List.length_append, List.length_map, List.length_replicate] at hlen
    have hpads : 4 - ns.length = pads := by omega
    rw [hcloses.encode_eq hns, hpads]

theorem encode_of_decodeFrom (h : decodeFrom offset text = .ok octets) : encode octets = text := by
  fun_induction decodeFrom offset text generalizing octets with
  | case1 offset w x y z e rest ih =>
    obtain ⟨a, hw, h⟩ := exists_of_bind_eq_ok h
    obtain ⟨b, hx, h⟩ := exists_of_bind_eq_ok h
    obtain ⟨c, hy, h⟩ := exists_of_bind_eq_ok h
    obtain ⟨d, hz, h⟩ := exists_of_bind_eq_ok h
    obtain ⟨tail, htail, h⟩ := exists_of_bind_eq_ok h
    cases h
    obtain ⟨ha, rfl⟩ := of_valueAt_eq_ok hw
    obtain ⟨hb, rfl⟩ := of_valueAt_eq_ok hx
    obtain ⟨hc, rfl⟩ := of_valueAt_eq_ok hy
    obtain ⟨hd, rfl⟩ := of_valueAt_eq_ok hz
    rw [encode_three (a := a) (b := b) (c := c) (d := d) ?_ ?_, ih htail]
    · rfl
    · simp only [List.forall_mem_cons]
      exact ⟨ha, hb, hc, hd, List.forall_mem_nil _⟩
    · rw [toNat_ofNat (by omega), toNat_ofNat (by omega), toNat_ofNat (by omega)]
      omega
  | case2 offset group hshort =>
    refine encode_of_decodeLast h ?_
    match group, hshort with
    | [], _ | [_], _ | [_, _], _ | [_, _, _], _ | [_, _, _, _], _ => simp
    | a :: b :: c :: d :: e :: rest, hshort => exact (hshort a b c d e rest rfl).elim

/-! ## Reading undoes writing -/

theorem decodeFrom_of_le (h : group.length ≤ 4) : decodeFrom offset group = decodeLast offset group := by
  match group, h with
  | [], _ | [_], _ | [_, _], _ | [_, _, _], _ | [_, _, _, _], _ => rfl

theorem decodeFrom_encode_of_le (offset : Nat) (hlen : octets.length ≤ 3) :
    decodeFrom offset (encode octets) = .ok octets := by
  by_cases hne : octets = []
  · subst hne
    rfl
  · obtain ⟨ns, hns, hcloses⟩ := exists_closes hne hlen
    have hcount := hcloses.length_values
    rw [hcloses.encode_eq hns, decodeFrom_of_le, decodeLast_symbols hns (by omega) hcloses]
    rw [List.length_append, List.length_map, List.length_replicate]
    omega

theorem encode_ne_nil (hne : octets ≠ []) : encode octets ≠ [] := by
  match octets, hne with
  | [_], _ | [_, _], _ | _ :: _ :: _ :: _, _ => simp [encode]

theorem decodeFrom_encode (offset : Nat) (octets : Bytes) :
    decodeFrom offset (encode octets) = .ok octets := by
  induction octets using encode.induct generalizing offset with
  | case1 => exact decodeFrom_encode_of_le offset (by simp)
  | case2 => exact decodeFrom_encode_of_le offset (by simp)
  | case3 => exact decodeFrom_encode_of_le offset (by simp)
  | case4 x y z rest ih =>
    by_cases hrest : rest = []
    · subst hrest
      exact decodeFrom_encode_of_le offset (by simp)
    obtain ⟨ns, hns, hcloses⟩ := @exists_closes [x, y, z] (by simp) (by simp)
    cases hcloses with
    | @three a b c d _ _ _ hn =>
    obtain ⟨e, more, hmore⟩ := List.exists_cons_of_ne_nil (encode_ne_nil hrest)
    rw [encode_three hns hn, hmore]
    simp only [List.forall_mem_cons] at hns
    obtain ⟨ha, hb, hc, hd, -⟩ := hns
    simp only [List.map_cons, List.map_nil, List.cons_append, List.nil_append]
    rw [decodeFrom, valueAt_symbol ha, valueAt_symbol hb, valueAt_symbol hc, valueAt_symbol hd,
      ← hmore, ih]
    have hx := x.toNat_lt
    have hy := y.toNat_lt
    have hz := z.toNat_lt
    simp only [bind, Except.bind, pure, Except.pure, hn]
    rw [ofNat_eq (x := x) (by omega), ofNat_eq (x := y) (by omega), ofNat_eq (x := z) (by omega)]

theorem length_encode (octets : Bytes) : (encode octets).length % 4 = 0 := by
  induction octets using encode.induct with
  | case1 => rfl
  | case2 => simp [encode]
  | case3 => simp [encode]
  | case4 x y z rest ih =>
    simp only [encode, List.length_cons]
    omega

/-- **A text is read** exactly if it is the written form of what is read. -/
theorem decode_eq_ok : decode text = .ok octets ↔ text = encode octets := by
  constructor
  · intro h
    unfold decode at h
    split at h
    · split at h
      · cases h
      · exact (encode_of_decodeFrom h).symm
    next hnone =>
      cases h
      exact List.getLast?_eq_none_iff.mp hnone
  · rintro rfl
    unfold decode
    split
    · rw [if_neg]
      · exact decodeFrom_encode 0 octets
      · have := length_encode octets
        omega
    next hnone =>
      by_cases hne : octets = []
      · rw [hne]
      · exact absurd (List.getLast?_eq_none_iff.mp hnone) (encode_ne_nil hne)

/-! ## The rule -/

/-- So many bits of a number, the highest first. -/
def bits : Nat → Nat → List Bool
  | 0, _ => []
  | width + 1, n => bits width (n / 2) ++ [decide (n % 2 = 1)]

theorem length_bits (width n : Nat) : (bits width n).length = width := by
  induction width generalizing n with
  | zero => rfl
  | succ width ih => rw [bits, List.length_append, ih, List.length_singleton]

/-- The bits of two numbers one after the other are those of one number. -/
theorem bits_append {v w : Nat} (m : Nat) (h : n < 2 ^ w) :
    bits v m ++ bits w n = bits (v + w) (m * 2 ^ w + n) := by
  induction w generalizing n with
  | zero => simp [bits, Nat.lt_one_iff.mp h]
  | succ w ih =>
    rw [Nat.pow_succ] at h
    have hdouble : m * 2 ^ (w + 1) = m * 2 ^ w * 2 := by rw [Nat.pow_succ, Nat.mul_assoc]
    have hhalf : (m * 2 ^ (w + 1) + n) / 2 = m * 2 ^ w + n / 2 := by omega
    have hlast : (m * 2 ^ (w + 1) + n) % 2 = n % 2 := by omega
    rw [← Nat.add_assoc, bits, bits, hhalf, hlast, ← ih (by omega), List.append_assoc]

theorem bits_zeros (v m w : Nat) :
    bits v m ++ List.replicate w false = bits (v + w) (m * 2 ^ w) := by
  have hzero : bits w 0 = List.replicate w false := by
    induction w with
    | zero => rfl
    | succ w ih => rw [bits, List.replicate_succ', ih]; rfl
  rw [← hzero, bits_append m (Nat.two_pow_pos w), Nat.add_zero]

theorem bits_injective {width m : Nat} (hm : m < 2 ^ width) (hn : n < 2 ^ width)
    (h : bits width m = bits width n) : m = n := by
  induction width generalizing m n with
  | zero => omega
  | succ width ih =>
    rw [Nat.pow_succ] at hm hn
    obtain ⟨hhigh, hlow⟩ := List.append_inj' h rfl
    have hhalf := ih (by omega) (by omega) hhigh
    have hparity : m % 2 = 1 ↔ n % 2 = 1 := by simpa using hlow
    omega

theorem eq_of_flatMap_bits {ms : List Nat} (hms : ∀ n ∈ ms, n < 64) (hns : ∀ n ∈ ns, n < 64)
    (h : ms.flatMap (bits 6) = ns.flatMap (bits 6)) : ms = ns := by
  induction ms generalizing ns with
  | nil =>
    cases ns with
    | nil => rfl
    | cons n ns => simp [bits] at h
  | cons m ms ih =>
    cases ns with
    | nil => simp [bits] at h
    | cons n ns =>
      rw [List.forall_mem_cons] at hms hns
      rw [List.flatMap_cons, List.flatMap_cons] at h
      obtain ⟨hfirst, hrest⟩ := List.append_inj h (by rw [length_bits, length_bits])
      rw [bits_injective hms.1 hns.1 hfirst, ih hms.2 hns.2 hrest]

/-- The text that stands for octets by the rule: their bits, filled up with zeros to a multiple of
six, have a symbol for each six, and the symbols are filled up to a multiple of four. -/
def Spells (text octets : Bytes) : Prop :=
  ∃ (ns : List Nat) (zeros pads : Nat), (∀ n ∈ ns, n < 64) ∧ zeros < 6 ∧ pads < 4 ∧
    (octets.flatMap fun x => bits 8 x.toNat) ++ List.replicate zeros false = ns.flatMap (bits 6) ∧
    text = ns.map symbol ++ List.replicate pads padding ∧ text.length % 4 = 0

/-- Four values have the bits of the three octets that they stand for. -/
theorem bits_three {a b c d : Nat} {x y z : UInt8} (hns : ∀ n ∈ [a, b, c, d], n < 64)
    (h : ((a * 64 + b) * 64 + c) * 64 + d = (x.toNat * 256 + y.toNat) * 256 + z.toNat) :
    ([x, y, z].flatMap fun x => bits 8 x.toNat) = [a, b, c, d].flatMap (bits 6) := by
  simp only [List.forall_mem_cons] at hns
  have hy : y.toNat < 2 ^ 8 := y.toNat_lt
  have hz : z.toNat < 2 ^ 8 := z.toNat_lt
  simp only [List.flatMap_cons, List.flatMap_nil, List.append_nil]
  rw [← List.append_assoc, bits_append x.toNat hy, bits_append _ hz, ← List.append_assoc,
    ← List.append_assoc, bits_append a hns.2.1, bits_append _ hns.2.2.1, bits_append _ hns.2.2.2.1]
  exact congrArg (bits 24) h.symm

/-- The values of a last group have the bits of its octets, and zeros. -/
theorem Closes.bits_eq (h : Closes ns octets) (hns : ∀ n ∈ ns, n < 64) :
    ∃ zeros < 6, (octets.flatMap fun x => bits 8 x.toNat) ++ List.replicate zeros false =
      ns.flatMap (bits 6) := by
  cases h with
  | @one a b x hn =>
    simp only [List.forall_mem_cons] at hns
    have hvalue : a * 2 ^ 6 + b = x.toNat * 2 ^ 4 := hn
    refine ⟨4, by omega, ?_⟩
    simp only [List.flatMap_cons, List.flatMap_nil, List.append_nil]
    rw [bits_append a hns.2.1, hvalue, bits_zeros]
  | @two a b c x y hn =>
    simp only [List.forall_mem_cons] at hns
    have hy : y.toNat < 2 ^ 8 := y.toNat_lt
    refine ⟨2, by omega, ?_⟩
    simp only [List.flatMap_cons, List.flatMap_nil, List.append_nil]
    rw [bits_append x.toNat hy, bits_zeros, ← List.append_assoc, bits_append a hns.2.1,
      bits_append _ hns.2.2.1]
    exact congrArg (bits 18) hn.symm
  | three hn =>
    refine ⟨0, by omega, ?_⟩
    rw [List.replicate_zero, List.append_nil, bits_three hns hn]

theorem spells_encode_of_le (hne : octets ≠ []) (hlen : octets.length ≤ 3) :
    Spells (encode octets) octets := by
  obtain ⟨ns, hns, hcloses⟩ := exists_closes hne hlen
  have hcount := hcloses.length_values
  obtain ⟨zeros, hzeros, hbits⟩ := hcloses.bits_eq hns
  exact ⟨ns, zeros, 4 - ns.length, hns, hzeros, by omega, hbits, hcloses.encode_eq hns,
    length_encode octets⟩

theorem spells_encode (octets : Bytes) : Spells (encode octets) octets := by
  induction octets using encode.induct with
  | case1 => exact ⟨[], 0, 0, List.forall_mem_nil _, by decide, by decide, rfl, rfl, rfl⟩
  | case2 => exact spells_encode_of_le (by simp) (by simp)
  | case3 => exact spells_encode_of_le (by simp) (by simp)
  | case4 x y z rest ih =>
    obtain ⟨four, hfour, hcloses⟩ := @exists_closes [x, y, z] (by simp) (by simp)
    obtain ⟨ns, zeros, pads, hns, hzeros, hpads, hbits, htext, -⟩ := ih
    cases hcloses with
    | @three a b c d _ _ _ hn =>
    refine ⟨[a, b, c, d] ++ ns, zeros, pads, List.forall_mem_append.mpr ⟨hfour, hns⟩, hzeros,
      hpads, ?_, ?_, length_encode _⟩
    · rw [List.flatMap_append, ← bits_three hfour hn, ← hbits, ← List.append_assoc,
        ← List.flatMap_append]
      rfl
    · rw [encode_three hfour hn, htext, List.map_append, List.append_assoc]

/-- The rule leaves one text only. -/
theorem Spells.unique {other : Bytes} (h : Spells text octets) (hother : Spells other octets) :
    text = other := by
  obtain ⟨ns, zeros, pads, hns, hzeros, hpads, hbits, rfl, hlen⟩ := h
  obtain ⟨ms, zeros', pads', hms, hzeros', hpads', hbits', rfl, hlen'⟩ := hother
  have hcount := congrArg List.length hbits
  have hcount' := congrArg List.length hbits'
  simp only [List.length_append, List.length_flatMap, length_bits, List.length_replicate,
    List.map_const', List.sum_replicate_nat] at hcount hcount'
  simp only [List.length_append, List.length_map, List.length_replicate] at hlen hlen'
  obtain rfl : zeros = zeros' := by omega
  obtain rfl : ns = ms := eq_of_flatMap_bits hns hms (hbits.symm.trans hbits')
  obtain rfl : pads = pads' := by omega
  rfl

theorem spells_iff : Spells text octets ↔ text = encode octets := by
  constructor
  · exact fun h => h.unique (spells_encode octets)
  · rintro rfl
    exact spells_encode octets

end MediaVault.Base64
