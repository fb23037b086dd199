/-
No nonce is used twice. A nonce names the place of a segment, and different
places that can be counted have different nonces. A run encrypts at one place
after the other, at each of them once, whatever its source does and however
often it is polled; the place of the final segment comes last, and nothing is
encrypted after it or after a failure.
-/
import MediaVault.Proofs.Seal.Record

namespace MediaVault

/-- A word can be read off its octets. -/
theorem Bytes.ofWordLE_injective : Function.Injective Bytes.ofWordLE := by
  intro v w h
  have digits : v.toNat % 256 = w.toNat % 256 ∧ v.toNat / 256 % 256 = w.toNat / 256 % 256 ∧
      v.toNat / 65536 % 256 = w.toNat / 65536 % 256 ∧
      v.toNat / 16777216 % 256 = w.toNat / 16777216 % 256 := by
    simpa [ofWordLE, ← UInt8.toNat_inj, Nat.shiftRight_eq_div_pow] using h
  rw [← UInt32.toNat_inj]
  have := v.toNat_lt
  have := w.toNat_lt
  omega

namespace Place

variable {p q : Place} {lead : Bytes}

theorem lt_of_le_limit {i : Nat} (h : i ≤ limit) : i < 0x80000000 :=
  Nat.lt_of_le_of_lt h (by decide)

/-- The flag is above every position that is counted to. -/
theorem toNat_word (hp : p.index ≤ limit) :
    p.word.toNat = p.index + if p.last then 0x80000000 else 0 := by
  have hlt := lt_of_le_limit hp
  have hindex : (UInt32.ofNat p.index).toNat = p.index :=
    UInt32.toNat_ofNat_of_lt' (Nat.lt_trans hlt (by decide))
  rw [word, UInt32.toNat_or, hindex]
  cases p.last with
  | false => simp
  | true =>
    rw [if_pos rfl, if_pos rfl, Nat.or_comm, Nat.add_comm]
    exact (@Nat.two_pow_add_eq_or_of_lt 31 p.index hlt 1).symm

/-- Different places have different nonces. -/
theorem eq_of_nonce_eq (hp : p.index ≤ limit) (hq : q.index ≤ limit)
    (h : p.nonce lead = q.nonce lead) : p = q := by
  have hword : p.word = q.word := Bytes.ofWordLE_injective (List.append_cancel_left h)
  have hnat := congrArg UInt32.toNat hword
  rw [toNat_word hp, toNat_word hq] at hnat
  have hp' := lt_of_le_limit hp
  have hq' := lt_of_le_limit hq
  obtain ⟨i, b⟩ := p
  obtain ⟨j, d⟩ := q
  -- A flagged word is greater than any that is not, so the flags agree and with them the positions.
  have hlast : b = d := by
    cases b <;> cases d <;> simp at hnat hp' hq' ⊢ <;> omega
  subst hlast
  have hindex : i = j := Nat.add_right_cancel hnat
  rw [hindex]

end Place

namespace SealStream

variable {c : SegmentCipher} {declared : Nat} {source : List Arrival}
variable {items : List Emission} {record : List (Place × Bytes)} {state : SealStream × List Arrival}

/-! ## Full segments -/

namespace Counted

theorem positions (h : Counted record) : record.map (·.1.index) = List.range record.length := by
  have := congrArg (List.map Place.index) h.places
  simpa [Function.comp_def] using this

theorem last_eq_false (h : Counted record) {x : Place × Bytes} (hx : x ∈ record) :
    x.1.last = false := by
  have hmem : x.1 ∈ record.map (·.1) := List.mem_map.mpr ⟨x, hx, rfl⟩
  rw [h.places] at hmem
  obtain ⟨i, _, hi⟩ := List.mem_map.mp hmem
  rw [← hi]

end Counted

/-! ## What was encrypted -/

namespace Progress

/-- Full segments only, or those and a final one, at the end of a source that delivered all that
was declared. -/
theorem counted_or_done (h : Progress c declared source items record state) :
    Counted record ∨ ∃ before text, record = before ++ [(⟨before.length, true⟩, text)] ∧
      Counted before ∧ text.length < Seal.segmentLength ∧ state.1.phase = .closed ∧
      state.2 = [] ∧ ∃ got, Delivers source got ∧ got.length = declared := by
  cases h with
  | reading _ h => exact .inl h
  | failed _ h => exact .inl h
  | done hclosed h hl hd hall => exact .inr ⟨_, _, rfl, h, hl, hclosed, rfl, _, hd, hall⟩

/-- The positions are counted through. -/
theorem positions (h : Progress c declared source items record state) :
    record.map (·.1.index) = List.range record.length := by
  obtain hcounted | ⟨before, text, rfl, hcounted, -⟩ := h.counted_or_done
  · exact hcounted.positions
  · rw [List.map_append, hcounted.positions, List.length_append, List.length_singleton,
      List.range_succ]
    rfl

/-- Every place of a run can be counted. -/
theorem index_le (h : Progress c declared source items record state) {x : Place × Bytes}
    (hx : x ∈ record) : x.1.index ≤ Place.limit := by
  have hle : record.length ≤ Place.limit + 1 := by
    obtain hcounted | ⟨before, text, rfl, hcounted, -⟩ := h.counted_or_done
    · exact Nat.le_succ_of_le hcounted.counted
    · rw [List.length_append, List.length_singleton]
      exact Nat.succ_le_succ hcounted.counted
  have hmem : x.1.index ∈ List.range record.length := by
    rw [← h.positions]
    exact List.mem_map_of_mem hx
  have := List.mem_range.mp hmem
  omega

/-- Only the last encryption of a run may be that of a final segment. -/
theorem last_eq_false (h : Progress c declared source items record state) {x : Place × Bytes}
    (hx : x ∈ record.dropLast) : x.1.last = false := by
  obtain hcounted | ⟨before, text, rfl, hcounted, -⟩ := h.counted_or_done
  · exact hcounted.last_eq_false (List.dropLast_subset _ hx)
  · rw [List.dropLast_concat] at hx
    exact hcounted.last_eq_false hx

/-- What is not a final segment is a full one. -/
theorem full (h : Progress c declared source items record state) {x : Place × Bytes}
    (hx : x ∈ record) (hlast : x.1.last = false) : x.2.length = Seal.segmentLength := by
  obtain hcounted | ⟨before, text, rfl, hcounted, -⟩ := h.counted_or_done
  · exact hcounted.full x hx
  · rcases List.mem_append.mp hx with hx | hx
    · exact hcounted.full x hx
    · cases List.mem_singleton.mp hx
      cases hlast

/-- A final segment is encrypted only when the source has ended with all that was declared. -/
theorem final (h : Progress c declared source items record state) {x : Place × Bytes}
    (hx : x ∈ record) (hlast : x.1.last = true) :
    x.2.length < Seal.segmentLength ∧ state.2 = [] ∧ state.1.phase = .closed ∧
      ∃ got, Delivers source got ∧ got.length = declared := by
  obtain hcounted | ⟨before, text, rfl, hcounted, hl, hclosed, hrest, hgot⟩ := h.counted_or_done
  · rw [hcounted.last_eq_false hx] at hlast
    cases hlast
  · rcases List.mem_append.mp hx with hx | hx
    · rw [hcounted.last_eq_false hx] at hlast
      cases hlast
    · cases List.mem_singleton.mp hx
      exact ⟨hl, hrest, hclosed, hgot⟩

/-- A stream that has reported a fault has ended. -/
theorem closed_of_fault (h : Progress c declared source items record state) {f : SealFault}
    (hf : .fault f ∈ items) : state.1.phase = .closed := by
  cases h with
  | reading _ _ _ _ hsound => exact absurd hf (hsound f)
  | failed hclosed => exact hclosed
  | done hclosed => exact hclosed

/-- What was given out was encrypted, in this order. -/
theorem given (h : Progress c declared source items record state) :
    items.filterMap Emission.segment? <+: (c.encryptAll record).map (·.2) := by
  cases h with
  | reading _ _ _ hitems => exact hitems ▸ List.prefix_refl _
  | failed _ _ hitems => exact hitems ▸ List.prefix_refl _
  | done _ _ _ _ _ hitems => exact hitems

/-- No two encryptions of a run have one nonce. -/
theorem nodup_nonces (h : Progress c declared source items record state) (lead : Bytes) :
    (record.map (·.1.nonce lead)).Nodup := by
  have hpositions : (record.map (·.1.index)).Nodup := by
    rw [h.positions]
    exact List.nodup_range
  rw [List.Nodup, List.pairwise_map] at hpositions ⊢
  refine hpositions.imp_of_mem fun hx hy hne heq => hne ?_
  rw [Place.eq_of_nonce_eq (h.index_le hx) (h.index_le hy) heq]

end Progress

/-- What the encryptions of `n` polls are, under nonces that begin with `lead`. -/
structure SealsInOrder (s : SealStream) (source : List Arrival) (lead : Bytes) (n : Nat) : Prop where
  /-- What the polls give out they have encrypted, in this order. -/
  given : (s.polls n source).filterMap Emission.segment? <+:
    (s.cipher.encryptAll (s.sealings n source)).map (·.2)
  /-- The positions are counted through, each used once. -/
  positions : (s.sealings n source).map (·.1.index) = List.range (s.sealings n source).length
  /-- All but the last encryption are those of full segments, without the flag. -/
  unflagged : ∀ x ∈ (s.sealings n source).dropLast, x.1.last = false
  full : ∀ x ∈ s.sealings n source, x.1.last = false → x.2.length = Seal.segmentLength
  /-- The flag stands on less than a full segment, after all that was declared has arrived. -/
  final : ∀ x ∈ s.sealings n source, x.1.last = true →
    x.2.length < Seal.segmentLength ∧ (s.after n source).2 = [] ∧
      ∃ got, Delivers source got ∧ got.length = s.declared
  /-- Nothing is encrypted after the flag or after a fault. -/
  stopped : ((∃ x ∈ s.sealings n source, x.1.last = true) ∨ ∃ f, .fault f ∈ s.polls n source) →
    ∀ m, s.sealings (n + m) source = s.sealings n source
  /-- A nonce has twelve octets: those of the object, then the position with the flag. -/
  written : ∀ x ∈ s.sealings n source, (x.1.nonce lead).length = 12 ∧
    x.1.nonce lead =
      lead ++ Bytes.ofWordLE (UInt32.ofNat (x.1.index + if x.1.last then 0x80000000 else 0))
  /-- No nonce is used twice. -/
  nonces : ((s.sealings n source).map (·.1.nonce lead)).Nodup

end SealStream

namespace SealKey

/-- **No nonce is used twice**, whatever the source does and however often the stream is polled:
the places of the encryptions are counted through, the flagged one comes last and only after
everything that was declared, and nothing is encrypted after it or after a fault. -/
theorem sealsInOrder_start (k : SealKey) (declared : Nat) (source : List Arrival) (n : Nat) :
    (SealStream.start k.cipher declared).SealsInOrder source k.lead n := by
  have h := SealStream.progress_start k.cipher declared source n
  exact
    { given := h.given
      positions := h.positions
      unflagged := fun _ hx => h.last_eq_false hx
      full := fun _ hx => h.full hx
      final := fun x hx hlast =>
        have ⟨hl, hrest, _, hgot⟩ := h.final hx hlast
        ⟨hl, hrest, hgot⟩
      stopped := by
        intro hstop m
        have hclosed : ((SealStream.start k.cipher declared).after n source).1.phase = .closed := by
          obtain ⟨x, hx, hlast⟩ | ⟨f, hf⟩ := hstop
          · exact (h.final hx hlast).2.2.1
          · exact h.closed_of_fault hf
        rw [SealStream.sealings_add, SealStream.sealings_of_closed hclosed, List.append_nil]
      written := by
        intro x hx
        refine ⟨?_, ?_⟩
        · rw [Place.nonce, List.length_append, k.length_lead, Bytes.length_ofWordLE]
          rfl
        · rw [Place.nonce, ← Place.toNat_word (h.index_le hx), UInt32.ofNat_toNat]
      nonces := h.nodup_nonces k.lead }

end SealKey

end MediaVault
