/-
The lengths that a stream counts. What it received is in the full segments that
it gave out and in what it holds; what it gave out never comes to more than it
announced, and to all of that exactly with the final segment. `Accounting` says
so of every run of turns, so the faults by which a stream would own to a wrong
length or to a segment without a position do not occur, and counters of 64 bits
count as counters of any size do.
-/
import Mathlib.Order.Monotone.Basic
import MediaVault.Proofs.Seal.Turns

namespace MediaVault

/-! ## Words -/

/-- The sum of two words, without what a word cannot hold. -/
def addWord (a b : Nat) : Nat := (a + b) % wordBound

theorem addWord_eq {a b : Nat} (h : a + b < wordBound) : addWord a b = a + b :=
  Nat.mod_eq_of_lt h

namespace Seal

/-- All that is computed on the way to a sealed length is no more than that length. -/
theorem segmentCount_le (n : Nat) :
    n / segmentLength ≤ segmentCount n ∧ segmentCount n ≤ segmentCount n * tagLength ∧
      segmentCount n * tagLength ≤ sealedLength n :=
  ⟨Nat.le_succ _, Nat.le_mul_of_pos_right _ (by decide), Nat.le_add_left _ _⟩

/-- A length that can be counted is announced as it is. -/
theorem announcedLength_eq {n : Nat} (h : n / segmentLength ≤ Place.limit) :
    announcedLength n = sealedLength n := by
  refine Nat.mod_eq_of_lt ?_
  simp only [sealedLength, segmentCount, segmentLength, tagLength, Place.limit, wordBound] at h ⊢
  omega

/-- A longer text is sealed to a longer object. -/
theorem strictMono_sealedLength : StrictMono sealedLength := by
  intro m n hlt
  have hcount : m / segmentLength ≤ n / segmentLength := Nat.div_le_div_right (Nat.le_of_lt hlt)
  have htags : segmentCount m * tagLength ≤ segmentCount n * tagLength :=
    Nat.mul_le_mul_right _ (Nat.succ_le_succ hcount)
  exact Nat.add_lt_add_of_lt_of_le hlt htags

end Seal

/-! ## What a run gives out -/

namespace Turn

/-- The stream gives out a segment, the last one or one before it. -/
def gives (last : Bool) (t : Turn) : Bool :=
  match t.sealed, t.answer with
  | some place, some (.segment _) => place.last == last
  | _, _ => false

/-- The octets that the stream gives out. -/
def octets (t : Turn) : Bytes := t.answer.elim [] Emission.octets

/-- The stream owns neither to a segment without a position nor to a wrong length. -/
def Sound (t : Turn) : Prop :=
  t.answer ≠ some (.fault .sealing) ∧
    ∀ expected actual, t.answer ≠ some (.fault (.sealedLength expected actual))

end Turn

namespace SealStream

variable {s s' : SealStream} {source rest : List Arrival} {run : List Turn} {t : Turn}
  {declared : Nat}

/-- All octets that were given out. -/
def givenOut (run : List Turn) : Bytes := (run.filterMap (·.answer)).flatMap Emission.octets

theorem givenOut_concat (run : List Turn) (t : Turn) :
    givenOut (run ++ [t]) = givenOut run ++ t.octets := by
  rw [givenOut, List.filterMap_append, List.flatMap_append, Turn.octets]
  cases hanswer : t.answer with
  | none => rw [List.filterMap_cons_none hanswer]; rfl
  | some e =>
    rw [List.filterMap_cons_some hanswer, List.filterMap_nil, List.flatMap_singleton]
    rfl

/-- The stream has given out the segments before its position, and no last one. -/
structure Counts (run : List Turn) (s : SealStream) : Prop where
  full : run.countP (Turn.gives false) = s.index
  octets : (givenOut run).length = s.emitted
  unfinished : ∀ t ∈ run, t.gives true = false

namespace Counts

/-- A turn that seals nothing and gives nothing out changes no count. -/
theorem silent (h : Counts run s) (hsealed : t.sealed = none) (hoctets : t.octets = [])
    (hindex : s'.index = s.index) (hemitted : s'.emitted = s.emitted) :
    Counts (run ++ [t]) s' := by
  have hgives : ∀ last, t.gives last = false := by
    intro last
    rw [Turn.gives, hsealed]
  refine ⟨?_, ?_, ?_⟩
  · rw [List.countP_append, h.full, List.countP_singleton, hgives, hindex]
    rfl
  · rw [givenOut_concat, hoctets, List.append_nil, h.octets, hemitted]
  · exact List.forall_mem_append.mpr ⟨h.unfinished, List.forall_mem_singleton.mpr (hgives true)⟩

/-- A full segment more is given out. -/
theorem segment (h : Counts run s) (hfull : t.gives false = true) (hlast : t.gives true = false)
    (hindex : s'.index = s.index + 1) (hemitted : s'.emitted = s.emitted + t.octets.length) :
    Counts (run ++ [t]) s' := by
  refine ⟨?_, ?_, ?_⟩
  · rw [List.countP_append, h.full, List.countP_singleton, hfull, hindex]
    rfl
  · rw [givenOut_concat, List.length_append, h.octets, hemitted]
  · exact List.forall_mem_append.mpr ⟨h.unfinished, List.forall_mem_singleton.mpr hlast⟩

end Counts

/-- Before its final segment a stream has given out less than it announced. -/
theorem Taking.emitted_lt (h : s.Taking) : s.emitted < s.sealedLength := by
  have hreceived : s.index * Seal.segmentLength ≤ s.declared := by
    have := h.received
    have := h.within
    omega
  have hcount : s.index ≤ s.declared / Seal.segmentLength :=
    (Nat.le_div_iff_mul_le Seal.segmentLength_pos).mpr hreceived
  have htags : s.index * Seal.tagLength ≤ s.declared / Seal.segmentLength * Seal.tagLength :=
    Nat.mul_le_mul_right _ hcount
  have htag : 0 < Seal.tagLength := by decide
  rw [h.emitted, sealedLength, Seal.sealedLength, Seal.segmentCount, Seal.sealedSegmentLength,
    Nat.mul_add, Nat.succ_mul]
  omega

/-! ## A run of turns -/

/-- How a stream stands to its lengths after a run of turns, with `rest` still to come. -/
inductive Accounting (declared : Nat) (source : List Arrival) (run : List Turn) :
    SealStream → List Arrival → Prop
  | reading {s : SealStream} {before rest : List Arrival} {got : Bytes} : s.Reading →
      s.declared = declared → source = before ++ rest → Delivers before got →
      s.received = got.length → Counts run s →
      Accounting declared source run s rest
  | draining {s : SealStream} : s.Reading → s.declared = declared →
      s.backlog.size < Seal.segmentLength → ¬ s.received < s.declared → Counts run s →
      Accounting declared source run { s with phase := .draining } []
  | done {s : SealStream} {rest : List Arrival} : s.phase = .closed → s.declared = declared →
      s.received ≤ declared → s.emitted = Seal.sealedLength declared →
      (givenOut run).length = s.emitted → (∃ t ∈ run, t.gives true = true) →
      Accounting declared source run s rest
  | failed {s : SealStream} {rest : List Arrival} {f : SealFault} : s.phase = .closed →
      s.emitted < Seal.sealedLength declared → (∃ t ∈ run, t.answer = some (.fault f)) →
      Accounting declared source run s rest

theorem accounting_start {c : SegmentCipher} (hc : c.Lawful)
    (hcounted : declared / Seal.segmentLength ≤ Place.limit) (source : List Arrival) :
    Accounting declared source [] (start c declared) source := by
  have hcounts : Counts [] (start c declared) := ⟨rfl, rfl, List.forall_mem_nil _⟩
  exact .reading (reading_start hc hcounted) rfl (List.nil_append _).symm .ended rfl hcounts

namespace Accounting

/-! Neither a position nor an octet of the announced length is ever missing. -/

theorem index_ne_limit (h : Accounting declared source run s rest) (hopen : s.phase ≠ .closed)
    (hfull : Seal.segmentLength ≤ s.backlog.size) : s.index ≠ Place.limit := by
  cases h with
  | reading h =>
    rw [Backlog.size_eq_length] at hfull
    exact h.index_ne_limit hfull
  | draining _ _ hshort => exact absurd hfull (Nat.not_le_of_lt hshort)
  | done hclosed | failed hclosed => exact absurd hclosed hopen

theorem emitted_add_last (h : Accounting declared source run s rest) (hphase : s.phase = .draining) :
    s.emitted + (s.cipher.encrypt ⟨s.index, true⟩ s.backlog.toBytes).length = s.sealedLength := by
  cases h with
  | reading h => cases h.phase.symm.trans hphase
  | draining h _ hshort hall =>
    rw [Backlog.size_eq_length] at hshort
    exact h.taking.emitted_add_last hshort hall
  | done hclosed | failed hclosed => cases hclosed.symm.trans hphase

theorem sound (h : Accounting declared source run s rest) (hturned : Turned s rest t) :
    t.Sound := by
  cases hturned with
  | exhausted hopen hfull hindex => exact absurd hindex (h.index_ne_limit hopen hfull)
  | last hphase _ hsealed =>
    rw [hsealed, if_pos (h.emitted_add_last hphase)]
    simp [Turn.Sound]
  | _ => simp [Turn.Sound]

/-- A stream that closes before its final segment has failed. -/
theorem of_fault {f : SealFault} (h : s.Reading) (hdeclared : s.declared = declared)
    (hanswer : t.answer = some (.fault f)) :
    Accounting declared source (run ++ [t]) s.close rest := by
  have hlt : s.close.emitted < Seal.sealedLength declared := by
    rw [← hdeclared]
    exact h.taking.emitted_lt
  exact .failed rfl hlt ⟨t, List.mem_append_right _ (List.mem_singleton_self t), hanswer⟩

theorem step_reading {before : List Arrival} {got : Bytes} (h : s.Reading)
    (hdeclared : s.declared = declared) (hsource : source = before ++ rest)
    (hgot : Delivers before got) (hreceived : s.received = got.length) (hcounts : Counts run s)
    (hturned : Turned s rest t) : Accounting declared source (run ++ [t]) t.after t.rest := by
  cases hturned with
  | ended hphase | last hphase => cases h.phase.symm.trans hphase
  | exhausted _ hfull hindex =>
    rw [Backlog.size_eq_length] at hfull
    exact absurd hindex (h.index_ne_limit hfull)
  | @full sealed _ hfull _ hsealed =>
    rw [Backlog.size_eq_length] at hfull
    have hlength : sealed.length = Seal.sealedSegmentLength :=
      hsealed ▸ h.lawful.length_encrypt_take _ hfull
    have hadvance := h.advance hfull
    rw [advance, ← hlength] at hadvance
    exact .reading hadvance hdeclared hsource hgot hreceived (hcounts.segment rfl rfl rfl rfl)
  | truncated | failure | overrun => exact of_fault h hdeclared rfl
  | complete _ hshort _ hall =>
    exact .draining h hdeclared hshort hall (hcounts.silent rfl rfl rfl rfl)
  | pending _ _ hrest =>
    have hmore := hgot.append (.pending .ended)
    rw [List.append_nil] at hmore
    refine .reading h hdeclared ?_ hmore hreceived (hcounts.silent rfl rfl rfl rfl)
    rw [hsource, hrest, List.append_assoc]
    rfl
  | @chunk data _ _ _ hrest hwithin =>
    refine .reading (h.accept hwithin) hdeclared ?_ (hgot.append (.single data)) ?_
      (hcounts.silent rfl rfl rfl rfl)
    · rw [hsource, hrest, List.append_assoc]
      rfl
    · rw [List.length_append, ← hreceived]
      rfl

theorem step_draining (h : s.Reading) (hdeclared : s.declared = declared)
    (hshort : s.backlog.size < Seal.segmentLength) (hall : ¬ s.received < s.declared)
    (hcounts : Counts run s) (hturned : Turned { s with phase := .draining } rest t) :
    Accounting declared source (run ++ [t]) t.after t.rest := by
  cases hturned with
  | exhausted _ hfull | full _ hfull => exact absurd hfull (Nat.not_le_of_lt hshort)
  | ended hphase | truncated hphase | complete hphase | pending hphase | failure hphase
  | overrun hphase | chunk hphase => cases hphase
  | last _ _ hsealed =>
    rw [Backlog.size_eq_length] at hshort
    have hannounced : s.emitted + (s.cipher.encrypt ⟨s.index, true⟩ s.backlog.toBytes).length =
        ({ s with phase := .draining } : SealStream).sealedLength :=
      h.taking.emitted_add_last hshort hall
    subst hsealed
    simp only [hannounced, if_true]
    refine .done rfl hdeclared ?_ ?_ ?_ ⟨_, List.mem_append_right _ (List.mem_singleton_self _), rfl⟩
    · rw [← hdeclared]
      exact h.within
    · rw [← hdeclared]
      rfl
    · rw [givenOut_concat, List.length_append, hcounts.octets]
      exact hannounced

/-- **A turn keeps it.** -/
theorem step (h : Accounting declared source run s rest) (hturned : Turned s rest t) :
    Accounting declared source (run ++ [t]) t.after t.rest := by
  cases h with
  | reading h hdeclared hsource hgot hreceived hcounts =>
    exact step_reading h hdeclared hsource hgot hreceived hcounts hturned
  | draining h hdeclared hshort hall hcounts =>
    exact step_draining h hdeclared hshort hall hcounts hturned
  | done hclosed hdeclared hwithin hemitted hoctets hlast =>
    obtain ⟨u, hu, hgives⟩ := hlast
    rw [hturned.eq_of_closed hclosed]
    refine .done hclosed hdeclared hwithin hemitted ?_ ⟨u, List.mem_append_left _ hu, hgives⟩
    rw [givenOut_concat, List.length_append, hoctets]
    rfl
  | failed hclosed hemitted hfault =>
    obtain ⟨u, hu, hanswer⟩ := hfault
    rw [hturned.eq_of_closed hclosed]
    exact .failed hclosed hemitted ⟨u, List.mem_append_left _ hu, hanswer⟩

theorem emitted_le (h : Accounting declared source run s rest) :
    s.emitted ≤ Seal.sealedLength declared := by
  cases h with
  | reading h hdeclared => exact hdeclared ▸ Nat.le_of_lt h.taking.emitted_lt
  | draining h hdeclared => exact hdeclared ▸ Nat.le_of_lt h.taking.emitted_lt
  | done _ _ _ hemitted => exact Nat.le_of_eq hemitted
  | failed _ hemitted => exact Nat.le_of_lt hemitted

end Accounting

/-- **A run of turns keeps it**, and each of its turns is sound. -/
theorem accounting_turns {c : SegmentCipher} (hc : c.Lawful)
    (hcounted : declared / Seal.segmentLength ≤ Place.limit) (source : List Arrival) (n : Nat) :
    Accounting declared source ((start c declared).turns n source)
        ((start c declared).reached n source).1 ((start c declared).reached n source).2 ∧
      ∀ t ∈ (start c declared).turns n source, t.Sound := by
  refine turns_induction (motive := fun run s rest =>
    Accounting declared source run s rest ∧ ∀ t ∈ run, t.Sound)
    ⟨accounting_start hc hcounted source, List.forall_mem_nil _⟩ ?_ n
  intro run s rest t h hturned
  have hsound := List.forall_mem_singleton.mpr (h.1.sound hturned)
  exact ⟨h.1.step hturned, List.forall_mem_append.mpr ⟨h.2, hsound⟩⟩

/-! ## Words as counters -/

theorem fullTurn_addWord (h : (s.fullTurn (· + ·) source).after.emitted < wordBound) :
    s.fullTurn addWord source = s.fullTurn (· + ·) source := by
  unfold fullTurn at h ⊢
  dsimp only at h ⊢
  split at h
  next hindex => rw [if_pos hindex, if_pos hindex]
  next hindex => rw [if_neg hindex, if_neg hindex, addWord_eq h]

theorem lastTurn_addWord (h : (s.lastTurn (· + ·) source).after.emitted < wordBound) :
    s.lastTurn addWord source = s.lastTurn (· + ·) source := by
  unfold lastTurn at h ⊢
  dsimp only at h ⊢
  rw [addWord_eq h]

theorem askingTurn_addWord
    (h : ∀ data rest, source = .chunk data :: rest → s.received + data.length < wordBound) :
    s.askingTurn addWord source = s.askingTurn (· + ·) source := by
  rcases source with _ | ⟨_ | data | _, rest⟩
  · rfl
  · rfl
  · rw [askingTurn, askingTurn, addWord_eq (h data rest rfl)]
  · rfl

/-- A turn whose sums fit into words can be made with words. -/
theorem turnBy_addWord (hemitted : (s.turn source).after.emitted < wordBound)
    (hreceived : s.phase = .reading → ∀ data rest, source = .chunk data :: rest →
      s.received + data.length < wordBound) :
    s.turnBy addWord source = s.turn source := by
  unfold turn turnBy at hemitted ⊢
  cases hphase : s.phase with
  | closed => rfl
  | draining =>
    simp only [hphase] at hemitted ⊢
    split at hemitted
    next hfull => rw [if_pos hfull, if_pos hfull, fullTurn_addWord hemitted]
    next hshort => rw [if_neg hshort, if_neg hshort, lastTurn_addWord hemitted]
  | reading =>
    simp only [hphase] at hemitted ⊢
    split at hemitted
    next hfull => rw [if_pos hfull, if_pos hfull, fullTurn_addWord hemitted]
    next hshort => rw [if_neg hshort, if_neg hshort, askingTurn_addWord (hreceived hphase)]

/-- Whatever was delivered and not more than declared, one chunk more still fits into a word. -/
def SmallChunks (declared : Nat) (source : List Arrival) : Prop :=
  ∀ before data rest got, source = before ++ .chunk data :: rest → Delivers before got →
    got.length ≤ declared → got.length + data.length < wordBound

theorem smallChunks_of_forall_mem
    (h : ∀ data, .chunk data ∈ source → declared + data.length < wordBound) :
    SmallChunks declared source := by
  intro before data rest got hsource _ hle
  have hmem : .chunk data ∈ source := by
    rw [hsource]
    exact List.mem_append_right _ (List.mem_cons_self)
  exact Nat.lt_of_le_of_lt (Nat.add_le_add_right hle _) (h data hmem)

theorem Accounting.turnBy_addWord (h : Accounting declared source run s rest)
    (hfits : Seal.sealedLength declared < wordBound) (hsmall : SmallChunks declared source) :
    s.turnBy addWord rest = s.turn rest := by
  refine SealStream.turnBy_addWord ?_ fun hphase data more hrest => ?_
  · exact Nat.lt_of_le_of_lt (h.step (turned s rest)).emitted_le hfits
  · cases h with
    | @reading _ before _ got hreading hdeclared hsource hgot hreceived =>
      rw [hreceived]
      refine hsmall before data more got (hrest ▸ hsource) hgot ?_
      rw [← hreceived, ← hdeclared]
      exact hreading.within
    | draining => cases hphase
    | done hclosed | failed hclosed => cases hphase.symm.trans hclosed

/-! ## The lengths of a run -/

/-- The lengths after a run of turns. -/
structure Accounted (declared : Nat) (run : List Turn) (s : SealStream) : Prop where
  announced : s.sealedLength = Seal.sealedLength declared
  /-- Until the final segment is given out. -/
  received : (∀ t ∈ run, t.gives true = false) →
    s.received = Seal.segmentLength * run.countP (Turn.gives false) + s.backlog.size
  emitted : s.emitted = (givenOut run).length
  within : s.received ≤ declared
  bounded : s.emitted ≤ Seal.sealedLength declared
  finished : s.emitted = Seal.sealedLength declared ↔ ∃ t ∈ run, t.gives true = true

/-- Before the final segment less than the announced length was given out. -/
theorem Counts.accounted (h : Counts run s) (hdeclared : s.declared = declared)
    (hreceived : s.received = s.index * Seal.segmentLength + s.backlog.toBytes.length)
    (hwithin : s.received ≤ s.declared) (hlt : s.emitted < s.sealedLength) :
    Accounted declared run s := by
  subst hdeclared
  refine ⟨rfl, fun _ => ?_, h.octets.symm, hwithin, Nat.le_of_lt hlt, ?_⟩
  · rw [hreceived, h.full, Nat.mul_comm, Backlog.size_eq_length]
  · refine iff_of_false (Nat.ne_of_lt hlt) ?_
    rintro ⟨t, ht, hgives⟩
    rw [h.unfinished t ht] at hgives
    cases hgives

theorem Accounting.accounted (h : Accounting declared source run s rest)
    (hsound : ∀ t ∈ run, ∀ f, t.answer ≠ some (.fault f)) : Accounted declared run s := by
  cases h with
  | reading h hdeclared _ _ _ hcounts =>
    exact hcounts.accounted hdeclared h.received h.within h.taking.emitted_lt
  | @draining s h hdeclared _ _ hcounts =>
    have hcounts' : Counts run { s with phase := .draining } :=
      ⟨hcounts.full, hcounts.octets, hcounts.unfinished⟩
    exact hcounts'.accounted hdeclared h.received h.within h.taking.emitted_lt
  | done _ hdeclared hwithin hemitted hoctets hlast =>
    subst hdeclared
    refine ⟨rfl, fun hopen => ?_, hoctets.symm, hwithin, Nat.le_of_eq hemitted,
      iff_of_true hemitted hlast⟩
    obtain ⟨t, ht, hgives⟩ := hlast
    rw [hopen t ht] at hgives
    cases hgives
  | failed _ _ hfault =>
    obtain ⟨t, ht, hanswer⟩ := hfault
    exact absurd hanswer (hsound t ht _)

/-- **The lengths are accounted for.** Of a length that can be announced in a word and counted, and
of a source whose chunks are small, no turn sums up more than a word holds, reports a wrong length
or lacks a position for a segment; and as long as no fault was given, the lengths are as in
`Accounted`. Any number of polls is a number of turns, so that is so after any number of polls. What
is computed on the way to an announced length fits into a word if that length does, and different
lengths announce different ones. -/
theorem lengths_accounted (k : SealKey) {declared : Nat} {source : List Arrival}
    (hfits : Seal.sealedLength declared < wordBound)
    (hcounted : declared / Seal.segmentLength ≤ Place.limit)
    (hsmall : SmallChunks declared source) (n : Nat) :
    let s := start k.cipher declared
    ((∀ t ∈ s.turns n source, ∀ f, t.answer ≠ some (.fault f)) →
      Accounted declared (s.turns n source) (s.reached n source).1) ∧
    s.turnsBy addWord n source = s.turns n source ∧
    (∀ t ∈ s.turns n source, t.Sound) ∧
    (∀ m, ∃ n, (s.turns n source).filterMap (·.answer) = s.polls m source ∧
      s.reached n source = s.after m source) ∧
    (∀ m, Seal.sealedLength m < wordBound →
      m / Seal.segmentLength < wordBound ∧ Seal.segmentCount m < wordBound ∧
        Seal.segmentCount m * Seal.tagLength < wordBound) ∧
    StrictMono Seal.sealedLength ∧ Function.Injective Seal.sealedLength := by
  intro s
  have hrun := accounting_turns k.lawful_cipher hcounted source
  refine ⟨(hrun n).1.accounted, turnsBy_eq (fun m => (hrun m).1.turnBy_addWord hfits hsmall) n,
    (hrun n).2, fun m => exists_turns_polls m s source, fun m hm => ?_,
    Seal.strictMono_sealedLength, Seal.strictMono_sealedLength.injective⟩
  obtain ⟨hdiv, hcount, htags⟩ := Seal.segmentCount_le m
  omega

/-- Five octets in one chunk are taken in, found to be all and sealed in three turns. -/
theorem lengths_accounted_of_five :
    let k := SealKey.ofRandom []
    let source : List Arrival := [.chunk [1, 2, 3, 4, 5]]
    let s := start k.cipher 5
    SmallChunks 5 source ∧ s.turnsBy addWord 3 source = s.turns 3 source ∧
      (∀ t ∈ s.turns 3 source, t.Sound) ∧
      Accounted 5 (s.turns 3 source) (s.reached 3 source).1 ∧
      (s.reached 3 source).1.emitted = 21 := by
  intro k source s
  have hsmall : SmallChunks 5 source := by
    refine smallChunks_of_forall_mem fun data hdata => ?_
    cases List.mem_singleton.mp hdata
    decide
  obtain ⟨haccounted, hwords, hsound, -⟩ :=
    lengths_accounted k (by decide : Seal.sealedLength 5 < wordBound) (by decide) hsmall 3
  -- The last answer is a segment, since it does not own to a wrong length.
  obtain ⟨_, _, sealed, expected, actual, hanswers⟩ :
      ∃ (p : Prop) (_ : Decidable p) (sealed : Bytes) (expected actual : Nat),
        (s.turns 3 source).map (·.answer) =
          [none, none, some (if p then .segment sealed else .fault (.sealedLength expected actual))] :=
    ⟨_, _, _, _, _, rfl⟩
  refine ⟨hsmall, hwords, hsound, haccounted fun t ht f hfault => ?_, ?_⟩
  · have hmem := List.mem_map_of_mem (f := (·.answer)) ht
    rw [hanswers, hfault] at hmem
    split at hmem
    · simp at hmem
    · obtain rfl : f = .sealedLength expected actual := by simpa using hmem
      exact (hsound t ht).2 _ _ hfault
  · have hlength := k.lawful_cipher.length_encrypt ⟨0, true⟩ [1, 2, 3, 4, 5]
    change 0 + (k.cipher.encrypt ⟨0, true⟩ [1, 2, 3, 4, 5]).length = 21
    rw [hlength]
    decide

end SealStream

end MediaVault
