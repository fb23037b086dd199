/-
When a stream asks its source, and how much it holds. It asks only while it
has no full segment to seal, so it never holds more than the rest of a segment
and the chunk it was given last. Once the source has ended or failed, or the
stream has given its last answer, nothing is asked any more. The facts of one
turn come first; `Standing` is what a run of turns keeps.
-/
import MediaVault.Proofs.Seal.Turns

namespace MediaVault

theorem Backlog.size_split_le (b : Backlog) (n : Nat) : (b.split n).2.size ≤ b.size := by
  rw [size_eq_length, size_eq_length, toBytes_snd_split, List.length_drop]
  exact Nat.sub_le _ _

namespace Turn

/-- The chunk that the source answered with, if it was asked and had one. -/
def chunk? (t : Turn) : Option Bytes :=
  match t.asked with
  | some (some (.chunk data)) => some data
  | _ => none

/-- The stream gives its last answer: a fault, or the final segment. -/
inductive Closes (t : Turn) : Prop
  | fault {f : SealFault} : t.answer = some (.fault f) → Closes t
  | last {i : Nat} : t.sealed = some ⟨i, true⟩ → Closes t

/-- Nothing is left to be asked for. -/
inductive Stops (t : Turn) : Prop
  | ended : t.asked = some none → Stops t
  | failed {reason : String} : t.asked = some (some (.failure reason)) → Stops t
  | closed : t.Closes → Stops t

end Turn

namespace SealStream

variable {s : SealStream} {source rest : List Arrival} {run : List Turn} {t : Turn}

/-! ## One turn -/

namespace Turned

/-- A turn asks for the next answer of the source, or for none. -/
theorem asked_eq (h : Turned s source t) :
    t.asked = none ∧ t.rest = source ∨
      s.phase = .reading ∧ t.asked = some source.head? ∧ t.rest = source.tail := by
  cases h with
  | ended | exhausted | full | last => exact .inl ⟨rfl, rfl⟩
  | truncated hphase _ hsource | complete hphase _ hsource | pending hphase _ hsource
  | failure hphase _ hsource | overrun hphase _ hsource | chunk hphase _ hsource =>
    subst hsource
    exact .inr ⟨hphase, rfl, rfl⟩

theorem asked_of_phase (h : Turned s source t) (hphase : s.phase ≠ .reading) : t.asked = none := by
  rcases h.asked_eq with ⟨hasked, -⟩ | ⟨hreading, -⟩
  · exact hasked
  · exact absurd hreading hphase

/-- With a full segment nothing is asked, and the segment is answered with in the same turn. -/
theorem of_full (h : Turned s source t) (hfull : Seal.segmentLength ≤ s.backlog.size) :
    t.asked = none ∧ t.answer ≠ none := by
  cases h with
  | ended | exhausted | full => exact ⟨rfl, nofun⟩
  | last _ hshort | truncated _ hshort | complete _ hshort | pending _ hshort | failure _ hshort
  | overrun _ hshort | chunk _ hshort => exact absurd hfull (Nat.not_le_of_lt hshort)

theorem answer_of_sealed (h : Turned s source t) (hsealed : t.sealed ≠ none) :
    t.answer ≠ none := by
  cases h with
  | complete | chunk => exact absurd rfl hsealed
  | _ => nofun

/-- Without a chunk nothing more is held. -/
theorem size_le (h : Turned s source t) (hchunk : t.chunk? = none) :
    t.after.backlog.size ≤ s.backlog.size := by
  cases h with
  | exhausted | full => exact Backlog.size_split_le _ _
  | last => exact Nat.zero_le _
  | chunk => cases hchunk
  | _ => exact Nat.le_refl _

/-- A chunk comes to what is less than a segment. -/
theorem size_lt (h : Turned s source t) {data : Bytes} (hchunk : t.chunk? = some data) :
    t.after.backlog.size < Seal.segmentLength + data.length := by
  cases h with
  | overrun _ hshort => exact Nat.lt_add_right _ hshort
  | chunk _ hshort =>
    cases hchunk
    exact Nat.add_lt_add_right hshort _
  | _ => cases hchunk

theorem phase_of_closes (h : Turned s source t) (hcloses : t.Closes) :
    t.after.phase = .closed := by
  cases h with
  | ended hclosed => exact hclosed
  | full | complete | pending | chunk => rcases hcloses with h | h <;> cases h
  | _ => rfl

theorem phase_of_stops (h : Turned s source t) (hstops : t.Stops) : t.after.phase ≠ .reading := by
  rcases hstops with hended | hfailed | hcloses
  · cases h with
    | truncated | complete => nofun
    | _ => cases hended
  · cases h with
    | failure => nofun
    | _ => cases hfailed
  · rw [h.phase_of_closes hcloses]
    nofun

/-- A stream that reads no more does not begin to read again. -/
theorem phase_ne_reading (h : Turned s source t) (hphase : s.phase ≠ .reading) :
    t.after.phase ≠ .reading := by
  cases h with
  | ended | full => exact hphase
  | pending hreading | chunk hreading => exact absurd hreading hphase
  | _ => nofun

theorem phase_closed (h : Turned s source t) (hclosed : s.phase = .closed) :
    t.after.phase = .closed := by
  rw [h.eq_of_closed hclosed]
  exact hclosed

end Turned

/-! ## A run of turns -/

/-- The chunk that was answered last, or nothing. -/
def lastChunk (run : List Turn) : Bytes := ((run.filterMap Turn.chunk?).getLast?).getD []

theorem lastChunk_concat (run : List Turn) (t : Turn) :
    lastChunk (run ++ [t]) = t.chunk?.getD (lastChunk run) := by
  rw [lastChunk, List.filterMap_append]
  cases hchunk : t.chunk? with
  | none => rw [List.filterMap_cons_none hchunk, List.filterMap_nil, List.append_nil]; rfl
  | some data =>
    rw [List.filterMap_cons_some hchunk, List.filterMap_nil, List.getLast?_concat]
    rfl

/-- A run of turns in which the source is asked no more than it must be, with the stream after it
and what its source has still to answer. -/
structure AsksInTurn (source : List Arrival) (run : List Turn) (s : SealStream)
    (rest : List Arrival) : Prop where
  /-- Each question was answered by what the source had next. Its end is met with once at most. -/
  asked : ∃ taken, source = taken ++ rest ∧
    (run.filterMap (·.asked) = taken.map some ∨
      run.filterMap (·.asked) = taken.map some ++ [none] ∧ rest = [])
  short : ∀ t ∈ run, t.asked ≠ none → t.before.backlog.size < Seal.segmentLength
  /-- A poll that finds a full segment is over with that turn. -/
  full : ∀ t ∈ run, Seal.segmentLength ≤ t.before.backlog.size →
    t.asked = none ∧ t.answer ≠ none
  /-- No second segment is sealed in a poll. -/
  sealed : ∀ t ∈ run, t.sealed ≠ none → t.answer ≠ none
  bounded : s.backlog.size < Seal.segmentLength + (lastChunk run).length
  silent : run.Pairwise fun t u => t.Stops → u.asked = none
  ended : run.Pairwise fun t u => t.Closes → u.answer = some .ended

/-- What a run of turns keeps: what was said of it settles how far the stream has come. -/
structure Standing (source : List Arrival) (run : List Turn) (s : SealStream)
    (rest : List Arrival) : Prop extends AsksInTurn source run s rest where
  stopped : ∀ t ∈ run, t.Stops → s.phase ≠ .reading
  closed : ∀ t ∈ run, t.Closes → s.phase = .closed

theorem standing_start (c : SegmentCipher) (declared : Nat) (source : List Arrival) :
    Standing source [] (start c declared) source where
  asked := ⟨[], rfl, .inl rfl⟩
  short := List.forall_mem_nil _
  full := List.forall_mem_nil _
  sealed := List.forall_mem_nil _
  bounded := Nat.lt_add_right _ Seal.segmentLength_pos
  silent := .nil
  ended := .nil
  stopped := List.forall_mem_nil _
  closed := List.forall_mem_nil _

namespace Standing

/-- A stream that reads has not yet found its source at the end. -/
theorem asked_of_reading (h : Standing source run s rest) (hreading : s.phase = .reading) :
    ∃ taken, source = taken ++ rest ∧ run.filterMap (·.asked) = taken.map some := by
  obtain ⟨taken, hsource, hasked | ⟨hasked, -⟩⟩ := h.asked
  · exact ⟨taken, hsource, hasked⟩
  · have hend : none ∈ run.filterMap (·.asked) := by simp [hasked]
    obtain ⟨t, ht, hnone⟩ := List.mem_filterMap.mp hend
    exact absurd hreading (h.stopped t ht (.ended hnone))

theorem asked_step (h : Standing source run s rest) (hturned : Turned s rest t) :
    ∃ taken, source = taken ++ t.rest ∧
      ((run ++ [t]).filterMap (·.asked) = taken.map some ∨
        (run ++ [t]).filterMap (·.asked) = taken.map some ++ [none] ∧ t.rest = []) := by
  rcases hturned.asked_eq with ⟨hnone, hrest⟩ | ⟨hreading, hsome, hrest⟩
  · rw [List.filterMap_append, List.filterMap_cons_none hnone, List.filterMap_nil,
      List.append_nil, hrest]
    exact h.asked
  · obtain ⟨taken, hsource, hasked⟩ := h.asked_of_reading hreading
    rw [List.filterMap_append, List.filterMap_cons_some hsome, List.filterMap_nil, hasked, hrest]
    cases rest with
    | nil => exact ⟨taken, hsource, .inr ⟨rfl, rfl⟩⟩
    | cons a rest =>
      refine ⟨taken ++ [a], ?_, .inl ?_⟩
      · rw [hsource, List.append_assoc]
        rfl
      · rw [List.map_append]
        rfl

theorem bounded_step (h : Standing source run s rest) (hturned : Turned s rest t) :
    t.after.backlog.size < Seal.segmentLength + (lastChunk (run ++ [t])).length := by
  rw [lastChunk_concat]
  cases hchunk : t.chunk? with
  | none => exact Nat.lt_of_le_of_lt (hturned.size_le hchunk) h.bounded
  | some data => exact hturned.size_lt hchunk

/-- **A turn keeps it.** -/
theorem step (h : Standing source run s rest) (hturned : Turned s rest t) :
    Standing source (run ++ [t]) t.after t.rest where
  asked := h.asked_step hturned
  short := by
    refine List.forall_mem_append.mpr ⟨h.short, List.forall_mem_singleton.mpr fun hasked => ?_⟩
    rw [hturned.before_eq]
    exact Nat.lt_of_not_le fun hfull => hasked (hturned.of_full hfull).1
  full := by
    refine List.forall_mem_append.mpr ⟨h.full, List.forall_mem_singleton.mpr fun hfull => ?_⟩
    rw [hturned.before_eq] at hfull
    exact hturned.of_full hfull
  sealed := List.forall_mem_append.mpr
    ⟨h.sealed, List.forall_mem_singleton.mpr hturned.answer_of_sealed⟩
  bounded := h.bounded_step hturned
  silent := by
    refine List.pairwise_append.mpr ⟨h.silent, List.pairwise_singleton _ _, fun u hu => ?_⟩
    refine List.forall_mem_singleton.mpr fun hstops => ?_
    exact hturned.asked_of_phase (h.stopped u hu hstops)
  ended := by
    refine List.pairwise_append.mpr ⟨h.ended, List.pairwise_singleton _ _, fun u hu => ?_⟩
    refine List.forall_mem_singleton.mpr fun hcloses => ?_
    rw [hturned.eq_of_closed (h.closed u hu hcloses)]
  stopped := List.forall_mem_append.mpr
    ⟨fun u hu hstops => hturned.phase_ne_reading (h.stopped u hu hstops),
      List.forall_mem_singleton.mpr hturned.phase_of_stops⟩
  closed := List.forall_mem_append.mpr
    ⟨fun u hu hcloses => hturned.phase_closed (h.closed u hu hcloses),
      List.forall_mem_singleton.mpr hturned.phase_of_closes⟩

end Standing

/-- **A stream asks in turn**, whatever its source does and however often it is polled. It asks only
when it holds less than a segment, so it holds less than a segment and the chunk it was given last;
a poll that finds a full segment asks nothing; nothing is asked after the source has ended or failed
or the stream has given a fault or its final segment, and after the last two it only says that it
has ended. That is so after any number of turns, and any number of polls is a number of turns with
one answer each. -/
theorem asks_in_turn (c : SegmentCipher) (declared : Nat) (source : List Arrival) :
    (∀ n, AsksInTurn source ((start c declared).turns n source)
      ((start c declared).reached n source).1 ((start c declared).reached n source).2) ∧
    ∀ m, ∃ n, ((start c declared).turns n source).filterMap (·.answer) =
        (start c declared).polls m source ∧
      (start c declared).reached n source = (start c declared).after m source := by
  refine ⟨fun n => ?_, fun m => exists_turns_polls m _ source⟩
  have hstanding := turns_induction (motive := Standing source) (standing_start c declared source)
    (fun _ _ _ _ h hturned => h.step hturned) n
  exact hstanding.toAsksInTurn

end SealStream

end MediaVault
