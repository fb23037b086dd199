/-
The turns that a stream takes until it answers a poll. In one turn it seals a
full segment, or asks its source once, or seals the final segment; a stream
that has ended says so. A poll is the turns up to the first one that answers,
so what holds of every run of turns also holds in the middle of a poll.
-/
import MediaVault.Proofs.Seal.Run

namespace MediaVault

/-- One turn of a stream. -/
structure Turn where
  /-- The stream at its beginning. -/
  before : SealStream
  /-- What the source answered if it was asked. A source that has ended answers nothing. -/
  asked : Option (Option Arrival) := none
  /-- The place of the segment that was sealed, if one was. -/
  sealed : Option Place := none
  /-- What the stream answers, if it does not take another turn first. -/
  answer : Option Emission := none
  after : SealStream
  /-- What the source has still to answer. -/
  rest : List Arrival

namespace SealStream

variable {s : SealStream} {source : List Arrival} {t : Turn}

/-! ## One turn -/

section

/-! The counters are added to by `add`, which need not be the sum of any two numbers. -/

variable (add : Nat → Nat → Nat)

/-- A turn that seals a full segment at the next position. -/
def fullTurn (s : SealStream) (source : List Arrival) : Turn :=
  let (text, rest) := s.backlog.split Seal.segmentLength
  if s.index = Place.limit then
    { before := s, answer := some (.fault .sealing), after := { s with backlog := rest }.close
      rest := source }
  else
    let sealed := s.cipher.encrypt ⟨s.index, false⟩ text
    { before := s, sealed := some ⟨s.index, false⟩, answer := some (.segment sealed)
      after :=
        { s with backlog := rest, emitted := add s.emitted sealed.length, index := s.index + 1 }
      rest := source }

/-- A turn that seals the final segment. -/
def lastTurn (s : SealStream) (source : List Arrival) : Turn :=
  let sealed := s.cipher.encrypt ⟨s.index, true⟩ s.backlog.toBytes
  let emitted := add s.emitted sealed.length
  { before := s, sealed := some ⟨s.index, true⟩
    answer := some (if emitted = s.sealedLength then .segment sealed
      else .fault (.sealedLength s.sealedLength emitted))
    after := { s with backlog := .empty, emitted := emitted }.close, rest := source }

/-- A turn that asks the source. -/
def askingTurn (s : SealStream) : List Arrival → Turn
  | [] =>
    if s.received < s.declared then
      { before := s, asked := some none, answer := some (.fault (.truncated s.declared s.received))
        after := s.close, rest := [] }
    else { before := s, asked := some none, after := { s with phase := .draining }, rest := [] }
  | .pending :: rest =>
    { before := s, asked := some (some .pending), answer := some .pending, after := s, rest }
  | .failure reason :: rest =>
    { before := s, asked := some (some (.failure reason))
      answer := some (.fault (.source reason)), after := s.close, rest }
  | .chunk data :: rest =>
    let received := add s.received data.length
    if s.declared < received then
      { before := s, asked := some (some (.chunk data))
        answer := some (.fault (.overrun s.declared received)), after := s.close, rest }
    else
      { before := s, asked := some (some (.chunk data))
        after := { s with backlog := s.backlog.push data, received }, rest }

/-- The next turn of a stream. -/
def turnBy (s : SealStream) (source : List Arrival) : Turn :=
  match s.phase with
  | .closed => { before := s, answer := some .ended, after := s, rest := source }
  | .draining =>
    if Seal.segmentLength ≤ s.backlog.size then s.fullTurn add source else s.lastTurn add source
  | .reading =>
    if Seal.segmentLength ≤ s.backlog.size then s.fullTurn add source else s.askingTurn add source

/-- The first `n` turns of a stream. -/
def turnsBy : Nat → SealStream → List Arrival → List Turn
  | 0, _, _ => []
  | n + 1, s, source =>
    s.turnBy add source :: turnsBy n (s.turnBy add source).after (s.turnBy add source).rest

end

/-- The next turn of a stream, with counters of any size. -/
abbrev turn (s : SealStream) (source : List Arrival) : Turn := s.turnBy (· + ·) source

/-- The first `n` turns of a stream, with counters of any size. -/
abbrev turns (n : Nat) (s : SealStream) (source : List Arrival) : List Turn :=
  turnsBy (· + ·) n s source

/-- The stream after so many turns, with what its source has still to answer. -/
def reached : Nat → SealStream → List Arrival → SealStream × List Arrival
  | 0, s, source => (s, source)
  | n + 1, s, source => reached n (s.turn source).after (s.turn source).rest

/-- **What a turn of a stream may be.** -/
inductive Turned (s : SealStream) (source : List Arrival) : Turn → Prop
  | ended : s.phase = .closed →
      Turned s source { before := s, answer := some .ended, after := s, rest := source }
  /-- A full segment for which there is no position. -/
  | exhausted : s.phase ≠ .closed → Seal.segmentLength ≤ s.backlog.size → s.index = Place.limit →
      Turned s source
        { before := s, answer := some (.fault .sealing)
          after := { s with backlog := (s.backlog.split Seal.segmentLength).2 }.close
          rest := source }
  | full {sealed : Bytes} : s.phase ≠ .closed → Seal.segmentLength ≤ s.backlog.size →
      s.index ≠ Place.limit →
      sealed = s.cipher.encrypt ⟨s.index, false⟩ (s.backlog.toBytes.take Seal.segmentLength) →
      Turned s source
        { before := s, sealed := some ⟨s.index, false⟩, answer := some (.segment sealed)
          after :=
            { s with
              backlog := (s.backlog.split Seal.segmentLength).2
              emitted := s.emitted + sealed.length
              index := s.index + 1 }
          rest := source }
  /-- The final segment, which is given out if it makes the announced length. -/
  | last {sealed : Bytes} : s.phase = .draining → s.backlog.size < Seal.segmentLength →
      sealed = s.cipher.encrypt ⟨s.index, true⟩ s.backlog.toBytes →
      Turned s source
        { before := s, sealed := some ⟨s.index, true⟩
          answer := some (if s.emitted + sealed.length = s.sealedLength then .segment sealed
            else .fault (.sealedLength s.sealedLength (s.emitted + sealed.length)))
          after := { s with backlog := .empty, emitted := s.emitted + sealed.length }.close
          rest := source }
  | truncated : s.phase = .reading → s.backlog.size < Seal.segmentLength → source = [] →
      s.received < s.declared →
      Turned s source
        { before := s, asked := some none
          answer := some (.fault (.truncated s.declared s.received)), after := s.close, rest := [] }
  /-- The source has ended with all that was declared. -/
  | complete : s.phase = .reading → s.backlog.size < Seal.segmentLength → source = [] →
      ¬ s.received < s.declared →
      Turned s source
        { before := s, asked := some none, after := { s with phase := .draining }, rest := [] }
  | pending {rest : List Arrival} : s.phase = .reading → s.backlog.size < Seal.segmentLength →
      source = .pending :: rest →
      Turned s source
        { before := s, asked := some (some .pending), answer := some .pending, after := s, rest }
  | failure {reason : String} {rest : List Arrival} : s.phase = .reading →
      s.backlog.size < Seal.segmentLength → source = .failure reason :: rest →
      Turned s source
        { before := s, asked := some (some (.failure reason))
          answer := some (.fault (.source reason)), after := s.close, rest }
  | overrun {data : Bytes} {rest : List Arrival} : s.phase = .reading →
      s.backlog.size < Seal.segmentLength → source = .chunk data :: rest →
      s.declared < s.received + data.length →
      Turned s source
        { before := s, asked := some (some (.chunk data))
          answer := some (.fault (.overrun s.declared (s.received + data.length)))
          after := s.close, rest }
  | chunk {data : Bytes} {rest : List Arrival} : s.phase = .reading →
      s.backlog.size < Seal.segmentLength → source = .chunk data :: rest →
      ¬ s.declared < s.received + data.length →
      Turned s source
        { before := s, asked := some (some (.chunk data)), after := s.accept data, rest }

theorem turned_fullTurn (hopen : s.phase ≠ .closed) (hfull : Seal.segmentLength ≤ s.backlog.size) :
    Turned s source (s.fullTurn (· + ·) source) := by
  unfold fullTurn
  dsimp only
  split
  next hindex => exact .exhausted hopen hfull hindex
  next hindex => exact .full hopen hfull hindex rfl

theorem turned_askingTurn (hreading : s.phase = .reading)
    (hshort : s.backlog.size < Seal.segmentLength) :
    Turned s source (s.askingTurn (· + ·) source) := by
  cases source with
  | nil =>
    rw [askingTurn]
    split
    next hmissing => exact .truncated hreading hshort rfl hmissing
    next hall => exact .complete hreading hshort rfl hall
  | cons a rest =>
    cases a with
    | pending => exact .pending hreading hshort rfl
    | failure reason => exact .failure hreading hshort rfl
    | chunk data =>
      rw [askingTurn]
      split
      next hover => exact .overrun hreading hshort rfl hover
      next hwithin => exact .chunk hreading hshort rfl hwithin

theorem turned (s : SealStream) (source : List Arrival) : Turned s source (s.turn source) := by
  unfold turn turnBy
  cases hphase : s.phase with
  | closed => exact .ended hphase
  | draining =>
    dsimp only
    split
    next hfull => exact turned_fullTurn (by rw [hphase]; nofun) hfull
    next hshort => exact .last hphase (Nat.lt_of_not_le hshort) rfl
  | reading =>
    dsimp only
    split
    next hfull => exact turned_fullTurn (by rw [hphase]; nofun) hfull
    next hshort => exact turned_askingTurn hphase (Nat.lt_of_not_le hshort)

theorem Turned.before_eq (h : Turned s source t) : t.before = s := by
  cases h <;> rfl

/-- A stream that has ended says so and stays as it is. -/
theorem Turned.eq_of_closed (h : Turned s source t) (hclosed : s.phase = .closed) :
    t = { before := s, answer := some .ended, after := s, rest := source } := by
  cases h with
  | ended => rfl
  | exhausted hopen | full hopen => exact absurd hclosed hopen
  | last hphase | truncated hphase | complete hphase | pending hphase | failure hphase
  | overrun hphase | chunk hphase => cases hphase.symm.trans hclosed

/-! ## Polls -/

theorem poll_full (hopen : s.phase ≠ .closed) (hfull : Seal.segmentLength ≤ s.backlog.size) :
    s.poll source = (s.sealFull.1, s.sealFull.2, source) := by
  cases hphase : s.phase with
  | closed => exact absurd hphase hopen
  | draining => rw [poll_of_draining hphase, if_pos hfull]
  | reading => exact poll_of_full hphase hfull

/-- A poll is answered by the turn, or by a poll after it. -/
theorem Turned.poll_eq (h : Turned s source t) :
    s.poll source =
      match t.answer with
      | some e => (e, t.after, t.rest)
      | none => t.after.poll t.rest := by
  cases h with
  | ended hclosed => exact poll_of_closed hclosed
  | exhausted hopen hfull hindex =>
    rw [poll_full hopen hfull, sealFull]
    simp only [Backlog.split, hindex, if_true]
  | full hopen hfull hindex hsealed =>
    rw [poll_full hopen hfull, sealFull, hsealed]
    simp only [Backlog.split, hindex, if_false]
  | last hphase hshort hsealed =>
    rw [poll_of_draining hphase, if_neg (Nat.not_le_of_lt hshort), sealLast, hsealed]
    dsimp only
    split <;> rfl
  | truncated hphase hshort hsource hmissing =>
    rw [hsource, poll_nil hphase (Nat.not_le_of_lt hshort), if_pos hmissing]
  | complete hphase hshort hsource hall =>
    rw [hsource, poll_nil hphase (Nat.not_le_of_lt hshort), if_neg hall]
    dsimp only
    rw [poll_of_draining rfl, if_neg (Nat.not_le_of_lt hshort)]
  | pending hphase hshort hsource => rw [hsource, poll_pending hphase (Nat.not_le_of_lt hshort)]
  | failure hphase hshort hsource => rw [hsource, poll_failure hphase (Nat.not_le_of_lt hshort)]
  | overrun hphase hshort hsource hover =>
    rw [hsource, poll_chunk_of_lt hphase (Nat.not_le_of_lt hshort) hover]
  | chunk hphase hshort hsource hwithin =>
    rw [hsource, poll_chunk_of_le hphase (Nat.not_le_of_lt hshort) hwithin]

/-- A bound on the turns that a stream takes before one that answers. -/
def turnsLeft (s : SealStream) (source : List Arrival) : Nat :=
  source.length + if s.phase = .reading then 1 else 0

theorem Turned.turnsLeft_lt (h : Turned s source t) (hanswer : t.answer = none) :
    t.after.turnsLeft t.rest < s.turnsLeft source := by
  cases h with
  | complete hphase _ hsource _ => simp [turnsLeft, hphase, hsource]
  | chunk hphase _ hsource _ => simp [turnsLeft, hphase, hsource, accept]
  | _ => cases hanswer

/-! ## Many turns -/

theorem turns_succ (n : Nat) (s : SealStream) (source : List Arrival) :
    s.turns (n + 1) source =
      s.turn source :: (s.turn source).after.turns n (s.turn source).rest := rfl

/-- More turns go on where the first ones stopped. -/
theorem turns_add (m n : Nat) (s : SealStream) (source : List Arrival) :
    s.turns (m + n) source =
      s.turns m source ++ (s.reached m source).1.turns n (s.reached m source).2 := by
  induction m generalizing s source with
  | zero => rw [Nat.zero_add]; rfl
  | succ m ih => rw [Nat.add_right_comm, turns_succ, ih, turns_succ, List.cons_append, reached]

theorem reached_add (m n : Nat) (s : SealStream) (source : List Arrival) :
    s.reached (m + n) source =
      (s.reached m source).1.reached n (s.reached m source).2 := by
  induction m generalizing s source with
  | zero => rw [Nat.zero_add]; rfl
  | succ m ih => rw [Nat.add_right_comm, reached, ih, reached]

/-- Counters that are added to as numbers are wherever the stream comes make no difference. -/
theorem turnsBy_eq {add : Nat → Nat → Nat}
    (h : ∀ n, (s.reached n source).1.turnBy add (s.reached n source).2 =
      (s.reached n source).1.turn (s.reached n source).2) (n : Nat) :
    s.turnsBy add n source = s.turns n source := by
  induction n generalizing s source with
  | zero => rfl
  | succ n ih =>
    have hfirst : s.turnBy add source = s.turn source := h 0
    rw [turnsBy, hfirst, turns_succ, ih fun m => h (m + 1)]

/-- What a turn keeps of the turns so far, and of where the stream stands after them, holds after
any number of turns. -/
theorem turns_induction {motive : List Turn → SealStream → List Arrival → Prop}
    (start : motive [] s source)
    (step : ∀ run s rest t, motive run s rest → Turned s rest t →
      motive (run ++ [t]) t.after t.rest) (n : Nat) :
    motive (s.turns n source) (s.reached n source).1 (s.reached n source).2 := by
  induction n with
  | zero => exact start
  | succ n ih =>
    rw [turns_add n 1, reached_add n 1]
    exact step _ _ _ _ ih (turned _ _)

/-- **A poll is the turns up to the first that answers.** -/
theorem exists_turns_poll (s : SealStream) (source : List Arrival) :
    ∃ n, (s.turns (n + 1) source).filterMap (·.answer) = [(s.poll source).1] ∧
      (∀ t ∈ s.turns n source, t.answer = none) ∧
      s.reached (n + 1) source = (s.poll source).2 := by
  have hturned := turned s source
  have hpoll := hturned.poll_eq
  cases hanswer : (s.turn source).answer with
  | some e =>
    rw [hanswer] at hpoll
    refine ⟨0, ?_, List.forall_mem_nil _, ?_⟩
    · rw [hpoll, turns_succ, List.filterMap_cons_some hanswer]
      rfl
    · rw [hpoll]
      rfl
  | none =>
    rw [hanswer] at hpoll
    have hless := hturned.turnsLeft_lt hanswer
    obtain ⟨n, hitems, hsilent, hreached⟩ :=
      exists_turns_poll (s.turn source).after (s.turn source).rest
    refine ⟨n + 1, ?_, List.forall_mem_cons.mpr ⟨hanswer, hsilent⟩, ?_⟩
    · rw [hpoll, turns_succ, List.filterMap_cons_none hanswer, hitems]
    · rw [hpoll, ← hreached, reached]
termination_by s.turnsLeft source

/-- Any number of polls is a number of turns. -/
theorem exists_turns_polls (m : Nat) (s : SealStream) (source : List Arrival) :
    ∃ n, (s.turns n source).filterMap (·.answer) = s.polls m source ∧
      s.reached n source = s.after m source := by
  induction m generalizing s source with
  | zero => exact ⟨0, rfl, rfl⟩
  | succ m ih =>
    obtain ⟨k, hfirst, -, hpolled⟩ := exists_turns_poll s source
    obtain ⟨n, hmore, hreached⟩ := ih (s.poll source).2.1 (s.poll source).2.2
    refine ⟨k + 1 + n, ?_, ?_⟩
    · rw [turns_add, List.filterMap_append, hfirst, hpolled, hmore, polls_succ]
      rfl
    · rw [reached_add, hpolled, hreached, after]

end SealStream

end MediaVault
