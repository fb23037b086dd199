/-
Sealing an object while it arrives. The stream is asked for one item at a
time; it asks its source only when it has no full segment left to seal. A
source that is too long, too short or broken ends the stream with one error,
and the final segment is sealed only after the source has ended with exactly
the declared number of octets.
-/
import MediaVault.Seal.Backlog
import MediaVault.Seal.Key

namespace MediaVault

/-- What a source answers when it is asked once. After its last answer it has ended. -/
inductive Arrival where
  /-- Nothing is ready yet. -/
  | pending
  /-- Some octets, possibly none. -/
  | chunk (data : Bytes)
  /-- The source broke, with its own words for it. -/
  | failure (reason : String)
  deriving DecidableEq, Repr

/-- What the sealing stream answers when it is asked once. -/
inductive Emission where
  /-- The source was not ready. -/
  | pending
  /-- One sealed segment. -/
  | segment (sealed : Bytes)
  /-- The stream failed and has ended. -/
  | fault (f : SealFault)
  /-- The stream has ended. -/
  | ended
  deriving DecidableEq, Repr

/-- How far a sealing stream has come. -/
inductive SealPhase where
  /-- The source may have more. -/
  | reading
  /-- The source has ended with the declared length; the final segment is still to come. -/
  | draining
  /-- The final segment or an error was given. -/
  | closed
  deriving DecidableEq, Repr

/-- A stream that seals what a source delivers. -/
structure SealStream where
  cipher : SegmentCipher
  /-- The number of octets that the source must deliver. -/
  declared : Nat
  phase : SealPhase
  backlog : Backlog
  /-- The octets received so far. -/
  received : Nat
  /-- The sealed octets given out so far. -/
  emitted : Nat
  /-- The position of the next segment. -/
  index : Nat

namespace SealStream

/-- A stream at its start. -/
def start (cipher : SegmentCipher) (declared : Nat) : SealStream :=
  { cipher, declared, phase := .reading, backlog := .empty, received := 0, emitted := 0, index := 0 }

/-- The number of octets that the stream gives out if it does not fail. -/
def sealedLength (s : SealStream) : Nat := Seal.sealedLength s.declared

/-- The stream after its last item. -/
def close (s : SealStream) : SealStream := { s with phase := .closed }

/-- A full segment sealed at the next position. -/
def sealFull (s : SealStream) : Emission × SealStream :=
  let (text, rest) := s.backlog.split Seal.segmentLength
  if s.index = Place.limit then (.fault .sealing, { s with backlog := rest }.close)
  else
    let sealed := s.cipher.encrypt ⟨s.index, false⟩ text
    (.segment sealed,
      { s with backlog := rest, emitted := s.emitted + sealed.length, index := s.index + 1 })

/-- The final segment sealed at the next position. -/
def sealLast (s : SealStream) : Emission × SealStream :=
  let sealed := s.cipher.encrypt ⟨s.index, true⟩ s.backlog.toBytes
  let emitted := s.emitted + sealed.length
  let s' := { s with backlog := .empty, emitted := emitted }.close
  if emitted = s.sealedLength then (.segment sealed, s')
  else (.fault (.sealedLength s.sealedLength emitted), s')

/-- A chunk added to the backlog, unless it is more than was declared. -/
def receive (s : SealStream) (data : Bytes) : Except SealFault SealStream :=
  let received := s.received + data.length
  if s.declared < received then .error (.overrun s.declared received)
  else .ok { s with backlog := s.backlog.push data, received := received }

/-- The stream asked once, with what the source has still to answer. -/
def poll (s : SealStream) (source : List Arrival) : Emission × SealStream × List Arrival :=
  match s.phase with
  | .closed => (.ended, s, source)
  | .draining =>
    let (e, s') := if Seal.segmentLength ≤ s.backlog.size then s.sealFull else s.sealLast
    (e, s', source)
  | .reading =>
    if Seal.segmentLength ≤ s.backlog.size then
      let (e, s') := s.sealFull
      (e, s', source)
    else
      match source with
      | [] =>
        if s.received < s.declared then (.fault (.truncated s.declared s.received), s.close, [])
        else
          let (e, s') := { s with phase := .draining }.sealLast
          (e, s', [])
      | .pending :: rest => (.pending, s, rest)
      | .failure reason :: rest => (.fault (.source reason), s.close, rest)
      | .chunk data :: rest =>
        match s.receive data with
        | .error f => (.fault f, s.close, rest)
        | .ok s' => s'.poll rest
termination_by source.length

/-- The first `n` answers of a stream. -/
def polls : Nat → SealStream → List Arrival → List Emission
  | 0, _, _ => []
  | n + 1, s, source =>
    let (e, s', rest) := s.poll source
    e :: polls n s' rest

/-- The stream after so many polls, with what its source has still to answer. -/
def after : Nat → SealStream → List Arrival → SealStream × List Arrival
  | 0, s, source => (s, source)
  | n + 1, s, source => after n (s.poll source).2.1 (s.poll source).2.2

/-- The number of octets that a source delivers. -/
def octetCount : List Arrival → Nat
  | [] => 0
  | .chunk data :: rest => data.length + octetCount rest
  | _ :: rest => octetCount rest

/-- As many polls as bring a stream to its end: one for each answer of the source, one for each
full segment and one for the final segment or the error. -/
def pollBound (s : SealStream) (source : List Arrival) : Nat :=
  source.length + (s.backlog.size + octetCount source) / Seal.segmentLength + 2

/-- What a stream gives out in `n` polls, and the fault that ended it if one did. -/
def drawn (s : SealStream) (n : Nat) (source : List Arrival) : Bytes × Option SealFault :=
  let items := s.polls n source
  (items.flatMap fun
    | .segment sealed => sealed
    | _ => [],
   items.findSome? fun
    | .fault f => some f
    | _ => none)

/-- Whether a stream has given out all of its object in `n` polls. -/
def isSpent (s : SealStream) (n : Nat) (source : List Arrival) : Bool :=
  (s.after n source).1.phase = .closed && (s.drawn n source).2.isNone

/-- Everything that a stream gives out, and the fault that ended it if one did. -/
def drain (s : SealStream) (source : List Arrival) : Bytes × Option SealFault :=
  s.drawn (s.pollBound source) source

end SealStream

/-- A whole text sealed under a secret. -/
def SealKey.sealText (k : SealKey) (text : Bytes) : Bytes :=
  ((SealStream.start k.cipher text.length).drain [.chunk text]).1

end MediaVault
