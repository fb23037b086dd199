/-
What a stream takes from its source. `Delivers` says of a source alone that it
hands over a text and ends; `intake` says of any source which octets a stream
accepts and which fault, if any, it stops at. The two agree on the sources
that deliver exactly what was declared.
-/
import MediaVault.Seal.Stream

namespace MediaVault

/-- The source hands over exactly this text, in chunks of any size and with any waits, and ends. -/
inductive Delivers : List Arrival → Bytes → Prop
  | ended : Delivers [] []
  | pending {rest text} : Delivers rest text → Delivers (.pending :: rest) text
  | chunk {data rest text} : Delivers rest text → Delivers (.chunk data :: rest) (data ++ text)

/-- One chunk delivers itself. -/
theorem Delivers.single (text : Bytes) : Delivers [.chunk text] text := by
  have : Delivers [.chunk text] (text ++ []) := .chunk .ended
  rwa [List.append_nil] at this

/-- One source after another delivers both texts. -/
theorem Delivers.append {first second : List Arrival} {a b : Bytes} (ha : Delivers first a)
    (hb : Delivers second b) : Delivers (first ++ second) (a ++ b) := by
  induction ha with
  | ended => exact hb
  | pending _ ih => exact .pending ih
  | chunk _ ih => rw [List.append_assoc]; exact .chunk ih

/-- A source delivers at most one text. -/
theorem Delivers.unique {source : List Arrival} {a b : Bytes} (ha : Delivers source a)
    (hb : Delivers source b) : a = b := by
  induction ha generalizing b with
  | ended => cases hb; rfl
  | pending _ ih => cases hb with | pending hb => exact ih hb
  | chunk _ ih => cases hb with | chunk hb => rw [ih hb]

namespace SealStream

/-- The octets that a stream accepts after the first `received`, and the fault it stops at. The
chunk that is more than was declared is not accepted. -/
def intake (declared : Nat) : Nat → List Arrival → Bytes × Option SealFault
  | received, [] =>
    ([], if received < declared then some (.truncated declared received) else none)
  | received, .pending :: rest => intake declared received rest
  | _, .failure reason :: _ => ([], some (.source reason))
  | received, .chunk data :: rest =>
    let total := received + data.length
    if declared < total then ([], some (.overrun declared total))
    else (data ++ (intake declared total rest).1, (intake declared total rest).2)

/-- How often a stream finds its source not ready before it stops asking. -/
def waits (declared : Nat) : Nat → List Arrival → Nat
  | _, [] => 0
  | received, .pending :: rest => waits declared received rest + 1
  | _, .failure _ :: _ => 0
  | received, .chunk data :: rest =>
    if declared < received + data.length then 0 else waits declared (received + data.length) rest

variable {declared received : Nat} {source : List Arrival} {text : Bytes}

theorem intake_chunk_of_lt {data rest} (h : declared < received + data.length) :
    intake declared received (.chunk data :: rest) =
      ([], some (.overrun declared (received + data.length))) := by simp [intake, h]

theorem intake_chunk_of_le {data rest} (h : ¬ declared < received + data.length) :
    intake declared received (.chunk data :: rest) =
      (data ++ (intake declared (received + data.length) rest).1,
        (intake declared (received + data.length) rest).2) := by simp [intake, h]

/-- No more than what was declared is accepted. -/
theorem length_intake_le (h : received ≤ declared) :
    received + (intake declared received source).1.length ≤ declared := by
  fun_induction intake declared received source with
  | case1 => simpa using h
  | case2 received rest ih => exact ih h
  | case3 => simpa using h
  | case4 => simpa using h
  | case5 received data rest total hle ih =>
    have := ih (Nat.le_of_not_lt hle)
    rw [List.length_append]
    omega

/-- A source that delivers exactly what was declared is taken in whole. -/
theorem intake_of_delivers (hd : Delivers source text) (hlen : received + text.length = declared) :
    intake declared received source = (text, none) := by
  induction hd generalizing received with
  | ended =>
    have : ¬ received < declared := by simp at hlen; omega
    simp [intake, this]
  | pending _ ih => exact ih hlen
  | @chunk data rest text _ ih =>
    rw [List.length_append] at hlen
    rw [intake_chunk_of_le (by omega), ih (by omega)]

/-- Only a source that delivers exactly what was declared is taken in without a fault. -/
theorem delivers_of_intake (h : intake declared received source = (text, none))
    (hle : received ≤ declared) : Delivers source text ∧ received + text.length = declared := by
  induction source generalizing received text with
  | nil =>
    simp only [intake, Prod.mk.injEq] at h
    obtain ⟨rfl, hnone⟩ := h
    split at hnone
    · cases hnone
    · exact ⟨.ended, by simp; omega⟩
  | cons a rest ih =>
    cases a with
    | pending =>
      obtain ⟨hd, hlen⟩ := ih h hle
      exact ⟨.pending hd, hlen⟩
    | failure reason => simp [intake] at h
    | chunk data =>
      by_cases hlt : declared < received + data.length
      · simp [intake_chunk_of_lt hlt] at h
      · rcases hi : intake declared (received + data.length) rest with ⟨accepted, fault⟩
        simp only [intake_chunk_of_le hlt, hi, Prod.mk.injEq] at h
        obtain ⟨rfl, rfl⟩ := h
        obtain ⟨hd, hlen⟩ := ih hi (Nat.le_of_not_lt hlt)
        exact ⟨.chunk hd, by rw [List.length_append]; omega⟩

/-- What is accepted is no more than what is delivered. -/
theorem length_intake_le_octetCount :
    (intake declared received source).1.length ≤ octetCount source := by
  fun_induction intake declared received source with
  | case1 => simp
  | case2 received rest ih => exact ih
  | case3 => simp
  | case4 => simp
  | case5 received data rest total hle ih =>
    rw [List.length_append, octetCount]
    exact Nat.add_le_add_left ih _

/-- A stream waits at most once for each answer of its source. -/
theorem waits_le_length : waits declared received source ≤ source.length := by
  fun_induction waits declared received source with
  | case1 => simp
  | case2 received rest ih => simpa using ih
  | case3 => simp
  | case4 => simp
  | case5 received data rest hle ih => rw [List.length_cons]; omega

end SealStream

end MediaVault
