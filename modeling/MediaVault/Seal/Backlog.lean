/-
The octets that were received and not yet sealed. They arrive in pieces of
any size and leave in segments, so the pieces are kept as they came, newest
first, and put together only when a segment is cut off.
-/
import MediaVault.Bytes

namespace MediaVault

/-- Octets waiting to be sealed, with their number. -/
structure Backlog where
  pieces : List Bytes
  size : Nat
  size_eq : size = pieces.flatten.length := by simp

namespace Backlog

/-- Nothing is waiting. -/
def empty : Backlog := { pieces := [], size := 0 }

/-- All waiting octets in the order in which they came. -/
def toBytes (b : Backlog) : Bytes := b.pieces.reverse.flatten

/-- A piece more. -/
def push (b : Backlog) (piece : Bytes) : Backlog :=
  { pieces := piece :: b.pieces, size := b.size + piece.length,
    size_eq := by rw [b.size_eq, List.flatten_cons, List.length_append, Nat.add_comm] }

/-- The first `n` octets, and the octets after them. -/
def split (b : Backlog) (n : Nat) : Bytes × Backlog :=
  let all := b.toBytes
  let rest := all.drop n
  (all.take n, { pieces := [rest], size := rest.length })

@[simp] theorem toBytes_empty : empty.toBytes = [] := rfl

@[simp] theorem toBytes_push (b : Backlog) (piece : Bytes) :
    (b.push piece).toBytes = b.toBytes ++ piece := by simp [push, toBytes]

theorem size_eq_length (b : Backlog) : b.size = b.toBytes.length := by
  have h : ∀ l : List Bytes, l.reverse.flatten.length = l.flatten.length := by
    intro l
    induction l with
    | nil => rfl
    | cons x rest ih =>
      simp only [List.reverse_cons, List.flatten_append, List.flatten_cons, List.flatten_nil,
        List.length_append, List.append_nil, ih]
      omega
  rw [b.size_eq, toBytes, h]

@[simp] theorem fst_split (b : Backlog) (n : Nat) : (b.split n).1 = b.toBytes.take n := rfl

@[simp] theorem toBytes_snd_split (b : Backlog) (n : Nat) :
    (b.split n).2.toBytes = b.toBytes.drop n := by simp [split, toBytes]

end Backlog

end MediaVault
