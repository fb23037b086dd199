/-
A block of sixteen octets, held as two words with the first octet on top.
Blocks are what the block cipher permutes and what the authenticator
multiplies.
-/
import MediaVault.Bytes

namespace MediaVault

/-- Sixteen octets. `hi` holds the first eight of them. -/
structure Block where
  hi : UInt64
  lo : UInt64
  deriving DecidableEq, Repr

namespace Block

/-- The block of zeros. -/
def zero : Block := ⟨0, 0⟩

/-- The octet-wise exclusive or. -/
def xor (a b : Block) : Block := ⟨a.hi ^^^ b.hi, a.lo ^^^ b.lo⟩

/-- Eight octets as a word, the first on top; missing octets read as zero. -/
def word (b : Bytes) : UInt64 :=
  (b ++ List.replicate (8 - b.length) 0).foldl (fun (w : UInt64) (x : UInt8) => (w <<< 8) ||| x.toUInt64) 0

/-- The first sixteen octets; missing octets read as zero. -/
def ofBytes (b : Bytes) : Block := ⟨word (b.take 8), word ((b.drop 8).take 8)⟩

/-- The octets of a word, the top one first. -/
def wordBytes (w : UInt64) : Bytes :=
  [(w >>> 56).toUInt8, (w >>> 48).toUInt8, (w >>> 40).toUInt8, (w >>> 32).toUInt8,
   (w >>> 24).toUInt8, (w >>> 16).toUInt8, (w >>> 8).toUInt8, w.toUInt8]

/-- The octets of a block in order. -/
def toBytes (b : Block) : Bytes := wordBytes b.hi ++ wordBytes b.lo

@[simp] theorem length_toBytes (b : Block) : b.toBytes.length = 16 := rfl

end Block

end MediaVault
