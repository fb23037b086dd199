/-
Galois/counter mode over AES-256 with a nonce of twelve octets, a tag of
sixteen and no associated data. The text is combined with a key stream, and
the tag authenticates the combined octets, so opening recomputes the tag
before it uncovers anything.
-/
import MediaVault.Cipher.Aes

namespace MediaVault.Gcm

/-- The octets of a tag. -/
def tagLength : Nat := 16

/-- The remaining steps of a product in the field of 2¹²⁸ elements: `x` supplies the bits of one
factor from the top, `v` is the other factor times the power reached, `z` the sum so far. -/
def mulLoop : Nat → (xh xl vh vl zh zl : UInt64) → Block
  | 0, _, _, _, _, zh, zl => ⟨zh, zl⟩
  | n + 1, xh, xl, vh, vl, zh, zl =>
    let take := xh >>> 63 = 1
    let carry := vl &&& 1 = 1
    mulLoop n ((xh <<< 1) ||| (xl >>> 63)) (xl <<< 1)
      ((vh >>> 1) ^^^ (if carry then 0xe100000000000000 else 0)) ((vl >>> 1) ||| (vh <<< 63))
      (if take then zh ^^^ vh else zh) (if take then zl ^^^ vl else zl)

/-- The product in the field of 2¹²⁸ elements. -/
def mul (x y : Block) : Block := mulLoop 128 x.hi x.lo y.hi y.lo 0 0

/-- The running hash over the octets, sixteen at a time, the last group filled up with zeros. -/
def absorb (h : Block) (y : Block) (data : Bytes) : Block :=
  match data with
  | [] => y
  | b :: rest => absorb h (mul (y.xor (Block.ofBytes ((b :: rest).take 16))) h) (rest.drop 15)
termination_by data.length
decreasing_by simp only [List.length_drop, List.length_cons]; omega

/-- The hash of the octets and of their count in bits. -/
def hash (h : Block) (data : Bytes) : Block :=
  mul ((absorb h Block.zero data).xor ⟨0, UInt64.ofNat (8 * data.length)⟩) h

/-- The block of the nonce and a counter. -/
def counterBlock (nonce : Bytes) (counter : Nat) : Block :=
  let b := Block.ofBytes nonce
  ⟨b.hi, b.lo ||| (UInt32.ofNat counter).toUInt64⟩

/-- Enough key stream for `n` octets. The first counter is spent on the tag. -/
def keyStream (s : Aes.Schedule) (nonce : Bytes) (n : Nat) : Bytes :=
  (List.range ((n + 15) / 16)).flatMap fun i => (Aes.encipher s (counterBlock nonce (i + 2))).toBytes

/-- A text combined with the key stream; a second time gives the text back. -/
def cover (s : Aes.Schedule) (nonce : Bytes) (text : Bytes) : Bytes :=
  List.zipWith (· ^^^ ·) text (keyStream s nonce text.length)

/-- The tag of covered octets. -/
def tag (s : Aes.Schedule) (nonce : Bytes) (covered : Bytes) : Bytes :=
  ((hash (Aes.encipher s Block.zero) covered).xor (Aes.encipher s (counterBlock nonce 1))).toBytes

/-- The covered text followed by its tag. -/
def encrypt (s : Aes.Schedule) (nonce : Bytes) (text : Bytes) : Bytes :=
  let covered := cover s nonce text
  covered ++ tag s nonce covered

/-- The text that was encrypted, if the tag is the one of the octets before it. -/
def decrypt (s : Aes.Schedule) (nonce : Bytes) (sealed : Bytes) : Option Bytes :=
  if sealed.length < tagLength then none
  else
    let covered := sealed.take (sealed.length - tagLength)
    if sealed.drop (sealed.length - tagLength) = tag s nonce covered then some (cover s nonce covered)
    else none

end MediaVault.Gcm
