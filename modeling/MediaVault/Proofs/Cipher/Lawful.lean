/-
Encrypting and decrypting one segment undo each other, in both directions:
combining with the key stream twice changes nothing, and the tag is a function
of the combined octets. How hard a tag is to forge plays no part in it.
-/
import MediaVault.Seal.Key

namespace MediaVault

namespace Gcm

variable {s : Aes.Schedule} {nonce : Bytes}

/-- The key stream comes in whole blocks. -/
theorem length_keyStream (n : Nat) : (keyStream s nonce n).length = 16 * ((n + 15) / 16) := by
  unfold keyStream
  generalize (n + 15) / 16 = blocks
  induction blocks with
  | zero => rfl
  | succ blocks ih =>
    rw [List.range_succ, List.flatMap_append, List.length_append, ih, List.flatMap_cons,
      List.flatMap_nil, List.append_nil, Block.length_toBytes]
    omega

/-- The key stream is at least as long as what it covers. -/
theorem le_length_keyStream (n : Nat) : n ≤ (keyStream s nonce n).length := by
  rw [length_keyStream]; omega

@[simp] theorem length_cover (text : Bytes) : (cover s nonce text).length = text.length := by
  rw [cover, List.length_zipWith]
  exact Nat.min_eq_left (le_length_keyStream _)

theorem zipWith_xor_xor : ∀ {text stream : Bytes}, text.length ≤ stream.length →
    List.zipWith (· ^^^ ·) (List.zipWith (· ^^^ ·) text stream) stream = text
  | [], _, _ => rfl
  | _ :: _, [], h => by simp at h
  | x :: text, y :: stream, h => by
    simp only [List.length_cons, Nat.add_le_add_iff_right] at h
    simp only [List.zipWith_cons_cons, zipWith_xor_xor h, List.cons.injEq, and_true]
    rw [UInt8.xor_assoc, UInt8.xor_self, UInt8.xor_zero]

/-- Covering twice gives the text back. -/
@[simp] theorem cover_cover (text : Bytes) : cover s nonce (cover s nonce text) = text := by
  conv => lhs; rw [cover, length_cover]
  exact zipWith_xor_xor (le_length_keyStream _)

@[simp] theorem length_tag (covered : Bytes) : (tag s nonce covered).length = tagLength := rfl

@[simp] theorem length_encrypt (text : Bytes) :
    (encrypt s nonce text).length = text.length + tagLength := by simp [encrypt]

theorem decrypt_encrypt (text : Bytes) : decrypt s nonce (encrypt s nonce text) = some text := by
  have hlen : ¬ (encrypt s nonce text).length < tagLength := by rw [length_encrypt]; omega
  have hcut : (encrypt s nonce text).length - tagLength = (cover s nonce text).length := by
    rw [length_encrypt, length_cover]; omega
  rw [decrypt, if_neg hlen, hcut, encrypt, List.take_left, List.drop_left, if_pos rfl, cover_cover]

/-- Only what was encrypted is decrypted: the text and the tag have no second form. -/
theorem encrypt_of_decrypt {sealed text : Bytes} (h : decrypt s nonce sealed = some text) :
    encrypt s nonce text = sealed := by
  unfold decrypt at h
  split at h
  · cases h
  · simp only at h
    split at h
    next htag =>
      cases h
      rw [encrypt, cover_cover, ← htag, List.take_append_drop]
    · cases h

end Gcm

/-- What sealing in segments asks of a cipher: a tag of fixed length, and that encrypting and
decrypting at one place undo each other. -/
structure SegmentCipher.Lawful (c : SegmentCipher) : Prop where
  length_encrypt : ∀ p text, (c.encrypt p text).length = text.length + Seal.tagLength
  decrypt_encrypt : ∀ p text, c.decrypt p (c.encrypt p text) = some text
  encrypt_of_decrypt : ∀ p sealed text, c.decrypt p sealed = some text → c.encrypt p text = sealed

theorem SegmentCipher.lawful_aesGcm (key lead : Bytes) : (aesGcm key lead).Lawful where
  length_encrypt _ := Gcm.length_encrypt
  decrypt_encrypt _ := Gcm.decrypt_encrypt
  encrypt_of_decrypt _ _ _ := Gcm.encrypt_of_decrypt

/-- The cipher of a secret is lawful. -/
theorem SealKey.lawful_cipher (k : SealKey) : k.cipher.Lawful := SegmentCipher.lawful_aesGcm _ _

end MediaVault
