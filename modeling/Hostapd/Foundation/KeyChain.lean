import Hostapd.Foundation.Octets

/-!
# Ciphers that chain a mask over blocks

A stream of blocks is hidden by a mask that is computed from the block before: each block is xored
with the mask of the previous *ciphertext* block, the first one with the mask of an initial string.
Whoever can compute the mask function can undo it, since the ciphertext is at hand.  Nothing is
asked of the mask function but the length of its values.
-/

namespace Wire

open List

/-- Octet-wise exclusive or of two octet strings, as long as the shorter one. -/
def xorOctets (a b : Bytes) : Bytes := List.zipWith (· ^^^ ·) a b

lemma length_xorOctets (a b : Bytes) : (xorOctets a b).length = min a.length b.length :=
  length_zipWith

lemma xorOctets_cancel {a k : Bytes} (h : a.length ≤ k.length) :
    xorOctets (xorOctets a k) k = a := by
  induction a generalizing k with
  | nil => rfl
  | cons x a ih =>
    cases k with
    | nil => simp at h
    | cons y k =>
      have htail := ih (k := k) (by simpa using h)
      unfold xorOctets at htail ⊢
      simp only [zipWith_cons_cons, htail, UInt8.xor_assoc, UInt8.xor_self, UInt8.xor_zero]

variable (mask : Bytes → Bytes) (b : ℕ)

/-- The first `n` blocks of `b` octets of a plaintext, each masked by what `mask` gives for the
ciphertext block before it, the first one by what it gives for `prev`. -/
def chainEncrypt : ℕ → Bytes → Bytes → Bytes
  | 0, _, _ => []
  | n + 1, prev, plain =>
    xorOctets (plain.take b) (mask prev) ++
      chainEncrypt n (xorOctets (plain.take b) (mask prev)) (plain.drop b)

/-- The first `n` blocks of a ciphertext with their masks taken off. -/
def chainDecrypt : ℕ → Bytes → Bytes → Bytes
  | 0, _, _ => []
  | n + 1, prev, cipher =>
    xorOctets (cipher.take b) (mask prev) ++ chainDecrypt n (cipher.take b) (cipher.drop b)

variable {mask b} {n : ℕ}

lemma length_chainEncrypt (hmask : ∀ x, (mask x).length = b) {prev plain : Bytes}
    (hplain : plain.length = n * b) : (chainEncrypt mask b n prev plain).length = n * b := by
  induction n generalizing prev plain with
  | zero => simp [chainEncrypt]
  | succ n ih =>
    have hrest : (plain.drop b).length = n * b := by
      rw [length_drop, hplain, Nat.succ_mul]
      omega
    rw [chainEncrypt, length_append, ih hrest, length_xorOctets, hmask, length_take,
      hplain, Nat.succ_mul]
    omega

/-- Decryption inverts encryption. -/
lemma chainDecrypt_chainEncrypt (hmask : ∀ x, (mask x).length = b) {prev plain : Bytes}
    (hplain : plain.length = n * b) :
    chainDecrypt mask b n prev (chainEncrypt mask b n prev plain) = plain := by
  induction n generalizing prev plain with
  | zero =>
    have hnil : plain = [] := length_eq_zero_iff.mp (by simpa using hplain)
    simp [chainDecrypt, hnil]
  | succ n ih =>
    have hblock : (plain.take b).length = b := by
      rw [length_take, hplain, Nat.succ_mul]
      omega
    have hcipher : (xorOctets (plain.take b) (mask prev)).length = b := by
      rw [length_xorOctets, hblock, hmask, min_self]
    have hrest : (plain.drop b).length = n * b := by
      rw [length_drop, hplain, Nat.succ_mul]
      omega
    rw [chainEncrypt, chainDecrypt, take_left' hcipher, drop_left' hcipher, ih hrest,
      xorOctets_cancel (by rw [hblock, hmask]), take_append_drop]

end Wire
