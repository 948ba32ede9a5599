import Mathlib.Data.List.TakeDrop
import Mathlib.Tactic

/-!
# Cipher block chaining

A block cipher run with chaining: every block is mixed with the block sent before it and then
encrypted, and the last block sent is the state for the next call. `decrypt_encrypt` says that a
receiver with the same state gets the blocks back, for any cipher whose decryption inverts its
encryption and any mixing that undoes itself.
-/

namespace Cbc

open List

variable {α β : Type*} {n k : ℕ} {bs : List (List α)}

/-! ## Blocks -/

/-- The first `k` blocks of `n` elements each. -/
def blocks (n : ℕ) : ℕ → List α → List (List α)
  | 0, _ => []
  | k + 1, l => l.take n :: blocks n k (l.drop n)

@[simp] lemma length_blocks (n k : ℕ) (l : List α) : (blocks n k l).length = k := by
  induction k generalizing l with
  | zero => rfl
  | succ k ih => simp [blocks, ih]

lemma flatten_blocks {l : List α} (h : l.length = n * k) : (blocks n k l).flatten = l := by
  induction k generalizing l with
  | zero =>
    rw [length_eq_zero_iff.mp h]
    rfl
  | succ k ih =>
    have hdrop : (l.drop n).length = n * k := by
      rw [length_drop, h, Nat.mul_succ, Nat.add_sub_cancel]
    rw [blocks, flatten_cons, ih hdrop, take_append_drop]

lemma blocks_flatten (h : ∀ b ∈ bs, b.length = n) : blocks n bs.length bs.flatten = bs := by
  induction bs with
  | nil => rfl
  | cons b bs ih =>
    have hb := h b mem_cons_self
    rw [length_cons, flatten_cons, blocks, ← hb, take_left, drop_left, hb,
      ih fun b' hb' => h b' (mem_cons_of_mem b hb')]

lemma length_of_mem_blocks {l b : List α} (h : l.length = n * k) (hb : b ∈ blocks n k l) :
    b.length = n := by
  induction k generalizing l with
  | zero => cases hb
  | succ k ih =>
    rw [Nat.mul_succ] at h
    rcases mem_cons.mp hb with rfl | hb
    · rw [length_take, h]
      omega
    · exact ih (by rw [length_drop, h, Nat.add_sub_cancel]) hb

lemma length_flatten_of_forall (h : ∀ b ∈ bs, b.length = n) :
    bs.flatten.length = n * bs.length := by
  induction bs with
  | nil => rfl
  | cons b bs ih =>
    rw [flatten_cons, length_append, h b mem_cons_self,
      ih fun b' hb' => h b' (mem_cons_of_mem b hb'), length_cons, Nat.mul_succ,
      Nat.add_comm]

/-! ## Chaining -/

variable (mix : β → β → β) (enc dec : β → β)

/-- Encrypt blocks: the new state and the blocks sent. -/
def encrypt (c : β) : List β → β × List β
  | [] => (c, [])
  | p :: ps =>
    let x := enc (mix c p)
    ((encrypt x ps).1, x :: (encrypt x ps).2)

/-- Decrypt blocks: the new state and the blocks recovered. -/
def decrypt (c : β) : List β → β × List β
  | [] => (c, [])
  | x :: xs => ((decrypt x xs).1, mix (dec x) c :: (decrypt x xs).2)

@[simp] lemma length_encrypt (c : β) (ps : List β) :
    (encrypt mix enc c ps).2.length = ps.length := by
  induction ps generalizing c with
  | nil => rfl
  | cons p ps ih => simp [encrypt, ih]

variable {mix enc dec} {P : β → Prop} {c : β} {ps : List β}

/-- What all blocks have, the blocks sent have. -/
lemma encrypt_blocks (hmix : ∀ c p, P c → P p → P (mix c p)) (henc : ∀ b, P b → P (enc b))
    (hc : P c) (hps : ∀ p ∈ ps, P p) :
    P (encrypt mix enc c ps).1 ∧ ∀ x ∈ (encrypt mix enc c ps).2, P x := by
  induction ps generalizing c with
  | nil => exact ⟨hc, fun x hx => absurd hx not_mem_nil⟩
  | cons p ps ih =>
    have hx := henc _ (hmix c p hc (hps p mem_cons_self))
    obtain ⟨hstate, hrest⟩ := ih hx fun q hq => hps q (mem_cons_of_mem p hq)
    refine ⟨hstate, fun y hy => ?_⟩
    rcases mem_cons.mp hy with rfl | hy
    · exact hx
    · exact hrest y hy

/-- A receiver in the state of the sender recovers the blocks and follows the sender's state. -/
lemma decrypt_encrypt (hmix : ∀ c p, P c → P p → P (mix c p)) (henc : ∀ b, P b → P (enc b))
    (hinv : ∀ b, P b → dec (enc b) = b) (hcancel : ∀ c p, P c → P p → mix (mix c p) c = p)
    (hc : P c) (hps : ∀ p ∈ ps, P p) :
    decrypt mix dec c (encrypt mix enc c ps).2 = ((encrypt mix enc c ps).1, ps) := by
  induction ps generalizing c with
  | nil => rfl
  | cons p ps ih =>
    have hp := hps p mem_cons_self
    have hx := henc _ (hmix c p hc hp)
    rw [encrypt, decrypt, ih hx fun q hq => hps q (mem_cons_of_mem p hq),
      hinv _ (hmix c p hc hp), hcancel c p hc hp]

end Cbc
