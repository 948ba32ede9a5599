import Hostapd.Foundation.Checked

/-!
# Base64

`base64_encode` and `base64_decode` (`src/utils/base64.c`).  The size of the text is estimated in
words of the machine before the text is written.  `base64_inverted` says that the estimate is never
too small, for want of an overflow test or otherwise, and that a text is decoded to what was
encoded.
-/

namespace Hostapd.Utils

open Wire List

def base64Table : Bytes :=
  "ABCDEFGHIJKLMNOPQRSTUVWXYZabcdefghijklmnopqrstuvwxyz0123456789+/".toUTF8.data.toList

def digit (b : UInt8) : UInt8 := base64Table.getD (b &&& 0x3f).toNat 0

/-- The line feed behind a line that is not empty. -/
def lastFeed (lineLen : ℕ) : Bytes := if lineLen ≠ 0 then [0x0a] else []

/-- The text that `base64_encode` writes, with `line_len` characters in the current line. -/
def base64Text (lineLen : ℕ) : Bytes → Bytes
  | a :: b :: c :: rest =>
    digit (a >>> 2) :: digit ((a &&& 0x03) <<< 4 ||| b >>> 4) ::
      digit ((b &&& 0x0f) <<< 2 ||| c >>> 6) :: digit c ::
        if 72 ≤ lineLen + 4 then 0x0a :: base64Text 0 rest else base64Text (lineLen + 4) rest
  | [a, b] =>
    digit (a >>> 2) :: digit ((a &&& 0x03) <<< 4 ||| b >>> 4) :: digit ((b &&& 0x0f) <<< 2) ::
      0x3d :: lastFeed (lineLen + 4)
  | [a] => digit (a >>> 2) :: digit ((a &&& 0x03) <<< 4) :: 0x3d :: 0x3d :: lastFeed (lineLen + 4)
  | [] => lastFeed lineLen

/-- The size of the buffer (`olen`), in words of `w` bits. -/
def base64Olen (w len : ℕ) : ℕ :=
  let olen := (len * 4 % 2 ^ w / 3 + 4) % 2 ^ w
  let olen := (olen + olen / 72) % 2 ^ w
  (olen + 1) % 2 ^ w

/-- `base64_encode`, which writes the text and a terminator. -/
def base64Encode (w : ℕ) (alloc : ℕ → Bool) (src : Bytes) : Checked (Option Bytes) :=
  let olen := base64Olen w src.length
  if olen < src.length ∨ alloc olen = false then .ok none
  else if (base64Text 0 src).length + 1 ≤ olen then .ok (some (base64Text 0 src))
  else .error .overrun

/-- The value of a character (`dtable`). -/
def dtable (c : UInt8) : UInt8 :=
  if c = 0x3d then 0 else ((base64Table.idxOf? c).map UInt8.ofNat).getD 0x80

/-- The octets of a block of four values. -/
def blockOctets (block : Bytes) : Bytes :=
  let b := fun i => block.getD i 0
  [b 0 <<< 2 ||| b 1 >>> 4, b 1 <<< 4 ||| b 2 >>> 2, b 2 <<< 6 ||| b 3]

/-- The loop of `base64_decode`, which ends behind the first block with padding. -/
def base64Blocks (block : Bytes) (pad : ℕ) : Bytes → Option Bytes
  | [] => some []
  | c :: src =>
    if dtable c = 0x80 then base64Blocks block pad src
    else
      let pad := if c = 0x3d then pad + 1 else pad
      let block := block ++ [dtable c]
      if block.length ≠ 4 then base64Blocks block pad src
      else if pad = 0 then (base64Blocks [] pad src).map (blockOctets block ++ ·)
      else if pad ≤ 2 then some ((blockOctets block).take (3 - pad))
      else none

/-- `base64_decode`. -/
def base64Decode (alloc : ℕ → Bool) (src : Bytes) : Option Bytes :=
  let count := src.countP (dtable · ≠ 0x80)
  if count = 0 ∨ count % 4 ≠ 0 ∨ alloc (count / 4 * 3) = false then none else base64Blocks [] 0 src

/-- The length of the text. -/
lemma length_base64Text {lineLen : ℕ} (src : Bytes) (hline : lineLen < 72)
    (hfour : lineLen % 4 = 0) : (base64Text lineLen src).length =
      (src.length + 2) / 3 * 4 + (lineLen + (src.length + 2) / 3 * 4 + 71) / 72 := by
  fun_induction base64Text lineLen src with
  | case1 lineLen a b c rest ih ih' =>
    simp only [length_cons]
    split_ifs with hfull
    · rw [length_cons, ih (by decide) rfl]
      omega
    · rw [ih' (by omega) (by omega)]
      omega
  | case2 | case3 =>
    simp [lastFeed]
    omega
  | case4 =>
    rw [lastFeed]
    split_ifs <;> simp <;> omega

lemma digit_spec (b : UInt8) :
    digit b ≠ 0x3d ∧ dtable (digit b) = b &&& 0x3f ∧ b &&& 0x3f ≠ 0x80 := by
  have hall : ∀ n < 256, digit (.ofNat n) ≠ 0x3d ∧
      dtable (digit (.ofNat n)) = .ofNat n &&& 0x3f ∧ (.ofNat n &&& 0x3f : UInt8) ≠ 0x80 := by
    decide +kernel
  simpa using hall b.toNat b.toNat_lt

lemma blockOctets_digits (a b c : UInt8) :
    blockOctets [a >>> 2 &&& 0x3f, ((a &&& 0x03) <<< 4 ||| b >>> 4) &&& 0x3f,
      ((b &&& 0x0f) <<< 2 ||| c >>> 6) &&& 0x3f, c &&& 0x3f] = [a, b, c] := by
  simp only [blockOctets, getD_cons_zero, getD_cons_succ, cons.injEq, and_true]
  refine ⟨?_, ?_, ?_⟩ <;> apply UInt8.toBitVec_inj.mp <;> ext i hi <;> interval_cases i <;> simp

lemma dtable_feed : dtable 0x0a = 0x80 := by decide +kernel

lemma dtable_pad : dtable 0x3d = 0 := rfl

/-- Line feeds are skipped, and the block with the padding is the last one. -/
lemma base64Blocks_base64Text (lineLen : ℕ) (src : Bytes) :
    base64Blocks [] 0 (base64Text lineLen src) = some src := by
  fun_induction base64Text lineLen src with
  | case1 lineLen a b c rest ih ih' =>
    have hrest : base64Blocks [] 0 (if 72 ≤ lineLen + 4 then 0x0a :: base64Text 0 rest
        else base64Text (lineLen + 4) rest) = some rest := by
      split_ifs
      · rw [base64Blocks, if_pos dtable_feed, ih]
      · exact ih'
    simp [base64Blocks, digit_spec, blockOctets_digits]
    simpa using hrest
  | case2 lineLen a b =>
    have hoctets := blockOctets_digits a b 0
    simp at hoctets
    simp [base64Blocks, digit_spec, dtable_pad, hoctets]
  | case3 lineLen a =>
    have hoctets := blockOctets_digits a 0 0
    simp at hoctets
    simp [base64Blocks, digit_spec, dtable_pad, hoctets]
  | case4 lineLen =>
    rw [lastFeed]
    split_ifs <;> simp [base64Blocks, dtable_feed]

lemma countP_base64Text (lineLen : ℕ) (src : Bytes) :
    (base64Text lineLen src).countP (dtable · ≠ 0x80) = (src.length + 2) / 3 * 4 := by
  fun_induction base64Text lineLen src with
  | case1 lineLen a b c rest ih ih' =>
    split_ifs <;> simp_all [digit_spec, dtable_feed] <;> omega
  | case2 | case3 => simp [digit_spec, dtable_pad, lastFeed, dtable_feed]
  | case4 =>
    rw [lastFeed]
    split_ifs <;> simp [dtable_feed]

lemma base64Olen_eq {w : ℕ} (hw : w = 32 ∨ w = 64) (len : ℕ) : base64Olen w len =
    len * 4 % 2 ^ w / 3 + 4 + (len * 4 % 2 ^ w / 3 + 4) / 72 + 1 := by
  have hlt : len * 4 % 2 ^ w < 2 ^ w := Nat.mod_lt _ (by positivity)
  rw [base64Olen]
  generalize len * 4 % 2 ^ w = r at *
  rcases hw with rfl | rfl <;> omega

/-- In words of 32 or 64 bits a text is written within its buffer, unless four times the length
overflows; and a text is decoded to what was encoded. -/
theorem base64_inverted :
    (∀ w, w = 32 ∨ w = 64 → ∀ alloc (src : Bytes), src.length < 2 ^ w →
      base64Encode w alloc src = .ok (if 2 ^ w ≤ src.length * 4 ∨
        alloc (base64Olen w src.length) = false then none else some (base64Text 0 src))) ∧
    ∀ alloc src, src ≠ [] → alloc ((src.length + 2) / 3 * 3) →
      base64Decode alloc (base64Text 0 src) = some src := by
  constructor
  · intro w hw alloc src hlen
    have hsize : (base64Olen w src.length < src.length ↔ 2 ^ w ≤ src.length * 4) ∧
        (src.length * 4 < 2 ^ w → (base64Text 0 src).length + 1 ≤ base64Olen w src.length) := by
      rw [length_base64Text src (by decide) rfl, base64Olen_eq hw]
      rcases hw with rfl | rfl <;> omega
    simp only [base64Encode, hsize.1]
    by_cases hwrap : 2 ^ w ≤ src.length * 4
    · simp [hwrap]
    · rw [if_pos (hsize.2 (not_le.mp hwrap)), apply_ite Except.ok]
  · intro alloc src hne halloc
    have hpos : 0 < src.length := length_pos_of_ne_nil hne
    rw [base64Decode, countP_base64Text, if_neg, base64Blocks_base64Text]
    rw [Nat.mul_div_cancel _ (by decide), halloc]
    simp
    omega

end Hostapd.Utils
