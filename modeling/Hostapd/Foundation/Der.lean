import Hostapd.Foundation.Octets

/-!
# Distinguished encodings

The distinguished encoding rules give each value one octet string: a length below 128 is one octet,
a longer one is written in as few octets as possible behind an octet that tells their number; a
number in an object identifier is written in digits to the base 128, all but the last of them
marked.

`octetCount` is the number of octets of a number without leading zero octets.
-/

namespace Der

open Wire List Nat

/-! ## Numbers without leading zeros -/

variable (n : ℕ)

/-- The number of octets that a number needs. -/
def octetCount : ℕ := if n = 0 then 0 else log2 n / 8 + 1

lemma lt_pow_octetCount : n < 256 ^ octetCount n := by
  unfold octetCount
  split
  · next h =>
    subst h
    decide
  have hlog : n < 2 ^ (log2 n + 1) := lt_log2_self
  have hpow : (256 : ℕ) ^ (log2 n / 8 + 1) = 2 ^ (8 * (log2 n / 8 + 1)) := by
    rw [pow_mul]
    norm_num
  rw [hpow]
  refine hlog.trans_le (Nat.pow_le_pow_right (by norm_num) ?_)
  omega

lemma octetCount_le {n k : ℕ} (h : n < 256 ^ k) : octetCount n ≤ k := by
  unfold octetCount
  split
  · exact zero_le k
  next hn =>
  have hpow : (256 : ℕ) ^ k = 2 ^ (8 * k) := by
    rw [pow_mul]
    norm_num
  have hlog : log2 n < 8 * k := (log2_lt hn).mpr (hpow ▸ h)
  omega

lemma lt_octetCount {n k : ℕ} (h : 256 ^ k ≤ n) : k < octetCount n := by
  by_contra hle
  have hlt := (lt_pow_octetCount n).trans_le (Nat.pow_le_pow_right (by norm_num) (not_lt.mp hle))
  omega

/-! ## Lengths and elements -/

/-- The encoding of a length. -/
def length : Bytes :=
  if n < 128 then [UInt8.ofNat n]
  else UInt8.ofNat (128 + octetCount n) :: toBe (octetCount n) n

/-- An element: identifier octet, length and content. -/
def tlv (identifier : UInt8) (content : Bytes) : Bytes :=
  identifier :: length content.length ++ content

lemma length_length_le {n k : ℕ} (h : n < 256 ^ k) : (length n).length ≤ k + 1 := by
  have hcount := octetCount_le h
  unfold length
  split
  · simp
  · simp only [length_cons, length_toBe]
    omega

lemma length_tlv_le {identifier : UInt8} {content : Bytes} {k : ℕ}
    (h : content.length < 256 ^ k) : (tlv identifier content).length ≤ content.length + k + 2 := by
  have hlen := length_length_le h
  simp only [tlv, length_append, length_cons]
  omega

/-! ## Object identifiers -/

/-- The digits of a number to the base 128, the first one first. -/
def digits128 : List ℕ := if n = 0 then [0] else (digits 128 n).reverse

/-- A number of an object identifier: all digits but the last one are marked. -/
def base128 : Bytes :=
  (digits128 n).dropLast.map (fun d => UInt8.ofNat (128 + d)) ++
    ((digits128 n).getLast?.map UInt8.ofNat).toList

/-- The numbers of an object identifier as they are written: the first two of them as one. -/
def oidValues : List ℕ → List ℕ
  | a :: b :: rest => (a * 40 + b) :: rest
  | _ => []

/-- The content of an object identifier. -/
def oid (l : List ℕ) : Bytes := (oidValues l).flatMap base128

/-- A number is written as marked digits and one that is not marked. -/
lemma base128_eq : ∃ (ds : List ℕ) (d : ℕ), (∀ x ∈ ds, x < 128) ∧ d < 128 ∧
    base128 n = ds.map (fun x => UInt8.ofNat (128 + x)) ++ [UInt8.ofNat d] ∧
    ds.foldl (fun v x => v * 128 + x) 0 * 128 + d = n ∧ ds.length ≤ (digits 128 n).length - 1 := by
  by_cases hn : n = 0
  · subst hn
    exact ⟨[], 0, by simp, by decide, by simp [base128, digits128], by simp, by simp⟩
  have hne : (digits 128 n).reverse ≠ [] :=
    reverse_ne_nil_iff.mpr (digits_ne_nil_iff_ne_zero.mpr hn)
  have hsplit := dropLast_append_getLast hne
  have hlt : ∀ x ∈ (digits 128 n).reverse, x < 128 := fun x hx =>
    digits_lt_base (by norm_num) (mem_reverse.mp hx)
  refine ⟨(digits 128 n).reverse.dropLast, (digits 128 n).reverse.getLast hne,
    fun x hx => hlt x (mem_of_mem_dropLast hx), hlt _ (getLast_mem hne), ?_, ?_, by simp⟩
  · rw [base128, digits128, if_neg hn, getLast?_eq_getLast_of_ne_nil hne]
    rfl
  · calc (digits 128 n).reverse.dropLast.foldl (fun v x => v * 128 + x) 0 * 128 +
          (digits 128 n).reverse.getLast hne
        = (digits 128 n).reverse.foldl (fun v x => v * 128 + x) 0 := by
          conv_rhs => rw [← hsplit, foldl_append]
          rfl
      _ = ofDigits 128 (digits 128 n) := by
          rw [foldl_reverse, ofDigits_eq_foldr]
          congr 1
          funext x y
          simp [add_comm, mul_comm]
      _ = n := ofDigits_digits 128 n

lemma length_base128_le {n k : ℕ} (h : n < 128 ^ k) (hk : 0 < k) : (base128 n).length ≤ k := by
  obtain ⟨ds, d, -, -, hbase, -, hlen⟩ := base128_eq n
  have hdigits := (digits_length_le_iff (by norm_num) n).mpr h
  rw [hbase, length_append, length_map, length_singleton]
  omega

lemma length_oid_le {l : List ℕ} (h : ∀ n ∈ oidValues l, n < 2 ^ 64) :
    (oid l).length ≤ 10 * (oidValues l).length := by
  rw [oid]
  generalize oidValues l = vs at h
  induction vs with
  | nil => simp
  | cons n vs ih =>
    have hn : (base128 n).length ≤ 10 :=
      length_base128_le ((h n mem_cons_self).trans (by norm_num)) (by norm_num)
    have htail := ih fun m hm => h m (mem_cons_of_mem n hm)
    rw [flatMap_cons, length_append, length_cons]
    omega

end Der
