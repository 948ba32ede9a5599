import Mathlib.Data.List.TakeDrop
import Mathlib.Tactic

/-!
# Octet strings

Fixed-length octet strings and the big-endian number codecs that network formats are built from.

`Octets n` carries its length as a field. `beNat` is the value of an octet string read most
significant octet first, `toBe k` writes a number in `k` octets. `memcmp` is the C comparison, and
`memcmp_neg_iff` reduces it on strings of one length to the order of the values.
-/

namespace Wire

open List

/-- An octet string of any length. -/
abbrev Bytes := List UInt8

/-- An octet string of exactly `n` octets. -/
structure Octets (n : ℕ) where
  val : Bytes
  length_eq : val.length = n
deriving DecidableEq

namespace Octets

variable {n : ℕ}

@[ext] lemma ext {a b : Octets n} (h : a.val = b.val) : a = b := by
  cases a
  cases b
  simp_all

/-- The first `n` octets of `l`, filled up with zero octets when `l` is too short. -/
def ofList (n : ℕ) (l : Bytes) : Octets n :=
  ⟨l.takeD n 0, takeD_length n l 0⟩

/-- `n` zero octets, the content of zeroed memory. -/
def zero (n : ℕ) : Octets n :=
  ⟨replicate n 0, length_replicate⟩

instance : Inhabited (Octets n) := ⟨zero n⟩

@[simp] lemma length_val (a : Octets n) : a.val.length = n := a.length_eq

@[simp] lemma ofList_append (a : Octets n) (t : Bytes) : ofList n (a.val ++ t) = a := by
  apply ext
  have h := takeD_left a.val t (0 : UInt8)
  rwa [a.length_eq] at h

@[simp] lemma ofList_val (a : Octets n) : ofList n a.val = a := by
  simpa using ofList_append a []

lemma ofList_ofList {k : ℕ} (a : Octets n) (h : n ≤ k) : ofList n (ofList k a.val).val = a := by
  have hfill : ∀ (l : Bytes) (k : ℕ), l.length ≤ k → (l.takeD k 0).takeD l.length 0 = l := by
    intro l
    induction l with
    | nil => exact fun k _ => rfl
    | cons x l ih =>
      intro k hk
      cases k with
      | zero => cases hk
      | succ k =>
        simpa using ih k (by simpa using hk)
  apply ext
  have htake := hfill a.val k (a.length_eq.trans_le h)
  rwa [a.length_eq] at htake

end Octets

/-! ## Big-endian numbers -/

/-- The value of an octet string, most significant octet first. -/
def beNat : Bytes → ℕ
  | [] => 0
  | b :: bs => b.toNat * 256 ^ bs.length + beNat bs

/-- The `k` low-order octets of `n`, most significant octet first. -/
def toBe : ℕ → ℕ → Bytes
  | 0, _ => []
  | k + 1, n => UInt8.ofNat (n / 256 ^ k) :: toBe k n

@[simp] lemma length_toBe (k n : ℕ) : (toBe k n).length = k := by
  induction k with
  | zero => rfl
  | succ k ih => simp [toBe, ih]

lemma beNat_toBe (k n : ℕ) : beNat (toBe k n) = n % 256 ^ k := by
  induction k with
  | zero => simp [toBe, beNat, Nat.mod_one]
  | succ k ih =>
    have hoct : (UInt8.ofNat (n / 256 ^ k)).toNat = n / 256 ^ k % 256 := by simp
    rw [toBe, beNat, length_toBe, ih, hoct, pow_succ, Nat.mod_mul]
    ring

variable (l : Bytes)

lemma beNat_lt : beNat l < 256 ^ l.length := by
  induction l with
  | nil => simp [beNat]
  | cons b l ih =>
    have hb : b.toNat + 1 ≤ 256 := b.toNat_lt
    have hmul : (b.toNat + 1) * 256 ^ l.length ≤ 256 * 256 ^ l.length :=
      Nat.mul_le_mul_right _ hb
    rw [beNat, length_cons, pow_succ]
    linarith

/-- Writing a number in its length gives its octets. -/
lemma toBe_beNat (m : ℕ) : toBe l.length (beNat l + m * 256 ^ l.length) = l := by
  induction l generalizing m with
  | nil => rfl
  | cons b l ih =>
    have hsum : beNat (b :: l) + m * 256 ^ (b :: l).length =
        beNat l + (b.toNat + m * 256) * 256 ^ l.length := by
      rw [beNat, length_cons, pow_succ]
      ring
    have hdiv : (beNat l + (b.toNat + m * 256) * 256 ^ l.length) / 256 ^ l.length =
        b.toNat + m * 256 := by
      rw [Nat.add_mul_div_right _ _ (by positivity), Nat.div_eq_of_lt (beNat_lt l), Nat.zero_add]
    rw [length_cons, toBe, ← length_cons, hsum, hdiv, ih]
    simp

/-- The 16-bit number in the first two octets. -/
def ofBe16 : UInt16 := UInt16.ofNat (beNat (l.take 2))

/-- The two octets of a 16-bit number. -/
def be16 (x : UInt16) : Bytes := toBe 2 x.toNat

/-- The 32-bit number in the first four octets. -/
def ofBe32 : UInt32 := UInt32.ofNat (beNat (l.take 4))

/-- The four octets of a 32-bit number. -/
def be32 (x : UInt32) : Bytes := toBe 4 x.toNat

/-- The 64-bit number in the first eight octets. -/
def ofBe64 : UInt64 := UInt64.ofNat (beNat (l.take 8))

/-- The eight octets of a 64-bit number. -/
def be64 (x : UInt64) : Bytes := toBe 8 x.toNat

@[simp] lemma length_be16 (x : UInt16) : (be16 x).length = 2 := length_toBe _ _

@[simp] lemma length_be32 (x : UInt32) : (be32 x).length = 4 := length_toBe _ _

lemma beNat_take_toBe {n x : ℕ} (hx : x < 256 ^ n) (t : Bytes) :
    beNat ((toBe n x ++ t).take n) = x := by
  rw [take_left' (length_toBe n x), beNat_toBe, Nat.mod_eq_of_lt hx]

@[simp] lemma ofBe16_be16 (x : UInt16) (t : Bytes) : ofBe16 (be16 x ++ t) = x := by
  rw [ofBe16, be16, beNat_take_toBe x.toNat_lt, UInt16.ofNat_toNat]

@[simp] lemma ofBe32_be32 (x : UInt32) (t : Bytes) : ofBe32 (be32 x ++ t) = x := by
  rw [ofBe32, be32, beNat_take_toBe x.toNat_lt, UInt32.ofNat_toNat]

/-! ## Comparison -/

/-- The C `memcmp` of two memory areas of one size: the difference of the first octets that
differ, and zero when there are none. -/
def memcmp : Bytes → Bytes → ℤ
  | a :: as, b :: bs => if a = b then memcmp as bs else (a.toNat : ℤ) - b.toNat
  | _, _ => 0

/-- On strings of one length `memcmp` is negative exactly when the first is worth less. -/
lemma memcmp_neg_iff {a b : Bytes} (hlen : a.length = b.length) :
    memcmp a b < 0 ↔ beNat a < beNat b := by
  induction a generalizing b with
  | nil =>
    have hb : b = [] := length_eq_zero_iff.mp hlen.symm
    subst hb
    simp [memcmp, beNat]
  | cons x a ih =>
    cases b with
    | nil => simp at hlen
    | cons y b =>
      have hl : a.length = b.length := by simpa using hlen
      have ha := beNat_lt a
      have hb := beNat_lt b
      rw [hl] at ha
      by_cases hxy : x = y
      · subst hxy
        simp [memcmp, beNat, hl, ih hl]
      have hne : x.toNat ≠ y.toNat := fun h => hxy (UInt8.toNat_inj.mp h)
      rw [memcmp, if_neg hxy, beNat, beNat, hl]
      constructor
      · intro h
        have hle : (x.toNat + 1) * 256 ^ b.length ≤ y.toNat * 256 ^ b.length :=
          Nat.mul_le_mul_right _ (by omega)
        linarith
      · intro h
        by_contra hcon
        have hle : (y.toNat + 1) * 256 ^ b.length ≤ x.toNat * 256 ^ b.length :=
          Nat.mul_le_mul_right _ (by omega)
        linarith

/-- The smaller of two strings of one length, then the larger, as `memcmp` orders them. -/
def minMax (a b : Bytes) : Bytes := if memcmp a b < 0 then a ++ b else b ++ a

/-- Two sides that each put their own string first get the same. -/
lemma minMax_comm {a b : Bytes} (hlen : a.length = b.length) : minMax a b = minMax b a := by
  rw [minMax, minMax]
  simp only [memcmp_neg_iff hlen, memcmp_neg_iff hlen.symm]
  obtain hlt | heq | hlt := lt_trichotomy (beNat a) (beNat b)
  · rw [if_pos hlt, if_neg hlt.asymm]
  · have ha := toBe_beNat a 0
    have hb := toBe_beNat b 0
    rw [← heq, ← hlen, ha] at hb
    rw [hb]
  · rw [if_neg hlt.asymm, if_pos hlt]

end Wire
