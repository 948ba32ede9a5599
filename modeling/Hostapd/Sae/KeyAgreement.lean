import Hostapd.Foundation.MaskedExchange
import Hostapd.Sae.Common
import Mathlib.Data.ZMod.Basic
import Mathlib.FieldTheory.Finite.Basic

/-!
# Both ends of an exchange have the same keys

Two ends prepare a commit in one group from one password element, each with random numbers of its
own, and read the commit of the other from the octets that were sent. When both derive keys, the
keys are the same and every confirm of one end passes the check of the other.

`Group.Represents`: an element of `El` stands for one of a commutative group, and an operation that
succeeds gives the element that stands for the result. A curve and a prime field both have it.
-/

namespace Hostapd.Sae

open Wire MaskedExchange List Option Nat

variable {El : Type}

/-! ## Groups that are groups -/

/-- The elements `val a` of `g` stand for the elements of the group `A`. -/
structure Group.Represents (g : Group El) (A : Type) [AddCommGroup A] (val : A → El) : Prop where
  scalarOp : ∀ a n x, g.scalarOp (val a) n = some x → x = val (n • a)
  elemOp : ∀ a b x, g.elemOp (val a) (val b) = some x → x = val (a + b)
  inverse : ∀ a x, g.inverse (val a) = some x → x = val (-a)
  parse : ∀ a x, a ≠ 0 → g.parseElement (g.toBin (val a)) = .stored x true → x = some (val a)

/-- The library calculates with the points of a curve as the group law of the curve says. -/
structure EcGroup.Lawful {Pt : Type} [AddCommGroup Pt] (e : EcGroup Pt) : Prop where
  mul : ∀ p n q, e.mul p n = some q → q = n • p
  add : ∀ p q s, e.add p q = some s → s = p + q
  invert : ∀ p q, e.invert p = some q → q = -p
  exists_coords : ∀ p, p ≠ 0 → ∃ x y, e.coords p = some (x, y)
  coords_lt : ∀ p x y, e.coords p = some (x, y) → x < e.prime ∧ y < e.prime
  fromCoords : ∀ p q x y, e.coords p = some (x, y) → e.fromCoords x y = some q → q = p

variable {i n s mask order : ℕ} {d d' : SaeData El} {draw : ℕ → Option Bytes} {t t' : Tmp El}
  {number : UInt16} {lib : Groups El} {allowed : Option (List ℕ)} {token : Bytes}
  {seen : Option Bytes}

lemma beNat_toBe_of_lt {k : ℕ} (h : n < 256 ^ k) : beNat (toBe k n) = n := by
  rw [beNat_toBe, mod_eq_of_lt h]

/-- The operations of a curve are those of its points. -/
lemma EcGroup.represents {Pt : Type} [AddCommGroup Pt] {e : EcGroup Pt} (he : e.Lawful) :
    e.toGroup.Represents Pt id where
  scalarOp p n q h := he.mul p n q h
  elemOp p q s h := he.add p q s h
  inverse p q h := he.invert p q h
  parse p stored hp h := by
    obtain ⟨x, y, hxy⟩ := he.exists_coords p hp
    obtain ⟨hx, hy⟩ := he.coords_lt p x y hxy
    have hbin : e.toBin p = toBe e.primeLen x ++ toBe e.primeLen y := by rw [EcGroup.toBin, hxy]
    have htake : (e.toBin p).take e.primeLen = toBe e.primeLen x := by
      rw [hbin, take_left' (length_toBe _ _)]
    have hdrop : ((e.toBin p).drop e.primeLen).take e.primeLen = toBe e.primeLen y := by
      rw [hbin, drop_left' (length_toBe _ _), take_of_length_le (length_toBe _ _).le]
    replace h : saeParseCommitElementEcc e (e.toBin p) = .stored stored true := h
    rw [saeParseCommitElementEcc, htake, hdrop] at h
    dsimp only at h
    rw [beNat_toBe_of_lt (hx.trans e.prime_lt), beNat_toBe_of_lt (hy.trans e.prime_lt)] at h
    split_ifs at h
    split at h
    · cases h
    rename_i q hq
    rw [ElementParse.stored.injEq] at h
    rw [← h.1, he.fromCoords p q x y hxy hq]
    rfl

/-- The residue that stands for a unit of a prime field. -/
def residue (p : ℕ) (u : Additive (ZMod p)ˣ) : ℕ := ((u.toMul : (ZMod p)ˣ) : ZMod p).val

lemma eq_residue {p : ℕ} [NeZero p] {u : Additive (ZMod p)ˣ} (hlt : n < p)
    (h : (n : ZMod p) = (u.toMul : (ZMod p)ˣ)) : n = residue p u := by
  rw [residue, ← h, ZMod.val_natCast, mod_eq_of_lt hlt]

lemma cast_residue {p : ℕ} [NeZero p] (u : Additive (ZMod p)ˣ) :
    (residue p u : ZMod p) = (u.toMul : (ZMod p)ˣ) := ZMod.natCast_zmod_val _

/-- The operations of a prime field are those of its units. -/
lemma DhGroup.represents {d : DhGroup} (hp : 1 < d.prime) :
    d.toGroup.Represents (Additive (ZMod d.prime)ˣ) (residue d.prime) := by
  have hpos : 0 < d.prime := lt_of_succ_lt hp
  have : NeZero d.prime := ⟨hpos.ne'⟩
  refine ⟨?_, ?_, ?_, ?_⟩
  · intro u n x h
    obtain rfl : exptmod (residue d.prime u) n d.prime = x := some.inj h
    apply eq_residue (mod_lt _ hpos)
    rw [ZMod.natCast_mod, cast_pow, cast_residue]
    rfl
  · intro u v x h
    obtain rfl : residue d.prime u * residue d.prime v % d.prime = x := some.inj h
    apply eq_residue (mod_lt _ hpos)
    rw [ZMod.natCast_mod, cast_mul, cast_residue, cast_residue]
    rfl
  · intro u x h
    have hmem : x < d.prime := mem_range.mp (mem_of_find?_eq_some h)
    have hone : (residue d.prime u * x % d.prime == 1) :=
      @find?_some _ (fun b => residue d.prime u * b % d.prime == 1) _ _ h
    apply eq_residue hmem
    have hcast : ((residue d.prime u * x % d.prime : ℕ) : ZMod d.prime) = 1 := by
      rw [eq_of_beq hone, cast_one]
    rw [ZMod.natCast_mod, cast_mul, cast_residue] at hcast
    exact (Units.inv_eq_of_mul_eq_one_right hcast).symm
  · intro u x _ h
    have hlt : residue d.prime u < 256 ^ d.primeLen :=
      (ZMod.val_lt _).trans d.prime_lt
    replace h : saeParseCommitElementFfc d (toBe d.primeLen (residue d.prime u)) =
      .stored x true := h
    rw [saeParseCommitElementFfc, take_of_length_le (length_toBe _ _).le, beNat_toBe_of_lt hlt] at h
    split_ifs at h
    · rw [ElementParse.stored.injEq] at h
      exact h.1.symm

/-! ## The own commit -/

lemma getRandLoop_bounds {bn j : ℕ} (h : getRandLoop order draw n i = some (bn, j)) :
    1 < bn ∧ bn < order := by
  induction n generalizing i with
  | zero => cases h
  | succ n ih =>
    rw [getRandLoop] at h
    split at h
    · cases h
    dsimp only at h
    split at h
    · exact ih h
    rename_i hbn
    obtain ⟨rfl, -⟩ := Prod.mk.inj (some.inj h)
    rw [not_or, not_or] at hbn
    exact ⟨lt_of_le_of_ne (pos_of_ne_zero hbn.1) (.symm hbn.2.1), Nat.lt_of_not_le hbn.2.2⟩

lemma saeGetRand_bounds {bn j : ℕ} (h : saeGetRand order draw i = some (bn, j)) :
    1 < bn ∧ bn < order := by
  rw [saeGetRand] at h
  split_ifs at h
  · exact getRandLoop_bounds h

/-- The temporary data have what `sae_derive_commit` leaves in them. -/
structure HasCommit (g : Group El) (t : Tmp El) (rand mask : ℕ) : Prop where
  one_lt : 1 < mask
  mask_lt : mask < g.order
  saeRand : t.saeRand = some rand
  scalar : t.ownCommitScalar = some (scalar g.order rand mask)

/-- What the loop leaves behind. -/
lemma deriveCommitLoop_spec {g : Group El}
    (h : deriveCommitLoop g.order draw n i t = (t', some mask)) :
    (∃ rand, HasCommit g t' rand mask) ∧ t'.group = t.group ∧ t'.pwe = t.pwe := by
  induction n generalizing i t with
  | zero => cases h
  | succ n ih =>
    rw [deriveCommitLoop] at h
    split at h
    · cases h
    rename_i rand j hrand
    split at h
    · cases h
    rename_i m k hmask
    dsimp only at h
    split at h
    · have hrest := ih h
      exact hrest
    · cases h
      obtain ⟨hone, hlt⟩ := saeGetRand_bounds hmask
      exact ⟨⟨rand, hone, hlt, rfl, rfl⟩, rfl, rfl⟩

/-- An end that has prepared a commit: `sae_derive_commit` has succeeded for the password element
`pwe` of the group `g`. -/
def Prepared (g : Group El) (number : UInt16) (pwe : El) (d : SaeData El) : Prop :=
  d.group = number.toNat ∧ ∃ t₀ t draw, d.tmp = some t ∧ t₀.group = some g ∧ t₀.pwe = some pwe ∧
    saeDeriveCommit draw t₀ = .ok (t, true)

variable {A : Type} [AddCommGroup A] {val : A → El} {g : Group El} {p : A}

/-- An end with a commit, in the terms of the group. -/
structure Committed (g : Group El) (p : A) (val : A → El) (d : SaeData El) (t : Tmp El)
    (rand mask : ℕ) : Prop extends HasCommit g t rand mask where
  tmp : d.tmp = some t
  group : t.group = some g
  pwe : t.pwe = some (val p)
  element : t.ownCommitElement = some (val (element p mask))

/-- A prepared commit is one of the group. -/
lemma Prepared.committed (hg : g.Represents A val) (h : Prepared g number (val p) d) :
    ∃ t rand mask, Committed g p val d t rand mask := by
  obtain ⟨-, t₀, t, draw, htmp, hgroup, hpwe, hderive⟩ := h
  rw [saeDeriveCommit, hgroup, hpwe] at hderive
  dsimp only at hderive
  split at hderive
  · cases hderive
  rename_i t₁ mask hloop
  obtain ⟨⟨rand, hcommit⟩, hg₁, hp₁⟩ := deriveCommitLoop_spec hloop
  rw [Except.ok.injEq, saeDeriveCommitElement] at hderive
  split at hderive
  · cases hderive
  rename_i e he
  split at hderive
  · cases hderive
  rename_i e' he'
  cases hderive
  have hmul := hg.scalarOp p mask e he
  rw [hmul] at he'
  refine ⟨_, rand, mask, ?_, htmp, hg₁.trans hgroup, hp₁.trans hpwe, ?_⟩
  · exact ⟨hcommit.one_lt, hcommit.mask_lt, hcommit.saeRand, hcommit.scalar⟩
  · exact congrArg some (hg.inverse _ _ he')

/-! ## The commit of the peer -/

lemma getLe16_toNat (n : UInt16) :
    getLe16 (UInt8.ofNat n.toNat) (UInt8.ofNat (n.toNat / 256)) = n.toNat := by
  have hlt : n.toNat < 65536 := n.toNat_lt
  simp only [getLe16, UInt8.toNat_ofNat']
  omega

lemma saeGroupAllowed_same : (saeGroupAllowed lib allowed d d.group).1 = d := by
  rw [saeGroupAllowed, if_pos rfl]
  dsimp only
  repeat' split
  all_goals rfl

/-- The token in front is found. -/
lemma saeParseCommitToken_append {body : Bytes} (hbody : body.length = t.commitLen) :
    saeParseCommitToken t (token ++ body) = (if token = [] then none else some token, body) := by
  have hlen : (token ++ body).length - t.commitLen = token.length := by
    rw [length_append, hbody, Nat.add_sub_cancel]
  rw [saeParseCommitToken]
  split
  · rename_i hlong
    have hnil : token ≠ [] := fun hnil => by simp [hnil, hbody] at hlong
    rw [hlen, take_left, drop_left, if_neg hnil]
  · rename_i hshort
    have hnil : token = [] := length_eq_zero_iff.mp (by omega)
    rw [hnil]
    rfl

lemma length_values (ht : t.group = some g) (s : ℕ) (e : El) :
    (toBe g.primeLen s ++ g.toBin e).length = t.commitLen := by
  rw [length_append, length_toBe, g.length_toBin, Tmp.commitLen, Tmp.primeLen, ht]
  cases hecc : g.ecc <;> simp [hecc] <;> ring

lemma saeParseCommitScalar_values (ht : t.group = some g) {s' : ℕ} (hs : s < g.order)
    {rest : Bytes} (h : saeParseCommitScalar d t (toBe g.primeLen s ++ rest) = some s') :
    s' = s := by
  have hlen : t.primeLen = g.primeLen := by rw [Tmp.primeLen, ht]; rfl
  rw [saeParseCommitScalar, hlen, take_left' (length_toBe _ _),
    beNat_toBe_of_lt (hs.trans_le g.order_le)] at h
  dsimp only at h
  split_ifs at h
  exact (some.inj h).symm

variable [DecidableEq El] {rand : ℕ} {v : ConfirmValues El} {h : Hashes}

/-- A commit is read as it was written. -/
lemma parseCommitValues_written (hg : g.Represents A val) (ht : t.group = some g)
    (hs : s < g.order) {a : A} (ha : a ≠ 0)
    (h : parseCommitValues d t (token ++ (toBe g.primeLen s ++ g.toBin (val a))) =
      (d', .success, seen)) :
    d' = { d with peerCommitScalar := some s,
                  tmp := some { t with peerCommitElement := some (val a) } } := by
  have hlen : t.primeLen = g.primeLen := by rw [Tmp.primeLen, ht]; rfl
  rw [parseCommitValues, saeParseCommitToken_append (length_values ht s _)] at h
  dsimp only at h
  split at h
  · cases h
  rename_i s' hs'
  rw [saeParseCommitScalar_values ht hs hs', hlen, drop_left' (length_toBe _ _)] at h
  have helement : ∀ t', saeParseCommitElement t (g.toBin (val a)) = (t', true) →
      t' = { t with peerCommitElement := some (val a) } := by
    intro t' ht'
    rw [saeParseCommitElement, ht] at ht'
    dsimp only at ht'
    split at ht'
    · cases ht'
    · rename_i e ok hparse
      cases ht'
      rw [hg.parse a e ha hparse, ht]
  generalize saeParseCommitElement t (g.toBin (val a)) = read at h helement
  obtain ⟨t', ok⟩ := read
  cases ok with
  | false => cases h
  | true =>
    rw [if_neg (by simp)] at h
    split at h <;> cases h
    rw [helement t' rfl]

/-- A whole commit is read as it was written. -/
lemma saeParseCommit_written (hg : g.Represents A val) (hnumber : d.group = number.toNat)
    (htmp : d.tmp = some t) (ht : t.group = some g) (hs : s < g.order) {a : A} (ha : a ≠ 0)
    (h : saeParseCommit lib allowed d
        (le16 number.toNat ++ (token ++ (toBe g.primeLen s ++ g.toBin (val a)))) =
      (d', .success, seen)) :
    d' = { d with peerCommitScalar := some s,
                  tmp := some { t with peerCommitElement := some (val a) } } := by
  rw [le16, cons_append, cons_append, nil_append, saeParseCommit, getLe16_toNat, ← hnumber] at h
  have hsame := @saeGroupAllowed_same _ d lib allowed
  generalize saeGroupAllowed lib allowed d d.group = checked at h hsame
  obtain ⟨d₁, status⟩ := checked
  obtain rfl : d₁ = d := hsame
  cases status <;> dsimp only at h
  case success =>
    rw [htmp] at h
    exact parseCommitValues_written hg ht hs ha h
  all_goals cases h

/-! ## Keys and confirms -/

omit [DecidableEq El] in
lemma saeDeriveK_eq (hg : g.Represents A val) {e : A} {k : Bytes}
    (h : saeDeriveK g (val p) s (val e) rand = some k) :
    g.kToBin (val (secret p rand s e)) = some k := by
  simp only [saeDeriveK, bind_eq_bind, bind_eq_some_iff] at h
  obtain ⟨K₁, h₁, K₂, h₂, K₃, h₃, hk⟩ := h
  rw [hg.scalarOp _ _ _ h₁] at h₂
  rw [hg.elemOp _ _ _ h₂] at h₃
  rw [hg.scalarOp _ _ _ h₃] at hk
  split_ifs at hk
  · exact hk

/-- `k` as an end has calculated it. -/
def sharedK (d : SaeData El) : Option Bytes := (d.tmp.bind (deriveK d)).join

/-- The values of the other end. -/
def ConfirmValues.swap (v : ConfirmValues El) : ConfirmValues El :=
  ⟨v.group, v.peerScalar, v.peerElement, v.ownScalar, v.ownElement⟩

/-- The end has a key for its confirms and all the values that go into them. -/
def CanConfirm (d : SaeData El) (v : ConfirmValues El) (kck : Octets 32) : Prop :=
  ∃ t, d.tmp = some t ∧ t.kck = some kck ∧ confirmValues d t = some v

omit [DecidableEq El] in
/-- A confirm of one end passes the check of an end that has the values the other way round. -/
lemma saeCheckConfirm_written (h : Hashes) {a b : SaeData El} {kck : Octets 32}
    (ha : CanConfirm a v kck) (hb : CanConfirm b v.swap kck) (n : UInt16) :
    ∃ a' octets, saeWriteConfirm h { a with sendConfirm := n } = .ok (a', octets) ∧
      saeCheckConfirm h b octets = .ok true := by
  obtain ⟨ta, hta, hka, hva⟩ := ha
  obtain ⟨tb, htb, hkb, hvb⟩ := hb
  have hvalues : confirmValues { a with sendConfirm := n, tmp := some ta } ta = some v := hva
  have hsc : (le16 n.toNat).length = 2 := rfl
  refine ⟨{ a with sendConfirm := n + 1 }, le16 n.toNat ++ (saeCnConfirm h v.group ta.kck
    (le16 n.toNat) v.ownScalar v.ownElement v.peerScalar v.peerElement).val, ?_, ?_⟩
  · rw [saeWriteConfirm]
    simp only [hta, hvalues]
  rw [saeCheckConfirm, if_neg (by simp [hsc]), htb]
  dsimp only
  rw [hvb, take_left' hsc, drop_left' hsc, take_of_length_le (by simp), hka, hkb]
  simp [ConfirmValues.swap]

/-- Two ends that have derived keys agree on all of them. -/
structure Agreed (h : Hashes) (a b : SaeData El) : Prop where
  /-- Both have calculated `k`, and the same. -/
  k : ∃ k, sharedK a = some k ∧ sharedK b = some k
  kck : ∃ ta tb kck, a.tmp = some ta ∧ b.tmp = some tb ∧ ta.kck = some kck ∧ tb.kck = some kck
  pmk : a.pmk = b.pmk
  pmkid : a.pmkid = b.pmkid
  /-- Every confirm of the first end is written and passes the check of the second. -/
  confirm : ∀ n : UInt16, ∃ a' octets,
    saeWriteConfirm h { a with sendConfirm := n } = .ok (a', octets) ∧
      saeCheckConfirm h b octets = .ok true

/-- An end that has accepted the commit of its peer, in the terms of the group. -/
structure Exchanged (g : Group El) (p : A) (val : A → El) (d : SaeData El)
    (rand mask rand' mask' : ℕ) : Prop where
  tmp : ∃ t, d.tmp = some t ∧ t.group = some g ∧ t.pwe = some (val p) ∧ t.saeRand = some rand ∧
    t.ownCommitScalar = some (scalar g.order rand mask) ∧
    t.ownCommitElement = some (val (element p mask)) ∧
    t.peerCommitElement = some (val (element p mask'))
  peerScalar : d.peerCommitScalar = some (scalar g.order rand' mask')

/-- The keys and what confirms are made of. -/
def Derived (h : Hashes) (g : Group El) (d : SaeData El) (sum : ℕ) (k : Bytes)
    (v : ConfirmValues El) : Prop :=
  ∃ keys, h.sha256Prf (h.hmacSha256 (replicate 32 0) k).val "SAE KCK and PMK"
      (toBe g.primeLen (sum % g.order)) = some keys ∧
    sharedK d = some k ∧ CanConfirm d v (.ofList 32 keys.val) ∧
    d.pmk = .ofList 32 (keys.val.drop 32) ∧
    d.pmkid = .ofList 16 (toBe g.primeLen (sum % g.order))

omit [DecidableEq El] in
/-- The keys follow from the element that the exchange agrees on and from the sum of the scalars. -/
lemma Exchanged.derived (hg : g.Represents A val) {rand' mask' : ℕ}
    (hd : Exchanged g p val d rand mask rand' mask')
    (hprocess : saeProcessCommit h d = .ok (some d')) :
    ∃ k, g.kToBin (val (secret p rand (scalar g.order rand' mask') (element p mask'))) = some k ∧
      Derived h g d' (scalar g.order rand mask + scalar g.order rand' mask') k
        ⟨g, scalar g.order rand mask, val (element p mask),
          scalar g.order rand' mask', val (element p mask')⟩ := by
  obtain ⟨⟨t, htmp, hgroup, hpwe, hrand, hscalar, helement, hpeer⟩, hps⟩ := hd
  have hderive : deriveK d t = some (saeDeriveK g (val p)
      (scalar g.order rand' mask') (val (element p mask')) rand) := by
    simp [deriveK, hgroup, hpwe, hps, hpeer, hrand]
  rw [saeProcessCommit, htmp] at hprocess
  dsimp only at hprocess
  rw [hderive] at hprocess
  split at hprocess
  · cases hprocess
  · cases hprocess
  rename_i k hk
  rw [some.injEq] at hk
  refine ⟨k, saeDeriveK_eq hg hk, ?_⟩
  rw [deriveKeys, hgroup, hscalar, hps] at hprocess
  replace hprocess := Except.ok.inj hprocess
  simp only [saeDeriveKeys, Option.bind_eq_bind, Option.bind_eq_some_iff, Option.pure_def,
    some.injEq] at hprocess
  obtain ⟨keys, hkeys, rfl⟩ := hprocess
  refine ⟨keys, hkeys, ?_, ⟨_, rfl, rfl, ?_⟩, rfl, rfl⟩
  · simp [sharedK, deriveK, hgroup, hpwe, hps, hpeer, hrand, hk]
  · simp [confirmValues, hgroup, hps, hpeer, hscalar, helement]

omit [DecidableEq El] in
lemma Derived.agreed {a b : SaeData El} {sum : ℕ} {k : Bytes} (ha : Derived h g a sum k v)
    (hb : Derived h g b sum k v.swap) : Agreed h a b := by
  obtain ⟨keys, hkeys, hka, hca, hpa, hia⟩ := ha
  obtain ⟨keys', hkeys', hkb, hcb, hpb, hib⟩ := hb
  obtain rfl : keys = keys' := some.inj (hkeys.symm.trans hkeys')
  refine ⟨⟨k, hka, hkb⟩, ?_, hpa.trans hpb.symm, hia.trans hib.symm,
    saeCheckConfirm_written h hca hcb⟩
  obtain ⟨ta, hta, hkta, -⟩ := hca
  obtain ⟨tb, htb, hktb, -⟩ := hcb
  exact ⟨ta, tb, _, hta, htb, hkta, hktb⟩

/-- Both ends calculate the same `K`. -/
lemma exchanged_of_committed (hg : g.Represents A val) (hp : addOrderOf p = g.order)
    {b : SaeData El} {rand' mask' : ℕ} {token : Option Bytes} {octets : Bytes}
    (hd : Committed g p val d t rand mask) (hnumber : d.group = number.toNat)
    (hb : Committed g p val b t' rand' mask') (hnumber' : b.group = number.toNat)
    (hwrite : saeWriteCommit b token = .ok octets)
    (hparse : saeParseCommit lib allowed d octets = (d', .success, seen)) :
    Exchanged g p val d' rand mask rand' mask' := by
  have hs : scalar g.order rand' mask' < g.order := mod_lt _ (zero_lt_of_lt hb.mask_lt)
  have hne : element p mask' ≠ 0 :=
    element_ne_zero hp (lt_trans zero_lt_one hb.one_lt) hb.mask_lt
  rw [saeWriteCommit, hb.tmp] at hwrite
  dsimp only at hwrite
  rw [hb.group, hb.scalar, hb.element, hnumber'] at hwrite
  rw [← Except.ok.inj hwrite] at hparse
  rw [saeParseCommit_written hg hnumber hd.tmp hd.group hs hne hparse]
  exact ⟨⟨_, rfl, hd.group, hd.pwe, hd.saeRand, hd.scalar, hd.element, rfl⟩, rfl⟩

/-- Two ends with one password element agree whenever both derive keys from what the other has
sent. -/
def KeyAgreement (g : Group El) (pwe : El) : Prop :=
  ∀ (h : Hashes) (lib lib' : Groups El) (allowed allowed' : Option (List ℕ)) (number : UInt16)
    (a b a₁ b₁ a₂ b₂ : SaeData El) (tokenA tokenB seenA seenB : Option Bytes)
    (octetsA octetsB : Bytes),
    Prepared g number pwe a → Prepared g number pwe b →
    saeWriteCommit a tokenA = .ok octetsA → saeWriteCommit b tokenB = .ok octetsB →
    saeParseCommit lib allowed a octetsB = (a₁, .success, seenB) →
    saeParseCommit lib' allowed' b octetsA = (b₁, .success, seenA) →
    saeProcessCommit h a₁ = .ok (some a₂) → saeProcessCommit h b₁ = .ok (some b₂) →
    Agreed h a₂ b₂ ∧ Agreed h b₂ a₂

/-- The agreement holds in every group whose operations are those of a group. -/
lemma keyAgreement_of_represents (hg : g.Represents A val) (hp : addOrderOf p = g.order) :
    KeyAgreement g (val p) := by
  intro h lib lib' allowed allowed' number a b a₁ b₁ a₂ b₂ tokenA tokenB seenA seenB octetsA octetsB
    ha hb hwriteA hwriteB hparseA hparseB hprocessA hprocessB
  obtain ⟨ta, ra, ma, hca⟩ := ha.committed hg
  obtain ⟨tb, rb, mb, hcb⟩ := hb.committed hg
  have hexA := exchanged_of_committed hg hp hca ha.1 hcb hb.1 hwriteB hparseA
  have hexB := exchanged_of_committed hg hp hcb hb.1 hca ha.1 hwriteA hparseB
  obtain ⟨k, hk, hderivedA⟩ := hexA.derived hg hprocessA
  obtain ⟨k', hk', hderivedB⟩ := hexB.derived hg hprocessB
  have horder : g.order • p = 0 := hp ▸ addOrderOf_nsmul_eq_zero p
  rw [secret_comm horder ra ma rb mb, hk'] at hk
  obtain rfl : k' = k := some.inj hk
  rw [add_comm] at hderivedB
  exact ⟨hderivedA.agreed hderivedB, hderivedB.agreed hderivedA⟩

/-- The agreement on a curve and in a finite field. -/
theorem keys_and_confirms_agree :
    (∀ (Pt : Type) [DecidableEq Pt] [AddCommGroup Pt] (e : EcGroup Pt) (pwe : Pt),
      e.Lawful → addOrderOf pwe = e.order → KeyAgreement e.toGroup pwe) ∧
    (∀ (d : DhGroup) (pwe : ℕ), 1 < d.prime → pwe < d.prime → 0 < d.order →
      orderOf (pwe : ZMod d.prime) = d.order → KeyAgreement d.toGroup pwe) := by
  refine ⟨?_, ?_⟩
  · intro Pt _ _ e pwe he hpwe
    exact keyAgreement_of_represents (EcGroup.represents he) hpwe
  intro d pwe hprime hlt hpos horder
  -- An element of positive order is a unit, and it has the same order among the units.
  have hone : (pwe : ZMod d.prime) ^ d.order = 1 := horder ▸ pow_orderOf_eq_one _
  obtain ⟨u, hu⟩ : IsUnit (pwe : ZMod d.prime) := .of_pow_eq_one hone hpos.ne'
  have : NeZero d.prime := ⟨(zero_lt_of_lt hprime).ne'⟩
  have hval : pwe = residue d.prime (.ofMul u) := eq_residue hlt hu.symm
  have hadd : addOrderOf (Additive.ofMul u) = d.toGroup.order := by
    rw [addOrderOf_ofMul_eq_orderOf, ← orderOf_units, hu, horder]
    rfl
  rw [hval]
  exact keyAgreement_of_represents (DhGroup.represents hprime) hadd

/-- A small field: the squares modulo 23. -/
def sampleField : DhGroup where
  prime := 23
  order := 11
  primeLen := 16
  prime_lt := by norm_num
  order_le := by norm_num
  pmkid_le := le_refl 16

/-- An end that has its own commit. -/
def sampleEnd (rand scalar element : ℕ) : SaeData ℕ :=
  { group := 22
    tmp := some { group := some sampleField.toGroup, pwe := some 2, saeRand := some rand,
                  ownCommitScalar := some scalar, ownCommitElement := some element } }

/-- Hash functions that give the key back. -/
def sampleHashes : Hashes where
  hmacSha256 key data := .ofList 32 (key.zipWith (· + ·) data)
  sha256Prf key _ data := some (.ofList 64 (key ++ data))

def sampleDraw (rand mask : UInt8) (i : ℕ) : Option Bytes :=
  some [(if i = 0 then rand else mask) * 16]

/-- The residues modulo 11 as a curve on which every point but zero is its own x coordinate. -/
def sampleCurve : EcGroup (ZMod 11) where
  prime := 23
  order := 11
  primeLen := 16
  init := 0
  mul p n := some (n • p)
  add p q := some (p + q)
  invert p := some (-p)
  isAtInfinity p := p == 0
  coords p := if p = 0 then none else some (p.val, 0)
  fromCoords x _ := some (x : ZMod 11)
  isOnCurve _ := true
  prime_lt := by norm_num
  order_le := by norm_num
  pmkid_le := le_refl 16

lemma sampleCurve_lawful : sampleCurve.Lawful where
  mul _ _ _ h := (some.inj h).symm
  add _ _ _ h := (some.inj h).symm
  invert _ _ h := (some.inj h).symm
  exists_coords p hp := ⟨p.val, 0, if_neg hp⟩
  coords_lt p x y h := by
    simp only [sampleCurve, ite_none_left_eq_some, some.injEq, Prod.mk.injEq] at h ⊢
    have hlt : p.val < 11 := ZMod.val_lt p
    omega
  fromCoords p q x y hxy h := by
    simp only [sampleCurve, ite_none_left_eq_some, some.injEq, Prod.mk.injEq] at hxy h
    rw [← h, ← hxy.2.1, ZMod.natCast_zmod_val]

/-- An exchange on the curve, and one in the field from its octets on. -/
theorem keys_and_confirms_agree_of_samples : KeyAgreement sampleCurve.toGroup 1 ∧
    ∃ a₂ b₂ : SaeData ℕ, Agreed sampleHashes a₂ b₂ ∧ Agreed sampleHashes b₂ a₂ := by
  have hcurve : addOrderOf (1 : ZMod 11) = 11 := ZMod.addOrderOf_one 11
  have hfield : orderOf ((2 : ℕ) : ZMod 23) = 11 := by
    have : Fact (Nat.Prime 11) := ⟨by norm_num⟩
    exact orderOf_eq_prime (by decide) (by decide)
  have hagree := keys_and_confirms_agree.2 sampleField 2 (by decide) (by decide) (by decide) hfield
  have hA : Prepared sampleField.toGroup 22 2 (sampleEnd 3 7 13) :=
    ⟨rfl, { group := some sampleField.toGroup, pwe := some 2 }, _, sampleDraw 3 4, rfl, rfl,
      rfl, rfl⟩
  have hB : Prepared sampleField.toGroup 22 2 (sampleEnd 5 8 3) :=
    ⟨rfl, { group := some sampleField.toGroup, pwe := some 2 }, _, sampleDraw 5 3, rfl, rfl,
      rfl, rfl⟩
  refine ⟨keys_and_confirms_agree.1 (ZMod 11) sampleCurve 1 sampleCurve_lawful hcurve, ?_⟩
  exact ⟨_, _, hagree sampleHashes (fun _ => none) (fun _ => none) (some [22]) (some [22]) 22
    _ _ _ _ _ _ none (some [1, 2, 3]) none (some [1, 2, 3]) _ _ hA hB rfl rfl rfl rfl rfl rfl⟩

end Hostapd.Sae
