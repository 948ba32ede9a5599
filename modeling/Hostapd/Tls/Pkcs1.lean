import Hostapd.Tls.Canonical

/-!
# Encryption blocks of PKCS #1 v1.5

`pkcs1_encrypt` and its two inverses.  Both inverses skip a padding whose end is found in the block
itself; `pkcs1_decrypt_public_key` looks at the end of the block before it reads an octet,
`pkcs1_v15_private_key_decrypt` afterwards, so that a block without a delimiter is read one octet
too far.  `pkcs1_inverted` says when that happens, and that padding is undone exactly.
-/

namespace Hostapd.Tls

open Wire List

/-- A key with its private part: the operation with it is the inverse of that with the public
one. -/
structure RsaPrivateKey extends RsaKey where
  exptD : ℕ → ℕ
  exptD_lt : ∀ x < n, exptD x < n
  exptD_pow : ∀ x < n, exptD (x ^ e % n) = x
  pow_exptD : ∀ x < n, exptD x ^ e % n = x

variable (random : (n : ℕ) → Option (Octets n)) (blockType : UInt8) (modlen : ℕ)
  (key : RsaPrivateKey) (usePrivate : Bool) (input : Bytes) (outlen : ℕ)

/-- The length of the modulus (`crypto_rsa_get_modulus_len`). -/
def RsaKey.modulusLen (key : RsaKey) : ℕ := Der.octetCount key.n

/-- `crypto_rsa_exptmod` with either part of the key. -/
def RsaPrivateKey.exptmod : Option Bytes :=
  if usePrivate then
    if key.n < beNat input ∨ outlen < key.modulusLen then none
    else some (toBe key.modulusLen (key.exptD (beNat input % key.n)))
  else cryptoRsaExptmod key.toRsaKey input outlen

/-- `pkcs1_generate_encryption_block`. -/
def pkcs1GenerateEncryptionBlock : Option Bytes :=
  if modlen < 12 ∨ outlen < modlen ∨ modlen - 11 < input.length then none
  else do
    let psLen := modlen - input.length - 3
    let ps ←
      if blockType = 0 then some (replicate psLen 0x00)
      else if blockType = 1 then some (replicate psLen 0xff)
      else if blockType = 2 then
        (random psLen).map fun octets => octets.val.map fun b => if b = 0x00 then 0x01 else b
      else none
    return 0x00 :: blockType :: (ps ++ 0x00 :: input)

/-- `pkcs1_encrypt`. -/
def pkcs1Encrypt : Option Bytes := do
  let out ← pkcs1GenerateEncryptionBlock random blockType key.modulusLen input outlen
  key.exptmod usePrivate out outlen

/-- Skip non-zero octets: an octet is read before the end of the block is looked at, and there may
be `room` behind it. -/
def skipPs (room : ℕ) : Bytes → Checked Bytes
  | [] => if room = 0 then .error .overread else .ok []
  | b :: rest => if b = 0x00 then .ok (b :: rest) else skipPs room rest

/-- Remove the padding of an encryption block, in a buffer with `room` behind it. -/
def pkcs1V15Unpad (room : ℕ) (out : Bytes) : Checked (Option Bytes) :=
  match out with
  | 0x00 :: 0x02 :: body => do
    let pos ← skipPs room body
    return if pos = [] ∨ body.length - pos.length < 8 then none else some pos.tail
  | _ => .ok none

/-- `pkcs1_v15_private_key_decrypt` into a buffer of `size` octets, of which `outlen` may be
used. -/
def pkcs1V15PrivateKeyDecrypt (size : ℕ) : Checked (Option Bytes) :=
  match key.exptmod true input outlen with
  | none => .ok none
  | some out => pkcs1V15Unpad (size - out.length) out

/-! ## Skipping -/

variable {input} {body ps data : Bytes} {room : ℕ}

lemma skipPs_append (hps : 0x00 ∉ ps) : skipPs room (ps ++ 0x00 :: data) = .ok (0x00 :: data) := by
  induction ps with
  | nil => rfl
  | cons b ps ih =>
    obtain ⟨hb, hps⟩ := not_or.mp (mem_cons.not.mp hps)
    rw [cons_append, skipPs, if_neg (Ne.symm hb), ih hps]

/-- The octet at the end of the block is read exactly if there is no delimiter. -/
lemma safe_skipPs : (skipPs room body).Safe ↔ room ≠ 0 ∨ 0x00 ∈ body := by
  induction body with
  | nil =>
    rw [skipPs]
    split_ifs <;> simp_all
  | cons b body ih =>
    rw [skipPs]
    split_ifs with hb
    · simp [hb]
    · rw [ih, mem_cons, or_iff_right (Ne.symm hb)]

/-- What is left behind the padding starts with the delimiter. -/
lemma skipPs_eq_cons {b : UInt8} {rest : Bytes} :
    skipPs room body = .ok (b :: rest) ↔
      b = 0x00 ∧ ∃ ps, 0x00 ∉ ps ∧ body = ps ++ 0x00 :: rest := by
  induction body with
  | nil =>
    rw [skipPs]
    split_ifs <;> simp
  | cons c body ih =>
    rw [skipPs]
    split_ifs with hc
    · subst hc
      constructor
      · intro h
        cases h
        exact ⟨rfl, [], not_mem_nil, rfl⟩
      · rintro ⟨rfl, ps, hps, hbody⟩
        cases ps with
        | nil => rw [hbody, nil_append]
        | cons p ps => exact absurd (List.cons.inj hbody).1 (fun h => hps (h ▸ mem_cons_self))
    · rw [ih]
      refine and_congr_right fun _ => ⟨?_, ?_⟩
      · rintro ⟨ps, hps, rfl⟩
        exact ⟨c :: ps, by simp [Ne.symm hc, hps], rfl⟩
      · rintro ⟨ps, hps, hbody⟩
        cases ps with
        | nil => exact absurd (List.cons.inj hbody).1 hc
        | cons p ps => exact ⟨ps, fun h => hps (mem_cons_of_mem p h), (List.cons.inj hbody).2⟩

/-- The padding can be removed exactly from the blocks that have one. -/
lemma pkcs1V15Unpad_eq_some {block out : Bytes} :
    pkcs1V15Unpad room block = .ok (some out) ↔ ∃ ps, 8 ≤ ps.length ∧ 0x00 ∉ ps ∧
      block = 0x00 :: 0x02 :: (ps ++ 0x00 :: out) := by
  unfold pkcs1V15Unpad
  split
  · next body =>
    simp only [Checked.bind_eq_ok, List.cons.injEq, true_and]
    constructor
    · rintro ⟨pos, hpos, h⟩
      cases pos with
      | nil => cases h
      | cons b rest =>
        obtain ⟨-, ps, hps, rfl⟩ := skipPs_eq_cons.mp hpos
        simp only [reduceCtorEq, false_or, Checked.pure_eq_ok, Except.ok.injEq] at h
        split_ifs at h with hlen
        cases h
        refine ⟨ps, ?_, hps, rfl⟩
        simp at hlen
        omega
    · rintro ⟨ps, hlen, hps, rfl⟩
      refine ⟨_, skipPs_append hps, ?_⟩
      simp
      omega
  · next hne =>
    refine iff_of_false nofun ?_
    rintro ⟨ps, -, -, rfl⟩
    exact hne _ rfl

lemma safe_pkcs1V15Unpad {block : Bytes} : (pkcs1V15Unpad room block).Safe ↔
    ∀ body, block = 0x00 :: 0x02 :: body → room ≠ 0 ∨ 0x00 ∈ body := by
  unfold pkcs1V15Unpad
  split
  · rename_i body
    rw [Checked.safe_bind, safe_skipPs]
    simp [pure, Except.pure]
  · rename_i hne
    exact iff_of_true (Checked.safe_ok _) fun body heq => absurd heq (hne body)

/-! ## Inverses -/

/-- The operations of the two keys undo each other. -/
lemma exptmod_exptmod {block : Bytes} {outlen' : ℕ} (hlen : block.length = key.modulusLen)
    (hlt : beNat block < key.n) (hout : key.modulusLen ≤ outlen)
    (hout' : key.modulusLen ≤ outlen') :
    ∃ crypt, key.exptmod usePrivate block outlen = some crypt ∧
      key.exptmod (!usePrivate) crypt outlen' = some block := by
  have hpos : key.n ≠ 0 := Nat.ne_zero_of_lt hlt
  have hn : key.n < 256 ^ key.modulusLen := Der.lt_pow_octetCount key.n
  have hback : toBe key.modulusLen (beNat block) = block := by simpa [hlen] using toBe_beNat block 0
  have hread : ∀ x < key.n, beNat (toBe key.modulusLen x) = x := fun x hx => by
    rw [beNat_toBe, Nat.mod_eq_of_lt (hx.trans hn)]
  cases usePrivate with
  | true =>
    have hx := key.exptD_lt _ hlt
    refine ⟨toBe key.modulusLen (key.exptD (beNat block)), ?_, ?_⟩
    · rw [RsaPrivateKey.exptmod, if_pos rfl, if_neg (by omega), Nat.mod_eq_of_lt hlt]
    · rw [RsaPrivateKey.exptmod, if_neg (by decide), cryptoRsaExptmod, hread _ hx,
        if_neg (by omega), if_neg hpos]
      refine (if_neg (not_lt.mpr hout')).trans ?_
      rw [key.pow_exptD _ hlt]
      exact congrArg some hback
  | false =>
    have hx : beNat block ^ key.e % key.n < key.n := Nat.mod_lt _ (Nat.pos_of_ne_zero hpos)
    refine ⟨toBe key.modulusLen (beNat block ^ key.e % key.n), ?_, ?_⟩
    · rw [RsaPrivateKey.exptmod, if_neg (by decide), cryptoRsaExptmod, if_neg (by omega),
        if_neg hpos]
      exact if_neg (not_lt.mpr hout)
    · rw [RsaPrivateKey.exptmod, Bool.not_false, if_pos rfl, hread _ hx, if_neg (by omega),
        Nat.mod_eq_of_lt hx, key.exptD_pow _ hlt, hback]

/-- An encrypted block is decrypted to the block. -/
lemma encrypt_block (hmod : 12 ≤ key.modulusLen) (hin : input.length ≤ key.modulusLen - 11)
    (hout : key.modulusLen ≤ outlen) {outlen' : ℕ} (hout' : key.modulusLen ≤ outlen')
    (hlen : ps.length = key.modulusLen - input.length - 3)
    (hblock : pkcs1GenerateEncryptionBlock random blockType key.modulusLen input outlen =
      some (0x00 :: blockType :: (ps ++ 0x00 :: input))) :
    ∃ crypt, pkcs1Encrypt random blockType key usePrivate input outlen = some crypt ∧
      key.exptmod (!usePrivate) crypt outlen' =
        some (0x00 :: blockType :: (ps ++ 0x00 :: input)) := by
  have hlength : (blockType :: (ps ++ 0x00 :: input)).length = key.modulusLen - 1 := by
    simp
    omega
  have hlt : beNat (0x00 :: blockType :: (ps ++ 0x00 :: input)) < key.n := by
    have hrest := beNat_lt (blockType :: (ps ++ 0x00 :: input))
    rw [hlength] at hrest
    have hn : 256 ^ (key.modulusLen - 1) ≤ key.n := by
      by_contra hlt
      have hcount := Der.octetCount_le (not_le.mp hlt)
      rw [RsaKey.modulusLen] at hmod hcount
      omega
    simpa [beNat] using hrest.trans_le hn
  rw [pkcs1Encrypt, hblock]
  exact exptmod_exptmod key usePrivate outlen (by rw [length_cons]; omega) hlt hout hout'

/-- Padding is undone exactly, for every key and every message that leaves room for it.  Removing
the padding of an encryption block reads the octet at its end exactly if the block has no delimiter;
removing that of a signature block reads no octet outside of it. -/
theorem pkcs1_inverted (outlen' : ℕ) (block : Bytes) :
    (12 ≤ key.modulusLen → input.length ≤ key.modulusLen - 11 → key.modulusLen ≤ outlen →
      key.modulusLen ≤ outlen' →
      ((random (key.modulusLen - input.length - 3)).isSome →
        ∃ crypt, pkcs1Encrypt random 2 key false input outlen = some crypt ∧
          ∀ size, pkcs1V15PrivateKeyDecrypt key crypt outlen' size = .ok (some input)) ∧
      (16 < input.length → ∃ crypt, pkcs1Encrypt random 1 key true input outlen = some crypt ∧
        pkcs1DecryptPublicKey key.toRsaKey crypt outlen' = .ok (some input))) ∧
    ((pkcs1V15Unpad 0 block).Safe ↔ ∀ body, block = 0x00 :: 0x02 :: body → 0x00 ∈ body) ∧
    (pkcs1Unpad block).Safe := by
  refine ⟨?_, by simp [safe_pkcs1V15Unpad], safe_pkcs1Unpad block⟩
  intro hmod hin hout hout'
  constructor
  · intro hrandom
    obtain ⟨octets, hoctets⟩ := Option.isSome_iff_exists.mp hrandom
    set ps := octets.val.map fun b => if b = 0x00 then 0x01 else b with hps
    have hlen : ps.length = key.modulusLen - input.length - 3 := by
      rw [length_map, octets.length_eq]
    have hnonzero : 0x00 ∉ ps := by
      simp only [hps, mem_map, not_exists, not_and]
      intro b _
      split_ifs with hb
      · decide
      · exact hb
    obtain ⟨crypt, hcrypt, hplain⟩ := encrypt_block random 2 key false outlen hmod hin hout hout'
      hlen (by rw [pkcs1GenerateEncryptionBlock, if_neg (by omega)]; simp [hoctets, hps])
    refine ⟨crypt, hcrypt, fun size => ?_⟩
    rw [pkcs1V15PrivateKeyDecrypt, show key.exptmod true crypt outlen' = _ from hplain]
    simp only [pkcs1V15Unpad, skipPs_append hnonzero]
    simp [pure, Except.pure, bind, Except.bind]
    omega
  · intro hlong
    obtain ⟨crypt, hcrypt, hplain⟩ := encrypt_block random 1 key true outlen hmod hin hout hout'
      (length_replicate (a := (0xff : UInt8)))
      (by rw [pkcs1GenerateEncryptionBlock, if_neg (by omega)]; rfl)
    refine ⟨crypt, hcrypt, ?_⟩
    have hexpt : cryptoRsaExptmod key.toRsaKey crypt outlen' = _ := hplain
    rw [pkcs1DecryptPublicKey, hexpt]
    exact pkcs1Unpad_eq_some.mpr ⟨_, by omega, hlong.le, rfl⟩

/-- A key whose operations change nothing. -/
def identityKey (n : ℕ) : RsaPrivateKey where
  n := n
  e := 1
  exptD := id
  exptD_lt _ h := h
  exptD_pow x h := by rw [pow_one]; exact Nat.mod_eq_of_lt h
  pow_exptD x h := by rw [pow_one]; exact Nat.mod_eq_of_lt h

/-- A block without a delimiter is read one octet too far. -/
theorem pkcs1_read_past_block : pkcs1V15PrivateKeyDecrypt (identityKey (256 ^ 12 - 1))
    (0x00 :: 0x02 :: replicate 10 0x01) 12 12 = .error .overread := by
  decide +kernel

end Hostapd.Tls
