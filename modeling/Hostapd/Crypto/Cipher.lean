import Hostapd.Foundation.Cbc
import Hostapd.Foundation.Octets

/-!
# Ciphers with a state

The cipher contexts of `crypto/crypto_internal-cipher.c` and `crypto/rc4.c`. RC4 counts the octets
it used; the block ciphers chain their blocks. The block functions are parameters.

`struct des3_key_s` is longer than the key schedules of DES, so `u.des3.cbc` and `u.des.cbc` are
different octets of the union.
-/

namespace Hostapd.Crypto

open Wire List Nat

/-- The algorithms of a cipher context (`enum crypto_cipher_alg`). -/
inductive CipherAlg
  | null
  | aes
  | des3
  | des
  | rc2
  | rc4
deriving DecidableEq

/-! ## RC4 -/

/-- The state of RC4: the permutation and the two indices. -/
structure Rc4 where
  s : Bytes
  i : ℕ := 0
  j : ℕ := 0

namespace Rc4

/-- Exchange two octets of the permutation (`S_SWAP`). -/
def swap (s : Bytes) (a b : ℕ) : Bytes :=
  (s.set a (s.getD b 0)).set b (s.getD a 0)

/-- The key setup, with `n` octets of the permutation left to exchange. -/
def setup (key : Bytes) : ℕ → Rc4 → Rc4
  | 0, st => { st with i := 0, j := 0 }
  | n + 1, st =>
    let j := (st.j + (st.s.getD st.i 0).toNat + (key.getD (st.i % key.length) 0).toNat) % 256
    setup key n { s := swap st.s st.i j, i := st.i + 1, j := j }

def ofKey (key : Bytes) : Rc4 :=
  setup key 256 { s := (range 256).map UInt8.ofNat }

/-- The state for the next octet. -/
def next (st : Rc4) : Rc4 :=
  let i := (st.i + 1) % 256
  let j := (st.j + (st.s.getD i 0).toNat) % 256
  { s := swap st.s i j, i := i, j := j }

def octet (st : Rc4) : UInt8 :=
  st.s.getD (((st.s.getD st.i 0).toNat + (st.s.getD st.j 0).toNat) % 256) 0

/-- Octets are xored with the key stream. -/
def apply : Rc4 → Bytes → Bytes
  | _, [] => []
  | st, b :: bs => (b ^^^ st.next.octet) :: apply st.next bs

@[simp] lemma length_apply (st : Rc4) (bs : Bytes) : (apply st bs).length = bs.length := by
  induction bs generalizing st with
  | nil => rfl
  | cons b bs ih => simp [apply, ih]

lemma apply_apply (st : Rc4) (bs : Bytes) : apply st (apply st bs) = bs := by
  induction bs generalizing st with
  | nil => rfl
  | cons b bs ih => rw [apply, apply, ih, UInt8.xor_assoc, UInt8.xor_self, UInt8.xor_zero]

end Rc4

/-- Encrypt or decrypt with the key stream from octet `skip` on (`rc4_skip`). -/
def rc4Skip (key : Bytes) (skip : ℕ) (data : Bytes) : Bytes :=
  Rc4.apply (Rc4.next^[skip] (Rc4.ofKey key)) data

/-! ## Contexts -/

/-- The block functions. -/
structure BlockCiphers where
  /-- AES encryption of a block with a key (`aes_encrypt`). -/
  aesEncrypt : Bytes → Bytes → Bytes
  aesDecrypt : Bytes → Bytes → Bytes
  /-- 3DES encryption of a block (`des3_encrypt`). -/
  des3Encrypt : Bytes → Bytes → Bytes
  /-- 3DES decryption of a block (`des3_decrypt`). -/
  des3Decrypt : Bytes → Bytes → Bytes
  /-- DES encryption of a block (`des_block_encrypt`). -/
  desEncrypt : Bytes → Bytes → Bytes
  /-- DES decryption of a block (`des_block_decrypt`). -/
  desDecrypt : Bytes → Bytes → Bytes

/-- A cipher context (`struct crypto_cipher`). -/
structure CryptoCipher where
  alg : CipherAlg
  key : Bytes
  /-- The block that the next one is chained to (`cbc`). -/
  cbc : Bytes := []
  /-- The octets of the union that a DES context reaches as `u.des3.cbc`. -/
  des3Cbc : Bytes := replicate 8 0
  usedBytes : ℕ := 0
deriving DecidableEq

def xorOctets (a b : Bytes) : Bytes := List.zipWith (· ^^^ ·) a b

/-- Start a cipher (`crypto_cipher_init`). -/
def cryptoCipherInit (alg : CipherAlg) (iv key : Bytes) : Option CryptoCipher :=
  match alg with
  | .rc4 => if 16 < key.length then none else some { alg, key }
  | .aes =>
    if key.length = 16 ∨ key.length = 24 ∨ key.length = 32 then
      some { alg, key, cbc := iv.takeD 16 0 }
    else none
  | .des3 => if key.length ≠ 24 then none else some { alg, key, cbc := iv.takeD 8 0 }
  | .des => if key.length ≠ 8 then none else some { alg, key, cbc := iv.takeD 8 0 }
  | .null | .rc2 => none

variable (ciphers : BlockCiphers) (ctx : CryptoCipher)

/-- One block of DES encryption.  The plaintext is added to the octets at `u.des3.cbc`, and the
block at `u.des.cbc` is encrypted. -/
def desStep (plain : Bytes) : CryptoCipher :=
  { ctx with
    des3Cbc := xorOctets ctx.des3Cbc plain
    cbc := ciphers.desEncrypt ctx.key ctx.cbc }

/-- `crypto_cipher_encrypt` with DES. -/
def desEncryptBlocks (ciphers : BlockCiphers) (ctx : CryptoCipher) :
    List Bytes → CryptoCipher × List Bytes
  | [] => (ctx, [])
  | p :: ps =>
    let ctx := desStep ciphers ctx p
    let r := desEncryptBlocks ciphers ctx ps
    (r.1, ctx.cbc :: r.2)

/-- The blocks of a chained cipher through one direction of it; none for a length that is not a
number of blocks. -/
def chained (n : ℕ) (f : Bytes → List Bytes → Bytes × List Bytes)
    (ctx : CryptoCipher) (data : Bytes) : Option (CryptoCipher × Bytes) :=
  if data.length % n ≠ 0 then none
  else
    let r := f ctx.cbc (Cbc.blocks n (data.length / n) data)
    some ({ ctx with cbc := r.1 }, r.2.flatten)

/-- Encrypt (`crypto_cipher_encrypt`). -/
def cryptoCipherEncrypt (plain : Bytes) : Option (CryptoCipher × Bytes) :=
  match ctx.alg with
  | .rc4 =>
    some ({ ctx with usedBytes := ctx.usedBytes + plain.length },
      rc4Skip ctx.key ctx.usedBytes plain)
  | .aes => chained 16 (Cbc.encrypt xorOctets (ciphers.aesEncrypt ctx.key)) ctx plain
  | .des3 => chained 8 (Cbc.encrypt xorOctets (ciphers.des3Encrypt ctx.key)) ctx plain
  | .des =>
    if plain.length % 8 ≠ 0 then none
    else
      let r := desEncryptBlocks ciphers ctx (Cbc.blocks 8 (plain.length / 8) plain)
      some (r.1, r.2.flatten)
  | .null | .rc2 => none

/-- Decrypt (`crypto_cipher_decrypt`). -/
def cryptoCipherDecrypt (crypt : Bytes) : Option (CryptoCipher × Bytes) :=
  match ctx.alg with
  | .rc4 =>
    some ({ ctx with usedBytes := ctx.usedBytes + crypt.length },
      rc4Skip ctx.key ctx.usedBytes crypt)
  | .aes => chained 16 (Cbc.decrypt xorOctets (ciphers.aesDecrypt ctx.key)) ctx crypt
  | .des3 => chained 8 (Cbc.decrypt xorOctets (ciphers.des3Decrypt ctx.key)) ctx crypt
  | .des => chained 8 (Cbc.decrypt xorOctets (ciphers.desDecrypt ctx.key)) ctx crypt
  | .null | .rc2 => none

/-! ## A receiver follows a sender -/

@[simp] lemma length_xorOctets (a b : Bytes) :
    (xorOctets a b).length = min a.length b.length := length_zipWith

lemma xorOctets_cancel {a b : Bytes} (h : a.length = b.length) :
    xorOctets (xorOctets a b) a = b := by
  induction a generalizing b with
  | nil => exact (length_eq_zero_iff.mp h.symm).symm
  | cons x a ih =>
    cases b with
    | nil => cases h
    | cons y b =>
      have hxy : x ^^^ y ^^^ x = y := by rw [UInt8.xor_comm x y, UInt8.xor_assoc]; simp
      have hrest := ih (succ.inj h)
      simp only [xorOctets, zipWith_cons_cons, hxy]
      exact congrArg _ hrest

/-- A block function and its inverse on blocks of `n` octets. -/
structure Inverse (n : ℕ) (enc dec : Bytes → Bytes) : Prop where
  length_enc : ∀ b, b.length = n → (enc b).length = n
  length_dec : ∀ b, b.length = n → (dec b).length = n
  dec_enc : ∀ b, b.length = n → dec (enc b) = b

/-- The block ciphers decrypt what they encrypted. -/
structure BlockCiphers.Correct (ciphers : BlockCiphers) : Prop where
  aes : ∀ key, Inverse 16 (ciphers.aesEncrypt key) (ciphers.aesDecrypt key)
  des3 : ∀ key, Inverse 8 (ciphers.des3Encrypt key) (ciphers.des3Decrypt key)
  des : ∀ key, Inverse 8 (ciphers.desEncrypt key) (ciphers.desDecrypt key)

/-- The length of a block, one for a stream cipher. -/
def CipherAlg.blockLen : CipherAlg → ℕ
  | .aes => 16
  | .des3 | .des => 8
  | _ => 1

def CryptoCipher.Wf : Prop := ctx.alg = .rc4 ∨ ctx.cbc.length = ctx.alg.blockLen

variable {ctx : CryptoCipher} {plain : Bytes}

lemma cryptoCipherInit_wf {alg : CipherAlg} {iv key : Bytes}
    (h : cryptoCipherInit alg iv key = some ctx) : ctx.alg = alg ∧ ctx.Wf := by
  unfold cryptoCipherInit at h
  cases alg with
  | null => cases h
  | rc2 => cases h
  | rc4 =>
    dsimp only at h
    split_ifs at h
    · cases h
      exact ⟨rfl, .inl rfl⟩
  | aes =>
    dsimp only at h
    split at h <;> cases h
    exact ⟨rfl, .inr (takeD_length _ _ _)⟩
  | _ =>
    dsimp only at h
    split_ifs at h
    · cases h
      exact ⟨rfl, .inr (takeD_length _ _ _)⟩

variable {n : ℕ} {enc dec : Bytes → Bytes}

lemma length_xorOctets_of_eq {a b : Bytes} (ha : a.length = n) (hb : b.length = n) :
    (xorOctets a b).length = n := by
  rw [length_xorOctets, ha, hb, min_self]

/-- Chaining is undone, and both ends go on with one context. -/
lemma chained_decrypt_encrypt (hinv : Inverse n enc dec) (hn : 0 < n) (hctx : ctx.cbc.length = n)
    (hlen : plain.length % n = 0) :
    ∃ ctx' crypt, chained n (Cbc.encrypt xorOctets enc) ctx plain = some (ctx', crypt) ∧
      chained n (Cbc.decrypt xorOctets dec) ctx crypt = some (ctx', plain) ∧
      crypt.length = plain.length ∧ ctx'.cbc.length = n ∧ ctx'.alg = ctx.alg := by
  obtain ⟨k, hk⟩ := dvd_of_mod_eq_zero hlen
  have hdiv : plain.length / n = k := by rw [hk, Nat.mul_div_cancel_left k hn]
  set bs := Cbc.blocks n k plain with hbs
  have hblocks : ∀ b ∈ bs, b.length = n := fun b hb => Cbc.length_of_mem_blocks hk hb
  have hmix : ∀ c p : Bytes, c.length = n → p.length = n → (xorOctets c p).length = n :=
    fun c p hc hp => length_xorOctets_of_eq hc hp
  set r := Cbc.encrypt xorOctets enc ctx.cbc bs with hr
  obtain ⟨hstate, hsent⟩ : r.1.length = n ∧ ∀ x ∈ r.2, x.length = n :=
    Cbc.encrypt_blocks hmix hinv.length_enc hctx hblocks
  have hcount : r.2.length = k := by rw [hr, Cbc.length_encrypt, hbs, Cbc.length_blocks]
  have hcrypt : r.2.flatten.length = n * k := by
    rw [Cbc.length_flatten_of_forall hsent, hcount]
  have hback : Cbc.decrypt xorOctets dec ctx.cbc r.2 = (r.1, bs) :=
    Cbc.decrypt_encrypt hmix hinv.length_enc hinv.dec_enc
      (fun c p hc hp => xorOctets_cancel (hc.trans hp.symm)) hctx hblocks
  refine ⟨{ ctx with cbc := r.1 }, r.2.flatten, ?_, ?_, by rw [hcrypt, hk], hstate, rfl⟩
  · rw [chained, if_neg (by simpa using hlen), hdiv]
  have hmod : r.2.flatten.length % n = 0 := by rw [hcrypt, mul_mod_right]
  have hdiv' : r.2.flatten.length / n = k := by rw [hcrypt, Nat.mul_div_cancel_left k hn]
  have hcut : Cbc.blocks n k r.2.flatten = r.2 := by
    have h := Cbc.blocks_flatten hsent
    rwa [hcount] at h
  rw [chained, if_neg (by simpa using hmod), hdiv', hcut, hback]
  simp only [hbs, Cbc.flatten_blocks hk]

/-- Decryption gives no more octets than it is given. -/
lemma length_chained_decrypt_le {ctx' : CryptoCipher} {crypt : Bytes}
    (hdec : ∀ b, b.length = n → (dec b).length = n)
    (h : chained n (Cbc.decrypt xorOctets dec) ctx crypt = some (ctx', plain)) :
    plain.length ≤ crypt.length := by
  rw [chained] at h
  split_ifs at h with hmod
  obtain ⟨k, hk⟩ := dvd_of_mod_eq_zero (not_not.mp hmod)
  have hblocks : ∀ (c : Bytes) (xs : List Bytes), (∀ x ∈ xs, x.length = n) →
      (Cbc.decrypt xorOctets dec c xs).2.flatten.length ≤ n * xs.length := by
    intro c xs
    induction xs generalizing c with
    | nil => exact fun _ => zero_le _
    | cons x xs ih =>
      intro hxs
      have hx : (dec x).length = n := hdec x (hxs x mem_cons_self)
      have hrest := ih x fun y hy => hxs y (mem_cons_of_mem x hy)
      rw [Cbc.decrypt, flatten_cons, length_append, length_xorOctets, hx, length_cons, mul_succ]
      omega
  cases h
  rcases Nat.eq_zero_or_pos n with rfl | hn
  · rw [zero_mul] at hk
    rw [length_eq_zero_iff.mp hk]
    exact le_refl 0
  · have hdiv : crypt.length / n = k := by rw [hk, Nat.mul_div_cancel_left k hn]
    have hle := hblocks ctx.cbc (Cbc.blocks n k crypt) fun x hx => Cbc.length_of_mem_blocks hk hx
    rw [Cbc.length_blocks, ← hk] at hle
    rwa [hdiv]

/-- A receiver with the sender's context decrypts what the sender encrypted, and both go on with one
context.  DES is left out: its encryption does not use the plaintext. -/
lemma cryptoCipherDecrypt_encrypt {ciphers : BlockCiphers} (hciphers : ciphers.Correct)
    (hwf : ctx.Wf) (halg : ctx.alg = .rc4 ∨ ctx.alg = .aes ∨ ctx.alg = .des3)
    (hlen : plain.length % ctx.alg.blockLen = 0) :
    ∃ ctx' crypt, cryptoCipherEncrypt ciphers ctx plain = some (ctx', crypt) ∧
      cryptoCipherDecrypt ciphers ctx crypt = some (ctx', plain) ∧
      crypt.length = plain.length ∧ ctx'.Wf ∧ ctx'.alg = ctx.alg := by
  rcases halg with halg | halg | halg
  · refine ⟨{ ctx with usedBytes := ctx.usedBytes + plain.length },
      rc4Skip ctx.key ctx.usedBytes plain, ?_, ?_, Rc4.length_apply _ _, .inl halg, rfl⟩
    · simp only [cryptoCipherEncrypt, halg]
    · simp only [cryptoCipherDecrypt, halg, rc4Skip, Rc4.apply_apply, Rc4.length_apply]
  · have hcbc := hwf.resolve_left (by simp [halg])
    rw [halg] at hcbc hlen
    obtain ⟨ctx', crypt, henc, hdec, hcrypt, hstate, hsame⟩ :=
      chained_decrypt_encrypt (hciphers.aes ctx.key) (by decide) hcbc hlen
    refine ⟨ctx', crypt, ?_, ?_, hcrypt, .inr ?_, hsame⟩
    · rw [cryptoCipherEncrypt, halg]
      exact henc
    · rw [cryptoCipherDecrypt, halg]
      exact hdec
    · rw [hstate, hsame, halg]
      rfl
  · have hcbc := hwf.resolve_left (by simp [halg])
    rw [halg] at hcbc hlen
    obtain ⟨ctx', crypt, henc, hdec, hcrypt, hstate, hsame⟩ :=
      chained_decrypt_encrypt (hciphers.des3 ctx.key) (by decide) hcbc hlen
    refine ⟨ctx', crypt, ?_, ?_, hcrypt, .inr ?_, hsame⟩
    · rw [cryptoCipherEncrypt, halg]
      exact henc
    · rw [cryptoCipherDecrypt, halg]
      exact hdec
    · rw [hstate, hsame, halg]
      rfl

/-- Decryption gives no more octets than it is given. -/
lemma length_cryptoCipherDecrypt_le {ciphers : BlockCiphers} (hciphers : ciphers.Correct)
    {ctx' : CryptoCipher} {crypt : Bytes}
    (h : cryptoCipherDecrypt ciphers ctx crypt = some (ctx', plain)) :
    plain.length ≤ crypt.length := by
  unfold cryptoCipherDecrypt at h
  split at h
  · cases h
    exact le_of_eq (Rc4.length_apply _ _)
  · exact length_chained_decrypt_le (hciphers.aes ctx.key).length_dec h
  · exact length_chained_decrypt_le (hciphers.des3 ctx.key).length_dec h
  · exact length_chained_decrypt_le (hciphers.des ctx.key).length_dec h
  · cases h
  · cases h

end Hostapd.Crypto
