import Hostapd.Tls.Signature

/-!
# Which signature blocks are accepted

A block that a signature check accepts always has the padding of PKCS #1 and ends with the expected
hash. What stands between them is parsed and not compared: the parameters of the AlgorithmIdentifier
are skipped, and identifiers and lengths need not have their distinguished encodings.
`accepted_canonical_iff` says exactly when an accepted block is one of the two canonical ones;
`forged_signature_accepted` gives a signature, calculated without any private key, that every key of
2048 bits with the exponent 3 accepts.
-/

namespace Hostapd.Tls

open Wire List Option

/-! ## Canonical blocks -/

/-- The distinguished encoding of DigestInfo with these parameters. -/
def derDigestInfo (oid : List ℕ) (params hash : Bytes) : Bytes :=
  Der.tlv 0x30 (Der.tlv 0x30 (Der.tlv 0x06 (Der.oid oid) ++ params) ++ Der.tlv 0x04 hash)

def derNull : Bytes := [0x05, 0x00]

/-- The data is a distinguished encoding of DigestInfo with absent or NULL parameters. -/
def CanonicalData (oid : List ℕ) (hash data : Bytes) : Prop :=
  data = derDigestInfo oid [] hash ∨ data = derDigestInfo oid derNull hash

/-- The block is 00 01 FF .. FF 00 with at least eight octets FF, and such data. -/
def CanonicalBlock (oid : List ℕ) (hash block : Bytes) : Prop :=
  ∃ k data, 8 ≤ k ∧ CanonicalData oid hash data ∧
    block = 0x00 :: 0x01 :: (replicate k 0xff ++ 0x00 :: data)

/-- The block is a canonical one for some object identifier that can be read and for some hash of
this length. -/
def CanonicalForSome (accept : List ℕ → Prop) (len : ℕ) (block : Bytes) : Prop :=
  ∃ oid hash, OidFits oid ∧ accept oid ∧ hash.length = len ∧ CanonicalBlock oid hash block

/-! ## Parsing DigestInfo -/

variable {data hash buf : Bytes} {d : DigestInfo} {oid : List ℕ} {hdr : Asn1Hdr}

lemma asn1Expect_eq_some {tag : ℕ} (h : asn1Expect tag buf = some hdr) :
    asn1GetNext buf = some hdr := by
  obtain ⟨hdr', hnext, h⟩ := bind_eq_some_iff.mp h
  split_ifs at h
  · cases h
    exact hnext

/-- The elements of a DigestInfo that is read. -/
lemma parseDigestInfo_eq_some (h : parseDigestInfo data = some d) :
    asn1GetNext data = some d.info ∧ asn1GetNext d.info.payload = some d.algorithm ∧
      asn1GetOid d.algorithm.payload = some (d.oidHdr, d.oid) ∧
      asn1GetNext (d.algorithm.rest ++ d.info.rest) = some d.digest := by
  obtain ⟨info, hinfo, h⟩ := bind_eq_some_iff.mp h
  obtain ⟨algorithm, halgorithm, h⟩ := bind_eq_some_iff.mp h
  obtain ⟨⟨oidHdr, oid⟩, hoid, h⟩ := bind_eq_some_iff.mp h
  obtain ⟨digest, hdigest, h⟩ := bind_eq_some_iff.mp h
  cases h
  exact ⟨asn1Expect_eq_some hinfo, asn1Expect_eq_some halgorithm, hoid, asn1Expect_eq_some hdigest⟩

lemma checkDigestInfo_eq_some {accept : List ℕ → Bool}
    (h : checkDigestInfo accept hash data = some ()) :
    ∃ d, parseDigestInfo data = some d ∧ accept d.oid ∧ d.digest.payload = hash ∧
      d.digest.rest = [] := by
  obtain ⟨d, hparse, h⟩ := bind_eq_some_iff.mp h
  split at h
  · next hall => exact ⟨d, hparse, hall⟩
  · cases h

/-- What is read of a distinguished encoding is what was written. -/
lemma parseDigestInfo_derDigestInfo {params : Bytes} (hparams : params.length ≤ 2)
    (hfits : OidFits oid) (hhash : hash.length < 2 ^ 32)
    (hparse : parseDigestInfo (derDigestInfo oid params hash) = some d) :
    Der.oidValues d.oid = Der.oidValues oid ∧ d.digest.payload = hash := by
  obtain ⟨hinfo, halgorithm, hoid, hdigest⟩ := parseDigestInfo_eq_some hparse
  -- Sizes of the contents, from the inside out.
  have hoidLen : (Der.oid oid).length ≤ 200 := by
    have hle := Der.length_oid_le hfits.value_lt
    have hvalues := length_oidValues hfits.two_le
    have hmax : oid.length ≤ 20 := hfits.le_max
    omega
  have hoidElem : (Der.tlv 0x06 (Der.oid oid)).length ≤ 203 := by
    have hle := @Der.length_tlv_le 0x06 (Der.oid oid) 1 (by omega)
    omega
  have halgLen : (Der.tlv 0x06 (Der.oid oid) ++ params).length ≤ 205 := by
    rw [length_append]
    omega
  have halgElem : (Der.tlv 0x30 (Der.tlv 0x06 (Der.oid oid) ++ params)).length ≤ 208 := by
    have hle := @Der.length_tlv_le 0x30 (Der.tlv 0x06 (Der.oid oid) ++ params) 1 (by omega)
    omega
  have hhashElem : (Der.tlv 0x04 hash).length ≤ 2 ^ 32 + 6 := by
    have hle := @Der.length_tlv_le 0x04 hash 4 (by norm_num at hhash ⊢; omega)
    omega
  have hinfoLen : (Der.tlv 0x30 (Der.tlv 0x06 (Der.oid oid) ++ params) ++
      Der.tlv 0x04 hash).length < 256 ^ 8 := by
    norm_num at hhashElem ⊢
    omega
  -- Each element is parsed as it was written.
  have htop : Der.tlv 0x30 (Der.tlv 0x30 (Der.tlv 0x06 (Der.oid oid) ++ params) ++
      Der.tlv 0x04 hash) ++ [] = derDigestInfo oid params hash := append_nil _
  rw [← htop] at hinfo
  obtain ⟨hinfoPayload, hinfoRest⟩ := asn1GetNext_tlv (by decide) hinfoLen hinfo
  rw [hinfoPayload] at halgorithm
  obtain ⟨halgPayload, halgRest⟩ := asn1GetNext_tlv (by decide) (by norm_num; omega) halgorithm
  rw [halgPayload] at hoid
  obtain ⟨hoidNext, -, hoidParse⟩ := asn1GetOid_eq_some hoid
  obtain ⟨hoidPayload, -⟩ := asn1GetNext_tlv (by decide) (by norm_num; omega) hoidNext
  rw [halgRest, hinfoRest] at hdigest
  obtain ⟨hdigestPayload, -⟩ :=
    asn1GetNext_tlv (by decide) (by norm_num at hhash ⊢; omega) hdigest
  rw [hoidPayload] at hoidParse
  exact ⟨oidValues_of_asn1ParseOid hfits hoidParse, hdigestPayload⟩

/-- A distinguished encoding is determined by what is read of it, up to its parameters. -/
lemma canonicalData_of_parse (hfits : OidFits oid) (hhash : hash.length < 2 ^ 32)
    (hdata : CanonicalData oid hash data) (hparse : parseDigestInfo data = some d) :
    d.oid.length = oid.length ∧ CanonicalData d.oid d.digest.payload data := by
  have hread : Der.oidValues d.oid = Der.oidValues oid ∧ d.digest.payload = hash := by
    obtain rfl | rfl := hdata
    · exact parseDigestInfo_derDigestInfo (by decide) hfits hhash hparse
    · exact parseDigestInfo_derDigestInfo (by decide) hfits hhash hparse
  obtain ⟨hvalues, hpayload⟩ := hread
  have hfits' : OidFits d.oid := asn1GetOid_fits (parseDigestInfo_eq_some hparse).2.2.1
  have hlen := length_oidValues hfits.two_le
  have hlen' := length_oidValues hfits'.two_le
  have hder : Der.oid d.oid = Der.oid oid := by rw [Der.oid, hvalues, Der.oid]
  refine ⟨by rw [hvalues] at hlen'; omega, ?_⟩
  rw [hpayload, CanonicalData, derDigestInfo, derDigestInfo, hder]
  exact hdata

/-! ## Padding -/

variable {block : Bytes}

/-- The octets FF are skipped, however many there are. -/
lemma skipFf_eq {plain : Bytes} {n pos : ℕ} (h : plain.length ≤ pos + n) :
    skipFf plain n pos = .ok (pos + ((plain.drop pos).takeWhile (· == 0xff)).length) := by
  induction n generalizing pos with
  | zero =>
    rw [drop_eq_nil_of_le (by omega : plain.length ≤ pos)]
    rfl
  | succ n ih =>
    rw [skipFf]
    split_ifs with hpos
    · rw [readAt_of_le hpos, drop_eq_getElem_cons hpos, takeWhile_cons]
      simp only [Checked.ok_bind, take_succ_cons, take_zero, List.cons.injEq, and_true, beq_iff_eq]
      split_ifs
      · rw [ih (by omega), length_cons]
        congr 1
        omega
      · simp
    · simp [drop_eq_nil_of_le (not_lt.mp hpos)]

lemma takeWhile_padding (k : ℕ) (data : Bytes) :
    (replicate k 0xff ++ (0x00 : UInt8) :: data).takeWhile (· == 0xff) = replicate k 0xff := by
  induction k with
  | zero => rfl
  | succ k ih => exact congrArg (0xff :: ·) ih

/-- The padding can be removed exactly from the blocks that have one and enough data behind it. -/
lemma pkcs1Unpad_eq_some : pkcs1Unpad block = .ok (some data) ↔ ∃ k, 8 ≤ k ∧ 16 ≤ data.length ∧
    block = 0x00 :: 0x01 :: (replicate k 0xff ++ 0x00 :: data) := by
  constructor
  · intro h
    unfold pkcs1Unpad at h
    split_ifs at h with hstart hff
    · cases h
    · cases h
    rw [skipFf_eq (Nat.le_add_left _ _), Checked.ok_bind] at h
    split_ifs at h with hps hlong
    · cases h
    · cases h
    obtain ⟨octet, hoctet, h⟩ := Checked.bind_eq_ok.mp h
    obtain ⟨-, rfl⟩ := readAt_eq_ok.mp hoctet
    obtain ⟨ps, rfl⟩ : ∃ ps, block = 0x00 :: 0x01 :: 0xff :: ps := by
      match block, hstart, hff with
      | [], hstart, _ => simp at hstart
      | [_], hstart, _ => simp at hstart
      | [_, _], hstart, _ => simp at hstart
      | _ :: _ :: _ :: ps, hstart, hff => exact ⟨ps, by simp at hstart hff; simp [hstart, hff]⟩
    have hthree : (0x00 :: 0x01 :: 0xff :: ps).drop 3 = ps := rfl
    simp only [hthree, length_cons] at h hps hlong
    set front := ps.takeWhile (· == 0xff) with hfront
    have hsplit : ps = front ++ ps.dropWhile (· == 0xff) := takeWhile_append_dropWhile.symm
    have hall : front = replicate front.length 0xff :=
      eq_replicate_of_mem fun b hb => eq_of_beq (all_eq_true.mp all_takeWhile b hb)
    have hdrop : ps.drop front.length = ps.dropWhile (· == 0xff) := by
      conv_lhs => rw [hsplit]
      exact drop_left
    have hrest : ∀ n, (0x00 :: 0x01 :: 0xff :: ps).drop (3 + front.length + n) =
        (ps.dropWhile (· == 0xff)).drop n := by
      intro n
      rw [← hdrop, drop_drop, show 3 + front.length + n = (front.length + n) + 3 by omega]
      rfl
    rw [← Nat.add_zero (3 + front.length), hrest, Nat.add_zero, hrest] at h
    cases hback : ps.dropWhile (· == 0xff) with
    | nil => simp [hback] at h
    | cons octet data' =>
      simp only [hback, drop_zero, take_succ_cons, take_zero, drop_succ_cons, Checked.pure_eq_ok,
        List.cons.injEq, and_true] at h
      split_ifs at h with hzero
      · cases h
        have hlen := congrArg List.length hsplit
        rw [hback, length_append, length_cons] at hlen
        refine ⟨front.length + 1, by omega, by omega, ?_⟩
        rw [replicate_succ, cons_append, ← hall, ← hzero, ← hback, ← hsplit]
      · cases h
  · rintro ⟨k, hk, hlen, rfl⟩
    obtain ⟨k, rfl⟩ : ∃ j, k = j + 1 := ⟨k - 1, by omega⟩
    have hblock : (0x00 :: 0x01 :: (replicate (k + 1) (0xff : UInt8) ++ 0x00 :: data)).length =
        k + data.length + 4 := by
      simp
      omega
    have hskip : skipFf (0x00 :: 0x01 :: (replicate (k + 1) 0xff ++ 0x00 :: data))
        (k + data.length + 4) 3 = .ok (3 + k) := by
      rw [skipFf_eq (by omega)]
      rw [replicate_succ, cons_append]
      simp only [drop_succ_cons, drop_zero, takeWhile_padding, length_replicate]
    rw [pkcs1Unpad, hblock, if_neg (by simp; omega), if_neg (by simp [replicate_succ]), hskip,
      Checked.ok_bind, if_neg (by omega), if_neg (by omega), readAt_of_le (by omega),
      Checked.ok_bind]
    have hrest : ∀ n, (0x00 :: 0x01 :: (replicate (k + 1) 0xff ++ 0x00 :: data)).drop (3 + k + n) =
        ((0x00 : UInt8) :: data).drop n := by
      intro n
      rw [show 3 + k + n = ((k + 1) + n) + 2 by omega, drop_succ_cons, drop_succ_cons, ← drop_drop]
      exact congrArg (List.drop n) (drop_left' length_replicate)
    rw [← Nat.add_zero (3 + k), hrest, Nat.add_zero, hrest]
    rfl

/-- Skipping the padding reads no octet that is not in the block. -/
lemma safe_pkcs1Unpad (block : Bytes) : (pkcs1Unpad block).Safe := by
  rw [pkcs1Unpad, skipFf_eq (by omega)]
  split_ifs
  · simp
  · simp
  · rw [Checked.ok_bind]
    split_ifs with hps hlong
    · simp
    · simp
    · rw [readAt_of_le (by omega)]
      simp

lemma safe_pkcs1DecryptPublicKey (key : RsaKey) (crypt : Bytes) (plainLen : ℕ) :
    (pkcs1DecryptPublicKey key crypt plainLen).Safe := by
  unfold pkcs1DecryptPublicKey
  split
  · simp
  · exact safe_pkcs1Unpad _

lemma padding_unique {k k' : ℕ} {data data' : Bytes}
    (h : replicate k 0xff ++ (0x00 : UInt8) :: data = replicate k' 0xff ++ 0x00 :: data') :
    data = data' := by
  have hk : replicate k (0xff : UInt8) = replicate k' 0xff := by
    rw [← takeWhile_padding k data, h, takeWhile_padding]
  rw [hk] at h
  exact tail_eq_of_cons_eq (append_cancel_left h)

lemma canonicalBlock_iff {oid : List ℕ} {hash : Bytes}
    (h : pkcs1Unpad block = .ok (some data)) :
    CanonicalBlock oid hash block ↔ CanonicalData oid hash data := by
  obtain ⟨k, hk, -, hblock⟩ := pkcs1Unpad_eq_some.mp h
  constructor
  · rintro ⟨k', data', -, hdata', hblock'⟩
    rw [hblock, List.cons.injEq, List.cons.injEq] at hblock'
    exact padding_unique hblock'.2.2 ▸ hdata'
  · intro hdata
    exact ⟨k, data, hk, hdata, hblock⟩

/-! ## Accepted signatures -/

lemma pkcs1Decrypt_eq_some {key : RsaKey} {crypt data : Bytes} {plainLen : ℕ}
    (h : cryptoPublicKeyDecryptPkcs1 key crypt plainLen = some data) :
    ∃ block, cryptoRsaExptmod key crypt plainLen = some block ∧
      pkcs1Unpad block = .ok (some data) := by
  obtain ⟨res, hres⟩ := safe_pkcs1DecryptPublicKey key crypt plainLen
  rw [cryptoPublicKeyDecryptPkcs1, hres] at h
  cases (show res = some data from h)
  unfold pkcs1DecryptPublicKey at hres
  split at hres
  · cases hres
  · next block hblock => exact ⟨block, hblock, hres⟩

lemma oidFits_hashAlg (alg : HashAlg) : OidFits alg.oid := by
  cases alg <;> exact ⟨by decide, by decide, by decide⟩

/-- An accepted algorithm is the expected one, if for MD5 it has no further numbers. -/
lemma eq_oid_of_digestMatches {signature : ℕ} {alg : HashAlg} {oid : List ℕ}
    (halg : HashAlg.ofSignature signature = some alg) (h : digestMatches signature oid)
    (hlen : alg = .md5 → oid.length = 6) : oid = alg.oid := by
  unfold digestMatches at h
  split_ifs at h with h1 h256 h384 h512
  · cases eq_of_beq h
    cases halg
    exact eq_of_beq h1
  · cases eq_of_beq h
    cases halg
    exact eq_of_beq h256
  · cases eq_of_beq h
    cases halg
    exact eq_of_beq h384
  · cases eq_of_beq h
    cases halg
    exact eq_of_beq h512
  · simp only [Bool.and_eq_true, beq_iff_eq] at h
    obtain ⟨⟨hfive, hsixth⟩, rfl⟩ := h
    cases halg
    have hfront : oid.take 5 = [1, 2, 840, 113549, 2] := eq_of_beq hfive
    match oid, hlen rfl with
    | [_, _, _, _, _, _], _ =>
      simp only [take_succ_cons, take_zero, List.cons.injEq, and_true] at hfront
      obtain ⟨rfl, rfl, rfl, rfl, rfl⟩ := hfront
      cases hsixth
      rfl

/-- An accepted block is canonical for the expected algorithm and hash exactly if it is canonical
for something that would be read as this algorithm. -/
lemma canonicalBlock_iff_forSome {P : List ℕ → Prop} (hunpad : pkcs1Unpad block = .ok (some data))
    (hparse : parseDigestInfo data = some d) (hpayload : d.digest.payload = hash)
    (hfits : OidFits oid) (hP : P oid)
    (hread : ∀ oid', P oid' → oid'.length = d.oid.length → d.oid = oid) :
    CanonicalBlock oid hash block ↔ CanonicalForSome P hash.length block := by
  have hhash : hash.length < 2 ^ 32 :=
    hpayload ▸ asn1GetNext_payload_lt (parseDigestInfo_eq_some hparse).2.2.2
  constructor
  · intro hblock
    exact ⟨oid, hash, hfits, hP, rfl, hblock⟩
  · rintro ⟨oid', hash', hfits', hP', hlen', hblock⟩
    rw [canonicalBlock_iff hunpad] at hblock ⊢
    obtain ⟨hnumbers, hdata⟩ := canonicalData_of_parse hfits' (hlen' ▸ hhash) hblock hparse
    rwa [hread oid' hP' hnumbers.symm, hpayload] at hdata

/-- There are two canonical blocks of a length. -/
lemma canonicalBlock_of_length (oid : List ℕ) (hash : Bytes) (len : ℕ) :
    ∃ block block', ∀ b, CanonicalBlock oid hash b → b.length = len → b = block ∨ b = block' := by
  refine ⟨0x00 :: 0x01 :: (replicate (len - 3 - (derDigestInfo oid [] hash).length) 0xff ++
      0x00 :: derDigestInfo oid [] hash),
    0x00 :: 0x01 :: (replicate (len - 3 - (derDigestInfo oid derNull hash).length) 0xff ++
      0x00 :: derDigestInfo oid derNull hash), ?_⟩
  rintro b ⟨k, data, -, hdata, rfl⟩ hlen
  have hk : k = len - 3 - data.length := by
    simp at hlen
    omega
  obtain rfl | rfl := hdata
  · exact .inl (by rw [hk])
  · exact .inr (by rw [hk])

/-- An accepted signature of a certificate, and one of a hash, undo to a block that is canonical for
the expected algorithm and hash exactly if it is so for some algorithm and some hash of this length;
of an algorithm for MD5, the number of its numbers counts as well.  There are at most two canonical
blocks of one length. -/
theorem accepted_canonical_iff (hashes : Hashes) :
    (∀ publicKey signatureOid signValue signedData,
      x509CheckSignature hashes publicKey signatureOid signValue signedData = some () →
      ∃ key block alg, cryptoRsaImportPublicKey publicKey = some key ∧
        cryptoRsaExptmod key signValue signValue.length = some block ∧
        HashAlg.ofSignature (signatureOid.getD 6 0) = some alg ∧
        (CanonicalBlock alg.oid (alg.hash hashes signedData) block ↔
          CanonicalForSome (fun oid => alg = .md5 → oid.length = 6)
            (alg.hash hashes signedData).length block)) ∧
    (∀ key s hashAlg hash, pkcs1V15SigVer key s hashAlg hash = some () →
      ∃ block, cryptoRsaExptmod key s s.length = some block ∧
        (CanonicalBlock hashAlg hash block ↔
          CanonicalForSome (fun _ => True) hash.length block)) ∧
    ∀ oid hash len, ∃ block block', ∀ b, CanonicalBlock oid hash b → b.length = len →
      b = block ∨ b = block' := by
  refine ⟨?_, ?_, canonicalBlock_of_length⟩
  · intro publicKey signatureOid signValue signedData h
    unfold x509CheckSignature at h
    split_ifs at h
    obtain ⟨key, hkey, h⟩ := bind_eq_some_iff.mp h
    obtain ⟨data, hdata, h⟩ := bind_eq_some_iff.mp h
    obtain ⟨alg, halg, h⟩ := bind_eq_some_iff.mp h
    obtain ⟨block, hblock, hunpad⟩ := pkcs1Decrypt_eq_some hdata
    obtain ⟨d, hparse, haccept, hpayload, -⟩ := checkDigestInfo_eq_some h
    refine ⟨key, block, alg, hkey, hblock, halg, ?_⟩
    refine canonicalBlock_iff_forSome hunpad hparse hpayload (oidFits_hashAlg alg) ?_ ?_
    · rintro rfl
      rfl
    · intro oid hmd5 hnumbers
      exact eq_oid_of_digestMatches halg haccept fun h => hnumbers ▸ hmd5 h
  · intro key s hashAlg hash h
    obtain ⟨data, hdata, h⟩ := bind_eq_some_iff.mp h
    obtain ⟨block, hblock, hunpad⟩ := pkcs1Decrypt_eq_some hdata
    obtain ⟨d, hparse, haccept, hpayload, -⟩ := checkDigestInfo_eq_some h
    have hoid : d.oid = hashAlg := eq_of_beq haccept
    have hfits : OidFits hashAlg := hoid ▸ asn1GetOid_fits (parseDigestInfo_eq_some hparse).2.2.1
    exact ⟨block, hblock, canonicalBlock_iff_forSome hunpad hparse hpayload hfits trivial
      fun _ _ _ => hoid⟩

/-- Hash functions of which SHA-256 has the value that it has on the octets of "abc". -/
def sampleHashes : Hashes where
  md5 _ := .zero 16
  sha1 _ := .zero 20
  sha256 _ :=
    .ofList 32 (toBe 32 0xba7816bf8f01cfea414140de5dae2223b00361a396177a9cb410ff61f20015ad)
  sha384 _ := .zero 48
  sha512 _ := .zero 64

/-- The numbers of sha256WithRSAEncryption. -/
def sha256WithRsaEncryption : List ℕ := [1, 2, 840, 113549, 1, 1, 11]

/-- A public key in its encoding. -/
def derPublicKey (n e : ℕ) : Bytes :=
  Der.tlv 0x30 (Der.tlv 0x02 (toBe (Der.octetCount n) n) ++
    Der.tlv 0x02 (toBe (Der.octetCount e) e))

/-- A canonical block of 62 octets is its own signature under a key with the exponent 1. -/
def sampleBlock : Bytes :=
  0x00 :: 0x01 :: (replicate 8 0xff ++
    0x00 :: derDigestInfo HashAlg.sha256.oid derNull
      (HashAlg.sha256.hash sampleHashes [97, 98, 99]))

/-- The signature of such a block is accepted, and the equivalence is about it. -/
theorem accepted_canonical_iff_of_sampleBlock :
    x509CheckSignature sampleHashes (derPublicKey (256 ^ 62 - 1) 1) sha256WithRsaEncryption
        sampleBlock [97, 98, 99] = some () ∧
      pkcs1V15SigVer ⟨256 ^ 62 - 1, 1⟩ sampleBlock HashAlg.sha256.oid
        (HashAlg.sha256.hash sampleHashes [97, 98, 99]) = some () ∧
      ∃ block, cryptoRsaExptmod ⟨256 ^ 62 - 1, 1⟩ sampleBlock sampleBlock.length = some block ∧
        (CanonicalBlock HashAlg.sha256.oid (HashAlg.sha256.hash sampleHashes [97, 98, 99]) block ↔
          CanonicalForSome (fun _ => True)
            (HashAlg.sha256.hash sampleHashes [97, 98, 99]).length block) := by
  have hver : pkcs1V15SigVer ⟨256 ^ 62 - 1, 1⟩ sampleBlock HashAlg.sha256.oid
      (HashAlg.sha256.hash sampleHashes [97, 98, 99]) = some () := by decide +kernel
  have hcheck : x509CheckSignature sampleHashes (derPublicKey (256 ^ 62 - 1) 1)
      sha256WithRsaEncryption sampleBlock [97, 98, 99] = some () := by decide +kernel
  exact ⟨hcheck, hver, (accepted_canonical_iff sampleHashes).2.1 _ _ _ _ hver⟩

/-- A signature value that was calculated from the hash alone. -/
def forgedSignature : ℕ :=
  0x32cbfd4a7adc7905583d7920d7165d77cf8d6f4b19a4c14026dc9bcb029c9d718c91e30af57cecba * 16 ^ 90 +
    0x72ee5d695aa3b86c229e0edf10cb219c0f9d889d849b95f8d1bad59dadb8c65e873681ebd71b33e91db2bed495

/-- The cube of the forged signature is not reduced. -/
lemma cryptoRsaExptmod_forged {n outlen : ℕ} (hle : 256 ^ 255 ≤ n) (hlt : n < 256 ^ 256)
    (hout : 256 ≤ outlen) :
    cryptoRsaExptmod ⟨n, 3⟩ (toBe 256 forgedSignature) outlen =
      some (toBe 256 (forgedSignature ^ 3)) := by
  have hcount : Der.octetCount n = 256 :=
    le_antisymm (Der.octetCount_le hlt) (Der.lt_octetCount hle)
  have hvalue : beNat (toBe 256 forgedSignature) = forgedSignature := by
    rw [beNat_toBe]
    exact Nat.mod_eq_of_lt (by decide +kernel)
  have hcube : forgedSignature ^ 3 < 256 ^ 255 := by decide +kernel
  have hsmall : forgedSignature < 256 ^ 255 := by decide +kernel
  have hpos : n ≠ 0 := by
    rintro rfl
    exact absurd hle (by decide +kernel)
  unfold cryptoRsaExptmod
  rw [hvalue, hcount, if_neg (not_lt.mpr (hsmall.le.trans hle)), if_neg hpos,
    if_neg (not_lt.mpr hout), Nat.mod_eq_of_lt (hcube.trans_le hle)]

/-- The forged signature is accepted under every key of 2048 bits with the exponent 3. -/
lemma x509CheckSignature_forged {publicKey : Bytes} {n : ℕ} (hle : 256 ^ 255 ≤ n)
    (hlt : n < 256 ^ 256) (hkey : cryptoRsaImportPublicKey publicKey = some ⟨n, 3⟩) :
    x509CheckSignature sampleHashes publicKey sha256WithRsaEncryption (toBe 256 forgedSignature)
      [97, 98, 99] = some () := by
  have hdata : (pkcs1Unpad (toBe 256 (forgedSignature ^ 3))).toOption.join.bind
      (checkDigestInfo (digestMatches 11) (HashAlg.sha256.hash sampleHashes [97, 98, 99])) =
        some () := by decide +kernel
  have hblock := cryptoRsaExptmod_forged hle hlt (length_toBe 256 forgedSignature).ge
  unfold x509CheckSignature cryptoPublicKeyDecryptPkcs1 pkcs1DecryptPublicKey
  rw [if_neg (by decide), hkey]
  simp only [bind_eq_bind, bind_some, hblock]
  exact hdata

/-- A key of 2048 bits accepts the forged signature, which undoes to a block that is not
canonical. -/
theorem forged_signature_accepted :
    x509CheckSignature sampleHashes (derPublicKey (256 ^ 256 - 1) 3) sha256WithRsaEncryption
        (toBe 256 forgedSignature) [97, 98, 99] = some () ∧
      ∃ block, cryptoRsaExptmod ⟨256 ^ 256 - 1, 3⟩ (toBe 256 forgedSignature) 256 = some block ∧
        ¬ CanonicalBlock HashAlg.sha256.oid (HashAlg.sha256.hash sampleHashes [97, 98, 99])
          block := by
  have hle : 256 ^ 255 ≤ 256 ^ 256 - 1 := by decide +kernel
  have hlt : 256 ^ 256 - 1 < 256 ^ 256 := by decide +kernel
  have hkey : cryptoRsaImportPublicKey (derPublicKey (256 ^ 256 - 1) 3) =
      some ⟨256 ^ 256 - 1, 3⟩ := by decide +kernel
  refine ⟨x509CheckSignature_forged hle hlt hkey, _, cryptoRsaExptmod_forged hle hlt le_rfl, ?_⟩
  have hunpad : ∃ data, pkcs1Unpad (toBe 256 (forgedSignature ^ 3)) = .ok (some data) ∧
      data.length = 245 := by
    have hlength : (pkcs1Unpad (toBe 256 (forgedSignature ^ 3))).toOption.join.map List.length =
        some 245 := by decide +kernel
    obtain ⟨data, hdata, hlength⟩ := map_eq_some_iff.mp hlength
    obtain ⟨res, hres⟩ := safe_pkcs1Unpad (toBe 256 (forgedSignature ^ 3))
    rw [hres] at hdata
    exact ⟨data, hres.trans (congrArg _ hdata), hlength⟩
  obtain ⟨data, hdata, hlength⟩ := hunpad
  rw [canonicalBlock_iff hdata]
  -- The canonical structures have 49 and 51 octets.
  rintro (rfl | rfl)
  · exact absurd hlength (by decide +kernel)
  · exact absurd hlength (by decide +kernel)

end Hostapd.Tls
