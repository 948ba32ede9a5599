import Hostapd.Tls.Record

/-!
# The record layer delivers what was sent

Two record layers that were keyed alike stay in step: `InSync` relates the sending direction of one
to the receiving direction of the other, `recordReceive_of_send` says that the receiver takes each
record whole and delivers its payload, and the framing library lifts this to a stream that comes in
by chunks.
-/

namespace Hostapd.Tls

open Wire Hostapd.Crypto Framing List Option Nat

/-- The keyed hash has the length of its hash function. -/
def Prims.HmacLength (prims : Prims) : Prop :=
  ∀ alg key data, alg ≠ TlsHash.null → (prims.hmac alg key data).length = alg.size

namespace RecordLayer

/-! ## Layers that are keyed alike -/

/-- The cipher of a direction fits the block size of the layer. -/
def Fits (ivSize : ℕ) (ctx : CryptoCipher) : Prop :=
  (ctx.alg = .rc4 ∧ ivSize = 0) ∨ ((ctx.alg = .aes ∨ ctx.alg = .des3) ∧ ivSize = ctx.alg.blockLen)

/-- A sender and a receiver that protect records with one key. -/
structure Protected (s r : RecordLayer) (ctx : CryptoCipher) : Prop where
  suite : s.writeCipherSuite ≠ tlsNullWithNullNull
  hashAlg : r.hashAlg = s.hashAlg
  hashed : s.hashAlg ≠ .null
  macSecret : r.readMacSecret = s.writeMacSecret
  ivSize : r.ivSize = s.ivSize
  write : s.writeCbc = some ctx
  read : r.readCbc = some ctx
  wf : ctx.Wf
  fits : Fits s.ivSize ctx

/-- The sending direction of a layer and the receiving direction of another are in step. -/
structure InSync (s r : RecordLayer) : Prop where
  version : r.tlsVersion = s.tlsVersion
  supported : s.tlsVersion / 256 = 3
  suite : r.readCipherSuite = s.writeCipherSuite
  seqNum : r.readSeqNum = s.writeSeqNum
  keys : s.writeCipherSuite ≠ tlsNullWithNullNull → ∃ ctx, Protected s r ctx

/-- What two peers have agreed on before they change to a suite. -/
structure KeyedAlike (s r : RecordLayer) : Prop where
  version : r.tlsVersion = s.tlsVersion
  supported : s.tlsVersion = tlsVersion1 ∨ s.tlsVersion = tlsVersion11 ∨ s.tlsVersion = tlsVersion12
  /-- The receiver reads with the sender's key of the message authentication code. -/
  macSecret : r.readMacSecret = s.writeMacSecret
  key : r.readKey = s.writeKey
  iv : r.readIv = s.writeIv

/-- The writing direction gets a suite. -/
def useForWriting (rl : RecordLayer) (suite : ℕ) : Option RecordLayer :=
  (rl.setCipherSuite suite).bind changeWriteCipher

/-- The reading direction gets a suite. -/
def useForReading (rl : RecordLayer) (suite : ℕ) : Option RecordLayer :=
  (rl.setCipherSuite suite).bind changeReadCipher

/-- The suite has the cipher DES. -/
def usesDes (suite : ℕ) : Bool :=
  match tlsGetCipherSuite suite with
  | none => false
  | some s => s.cipher == .desCbc

variable {suite : ℕ}

/-- What a new suite sets. -/
lemma setCipherSuite_eq_some {rl rl' : RecordLayer} (h : rl.setCipherSuite suite = some rl') :
    ∃ s, tlsGetCipherSuite suite = some s ∧
      rl' =
        { rl with
          cipherSuite := suite
          hashAlg := if s.hash = .null then rl.hashAlg else s.hash
          keyMaterialLen := (tlsGetCipherData s.cipher).keyMaterial
          ivSize := (tlsGetCipherData s.cipher).blockSize
          cipherAlg := (tlsGetCipherData s.cipher).alg } := by
  unfold setCipherSuite at h
  split at h
  · cases h
  · rename_i s hs
    cases h
    exact ⟨s, hs, rfl⟩

variable {ctx : CryptoCipher} {r s s' : RecordLayer} {ct : UInt8}
  {bufSize version len outLen ivSize : ℕ} {prims : Prims} {random : Option Bytes}
  {payload rec fragment : Bytes}

lemma fits_of_cipher {c : TlsCipher} (hc : c = .rc4128 ∨ c = .desCbc ∨ c = .des3EdeCbc ∨
    c = .aes128Cbc ∨ c = .aes256Cbc) (hdes : c ≠ .desCbc)
    (halg : ctx.alg = (tlsGetCipherData c).alg) : Fits (tlsGetCipherData c).blockSize ctx := by
  rcases hc with rfl | rfl | rfl | rfl | rfl
  · exact .inl ⟨halg, rfl⟩
  · exact absurd rfl hdes
  · exact .inr ⟨.inr halg, by rw [halg]; rfl⟩
  · exact .inr ⟨.inl halg, by rw [halg]; rfl⟩
  · exact .inr ⟨.inl halg, by rw [halg]; rfl⟩

lemma Fits.alg (h : Fits ivSize ctx) : ctx.alg = .rc4 ∨ ctx.alg = .aes ∨ ctx.alg = .des3 :=
  h.imp And.left And.left

lemma Fits.bounds (h : Fits ivSize ctx) :
    (ivSize = 0 ∧ ctx.alg.blockLen = 1) ∨
      (0 < ivSize ∧ ivSize ≤ 16 ∧ ivSize = ctx.alg.blockLen) := by
  rcases h with ⟨h, rfl⟩ | ⟨h | h, rfl⟩
  all_goals
    rw [h]
    decide

/-- Layers keyed alike are in step after the change to a suite that does not use DES. -/
lemma inSync_of_keyedAlike {r' : RecordLayer} (hkeyed : KeyedAlike s r)
    (hdes : usesDes suite = false) (hs : s.useForWriting suite = some s')
    (hr : r.useForReading suite = some r') : InSync s' r' := by
  obtain ⟨s₁, hs₁, hs⟩ := bind_eq_some_iff.mp hs
  obtain ⟨r₁, hr₁, hr⟩ := bind_eq_some_iff.mp hr
  obtain ⟨t, ht, rfl⟩ := setCipherSuite_eq_some hs₁
  obtain ⟨t', ht', rfl⟩ := setCipherSuite_eq_some hr₁
  obtain rfl : t = t' := some.inj (ht.symm.trans ht')
  obtain ⟨-, hprot⟩ := tlsGetCipherSuite_protects ht
  have hversion : s.tlsVersion / 256 = 3 := by
    rcases hkeyed.supported with h | h | h
    all_goals
      rw [h]
      decide
  by_cases hnull : (tlsGetCipherData t.cipher).alg = .null
  · -- Only the null suite has no cipher.
    have hsuite : suite = tlsNullWithNullNull := by
      by_contra hne
      obtain ⟨-, hcipher⟩ := hprot hne
      rcases hcipher with h | h | h | h | h
      all_goals rw [h] at hnull; cases hnull
    simp only [changeWriteCipher, if_pos hnull, some.injEq] at hs
    simp only [changeReadCipher, if_pos hnull, some.injEq] at hr
    subst hs hr
    exact ⟨hkeyed.version, hversion, rfl, rfl, absurd hsuite⟩
  simp only [changeWriteCipher, if_neg hnull, map_eq_some_iff] at hs
  simp only [changeReadCipher, if_neg hnull, map_eq_some_iff] at hr
  obtain ⟨ctx, hctx, rfl⟩ := hs
  obtain ⟨ctx', hctx', rfl⟩ := hr
  rw [hkeyed.key, hkeyed.iv] at hctx'
  obtain rfl : ctx = ctx' := some.inj (hctx.symm.trans hctx')
  obtain ⟨halg, hwf⟩ := cryptoCipherInit_wf hctx
  refine ⟨hkeyed.version, hversion, rfl, rfl, fun hne => ⟨ctx, ?_⟩⟩
  obtain ⟨hhash, hcipher⟩ := hprot hne
  have hother : t.cipher ≠ .desCbc := fun h => by simp [usesDes, ht, h] at hdes
  refine
    { suite := hne, hashAlg := ?_, hashed := ?_, macSecret := hkeyed.macSecret, ivSize := rfl
      write := rfl, read := rfl, wf := hwf, fits := fits_of_cipher hcipher hother halg }
  · rw [if_neg hhash, if_neg hhash]
  · rwa [if_neg hhash]

/-! ## One record -/

def recordHeader (ct : UInt8) (version len : ℕ) : Bytes :=
  ct :: (toBe 2 version ++ toBe 2 len)

@[simp] lemma length_recordHeader (ct : UInt8) (version len : ℕ) :
    (recordHeader ct version len).length = tlsRecordHeaderLen := by
  simp [recordHeader]

lemma beNat_length_recordHeader (hlen : len < 65536) (rest : Bytes) :
    beNat (((recordHeader ct version len ++ rest).drop 3).take 2) = len := by
  have hdrop : (recordHeader ct version len ++ rest).drop 3 = toBe 2 len ++ rest := rfl
  rw [hdrop, take_append_of_le_length (by simp), take_of_length_le (by simp), beNat_toBe]
  exact mod_eq_of_lt hlen

lemma getD_one_recordHeader (hversion : version / 256 = 3) (rest : Bytes) :
    (recordHeader ct version len ++ rest).getD 1 0 = 3 := by
  have hget : (recordHeader ct version len ++ rest).getD 1 0 = UInt8.ofNat (version / 256 ^ 1) :=
    rfl
  rw [hget, pow_one, hversion]
  rfl

/-- A whole record is taken off. -/
lemma recordReceive_of_header (hct : knownContentType ct) (hversion : version / 256 = 3)
    (hlen : fragment.length ≤ 18427) (tail out : Bytes) (hout : fragment.length ≤ outLen) :
    recordReceive prims r (recordHeader ct version fragment.length ++ fragment ++ tail) out outLen =
      receiveFragment prims r (recordHeader ct version fragment.length) fragment out := by
  rw [append_assoc, recordReceive]
  set header := recordHeader ct version fragment.length
  set octets := header ++ (fragment ++ tail) with hoctets
  have hfive : tlsRecordHeaderLen = 5 := rfl
  have hheader : header.length = 5 := length_recordHeader ..
  have hlength : octets.length = 5 + (fragment.length + tail.length) := by
    rw [hoctets, length_append, hheader, length_append]
  have hbe : beNat ((octets.drop 3).take 2) = fragment.length :=
    beNat_length_recordHeader (by omega) _
  have hone : octets.getD 1 0 = 3 := getD_one_recordHeader hversion _
  have hzero : octets.getD 0 0 = ct := rfl
  have htake : octets.take tlsRecordHeaderLen = header := take_left' hheader
  have hdrop : (octets.drop tlsRecordHeaderLen).take fragment.length = fragment := by
    rw [hoctets, drop_left' hheader, take_left]
  simp only [hbe, hone, hzero, htake, hdrop, hlength, hct]
  rw [if_neg (by omega), if_neg (by simp), if_neg (by omega), if_neg (by omega),
    if_neg (by simp), if_neg (by omega)]

/-- A part of a record asks for more. -/
lemma recordReceive_of_part {p : Bytes} (hversion : version / 256 = 3)
    (hlen : fragment.length ≤ 18427)
    (hp : p <+: recordHeader ct version fragment.length ++ fragment)
    (hne : p ≠ recordHeader ct version fragment.length ++ fragment) (out : Bytes) (outLen : ℕ) :
    recordReceive prims r p out outLen = (r, .more, out) := by
  have hshort : p.length < tlsRecordHeaderLen + fragment.length := by
    have hle := hp.length_le
    rw [length_append, length_recordHeader] at hle
    refine lt_of_le_of_ne hle fun heq => hne (hp.eq_of_length ?_)
    rw [heq, length_append, length_recordHeader]
  rw [recordReceive]
  by_cases hheader : p.length < tlsRecordHeaderLen
  · rw [if_pos hheader]
  obtain ⟨q, rfl⟩ :=
    prefix_of_prefix_length_le (prefix_append _ _) hp (by simpa using not_lt.mp hheader)
  have hbe : beNat (((recordHeader ct version fragment.length ++ q).drop 3).take 2) =
      fragment.length := beNat_length_recordHeader (by omega) q
  have hone : (recordHeader ct version fragment.length ++ q).getD 1 0 = 3 :=
    getD_one_recordHeader hversion q
  have hfive : tlsRecordHeaderLen = 5 := rfl
  simp only [hbe, hone]
  rw [if_neg hheader, if_neg (by simp), if_neg (by omega), if_pos (by omega)]

/-- The padding fills up whole blocks. -/
lemma padding_eq (hpos : 0 < ivSize) (len : ℕ) : ∃ k < ivSize,
    padding ivSize len = replicate (k + 1) (UInt8.ofNat k) ∧ (len + (k + 1)) % ivSize = 0 := by
  have hlt := mod_lt (len + 1) hpos
  rw [padding, if_neg (by omega)]
  refine ⟨if (len + 1) % ivSize = 0 then 0 else ivSize - (len + 1) % ivSize, ?_, rfl, ?_⟩
  · split <;> omega
  split
  · assumption
  have hdecomp := div_add_mod (len + 1) ivSize
  have htotal : len + (ivSize - (len + 1) % ivSize + 1) = ivSize * ((len + 1) / ivSize + 1) := by
    rw [mul_succ]
    omega
  rw [htotal, mul_mod_right]

/-- Padding is taken off. -/
lemma removePadding_padding (hpos : 0 < ivSize) (hmax : ivSize ≤ 16) (len : ℕ) (body : Bytes) :
    removePadding (body ++ padding ivSize len) = (body, false) := by
  obtain ⟨k, hk, hpad, -⟩ := padding_eq hpos len
  have hk' : (UInt8.ofNat k).toNat = k := by
    simp
    omega
  have hlast : (body ++ replicate (k + 1) (UInt8.ofNat k)).getLast? = some (UInt8.ofNat k) := by
    rw [getLast?_append_of_ne_nil _ (by simp), getLast?_replicate]
    simp
  have hlen : (body ++ replicate (k + 1) (UInt8.ofNat k)).length = body.length + (k + 1) := by
    simp
  have hcut : body.length + (k + 1) - k - 1 = body.length := by omega
  rw [hpad, removePadding, hlast]
  simp only [hk', hlen, hcut, drop_left, take_left]
  rw [if_neg (by omega), if_neg]
  simp

/-- The authentication code of a record. -/
def sentMac (prims : Prims) (s : RecordLayer) (ct : UInt8) (payload : Bytes) : Bytes :=
  prims.hmac s.hashAlg (s.writeMacSecret.takeD s.hashSize 0)
    (macInput s.writeSeqNum ct (toBe 2 s.tlsVersion) payload.length payload)

lemma plainFragment_eq (prims : Prims) (s : RecordLayer) (ct : UInt8)
    (random payload : Bytes) :
    plainFragment prims s ct random payload =
      s.explicitIv random ++ (payload ++ sentMac prims s ct payload ++
        padding s.ivSize
          ((s.explicitIv random).length + payload.length +
            (sentMac prims s ct payload).length)) := by
  simp [plainFragment, sentMac, add_assoc]

lemma explicitIv_of_protected (hprot : Protected s r ctx) (random : Bytes) :
    (s.explicitIv random).length =
      if s.ivSize ≠ 0 ∧ tlsVersion11 ≤ s.tlsVersion then s.ivSize else 0 := by
  unfold explicitIv
  by_cases h : s.ivSize ≠ 0 ∧ tlsVersion11 ≤ s.tlsVersion
  · rw [if_pos ⟨hprot.suite, h⟩, if_pos h, takeD_length]
  · rw [if_neg fun hall => h hall.2, if_neg h]
    rfl

/-- The receiver takes explicit IV and padding off. -/
lemma unwrapped_plainFragment (hversion : r.tlsVersion = s.tlsVersion) (hprot : Protected s r ctx)
    (ct : UInt8) (random payload : Bytes) :
    r.unwrapped (plainFragment prims s ct random payload) =
      (payload ++ sentMac prims s ct payload, false) := by
  have hiv := explicitIv_of_protected hprot random
  rw [plainFragment_eq, unwrapped, hprot.ivSize]
  by_cases hzero : s.ivSize = 0
  · rw [if_neg (by simp [hzero])] at hiv
    rw [if_pos hzero, length_eq_zero_iff.mp hiv, hzero]
    simp [padding]
  rw [if_neg hzero]
  have hremove : ∀ body, r.removeIv (s.explicitIv random ++ body) = (body, false) := by
    intro body
    rw [removeIv, hversion, hprot.ivSize]
    by_cases hold : tlsVersion11 ≤ s.tlsVersion
    · rw [if_pos ⟨hzero, hold⟩] at hiv
      rw [if_pos hold, if_neg (by rw [length_append, hiv]; omega), ← hiv, drop_left]
    · rw [if_neg fun hall => hold hall.2] at hiv
      rw [if_neg hold, length_eq_zero_iff.mp hiv]
      rfl
  obtain ⟨hpos, hmax, -⟩ := hprot.fits.bounds.resolve_left fun h => hzero h.1
  rw [hremove, if_neg (by simp)]
  exact removePadding_padding hpos hmax _ _

lemma removePadding_prefix (body : Bytes) : (removePadding body).1 <+: body := by
  unfold removePadding
  split
  · exact prefix_rfl
  dsimp only
  split
  · exact prefix_rfl
  · split
    · exact prefix_rfl
    · exact take_prefix _ _

/-- What decryption leaves in the buffer. -/
lemma take_decryptedInto {rl : RecordLayer} {plain : Bytes}
    (h : (rl.unwrapped plain).2 = false) (out : Bytes) {n : ℕ}
    (hn : n ≤ (rl.unwrapped plain).1.length) :
    (rl.decryptedInto plain out).take n = (rl.unwrapped plain).1.take n := by
  have hprefix : ∀ {a b c : Bytes}, a <+: b → n ≤ a.length → (b ++ c).take n = a.take n := by
    rintro a b c ⟨t, rfl⟩ hle
    rw [append_assoc, take_append_of_le_length hle]
  unfold unwrapped at h hn ⊢
  by_cases hzero : rl.ivSize = 0
  · rw [if_pos hzero] at hn ⊢
    rw [decryptedInto, if_neg fun hall => hall.1 hzero]
    exact hprefix prefix_rfl hn
  rw [if_neg hzero] at h hn ⊢
  by_cases hforce : (rl.removeIv plain).2
  · rw [if_pos hforce, hforce] at h
    cases h
  have hpre := removePadding_prefix (rl.removeIv plain).1
  unfold removeIv at hforce hpre hn ⊢
  unfold decryptedInto
  by_cases hold : tlsVersion11 ≤ rl.tlsVersion
  · rw [if_pos hold] at hforce hpre hn ⊢
    by_cases hshort : plain.length < rl.ivSize
    · rw [if_pos hshort] at hforce
      exact absurd rfl hforce
    · rw [if_neg hshort] at hpre hn ⊢
      rw [if_pos ⟨hzero, hold, by omega⟩]
      exact hprefix hpre hn
  · rw [if_neg hold] at hpre hn ⊢
    rw [if_neg fun hall => hold hall.2.1]
    exact hprefix hpre hn

/-- A fragment has whole blocks and a bounded length. -/
lemma length_plainFragment (hhmac : prims.HmacLength) (hprot : Protected s r ctx) (ct : UInt8)
    (random payload : Bytes) :
    (plainFragment prims s ct random payload).length % ctx.alg.blockLen = 0 ∧
      (plainFragment prims s ct random payload).length ≤ payload.length + 64 := by
  have hiv := explicitIv_of_protected hprot random
  have hmac : (sentMac prims s ct payload).length ≤ 32 := by
    rw [sentMac, hhmac _ _ _ hprot.hashed]
    cases s.hashAlg <;> decide
  set n :=
    (s.explicitIv random).length + payload.length + (sentMac prims s ct payload).length with hn
  have hlen : (plainFragment prims s ct random payload).length =
      n + (padding s.ivSize n).length := by
    rw [plainFragment_eq, ← hn]
    simp only [length_append]
    omega
  have hivle : (s.explicitIv random).length ≤ s.ivSize := by
    rw [hiv]
    split
    · exact le_rfl
    · exact zero_le _
  rcases hprot.fits.bounds with ⟨hzero, hone⟩ | ⟨hpos, hmax, hblock⟩
  · rw [show padding s.ivSize n = [] from if_pos hzero, length_nil] at hlen
    exact ⟨by rw [hone, mod_one], by omega⟩
  · obtain ⟨k, hk, hpad, hmod⟩ := padding_eq hpos n
    rw [hpad, length_replicate] at hlen
    exact ⟨by rw [hlen, ← hblock, hmod], by omega⟩

/-- What sending does: nothing, or it counts a record, which is protected unless the null suite is
in use. -/
inductive Sent (prims : Prims) (s : RecordLayer) (ct : UInt8) (random payload : Bytes) :
    RecordLayer → Option Bytes → Prop
  | failed : Sent prims s ct random payload s none
  | plain (hsuite : s.writeCipherSuite = tlsNullWithNullNull) : Sent prims s ct random payload
      { s with writeSeqNum := nextSeqNum s.writeSeqNum }
      (some (recordHeader ct s.tlsVersion payload.length ++ payload))
  | encrypted {ctx ctx' : CryptoCipher} {crypt : Bytes}
      (hsuite : s.writeCipherSuite ≠ tlsNullWithNullNull) (hctx : s.writeCbc = some ctx)
      (henc : cryptoCipherEncrypt prims.ciphers ctx (plainFragment prims s ct random payload) =
        some (ctx', crypt)) : Sent prims s ct random payload
      { s with writeSeqNum := nextSeqNum s.writeSeqNum, writeCbc := some ctx' }
      (some (recordHeader ct s.tlsVersion crypt.length ++ crypt))

lemma sent_of_send {sent : Option Bytes}
    (h : recordSend prims s ct bufSize random payload = (s', sent)) :
    Sent prims s ct (random.getD []) payload s' sent := by
  unfold recordSend at h
  dsimp only at h
  split_ifs at h with hsuite
  · cases h
    exact .failed
  · cases h
    exact .plain hsuite
  · cases h
    exact .failed
  · cases h
    exact .failed
  split at h
  · cases h
    exact .failed
  rename_i ctx' crypt hbind
  obtain ⟨ctx, hctx, henc⟩ := bind_eq_some_iff.mp hbind
  cases h
  exact .encrypted hsuite hctx henc

abbrev maxPayload : ℕ := 17403

/-- What a receiver does with a record that was sent to it. -/
structure Delivers (prims : Prims) (r r' : RecordLayer) (ct : UInt8) (payload rec : Bytes) :
    Prop where
  contentType : rec.getD 0 0 = ct
  header : tlsRecordHeaderLen ≤ rec.length
  /-- The record is taken whole, and the payload stands in the buffer of the caller. -/
  whole : ∀ tail out outLen, rec.length ≤ outLen → ∃ out',
    recordReceive prims r (rec ++ tail) out outLen = (r', .record rec.length payload.length, out') ∧
      out'.take payload.length = payload
  part : ∀ p, p <+: rec → p ≠ rec →
    ∀ out outLen, recordReceive prims r p out outLen = (r, .more, out)

/-- A record is delivered if its fragment is. -/
lemma delivers_of_fragment (hct : knownContentType ct) (hversion : version / 256 = 3)
    (hlen : fragment.length ≤ 18427) (hpayload : payload.length ≤ maxPayload)
    (h : ∀ out, ∃ out', receiveFragment prims r (recordHeader ct version fragment.length) fragment
        out = finishRecord s fragment.length payload.length out' ∧
      out'.take payload.length = payload) :
    Delivers prims r { s with readSeqNum := nextSeqNum s.readSeqNum } ct payload
      (recordHeader ct version fragment.length ++ fragment) := by
  refine ⟨rfl, by simp, fun tail out outLen hout => ?_, fun p hp hne out outLen =>
    recordReceive_of_part hversion hlen hp hne out outLen⟩
  have hfive : tlsRecordHeaderLen = 5 := rfl
  have hbound : payload.length ≤ 17403 := hpayload
  rw [length_append, length_recordHeader] at hout ⊢
  obtain ⟨out', hfragment, htake⟩ := h out
  refine ⟨out', ?_, htake⟩
  rw [recordReceive_of_header hct hversion hlen tail out (by omega), hfragment, finishRecord,
    if_neg (by omega)]

/-- The payload of a protected fragment stands in the buffer. -/
lemma receiveFragment_of_protected (hhmac : prims.HmacLength) (hsync : InSync s r)
    {ctx' : CryptoCipher} (hprot : Protected s r ctx) {random crypt : Bytes}
    (hdec : cryptoCipherDecrypt prims.ciphers ctx crypt =
      some (ctx', plainFragment prims s ct random payload)) (out : Bytes) :
    ∃ out', receiveFragment prims r (recordHeader ct s.tlsVersion crypt.length) crypt out =
        finishRecord { r with readCbc := some ctx' } crypt.length payload.length out' ∧
      out'.take payload.length = payload := by
  set input := macInput s.writeSeqNum ct (toBe 2 s.tlsVersion) payload.length payload
  set mac := sentMac prims s ct payload with hsent
  have hmac : mac.length = s.hashSize := hhmac _ _ _ hprot.hashed
  set plain := plainFragment prims s ct random payload with hplain
  have hread : r.readCipherSuite ≠ tlsNullWithNullNull := by
    rw [hsync.suite]
    exact hprot.suite
  have hbind : (r.readCbc.bind fun ctx => cryptoCipherDecrypt prims.ciphers ctx crypt) =
      some (ctx', plain) := by
    rw [hprot.read]
    exact hdec
  set r₁ : RecordLayer := { r with readCbc := some ctx' } with hr₁
  have hsize : r₁.hashSize = s.hashSize := by
    change r.hashAlg.size = s.hashAlg.size
    rw [hprot.hashAlg]
  have hunwrapped : r₁.unwrapped plain = (payload ++ mac, false) :=
    unwrapped_plainFragment hsync.version hprot ct random payload
  have hcut : (payload ++ mac).length - r₁.hashSize = payload.length := by
    rw [length_append, hmac, hsize, Nat.add_sub_cancel]
  have hpresented : r₁.presented (recordHeader ct s.tlsVersion crypt.length) (payload ++ mac) =
      some (input, mac) := by
    have hversion : ((recordHeader ct s.tlsVersion crypt.length).drop 1).take 2 =
        toBe 2 s.tlsVersion := take_left' (length_toBe 2 _)
    rw [presented, if_neg (by rw [length_append, hmac, hsize]; omega)]
    simp only [hcut, take_left, drop_left, hversion]
    rw [show r₁.readSeqNum = s.writeSeqNum from hsync.seqNum]
    rfl
  have hok : r₁.macOk prims input mac := by
    rw [macOk, hsize, hsent, sentMac, beq_iff_eq]
    rw [show r₁.hashAlg = s.hashAlg from hprot.hashAlg,
      show r₁.readMacSecret = s.writeMacSecret from hprot.macSecret]
  refine ⟨r₁.decryptedInto plain out, ?_, ?_⟩
  · rw [receiveFragment, if_neg hread, hbind]
    dsimp only
    rw [← hr₁, hunwrapped, hpresented]
    dsimp only
    rw [hok, hcut, if_neg (by simp)]
  · have hfine : (r₁.unwrapped plain).2 = false := by rw [hunwrapped]
    have hle : payload.length ≤ (r₁.unwrapped plain).1.length := by
      rw [hunwrapped, length_append]
      omega
    rw [take_decryptedInto hfine out hle, hunwrapped, take_left]

variable (hciphers : prims.ciphers.Correct) (hhmac : prims.HmacLength) (hsync : InSync s r)

include hciphers hhmac hsync

/-- What is sent decrypts to the plain fragment. -/
lemma decrypts_of_send (hsuite : s.writeCipherSuite ≠ tlsNullWithNullNull)
    (h : recordSend prims s ct bufSize random payload = (s', some rec)) :
    ∃ ctx ctx' crypt, Protected s r ctx ∧ rec = recordHeader ct s.tlsVersion crypt.length ++ crypt ∧
      crypt.length ≤ payload.length + 64 ∧
      cryptoCipherDecrypt prims.ciphers ctx crypt =
        some (ctx', plainFragment prims s ct (random.getD []) payload) ∧
      Protected s' { r with readCbc := some ctx', readSeqNum := nextSeqNum r.readSeqNum } ctx' ∧
      s' = { s with writeSeqNum := nextSeqNum s.writeSeqNum, writeCbc := some ctx' } := by
  obtain _ | hnull | @⟨ctx, ctx', crypt, -, hctx, henc⟩ := sent_of_send h
  · exact absurd hnull hsuite
  obtain ⟨ctx₁, hprot⟩ := hsync.keys hsuite
  cases hctx.symm.trans hprot.write
  obtain ⟨hmod, hmax⟩ := length_plainFragment hhmac hprot ct (random.getD []) payload
  obtain ⟨ctx₂, crypt₂, henc₂, hdec, hlen₂, hwf, hsame⟩ :=
    cryptoCipherDecrypt_encrypt hciphers hprot.wf hprot.fits.alg hmod
  cases henc.symm.trans henc₂
  have hfits : Fits s.ivSize ctx' := by
    rw [Fits, hsame]
    exact hprot.fits
  exact ⟨ctx, ctx', crypt, hprot, rfl, by omega, hdec,
    ⟨hsuite, hprot.hashAlg, hprot.hashed, hprot.macSecret, hprot.ivSize, rfl, rfl, hwf, hfits⟩, rfl⟩

/-- The receiver takes a record that a sender in step has sent, and stays in step. -/
lemma recordReceive_of_send (hct : knownContentType ct) (hpayload : payload.length ≤ maxPayload)
    (h : recordSend prims s ct bufSize random payload = (s', some rec)) :
    ∃ r', InSync s' r' ∧ Delivers prims r r' ct payload rec := by
  have hbound : payload.length ≤ 17403 := hpayload
  by_cases hsuite : s.writeCipherSuite = tlsNullWithNullNull
  · obtain _ | _ | ⟨hne⟩ := sent_of_send h
    swap
    · exact absurd hsuite hne
    refine ⟨{ r with readSeqNum := nextSeqNum r.readSeqNum },
      ⟨hsync.version, hsync.supported, hsync.suite, congrArg nextSeqNum hsync.seqNum,
        absurd hsuite⟩,
      delivers_of_fragment hct hsync.supported (by omega) hpayload fun out =>
        ⟨overwrite payload out, ?_, by rw [overwrite, take_left]⟩⟩
    rw [receiveFragment, if_pos (by rw [hsync.suite, hsuite])]
  · obtain ⟨ctx, ctx', crypt, hprot, rfl, hmax, hdec, hprot', rfl⟩ :=
      decrypts_of_send hciphers hhmac hsync hsuite h
    exact ⟨{ r with readCbc := some ctx', readSeqNum := nextSeqNum r.readSeqNum },
      ⟨hsync.version, hsync.supported, hsync.suite, congrArg nextSeqNum hsync.seqNum,
        fun _ => ⟨ctx', hprot'⟩⟩,
      delivers_of_fragment hct hsync.supported (by omega) hpayload
        (receiveFragment_of_protected hhmac hsync hprot hdec)⟩

/-- A payload over the limit is sent, and refused by the receiver. -/
lemma recordReceive_oversized (hct : knownContentType ct) (hmin : maxPayload < payload.length)
    (hmaxLen : payload.length ≤ 18363) (hsuite : s.writeCipherSuite ≠ tlsNullWithNullNull)
    (h : recordSend prims s ct bufSize random payload = (s', some rec)) (out : Bytes)
    (hout : rec.length ≤ outLen) :
    (recordReceive prims r rec out outLen).2.1 = .failed .recordOverflow := by
  have hfive : tlsRecordHeaderLen = 5 := rfl
  have hbound : 17403 < payload.length := hmin
  obtain ⟨ctx, ctx', crypt, hprot, rfl, hmax, hdec, -, -⟩ :=
    decrypts_of_send hciphers hhmac hsync hsuite h
  rw [length_append, length_recordHeader] at hout
  obtain ⟨out', hfragment, -⟩ := receiveFragment_of_protected hhmac hsync hprot hdec out
  rw [← append_nil (recordHeader ct s.tlsVersion crypt.length ++ crypt),
    recordReceive_of_header hct hsync.supported (by omega) [] out (by omega), hfragment,
    finishRecord, if_pos (by omega)]

end RecordLayer

end Hostapd.Tls
