import Hostapd.Foundation.Octets

/-!
# EAPOL-Key frames and the pairwise key hierarchy

What the authenticator and the supplicant share: cipher suites and key management suites, the bits
of the Key Information field, the layout of an EAPOL-Key frame, the derivation of the pairwise
transient key and the calculation of the message integrity code.

The cryptographic primitives are a parameter (`Crypto`). Replay counters are natural numbers, the
value of their eight octets; `memcmp` on two of them is the order of the values.

The model is of a build with management frame protection, the Suite B suites and PeerKey, and
without the fast transition and P2P options.
-/

namespace Hostapd.Wpa

open Wire List

/-! ## Suites -/

/-- The cipher suites (`WPA_CIPHER_*`). -/
inductive Cipher
  | none
  | wep40
  | wep104
  | tkip
  | ccmp
  | aes128Cmac
  | gcmp
  | sms4
  | gcmp256
  | ccmp256
  | bipGmac128
  | bipGmac256
  | bipCmac256
  | gtkNotUsed
deriving DecidableEq

/-- The algorithms a key is handed to the driver for (`enum wpa_alg`). -/
inductive Alg
  | tkip
  | ccmp
  | igtk
  | gcmp
  | gcmp256
  | ccmp256
  | bipGmac128
  | bipGmac256
  | bipCmac256
deriving DecidableEq

namespace Cipher

/-- The length of a key of the suite (`wpa_cipher_key_len`). -/
def keyLen : Cipher → ℕ
  | ccmp256 | gcmp256 | bipGmac256 | bipCmac256 => 32
  | ccmp | gcmp | aes128Cmac | bipGmac128 => 16
  | tkip => 32
  | _ => 0

/-- The length of a receive sequence counter of the suite (`wpa_cipher_rsc_len`). -/
def rscLen : Cipher → ℕ
  | ccmp256 | gcmp256 | ccmp | gcmp | tkip => 6
  | _ => 0

/-- The driver's algorithm for the suite, none for `WPA_ALG_NONE` (`wpa_cipher_to_alg`). -/
def toAlg : Cipher → Option Alg
  | ccmp256 => some .ccmp256
  | gcmp256 => some .gcmp256
  | ccmp => some .ccmp
  | gcmp => some .gcmp
  | tkip => some .tkip
  | aes128Cmac => some .igtk
  | bipGmac128 => some .bipGmac128
  | bipGmac256 => some .bipGmac256
  | bipCmac256 => some .bipCmac256
  | _ => .none

/-- The suite can protect unicast traffic (`wpa_cipher_valid_pairwise`). -/
def validPairwise : Cipher → Bool
  | ccmp256 | gcmp256 | ccmp | gcmp | tkip => true
  | _ => false

/-- The suite can protect group addressed management frames (`wpa_cipher_valid_mgmt_group`). -/
def validMgmtGroup : Cipher → Bool
  | aes128Cmac | bipGmac128 | bipGmac256 | bipCmac256 => true
  | _ => false

end Cipher

/-- The authentication and key management suites (`WPA_KEY_MGMT_*`). -/
inductive KeyMgmt
  | ieee8021x
  | psk
  | ieee8021xSha256
  | pskSha256
  | sae
  | cckm
  | osen
  | ieee8021xSuiteB
  | ieee8021xSuiteB192
deriving DecidableEq

namespace KeyMgmt

/-- The suite uses SHA-256 (`wpa_key_mgmt_sha256`). -/
def sha256 : KeyMgmt → Bool
  | pskSha256 | ieee8021xSha256 | osen | ieee8021xSuiteB => true
  | _ => false

/-- A Suite B suite (`wpa_key_mgmt_suite_b`). -/
def suiteB : KeyMgmt → Bool
  | ieee8021xSuiteB | ieee8021xSuiteB192 => true
  | _ => false

/-- The length of the key confirmation key (`wpa_kck_len`). -/
def kckLen : KeyMgmt → ℕ
  | ieee8021xSuiteB192 => 24
  | _ => 16

/-- The length of the key encryption key (`wpa_kek_len`). -/
def kekLen : KeyMgmt → ℕ
  | ieee8021xSuiteB192 => 32
  | _ => 16

/-- The length of the message integrity code (`wpa_mic_len`). -/
def micLen : KeyMgmt → ℕ
  | ieee8021xSuiteB192 => 24
  | _ => 16

end KeyMgmt

/-! ## Key information -/

/-- The bits of the Key Information field (`WPA_KEY_INFO_*`). -/
structure KeyInfo where
  /-- The key descriptor version (`WPA_KEY_INFO_TYPE_MASK`). -/
  ver : BitVec 3 := 0
  /-- Pairwise, not group (`WPA_KEY_INFO_KEY_TYPE`). -/
  keyType : Bool := false
  /-- The key index, used by WPA only (`WPA_KEY_INFO_KEY_INDEX_MASK`). -/
  keyIndex : BitVec 2 := 0
  /-- Install, or transmit for a group key (`WPA_KEY_INFO_INSTALL`, `WPA_KEY_INFO_TXRX`). -/
  install : Bool := false
  /-- An answer is expected (`WPA_KEY_INFO_ACK`). -/
  ack : Bool := false
  /-- The frame carries a message integrity code (`WPA_KEY_INFO_MIC`). -/
  mic : Bool := false
  /-- The initial key exchange is complete (`WPA_KEY_INFO_SECURE`). -/
  secure : Bool := false
  /-- A Michael failure is reported (`WPA_KEY_INFO_ERROR`). -/
  error : Bool := false
  /-- The supplicant asks for a handshake (`WPA_KEY_INFO_REQUEST`). -/
  request : Bool := false
  /-- The key data is encrypted (`WPA_KEY_INFO_ENCR_KEY_DATA`). -/
  encrKeyData : Bool := false
  /-- A message of the SMK handshake (`WPA_KEY_INFO_SMK_MESSAGE`). -/
  smkMessage : Bool := false
deriving DecidableEq

namespace KeyInfo

abbrev akmDefined : BitVec 3 := 0

abbrev hmacMd5Rc4 : BitVec 3 := 1

abbrev hmacSha1Aes : BitVec 3 := 2

abbrev aes128Cmac : BitVec 3 := 3

/-- The value of the field. -/
def toNat (k : KeyInfo) : ℕ :=
  k.ver.toNat + 8 * k.keyType.toNat + 16 * k.keyIndex.toNat + 64 * k.install.toNat +
    128 * k.ack.toNat + 256 * k.mic.toNat + 512 * k.secure.toNat + 1024 * k.error.toNat +
    2048 * k.request.toNat + 4096 * k.encrKeyData.toNat + 8192 * k.smkMessage.toNat

/-- The bits of a 16-bit field; the two reserved ones are ignored. -/
def ofNat (n : ℕ) : KeyInfo where
  ver := BitVec.ofNat 3 n
  keyType := n / 8 % 2 == 1
  keyIndex := BitVec.ofNat 2 (n / 16)
  install := n / 64 % 2 == 1
  ack := n / 128 % 2 == 1
  mic := n / 256 % 2 == 1
  secure := n / 512 % 2 == 1
  error := n / 1024 % 2 == 1
  request := n / 2048 % 2 == 1
  encrKeyData := n / 4096 % 2 == 1
  smkMessage := n / 8192 % 2 == 1

private lemma bit_eq {b : Bool} {m : ℕ} (h : m % 2 = b.toNat) : (m % 2 == 1) = b := by
  cases b <;> simp_all

lemma bits_le (k : KeyInfo) : k.keyType.toNat ≤ 1 ∧ k.install.toNat ≤ 1 ∧ k.ack.toNat ≤ 1 ∧
    k.mic.toNat ≤ 1 ∧ k.secure.toNat ≤ 1 ∧ k.error.toNat ≤ 1 ∧ k.request.toNat ≤ 1 ∧
    k.encrKeyData.toNat ≤ 1 ∧ k.smkMessage.toNat ≤ 1 := by
  simp only [Bool.toNat_le, and_self]

lemma toNat_lt (k : KeyInfo) : k.toNat < 16384 := by
  have hbits := k.bits_le
  unfold toNat
  omega

@[simp] lemma ofNat_toNat (k : KeyInfo) : ofNat k.toNat = k := by
  have hbits := k.bits_le
  obtain ⟨ver, keyType, keyIndex, install, ack, mic, secure, error, request, encr, smk⟩ := k
  simp only [toNat] at *
  simp only [ofNat, KeyInfo.mk.injEq]
  refine ⟨?_, bit_eq ?_, ?_, bit_eq ?_, bit_eq ?_, bit_eq ?_, bit_eq ?_, bit_eq ?_, bit_eq ?_,
    bit_eq ?_, bit_eq ?_⟩
  · apply BitVec.eq_of_toNat_eq
    rw [BitVec.toNat_ofNat]
    omega
  · omega
  · apply BitVec.eq_of_toNat_eq
    rw [BitVec.toNat_ofNat]
    omega
  all_goals omega

end KeyInfo

/-! ## EAPOL-Key frames -/

/-- The type octet of an EAPOL-Key frame (`IEEE802_1X_TYPE_EAPOL_KEY`). -/
def eapolKeyType : UInt8 := 3

/-- The key descriptor type of RSN (`EAPOL_KEY_TYPE_RSN`). -/
def keyTypeRsn : UInt8 := 2

/-- The key descriptor type of WPA (`EAPOL_KEY_TYPE_WPA`). -/
def keyTypeWpa : UInt8 := 254

abbrev Mac := Octets 6

abbrev Nonce := Octets 32

/-- An EAPOL-Key frame: the IEEE 802.1X header and `struct wpa_eapol_key` with its key data. -/
structure EapolKey where
  version : UInt8 := 0
  type : UInt8 := 0
  keyInfo : KeyInfo := {}
  keyLength : UInt16 := 0
  replayCounter : ℕ := 0
  keyNonce : Nonce := Octets.zero 32
  keyIv : Octets 16 := Octets.zero 16
  keyRsc : Octets 8 := Octets.zero 8
  keyId : Octets 8 := Octets.zero 8
  keyMic : Bytes := []
  keyData : Bytes := []
  trailer : Bytes := []
deriving DecidableEq

namespace EapolKey

variable (micLen : ℕ)

/-- The length of `struct wpa_eapol_key`, or of `struct wpa_eapol_key_192` (`keyhdrlen`). -/
def hdrLen : ℕ := 79 + micLen

/-- The octets of the frame up to the message integrity code. -/
def front (f : EapolKey) : Bytes :=
  [f.version, eapolKeyType] ++
    toBe 2 (79 + f.keyMic.length + f.keyData.length + f.trailer.length) ++ [f.type] ++
    toBe 2 f.keyInfo.toNat ++ be16 f.keyLength ++ toBe 8 f.replayCounter ++ f.keyNonce.val ++
    f.keyIv.val ++ f.keyRsc.val ++ f.keyId.val

/-- The octets of a frame. -/
def encode (f : EapolKey) : Bytes :=
  f.front ++ f.keyMic ++ toBe 2 f.keyData.length ++ f.keyData ++ f.trailer

def keyDataLength (buf : Bytes) : ℕ := beNat ((buf.drop (81 + micLen)).take 2)

/-- The fields of an EAPOL-Key frame, read at their offsets from the start of the IEEE 802.1X
header. -/
def decode (buf : Bytes) : EapolKey where
  version := buf.getD 0 0
  type := buf.getD 4 0
  keyInfo := KeyInfo.ofNat (beNat ((buf.drop 5).take 2))
  keyLength := ofBe16 (buf.drop 7)
  replayCounter := beNat ((buf.drop 9).take 8)
  keyNonce := Octets.ofList 32 (buf.drop 17)
  keyIv := Octets.ofList 16 (buf.drop 49)
  keyRsc := Octets.ofList 8 (buf.drop 65)
  keyId := Octets.ofList 8 (buf.drop 73)
  keyMic := (buf.drop 81).take micLen
  keyData := (buf.drop (83 + micLen)).take (keyDataLength micLen buf)
  trailer := (buf.drop (83 + micLen)).drop (keyDataLength micLen buf)

/-- The frame with the message integrity code cleared, the octets it is calculated over. -/
def clearMic (buf : Bytes) : Bytes :=
  buf.take 81 ++ replicate micLen 0 ++ buf.drop (81 + micLen)

/-- A frame whose counters and lengths fit their fields. -/
structure Fits (f : EapolKey) : Prop where
  replayCounter_lt : f.replayCounter < 256 ^ 8
  keyData_lt : f.keyData.length < 256 ^ 2

private lemma drop_field {a b l : Bytes} {k : ℕ} (m : ℕ) (h : l.drop k = a ++ b)
    (hm : k + a.length = m) : l.drop m = b := by
  rw [← hm, ← drop_drop, h, drop_left]

/-- A frame is read as it was written. -/
lemma decode_encode {f : EapolKey} (h : f.Fits) : decode f.keyMic.length f.encode = f := by
  have hinfo : f.keyInfo.toNat % 256 ^ 2 = f.keyInfo.toNat :=
    Nat.mod_eq_of_lt (f.keyInfo.toNat_lt.trans (by norm_num))
  have hcounter : f.replayCounter % 256 ^ 8 = f.replayCounter :=
    Nat.mod_eq_of_lt h.replayCounter_lt
  have hlen : f.keyData.length % 256 ^ 2 = f.keyData.length := Nat.mod_eq_of_lt h.keyData_lt
  have hbe : ∀ (k n : ℕ) (t : Bytes), (toBe k n ++ t).take k = toBe k n := by
    intro k n t
    rw [take_append_of_le_length (by simp), take_of_length_le (by simp)]
  -- The frame from each offset on: what is left of the encoding once the fields before are cut.
  have h0 : f.encode.drop 0 = [f.version, eapolKeyType] ++
      (toBe 2 (79 + f.keyMic.length + f.keyData.length + f.trailer.length) ++ ([f.type] ++
      (toBe 2 f.keyInfo.toNat ++ (be16 f.keyLength ++ (toBe 8 f.replayCounter ++ (f.keyNonce.val ++
      (f.keyIv.val ++ (f.keyRsc.val ++ (f.keyId.val ++ (f.keyMic ++
      (toBe 2 f.keyData.length ++ (f.keyData ++ f.trailer)))))))))))) := by
    simp [encode, front]
  have h2 := drop_field 2 h0 rfl
  have h4 := drop_field 4 h2 (by simp)
  have h5 := drop_field 5 h4 rfl
  have h7 := drop_field 7 h5 (by simp)
  have h9 := drop_field 9 h7 (by simp)
  have h17 := drop_field 17 h9 (by simp)
  have h49 := drop_field 49 h17 (by simp)
  have h65 := drop_field 65 h49 (by simp)
  have h73 := drop_field 73 h65 (by simp)
  have h81 := drop_field 81 h73 (by simp)
  have hmic := drop_field (81 + f.keyMic.length) h81 rfl
  have hdata := drop_field (83 + f.keyMic.length) hmic (by simp; omega)
  have htype : f.encode.getD 4 0 = f.type := by
    rfl
  have hversion : f.encode.getD 0 0 = f.version := rfl
  have hkdl : keyDataLength f.keyMic.length f.encode = f.keyData.length := by
    rw [keyDataLength, hmic, hbe, beNat_toBe, hlen]
  rw [decode, h5, h7, h9, h17, h49, h65, h73, h81, hdata, hkdl, hbe, hbe, beNat_toBe,
    beNat_toBe, hinfo, hcounter, htype, hversion]
  simp

end EapolKey

/-! ## Keys -/

/-- The pairwise transient key (`struct wpa_ptk`). -/
structure Ptk where
  kck : Bytes := []
  kek : Bytes := []
  tk : Bytes := []
deriving DecidableEq

/-- The label a key hierarchy is expanded with: "Pairwise key expansion" or "Peer key expansion". -/
inductive Label
  | pairwise
  | peer
deriving DecidableEq

/-- The cryptographic primitives. -/
structure Crypto where
  /-- The keyed hash of a descriptor version over a frame (`wpa_eapol_key_mic`), none for a
  version that has no hash. -/
  eapolKeyMic : Bytes → KeyMgmt → BitVec 3 → Bytes → Option Bytes
  /-- The pseudorandom function of the suite (`sha1_prf`, `sha256_prf`, `sha384_prf`): the key, the
  label, the data and the number of octets to produce. -/
  prf : KeyMgmt → Bytes → Label → Bytes → ℕ → Bytes
  aesWrap : Bytes → Bytes → Option Bytes
  aesUnwrap : Bytes → Bytes → Option Bytes
  /-- RC4 after 256 skipped octets (`rc4_skip`). -/
  rc4Skip : Bytes → Bytes → Bytes

namespace Crypto

/-- The content of the MIC field after the calculation: cleared, and then written if the hash is
calculated at all. -/
def micField (crypto : Crypto) (kck : Bytes) (akmp : KeyMgmt) (ver : BitVec 3)
    (buf : Bytes) : Bytes :=
  ((crypto.eapolKeyMic kck akmp ver (EapolKey.clearMic akmp.micLen buf)).getD []).takeD
    akmp.micLen 0

@[simp] lemma length_micField (crypto : Crypto) (kck : Bytes) (akmp : KeyMgmt) (ver : BitVec 3)
    (buf : Bytes) : (crypto.micField kck akmp ver buf).length = akmp.micLen :=
  takeD_length _ _ _

/-- Derive the pairwise transient key (`wpa_pmk_to_ptk`). -/
def pmkToPtk (crypto : Crypto) (pmk : Bytes) (label : Label) (addr1 addr2 : Mac)
    (nonce1 nonce2 : Nonce) (akmp : KeyMgmt) (cipher : Cipher) : Ptk :=
  let data := minMax addr1.val addr2.val ++ minMax nonce1.val nonce2.val
  let tmp := crypto.prf akmp pmk label data (akmp.kckLen + akmp.kekLen + cipher.keyLen)
  { kck := tmp.take akmp.kckLen
    kek := (tmp.drop akmp.kckLen).take akmp.kekLen
    tk := (tmp.drop (akmp.kckLen + akmp.kekLen)).take cipher.keyLen }

/-- Primitives that can be evaluated, to run the model on concrete inputs. -/
def sample : Crypto where
  eapolKeyMic kck _ _ _ := some kck
  prf _ pmk _ data len :=
    (range len).map fun i =>
      data.getD (12 + i % 32) 0 + 3 * data.getD (44 + i % 32) 0 + pmk.getD 0 0
  aesWrap _ plain := some (plain ++ replicate 8 0)
  aesUnwrap _ wrapped := some (wrapped.take (wrapped.length - 8))
  rc4Skip _ data := data

end Crypto

/-- The protocol a station uses (`WPA_PROTO_*`). -/
inductive Proto
  | wpa
  | rsn
  | osen
deriving DecidableEq

end Hostapd.Wpa
