import Hostapd.Ft.Ies

/-!
# Fast transition: keys and frames between key holders

The derivations of `common/wpa_common.c`: PMK-R0, PMK-R1 for one R1 key holder, the pairwise
transient key, and the message integrity code of a Reassociation Request. The primitives are a
parameter (`Prims`).

The frames by which an R1 key holder pulls a PMK-R1, by which it is answered, and by which an R0 key
holder pushes one (`ap/wpa_auth.h`). Their data is wrapped with the key that the two holders share;
the three kinds have different lengths, so that one cannot be taken for another.
-/

namespace Hostapd.Ft

open Wire Wpa List

/-- A pairwise master key (`PMK_LEN`). -/
abbrev Pmk := Octets 32

/-- The name of a key (`WPA_PMK_NAME_LEN`). -/
abbrev KeyName := Octets 16

/-- The identity of an R1 key holder (`FT_R1KH_ID_LEN`). -/
abbrev R1khId := Octets 6

/-- The cryptographic primitives. -/
structure Prims where
  /-- The pseudorandom function: key, label, data and the number of octets to produce
  (`sha256_prf`). -/
  sha256Prf : Bytes → Bytes → Bytes → ℕ → Bytes
  /-- The hash (`sha256_vector`). -/
  sha256 : Bytes → Octets 32
  /-- The message integrity code (`omac1_aes_128_vector`). -/
  omac1Aes128 : Bytes → Bytes → Octets 16
  aesWrap : Octets 16 → Bytes → Bytes
  /-- AES key unwrap, none if the integrity check fails (`aes_unwrap`). -/
  aesUnwrap : Octets 16 → Bytes → Option Bytes
  length_aesUnwrap : ∀ {key c p}, aesUnwrap key c = some p → p.length + 8 = c.length

namespace Prims

variable (prims : Prims)

/-- `"FT-R0"`. -/
def labelR0 : Bytes := [0x46, 0x54, 0x2d, 0x52, 0x30]

/-- `"FT-R0N"`. -/
def labelR0n : Bytes := labelR0 ++ [0x4e]

/-- `"FT-R1"`. -/
def labelR1 : Bytes := [0x46, 0x54, 0x2d, 0x52, 0x31]

/-- `"FT-R1N"`. -/
def labelR1n : Bytes := labelR1 ++ [0x4e]

/-- `"FT-PTK"`. -/
def labelPtk : Bytes := [0x46, 0x54, 0x2d, 0x50, 0x54, 0x4b]

/-- PMK-R0 and PMKR0Name (`wpa_derive_pmk_r0`). -/
def derivePmkR0 (xxkey ssid : Bytes) (mdid : Octets 2) (r0khId : Bytes) (s0khId : Mac) :
    Pmk × KeyName :=
  let buf := UInt8.ofNat ssid.length :: ssid ++ mdid.val ++
    UInt8.ofNat r0khId.length :: r0khId ++ s0khId.val
  let r0KeyData := prims.sha256Prf xxkey labelR0 buf 48
  (Octets.ofList 32 r0KeyData,
    Octets.ofList 16 (prims.sha256 (labelR0n ++ (r0KeyData.drop 32).take 16)).val)

/-- PMKR1Name (`wpa_derive_pmk_r1_name`). -/
def derivePmkR1Name (pmkR0Name : KeyName) (r1khId : R1khId) (s1khId : Mac) : KeyName :=
  Octets.ofList 16 (prims.sha256 (labelR1n ++ pmkR0Name.val ++ r1khId.val ++ s1khId.val)).val

/-- PMK-R1 and PMKR1Name (`wpa_derive_pmk_r1`). -/
def derivePmkR1 (pmkR0 : Pmk) (pmkR0Name : KeyName) (r1khId : R1khId) (s1khId : Mac) :
    Pmk × KeyName :=
  (Octets.ofList 32 (prims.sha256Prf pmkR0.val labelR1 (r1khId.val ++ s1khId.val) 32),
    prims.derivePmkR1Name pmkR0Name r1khId s1khId)

/-- The cipher suite of a bit, none if it is not the bit of one suite (`WPA_CIPHER_*`). -/
def cipherOfBit (bits : UInt16) : Option Cipher :=
  match bits.toNat with
  | 0x0001 => some .none
  | 0x0002 => some .wep40
  | 0x0004 => some .wep104
  | 0x0008 => some .tkip
  | 0x0010 => some .ccmp
  | 0x0020 => some .aes128Cmac
  | 0x0040 => some .gcmp
  | 0x0080 => some .sms4
  | 0x0100 => some .gcmp256
  | 0x0200 => some .ccmp256
  | 0x0800 => some .bipGmac128
  | 0x1000 => some .bipGmac256
  | 0x2000 => some .bipCmac256
  | 0x4000 => some .gtkNotUsed
  | _ => none

/-- The length of a key of the suite of a bit (`wpa_cipher_key_len`). -/
def cipherKeyLen (bits : UInt16) : ℕ := ((cipherOfBit bits).map Cipher.keyLen).getD 0

/-- The pairwise transient key (`wpa_pmk_r1_to_ptk`).  PTKName is left out: nothing reads it. -/
def pmkR1ToPtk (pmkR1 : Pmk) (sNonce aNonce : Nonce) (staAddr bssid : Mac) (akmp : KeyMgmt)
    (cipher : UInt16) : Ptk :=
  let buf := sNonce.val ++ aNonce.val ++ bssid.val ++ staAddr.val
  let tmp := prims.sha256Prf pmkR1.val labelPtk buf
    (akmp.kckLen + akmp.kekLen + cipherKeyLen cipher)
  { kck := tmp.take akmp.kckLen
    kek := (tmp.drop akmp.kckLen).take akmp.kekLen
    tk := (tmp.drop (akmp.kckLen + akmp.kekLen)).take (cipherKeyLen cipher) }

/-- The message integrity code over the elements of a frame (`wpa_ft_mic`). -/
def ftMic (kck : Bytes) (staAddr apAddr : Mac) (transactionSeqnum : UInt8)
    (mdie ftie rsnie : Bytes) (ric : Option Bytes) : Option (Octets 16) :=
  if kck.length ≠ 16 then none
  else if ftie.length < 2 + ftieLen then none
  else
    some (prims.omac1Aes128 kck (staAddr.val ++ apAddr.val ++ transactionSeqnum :: rsnie ++ mdie ++
      ftie.take 4 ++ List.replicate 16 0 ++ ftie.drop 20 ++ ric.getD []))

/-- Primitives that can be evaluated, to run the model on concrete inputs. -/
def sample : Prims where
  sha256Prf key _ data len :=
    List.replicate len (key.getD 0 0 + data.getD 0 0 + 3 * data.getD 32 0)
  sha256 data := Octets.ofList 32 (data.drop (data.length - 16))
  omac1Aes128 key _ := Octets.ofList 16 key
  aesWrap key plain := plain ++ List.replicate 8 (key.val.getD 0 0)
  aesUnwrap key c :=
    if 8 ≤ c.length ∧ c.drop (c.length - 8) = List.replicate 8 (key.val.getD 0 0) then
      some (c.take (c.length - 8))
    else none
  length_aesUnwrap := by
    intro key c p h
    split at h
    · next hc =>
      have hp : c.take (c.length - 8) = p := Option.some.inj h
      rw [← hp, List.length_take]
      omega
    · cases h

end Prims

/-! ## The supplicant's keys -/

/-- The keys of a station (`struct wpa_sm`, the part of fast transition). -/
structure Supplicant where
  ownAddr : Mac
  r1khId : R1khId
  pmkR0 : Pmk
  pmkR0Name : KeyName

/-- PMK-R1 and PMKR1Name as the station derives them when it moves to an access point
(`wpa_ft_process_response`). -/
def Supplicant.derivePmkR1 (prims : Prims) (sm : Supplicant) : Pmk × KeyName :=
  prims.derivePmkR1 sm.pmkR0 sm.pmkR0Name sm.r1khId sm.ownAddr

/-- `sizeof(struct ft_rrb_frame)`. -/
def rrbHeaderLen : ℕ := 10

def packetRequest : UInt8 := 0

/-- `FT_PACKET_R0KH_R1KH_PULL`. -/
def packetPull : UInt8 := 200

/-- `FT_PACKET_R0KH_R1KH_RESP`. -/
def packetResp : UInt8 := 201

/-- `FT_PACKET_R0KH_R1KH_PUSH`. -/
def packetPush : UInt8 := 202

/-- The header of a frame (`struct ft_rrb_frame`). -/
def rrbHeader (packetType : UInt8) (len : ℕ) (apAddress : Mac) : Bytes :=
  1 :: packetType :: (putLe16 len ++ apAddress.val)

/-! ## Pull -/

/-- The data of a pull (`struct ft_r0kh_r1kh_pull_frame`). -/
structure PullData where
  nonce : Octets 16
  pmkR0Name : KeyName
  r1khId : R1khId
  s1khId : Mac

namespace PullData

/-- `FT_R0KH_R1KH_PULL_DATA_LEN` with the padding. -/
def len : ℕ := 48

/-- The octets of a pull. -/
def encode (d : PullData) : Bytes :=
  d.nonce.val ++ (d.pmkR0Name.val ++ (d.r1khId.val ++ (d.s1khId.val ++ replicate 4 0)))

def decode (l : Bytes) : PullData where
  nonce := Octets.ofList 16 l
  pmkR0Name := Octets.ofList 16 (l.drop 16)
  r1khId := Octets.ofList 6 (l.drop 32)
  s1khId := Octets.ofList 6 (l.drop 38)

@[simp] lemma length_encode (d : PullData) : d.encode.length = len := by
  simp [encode, len]

@[simp] lemma decode_encode (d : PullData) : decode d.encode = d := by
  simp only [decode, encode, drop_append, Octets.length_val, Octets.ofList_append]
  simp [drop_of_length_le]

end PullData

/-! ## Response -/

/-- The data of the answer to a pull (`struct ft_r0kh_r1kh_resp_frame`). -/
structure RespData where
  nonce : Octets 16
  r1khId : R1khId
  s1khId : Mac
  pmkR1 : Pmk
  pmkR1Name : KeyName
  pairwise : UInt16
deriving DecidableEq

namespace RespData

/-- `FT_R0KH_R1KH_RESP_DATA_LEN` with the padding. -/
def len : ℕ := 80

def encode (d : RespData) : Bytes :=
  d.nonce.val ++ (d.r1khId.val ++ (d.s1khId.val ++ (d.pmkR1.val ++ (d.pmkR1Name.val ++
    (putLe16 d.pairwise.toNat ++ replicate 2 0)))))

def decode (l : Bytes) : RespData where
  nonce := Octets.ofList 16 l
  r1khId := Octets.ofList 6 (l.drop 16)
  s1khId := Octets.ofList 6 (l.drop 22)
  pmkR1 := Octets.ofList 32 (l.drop 28)
  pmkR1Name := Octets.ofList 16 (l.drop 60)
  pairwise := UInt16.ofNat (getLe16 (l.drop 76))

@[simp] lemma length_encode (d : RespData) : d.encode.length = len := by
  simp [encode, len]

@[simp] lemma decode_encode (d : RespData) : decode d.encode = d := by
  have hpairwise : d.pairwise.toNat < 65536 := d.pairwise.toNat_lt
  simp only [decode, encode, drop_append, Octets.length_val, Octets.ofList_append]
  simp [drop_of_length_le, getLe16_putLe16_append hpairwise]

end RespData

/-! ## Push -/

/-- The data of a push (`struct ft_r0kh_r1kh_push_frame`). -/
structure PushData where
  timestamp : UInt32
  r1khId : R1khId
  s1khId : Mac
  pmkR0Name : KeyName
  pmkR1 : Pmk
  pmkR1Name : KeyName
  pairwise : UInt16
deriving DecidableEq

namespace PushData

/-- `FT_R0KH_R1KH_PUSH_DATA_LEN` with the padding. -/
def len : ℕ := 88

def encode (d : PushData) : Bytes :=
  putLe32 d.timestamp.toNat ++ (d.r1khId.val ++ (d.s1khId.val ++ (d.pmkR0Name.val ++
    (d.pmkR1.val ++ (d.pmkR1Name.val ++ (putLe16 d.pairwise.toNat ++ replicate 6 0))))))

def decode (l : Bytes) : PushData where
  timestamp := UInt32.ofNat (getLe32 l)
  r1khId := Octets.ofList 6 (l.drop 4)
  s1khId := Octets.ofList 6 (l.drop 10)
  pmkR0Name := Octets.ofList 16 (l.drop 16)
  pmkR1 := Octets.ofList 32 (l.drop 32)
  pmkR1Name := Octets.ofList 16 (l.drop 64)
  pairwise := UInt16.ofNat (getLe16 (l.drop 80))

@[simp] lemma length_encode (d : PushData) : d.encode.length = len := by
  simp [encode, len]

@[simp] lemma decode_encode (d : PushData) : decode d.encode = d := by
  have hpairwise : d.pairwise.toNat < 65536 := d.pairwise.toNat_lt
  have htime : d.timestamp.toNat < 4294967296 := d.timestamp.toNat_lt
  have hdrop (k : ℕ) (hk : 4 ≤ k) : (putLe32 d.timestamp.toNat).drop k = [] :=
    drop_of_length_le (by simpa using hk)
  simp only [decode, encode, drop_append, Octets.length_val, length_putLe32,
    getLe32_putLe32_append htime]
  simp [hdrop, drop_of_length_le, getLe16_putLe16_append hpairwise]

end PushData

end Hostapd.Ft
