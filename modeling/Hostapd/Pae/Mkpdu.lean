import Hostapd.Pae.Defs

/-!
# The format of MKPDUs

The packed structures of `ieee802_1x_kay_i.h` that MKPDUs are made of. Each has a writer `octets`
and a reader `ofOctets` with the offsets and bit positions of its C declaration, and a round trip
lemma. Every parameter set starts with a header of four octets: a type or version, an octet of its
own, four bits of its own with the high four bits of the body length, and its low octet.
-/

namespace Hostapd.Pae

open Wire List Bool

/-! ## Headers -/

/-- Bit `i` of a number. -/
def bit (v i : ℕ) : Bool := v / 2 ^ i % 2 == 1

/-- The two bits of a number from bit `i` on. -/
def bits2 (v i : ℕ) : ℕ := v / 2 ^ i % 4

/-- A header: type, second octet, four bits, and the body length. -/
def paramHdr (type second : UInt8) (high len : ℕ) : Bytes :=
  [type, second, UInt8.ofNat (high % 16 * 16 + len / 256 % 16), UInt8.ofNat (len % 256)]

variable (l : Bytes)

/-- The octet at offset `i`. -/
def octetAt (i : ℕ) : UInt8 := l.getD i 0

def paramBodyType : UInt8 := octetAt l 0

/-- The high four bits of the third octet. -/
def paramHigh : ℕ := (octetAt l 2).toNat / 16

def paramBodyLen : ℕ :=
  (octetAt l 2).toNat % 16 * 256 + (octetAt l 3).toNat

/-- The octets of a parameter set, from its header: `MKA_HDR_LEN + body_len`. -/
def paramSetLen : ℕ := mkaHdrLen + paramBodyLen l

section Header

variable (type second : UInt8) (high len : ℕ) (t : Bytes)

@[simp] lemma length_paramHdr : (paramHdr type second high len).length = 4 := rfl

@[simp] lemma drop_paramHdr_append (k : ℕ) :
    (paramHdr type second high len ++ t).drop (k + 4) = t.drop k := rfl

@[simp] lemma octetAt_zero_paramHdr : octetAt (paramHdr type second high len ++ t) 0 = type := rfl

@[simp] lemma octetAt_one_paramHdr : octetAt (paramHdr type second high len ++ t) 1 = second := rfl

@[simp] lemma paramBodyType_paramHdr :
    paramBodyType (paramHdr type second high len ++ t) = type := rfl

variable {high len}

lemma paramHigh_paramHdr (h : high < 16) :
    paramHigh (paramHdr type second high len ++ t) = high := by
  simp only [paramHigh, paramHdr, octetAt, cons_append, getD_cons_succ,
    getD_cons_zero, UInt8.toNat_ofNat']
  omega

lemma paramBodyLen_paramHdr (h : len < 4096) :
    paramBodyLen (paramHdr type second high len ++ t) = len := by
  simp only [paramBodyLen, paramHdr, octetAt, cons_append, getD_cons_succ,
    getD_cons_zero, UInt8.toNat_ofNat', nil_append]
  omega

end Header

lemma paramBodyLen_lt : paramBodyLen l < 4096 := by
  have h := (octetAt l 3).toNat_lt
  simp only [paramBodyLen]
  omega

lemma bit_eq {v i : ℕ} {b : Bool} (h : v / 2 ^ i % 2 = b.toNat) : bit v i = b := by
  rw [bit, h]
  cases b <;> rfl

/-! ### Skipping fields -/

@[simp] lemma drop_mi_append (mi : Mi) (t : Bytes) (k : ℕ) :
    (mi.val ++ t).drop (k + 12) = t.drop k := by
  rw [Nat.add_comm, ← drop_drop, drop_left' mi.length_eq]

@[simp] lemma drop_sci_append (sci : Sci) (t : Bytes) (k : ℕ) :
    (sci.octets ++ t).drop (k + 8) = t.drop k := by
  rw [Nat.add_comm, ← drop_drop, drop_left' sci.length_octets]

@[simp] lemma drop_addr_append (addr : Octets 6) (t : Bytes) (k : ℕ) :
    (addr.val ++ t).drop (k + 6) = t.drop k := by
  rw [Nat.add_comm, ← drop_drop, drop_left' addr.length_eq]

@[simp] lemma drop_be16_append (x : UInt16) (t : Bytes) (k : ℕ) :
    (be16 x ++ t).drop (k + 2) = t.drop k := by
  rw [Nat.add_comm, ← drop_drop, drop_left' (length_be16 x)]

/-! ## Parameter set types -/

def mkaLivePeerList : UInt8 := 1

def mkaPotentialPeerList : UInt8 := 2

def mkaSakUse : UInt8 := 3

def mkaDistributedSak : UInt8 := 4

def mkaIcvIndicator : UInt8 := 255

/-! ## Basic parameter set -/

/-- `struct ieee802_1x_mka_basic_body`, without the body length. -/
structure BasicBody where
  version : UInt8
  priority : UInt8
  keyServer : Bool
  macsecDesired : Bool
  macsecCapability : MacsecCap
  actorSci : Sci
  actorMi : Mi
  actorMn : UInt32
  algoAgility : Octets 4

/-- `sizeof(struct ieee802_1x_mka_basic_body)`. -/
def sizeofBasicBody : ℕ := 32

variable (b : BasicBody)

/-- The four bits of the third octet: `key_server`, `macsec_desired`, `macsec_capability`. -/
def BasicBody.high : ℕ :=
  b.keyServer.toNat * 8 + b.macsecDesired.toNat * 4 + b.macsecCapability.bits

/-- The octets of a basic parameter set with a body of `len` octets, up to its CKN. -/
def BasicBody.octets (len : ℕ) : Bytes :=
  paramHdr b.version b.priority b.high len ++
    (b.actorSci.octets ++ (b.actorMi.val ++ (be32 b.actorMn ++ b.algoAgility.val)))

/-- The fields of a basic parameter set. -/
def BasicBody.ofOctets : BasicBody where
  version := octetAt l 0
  priority := octetAt l 1
  keyServer := bit (paramHigh l) 3
  macsecDesired := bit (paramHigh l) 2
  macsecCapability := MacsecCap.ofBits (bits2 (paramHigh l) 0)
  actorSci := Sci.ofOctets (l.drop 4)
  actorMi := Octets.ofList 12 (l.drop 12)
  actorMn := ofBe32 (l.drop 24)
  algoAgility := Octets.ofList 4 (l.drop 28)

lemma BasicBody.high_lt : b.high < 16 := by
  have h := b.macsecCapability.bits_lt
  have h' := toNat_le b.keyServer
  have h'' := toNat_le b.macsecDesired
  simp only [BasicBody.high]
  omega

@[simp] lemma BasicBody.length_octets (len : ℕ) : (b.octets len).length = sizeofBasicBody := by
  simp [BasicBody.octets, sizeofBasicBody]

/-- The basic parameter set is read as written. -/
lemma BasicBody.ofOctets_octets (len : ℕ) (t : Bytes) :
    BasicBody.ofOctets (b.octets len ++ t) = b := by
  have hcap := b.macsecCapability.bits_lt
  have hks := toNat_le b.keyServer
  have hmd := toNat_le b.macsecDesired
  have h3 : bit b.high 3 = b.keyServer := bit_eq (by simp only [BasicBody.high]; omega)
  have h2 : bit b.high 2 = b.macsecDesired := bit_eq (by simp only [BasicBody.high]; omega)
  have h0 : bits2 b.high 0 = b.macsecCapability.bits := by
    simp only [BasicBody.high, bits2]
    omega
  simp [BasicBody.ofOctets, BasicBody.octets, append_assoc, paramHigh_paramHdr _ _ _ b.high_lt,
    h3, h2, h0]

/-! ## SAK use -/

/-- `struct ieee802_1x_mka_sak_use_body`, without type and body length. -/
structure SakUseBody where
  lan : UInt8
  ltx : Bool
  lrx : Bool
  oan : UInt8
  otx : Bool
  orx : Bool
  ptx : Bool
  prx : Bool
  delayProtect : Bool
  lki : Ki
  llpn : UInt32
  oki : Ki
  olpn : UInt32

/-- `sizeof(struct ieee802_1x_mka_sak_use_body)`. -/
def sizeofSakUseBody : ℕ := 44

variable (b : SakUseBody)

/-- The second octet: `lan`, `ltx`, `lrx`, `oan`, `otx`, `orx`. -/
def SakUseBody.second : UInt8 :=
  UInt8.ofNat (b.lan.toNat % 4 * 64 + b.ltx.toNat * 32 + b.lrx.toNat * 16 + b.oan.toNat % 4 * 4 +
    b.otx.toNat * 2 + b.orx.toNat)

/-- The four bits of the third octet: `ptx`, `prx`, a reserved bit, `delay_protect`. -/
def SakUseBody.high : ℕ :=
  b.ptx.toNat * 8 + b.prx.toNat * 4 + b.delayProtect.toNat

/-- A key identifier as two fields of a body. -/
def Ki.octets (ki : Ki) : Bytes := ki.mi.val ++ be32 ki.kn

def Ki.ofOctets : Ki := ⟨Octets.ofList 12 l, ofBe32 (l.drop 12)⟩

/-- The header of a SAK use parameter set with a body of `len` octets. -/
def SakUseBody.hdr (len : ℕ) : Bytes :=
  paramHdr mkaSakUse b.second b.high len

/-- The octets of a SAK use parameter set with a body of `len` octets. -/
def SakUseBody.octets (len : ℕ) : Bytes :=
  b.hdr len ++ (b.lki.octets ++ (be32 b.llpn ++ (b.oki.octets ++ be32 b.olpn)))

/-- The fields of a SAK use. -/
def SakUseBody.ofOctets : SakUseBody where
  lan := UInt8.ofNat (bits2 (octetAt l 1).toNat 6)
  ltx := bit (octetAt l 1).toNat 5
  lrx := bit (octetAt l 1).toNat 4
  oan := UInt8.ofNat (bits2 (octetAt l 1).toNat 2)
  otx := bit (octetAt l 1).toNat 1
  orx := bit (octetAt l 1).toNat 0
  ptx := bit (paramHigh l) 3
  prx := bit (paramHigh l) 2
  delayProtect := bit (paramHigh l) 0
  lki := Ki.ofOctets (l.drop 4)
  llpn := ofBe32 (l.drop 20)
  oki := Ki.ofOctets (l.drop 24)
  olpn := ofBe32 (l.drop 40)

@[simp] lemma Ki.length_octets (ki : Ki) : ki.octets.length = 16 := by
  simp [Ki.octets]

lemma SakUseBody.high_lt : b.high < 16 := by
  have h := toNat_le b.ptx
  have h' := toNat_le b.prx
  have h'' := toNat_le b.delayProtect
  simp only [SakUseBody.high]
  omega

/-! ## Distributed SAK -/

/-- `struct ieee802_1x_mka_dist_sak_body`, without type and body length. -/
structure DistSakBody where
  dan : UInt8
  confidOffset : ConfidentialityOffset
  kn : UInt32

/-- `sizeof(struct ieee802_1x_mka_dist_sak_body)`. -/
def sizeofDistSakBody : ℕ := 8

/-- The second octet: `dan`, `confid_offset`, four reserved bits. -/
def DistSakBody.second (b : DistSakBody) : UInt8 :=
  UInt8.ofNat (b.dan.toNat % 4 * 64 + b.confidOffset.bits * 16)

/-- The octets of a distributed SAK parameter set with a body of `len` octets, up to the wrapped
key. -/
def DistSakBody.octets (b : DistSakBody) (len : ℕ) : Bytes :=
  paramHdr mkaDistributedSak b.second 0 len ++ be32 b.kn

def DistSakBody.ofOctets : DistSakBody where
  dan := UInt8.ofNat (bits2 (octetAt l 1).toNat 6)
  confidOffset := ConfidentialityOffset.ofBits (bits2 (octetAt l 1).toNat 4)
  kn := ofBe32 (l.drop 4)

@[simp] lemma DistSakBody.length_octets (b : DistSakBody) (len : ℕ) :
    (b.octets len).length = sizeofDistSakBody := by
  simp [DistSakBody.octets, sizeofDistSakBody]

/-- The distributed SAK is read as written. -/
lemma DistSakBody.ofOctets_octets (b : DistSakBody) (hdan : b.dan < 4) (len : ℕ)
    (t : Bytes) : DistSakBody.ofOctets (b.octets len ++ t) = b := by
  have hoff := b.confidOffset.bits_lt
  have hdan' : b.dan.toNat < 4 := hdan
  have h6 : bits2 b.second.toNat 6 = b.dan.toNat := by
    simp only [bits2, DistSakBody.second, UInt8.toNat_ofNat']
    omega
  have h4 : bits2 b.second.toNat 4 = b.confidOffset.bits := by
    simp only [bits2, DistSakBody.second, UInt8.toNat_ofNat']
    omega
  simp [DistSakBody.ofOctets, DistSakBody.octets, append_assoc, h6, h4]

/-! ## Peer lists -/

/-- `struct ieee802_1x_mka_peer_id`: a member and a message number. -/
structure PeerId where
  mi : Mi
  mn : UInt32
deriving DecidableEq

/-- `sizeof(struct ieee802_1x_mka_peer_id)`. -/
def sizeofPeerId : ℕ := 16

def PeerId.octets (p : PeerId) : Bytes := p.mi.val ++ be32 p.mn

def PeerId.ofOctets : PeerId := ⟨Octets.ofList 12 l, ofBe32 (l.drop 12)⟩

@[simp] lemma PeerId.length_octets (p : PeerId) : p.octets.length = sizeofPeerId := by
  simp [PeerId.octets, sizeofPeerId]

end Hostapd.Pae
