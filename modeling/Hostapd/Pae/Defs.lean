import Hostapd.Foundation.Checked

/-!
# Definitions shared by the KaY and the CP state machine

The enumerations of `ieee802_1x_defs.h`, secure channel and key identifiers, and the constants of
`ieee802_1x_kay.h` and `ieee802_1x_kay_i.h`.

Numbers follow the C types: message numbers and key numbers are `u32`, association numbers and
priorities `u8`; a two-bit field of a frame is one of the four values of its enumeration.
-/

namespace Hostapd.Pae

open Wire

/-! ## Enumerations -/

/-- `enum macsec_cap`, in the order of its values. -/
inductive MacsecCap
  | notImplemented
  | integrity
  | integAndConf
  | integAndConf0_30_50
deriving DecidableEq

/-- How received frames are validated. -/
inductive ValidateFrames
  | disabled
  | checked
  | strict
deriving DecidableEq

/-- `enum confidentiality_offset`, in the order of its values. -/
inductive ConfidentialityOffset
  | none
  | offset0
  | offset30
  | offset50
deriving DecidableEq

/-- Whether MACsec is used. -/
inductive MacsecPolicy
  | shouldSecure
  | doNotSecure
  | shouldEncrypt
deriving DecidableEq

/-- Where the CAK comes from. -/
inductive MkaCreatedMode
  | psk
  | eapExchange
deriving DecidableEq

def MacsecCap.bits : MacsecCap → ℕ
  | .notImplemented => 0
  | .integrity => 1
  | .integAndConf => 2
  | .integAndConf0_30_50 => 3

def MacsecCap.ofBits (n : ℕ) : MacsecCap :=
  match n % 4 with
  | 0 => .notImplemented
  | 1 => .integrity
  | 2 => .integAndConf
  | _ => .integAndConf0_30_50

def ConfidentialityOffset.bits : ConfidentialityOffset → ℕ
  | .none => 0
  | .offset0 => 1
  | .offset30 => 2
  | .offset50 => 3

def ConfidentialityOffset.ofBits (n : ℕ) : ConfidentialityOffset :=
  match n % 4 with
  | 0 => .none
  | 1 => .offset0
  | 2 => .offset30
  | _ => .offset50

@[simp] lemma MacsecCap.ofBits_bits (c : MacsecCap) : MacsecCap.ofBits c.bits = c := by
  cases c <;> rfl

lemma MacsecCap.bits_lt (c : MacsecCap) : c.bits < 4 := by
  cases c <;> decide

@[simp] lemma ConfidentialityOffset.ofBits_bits (c : ConfidentialityOffset) :
    ConfidentialityOffset.ofBits c.bits = c := by
  cases c <;> rfl

lemma ConfidentialityOffset.bits_lt (c : ConfidentialityOffset) : c.bits < 4 := by
  cases c <;> decide

/-! ## Constants -/

/-- `MKA_LIFE_TIME`, in milliseconds. -/
def mkaLifeTime : ℕ := 6000

/-- `MKA_HELLO_TIME`, in milliseconds. -/
def mkaHelloTime : ℕ := 2000

/-- `MKA_SAK_RETIRE_TIME`, in milliseconds. -/
def mkaSakRetireTime : ℕ := 3000

def maxRetryCnt : ℕ := 5

/-- `MKA_HDR_LEN`, the octets of a parameter set header. -/
def mkaHdrLen : ℕ := 4

/-- `DEFAULT_ICV_LEN`; also the `icv_len` of the only entry of `mka_alg_tbl`. -/
def defaultIcvLen : ℕ := 16

def pendingPnExhaustion : UInt32 := 0xC0000000

def csIdGcmAes128 : UInt64 := 0x0080020001000001

/-- An entry of `cipher_suite_tbl`, as far as the KaY reads it. -/
structure MacsecCiphersuite where
  id : UInt64
  capable : MacsecCap

/-- `cipher_suite_tbl`: GCM-AES-128 with its 16-octet SAK is the only entry. -/
def cipherSuiteTbl : List MacsecCiphersuite :=
  [⟨csIdGcmAes128, .integAndConf0_30_50⟩]

/-- An index into `cipher_suite_tbl`. -/
abbrev CsIndex := Fin cipherSuiteTbl.length

def defaultCsIndex : CsIndex := ⟨0, by decide⟩

/-! ## Identifiers -/

/-- A member identifier: 96 bits. -/
abbrev Mi := Octets 12

/-- `struct ieee802_1x_mka_sci`: the secure channel identifier of a port. -/
structure Sci where
  addr : Octets 6
  port : UInt16
deriving DecidableEq

def Sci.zero : Sci := ⟨Octets.zero 6, 0⟩

def Sci.octets (s : Sci) : Bytes := s.addr.val ++ be16 s.port

def Sci.ofOctets (l : Bytes) : Sci := ⟨Octets.ofList 6 l, ofBe16 (l.drop 6)⟩

def sizeofPointer : ℕ := 8

/-- `sci_equal`.  The source compares `sizeof(a)` octets, the size of the pointer `a`, which on
LP64 is also the size of the structure it points to. -/
def sciEqual (a b : Sci) : Bool :=
  a.octets.take sizeofPointer == b.octets.take sizeofPointer

/-- `struct ieee802_1x_mka_ki`: the key server's member identifier and the key number. -/
structure Ki where
  mi : Mi
  kn : UInt32
deriving DecidableEq

def Ki.zero : Ki := ⟨Octets.zero 12, 0⟩

def isKiEqual (a b : Ki) : Bool :=
  a.mi == b.mi && a.kn == b.kn

@[simp] lemma Sci.length_octets (s : Sci) : s.octets.length = 8 := by
  simp [Sci.octets]

@[simp] lemma Sci.ofOctets_octets (s : Sci) (t : Bytes) : Sci.ofOctets (s.octets ++ t) = s := by
  have hdrop : (s.addr.val ++ (be16 s.port ++ t)).drop 6 = be16 s.port ++ t := by
    simp
  simp [Sci.ofOctets, Sci.octets, hdrop]

lemma sciEqual_iff {a b : Sci} : sciEqual a b ↔ a = b := by
  have htake : ∀ s : Sci, s.octets.take sizeofPointer = s.octets := fun s =>
    List.take_of_length_le (by simp [sizeofPointer])
  simp only [sciEqual, htake, beq_iff_eq]
  constructor
  · intro h
    have ha := Sci.ofOctets_octets a []
    have hb := Sci.ofOctets_octets b []
    rw [h] at ha
    exact ha.symm.trans hb
  · rintro rfl
    rfl

end Hostapd.Pae
