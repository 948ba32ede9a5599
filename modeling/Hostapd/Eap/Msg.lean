import Hostapd.Utils.Wpabuf

/-!
# EAP messages

The header functions of `src/eap_common/eap_common.c`.  A method's messages carry its type behind
the EAP header, in one octet or, for the type of a vendor, in the expanded form.  The length field
has 16 bits: a message that is longer is announced modulo `2 ^ 16`, and whoever receives it reads
that much of it.
-/

namespace Hostapd.Eap

open Wire

/-- The codes of EAP messages that methods send. -/
inductive EapCode
  | request
  | response

def EapCode.octet : EapCode → UInt8
  | request => 1
  | response => 2

/-- `sizeof(struct eap_hdr)`. -/
def sizeofEapHdr : ℕ := 4

def typeNone : UInt8 := 0

def typeIdentity : UInt8 := 1

def typeNotification : UInt8 := 2

def typeNak : UInt8 := 3

def eapTypeExpanded : UInt8 := 254

def eapVendorIetf : UInt32 := 0

/-- `EAP_VENDOR_HOSTAP`, which is also `EAP_VENDOR_UNAUTH_TLS`. -/
def eapVendorHostap : UInt32 := 39068

def eapVendorWfaNew : UInt32 := 40808

def typeLen (vendor : UInt32) : ℕ := if vendor = eapVendorIetf then 1 else 8

variable (vendor type : UInt32)

/-- The type field. -/
def typeOctets : Bytes :=
  if vendor = eapVendorIetf then [type.toUInt8]
  else eapTypeExpanded :: (toBe 3 vendor.toNat ++ be32 type)

@[simp] lemma length_typeOctets : (typeOctets vendor type).length = typeLen vendor := by
  unfold typeOctets typeLen
  split <;> simp

/-- What `eap_msg_alloc` writes. -/
def eapHeader (len : ℕ) (code : EapCode) (identifier : UInt8) : Bytes :=
  code.octet :: identifier :: (be16 (UInt16.ofNat len) ++ typeOctets vendor type)

@[simp] lemma length_eapHeader (len : ℕ) (code : EapCode) (identifier : UInt8) :
    (eapHeader vendor type len code identifier).length = sizeofEapHdr + typeLen vendor := by
  simp [eapHeader, sizeofEapHdr]
  omega

/-- `eap_msg_alloc`. -/
def eapMsgAlloc (heap : Heap) (vendor type : UInt32) (payloadLen : ℕ) (code : EapCode)
    (identifier : UInt8) : Option Wpabuf :=
  let len := sizeofEapHdr + typeLen vendor + payloadLen
  if heap 0 then some ⟨len, eapHeader vendor type len code identifier⟩ else none

/-- `eap_hdr_len_valid`. -/
def hdrLenValid (msg : Option Bytes) (minPayload : ℕ) : Bool :=
  match msg with
  | none => false
  | some msg =>
    let len := (ofBe16 (msg.drop 2)).toNat
    decide (sizeofEapHdr ≤ msg.length ∧ sizeofEapHdr + minPayload ≤ len ∧ len ≤ msg.length)

/-- `eap_hdr_validate`: the payload behind the type field, if the header is that of the method. -/
def eapHdrValidate (msg : Bytes) : Option Bytes :=
  let len := (ofBe16 (msg.drop 2)).toNat
  if msg.length < sizeofEapHdr then none
  else if len < sizeofEapHdr + 1 ∨ msg.length < len then none
  else
    let pos := (msg.take len).drop sizeofEapHdr
    if pos.getD 0 0 = eapTypeExpanded then
      if len < sizeofEapHdr + 8 then none
      else if beNat ((pos.drop 1).take 3) ≠ vendor.toNat ∨ ofBe32 (pos.drop 4) ≠ type then none
      else some (pos.drop 8)
    else if vendor ≠ eapVendorIetf ∨ (pos.getD 0 0).toUInt32 ≠ type then none
    else some (pos.drop 1)

/-- The payload lies in what the length field announces. -/
lemma eapHdrValidate_bounds {vendor type : UInt32} {msg payload : Bytes}
    (h : eapHdrValidate vendor type msg = some payload) :
    4 ≤ msg.length ∧ payload.length ≤ (msg.take (ofBe16 (msg.drop 2)).toNat).length := by
  have hdrop : ∀ n k, (((msg.take n).drop 4).drop k).length ≤ (msg.take n).length := by
    intro n k
    rw [List.length_drop, List.length_drop]
    omega
  rw [eapHdrValidate] at h
  dsimp only at h
  split_ifs at h with hhdr <;> obtain rfl := Option.some.inj h
  · exact ⟨Nat.le_of_not_lt hhdr, hdrop _ _⟩
  · exact ⟨Nat.le_of_not_lt hhdr, hdrop _ _⟩

/-- A type that `eap_hdr_validate` can tell from others. -/
structure Recognizable (vendor type : UInt32) : Prop where
  vendor_lt : vendor.toNat < 2 ^ 24
  ietf : vendor = eapVendorIetf → type.toNat < 254

lemma Recognizable.typeOctet {vendor type : UInt32} (h : Recognizable vendor type)
    (hvendor : vendor = eapVendorIetf) :
    type.toUInt8 ≠ eapTypeExpanded ∧ type.toUInt8.toUInt32 = type := by
  have hlt := h.ietf hvendor
  have hnat : type.toUInt8.toNat = type.toNat := by
    rw [UInt32.toNat_toUInt8]
    omega
  constructor
  · intro heq
    have h254 := congrArg UInt8.toNat heq
    simp [eapTypeExpanded] at h254
    omega
  · apply UInt32.toNat_inj.mp
    rw [UInt8.toNat_toUInt32, hnat]

/-- A message that is no longer than its length field can say is read as it was written. -/
lemma eapHdrValidate_eapHeader {vendor type : UInt32} (h : Recognizable vendor type)
    (code : EapCode)
    (identifier : UInt8) {payload : Bytes} {len : ℕ}
    (hlen : len = sizeofEapHdr + typeLen vendor + payload.length) (hfits : len < 2 ^ 16) :
    eapHdrValidate vendor type (eapHeader vendor type len code identifier ++ payload) =
      some payload := by
  have hfield : (ofBe16 ((eapHeader vendor type len code identifier ++ payload).drop 2)).toNat =
      len := by
    have hbe : (eapHeader vendor type len code identifier ++ payload).drop 2 =
        be16 (.ofNat len) ++ (typeOctets vendor type ++ payload) := by
      simp [eapHeader]
    rw [hbe, ofBe16_be16, UInt16.toNat_ofNat']
    exact Nat.mod_eq_of_lt hfits
  have htotal : (eapHeader vendor type len code identifier ++ payload).length = len := by
    rw [List.length_append, length_eapHeader, hlen]
  have htype : 1 ≤ typeLen vendor := by
    unfold typeLen
    split <;> omega
  have hpos : ((eapHeader vendor type len code identifier ++ payload).take len).drop sizeofEapHdr =
      typeOctets vendor type ++ payload := by
    rw [List.take_of_length_le htotal.le]
    simp [eapHeader, sizeofEapHdr, be16, toBe]
  unfold eapHdrValidate
  dsimp only
  rw [hfield, htotal, hpos, if_neg (by omega), if_neg (by omega)]
  by_cases hvendor : vendor = eapVendorIetf
  · obtain ⟨hne, hback⟩ := h.typeOctet hvendor
    have hhead : (typeOctets vendor type ++ payload).getD 0 0 = type.toUInt8 := by
      simp [typeOctets, hvendor]
    rw [hhead, if_neg hne, hback, if_neg (by simp [hvendor])]
    simp [typeOctets, hvendor]
  have hbody : typeOctets vendor type =
      eapTypeExpanded :: (toBe 3 vendor.toNat ++ be32 type) := if_neg hvendor
  have hlen8 : typeLen vendor = 8 := if_neg hvendor
  rw [hbody]
  have hhead : (eapTypeExpanded :: (toBe 3 vendor.toNat ++ be32 type) ++ payload).getD 0 0 =
      eapTypeExpanded := rfl
  have hvend : (((eapTypeExpanded :: (toBe 3 vendor.toNat ++ be32 type) ++ payload).drop 1).take
      3) = toBe 3 vendor.toNat := by
    simp
  have htype4 : (eapTypeExpanded :: (toBe 3 vendor.toNat ++ be32 type) ++ payload).drop 4 =
      be32 type ++ payload := by
    simp [toBe]
  have hrest : (eapTypeExpanded :: (toBe 3 vendor.toNat ++ be32 type) ++ payload).drop 8 =
      payload := by
    refine List.drop_left' ?_
    simp
  rw [hhead, if_pos rfl, if_neg (by omega), hvend, htype4, hrest, ofBe32_be32, beNat_toBe, if_neg]
  have hlt := h.vendor_lt
  simp only [not_or, not_not]
  exact ⟨Nat.mod_eq_of_lt hlt, trivial⟩

end Hostapd.Eap
