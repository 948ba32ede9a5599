import Hostapd.Radius.Attributes

/-!
# Vendor attributes and MS-MPPE keys

`radius_msg_add_mppe_keys` puts each key, with its length and filled up to whole blocks, under a
chain of MD5 masks and into a vendor-specific attribute; `radius_msg_get_vendor_attr` finds it there
and `decrypt_ms_key` takes the masks off.
-/

namespace Hostapd.Radius

open Wire Checked List

/-! ## Elements of a vendor-specific attribute -/

/-- An element of a vendor-specific attribute: its type, its length and its value. -/
def vendorElement (vendorType : UInt8) (body : Bytes) : Bytes :=
  vendorType :: UInt8.ofNat (sizeofRadiusAttrHdr + body.length) :: body

section Element

variable {body : Bytes} (hshort : body.length ≤ radiusMaxAttrLen)

include hshort in
lemma vendorElement_length_octet (vendorType : UInt8) :
    ((vendorElement vendorType body).getD 1 0).toNat = (vendorElement vendorType body).length := by
  unfold radiusMaxAttrLen at hshort
  simp only [vendorElement, getD_cons_succ, getD_cons_zero, UInt8.toNat_ofNat',
    sizeofRadiusAttrHdr, length_cons]
  omega

include hshort in
/-- One element of a vendor attribute. -/
lemma vendorAttrVisit_element (vendorType subtype : UInt8) :
    vendorAttrVisit subtype () (vendorElement vendorType body) =
      .ok (if vendorType = subtype then .inr (some body) else .inl ()) := by
  have hlength := vendorElement_length_octet hshort vendorType
  have hread : readAt (vendorElement vendorType body) 0 sizeofRadiusAttrHdr =
      .ok [vendorType, .ofNat (sizeofRadiusAttrHdr + body.length)] := by
    rfl
  have hvalue : readAt (vendorElement vendorType body) sizeofRadiusAttrHdr body.length =
      .ok body := by
    rw [readAt_of_le (by simp [sizeofRadiusAttrHdr, vendorElement]; omega)]
    simp [sizeofRadiusAttrHdr, vendorElement]
  have hcount : (vendorElement vendorType body).length - sizeofRadiusAttrHdr = body.length := by
    simp [vendorElement, sizeofRadiusAttrHdr]
  have hoctet : ([vendorType, .ofNat (sizeofRadiusAttrHdr + body.length)].getD 1 0).toNat =
      (vendorElement vendorType body).length := hlength
  unfold vendorAttrVisit
  rw [hread, ok_bind, hoctet]
  rw [if_neg (by simp [sizeofRadiusAttrHdr, vendorElement]), hcount, hvalue, getD_cons_zero]
  by_cases htype : vendorType = subtype
  · rw [if_pos htype, if_neg (not_not.mpr htype)]
    rfl
  · rw [if_neg htype, if_pos htype]
    rfl

include hshort in
/-- A vendor attribute with one element. -/
lemma vendorAttrIn_element (vendor : UInt32) (vendorType subtype : UInt8) :
    vendorAttrIn vendor subtype (be32 vendor ++ vendorElement vendorType body) =
      .ok (if vendorType = subtype then some body else none) := by
  have hlen : (be32 vendor ++ vendorElement vendorType body).length = body.length + 5 + 1 := by
    simp [vendorElement]
    omega
  have hdrop : (be32 vendor ++ vendorElement vendorType body).drop 4 =
      vendorElement vendorType body := drop_left' (length_be32 _)
  have hadv : advance (vendorElement vendorType body)
      ((vendorElement vendorType body).getD 1 0).toNat = .ok [] := by
    rw [vendorElement_length_octet hshort, advance_eq_ok, drop_length]
    exact ⟨le_rfl, rfl⟩
  unfold vendorAttrIn
  rw [if_neg (by omega), ofBe32_be32, if_neg (not_not.mpr rfl), hdrop, hlen,
    walk_succ 1 _ _ (by simp [vendorElement]), vendorAttrVisit_element hshort]
  by_cases htype : vendorType = subtype
  · rw [if_pos htype, if_pos htype]
    rfl
  rw [if_neg htype, if_neg htype, ok_bind]
  dsimp only
  rw [hadv, ok_bind, walk_of_le 1 _ _ (by simp)]
  rfl

end Element

/-! ## The search for a vendor attribute -/

/-- What is found in an attribute. -/
def vendorIn (vendor : UInt32) (subtype : UInt8) (a : Attr) : Checked (Option Bytes) :=
  if a.type = attrVendorSpecific then vendorAttrIn vendor subtype a.data else .ok none

/-- The first attribute in which the subtype is found. -/
lemma RadiusMsg.Represents.getVendorAttr_eq {msg : RadiusMsg} {attrs : List Attr}
    (h : msg.Represents attrs) {vendor : UInt32} {subtype : UInt8}
    {found : Attr → Option Bytes}
    (hfound : ∀ a ∈ attrs, vendorIn vendor subtype a = .ok (found a)) :
    radiusMsgGetVendorAttr .plenty msg vendor subtype = .ok (attrs.findSome? found) := by
  have hscan : ∀ poss, List.Forall₂ msg.Holds poss attrs →
      msg.scan (vendorAttrRound msg vendor subtype) poss () =
        .ok ((attrs.findSome? found).elim (.inl ()) .inr) := by
    clear h
    intro poss hholds
    induction hholds with
    | nil => rfl
    | @cons pos a poss attrs hhead _ ih =>
      have hrest := ih fun b hb => hfound b (mem_cons_of_mem a hb)
      have ha := hfound a (by simp)
      unfold vendorIn at ha
      rw [RadiusMsg.scan_cons hhead, findSome?_cons, vendorAttrRound, Attr.type_hdr]
      by_cases htype : a.type = attrVendorSpecific
      · rw [if_pos htype] at ha
        rw [if_neg (by simp [htype, sizeofRadiusAttrHdr]; omega), hhead.attrValue_eq,
          ok_bind, ha, ok_bind]
        cases hfa : found a with
        | none => exact hrest
        | some data => rfl
      · rw [if_neg htype] at ha
        rw [if_pos (.inl htype), ok_bind, ← Except.ok.inj ha]
        exact hrest
  unfold radiusMsgGetVendorAttr
  rw [hscan _ h.holds, ok_bind]
  cases attrs.findSome? found <;> rfl

/-! ## MS-MPPE keys -/

/-- A key for `radius_msg_add_mppe_keys`: its encryption fits into an attribute. -/
structure MppeKey where
  octets : Bytes
  pos : 1 ≤ octets.length
  le : octets.length ≤ 239

lemma msKeyLen_spec {n : ℕ} (h : n ≤ 239) :
    1 + n ≤ msKeyLen n ∧ msKeyLen n ≤ 240 ∧ msKeyLen n % 16 = 0 := by
  have hall : ∀ k < 240, 1 + k ≤ msKeyLen k ∧ msKeyLen k ≤ 240 ∧ msKeyLen k % 16 = 0 := by
    decide +kernel
  exact hall n (by omega)

variable (hashes : Hashes) (key : MppeKey) (salt : UInt16) (reqAuthenticator : Octets 16)
  (secret : Bytes)

lemma length_msKeyMask (x : Bytes) : (msKeyMask hashes secret x).length = 16 :=
  (hashes.md5 (secret ++ x)).length_eq

/-- The plaintext that is encrypted: the length octet, the key and zeros. -/
def msKeyPlain (key : Bytes) : Bytes :=
  UInt8.ofNat key.length :: key ++ replicate (msKeyLen key.length - (1 + key.length)) 0

lemma length_msKeyPlain : (msKeyPlain key.octets).length = msKeyLen key.octets.length := by
  have hlen := (msKeyLen_spec key.le).1
  simp only [msKeyPlain, length_append, length_cons, length_replicate]
  omega

/-- Encryption is a chain of masks. -/
lemma encryptMsKey_eq : encryptMsKey hashes key.octets salt reqAuthenticator secret =
    chainEncrypt (msKeyMask hashes secret) 16 (msKeyLen key.octets.length / 16)
      (reqAuthenticator.val ++ be16 salt) (msKeyPlain key.octets) := by
  have hlen := (msKeyLen_spec key.le).1
  have hfill : (UInt8.ofNat key.octets.length :: key.octets ++
        replicate (msKeyLen key.octets.length) 0).take (msKeyLen key.octets.length) =
      msKeyPlain key.octets := by
    rw [take_append, take_of_length_le (by rw [length_cons]; omega),
      take_replicate, length_cons, msKeyPlain]
    congr 2
    omega
  unfold encryptMsKey
  dsimp only
  rw [hfill]

lemma length_encryptMsKey :
    (encryptMsKey hashes key.octets salt reqAuthenticator secret).length =
      msKeyLen key.octets.length := by
  have hmod := (msKeyLen_spec key.le).2.2
  rw [encryptMsKey_eq, length_chainEncrypt (length_msKeyMask hashes secret)]
  · omega
  · rw [length_msKeyPlain]
    omega

/-- A key is decrypted to what was encrypted. -/
lemma decryptMsKey_encryptMsKey :
    decryptMsKey hashes .plenty
        (be16 salt ++ encryptMsKey hashes key.octets salt reqAuthenticator secret)
        reqAuthenticator secret = some key.octets := by
  have hspec := msKeyLen_spec key.le
  have hpos := key.pos
  have hcipher := length_encryptMsKey hashes key salt reqAuthenticator secret
  have hplain : (msKeyPlain key.octets).length = msKeyLen key.octets.length / 16 * 16 := by
    rw [length_msKeyPlain]
    omega
  have hdrop : (be16 salt ++ encryptMsKey hashes key.octets salt reqAuthenticator secret).drop 2 =
      encryptMsKey hashes key.octets salt reqAuthenticator secret := drop_left' (by simp)
  have htake : (be16 salt ++ encryptMsKey hashes key.octets salt reqAuthenticator secret).take 2 =
      be16 salt := take_left' (by simp)
  unfold decryptMsKey
  rw [if_neg (by rw [length_append, hcipher, length_be16]; omega), hdrop, htake]
  dsimp only
  rw [hcipher, if_neg (by omega), if_neg (by decide), encryptMsKey_eq,
    chainDecrypt_chainEncrypt (length_msKeyMask hashes secret) hplain]
  have hfirst : ((msKeyPlain key.octets).getD 0 0).toNat = key.octets.length := by
    simp only [msKeyPlain, cons_append, getD_cons_zero, UInt8.toNat_ofNat']
    omega
  rw [hfirst, if_neg (by omega), if_neg (by decide)]
  simp [msKeyPlain]

variable (vendorType : UInt8)

lemma length_mppeKeyAttr :
    (mppeKeyAttr hashes vendorType key.octets salt reqAuthenticator secret).length =
      8 + msKeyLen key.octets.length := by
  simp only [mppeKeyAttr, length_append, length_cons, length_be32, length_be16, length_encryptMsKey]
  omega

lemma short_mppeKeyAttr :
    (mppeKeyAttr hashes vendorType key.octets salt reqAuthenticator secret).length ≤
      radiusMaxAttrLen := by
  have hlen := (msKeyLen_spec key.le).2.1
  rw [length_mppeKeyAttr, radiusMaxAttrLen]
  omega

/-- The vendor-specific attribute for a key. -/
def mppeAttr : Attr where
  type := attrVendorSpecific
  data := mppeKeyAttr hashes vendorType key.octets salt reqAuthenticator secret
  short := short_mppeKeyAttr hashes key salt reqAuthenticator secret vendorType

lemma data_mppeAttr : (mppeAttr hashes key salt reqAuthenticator secret vendorType).data =
      be32 vendorIdMicrosoft ++ vendorElement vendorType
        (be16 salt ++ encryptMsKey hashes key.octets salt reqAuthenticator secret) := by
  have hlen : 8 + msKeyLen key.octets.length - 4 = 2 + (2 + msKeyLen key.octets.length) := by omega
  simp only [mppeAttr, mppeKeyAttr, vendorElement, length_append, length_be16,
    length_encryptMsKey, hlen, sizeofRadiusAttrHdr]

end Hostapd.Radius
