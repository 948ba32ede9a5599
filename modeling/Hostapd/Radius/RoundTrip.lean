import Hostapd.Radius.MppeKeys

/-!
# What a RADIUS server builds, a RADIUS client reads

A response is built by any sequence of `radius_msg_add_attr`, `radius_msg_add_eap` and
`radius_msg_add_mppe_keys`, finished by `radius_msg_finish_srv`, and parsed, verified and searched
by the side that sent the request. The attributes arrive in order, both authenticators are right,
and the EAP packet and the MS-MPPE keys come back, provided that none of the attributes given to
`radius_msg_add_attr` is one that the other functions add.
-/

namespace Hostapd.Radius

open Wire Checked List

/-! ## Building a response -/

/-- How a response is built. -/
inductive ResponseOp
  | addAttr (a : Attr)
  | addEap (data : Bytes)
  /-- `radius_msg_add_mppe_keys`, with the random number that becomes the salt. -/
  | addMppeKeys (random : UInt16) (sendKey recvKey : MppeKey)

variable (hashes : Hashes) (request : RadiusMsg) (secret : Bytes)

/-- The call on a message, with enough memory. -/
def ResponseOp.apply (msg : RadiusMsg) : ResponseOp → Checked (RadiusMsg × Bool)
  | addAttr a => do
    let (msg, attr) ← radiusMsgAddAttr .plenty msg a.type a.data
    return (msg, attr.isSome)
  | addEap data => radiusMsgAddEap .plenty msg data
  | addMppeKeys random sendKey recvKey =>
    radiusMsgAddMppeKeys hashes .plenty (some random) msg request.hdr.authenticator secret
      sendKey.octets recvKey.octets

/-- Build a response step by step. -/
def applyAll (msg : RadiusMsg) : List ResponseOp → Checked (Option RadiusMsg)
  | [] => .ok (some msg)
  | op :: ops => do
    let (msg, ok) ← op.apply hashes request secret msg
    if ok then applyAll msg ops else return none

/-- A response to a request: `radius_msg_new`, the calls, and `radius_msg_finish_srv`; none if one
of them fails. -/
def buildResponse (code identifier : UInt8) (ops : List ResponseOp) : Checked (Option RadiusMsg) :=
  match radiusMsgNew .plenty code identifier with
  | none => .ok none
  | some msg => do
    match ← applyAll hashes request secret msg ops with
    | none => return none
    | some msg =>
      let (msg, ok) ← radiusMsgFinishSrv hashes .plenty msg secret request.hdr.authenticator
      return if ok then some msg else none

variable {msg : RadiusMsg} {a : Attr} {op : ResponseOp} {ops : List ResponseOp}

/-! ## The attributes of a response -/

/-- The attributes that are added. -/
def ResponseOp.attrs : ResponseOp → List Attr
  | addAttr a => [a]
  | addEap data => eapAttrs data
  | addMppeKeys random sendKey recvKey =>
    [mppeAttr hashes sendKey (random ||| 0x8000) request.hdr.authenticator secret
        vendorAttrMsMppeSendKey,
      mppeAttr hashes recvKey ((random ||| 0x8000) ^^^ 1) request.hdr.authenticator secret
        vendorAttrMsMppeRecvKey]

/-- All attributes of a response. -/
def responseAttrs (ops : List ResponseOp) : List Attr :=
  ops.flatMap (ResponseOp.attrs hashes request secret)

/-- A Message-Authenticator. -/
def msgAuthAttr (mac : Octets 16) : Attr where
  type := attrMessageAuthenticator
  data := mac.val
  short := mac.length_eq.trans_le (by decide)

/-- A step of building adds its attributes. -/
lemma ResponseOp.apply_eq {attrs : List Attr} (h : msg.Represents attrs) (op : ResponseOp) :
    ∃ msg', op.apply hashes request secret msg = .ok (msg', true) ∧
      msg'.Represents (attrs ++ op.attrs hashes request secret) ∧ msg'.hdr = msg.hdr := by
  cases op with
  | addAttr a =>
    obtain ⟨msg', hadd, hrep, hhdr⟩ := radiusMsgAddAttr_plenty h a
    refine ⟨msg', ?_, hrep, hhdr⟩
    unfold ResponseOp.apply
    dsimp only
    rw [hadd]
    rfl
  | addEap data => exact radiusMsgAddEapLoop_plenty h data
  | addMppeKeys random sendKey recvKey =>
    obtain ⟨msg₁, hsend, hrep₁, hhdr₁⟩ := radiusMsgAddAttr_plenty h (mppeAttr hashes sendKey
      (random ||| 0x8000) request.hdr.authenticator secret vendorAttrMsMppeSendKey)
    obtain ⟨msg₂, hrecv, hrep₂, hhdr₂⟩ := radiusMsgAddAttr_plenty hrep₁ (mppeAttr hashes recvKey
      ((random ||| 0x8000) ^^^ 1) request.hdr.authenticator secret vendorAttrMsMppeRecvKey)
    refine ⟨msg₂, ?_, by simpa [ResponseOp.attrs] using hrep₂, hhdr₂.trans hhdr₁⟩
    dsimp only [mppeAttr] at hsend hrecv
    unfold ResponseOp.apply radiusMsgAddMppeKeys
    dsimp only
    rw [if_neg (by decide), Heap.after_plenty, hsend, ok_bind]
    rw [if_neg (by simp), if_neg (by decide), Heap.after_plenty, hrecv]
    rfl

/-- Building adds all attributes. -/
lemma applyAll_eq {attrs : List Attr} (h : msg.Represents attrs) (ops : List ResponseOp) :
    ∃ msg', applyAll hashes request secret msg ops = .ok (some msg') ∧
      msg'.Represents (attrs ++ responseAttrs hashes request secret ops) ∧ msg'.hdr = msg.hdr := by
  induction ops generalizing msg attrs with
  | nil => exact ⟨msg, rfl, by simpa [responseAttrs] using h, rfl⟩
  | cons op ops ih =>
    obtain ⟨msg₁, happly, hrep₁, hhdr₁⟩ := op.apply_eq hashes request secret h
    obtain ⟨msg₂, hrest, hrep₂, hhdr₂⟩ := ih hrep₁
    refine ⟨msg₂, ?_, by simpa [responseAttrs] using hrep₂, hhdr₂.trans hhdr₁⟩
    unfold applyAll
    rw [happly, ok_bind]
    exact hrest

/-! ## The Message-Authenticator -/

variable {attrs : List Attr} {mac : Octets 16}

/-- Where the value of the Message-Authenticator of a response stands. -/
def msgAuthPos (attrs : List Attr) : ℕ :=
  sizeofRadiusHdr + (attrOctets attrs).length + sizeofRadiusAttrHdr

lemma attrOctets_msgAuth (attrs : List Attr) (mac : Octets 16) :
    attrOctets (attrs ++ [msgAuthAttr mac]) =
      attrOctets attrs ++ [attrMessageAuthenticator, 18] ++ mac.val := by
  simp [attrOctets, Attr.octets, Attr.hdr, msgAuthAttr, sizeofRadiusAttrHdr]

/-- The Message-Authenticator is written. -/
lemma RadiusMsg.Represents.write_msgAuth (h : msg.Represents (attrs ++ [msgAuthAttr mac]))
    (mac' : Octets 16) :
    msg.write (msgAuthPos attrs) mac'.val =
      .ok { msg with attrs := attrOctets (attrs ++ [msgAuthAttr mac']) } := by
  have hlength : (attrOctets attrs ++ [attrMessageAuthenticator, 18]).length =
      msgAuthPos attrs - sizeofRadiusHdr := by
    simp [msgAuthPos, sizeofRadiusAttrHdr, sizeofRadiusHdr]
    omega
  have hend : msg.attrs.length = msgAuthPos attrs - sizeofRadiusHdr + mac'.val.length := by
    rw [h.attrs_eq, attrOctets_msgAuth, length_append, hlength, mac.length_eq, mac'.length_eq]
  unfold RadiusMsg.write
  rw [if_pos, drop_of_length_le hend.le, h.attrs_eq, attrOctets_msgAuth,
    take_left' hlength, attrOctets_msgAuth, append_nil]
  rw [RadiusMsg.length_octets, hend]
  simp only [msgAuthPos, sizeofRadiusHdr]
  omega

/-- The Message-Authenticator is found. -/
lemma RadiusMsg.Represents.findMsgAuth_eq (h : msg.Represents (attrs ++ [msgAuthAttr mac]))
    (hother : ∀ a ∈ attrs, a.type ≠ attrMessageAuthenticator) :
    findMsgAuth msg = .ok (.inl (some (sizeofRadiusHdr + (attrOctets attrs).length))) := by
  have hfirst := RadiusMsg.Represents.holds_middle [] attrs [msgAuthAttr mac] (by simpa using h)
  have hlast := RadiusMsg.Represents.holds_middle attrs [msgAuthAttr mac] [] (by simpa using h)
  unfold findMsgAuth
  rw [h.attrPos_eq, offsets_append]
  rw [attrOctets_nil, length_nil, Nat.add_zero] at hfirst
  rw [RadiusMsg.scan_skip hfirst]
  · cases hlast with
    | cons hholds _ =>
      rw [offsets, RadiusMsg.scan_cons hholds]
      rfl
  · intro pos a ha _
    rw [Attr.type_hdr, if_neg (hother a ha)]

/-- A Message-Authenticator is accepted exactly when it is the HMAC of the message with zeros in its
place. -/
lemma RadiusMsg.Represents.verifyMsgAuth_eq (hashes : Hashes) (secret : Bytes)
    (reqAuth : Octets 16) (h : msg.Represents (attrs ++ [msgAuthAttr mac]))
    (hother : ∀ a ∈ attrs, a.type ≠ attrMessageAuthenticator) :
    radiusMsgVerifyMsgAuth hashes msg secret (some reqAuth) =
      .ok (decide (mac.val = (hashes.hmacMd5 secret
        ({ msg.hdr with authenticator := reqAuth }.octets ++
          attrOctets (attrs ++ [msgAuthAttr (Octets.zero 16)]))).val)) := by
  have hlast := RadiusMsg.Represents.holds_middle attrs [msgAuthAttr mac] [] (by simpa using h)
  have horig : readAt msg.octets (msgAuthPos attrs) 16 = .ok mac.val := by
    cases hlast with
    | cons hholds _ =>
      have hvalue := hholds.attrValue_eq
      unfold attrValue at hvalue
      rwa [Attr.toNat_length_hdr, show (msgAuthAttr mac).data = mac.val from rfl,
        mac.length_eq] at hvalue
  unfold radiusMsgVerifyMsgAuth
  rw [h.findMsgAuth_eq hother, ok_bind]
  dsimp only
  rw [show sizeofRadiusHdr + (attrOctets attrs).length + sizeofRadiusAttrHdr = msgAuthPos attrs
    from rfl, horig, ok_bind, show replicate 16 0 = (Octets.zero 16).val from rfl,
    h.write_msgAuth]
  rfl

/-- The message has a Message-Authenticator behind the attributes, which is right. -/
structure Finished (hashes : Hashes) (secret : Bytes) (reqAuth : Octets 16) (attrs : List Attr)
    (msg : RadiusMsg) (mac : Octets 16) : Prop where
  represents : msg.Represents (attrs ++ [msgAuthAttr mac])
  length_eq : msg.hdr.length.toNat = msg.octets.length
  mac_eq : mac = hashes.hmacMd5 secret ({ msg.hdr with authenticator := reqAuth }.octets ++
    attrOctets (attrs ++ [msgAuthAttr (Octets.zero 16)]))
  auth_eq : msg.hdr.authenticator = responseAuth hashes msg reqAuth secret

/-- Finishing adds the Message-Authenticator. -/
lemma radiusMsgFinishSrv_eq (hashes : Hashes) (secret : Bytes) (reqAuth : Octets 16)
    (h : msg.Represents attrs)
    (hlen : sizeofRadiusHdr + (attrOctets (attrs ++ [msgAuthAttr (Octets.zero 16)])).length ≤
      0xffff) :
    ∃ msg' mac, radiusMsgFinishSrv hashes .plenty msg secret reqAuth = .ok (msg', true) ∧
      Finished hashes secret reqAuth attrs msg' mac := by
  obtain ⟨msg₁, hadd, hrep, hhdr⟩ := radiusMsgAddAttr_plenty h (msgAuthAttr (.zero 16))
  have hlength := hrep.length_octets
  have hrep₂ := hrep.withHdr ⟨msg₁.hdr.code, msg₁.hdr.identifier,
    UInt16.ofNat msg₁.octets.length, reqAuth⟩
  set mac := hashes.hmacMd5 secret (RadiusMsg.octets { msg₁ with
    hdr := ⟨msg₁.hdr.code, msg₁.hdr.identifier, .ofNat msg₁.octets.length, reqAuth⟩ })
    with hmac
  have hwrite := hrep₂.write_msgAuth mac
  have hsame : (attrOctets (attrs ++ [msgAuthAttr mac])).length =
      (attrOctets (attrs ++ [msgAuthAttr (.zero 16)])).length := by
    simp only [attrOctets_msgAuth, length_append, Octets.length_val]
  have hfits := hrep.fits
  rw [RadiusMsg.length_octets, hrep.attrs_eq] at hfits
  have hnat : (UInt16.ofNat msg₁.octets.length).toNat = msg₁.octets.length := by
    rw [UInt16.toNat_ofNat', hlength]
    omega
  let msg₂ : RadiusMsg := { msg₁ with
    hdr := ⟨msg₁.hdr.code, msg₁.hdr.identifier, .ofNat msg₁.octets.length, reqAuth⟩
    attrs := attrOctets (attrs ++ [msgAuthAttr mac]) }
  refine ⟨msg₂.setAuthenticator (responseAuth hashes msg₂ reqAuth secret), mac, ?_,
    ⟨⟨rfl, ?_, ?_⟩, ?_, ?_, rfl⟩⟩
  · unfold radiusMsgFinishSrv
    rw [show replicate 16 0 = (msgAuthAttr (Octets.zero 16)).data from rfl,
      show attrMessageAuthenticator = (msgAuthAttr (.zero 16)).type from rfl, hadd,
      ok_bind]
    refine (congrArg (· >>= _) hwrite).trans ?_
    refine congrArg (fun b => Except.ok (_, b)) (decide_eq_true ?_)
    simp only [RadiusMsg.setAuthenticator, RadiusMsg.length_octets]
    rw [hsame]
    exact hlen
  · exact hrep.attrPos_eq.trans (by simp only [offsets_append]; rfl)
  · simp only [msg₂, RadiusMsg.setAuthenticator, RadiusMsg.length_octets, hsame]
    exact hfits
  · simp only [msg₂, RadiusMsg.setAuthenticator, RadiusMsg.length_octets] at hnat ⊢
    rw [hnat, hsame, hrep.attrs_eq]
  · rw [hmac, RadiusMsg.octets, hrep.attrs_eq]
    rfl

/-! ## The EAP packet -/

/-- What an attribute contributes to the EAP packet of its message. -/
def eapPart (a : Attr) : Bytes := if a.type = attrEapMessage then a.data else []

def eapPacket (attrs : List Attr) : Bytes := attrs.flatMap eapPart

@[simp] lemma eapPacket_cons (a : Attr) (attrs : List Attr) :
    eapPacket (a :: attrs) = eapPart a ++ eapPacket attrs := flatMap_cons

@[simp] lemma eapPacket_append (as bs : List Attr) :
    eapPacket (as ++ bs) = eapPacket as ++ eapPacket bs := flatMap_append

lemma foldl_length_eapPart (attrs : List Attr) (n : ℕ) :
    attrs.foldl (fun len a => len + (eapPart a).length) n = n + (eapPacket attrs).length := by
  induction attrs generalizing n with
  | nil => simp [eapPacket]
  | cons a attrs ih =>
    rw [foldl_cons, ih, eapPacket_cons, length_append, Nat.add_assoc]

lemma Attr.carriesEap_iff (a : Attr) : a.hdr.CarriesEap ↔ eapPart a ≠ [] := by
  unfold RadiusAttrHdr.CarriesEap eapPart
  rw [Attr.toNat_length_hdr, Attr.type_hdr]
  by_cases htype : a.type = attrEapMessage
  · rw [if_pos htype, ← length_pos_iff, sizeofRadiusAttrHdr]
    constructor
    · rintro ⟨-, hpos⟩
      omega
    · intro hpos
      exact ⟨htype, by omega⟩
  · simp [htype]

lemma eapPart_eq_data (h : a.hdr.CarriesEap) : eapPart a = a.data := if_pos h.1

/-- The loop copies the parts of the EAP packet. -/
lemma copy_eap {poss : List ℕ} (h : List.Forall₂ msg.Holds poss attrs) (eap : Wpabuf)
    (hroom : eap.octets.length + (eapPacket attrs).length ≤ eap.size) :
    (poss.foldlM (fun (eap : Wpabuf) pos => do
      let attr ← radiusGetAttrHdr msg pos
      if attr.CarriesEap then
        let value ← attrValue msg pos attr
        eap.putData value
      else return eap) eap : Checked Wpabuf) = .ok (eap.append (eapPacket attrs)) := by
  induction h generalizing eap with
  | nil => simp [eapPacket]
  | @cons pos a poss attrs hhead _ ih =>
    rw [eapPacket_cons, length_append] at hroom
    have hrest := ih (eap.append (eapPart a)) (by
      rw [Wpabuf.octets_append, Wpabuf.size_append, length_append]
      omega)
    rw [foldlM_cons, eapPacket_cons, ← Wpabuf.append_append, ← hrest, hhead.getAttrHdr, ok_bind]
    by_cases hcarries : a.hdr.CarriesEap
    · rw [eapPart_eq_data hcarries] at hroom ⊢
      rw [if_pos hcarries, hhead.attrValue_eq, ok_bind, Wpabuf.putData_of_le (by omega), ok_bind]
    · rw [if_neg hcarries, not_not.mp (a.carriesEap_iff.not.mp hcarries), Wpabuf.append_nil]
      rfl

/-- The EAP packet is put together. -/
lemma RadiusMsg.Represents.getEap_eq (h : msg.Represents attrs) :
    radiusMsgGetEap .plenty msg = .ok (if eapPacket attrs = [] then none
      else some ⟨(eapPacket attrs).length, eapPacket attrs⟩) := by
  have hcount : (msg.attrPos.foldlM (fun len pos => do
      let attr ← radiusGetAttrHdr msg pos
      if attr.CarriesEap then return len + (attr.length.toNat - sizeofRadiusAttrHdr)
      return len) 0 : Checked ℕ) =
      .ok (attrs.foldl (fun len a => len + (eapPart a).length) 0) := by
    apply RadiusMsg.foldlM_attrs h.holds
    intro len pos a hholds
    rw [hholds.getAttrHdr, ok_bind]
    by_cases hcarries : a.hdr.CarriesEap
    · rw [if_pos hcarries, eapPart_eq_data hcarries, Attr.toNat_length_hdr, sizeofRadiusAttrHdr,
        Nat.add_sub_cancel_left]
      rfl
    · rw [if_neg hcarries, not_not.mp (a.carriesEap_iff.not.mp hcarries)]
      rfl
  unfold radiusMsgGetEap
  rw [hcount, ok_bind, foldl_length_eapPart, Nat.zero_add]
  by_cases hnil : eapPacket attrs = []
  · rw [if_pos hnil, if_pos (by rw [hnil]; rfl)]
    rfl
  · rw [if_neg hnil, if_neg (fun hzero => hnil (length_eq_zero_iff.mp hzero)),
      if_neg (by decide), copy_eap h.holds _ (by simp)]
    rfl

/-! ## What the calls put into a response -/

namespace ResponseOp

/-- The subtypes under which `radius_msg_get_ms_keys` searches Microsoft's attributes. -/
def keySubtypes : List UInt8 := [vendorAttrMsMppeSendKey, vendorAttrMsMppeRecvKey]

/-- The call adds no attribute through `radius_msg_add_attr` that the other functions add: no
EAP-Message, no Message-Authenticator and no attribute of Microsoft's in which a key is found. -/
def Plain : ResponseOp → Prop
  | addAttr a => a.type ≠ attrEapMessage ∧ a.type ≠ attrMessageAuthenticator ∧
      ∀ subtype ∈ keySubtypes, vendorIn vendorIdMicrosoft subtype a = .ok none
  | _ => True

def eap : ResponseOp → Bytes
  | addEap data => data
  | _ => []

def keys : ResponseOp → Option RadiusMsMppeKeys
  | addMppeKeys _ sendKey recvKey => some ⟨some sendKey.octets, some recvKey.octets⟩
  | _ => none

variable {hashes request secret}

lemma Plain.type_ne_messageAuthenticator (h : op.Plain)
    (ha : a ∈ op.attrs hashes request secret) : a.type ≠ attrMessageAuthenticator := by
  cases op with
  | addAttr b =>
    obtain rfl := mem_singleton.mp ha
    exact h.2.1
  | addEap data =>
    rw [(eapChunks_carriesEap ha).1]
    decide
  | addMppeKeys random sendKey recvKey =>
    simp only [attrs, mem_cons, not_mem_nil, or_false] at ha
    rcases ha with rfl | rfl <;> exact (by decide : attrVendorSpecific ≠ attrMessageAuthenticator)

lemma Plain.eapPacket_attrs (h : op.Plain) :
    eapPacket (op.attrs hashes request secret) = op.eap := by
  cases op with
  | addAttr b => simp [attrs, eapPacket, eapPart, h.1, eap]
  | addEap data =>
    have hall : ∀ a ∈ eapAttrs data, eapPart a = a.data :=
      fun a ha => if_pos (eapChunks_carriesEap ha).1
    calc eapPacket (eapAttrs data) = (eapAttrs data).flatMap Attr.data := by
          unfold eapPacket
          rw [flatMap_congr hall]
      _ = data := flatMap_data_eapChunks le_rfl
  | addMppeKeys random sendKey recvKey => rfl

lemma vendorIn_eapAttrs {data : Bytes} (h : a ∈ eapAttrs data) (subtype : UInt8) :
    vendorIn vendorIdMicrosoft subtype a = .ok none := by
  unfold vendorIn
  rw [(eapChunks_carriesEap h).1]
  rfl

lemma vendorIn_mppeAttr (key : MppeKey) (salt : UInt16) (vendorType subtype : UInt8) :
    vendorIn vendorIdMicrosoft subtype
        (mppeAttr hashes key salt request.hdr.authenticator secret vendorType) =
      .ok (if vendorType = subtype then some (be16 salt ++
        encryptMsKey hashes key.octets salt request.hdr.authenticator secret) else none) := by
  have hlen := (msKeyLen_spec key.le).2.1
  refine (if_pos rfl).trans ?_
  rw [data_mppeAttr, vendorAttrIn_element]
  rw [length_append, length_be16, length_encryptMsKey, radiusMaxAttrLen]
  omega

/-- What a search under a Microsoft subtype finds in an attribute of a call, nothing if it
faults. -/
def found (subtype : UInt8) (a : Attr) : Option Bytes :=
  (vendorIn vendorIdMicrosoft subtype a).toOption.join

/-- What a vendor attribute of a response holds. -/
lemma Plain.vendorIn_attrs (h : op.Plain) {subtype : UInt8} (hsubtype : subtype ∈ keySubtypes)
    (ha : a ∈ op.attrs hashes request secret) :
    vendorIn vendorIdMicrosoft subtype a = .ok (found subtype a) := by
  unfold found
  cases op with
  | addAttr b =>
    obtain rfl := mem_singleton.mp ha
    rw [h.2.2 subtype hsubtype]
    rfl
  | addEap data =>
    rw [vendorIn_eapAttrs ha]
    rfl
  | addMppeKeys random sendKey recvKey =>
    simp only [attrs, mem_cons, not_mem_nil, or_false] at ha
    rcases ha with rfl | rfl <;>
    · rw [vendorIn_mppeAttr]
      rfl

/-- The key that is found is the first one added. -/
lemma decryptMsKey_found (hplain : ∀ op ∈ ops, op.Plain) :
    (((responseAttrs hashes request secret ops).findSome? (found vendorAttrMsMppeSendKey)).bind
        fun key => decryptMsKey hashes .plenty key request.hdr.authenticator secret) =
      (ops.findSome? keys).bind RadiusMsMppeKeys.send ∧
    (((responseAttrs hashes request secret ops).findSome? (found vendorAttrMsMppeRecvKey)).bind
        fun key => decryptMsKey hashes .plenty key request.hdr.authenticator secret) =
      (ops.findSome? keys).bind RadiusMsMppeKeys.recv := by
  induction ops with
  | nil => exact ⟨rfl, rfl⟩
  | cons op ops ih =>
    have hrest := ih fun o ho => hplain o (mem_cons_of_mem op ho)
    have hop := hplain op mem_cons_self
    simp only [responseAttrs, flatMap_cons, findSome?_append, findSome?_cons] at hrest ⊢
    cases op with
    | addAttr a =>
      have hsend := hop.2.2 vendorAttrMsMppeSendKey (.head _)
      have hrecv := hop.2.2 vendorAttrMsMppeRecvKey (.tail _ (.head _))
      simpa [attrs, found, hsend, hrecv, keys, Except.toOption] using hrest
    | addEap data =>
      have hnone : ∀ subtype, (eapAttrs data).findSome? (found subtype) = none := fun subtype =>
        findSome?_eq_none_iff.mpr fun a ha => by rw [found, vendorIn_eapAttrs ha]; rfl
      simpa [attrs, hnone, keys] using hrest
    | addMppeKeys random sendKey recvKey =>
      have hne : vendorAttrMsMppeSendKey ≠ vendorAttrMsMppeRecvKey := by decide
      simp [attrs, found, vendorIn_mppeAttr, keys, decryptMsKey_encryptMsKey, hne, Except.toOption]

end ResponseOp

/-! ## The round trip -/

/-- The attributes of a message as the entries of its array show them: type and value. -/
def attributes (msg : RadiusMsg) : Checked (List (UInt8 × Bytes)) :=
  msg.attrPos.mapM fun pos => do
    let attr ← radiusGetAttrHdr msg pos
    let value ← attrValue msg pos attr
    return (attr.type, value)

lemma RadiusMsg.Represents.attributes_eq {attrs : List Attr} (h : msg.Represents attrs) :
    attributes msg = .ok (attrs.map fun a => (a.type, a.data)) := by
  have hall := h.holds
  unfold attributes
  generalize msg.attrPos = poss at hall
  clear h
  induction hall with
  | nil => rfl
  | cons hhead _ ih =>
    rw [mapM_cons, hhead.getAttrHdr, ok_bind, hhead.attrValue_eq, ok_bind]
    rw [pure_eq_ok, ok_bind, ih]
    rfl

/-- The EAP packet of a response: what the calls of `radius_msg_add_eap` added. -/
def responseEap (ops : List ResponseOp) : Option Wpabuf :=
  let eap := ops.flatMap ResponseOp.eap
  if eap = [] then none else some ⟨eap.length, eap⟩

/-- The keys of a response: those of the first call of `radius_msg_add_mppe_keys`. -/
def responseKeys (ops : List ResponseOp) : RadiusMsMppeKeys :=
  (ops.findSome? ResponseOp.keys).getD ⟨none, none⟩

def responseLength (ops : List ResponseOp) : ℕ :=
  sizeofRadiusHdr + (attrOctets (responseAttrs hashes request secret ops)).length + 18

/-- The calls and `radius_msg_finish_srv` succeed; the message then has the attributes added and
both authenticators. -/
lemma buildResponse_eq (code identifier : UInt8) (ops : List ResponseOp)
    (hlength : responseLength hashes request secret ops ≤ 65535) :
    ∃ msg mac, buildResponse hashes request secret code identifier ops = .ok (some msg) ∧
      Finished hashes secret request.hdr.authenticator (responseAttrs hashes request secret ops)
        msg mac := by
  have hnew : RadiusMsg.Represents
      ⟨⟨code, identifier, 0, .zero 16⟩, [], radiusDefaultMsgSize, [], radiusDefaultAttrCount⟩
      [] := ⟨rfl, rfl, by simp [radiusDefaultMsgSize]⟩
  obtain ⟨msg₁, hcalls, hrep₁, -⟩ := applyAll_eq hashes request secret hnew ops
  obtain ⟨msg, mac, hfinish, hfinished⟩ :=
    radiusMsgFinishSrv_eq hashes secret request.hdr.authenticator hrep₁ (by
      rw [attrOctets_msgAuth, length_append, length_append, Octets.length_val]
      exact hlength)
  refine ⟨msg, mac, ?_, hfinished⟩
  unfold buildResponse radiusMsgNew
  rw [if_pos (by decide)]
  dsimp only
  rw [hcalls, ok_bind]
  dsimp only
  rw [hfinish]
  rfl

lemma eapPacket_responseAttrs (hplain : ∀ op ∈ ops, op.Plain) :
    eapPacket (responseAttrs hashes request secret ops) = ops.flatMap ResponseOp.eap := by
  induction ops with
  | nil => rfl
  | cons op ops ih =>
    have hrest := ih fun o ho => hplain o (mem_cons_of_mem op ho)
    unfold responseAttrs at hrest ⊢
    rw [flatMap_cons, eapPacket_append, hrest, (hplain op (by simp)).eapPacket_attrs, flatMap_cons]

/-- What is found in a response are the keys added. -/
lemma getVendorAttr_response (hplain : ∀ op ∈ ops, op.Plain) {mac : Octets 16}
    (h : msg.Represents (responseAttrs hashes request secret ops ++ [msgAuthAttr mac]))
    {subtype : UInt8} (hsubtype : subtype ∈ ResponseOp.keySubtypes) :
    radiusMsgGetVendorAttr .plenty msg vendorIdMicrosoft subtype =
      .ok ((responseAttrs hashes request secret ops).findSome? (ResponseOp.found subtype)) := by
  have hfound : ∀ a ∈ responseAttrs hashes request secret ops ++ [msgAuthAttr mac],
      vendorIn vendorIdMicrosoft subtype a = .ok (ResponseOp.found subtype a) := by
    intro a ha
    rcases mem_append.mp ha with hmem | hmem
    · obtain ⟨op, hop, hattr⟩ := mem_flatMap.mp hmem
      exact (hplain op hop).vendorIn_attrs hsubtype hattr
    · obtain rfl := mem_singleton.mp hmem
      rfl
  have hnone : List.findSome? (ResponseOp.found subtype) [msgAuthAttr mac] = none := rfl
  rw [h.getVendorAttr_eq hfound, findSome?_append, hnone, Option.or_none]

/-- **A response is read as it was built.**  The calls succeed, the octets are accepted by the
parser, with the attributes added and the Message-Authenticator behind them, the response verifies
against the request, with and without a demand for the Message-Authenticator, and the EAP packet and
the keys come back. -/
theorem response_roundtrip (code identifier : UInt8) (ops : List ResponseOp)
    (hplain : ∀ op ∈ ops, op.Plain)
    (hlength : responseLength hashes request secret ops ≤ 65535) :
    ∃ msg parsed mac, buildResponse hashes request secret code identifier ops = .ok (some msg) ∧
      radiusMsgParse .plenty msg.octets = .ok (some parsed) ∧
      attributes parsed = .ok ((responseAttrs hashes request secret ops).map
        (fun a => (a.type, a.data)) ++ [(attrMessageAuthenticator, mac)]) ∧
      (∀ auth, radiusMsgVerify hashes parsed secret (some request) auth = .ok true) ∧
      radiusMsgGetEap .plenty parsed = .ok (responseEap ops) ∧
      radiusMsgGetMsKeys hashes .plenty parsed (some request) secret =
        .ok (some (responseKeys ops)) := by
  obtain ⟨msg, mac, hbuild, hrep, hlen, hmac, hauth⟩ :=
    buildResponse_eq hashes request secret code identifier ops hlength
  obtain ⟨parsed, hparse, hparsed, hhdr⟩ := radiusMsgParse_octets msg.hdr
    (responseAttrs hashes request secret ops ++ [msgAuthAttr mac]) (hlen.trans hrep.length_octets)
  have hattrs : parsed.attrs = msg.attrs := hparsed.attrs_eq.trans hrep.attrs_eq.symm
  refine ⟨msg, parsed, mac.val, hbuild, ?_, ?_, fun auth => ?_, ?_, ?_⟩
  · rw [RadiusMsg.octets, hrep.attrs_eq]
    exact hparse
  · rw [hparsed.attributes_eq, map_append]
    rfl
  · -- The HMAC is over the message the builder had before it wrote both authenticators.
    have hmsgAuth : radiusMsgVerifyMsgAuth hashes parsed secret
        (some request.hdr.authenticator) = .ok true := by
      rw [hparsed.verifyMsgAuth_eq hashes secret _ fun a ha => ?_, hhdr, ← hmac]
      · simp
      · obtain ⟨op, hop, hmem⟩ := mem_flatMap.mp ha
        exact (hplain op hop).type_ne_messageAuthenticator hmem
    have hresponse : responseAuth hashes parsed request.hdr.authenticator secret =
        parsed.hdr.authenticator := by
      rw [hhdr, hauth]
      unfold responseAuth
      rw [hhdr, hattrs]
    unfold radiusMsgVerify
    cases auth <;> simp [hmsgAuth, hresponse]
  · rw [hparsed.getEap_eq, eapPacket_append, eapPacket_responseAttrs hashes request secret hplain,
      show eapPacket [msgAuthAttr mac] = [] from rfl, append_nil]
    rfl
  · have hkeys := @ResponseOp.decryptMsKey_found hashes request secret ops hplain
    have hvendor := @getVendorAttr_response hashes request secret _ ops hplain mac hparsed
    have hsend := hvendor (List.Mem.head _)
    have hrecv := hvendor (List.Mem.tail _ (List.Mem.head _))
    unfold radiusMsgGetMsKeys
    simp only [Heap.plenty_apply, Heap.after_plenty, hsend, hrecv, hkeys.1, hkeys.2, ok_bind,
      pure_eq_ok, responseKeys]
    cases ops.findSome? ResponseOp.keys <;> rfl

/-- A response with a user name, an EAP packet and a pair of keys. -/
theorem response_roundtrip_of_keys :
    let hashes : Hashes := ⟨fun l => .ofList 16 l.reverse, fun k l => .ofList 16 (k ++ l)⟩
    let request : RadiusMsg := ⟨⟨1, 7, 20, .ofList 16 [1, 2, 3]⟩, [], 20, [], 16⟩
    let ops : List ResponseOp := [.addAttr ⟨1, [0x62, 0x6f, 0x62], by decide⟩, .addEap [3, 7, 0, 4],
      .addMppeKeys 0x1234 ⟨[5, 6, 7], by decide, by decide⟩ ⟨[8, 9], by decide, by decide⟩]
    ∃ msg parsed, buildResponse hashes request [0x73] 2 7 ops = .ok (some msg) ∧
      radiusMsgParse .plenty msg.octets = .ok (some parsed) ∧
      radiusMsgVerify hashes parsed [0x73] (some request) true = .ok true ∧
      radiusMsgGetEap .plenty parsed = .ok (some ⟨4, [3, 7, 0, 4]⟩) ∧
      radiusMsgGetMsKeys hashes .plenty parsed (some request) [0x73] =
        .ok (some ⟨some [5, 6, 7], some [8, 9]⟩) := by
  intro hashes request ops
  have hplain : ∀ op ∈ ops, op.Plain := by
    intro op hop
    simp only [ops, mem_cons, not_mem_nil, or_false] at hop
    rcases hop with rfl | rfl | rfl
    · exact ⟨by decide, by decide, by decide +kernel⟩
    · trivial
    · trivial
  obtain ⟨msg, parsed, -, hbuild, hparse, -, hverify, heap, hkeys⟩ :=
    response_roundtrip hashes request [0x73] 2 7 ops hplain (by decide +kernel)
  exact ⟨msg, parsed, hbuild, hparse, hverify true, heap, hkeys⟩

/-- A Message-Authenticator among the attributes given to `radius_msg_add_attr` makes the response
unverifiable: it arrives with two of them. -/
theorem response_with_two_message_authenticators :
    let hashes : Hashes := ⟨fun _ => .zero 16, fun _ _ => .zero 16⟩
    let request : RadiusMsg := ⟨⟨1, 7, 20, .zero 16⟩, [], 20, [], 16⟩
    let ops : List ResponseOp := [.addAttr (msgAuthAttr (.zero 16))]
    ∃ msg parsed, responseLength hashes request [] ops ≤ 65535 ∧
      buildResponse hashes request [] 2 7 ops = .ok (some msg) ∧
      radiusMsgParse .plenty msg.octets = .ok (some parsed) ∧
      radiusMsgVerify hashes parsed [] (some request) true = .ok false := by
  intro hashes request ops
  let octets := attrOctets [msgAuthAttr (.zero 16), msgAuthAttr (.zero 16)]
  refine ⟨⟨⟨2, 7, 56, .zero 16⟩, octets, 1024, [20, 38], 16⟩,
    ⟨⟨2, 7, 56, .zero 16⟩, octets, 56, [20, 38], 16⟩, ?_, ?_, ?_, ?_⟩ <;> decide +kernel

end Hostapd.Radius
