import Hostapd.Foundation.KeyChain
import Hostapd.Utils.Wpabuf

/-!
# RADIUS messages

The message functions of `src/radius/radius.c`: a message is built attribute by attribute, finished
with its authenticators, parsed, verified against the request and searched for EAP packets, vendor
attributes and MS-MPPE keys.

The first 20 octets of `msg->buf` are a structure of their own and `attrs` are the octets that
follow; the offsets in `attr_pos` count from the start of the buffer. MD5 and HMAC-MD5 are
parameters.
-/

namespace Hostapd.Radius

open Wire

/-! ## Constants -/

/-- `sizeof(struct radius_hdr)`. -/
def sizeofRadiusHdr : ℕ := 20

/-- `sizeof(struct radius_attr_hdr)`, and `sizeof(struct radius_attr_vendor)` too. -/
def sizeofRadiusAttrHdr : ℕ := 2

def radiusMaxAttrLen : ℕ := 253

def radiusDefaultMsgSize : ℕ := 1024

def radiusDefaultAttrCount : ℕ := 16

def attrVendorSpecific : UInt8 := 26

def attrEapMessage : UInt8 := 79

def attrMessageAuthenticator : UInt8 := 80

def vendorIdMicrosoft : UInt32 := 311

def vendorAttrMsMppeSendKey : UInt8 := 16

def vendorAttrMsMppeRecvKey : UInt8 := 17

/-- The hashes of RADIUS. -/
structure Hashes where
  /-- `md5_vector`, of the concatenation of its elements. -/
  md5 : Bytes → Octets 16
  /-- `hmac_md5`, of a key and the data. -/
  hmacMd5 : Bytes → Bytes → Octets 16

/-! ## Messages -/

/-- The header of a message. -/
structure RadiusHdr where
  code : UInt8
  identifier : UInt8
  length : UInt16
  authenticator : Octets 16
deriving DecidableEq

def RadiusHdr.head (hdr : RadiusHdr) : Bytes :=
  hdr.code :: hdr.identifier :: be16 hdr.length

def RadiusHdr.octets (hdr : RadiusHdr) : Bytes := hdr.head ++ hdr.authenticator.val

@[simp] lemma RadiusHdr.length_octets (hdr : RadiusHdr) : hdr.octets.length = 20 := by
  simp [octets, head, be16, hdr.authenticator.length_eq]

/-- A message with the offsets of its attributes. -/
structure RadiusMsg where
  hdr : RadiusHdr
  attrs : Bytes
  size : ℕ
  /-- The first `attr_used` entries of the array of attribute offsets. -/
  attrPos : List ℕ
  attrSize : ℕ
deriving DecidableEq

namespace RadiusMsg

def octets (msg : RadiusMsg) : Bytes := msg.hdr.octets ++ msg.attrs

@[simp] lemma length_octets (msg : RadiusMsg) : msg.octets.length = 20 + msg.attrs.length := by
  simp [octets]

end RadiusMsg

/-- The header of an attribute, `struct radius_attr_hdr`. -/
structure RadiusAttrHdr where
  type : UInt8
  length : UInt8

variable (msg : RadiusMsg)

/-- `radius_get_attr_hdr`, of the attribute at an offset. -/
def radiusGetAttrHdr (pos : ℕ) : Checked RadiusAttrHdr := do
  let octets ← readAt msg.octets pos sizeofRadiusAttrHdr
  return ⟨octets.getD 0 0, octets.getD 1 0⟩

/-- `radius_msg_new`. -/
def radiusMsgNew (heap : Heap) (code identifier : UInt8) : Option RadiusMsg :=
  if heap 0 && heap 1 && heap 2 then
    some ⟨⟨code, identifier, 0, Octets.zero 16⟩, [], radiusDefaultMsgSize, [],
      radiusDefaultAttrCount⟩
  else none

/-! ## Adding attributes -/

/-- `radius_msg_add_attr_to_array`. -/
def radiusMsgAddAttrToArray (heap : Heap) (msg : RadiusMsg) (pos : ℕ) : Option RadiusMsg :=
  if msg.attrSize ≤ msg.attrPos.length then
    if heap 0 then some { msg with attrPos := msg.attrPos ++ [pos], attrSize := msg.attrSize * 2 }
    else none
  else some { msg with attrPos := msg.attrPos ++ [pos] }

/-- `wpabuf_put` and a write to all of it, into the buffer of a message. -/
def RadiusMsg.put (content : Bytes) : Checked RadiusMsg :=
  if msg.octets.length + content.length ≤ msg.size then
    .ok { msg with attrs := msg.attrs ++ content }
  else .error .overrun

/-- Make room for `needed` octets: `wpabuf_resize` if the tail room is too small. -/
def RadiusMsg.makeRoom (heap : Heap) (msg : RadiusMsg) (needed : ℕ) : Option RadiusMsg :=
  if msg.size - msg.octets.length < needed then
    if heap 0 then some { msg with size := msg.octets.length + needed } else none
  else some msg

/-- `radius_msg_add_attr`: the message afterwards and the offset of the attribute, or none for
`NULL`. -/
def radiusMsgAddAttr (heap : Heap) (msg : RadiusMsg) (type : UInt8) (data : Bytes) :
    Checked (RadiusMsg × Option ℕ) :=
  if radiusMaxAttrLen < data.length then .ok (msg, none)
  else
    match msg.makeRoom heap (sizeofRadiusAttrHdr + data.length) with
    | none => .ok (msg, none)
    | some msg => do
      let pos := msg.octets.length
      let msg ← msg.put [type, UInt8.ofNat (sizeofRadiusAttrHdr + data.length)]
      let msg ← msg.put data
      match radiusMsgAddAttrToArray (heap.after 1) msg pos with
      | none => return (msg, none)
      | some msg => return (msg, some pos)

/-- The loop of `radius_msg_add_eap`: an attribute for each `RADIUS_MAX_ATTR_LEN` octets. -/
def radiusMsgAddEapLoop (heap : Heap) : ℕ → RadiusMsg → Bytes → Checked (RadiusMsg × Bool)
  | 0, msg, _ => .ok (msg, true)
  | n + 1, msg, left =>
    if left = [] then .ok (msg, true)
    else do
      let (msg, attr) ← radiusMsgAddAttr (heap.after (2 * n)) msg attrEapMessage
        (left.take radiusMaxAttrLen)
      match attr with
      | none => return (msg, false)
      | some _ => radiusMsgAddEapLoop heap n msg (left.drop radiusMaxAttrLen)

/-- `radius_msg_add_eap`. -/
def radiusMsgAddEap (heap : Heap) (msg : RadiusMsg) (data : Bytes) :
    Checked (RadiusMsg × Bool) :=
  radiusMsgAddEapLoop heap data.length msg data

/-! ## MS-MPPE keys -/

variable (hashes : Hashes)

/-- The mask of a block: `MD5(Secret + x)`, where `x` is the previous block of the ciphertext. -/
def msKeyMask (secret x : Bytes) : Bytes :=
  (hashes.md5 (secret ++ x)).val

/-- The length of an encrypted key: the length octet and the key, filled up to a multiple of 16. -/
def msKeyLen (keyLen : ℕ) : ℕ :=
  if (1 + keyLen) &&& 0x0f ≠ 0 then ((1 + keyLen) &&& 0xf0) + 16 else 1 + keyLen

/-- `encrypt_ms_key`. -/
def encryptMsKey (key : Bytes) (salt : UInt16) (reqAuthenticator : Octets 16)
    (secret : Bytes) : Bytes :=
  let len := msKeyLen key.length
  let ebuf := (UInt8.ofNat key.length :: key ++ List.replicate len 0).take len
  chainEncrypt (msKeyMask hashes secret) 16 (len / 16) (reqAuthenticator.val ++ be16 salt) ebuf

/-- `decrypt_ms_key`, of the salt and the encrypted key. -/
def decryptMsKey (heap : Heap) (key : Bytes) (reqAuthenticator : Octets 16)
    (secret : Bytes) : Option Bytes :=
  if key.length < 2 + 16 then none
  else
    let cipher := key.drop 2
    if cipher.length % 16 ≠ 0 then none
    else if !heap 0 then none
    else
      let plain := chainDecrypt (msKeyMask hashes secret) 16 (cipher.length / 16)
        (reqAuthenticator.val ++ key.take 2) cipher
      let len := (plain.getD 0 0).toNat
      if len = 0 ∨ cipher.length - 1 < len then none
      else if !heap 1 then none
      else some ((plain.drop 1).take len)

/-- The value of the attribute for one of the two keys. -/
def mppeKeyAttr (vendorType : UInt8) (key : Bytes) (salt : UInt16)
    (reqAuthenticator : Octets 16) (secret : Bytes) : Bytes :=
  let encrypted := encryptMsKey hashes key salt reqAuthenticator secret
  be32 vendorIdMicrosoft ++ vendorType :: UInt8.ofNat (8 + encrypted.length - 4) ::
    (be16 salt ++ encrypted)

/-- `radius_msg_add_mppe_keys`; `random` is what `os_get_random` gives for the salt, if it does. -/
def radiusMsgAddMppeKeys (heap : Heap) (random : Option UInt16) (msg : RadiusMsg)
    (reqAuthenticator : Octets 16) (secret sendKey recvKey : Bytes) :
    Checked (RadiusMsg × Bool) :=
  if !heap 0 then .ok (msg, false)
  else
    match random with
    | none => .ok (msg, false)
    | some random => do
      let salt := random ||| 0x8000
      let (msg, attr) ← radiusMsgAddAttr (heap.after 1) msg attrVendorSpecific
        (mppeKeyAttr hashes vendorAttrMsMppeSendKey sendKey salt reqAuthenticator secret)
      if attr.isNone then return (msg, false)
      if !heap 3 then return (msg, false)
      let salt := salt ^^^ 1
      let (msg, attr) ← radiusMsgAddAttr (heap.after 4) msg attrVendorSpecific
        (mppeKeyAttr hashes vendorAttrMsMppeRecvKey recvKey salt reqAuthenticator secret)
      return (msg, attr.isSome)

/-! ## Finishing a response -/

/-- Write octets into the buffer at an offset behind the header. -/
def RadiusMsg.write (pos : ℕ) (content : Bytes) : Checked RadiusMsg :=
  if sizeofRadiusHdr ≤ pos ∧ pos + content.length ≤ msg.octets.length then
    .ok { msg with attrs := msg.attrs.take (pos - sizeofRadiusHdr) ++ content ++
      msg.attrs.drop (pos - sizeofRadiusHdr + content.length) }
  else .error .overrun

/-- `msg->hdr->authenticator = authenticator`. -/
def RadiusMsg.setAuthenticator (authenticator : Octets 16) : RadiusMsg :=
  { msg with hdr := { msg.hdr with authenticator := authenticator } }

/-- `MD5(Code+ID+Length+RequestAuth+Attributes+Secret)`. -/
def responseAuth (msg : RadiusMsg) (reqAuthenticator : Octets 16)
    (secret : Bytes) : Octets 16 :=
  hashes.md5 (msg.hdr.head ++ reqAuthenticator.val ++ msg.attrs ++ secret)

/-- `radius_msg_finish_srv`.  The flag is whether it returns 0. -/
def radiusMsgFinishSrv (heap : Heap) (msg : RadiusMsg) (secret : Bytes)
    (reqAuthenticator : Octets 16) : Checked (RadiusMsg × Bool) := do
  let (msg, attr) ← radiusMsgAddAttr heap msg attrMessageAuthenticator (List.replicate 16 0)
  match attr with
  | none => return (msg, false)
  | some pos => do
    let msg := { msg with hdr.length := UInt16.ofNat msg.octets.length }
    let msg := msg.setAuthenticator reqAuthenticator
    let msg ← msg.write (pos + sizeofRadiusAttrHdr) (hashes.hmacMd5 secret msg.octets).val
    let msg := msg.setAuthenticator (responseAuth hashes msg reqAuthenticator secret)
    return (msg, decide (msg.octets.length ≤ 0xffff))

/-! ## Parsing -/

/-- One round of the loop of `radius_msg_parse` over the attributes; the result `()` is `fail`. -/
def radiusMsgParseAttr (heap : Heap) (msg : RadiusMsg) (rest : Bytes) :
    Checked (RadiusMsg ⊕ Unit) :=
  if rest.length < sizeofRadiusAttrHdr then .ok (.inr ())
  else do
    let attr ← readAt rest 0 sizeofRadiusAttrHdr
    let length := (attr.getD 1 0).toNat
    if rest.length < length ∨ length < sizeofRadiusAttrHdr then return .inr ()
    match radiusMsgAddAttrToArray (heap.after msg.attrPos.length) msg
        (msg.octets.length - rest.length) with
    | none => return .inr ()
    | some msg => return .inl msg

/-- `radius_msg_parse`. -/
def radiusMsgParse (heap : Heap) (data : Bytes) : Checked (Option RadiusMsg) :=
  if data.length < sizeofRadiusHdr then .ok none
  else
    let msgLen := (ofBe16 (data.drop 2)).toNat
    if msgLen < sizeofRadiusHdr ∨ data.length < msgLen then .ok none
    else if heap 0 && heap 1 && heap 2 then do
      let hdr : RadiusHdr := ⟨data.getD 0 0, data.getD 1 0, ofBe16 (data.drop 2),
        Octets.ofList 16 (data.drop 4)⟩
      let attrs := (data.take msgLen).drop sizeofRadiusHdr
      let msg : RadiusMsg := ⟨hdr, attrs, msgLen, [], radiusDefaultAttrCount⟩
      match ← walk 0 (fun rest => (rest.getD 1 0).toNat) (radiusMsgParseAttr (heap.after 3))
          attrs.length msg attrs with
      | .inl msg => return some msg
      | .inr () => return none
    else .ok none

/-! ## Looking into a message -/

/-- The value of an attribute. -/
def attrValue (pos : ℕ) (attr : RadiusAttrHdr) : Checked Bytes :=
  readAt msg.octets (pos + sizeofRadiusAttrHdr) (attr.length.toNat - sizeofRadiusAttrHdr)

/-- The attribute is part of an EAP packet. -/
def RadiusAttrHdr.CarriesEap (attr : RadiusAttrHdr) : Prop :=
  attr.type = attrEapMessage ∧ sizeofRadiusAttrHdr < attr.length.toNat

instance (attr : RadiusAttrHdr) : Decidable attr.CarriesEap := by
  unfold RadiusAttrHdr.CarriesEap
  infer_instance

/-- `radius_msg_get_eap`: the values of the EAP-Message attributes are put together. -/
def radiusMsgGetEap (heap : Heap) (msg : RadiusMsg) : Checked (Option Wpabuf) := do
  let len ← msg.attrPos.foldlM (fun len pos => do
    let attr ← radiusGetAttrHdr msg pos
    if attr.CarriesEap then return len + (attr.length.toNat - sizeofRadiusAttrHdr)
    return len) 0
  if len = 0 then return none
  if !heap 0 then return none
  let eap ← msg.attrPos.foldlM (fun (eap : Wpabuf) pos => do
    let attr ← radiusGetAttrHdr msg pos
    if attr.CarriesEap then
      let value ← attrValue msg pos attr
      eap.putData value
    else return eap) ⟨len, []⟩
  return some eap

/-- A loop over the attributes of a message that may end early, as `return` does. -/
def RadiusMsg.scan {σ ρ : Type} (msg : RadiusMsg)
    (visit : σ → ℕ → RadiusAttrHdr → Checked (σ ⊕ ρ)) : List ℕ → σ → Checked (σ ⊕ ρ)
  | [], s => .ok (.inl s)
  | pos :: attrPos, s => do
    let attr ← radiusGetAttrHdr msg pos
    match ← visit s pos attr with
    | .inr r => return .inr r
    | .inl s => msg.scan visit attrPos s

/-- The search of `radius_msg_verify_msg_auth` for the Message-Authenticator. -/
def findMsgAuth : Checked (Option ℕ ⊕ Unit) :=
  msg.scan (fun found pos attr =>
    .ok (if attr.type = attrMessageAuthenticator then
      if found.isSome then .inr () else .inl (some pos)
    else .inl found)) msg.attrPos none

/-- `radius_msg_verify_msg_auth`, whether it returns 0. -/
def radiusMsgVerifyMsgAuth (msg : RadiusMsg) (secret : Bytes)
    (reqAuth : Option (Octets 16)) : Checked Bool := do
  match ← findMsgAuth msg with
  | .inr () => return false
  | .inl none => return false
  | .inl (some pos) =>
    let orig ← readAt msg.octets (pos + sizeofRadiusAttrHdr) 16
    let wiped ← msg.write (pos + sizeofRadiusAttrHdr) (List.replicate 16 0)
    let wiped := match reqAuth with
      | some reqAuth => wiped.setAuthenticator reqAuth
      | none => wiped
    return decide (orig = (hashes.hmacMd5 secret wiped.octets).val)

/-- `radius_msg_verify`, whether it returns 0; `auth` asks for a Message-Authenticator. -/
def radiusMsgVerify (msg : RadiusMsg) (secret : Bytes)
    (sentMsg : Option RadiusMsg) (auth : Bool) : Checked Bool :=
  match sentMsg with
  | none => .ok false
  | some sentMsg => do
    let authOk ←
      if auth then radiusMsgVerifyMsgAuth hashes msg secret (some sentMsg.hdr.authenticator)
      else pure true
    if !authOk then return false
    return decide (responseAuth hashes msg sentMsg.hdr.authenticator secret = msg.hdr.authenticator)

/-- One round of the loop of `radius_msg_get_vendor_attr` inside a vendor-specific attribute. -/
def vendorAttrVisit (subtype : UInt8) (_ : Unit) (rest : Bytes) :
    Checked (Unit ⊕ Option Bytes) := do
  let vhdr ← readAt rest 0 sizeofRadiusAttrHdr
  let length := (vhdr.getD 1 0).toNat
  if rest.length < length ∨ length < sizeofRadiusAttrHdr then return .inr none
  if vhdr.getD 0 0 ≠ subtype then return .inl ()
  let data ← readAt rest sizeofRadiusAttrHdr (length - sizeofRadiusAttrHdr)
  return .inr (some data)

/-- What `radius_msg_get_vendor_attr` finds in the value of one vendor-specific attribute. -/
def vendorAttrIn (vendor : UInt32) (subtype : UInt8) (value : Bytes) :
    Checked (Option Bytes) :=
  if value.length < 4 then .ok none
  else if ofBe32 value ≠ vendor then .ok none
  else do
    match ← walk 1 (fun rest => (rest.getD 1 0).toNat) (vendorAttrVisit subtype) value.length ()
        (value.drop 4) with
    | .inl () => return none
    | .inr found => return found

/-- One round of the loop of `radius_msg_get_vendor_attr` over the attributes. -/
def vendorAttrRound (vendor : UInt32) (subtype : UInt8) (_ : Unit) (pos : ℕ)
    (attr : RadiusAttrHdr) :
    Checked (Unit ⊕ Bytes) :=
  if attr.type ≠ attrVendorSpecific ∨ attr.length.toNat < sizeofRadiusAttrHdr then .ok (.inl ())
  else do
    let value ← attrValue msg pos attr
    match ← vendorAttrIn vendor subtype value with
    | none => return .inl ()
    | some data => return .inr data

/-- `radius_msg_get_vendor_attr`. -/
def radiusMsgGetVendorAttr (heap : Heap) (msg : RadiusMsg) (vendor : UInt32) (subtype : UInt8) :
    Checked (Option Bytes) := do
  match ← msg.scan (vendorAttrRound msg vendor subtype) msg.attrPos () with
  | .inl () => return none
  | .inr data => return if heap 0 then some data else none

/-- The keys that were found. -/
structure RadiusMsMppeKeys where
  send : Option Bytes
  recv : Option Bytes

/-- `radius_msg_get_ms_keys`. -/
def radiusMsgGetMsKeys (heap : Heap) (msg : RadiusMsg)
    (sentMsg : Option RadiusMsg) (secret : Bytes) : Checked (Option RadiusMsMppeKeys) :=
  match sentMsg with
  | none => .ok none
  | some sentMsg =>
    if !heap 0 then .ok none
    else do
      let send ← radiusMsgGetVendorAttr (heap.after 1) msg vendorIdMicrosoft vendorAttrMsMppeSendKey
      let recv ← radiusMsgGetVendorAttr (heap.after 4) msg vendorIdMicrosoft vendorAttrMsMppeRecvKey
      return some
        ⟨send.bind fun key => decryptMsKey hashes (heap.after 2) key sentMsg.hdr.authenticator
            secret,
          recv.bind fun key => decryptMsKey hashes (heap.after 5) key sentMsg.hdr.authenticator
            secret⟩

end Hostapd.Radius
