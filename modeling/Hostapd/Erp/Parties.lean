import Hostapd.Eap.Msg
import Hostapd.Foundation.FirstMatch
import Hostapd.Foundation.Machine

/-!
# The packets and the parties of a re-authentication

`erp_parse_tlvs` of `src/eap_common/eap_common.c`; `SM_STATE(EAP, INITIATE_RECEIVED)` and
`erp_send_finish_reauth` of `src/eap_server/eap_server.c`, and `eap_peer_erp_reauth_start`,
`eap_peer_initiate` and `eap_peer_finish` of `src/eap_peer/eap.c`, each with the part of the packet
dispatch that leads to it.

How long the authentication tag at the end of a packet is can be told only when the key is known,
and the key is named by an attribute; the attributes are therefore parsed twice.

A network delivers any packet to either party at any time. Two histories tell what has been
authenticated with which key, and which keys were delivered and installed.
-/

namespace Hostapd.Erp

open Wire FirstMatch

def codeInitiate : UInt8 := 5

def codeFinish : UInt8 := 6

def typeReauthStart : UInt8 := 1

def typeReauth : UInt8 := 2

def tlvKeynameNai : UInt8 := 1

def tlvDomainName : UInt8 := 4

/-- `EAP_ERP_CS_HMAC_SHA256_128`. -/
def csHmacSha256x128 : UInt8 := 2

/-- `EAP_ERP_CS_HMAC_SHA256_256`. -/
def csHmacSha256x256 : UInt8 := 3

/-! ## Attributes -/

/-- The lifetimes, which have four octets and no length. -/
def isTv (type : UInt8) : Bool := type == 2 || type == 3

/-- The attributes with a length, the undefined ones included. -/
def isTlv (type : UInt8) : Bool :=
  type == 1 || type == 4 || type == 5 || type == 6 || (decide (128 ≤ type) && decide (type ≤ 191))

/-- The attributes that were found. -/
structure ErpTlvs where
  /-- The key name, with the number of octets between its end and the end of what is parsed. -/
  keyname : Option (Bytes × ℕ) := none
  domain : Option Bytes := none

variable (rest : Bytes)

def octet (off : ℕ) : Checked UInt8 := do
  let l ← readAt rest off 1
  .ok (l.headD 0)

/-- The octets that the parser skips with an attribute; an unknown one ends the parsing. -/
def tlvSize : ℕ :=
  if isTv (rest.headD 0) then 5
  else if isTlv (rest.headD 0) then 2 + (rest.getD 1 0).toNat
  else rest.length

variable (stopAtKeyname : Bool)

/-- What is stored of an attribute of a length that was found to fit. -/
def storeTlv (t : ErpTlvs) (type : UInt8) (value : Bytes) (after : ℕ) :
    ErpTlvs ⊕ Option ErpTlvs :=
  if type = tlvKeynameNai then
    if t.keyname.isSome then .inr none
    else
      let t := { t with keyname := some (value, after) }
      if stopAtKeyname then .inr (some t) else .inl t
  else if type = tlvDomainName then
    .inl { t with domain := some value }
  else
    .inl t

/-- One round of the loop of `erp_parse_tlvs`. -/
def visitTlv (t : ErpTlvs) (rest : Bytes) : Checked (ErpTlvs ⊕ Option ErpTlvs) := do
  let type ← octet rest 0
  if isTv type then
    if rest.length < 5 then .ok (.inr none) else .ok (.inl t)
  else if isTlv type then
    if rest.length ≤ 1 then .ok (.inr none)
    else
      let len ← octet rest 1
      if rest.length - 2 < len.toNat then .ok (.inr none)
      else
        let value ← readAt rest 2 len.toNat
        .ok (storeTlv stopAtKeyname t type value (rest.length - 2 - len.toNat))
  else
    .ok (.inl t)

/-- `erp_parse_tlvs`; `none` is a failure. -/
def erpParseTlvs : Checked (Option ErpTlvs) := do
  let r ← walk 0 tlvSize (visitTlv stopAtKeyname) rest.length {} rest
  match r with
  | .inl t => .ok (some t)
  | .inr t => .ok t

/-! ## Names and tags -/

/-- The name of a key: a C string that fits in a RADIUS attribute. -/
structure KeyName where
  octets : Bytes
  length_le : octets.length ≤ 253
  zero_notMem : 0 ∉ octets
deriving DecidableEq

def cString (l : Bytes) : Bytes := l.takeWhile (· ≠ 0)

/-- The keyed hashes. -/
structure Crypto where
  hmacSha256 : Bytes → Bytes → Octets 32
  /-- `hmac_sha256_kdf` with a key, a label, a seed and the length of the result. -/
  hmacSha256Kdf : Bytes → String → Bytes → ℕ → Bytes

/-- The rMSK of a SEQ. -/
def rMSK (c : Crypto) (rRK : Bytes) (seq : UInt16) : Bytes :=
  c.hmacSha256Kdf rRK "Re-authentication Master Session Key@ietf.org"
    (be16 seq ++ be16 (UInt16.ofNat rRK.length)) rRK.length

/-- Octets in hexadecimal digits. -/
def hex (octets : Bytes) : Bytes :=
  let digit (d : UInt8) : UInt8 := if d < 10 then 48 + d else 87 + d
  octets.flatMap fun o => [digit (o / 16), digit (o % 16)]

/-- The name, the root key and the integrity key that both sides derive from the EMSK. -/
def deriveKeys (c : Crypto) (realm : Bytes) (emsk sessionId : Option Bytes) :
    Option (KeyName × Bytes × Bytes) := do
  let emsk ← emsk
  let sessionId ← sessionId
  let nai := hex (c.hmacSha256Kdf sessionId "EMSK" (be16 8) 8) ++ 64 :: realm
  let len := be16 (UInt16.ofNat emsk.length)
  let rRK := c.hmacSha256Kdf emsk "EAP Re-authentication Root Key@ietf.org" len emsk.length
  let rIK := c.hmacSha256Kdf rRK "EAP Re-authentication Integrity Key@ietf.org" len emsk.length
  if 253 < 2 * 8 + 1 + realm.length ∨ emsk = [] ∨ 64 < emsk.length then none
  else if h : nai.length ≤ 253 ∧ 0 ∉ nai then some (⟨nai, h.1, h.2⟩, rRK, rIK)
  else none

/-- The tag of `n` octets for a packet without it. -/
def tag (c : Crypto) (rIK body : Bytes) (n : ℕ) : Bytes := (c.hmacSha256 rIK body).val.take n

/-- The octet `n` before the end. -/
def octetBack (l : Bytes) (n : ℕ) : Checked UInt8 :=
  if n ≤ l.length then octet l (l.length - n) else .error .underflow

/-- What is before the last `n` octets. -/
def dropBack (l : Bytes) (n : ℕ) : Checked Bytes :=
  if n ≤ l.length then .ok (l.take (l.length - n)) else .error .underflow

/-- The last `n` octets of a packet are the tag of the others. -/
def tagMatches (c : Crypto) (rIK packet : Bytes) (n : ℕ) : Checked Bool := do
  let body ← dropBack packet n
  let found ← readAt packet body.length n
  .ok (decide (found = tag c rIK body n))

/-! ## Packets -/

/-- The part of a re-authentication packet before the cryptosuite, with `extra` octets to follow. -/
def reauthBody (code id flags : UInt8) (seq : UInt16) (nai : Bytes) (extra : ℕ) : Bytes :=
  code :: id :: (be16 (UInt16.ofNat (5 + (5 + nai.length + extra))) ++
    (typeReauth :: flags :: (be16 seq ++ (tlvKeynameNai :: UInt8.ofNat nai.length :: nai))))

/-- The EAP-Initiate/Re-auth packet before its tag. -/
def initiateBody (id : UInt8) (seq : UInt16) (nai : Bytes) : Bytes :=
  reauthBody codeInitiate id 0x20 seq nai (1 + 16) ++ [csHmacSha256x128]

/-- The EAP-Finish/Re-auth packet before its tag of `hashLen` octets. -/
def finishBody (id flags : UInt8) (seq : UInt16) (nai : Bytes) (cryptosuite : UInt8)
    (hashLen : ℕ) : Bytes :=
  reauthBody codeFinish id flags seq nai (1 + hashLen) ++ [cryptosuite]

/-- The EAP-Finish/Re-auth packet that reports a key that is not known. -/
def finishError (id flags : UInt8) (seq : UInt16) (nai : Bytes) : Bytes :=
  reauthBody codeFinish id flags seq nai 0

/-! ## Server -/

/-- `struct eap_server_erp_key`. -/
structure ServerKey where
  nai : KeyName
  rRK : Bytes
  rIK : Bytes
  /-- The last SEQ that was accepted; `none` is -1. -/
  recvSeq : Option UInt16 := none
  cryptosuite : UInt8 := 0
deriving DecidableEq

def ServerKey.named (nai : Bytes) (key : ServerKey) : Bool := decide (key.nai.octets = nai)

/-- The length of a tag of the server's key, as far as it is known. -/
def minTagLen (key : ServerKey) : ℕ := if key.cryptosuite = csHmacSha256x256 then 32 else 16

variable (c : Crypto)

/-- A tag of `n` octets behind an octet for its cryptosuite. -/
def tagOf (rIK packet : Bytes) (cryptosuite : UInt8) (n : ℕ) : Checked Bool := do
  let found ← octetBack packet (n + 1)
  if found = cryptosuite then tagMatches c rIK packet n else .ok false

/-- The check of the tag by the server: the length of a tag that is right, with its cryptosuite. -/
def serverTag (key : ServerKey) (packet : Bytes) (maxLen : ℕ) : Checked (Option (ℕ × UInt8)) :=
  if key.cryptosuite = csHmacSha256x256 then do
    let ok ← tagOf c key.rIK packet csHmacSha256x256 32
    .ok (if ok then some (32, csHmacSha256x256) else none)
  else if key.cryptosuite = csHmacSha256x128 then do
    let ok ← tagOf c key.rIK packet csHmacSha256x128 16
    .ok (if ok then some (16, csHmacSha256x128) else none)
  else do
    -- Check if any supported CS results in matching tag
    let long ← if 1 + 32 ≤ maxLen then tagOf c key.rIK packet csHmacSha256x256 32 else .ok false
    if long then
      .ok (some (32, csHmacSha256x256))
    else do
      let short ← tagOf c key.rIK packet csHmacSha256x128 16
      .ok (if short then some (16, csHmacSha256x128) else none)

/-- What the server makes of an EAP-Initiate/Re-auth. -/
inductive InitiateResult
  | ignored
  /-- The key is not known: EAP-Finish/Re-auth with R=1 and without a tag. -/
  | unknownKey (packet : Bytes)
  /-- The tag is right and the attributes are not: the cryptosuite of the key is remembered. -/
  | malformed (key : ServerKey) (cryptosuite : UInt8)
  | accepted (key : ServerKey) (seq : UInt16) (cryptosuite : UInt8) (hashLen : ℕ)

/-- The part of `INITIATE_RECEIVED` that has found the key. -/
def authenticateInitiate (key : ServerKey) (packet tlvs : Bytes) (seq : UInt16) (maxLen : ℕ) :
    Checked InitiateResult :=
  if key.recvSeq.elim false (fun last => decide (seq ≤ last)) then
    .ok .ignored
  else if maxLen < 1 + minTagLen key then
    .ok .ignored
  else do
    let checked ← serverTag c key packet maxLen
    match checked with
    | none => .ok .ignored
    | some (hashLen, cryptosuite) => do
      let attributes ← dropBack tlvs (1 + hashLen)
      let parsed ← erpParseTlvs attributes false
      .ok (if parsed.isSome then .accepted key seq cryptosuite hashLen
        else .malformed key cryptosuite)

/-- `INITIATE_RECEIVED` after the first parsing. -/
def initiateParsed (keys : List ServerKey) (packet tlvs : Bytes) (id : UInt8) (seq : UInt16) :
    Option ErpTlvs → Checked InitiateResult
  | some ⟨some (keyname, after), _⟩ =>
    if 253 < keyname.length then
      .ok .ignored
    else
      match keys.find? (ServerKey.named (cString keyname)) with
      | none => .ok (.unknownKey (finishError id 0x80 seq (cString keyname)))
      | some key => authenticateInitiate c key packet tlvs seq after
  | _ => .ok .ignored

/-- `SM_STATE(EAP, INITIATE_RECEIVED)` of a server, for the packet in `eapRespData`. -/
def initiateReceived (keys : List ServerKey) (msg : Bytes) : Checked InitiateResult :=
  match Eap.eapHdrValidate Eap.eapVendorIetf 2 msg with
  | none => .ok .ignored
  | some payload =>
    if payload.length < 4 then
      .ok .ignored
    else do
      let seq ← readAt payload 1 2
      let tlvs ← advance payload 3
      let id ← octet msg 1
      let parsed ← erpParseTlvs tlvs true
      initiateParsed c keys (msg.take (ofBe16 (msg.drop 2)).toNat) tlvs id (ofBe16 seq) parsed

/-! ## Peer -/

/-- `struct eap_erp_key`. -/
structure PeerKey where
  nai : KeyName
  rRK : Bytes
  rIK : Bytes
  nextSeq : ℕ := 0
deriving DecidableEq

def PeerKey.named (nai : Bytes) (key : PeerKey) : Bool := decide (key.nai.octets = nai)

/-- The key belongs to this realm: what follows the first `@` of its name. -/
def PeerKey.ofRealm (realm : Bytes) (key : PeerKey) : Bool :=
  match key.nai.octets.dropWhile (· ≠ 64) with
  | [] => false
  | _ :: rest => decide (rest = realm)

/-- What the peer keeps for re-authentications. -/
structure Peer where
  keys : List PeerKey
  homeRealm : Option Bytes := none
  /-- `erp_seq`; `none` is -1. -/
  erpSeq : Option UInt16 := none

/-- `eap_peer_erp_reauth_start`: the peer afterwards, with the key and the SEQ it has used. -/
def eapPeerErpReauthStart (peer : Peer) : Option (Peer × PeerKey × UInt16) := do
  let realm ← peer.homeRealm
  let key ← peer.keys.find? (PeerKey.ofRealm realm)
  if 65536 ≤ key.nextSeq then none
  else
    let seq := UInt16.ofNat key.nextSeq
    some ({ peer with
      keys := updateFirst (PeerKey.ofRealm realm) (fun k => { k with nextSeq := k.nextSeq + 1 })
        peer.keys
      erpSeq := some seq }, key, seq)

/-- `eap_peer_initiate`, for the octets that the length field of the packet gives. -/
def eapPeerInitiate (peer : Peer) (packet : Bytes) :
    Checked (Option (Peer × PeerKey × UInt16)) :=
  if packet.length < Eap.sizeofEapHdr + 1 then
    .ok none
  else do
    let type ← octet packet Eap.sizeofEapHdr
    if type ≠ typeReauthStart ∨ packet.length ≤ Eap.sizeofEapHdr + 1 then
      .ok none
    else do
      let tlvs ← advance packet (Eap.sizeofEapHdr + 2)
      let parsed ← erpParseTlvs tlvs false
      .ok (if parsed.isSome then eapPeerErpReauthStart peer else none)

/-- What the peer makes of an EAP-Finish/Re-auth. -/
inductive FinishResult
  | ignored
  | failed (key : PeerKey)
  | succeeded (key : PeerKey) (seq : UInt16)

/-- The end of `eap_peer_finish`, with the attributes as they are known now. -/
def finishAttributes (key : PeerKey) (flags : UInt8) (seq : UInt16) (authTagOk : Bool)
    (attributes : Bytes) : Checked FinishResult := do
  let parsed ← erpParseTlvs attributes false
  .ok (if parsed.isNone then .ignored
    else if flags &&& 0x80 ≠ 0 ∨ authTagOk = false then .failed key
    else .succeeded key seq)

/-- The part of `eap_peer_finish` that has found the key. -/
def authenticateFinish (key : PeerKey) (packet tlvs : Bytes) (flags : UInt8) (seq : UInt16)
    (maxLen : ℕ) : Checked FinishResult :=
  let noAuthTag : Checked FinishResult :=
    if flags &&& 0x80 ≠ 0 then finishAttributes key flags seq false tlvs else .ok .ignored
  if maxLen < 1 + 16 then
    noAuthTag
  else do
    let cryptosuite ← octetBack packet 17
    if cryptosuite ≠ csHmacSha256x128 then
      noAuthTag
    else do
      let ok ← tagMatches c key.rIK packet 16
      if ok then do
        let attributes ← dropBack tlvs 17
        finishAttributes key flags seq true attributes
      else
        .ok .ignored

/-- `eap_peer_finish` after the first parsing. -/
def finishParsed (keys : List PeerKey) (packet tlvs : Bytes) (flags : UInt8) (seq : UInt16) :
    Option ErpTlvs → Checked FinishResult
  | some ⟨some (keyname, after), _⟩ =>
    if 253 < keyname.length then
      .ok .ignored
    else
      match keys.find? (PeerKey.named (cString keyname)) with
      | none => .ok .ignored
      | some key => authenticateFinish c key packet tlvs flags seq after
  | _ => .ok .ignored

/-- `eap_peer_finish`, for the octets that the length field of the packet gives. -/
def eapPeerFinish (peer : Peer) (packet : Bytes) : Checked FinishResult :=
  if packet.length < Eap.sizeofEapHdr + 1 then
    .ok .ignored
  else do
    let type ← octet packet Eap.sizeofEapHdr
    if type ≠ typeReauth ∨ packet.length < Eap.sizeofEapHdr + 4 then
      .ok .ignored
    else do
      let flags ← octet packet 5
      let seq ← readAt packet 6 2
      if peer.erpSeq ≠ some (ofBe16 seq) then
        .ok .ignored
      else do
        let tlvs ← advance packet 8
        let parsed ← erpParseTlvs tlvs true
        finishParsed c peer.keys packet tlvs flags (ofBe16 seq) parsed

/-! ## Both with a network -/

/-- The history of keys. -/
inductive Entry
  /-- The server has accepted this SEQ for a key and delivers this rMSK. -/
  | delivered (nai : KeyName) (seq : UInt16) (rmsk : Bytes)
  /-- The peer has accepted an EAP-Finish/Re-auth with this SEQ and installs this rMSK. -/
  | installed (nai : KeyName) (seq : UInt16) (rmsk : Bytes)
deriving DecidableEq

/-- The two parties and their histories, the latest entries first. -/
structure System where
  serverKeys : List ServerKey
  peer : Peer
  /-- The integrity keys that tags were calculated with, and for which octets. -/
  signed : List (Bytes × Bytes) := []
  log : List Entry := []

/-- The octets of a packet that its length field gives, if it has as many and a header. -/
def eapPacket (msg : Bytes) : Option Bytes :=
  let plen := (ofBe16 (msg.drop 2)).toNat
  if msg.length < Eap.sizeofEapHdr ∨ msg.length < plen then none else some (msg.take plen)

variable (s : System)

/-- The server after `INITIATE_RECEIVED` and `erp_send_finish_reauth`. -/
def System.answered (id : UInt8) : InitiateResult → System
  | .ignored => s
  | .unknownKey _ => s
  | .malformed key cryptosuite =>
    { s with
      serverKeys := updateFirst (ServerKey.named key.nai.octets)
        (fun k => { k with cryptosuite := cryptosuite }) s.serverKeys }
  | .accepted key seq cryptosuite hashLen =>
    { s with
      serverKeys := updateFirst (ServerKey.named key.nai.octets)
        (fun k => { k with cryptosuite := cryptosuite, recvSeq := some seq }) s.serverKeys
      signed := (key.rIK, finishBody id 0 seq key.nai.octets cryptosuite hashLen) :: s.signed
      log := .delivered key.nai seq (rMSK c key.rRK seq) :: s.log }

/-- A packet comes to the server: `eap_sm_parseEapResp` and, for an EAP-Initiate, the state for
it. -/
def System.toServer (msg : Bytes) : Checked System :=
  match eapPacket msg with
  | none => .ok s
  | some _ => do
    let code ← octet msg 0
    let id ← octet msg 1
    if code = codeInitiate then do
      let r ← initiateReceived c s.serverKeys msg
      .ok (s.answered c id r)
    else
      .ok s

/-- The peer after `eap_peer_initiate`. -/
def System.started (id : UInt8) : Option (Peer × PeerKey × UInt16) → System
  | none => s
  | some (peer, key, seq) =>
    { s with peer := peer, signed := (key.rIK, initiateBody id seq key.nai.octets) :: s.signed }

/-- The peer after `eap_peer_finish`. -/
def System.finished : FinishResult → System
  | .ignored => s
  | .failed key => { s with
      peer := { s.peer with keys := s.peer.keys.eraseP (PeerKey.named key.nai.octets) } }
  | .succeeded key seq => { s with log := .installed key.nai seq (rMSK c key.rRK seq) :: s.log }

/-- A packet comes to the peer: `eap_sm_parseEapReq` and what it calls for re-authentications. -/
def System.toPeer (msg : Bytes) : Checked System :=
  match eapPacket msg with
  | none => .ok s
  | some packet => do
    let code ← octet msg 0
    let id ← octet msg 1
    if code = codeInitiate then do
      let r ← eapPeerInitiate s.peer packet
      .ok (s.started id r)
    else if code = codeFinish then do
      let r ← eapPeerFinish c s.peer packet
      .ok (s.finished c r)
    else
      .ok s

/-- What happens to the two parties. -/
inductive Event
  | toServer (msg : Bytes)
  | toPeer (msg : Bytes)
  /-- The peer enters `INITIALIZE` for a user of this realm. -/
  | initialise (homeRealm : Option Bytes)

/-- One event. -/
def step : Event → Checked System
  | .toServer msg => s.toServer c msg
  | .toPeer msg => s.toPeer c msg
  | .initialise homeRealm =>
    .ok { s with peer := { s.peer with erpSeq := none, homeRealm := homeRealm } }

end Hostapd.Erp
