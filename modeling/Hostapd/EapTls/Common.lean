import Hostapd.Eap.Msg

/-!
# EAP-TLS fragmentation

The functions of `eap_server_tls_common.c` and `eap_tls_common.c`. Each side has a TLS message to be
sent out in fragments and a buffer in which it reassembles what it receives. A packet starts with a
flags octet: one flag says that the length of the whole message follows, one that more fragments
will come.

A message that has been reassembled is handed to the TLS library, and what it wants to send is put
into `tls_out`.
-/

namespace Hostapd.EapTls

open Wire Eap

/-! ## Types and flags -/

/-- `EAP_TLS_FLAGS_LENGTH_INCLUDED`. -/
def flagLengthIncluded : UInt8 := 0x80

/-- `EAP_TLS_FLAGS_MORE_FRAGMENTS`. -/
def flagMoreFragments : UInt8 := 0x40

def eapTypePeap : UInt8 := 25

/-- The vendor and the type of an EAP method over TLS, as `eap_tls_msg_alloc` and the calls of
`eap_hdr_validate` choose them. -/
def vendorType (eapType : UInt8) : UInt32 × UInt32 :=
  if eapType = 255 then (eapVendorHostap, 1)
  else if eapType = 254 then (eapVendorWfaNew, 13)
  else (eapVendorIetf, eapType.toUInt32)

def headerLen (eapType : UInt8) : ℕ := sizeofEapHdr + typeLen (vendorType eapType).1

variable (heap : Heap)

/-- `eap_tls_msg_alloc`. -/
def eapTlsMsgAlloc (eapType : UInt8) (payloadLen : ℕ) (code : EapCode)
    (identifier : UInt8) : Option Wpabuf :=
  eapMsgAlloc heap (vendorType eapType).1 (vendorType eapType).2 payloadLen code identifier

/-- `eap_hdr_validate` for an EAP method over TLS. -/
def eapTlsHdrValidate (eapType : UInt8) (msg : Bytes) : Option Bytes :=
  eapHdrValidate (vendorType eapType).1 (vendorType eapType).2 msg

def subSize (a b : ℕ) : Checked ℕ := if b ≤ a then .ok (a - b) else .error .underflow

/-- `TRUE` of a flag in the flags octet. -/
def has (flags flag : UInt8) : Bool := flags &&& flag ≠ 0

/-! ## The server -/

/-- The state of the server between a packet and the next one. -/
inductive SslState
  | msg
  /-- `FRAG_ACK`: a fragment was received and will be acknowledged. -/
  | fragAck
  /-- `WAIT_FRAG_ACK`: a fragment was sent and its acknowledgement is awaited. -/
  | waitFragAck
deriving DecidableEq

/-- `struct eap_ssl_data` of the server. -/
structure ServerSslData where
  tlsOut : Option Bytes
  tlsOutPos : ℕ
  tlsOutLimit : ℕ
  tlsIn : Option Wpabuf
  state : SslState

variable (data : ServerSslData)

/-- The length and the flags of the next packet of `eap_server_tls_build_msg`. -/
def ServerSslData.fragment (len : ℕ) (version : UInt8) : Checked (ℕ × UInt8) :=
  if data.tlsOutLimit < 1 + len then do
    let sendLen ← subSize data.tlsOutLimit 1
    if data.tlsOutPos = 0 then
      let sendLen ← subSize sendLen 4
      return (sendLen, version ||| flagMoreFragments ||| flagLengthIncluded)
    return (sendLen, version ||| flagMoreFragments)
  else .ok (len, version)

/-- `eap_server_tls_build_msg`. -/
def eapServerTlsBuildMsg (eapType version id : UInt8) : Checked (ServerSslData × Option Wpabuf) :=
  match data.tlsOut with
  | none => .ok (data, none)
  | some tlsOut => do
    let left ← subSize tlsOut.length data.tlsOutPos
    let (sendLen, flags) ← data.fragment left version
    let plen := 1 + sendLen + if has flags flagLengthIncluded then 4 else 0
    match eapTlsMsgAlloc heap eapType plen .request id with
    | none => return (data, none)
    | some req =>
      let req ← req.putData [flags]
      let req ← if has flags flagLengthIncluded then
        req.putData (be32 (UInt32.ofNat tlsOut.length)) else pure req
      let sent ← readAt tlsOut data.tlsOutPos sendLen
      let req ← req.putData sent
      let pos := data.tlsOutPos + sendLen
      let data := if pos = tlsOut.length then
          { data with tlsOut := none, tlsOutPos := 0, state := .msg }
        else { data with tlsOutPos := pos, state := .waitFragAck }
      return (data, some req)

/-- `eap_server_tls_build_ack`. -/
def eapServerTlsBuildAck (id eapType version : UInt8) : Checked (Option Wpabuf) :=
  match eapTlsMsgAlloc heap eapType 1 .request id with
  | none => .ok none
  | some req => do
    let req ← req.putData [version]
    return some req

/-- How the reassembly of a packet ends. -/
inductive Reassembly
  | error
  | complete
  | wait

/-- `eap_server_tls_process_cont`; none if it returns -1. -/
def eapServerTlsProcessCont (tlsIn : Wpabuf) (buf : Bytes) : Checked (Option Wpabuf) :=
  if tlsIn.size - tlsIn.octets.length < buf.length then .ok none
  else do
    let tlsIn ← tlsIn.putData buf
    return some tlsIn

/-- `eap_server_tls_process_fragment`; none if it returns -1. -/
def eapServerTlsProcessFragment (flags : UInt8)
    (messageLength : ℕ) (buf : Bytes) : Checked (Option ServerSslData) :=
  match data.tlsIn with
  | some _ => .ok (some data)
  | none =>
    if !has flags flagLengthIncluded then .ok none
    else if 65536 < messageLength then .ok none
    else if messageLength < buf.length then .ok none
    else if !heap 0 then .ok none
    else do
      let tlsIn ← Wpabuf.putData ⟨messageLength, []⟩ buf
      return some { data with tlsIn := some tlsIn }

/-- The part of `eap_server_tls_reassemble` after the length field. -/
def eapServerTlsReassembleRest (flags : UInt8) (tlsMsgLen : ℕ)
    (rest : Bytes) : Checked (ServerSslData × Reassembly) :=
  if data.state = .waitFragAck then
    .ok (data, if rest.length ≠ 0 then .error else .wait)
  else do
    let cont ← match data.tlsIn with
      | none => pure (some data)
      | some tlsIn => do
        match ← eapServerTlsProcessCont tlsIn rest with
        | none => pure none
        | some tlsIn => pure (some { data with tlsIn := some tlsIn })
    match cont with
    | none => return (data, .error)
    | some data =>
      if has flags flagMoreFragments then
        match ← eapServerTlsProcessFragment heap data flags tlsMsgLen rest with
        | none => return (data, .error)
        | some data => return ({ data with state := .fragAck }, .wait)
      else
        let data := if data.state = .fragAck then { data with state := .msg } else data
        match data.tlsIn with
        | none => return ({ data with tlsIn := some ⟨rest.length, rest⟩ }, .complete)
        | some _ => return (data, .complete)

/-- `eap_server_tls_reassemble`, of the octets behind the flags. -/
def eapServerTlsReassemble (flags : UInt8)
    (rest : Bytes) : Checked (ServerSslData × Reassembly) :=
  if has flags flagLengthIncluded then
    if rest.length < 4 then .ok (data, .error)
    else
      let tlsMsgLen := (ofBe32 rest).toNat
      if tlsMsgLen < (rest.drop 4).length then .ok (data, .error)
      else eapServerTlsReassembleRest heap data flags tlsMsgLen (rest.drop 4)
  else eapServerTlsReassembleRest heap data flags 0 rest

/-- What becomes of a packet. -/
inductive Received
  | failure
  | wait
  | message (msg : Bytes)

/-- The end of `eap_server_tls_process`: a complete message is handed over. -/
def ServerSslData.handOver : Reassembly → Checked (ServerSslData × Received)
  | .wait => .ok (data, .wait)
  | .error => .ok ({ data with tlsIn := none }, .failure)
  | .complete =>
    match data.tlsIn with
    | none => .error .nullPointer
    | some tlsIn => .ok ({ data with tlsIn := none }, .message tlsIn.octets)

/-- `eap_server_tls_process`. -/
def eapServerTlsProcess (eapType : UInt8)
    (respData : Bytes) : Checked (ServerSslData × Received) :=
  match eapTlsHdrValidate eapType respData with
  | none => .ok (data, .failure)
  | some [] => .ok (data, .failure)
  | some (flags :: rest) => do
    let (data, result) ← eapServerTlsReassemble heap data flags rest
    data.handOver result

/-! ## The peer -/

/-- `struct eap_ssl_data` of the peer. -/
structure PeerSslData where
  tlsOut : Option Bytes
  tlsOutPos : ℕ
  tlsOutLimit : ℕ
  tlsIn : Option Wpabuf
  tlsInLeft : ℕ
  tlsInTotal : ℕ
  /-- The length field is there even if the message is not fragmented. -/
  includeTlsLength : Bool
deriving DecidableEq

variable (data : PeerSslData)

def PeerSslData.resetInput : PeerSslData :=
  { data with tlsIn := none, tlsInLeft := 0, tlsInTotal := 0 }

def PeerSslData.resetOutput : PeerSslData :=
  { data with tlsOut := none, tlsOutPos := 0 }

/-- What the peer asks the outside. -/
structure PeerEnv where
  workaround : Bool
  /-- `tls_get_errors` finds an error. -/
  tlsErrors : Bool
  established : Bool

/-- `eap_peer_tls_process_init`: the flags and the payload, or none if the packet is ignored.  The
length field has its effect on the data before the packet can be ignored for it. -/
def eapPeerTlsProcessInit (env : PeerEnv) (data : PeerSslData) (eapType : UInt8)
    (reqData : Bytes) : PeerSslData × Option (UInt8 × Bytes) :=
  if env.tlsErrors then (data, none)
  else
    match eapTlsHdrValidate eapType reqData with
    | none => (data, none)
    | some [] => if env.workaround then (data, some (0, [])) else (data, none)
    | some (flags :: rest) =>
      if has flags flagLengthIncluded then
        if rest.length < 4 then (data, none)
        else
          let tlsMsgLen := (ofBe32 rest).toNat
          let data := if data.tlsInLeft = 0 then
              { data with tlsInTotal := tlsMsgLen, tlsInLeft := tlsMsgLen, tlsIn := none }
            else data
          if tlsMsgLen < (rest.drop 4).length then (data, none)
          else (data, some (flags, rest.drop 4))
      else (data, some (flags, rest))

variable (inData : Bytes)

/-- `eap_peer_tls_reassemble_fragment`. -/
def eapPeerTlsReassembleFragment : Checked (PeerSslData × Reassembly) :=
  let tlsInLen := (data.tlsIn.map (·.octets.length)).getD 0
  if tlsInLen + inData.length = 0 then .ok (data.resetInput, .error)
  else if 65536 < tlsInLen + inData.length then .ok (data.resetInput, .error)
  else if data.tlsInLeft < inData.length then .ok (data.resetInput, .error)
  else
    match Wpabuf.resize heap data.tlsIn inData.length with
    | none => .ok (data.resetInput, .error)
    | some tlsIn => do
      let tlsIn ← tlsIn.putData inData
      let left := data.tlsInLeft - inData.length
      return ({ data with tlsIn := some tlsIn, tlsInLeft := left },
        if 0 < left then .wait else .complete)

/-- `eap_peer_tls_data_reassemble`. -/
def eapPeerTlsDataReassemble : Checked (PeerSslData × Reassembly) :=
  if inData.length < data.tlsInLeft ∨ data.tlsIn.isSome then
    eapPeerTlsReassembleFragment heap data inData
  else
    let data := { data with tlsInLeft := 0 }
    if heap 0 then .ok ({ data with tlsIn := some ⟨inData.length, inData⟩ }, .complete)
    else .ok ({ data with tlsIn := none }, .error)

/-- `eap_tls_process_input`: a complete message is handed to the TLS library and the input buffer is
released. -/
def eapTlsProcessInput : Checked (PeerSslData × Received) := do
  let (data, result) ← eapPeerTlsDataReassemble heap data inData
  match result, data.tlsIn with
  | .wait, _ => return (data, .wait)
  | .error, _ => return (data, .failure)
  | .complete, none => throw .nullPointer
  | .complete, some tlsIn => return (data.resetInput, .message tlsIn.octets)

/-- `eap_tls_process_output`. -/
def eapTlsProcessOutput (env : PeerEnv) (data : PeerSslData)
    (eapType peapVersion id : UInt8) : Checked (PeerSslData × Option Wpabuf) :=
  match data.tlsOut with
  | none => .ok (data, none)
  | some tlsOut => do
    let left ← subSize tlsOut.length data.tlsOutPos
    let moreFragments := decide (data.tlsOutLimit < left)
    let len := if moreFragments then data.tlsOutLimit else left
    let lengthIncluded := decide (data.tlsOutPos = 0) &&
        (decide (data.tlsOutLimit < tlsOut.length) || data.includeTlsLength) ||
      (eapType = eapTypePeap && peapVersion = 0 && !env.established)
    let len' := 1 + (if lengthIncluded then 4 else 0) + len
    match eapTlsMsgAlloc heap eapType len' .response id with
    | none => return (data, none)
    | some out =>
      let flags := peapVersion ||| (if moreFragments then flagMoreFragments else 0) |||
        (if lengthIncluded then flagLengthIncluded else 0)
      let out ← out.putData [flags]
      let out ← if lengthIncluded then
        out.putData (be32 (UInt32.ofNat tlsOut.length)) else pure out
      let sent ← readAt tlsOut data.tlsOutPos len
      let out ← out.putData sent
      let data := { data with tlsOutPos := data.tlsOutPos + len }
      return (if moreFragments then data else data.resetOutput, some out)

/-- `eap_peer_tls_build_ack`. -/
def eapPeerTlsBuildAck (id eapType peapVersion : UInt8) : Checked (Option Wpabuf) :=
  match eapTlsMsgAlloc heap eapType 1 .response id with
  | none => .ok none
  | some resp => do
    let resp ← resp.putData [peapVersion]
    return some resp

end Hostapd.EapTls
