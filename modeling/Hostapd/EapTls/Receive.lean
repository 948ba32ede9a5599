import Hostapd.EapTls.Common

/-!
# EAP-TLS packets and what is made of them

What the two sides send has one shape: the EAP header, a flags octet, the length of the whole
message if a flag says so, and a part of the message. Here is what each sender writes, what the
header check of the receiver leaves of it, and what the two sides make of it.
-/

namespace Hostapd.EapTls

open Wire Checked Eap List

/-! ## Flags -/

section Flags

variable (version : UInt8) {eapType : UInt8} {msg : Bytes}

/-- The flags of a packet. -/
def flagsOctet (more lengthIncluded : Bool) : UInt8 :=
  version ||| (if more then flagMoreFragments else 0) |||
    (if lengthIncluded then flagLengthIncluded else 0)

lemma has_flagsOctet {version : UInt8} (h : version.toNat < 8) (more lengthIncluded : Bool) :
    has (flagsOctet version more lengthIncluded) flagMoreFragments = more ∧
      has (flagsOctet version more lengthIncluded) flagLengthIncluded = lengthIncluded := by
  have hall : ∀ (n : Fin 8) (m l : Bool),
      has (flagsOctet (.ofNat n) m l) flagMoreFragments = m ∧
        has (flagsOctet (.ofNat n) m l) flagLengthIncluded = l := by
    decide
  have hversion := hall ⟨version.toNat, h⟩ more lengthIncluded
  rwa [UInt8.ofNat_toNat] at hversion

@[simp] lemma flagsOctet_false : flagsOctet version false false = version := by
  simp [flagsOctet]

/-! ## Packets -/

/-- What stands behind the EAP header: the flags, the length if it is included, and a part of the
message. -/
def fragmentBody (msg : Bytes) (pos n : ℕ) (more lengthIncluded : Bool) : Bytes :=
  flagsOctet version more lengthIncluded ::
    ((if lengthIncluded then be32 (UInt32.ofNat msg.length) else []) ++ (msg.drop pos).take n)

/-- The packet for `n` octets of a message from `pos` on. -/
def fragmentPacket (eapType : UInt8) (code : EapCode) (id version : UInt8) (msg : Bytes)
    (pos n : ℕ) (more lengthIncluded : Bool) : Bytes :=
  let body := fragmentBody version msg pos n more lengthIncluded
  eapHeader (vendorType eapType).1 (vendorType eapType).2 (headerLen eapType + body.length) code
    id ++ body

lemma length_chunk {pos n : ℕ} (h : pos + n ≤ msg.length) : ((msg.drop pos).take n).length = n := by
  rw [length_take, length_drop]
  omega

lemma length_fragmentBody {pos n : ℕ} (more lengthIncluded : Bool) (h : pos + n ≤ msg.length) :
    (fragmentBody version msg pos n more lengthIncluded).length =
      1 + (if lengthIncluded then 4 else 0) + n := by
  rw [fragmentBody, length_cons, length_append, length_chunk h]
  cases lengthIncluded <;> simp <;> omega

lemma recognizable_vendorType (eapType : UInt8) :
    Recognizable (vendorType eapType).1 (vendorType eapType).2 := by
  have hlt := eapType.toNat_lt
  unfold vendorType
  split
  · exact ⟨by decide, by decide⟩
  next h255 =>
  split
  · exact ⟨by decide, by decide⟩
  next h254 =>
  refine ⟨(by decide : (0 : UInt32).toNat < 2 ^ 24), fun _ => ?_⟩
  have hne : eapType.toNat ≠ 254 := fun h => h254 (UInt8.toNat_inj.mp h)
  have hne' : eapType.toNat ≠ 255 := fun h => h255 (UInt8.toNat_inj.mp h)
  rw [UInt8.toNat_toUInt32]
  omega

/-- The header check leaves what was written. -/
lemma eapTlsHdrValidate_fragment (code : EapCode) (id version : UInt8) {pos n : ℕ} (more : Bool)
    {lengthIncluded : Bool} (hle : pos + n ≤ msg.length)
    (hfits : headerLen eapType + (1 + (if lengthIncluded then 4 else 0) + n) ≤ 65535) :
    eapTlsHdrValidate eapType
        (fragmentPacket eapType code id version msg pos n more lengthIncluded) =
      some (fragmentBody version msg pos n more lengthIncluded) := by
  rw [← length_fragmentBody version more lengthIncluded hle] at hfits
  exact eapHdrValidate_eapHeader (recognizable_vendorType eapType) code id rfl (by omega)

lemma eapTlsMsgAlloc_plenty (eapType : UInt8) (payloadLen : ℕ) (code : EapCode) (id : UInt8) :
    eapTlsMsgAlloc .plenty eapType payloadLen code id =
      some ⟨headerLen eapType + payloadLen, eapHeader (vendorType eapType).1 (vendorType eapType).2
        (headerLen eapType + payloadLen) code id⟩ := rfl

end Flags

/-- Writing the flags, the length if it is included and the part of the message into a buffer with
room for them appends them. -/
lemma put_packet {ρ : Type} (flags : UInt8) (lengthIncluded : Bool) (length : ℕ) (chunk : Bytes)
    {b : Wpabuf}
    (hroom : b.octets.length + (1 + (if lengthIncluded then 4 else 0) + chunk.length) ≤ b.size)
    (k : Wpabuf → Checked ρ) :
    (do
      let b ← b.putData [flags]
      let b ← if lengthIncluded then b.putData (be32 (UInt32.ofNat length)) else pure b
      let b ← b.putData chunk
      k b) =
      k (b.append (flags ::
        ((if lengthIncluded then be32 (UInt32.ofNat length) else []) ++ chunk))) := by
  rw [Wpabuf.putData_of_le (by rw [length_singleton]; omega), ok_bind]
  cases lengthIncluded with
  | false =>
    simp only [Bool.false_eq_true, if_false, pure_eq_ok, ok_bind] at hroom ⊢
    rw [Wpabuf.putData_of_le (by simp; omega), ok_bind, Wpabuf.append_append]
    rfl
  | true =>
    simp only [if_true] at hroom ⊢
    rw [Wpabuf.putData_of_le (by simp; omega), ok_bind,
      Wpabuf.putData_of_le (by simp; omega), ok_bind, Wpabuf.append_append,
      Wpabuf.append_append]
    simp

lemma lengthField {length : ℕ} (h : length ≤ 65536) (chunk : Bytes) :
    (ofBe32 (be32 (UInt32.ofNat length) ++ chunk)).toNat = length ∧
      (be32 (UInt32.ofNat length) ++ chunk).drop 4 = chunk := by
  refine ⟨?_, drop_left' (length_be32 _)⟩
  rw [ofBe32_be32, UInt32.toNat_ofNat']
  omega

lemma take_append_chunk (msg : Bytes) (pos n : ℕ) :
    msg.take pos ++ (msg.drop pos).take n = msg.take (pos + n) := (take_add).symm

/-! ## Senders -/

section Senders

variable (eapType id : UInt8) {msg : Bytes} {version : UInt8} {n : ℕ}
  {more lengthIncluded : Bool}

/-- The server after it has sent `n` octets of a message. -/
def ServerSslData.sent (data : ServerSslData) (msg : Bytes) (n : ℕ) : ServerSslData :=
  if data.tlsOutPos + n = msg.length then
    { data with tlsOut := none, tlsOutPos := 0, state := .msg }
  else { data with tlsOutPos := data.tlsOutPos + n, state := .waitFragAck }

/-- What the server sends of a message. -/
lemma eapServerTlsBuildMsg_eq {data : ServerSslData} (hout : data.tlsOut = some msg)
    (hversion : version.toNat < 8)
    (hfragment : data.fragment (msg.length - data.tlsOutPos) version =
      .ok (n, flagsOctet version more lengthIncluded))
    (hle : data.tlsOutPos + n ≤ msg.length) :
    ∃ size, eapServerTlsBuildMsg .plenty data eapType version id = .ok (data.sent msg n,
      some ⟨size, fragmentPacket eapType .request id version msg data.tlsOutPos n more
        lengthIncluded⟩) := by
  have hflag := (has_flagsOctet hversion more lengthIncluded).2
  have hchunk := length_chunk hle
  have hsub : subSize msg.length data.tlsOutPos = .ok (msg.length - data.tlsOutPos) :=
    if_pos (by omega)
  have hbody : 1 + n + (if lengthIncluded then 4 else 0) =
      (fragmentBody version msg data.tlsOutPos n more lengthIncluded).length := by
    rw [length_fragmentBody version more lengthIncluded hle]
    omega
  refine ⟨headerLen eapType +
    (fragmentBody version msg data.tlsOutPos n more lengthIncluded).length, ?_⟩
  unfold eapServerTlsBuildMsg
  rw [hout]
  dsimp only
  rw [hsub, ok_bind, hfragment, ok_bind]
  rw [hflag, eapTlsMsgAlloc_plenty, readAt_of_le hle]
  simp only [ok_bind]
  rw [put_packet _ _ _ _ (by rw [length_eapHeader, hchunk]; dsimp only [headerLen]; omega), hbody]
  simp only [ServerSslData.sent, hout]
  rfl

/-- The peer after it has sent `n` octets of a message. -/
def PeerSslData.sent (data : PeerSslData) (n : ℕ) (more : Bool) : PeerSslData :=
  if more then { data with tlsOutPos := data.tlsOutPos + n } else data.resetOutput

/-- What `eap_tls_process_output` sends: as much of the message as the limit lets it, with the
length in the first of several packets at least. -/
lemma eapTlsProcessOutput_eq (version : UInt8) (env : PeerEnv) {data : PeerSslData}
    (hout : data.tlsOut = some msg) (hle : data.tlsOutPos ≤ msg.length) :
    ∃ size lengthIncluded, eapTlsProcessOutput .plenty env data eapType version id =
        .ok (data.sent (min (msg.length - data.tlsOutPos) data.tlsOutLimit)
          (decide (data.tlsOutLimit < msg.length - data.tlsOutPos)),
        some ⟨size, fragmentPacket eapType .response id version msg data.tlsOutPos
          (min (msg.length - data.tlsOutPos) data.tlsOutLimit)
          (decide (data.tlsOutLimit < msg.length - data.tlsOutPos)) lengthIncluded⟩) ∧
      (data.tlsOutPos = 0 → data.tlsOutLimit < msg.length → lengthIncluded) ∧
      (lengthIncluded → data.tlsOutLimit < msg.length ∨ data.includeTlsLength ∨
        eapType = eapTypePeap ∧ version = 0 ∧ env.established = false) := by
  have hsub : subSize msg.length data.tlsOutPos = .ok (msg.length - data.tlsOutPos) := if_pos hle
  set n := min (msg.length - data.tlsOutPos) data.tlsOutLimit with hn
  have hend : data.tlsOutPos + n ≤ msg.length := by omega
  have hlen : (if decide (data.tlsOutLimit < msg.length - data.tlsOutPos)
      then data.tlsOutLimit else msg.length - data.tlsOutPos) = n := by
    simp only [decide_eq_true_eq]
    split <;> omega
  set more := decide (data.tlsOutLimit < msg.length - data.tlsOutPos)
  set lengthIncluded := decide (data.tlsOutPos = 0) &&
        (decide (data.tlsOutLimit < msg.length) || data.includeTlsLength) ||
      (eapType = eapTypePeap && version = 0 && !env.established) with hincluded
  have hbody : 1 + (if lengthIncluded then 4 else 0) + n =
      (fragmentBody version msg data.tlsOutPos n more lengthIncluded).length :=
    (length_fragmentBody version more lengthIncluded hend).symm
  refine ⟨headerLen eapType +
    (fragmentBody version msg data.tlsOutPos n more lengthIncluded).length, lengthIncluded, ?_,
    ?_, ?_⟩
  · have hflags : (version ||| (if more then flagMoreFragments else 0) |||
        if lengthIncluded then flagLengthIncluded else 0) =
        flagsOctet version more lengthIncluded := rfl
    unfold eapTlsProcessOutput
    rw [hout]
    dsimp only
    rw [hsub, ok_bind, ← hincluded, hlen, eapTlsMsgAlloc_plenty, readAt_of_le hend]
    simp only [ok_bind]
    rw [put_packet _ _ _ _ (by
        rw [length_eapHeader, length_chunk hend]
        dsimp only [headerLen]
        omega), hbody, hflags]
    simp only [PeerSslData.sent, PeerSslData.resetOutput, hout]
    rfl
  · intro hpos hlimit
    simp [hincluded, hpos, hlimit]
  · intro h
    simp only [hincluded, Bool.or_eq_true, Bool.and_eq_true, decide_eq_true_eq,
      Bool.not_eq_true'] at h
    tauto

end Senders

/-- What the two sides of an exchange have in common, and the environment of the peer. -/
structure Exchange where
  eapType : UInt8
  version : UInt8
  id : ℕ → UInt8
  env : PeerEnv

/-- The version is one that the flags octet has bits for, and the TLS library of the peer is in
order. -/
structure Exchange.Valid (x : Exchange) : Prop where
  version_lt : x.version.toNat < 8
  /-- `tls_get_errors` finds nothing. -/
  noErrors : x.env.tlsErrors = false

/-! ## The peer receives -/

section PeerReceives

variable {x : Exchange} {msg : Bytes} {data : PeerSslData} {pos n : ℕ}

/-- The peer has the first `pos` octets of a message and waits for the others. -/
structure PeerSslData.Holds (data : PeerSslData) (msg : Bytes) (pos : ℕ) : Prop where
  /-- The octets that have come are in the buffer; without any there is no buffer. -/
  tlsIn : (pos = 0 ∧ data.tlsIn = none) ∨
    ∃ buf, data.tlsIn = some buf ∧ buf.octets = msg.take pos ∧ buf.octets.length ≤ buf.size
  tlsInLeft : data.tlsInLeft = msg.length - pos

lemma PeerSslData.Holds.resize (h : data.Holds msg pos) (chunk : Bytes) :
    ∃ buf, Wpabuf.resize .plenty data.tlsIn chunk.length = some buf ∧ buf.octets = msg.take pos ∧
      buf.octets.length + chunk.length ≤ buf.size := by
  rcases h.tlsIn with ⟨rfl, hnone⟩ | ⟨buf, hsome, hoctets, hfits⟩
  · exact ⟨⟨chunk.length, []⟩, by rw [hnone]; rfl, by simp, by simp⟩
  rw [hsome]
  unfold Wpabuf.resize
  dsimp only
  split
  · exact ⟨_, if_pos rfl, hoctets, le_rfl⟩
  · exact ⟨buf, rfl, hoctets, by omega⟩

/-- The peer puts the next fragment behind what it has. -/
lemma PeerSslData.Holds.reassembleFragment (h : data.Holds msg pos) (hn : 0 < n)
    (hle : pos + n ≤ msg.length) (hmsg : msg.length ≤ 65536) :
    ∃ data', eapPeerTlsReassembleFragment .plenty data ((msg.drop pos).take n) =
        .ok (data', if pos + n < msg.length then .wait else .complete) ∧
      data'.Holds msg (pos + n) ∧ data'.tlsIn ≠ none ∧ data'.resetInput = data.resetInput := by
  have hchunk := length_chunk hle
  have hlen : (data.tlsIn.map (·.octets.length)).getD 0 = pos := by
    rcases h.tlsIn with ⟨rfl, hnone⟩ | ⟨buf, hsome, hoctets, -⟩
    · rw [hnone]
      rfl
    · rw [hsome, Option.map_some, Option.getD_some, hoctets, List.length_take]
      omega
  obtain ⟨buf, hresize, hoctets, hroom⟩ := h.resize ((msg.drop pos).take n)
  have hleft := h.tlsInLeft
  unfold eapPeerTlsReassembleFragment
  rw [hlen, hresize, hchunk, if_neg (by omega), if_neg (by omega), if_neg (by omega)]
  dsimp only
  rw [Wpabuf.putData_of_le hroom, ok_bind]
  refine ⟨{ data with
    tlsIn := some (buf.append ((msg.drop pos).take n)), tlsInLeft := data.tlsInLeft - n }, ?_,
    ⟨.inr ⟨_, rfl, ?_, ?_⟩, ?_⟩, nofun, rfl⟩
  · have hiff : 0 < data.tlsInLeft - n ↔ pos + n < msg.length := by omega
    simp only [hiff]
    rfl
  · rw [Wpabuf.octets_append, hoctets, take_append_chunk]
  · rw [Wpabuf.octets_append, List.length_append, Wpabuf.size_append]
    exact hroom
  · dsimp only
    omega

/-- The peer after it has looked at a packet that may announce the length of the message. -/
def PeerSslData.noteLength (data : PeerSslData) (lengthIncluded : Bool) (length : ℕ) :
    PeerSslData :=
  if lengthIncluded ∧ data.tlsInLeft = 0 then
    { data with tlsInTotal := length, tlsInLeft := length, tlsIn := none } else data

section Fragment

variable (hx : x.Valid) (code : EapCode) (id : UInt8) (more lengthIncluded : Bool)
  (hle : pos + n ≤ msg.length) (hmsg : msg.length ≤ 65536)
  (hfits : headerLen x.eapType + (1 + (if lengthIncluded then 4 else 0) + n) ≤ 65535)

include hx hle hmsg hfits

/-- What the peer reads of a packet of the server. -/
lemma eapPeerTlsProcessInit_fragment (data : PeerSslData) :
    eapPeerTlsProcessInit x.env data x.eapType
        (fragmentPacket x.eapType code id x.version msg pos n more lengthIncluded) =
      (data.noteLength lengthIncluded msg.length,
        some (flagsOctet x.version more lengthIncluded, (msg.drop pos).take n)) := by
  have hchunk := length_chunk hle
  have hflag := (has_flagsOctet hx.version_lt more lengthIncluded).2
  unfold eapPeerTlsProcessInit
  rw [hx.noErrors, if_neg (by decide), eapTlsHdrValidate_fragment code id x.version more hle hfits]
  cases lengthIncluded with
  | false => simp [fragmentBody, PeerSslData.noteLength, hflag]
  | true =>
    obtain ⟨hlength, hdrop⟩ := lengthField hmsg ((msg.drop pos).take n)
    simp only [fragmentBody, if_true, hflag, hdrop, hlength, hchunk]
    rw [if_neg (by simp), if_neg (by omega)]
    simp only [PeerSslData.noteLength, true_and]

/-- What the server reads of a packet of the peer. -/
lemma eapServerTlsProcess_fragment (data : ServerSslData) :
    eapServerTlsProcess .plenty data x.eapType
        (fragmentPacket x.eapType code id x.version msg pos n more lengthIncluded) = (do
      let (data, result) ← eapServerTlsReassembleRest .plenty data
        (flagsOctet x.version more lengthIncluded) (if lengthIncluded then msg.length else 0)
        ((msg.drop pos).take n)
      data.handOver result) := by
  have hchunk := length_chunk hle
  have hflag := (has_flagsOctet hx.version_lt more lengthIncluded).2
  unfold eapServerTlsProcess
  rw [eapTlsHdrValidate_fragment code id x.version more hle hfits]
  unfold eapServerTlsReassemble
  cases lengthIncluded with
  | false => simp only [fragmentBody, Bool.false_eq_true, if_false, hflag, List.nil_append]
  | true =>
    obtain ⟨hlength, hdrop⟩ := lengthField hmsg ((msg.drop pos).take n)
    simp only [fragmentBody, if_true, hflag, hdrop, hlength, hchunk]
    rw [if_neg (by simp), if_neg (by omega)]

end Fragment

/-- A fragment that is not the last. -/
lemma PeerSslData.Holds.processInput_wait (h : data.Holds msg pos) (hn : 0 < n)
    (hlt : pos + n < msg.length) (hmsg : msg.length ≤ 65536) :
    ∃ data', eapTlsProcessInput .plenty data ((msg.drop pos).take n) = .ok (data', .wait) ∧
      data'.Holds msg (pos + n) ∧ data'.tlsIn ≠ none ∧ data'.resetInput = data.resetInput := by
  obtain ⟨data', hfragment, hholds, hsome, hreset⟩ := h.reassembleFragment hn hlt.le hmsg
  refine ⟨data', ?_, hholds, hsome, hreset⟩
  have hleft := h.tlsInLeft
  unfold eapTlsProcessInput eapPeerTlsDataReassemble
  rw [if_pos (.inl (by rw [length_chunk hlt.le]; omega)), hfragment, if_pos hlt, ok_bind]
  rfl

/-- The last fragment hands the message over. -/
lemma PeerSslData.Holds.processInput_message (h : data.Holds msg pos) (hsome : data.tlsIn ≠ none)
    (hn : 0 < n) (hend : pos + n = msg.length) (hmsg : msg.length ≤ 65536) :
    eapTlsProcessInput .plenty data ((msg.drop pos).take n) =
      .ok (data.resetInput, .message msg) := by
  obtain ⟨data', hfragment, hholds, hsome', hreset⟩ := h.reassembleFragment hn hend.le hmsg
  unfold eapTlsProcessInput eapPeerTlsDataReassemble
  rw [if_pos (.inr (Option.isSome_iff_ne_none.mpr hsome)), hfragment, if_neg (by omega), ok_bind]
  rcases hholds.tlsIn with ⟨-, hnone⟩ | ⟨buf, hbuf, hoctets, -⟩
  · exact absurd hnone hsome'
  · rw [hend, List.take_length] at hoctets
    simp only [hbuf, hoctets, hreset]
    rfl

lemma eapTlsProcessInput_whole (hleft : data.tlsInLeft = 0) (hnone : data.tlsIn = none)
    (msg : Bytes) :
    eapTlsProcessInput .plenty data msg = .ok (data.resetInput, .message msg) := by
  unfold eapTlsProcessInput eapPeerTlsDataReassemble
  rw [if_neg (by simp [hleft, hnone])]
  rfl

end PeerReceives

/-! ## The server receives -/

section ServerReceives

variable {x : Exchange} {msg : Bytes} {data : ServerSslData} {pos n : ℕ}
  {more lengthIncluded : Bool}

/-- The first of several fragments. -/
lemma eapServerTlsReassembleRest_first (hx : x.Valid) (hstate : data.state ≠ .waitFragAck)
    (hin : data.tlsIn = none) (hmsg : msg.length ≤ 65536) {chunk : Bytes}
    (hchunk : chunk.length ≤ msg.length) :
    eapServerTlsReassembleRest .plenty data (flagsOctet x.version true true) msg.length chunk =
      .ok ({ data with tlsIn := some ⟨msg.length, chunk⟩, state := .fragAck }, .wait) := by
  obtain ⟨hmore, hlen⟩ := has_flagsOctet hx.version_lt true true
  unfold eapServerTlsReassembleRest eapServerTlsProcessFragment
  rw [if_neg hstate, hin]
  simp only [pure_eq_ok, ok_bind, hmore, hlen, if_true, hin]
  rw [if_neg (by decide), if_neg (by omega), if_neg (by omega), if_neg (by decide),
    Wpabuf.putData_of_le (by simpa using hchunk)]
  rfl

/-- The server puts the next fragment behind what it has. -/
lemma eapServerTlsReassembleRest_next (hx : x.Valid) (hstate : data.state = .fragAck)
    (hin : data.tlsIn = some ⟨msg.length, msg.take pos⟩) (hle : pos + n ≤ msg.length)
    (tlsMsgLen : ℕ) :
    eapServerTlsReassembleRest .plenty data (flagsOctet x.version more lengthIncluded) tlsMsgLen
        ((msg.drop pos).take n) =
      .ok ({ data with
        tlsIn := some ⟨msg.length, msg.take (pos + n)⟩
        state := if more then .fragAck else .msg }, if more then .wait else .complete) := by
  have hmore := (has_flagsOctet hx.version_lt more lengthIncluded).1
  have hpos : (msg.take pos).length = pos := by
    rw [List.length_take]
    omega
  have hchunk := length_chunk hle
  have hcont : eapServerTlsProcessCont ⟨msg.length, msg.take pos⟩ ((msg.drop pos).take n) =
      .ok (some ⟨msg.length, msg.take (pos + n)⟩) := by
    unfold eapServerTlsProcessCont
    rw [if_neg (by dsimp only; omega), Wpabuf.putData_of_le (by dsimp only; omega)]
    simp [Wpabuf.append, take_append_chunk]
  unfold eapServerTlsReassembleRest
  rw [if_neg (by rw [hstate]; decide), hin]
  simp only [hcont, pure_eq_ok, ok_bind, hmore]
  cases more with
  | true =>
    simp only [if_true, eapServerTlsProcessFragment, ok_bind]
  | false =>
    simp only [Bool.false_eq_true, if_false, hstate, if_true]

/-- A message in one packet. -/
lemma eapServerTlsReassembleRest_whole (hx : x.Valid) (hstate : data.state ≠ .waitFragAck)
    (hin : data.tlsIn = none) (tlsMsgLen : ℕ) (msg : Bytes) :
    eapServerTlsReassembleRest .plenty data (flagsOctet x.version false lengthIncluded) tlsMsgLen
        msg = .ok ({ data with tlsIn := some ⟨msg.length, msg⟩, state := .msg }, .complete) := by
  have hmore := (has_flagsOctet hx.version_lt false lengthIncluded).1
  unfold eapServerTlsReassembleRest
  simp only [pure_eq_ok, ok_bind, hmore, Bool.false_eq_true, if_false]
  cases hs : data.state with
  | waitFragAck => exact absurd hs hstate
  | fragAck => simp [hin]
  | msg => simp [hin, hs]

end ServerReceives

/-! ## Acknowledgements -/

variable {x : Exchange} {id : UInt8}

lemma headerLen_le (eapType : UInt8) : headerLen eapType ≤ 12 := by
  unfold headerLen typeLen sizeofEapHdr
  split <;> omega

lemma eapPeerTlsBuildAck_eq (x : Exchange) (id : UInt8) :
    ∃ size, eapPeerTlsBuildAck .plenty id x.eapType x.version =
      .ok (some ⟨size, fragmentPacket x.eapType .response id x.version [] 0 0 false false⟩) := by
  refine ⟨headerLen x.eapType + 1, ?_⟩
  unfold eapPeerTlsBuildAck
  rw [eapTlsMsgAlloc_plenty]
  dsimp only
  rw [Wpabuf.putData_of_le (by simp [headerLen])]
  simp [fragmentPacket, fragmentBody, Wpabuf.append]

lemma eapServerTlsBuildAck_eq (x : Exchange) (id : UInt8) :
    ∃ size, eapServerTlsBuildAck .plenty id x.eapType x.version =
      .ok (some ⟨size, fragmentPacket x.eapType .request id x.version [] 0 0 false false⟩) := by
  refine ⟨headerLen x.eapType + 1, ?_⟩
  unfold eapServerTlsBuildAck
  rw [eapTlsMsgAlloc_plenty]
  dsimp only
  rw [Wpabuf.putData_of_le (by simp [headerLen])]
  simp [fragmentPacket, fragmentBody, Wpabuf.append]

lemma eapServerTlsProcess_ack (hx : x.Valid) {server : ServerSslData}
    (hstate : server.state = .waitFragAck) :
    eapServerTlsProcess .plenty server x.eapType
        (fragmentPacket x.eapType .response id x.version [] 0 0 false false) =
      .ok (server, .wait) := by
  have hlen := headerLen_le x.eapType
  have hinside : 0 + 0 ≤ ([] : Bytes).length := le_rfl
  rw [eapServerTlsProcess_fragment hx .response id false false hinside (by simp) (by simp; omega)]
  unfold eapServerTlsReassembleRest
  rw [if_pos hstate]
  rfl

lemma eapPeerTlsProcessInit_ack (hx : x.Valid) (peer : PeerSslData) :
    eapPeerTlsProcessInit x.env peer x.eapType
        (fragmentPacket x.eapType .request id x.version [] 0 0 false false) =
      (peer, some (x.version, [])) := by
  have hlen := headerLen_le x.eapType
  have hinside : 0 + 0 ≤ ([] : Bytes).length := le_rfl
  have hinit := eapPeerTlsProcessInit_fragment hx .request id false false hinside (by simp)
    (by simp; omega) peer
  simpa [PeerSslData.noteLength] using hinit

end Hostapd.EapTls
