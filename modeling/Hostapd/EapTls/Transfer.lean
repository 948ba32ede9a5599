import Hostapd.EapTls.Receive

/-!
# A TLS message arrives as it was sent

One side sends a fragment, the other side takes it in and acknowledges it, and so on until the
message has been sent. In each direction the buffer of the receiver holds what is before the
position of the sender, and the last fragment completes the message, which is handed to TLS once.
The length field of the EAP header has 16 bits, so the packets must not be longer than that.
-/

namespace Hostapd.EapTls

open Wire Checked Eap List

/-! ## Transfers -/

/-- Two sides and what has passed between them. -/
structure Transfer (σ ρ : Type) where
  sender : σ
  receiver : ρ
  packets : ℕ
  handed : List Bytes

/-- Rounds of a transfer until the sender is done; none if a round fails or `n` rounds are not
enough. -/
def Transfer.run {σ ρ : Type} (round : Transfer σ ρ → Checked (Option (Transfer σ ρ)))
    (done : σ → Bool) : ℕ → Transfer σ ρ → Checked (Option (Transfer σ ρ))
  | 0, t => .ok (if done t.sender then some t else none)
  | n + 1, t =>
    if done t.sender then .ok (some t)
    else do
      match ← round t with
      | none => return none
      | some t => Transfer.run round done n t

section Run

variable {σ ρ : Type} {round : Transfer σ ρ → Checked (Option (Transfer σ ρ))} {done : σ → Bool}
  {t t' : Transfer σ ρ}

lemma Transfer.run_of_done (h : done t.sender) (n : ℕ) :
    Transfer.run round done n t = .ok (some t) := by
  cases n <;> simp [Transfer.run, h]

lemma Transfer.run_succ (h : done t.sender = false) (hround : round t = .ok (some t')) (n : ℕ) :
    Transfer.run round done (n + 1) t = Transfer.run round done n t' := by
  simp [Transfer.run, h, hround]

/-- A message arrives once if each round hands it over and ends the transfer, or leaves the two
sides in step at a later position in the message. -/
lemma Transfer.run_delivers {msg : Bytes} {sender : σ} {receiver : ρ} (At : ℕ → σ → ρ → Prop)
    (hopen : ∀ pos s r, At pos s r → done s = false) (hend : done sender)
    (hround : ∀ pos (t : Transfer σ ρ), At pos t.sender t.receiver →
      round t = .ok (some ⟨sender, receiver, t.packets + 1, t.handed ++ [msg]⟩) ∨
      ∃ pos' s r, round t = .ok (some ⟨s, r, t.packets + 1, t.handed⟩) ∧ At pos' s r ∧ pos < pos' ∧
        pos' < msg.length)
    {pos fuel : ℕ} (h : At pos t.sender t.receiver) (hfuel : max 1 (msg.length - pos) ≤ fuel) :
    ∃ packets ≤ t.packets + max 1 (msg.length - pos), Transfer.run round done fuel t =
      .ok (some ⟨sender, receiver, packets, t.handed ++ [msg]⟩) := by
  induction fuel generalizing t pos with
  | zero => omega
  | succ fuel ih =>
    rcases hround pos t h with hlast | ⟨pos', s, r, hnext, hat, hlt, hpos'⟩
    · exact ⟨t.packets + 1, by omega,
        (run_succ (hopen pos _ _ h) hlast fuel).trans (run_of_done hend fuel)⟩
    · obtain ⟨packets, hpackets, hrun⟩ :=
        @ih ⟨s, r, t.packets + 1, t.handed⟩ pos' hat (by omega)
      dsimp only at hpackets
      exact ⟨packets, by omega, (run_succ (hopen pos _ _ h) hnext fuel).trans hrun⟩

end Run

/-- The server sends a packet, the peer takes it in and, if it waits for more, acknowledges it. -/
def serverRound (x : Exchange) (t : Transfer ServerSslData PeerSslData) :
    Checked (Option (Transfer ServerSslData PeerSslData)) := do
  let (server, req) ← eapServerTlsBuildMsg .plenty t.sender x.eapType x.version (x.id t.packets)
  match req with
  | none => return none
  | some req =>
    match eapPeerTlsProcessInit x.env t.receiver x.eapType req.octets with
    | (_, none) => return none
    | (peer, some (_, inData)) =>
      let (peer, received) ← eapTlsProcessInput .plenty peer inData
      match received with
      | .failure => return none
      | .message msg => return some ⟨server, peer, t.packets + 1, t.handed ++ [msg]⟩
      | .wait =>
        match ← eapPeerTlsBuildAck .plenty (x.id t.packets) x.eapType x.version with
        | none => return none
        | some ack =>
          let (server, received) ← eapServerTlsProcess .plenty server x.eapType ack.octets
          match received with
          | .wait => return some ⟨server, peer, t.packets + 1, t.handed⟩
          | _ => return none

/-- The peer sends a packet, the server takes it in and, if it waits for more, acknowledges it. -/
def peerRound (x : Exchange) (t : Transfer PeerSslData ServerSslData) :
    Checked (Option (Transfer PeerSslData ServerSslData)) := do
  let (peer, resp) ← eapTlsProcessOutput .plenty x.env t.sender x.eapType x.version (x.id t.packets)
  match resp with
  | none => return none
  | some resp =>
    let (server, received) ← eapServerTlsProcess .plenty t.receiver x.eapType resp.octets
    match received with
    | .failure => return none
    | .message msg => return some ⟨peer, server, t.packets + 1, t.handed ++ [msg]⟩
    | .wait =>
      match ← eapServerTlsBuildAck .plenty (x.id t.packets) x.eapType x.version with
      | none => return none
      | some ack =>
        match eapPeerTlsProcessInit x.env peer x.eapType ack.octets with
        | (peer, some (_, [])) => return some ⟨peer, server, t.packets + 1, t.handed⟩
        | _ => return none

/-! ## From the server to the peer -/

section ServerToPeer

variable {x : Exchange} {msg : Bytes} {limit : ℕ} {t : Transfer ServerSslData PeerSslData}

def ServerSslData.done (data : ServerSslData) : Bool := data.tlsOut.isNone

/-- The server has sent the message. -/
def ServerSslData.sentAll (data : ServerSslData) : ServerSslData :=
  { data with tlsOut := none, tlsOutPos := 0, state := .msg }

/-- The server has a message to send; the peer has received nothing of it. -/
def serverSends (server : ServerSslData) (peer : PeerSslData) (msg : Bytes) (limit : ℕ) :
    Transfer ServerSslData PeerSslData :=
  ⟨{ server with tlsOut := some msg, tlsOutPos := 0, tlsOutLimit := limit }, peer.resetInput, 0, []⟩

/-- The server is about to send what follows the first `pos` octets, which the peer has. -/
structure ServerInStep (server : ServerSslData) (peer : PeerSslData) (msg : Bytes) (limit pos : ℕ)
    (s : ServerSslData) (r : PeerSslData) : Prop where
  tlsOut : s.tlsOut = some msg
  tlsOutPos : s.tlsOutPos = pos
  tlsOutLimit : s.tlsOutLimit = limit
  tlsIn : pos = 0 ∧ r.tlsIn = none ∧ r.tlsInLeft = 0 ∨
    0 < pos ∧ pos < msg.length ∧ r.Holds msg pos ∧ r.tlsIn ≠ none
  sentAll : s.sentAll = server
  resetInput : r.resetInput = peer

section InStep

variable {server s : ServerSslData} {peer r : PeerSslData} {pos : ℕ}
  (h : ServerInStep server peer msg limit pos s r)

include h

/-- The next fragment of the server. -/
lemma ServerInStep.fragment (hlimit : 6 ≤ limit) (version : UInt8) :
    s.fragment (msg.length - s.tlsOutPos) version =
      if limit < 1 + (msg.length - pos) then
        .ok (limit - 1 - (if pos = 0 then 4 else 0), flagsOctet version true (decide (pos = 0)))
      else .ok (msg.length - pos, flagsOctet version false false) := by
  unfold ServerSslData.fragment
  rw [h.tlsOutPos, h.tlsOutLimit]
  split
  · rw [subSize, if_pos (by omega), ok_bind]
    split
    · rename_i hpos
      rw [subSize, if_pos (by omega), ok_bind, decide_eq_true hpos]
      rfl
    · rename_i hpos
      rw [decide_eq_false hpos]
      simp [flagsOctet]
  · rw [flagsOctet_false]

lemma ServerInStep.holds : (r.noteLength (decide (pos = 0)) msg.length).Holds msg pos := by
  unfold PeerSslData.noteLength
  rcases h.tlsIn with ⟨rfl, -, hleft⟩ | ⟨hpos, -, hholds, -⟩
  · rw [if_pos ⟨rfl, hleft⟩]
    exact ⟨.inl ⟨rfl, rfl⟩, rfl⟩
  · rw [if_neg (by simp [hpos.ne'])]
    exact hholds

lemma ServerInStep.processInput (hmsg : msg.length ≤ 65536) :
    eapTlsProcessInput .plenty r ((msg.drop pos).take (msg.length - pos)) =
      .ok (r.resetInput, .message msg) := by
  rcases h.tlsIn with ⟨rfl, hnone, hleft⟩ | ⟨-, hlt, hholds, hsome⟩
  · simpa using eapTlsProcessInput_whole hleft hnone msg
  · exact hholds.processInput_message hsome (by omega) (by omega) hmsg

lemma ServerInStep.pos_le : pos ≤ msg.length := by
  rcases h.tlsIn with ⟨rfl, -⟩ | ⟨-, hlt, -⟩
  · exact Nat.zero_le _
  · exact hlt.le

end InStep

/-- The length of the longest packet that `eap_server_tls_build_msg` makes of a message. -/
def Exchange.serverPacketLen (x : Exchange) (limit : ℕ) (msg : Bytes) : ℕ :=
  headerLen x.eapType + min (1 + msg.length) limit

section Round

variable {server : ServerSslData} {peer : PeerSslData} {pos : ℕ} (hx : x.Valid) (hlimit : 6 ≤ limit)
  (hmsg : msg.length ≤ 65536) (hfits : x.serverPacketLen limit msg ≤ 65535)

include hx hlimit hmsg hfits

/-- The last round of the server hands the message over. -/
lemma ServerInStep.round_message (h : ServerInStep server peer msg limit pos t.sender t.receiver)
    (hlast : 1 + (msg.length - pos) ≤ limit) :
    serverRound x t = .ok (some ⟨server, peer, t.packets + 1, t.handed ++ [msg]⟩) := by
  rw [Exchange.serverPacketLen] at hfits
  have hpos := h.tlsOutPos
  have hle := h.pos_le
  have hfragment := h.fragment hlimit x.version
  rw [if_neg hlast.not_gt] at hfragment
  obtain ⟨size, hbuild⟩ := eapServerTlsBuildMsg_eq x.eapType (x.id t.packets) h.tlsOut
    hx.version_lt hfragment (by omega)
  have hsent : t.sender.sent msg (msg.length - pos) = server := by
    rw [ServerSslData.sent, hpos, if_pos (by omega), ← h.sentAll]
    rfl
  have hinside : pos + (msg.length - pos) ≤ msg.length := by omega
  have hinit := eapPeerTlsProcessInit_fragment hx .request (x.id t.packets) false false hinside hmsg
    (by simp; omega) t.receiver
  unfold serverRound
  rw [hbuild, ok_bind, hsent, hpos]
  dsimp only
  rw [hinit]
  dsimp only [PeerSslData.noteLength]
  rw [if_neg (by simp), h.processInput hmsg, ok_bind, h.resetInput]
  rfl

/-- Any other round of the server moves the position on. -/
lemma ServerInStep.round_wait (h : ServerInStep server peer msg limit pos t.sender t.receiver)
    (hmore : limit < 1 + (msg.length - pos)) :
    ∃ pos' s r, serverRound x t = .ok (some ⟨s, r, t.packets + 1, t.handed⟩) ∧
      ServerInStep server peer msg limit pos' s r ∧ pos < pos' ∧ pos' < msg.length := by
  rw [Exchange.serverPacketLen] at hfits
  have hpos := h.tlsOutPos
  have hfragment := h.fragment hlimit x.version
  obtain ⟨n, hn, hpositive, hlt, hsize⟩ : ∃ n, limit - 1 - (if pos = 0 then 4 else 0) = n ∧ 0 < n ∧
      pos + n < msg.length ∧ 1 + (if decide (pos = 0) then 4 else 0) + n = limit := by
    simp only [decide_eq_true_eq]
    refine ⟨_, rfl, ?_, ?_, ?_⟩ <;> by_cases hzero : pos = 0 <;>
      simp only [hzero, if_true, if_false] <;> omega
  rw [if_pos hmore, hn] at hfragment
  obtain ⟨size, hbuild⟩ := eapServerTlsBuildMsg_eq x.eapType (x.id t.packets) h.tlsOut
    hx.version_lt hfragment (by omega)
  have hsent : t.sender.sent msg n = { t.sender with
      tlsOutPos := pos + n, state := .waitFragAck } := by
    rw [ServerSslData.sent, hpos, if_neg (by omega)]
  have hinit := eapPeerTlsProcessInit_fragment hx .request (x.id t.packets) true (decide (pos = 0))
    hlt.le hmsg (by omega) t.receiver
  obtain ⟨r, hinput, hholds, hsome, hreset⟩ := h.holds.processInput_wait hpositive hlt hmsg
  obtain ⟨ackSize, hack⟩ := eapPeerTlsBuildAck_eq x (x.id t.packets)
  refine ⟨pos + n, { t.sender with tlsOutPos := pos + n, state := .waitFragAck }, r, ?_,
    ⟨h.tlsOut, rfl, h.tlsOutLimit, .inr ⟨by omega, hlt, hholds, hsome⟩, h.sentAll, ?_⟩, by omega,
    hlt⟩
  · unfold serverRound
    rw [hbuild, ok_bind, hsent, hpos]
    dsimp only
    rw [hinit]
    dsimp only
    rw [hinput, ok_bind]
    rw [hack, ok_bind]
    dsimp only
    rw [eapServerTlsProcess_ack hx rfl]
    rfl
  · rw [hreset, ← h.resetInput]
    unfold PeerSslData.noteLength
    split <;> rfl

/-- A message of the server arrives at the peer, and both sides are ready for the next one. -/
lemma server_to_peer (server : ServerSslData) (peer : PeerSslData) :
    ∃ packets ≤ max 1 msg.length, Transfer.run (serverRound x) ServerSslData.done (max 1 msg.length)
        (serverSends server peer msg limit) =
      .ok (some ⟨(serverSends server peer msg limit).sender.sentAll, peer.resetInput, packets,
        [msg]⟩) := by
  simpa [serverSends] using @Transfer.run_delivers _ _
    (serverRound x) ServerSslData.done (serverSends server peer msg limit) msg _ _
    (ServerInStep (serverSends server peer msg limit).sender.sentAll peer.resetInput msg limit)
    (fun pos s r h => by rw [ServerSslData.done, h.tlsOut]; rfl) rfl
    (fun pos t h => (le_or_gt (1 + (msg.length - pos)) limit).imp
      (h.round_message hx hlimit hmsg hfits) (h.round_wait hx hlimit hmsg hfits))
    0 _ ⟨rfl, rfl, rfl, .inl ⟨rfl, rfl, rfl⟩, rfl, rfl⟩ le_rfl

end Round

end ServerToPeer

/-! ## From the peer to the server -/

section PeerToServer

variable {x : Exchange} {msg : Bytes} {limit : ℕ} {t : Transfer PeerSslData ServerSslData}

def PeerSslData.done (data : PeerSslData) : Bool := data.tlsOut.isNone

/-- The server has handed the message over. -/
def ServerSslData.received (data : ServerSslData) : ServerSslData :=
  { data with tlsIn := none, state := .msg }

/-- The peer has a message to send; the server has received nothing of it, and has nothing left to
be acknowledged. -/
def peerSends (peer : PeerSslData) (server : ServerSslData) (msg : Bytes) (limit : ℕ) :
    Transfer PeerSslData ServerSslData :=
  ⟨{ peer with tlsOut := some msg, tlsOutPos := 0, tlsOutLimit := limit },
    { server.sentAll with tlsIn := none }, 0, []⟩

/-- The peer is about to send what follows the first `pos` octets, which the server has. -/
structure PeerInStep (peer : PeerSslData) (server : ServerSslData) (msg : Bytes) (limit pos : ℕ)
    (s : PeerSslData) (r : ServerSslData) : Prop where
  tlsOut : s.tlsOut = some msg
  tlsOutPos : s.tlsOutPos = pos
  tlsOutLimit : s.tlsOutLimit = limit
  tlsIn : pos = 0 ∧ r.tlsIn = none ∧ r.state ≠ .waitFragAck ∨
    0 < pos ∧ pos < msg.length ∧ r.tlsIn = some ⟨msg.length, msg.take pos⟩ ∧ r.state = .fragAck
  resetOutput : s.resetOutput = peer
  received : r.received = server

variable {peer s : PeerSslData} {server r : ServerSslData} {pos n : ℕ} {lengthIncluded : Bool}

/-- The server takes a fragment that is not the last. -/
lemma PeerInStep.reassemble_wait (hx : x.Valid) (hmsg : msg.length ≤ 65536)
    (h : PeerInStep peer server msg limit pos s r) (hlt : pos + n < msg.length)
    (hincluded : pos = 0 → lengthIncluded) :
    eapServerTlsReassembleRest .plenty r (flagsOctet x.version true lengthIncluded)
        (if lengthIncluded then msg.length else 0) ((msg.drop pos).take n) =
      .ok ({ r with tlsIn := some ⟨msg.length, msg.take (pos + n)⟩, state := .fragAck },
        .wait) := by
  rcases h.tlsIn with ⟨rfl, hnone, hstate⟩ | ⟨-, -, hsome, hstate⟩
  · rw [hincluded rfl, drop_zero, Nat.zero_add]
    exact eapServerTlsReassembleRest_first hx hstate hnone hmsg (by rw [length_take]; omega)
  · exact eapServerTlsReassembleRest_next hx hstate hsome hlt.le _

/-- The server takes the last fragment. -/
lemma PeerInStep.reassemble_complete (hx : x.Valid) (h : PeerInStep peer server msg limit pos s r) :
    eapServerTlsReassembleRest .plenty r (flagsOctet x.version false lengthIncluded)
        (if lengthIncluded then msg.length else 0) ((msg.drop pos).take (msg.length - pos)) =
      .ok ({ r with tlsIn := some ⟨msg.length, msg⟩, state := .msg }, .complete) := by
  rcases h.tlsIn with ⟨rfl, hnone, hstate⟩ | ⟨-, hlt, hsome, hstate⟩
  · rw [Nat.sub_zero, drop_zero, take_length]
    exact eapServerTlsReassembleRest_whole hx hstate hnone _ _
  · rw [eapServerTlsReassembleRest_next hx hstate hsome (by omega) _, take_of_length_le (by omega)]
    rfl

/-- The length of the longest packet that `eap_tls_process_output` makes of a message. -/
def Exchange.peerPacketLen (x : Exchange) (includeTlsLength : Bool) (limit : ℕ) (msg : Bytes) : ℕ :=
  headerLen x.eapType + (1 + (if limit < msg.length ∨ includeTlsLength ∨
    x.eapType = eapTypePeap ∧ x.version = 0 ∧ x.env.established = false then 4 else 0) +
    min msg.length limit)

section Round

variable (hx : x.Valid) (hlimit : 1 ≤ limit) (hmsg : msg.length ≤ 65536)
  (hfits : x.peerPacketLen peer.includeTlsLength limit msg ≤ 65535)

include hfits in
/-- A packet with `n` octets of the message is no longer than the longest one. -/
lemma PeerInStep.packet_fits (h : PeerInStep peer server msg limit pos t.sender t.receiver)
    (hincluded : lengthIncluded → t.sender.tlsOutLimit < msg.length ∨ t.sender.includeTlsLength ∨
      x.eapType = eapTypePeap ∧ x.version = 0 ∧ x.env.established = false)
    (hn : n ≤ min msg.length limit) :
    headerLen x.eapType + (1 + (if lengthIncluded then 4 else 0) + n) ≤ 65535 := by
  have hinclude : t.sender.includeTlsLength = peer.includeTlsLength :=
    congrArg (·.includeTlsLength) h.resetOutput
  rw [h.tlsOutLimit, hinclude] at hincluded
  rw [Exchange.peerPacketLen] at hfits
  split at hfits <;> split_ifs <;> first | omega | exact absurd (hincluded ‹_›) ‹_›

include hx hmsg hfits

/-- The last round of the peer hands the message over. -/
lemma PeerInStep.round_message (h : PeerInStep peer server msg limit pos t.sender t.receiver)
    (hlast : msg.length - pos ≤ limit) :
    peerRound x t = .ok (some ⟨peer, server, t.packets + 1, t.handed ++ [msg]⟩) := by
  have hle : pos ≤ msg.length := by
    rcases h.tlsIn with ⟨rfl, -⟩ | ⟨-, hlt, -⟩
    · exact Nat.zero_le _
    · exact hlt.le
  obtain ⟨size, lengthIncluded, hsend, -, honly⟩ := eapTlsProcessOutput_eq x.eapType
    (x.id t.packets) x.version x.env h.tlsOut (by rw [h.tlsOutPos]; exact hle)
  rw [h.tlsOutPos, h.tlsOutLimit, Nat.min_eq_left hlast, decide_eq_false hlast.not_gt] at hsend
  have hinside : pos + (msg.length - pos) ≤ msg.length := by omega
  have hprocess := eapServerTlsProcess_fragment hx .response (x.id t.packets) false lengthIncluded
    hinside hmsg (h.packet_fits hfits honly (by omega)) t.receiver
  rw [h.reassemble_complete hx, ok_bind] at hprocess
  unfold peerRound
  rw [hsend, ok_bind]
  dsimp only
  rw [hprocess, ← h.resetOutput, ← h.received]
  rfl

include hlimit

/-- Any other round of the peer moves the position on. -/
lemma PeerInStep.round_wait (h : PeerInStep peer server msg limit pos t.sender t.receiver)
    (hmore : limit < msg.length - pos) :
    ∃ pos' s r, peerRound x t = .ok (some ⟨s, r, t.packets + 1, t.handed⟩) ∧
      PeerInStep peer server msg limit pos' s r ∧ pos < pos' ∧ pos' < msg.length := by
  obtain ⟨size, lengthIncluded, hsend, hincluded, honly⟩ := eapTlsProcessOutput_eq x.eapType
    (x.id t.packets) x.version x.env h.tlsOut (by rw [h.tlsOutPos]; omega)
  rw [h.tlsOutPos, h.tlsOutLimit] at hsend hincluded
  rw [Nat.min_eq_right hmore.le, decide_eq_true hmore] at hsend
  have hsent : t.sender.sent limit true = { t.sender with tlsOutPos := pos + limit } := by
    rw [PeerSslData.sent, if_pos rfl, h.tlsOutPos]
  have hinside : pos + limit ≤ msg.length := by omega
  have hprocess := eapServerTlsProcess_fragment hx .response (x.id t.packets) true lengthIncluded
    hinside hmsg (h.packet_fits hfits honly (by omega)) t.receiver
  rw [h.reassemble_wait hx hmsg (by omega) fun hzero => hincluded hzero (by omega),
    ok_bind] at hprocess
  obtain ⟨ackSize, hack⟩ := eapServerTlsBuildAck_eq x (x.id t.packets)
  refine ⟨pos + limit, { t.sender with tlsOutPos := pos + limit },
    { t.receiver with tlsIn := some ⟨msg.length, msg.take (pos + limit)⟩, state := .fragAck }, ?_,
    ⟨h.tlsOut, rfl, h.tlsOutLimit, .inr ⟨by omega, by omega, rfl, rfl⟩, h.resetOutput,
      h.received⟩, by omega, by omega⟩
  unfold peerRound
  rw [hsend, ok_bind, hsent]
  dsimp only
  rw [hprocess]
  dsimp only [ServerSslData.handOver]
  rw [ok_bind]
  rw [hack, ok_bind]
  dsimp only
  rw [eapPeerTlsProcessInit_ack hx]
  rfl

/-- A message of the peer arrives at the server, and both sides are ready for the next one. -/
lemma peer_to_server (server : ServerSslData) :
    ∃ packets ≤ max 1 msg.length, Transfer.run (peerRound x) PeerSslData.done (max 1 msg.length)
        (peerSends peer server msg limit) =
      .ok (some ⟨(peerSends peer server msg limit).sender.resetOutput,
        (peerSends peer server msg limit).receiver.received, packets, [msg]⟩) := by
  have hlen : x.peerPacketLen (peerSends peer server msg limit).sender.resetOutput.includeTlsLength
      limit msg ≤ 65535 := hfits
  simpa [peerSends] using @Transfer.run_delivers _ _
    (peerRound x) PeerSslData.done (peerSends peer server msg limit) msg _ _
    (PeerInStep (peerSends peer server msg limit).sender.resetOutput
      (peerSends peer server msg limit).receiver.received msg limit)
    (fun pos s r h => by rw [PeerSslData.done, h.tlsOut]; rfl) rfl
    (fun pos t h => (le_or_gt (msg.length - pos) limit).imp
      (h.round_message hx hmsg hlen) (h.round_wait hx hlimit hmsg hlen))
    0 _ ⟨rfl, rfl, rfl, .inl ⟨rfl, rfl, nofun⟩, rfl, rfl⟩ le_rfl

end Round

end PeerToServer

/-! ## Both directions -/

/-- **Fragmentation loses nothing.**  In both directions the message is handed over exactly once and
as it was, in no more packets than it has octets (one for an empty message), and the sender has
nothing left, provided that the longest packet is not too long for the EAP length field. -/
theorem fragmentation_lossless (x : Exchange) (hx : x.Valid) (server : ServerSslData)
    (peer : PeerSslData) (msg : Bytes) (limit : ℕ) (hmsg : msg.length ≤ 65536)
    (hlimit : 6 ≤ limit) :
    (x.serverPacketLen limit msg ≤ 65535 →
      ∃ t, Transfer.run (serverRound x) ServerSslData.done (max 1 msg.length)
          (serverSends server peer msg limit) = .ok (some t) ∧
        t.handed = [msg] ∧ t.packets ≤ max 1 msg.length ∧ t.sender.tlsOut = none ∧
        t.receiver.tlsIn = none ∧ t.receiver.tlsInLeft = 0) ∧
    (x.peerPacketLen peer.includeTlsLength limit msg ≤ 65535 →
      ∃ t, Transfer.run (peerRound x) PeerSslData.done (max 1 msg.length)
          (peerSends peer server msg limit) = .ok (some t) ∧
        t.handed = [msg] ∧ t.packets ≤ max 1 msg.length ∧ t.sender.tlsOut = none ∧
        t.receiver.tlsIn = none ∧ t.receiver.state = .msg) := by
  constructor
  · intro hfits
    obtain ⟨packets, hpackets, hrun⟩ := server_to_peer hx hlimit hmsg hfits server peer
    exact ⟨_, hrun, rfl, hpackets, rfl, rfl, rfl⟩
  · intro hfits
    obtain ⟨packets, hpackets, hrun⟩ := peer_to_server hx (by omega) hmsg hfits server
    exact ⟨_, hrun, rfl, hpackets, rfl, rfl, rfl⟩

def plainExchange : Exchange := ⟨13, 0, fun _ => 0, ⟨false, false, false⟩⟩

lemma plainExchange_valid : plainExchange.Valid := ⟨by decide, rfl⟩

/-- Twenty octets in fragments of eight. -/
theorem fragmentation_lossless_of_twenty :
    let server : ServerSslData := ⟨none, 0, 8, none, .msg⟩
    let peer : PeerSslData := ⟨none, 0, 8, none, 0, 0, false⟩
    let msg : Bytes := replicate 20 7
    (∃ t, Transfer.run (serverRound plainExchange) ServerSslData.done 20
        (serverSends server peer msg 8) = .ok (some t) ∧ t.handed = [msg]) ∧
    (∃ t, Transfer.run (peerRound plainExchange) PeerSslData.done 20
        (peerSends peer server msg 8) = .ok (some t) ∧ t.handed = [msg]) := by
  intro server peer msg
  obtain ⟨htoPeer, htoServer⟩ := fragmentation_lossless plainExchange plainExchange_valid server
    peer msg 8 (by decide) (by decide)
  obtain ⟨t, hrun, hhanded, -⟩ := htoPeer (by decide)
  obtain ⟨t', hrun', hhanded', -⟩ := htoServer (by decide)
  exact ⟨⟨t, hrun, hhanded⟩, ⟨t', hrun', hhanded'⟩⟩

/-! ## Conversations -/

/-- A message that the TLS library of one side gives out. -/
inductive Flight
  | server (msg : Bytes)
  | peer (msg : Bytes)

def Flight.msg : Flight → Bytes
  | server msg => msg
  | peer msg => msg

/-- The length of the longest packet with which the message is sent, with the limit of its side. -/
def Flight.packetLen (x : Exchange) (limit limit' : ℕ) (includeTlsLength : Bool) : Flight → ℕ
  | server msg => x.serverPacketLen limit msg
  | peer msg => x.peerPacketLen includeTlsLength limit' msg

/-- The two sides and what has been handed to their TLS libraries. -/
structure Sides where
  server : ServerSslData
  peer : PeerSslData
  handed : List Bytes

/-- A message is sent and acknowledged packet by packet. -/
def Sides.send (x : Exchange) (s : Sides) : Flight → Checked (Option Sides)
  | .server msg => do
    let t ← Transfer.run (serverRound x) ServerSslData.done (max 1 msg.length)
      ⟨{ s.server with tlsOut := some msg }, s.peer, 0, []⟩
    return t.map fun t => ⟨t.sender, t.receiver, s.handed ++ t.handed⟩
  | .peer msg => do
    let t ← Transfer.run (peerRound x) PeerSslData.done (max 1 msg.length)
      ⟨{ s.peer with tlsOut := some msg }, s.server, 0, []⟩
    return t.map fun t => ⟨t.receiver, t.sender, s.handed ++ t.handed⟩

/-- The messages are sent one after the other. -/
def Sides.converse (x : Exchange) : List Flight → Sides → Checked (Option Sides)
  | [], s => .ok (some s)
  | f :: fs, s => do
    match ← s.send x f with
    | none => return none
    | some s => Sides.converse x fs s

/-- Both sides have nothing to send and nothing to wait for. -/
def Sides.idle (limit limit' : ℕ) (includeTlsLength : Bool) (handed : List Bytes) : Sides :=
  ⟨⟨none, 0, limit, none, .msg⟩, ⟨none, 0, limit', none, 0, 0, includeTlsLength⟩, handed⟩

/-- A message leaves both sides as they were, and is handed over. -/
lemma Sides.send_idle {x : Exchange} (hx : x.Valid) {f : Flight} {limit limit' : ℕ}
    (hlimit : 6 ≤ limit) (hlimit' : 1 ≤ limit') (hmsg : f.msg.length ≤ 65536)
    {includeTlsLength : Bool} (hfits : f.packetLen x limit limit' includeTlsLength ≤ 65535)
    (handed : List Bytes) :
    (idle limit limit' includeTlsLength handed).send x f =
      .ok (some (idle limit limit' includeTlsLength (handed ++ [f.msg]))) := by
  cases f with
  | server msg =>
    obtain ⟨packets, -, hrun⟩ := server_to_peer hx hlimit hmsg hfits
      (idle limit limit' includeTlsLength []).server (idle limit limit' includeTlsLength []).peer
    exact (congrArg (· >>= _) hrun).trans rfl
  | peer msg =>
    obtain ⟨packets, -, hrun⟩ := @peer_to_server x msg limit'
      (idle limit limit' includeTlsLength []).peer hx hlimit' hmsg hfits
      (idle limit limit' includeTlsLength []).server
    exact (congrArg (· >>= _) hrun).trans rfl

/-- All messages of a conversation are handed over, in order and as they were, and both sides are
left without anything to send or to wait for. -/
theorem conversation_lossless {x : Exchange} (hx : x.Valid) {limit limit' : ℕ} (hlimit : 6 ≤ limit)
    (hlimit' : 1 ≤ limit') (includeTlsLength : Bool) (flights : List Flight)
    (hfits : ∀ f ∈ flights, f.msg.length ≤ 65536 ∧
      f.packetLen x limit limit' includeTlsLength ≤ 65535) :
    Sides.converse x flights (.idle limit limit' includeTlsLength []) =
      .ok (some (.idle limit limit' includeTlsLength (flights.map Flight.msg))) := by
  suffices hfrom : ∀ handed, Sides.converse x flights (.idle limit limit' includeTlsLength handed) =
      .ok (some (.idle limit limit' includeTlsLength (handed ++ flights.map Flight.msg)))
    from hfrom []
  induction flights with
  | nil =>
    intro handed
    rw [map_nil, append_nil]
    rfl
  | cons f flights ih =>
    intro handed
    obtain ⟨hmsg, hlen⟩ := hfits f mem_cons_self
    rw [Sides.converse, Sides.send_idle hx hlimit hlimit' hmsg hlen, ok_bind]
    dsimp only
    rw [ih (fun f hf => hfits f (mem_cons_of_mem _ hf)), append_assoc, singleton_append, map_cons]

/-- A request of twenty octets in fragments of eight, and an answer of twelve in fragments of
seven. -/
theorem conversation_lossless_of_two :
    Sides.converse plainExchange [.server (replicate 20 7), .peer (replicate 12 9)]
        (.idle 8 7 false []) =
      .ok (some (.idle 8 7 false [replicate 20 7, replicate 12 9])) :=
  @conversation_lossless plainExchange plainExchange_valid 8 7 (by decide) (by decide) false
    [.server (replicate 20 7), .peer (replicate 12 9)] (by decide)

/-! ## A packet that is too long -/

variable {msg : Bytes}

/-- The header of a message of 65536 octets in one packet announces six octets, and the header check
leaves the flags octet of it. -/
lemma eapTlsHdrValidate_overlong (h : msg.length = 65536) :
    eapTlsHdrValidate 13 (fragmentPacket 13 .request 0 0 msg 0 65536 false false) = some [0] := by
  have hbody : fragmentBody 0 msg 0 65536 false false = 0 :: msg := by
    rw [fragmentBody, drop_zero, take_of_length_le h.le]
    rfl
  have hheader : eapHeader (vendorType 13).1 (vendorType 13).2 65542 .request 0 =
      [1, 0, 0, 6, 13] := by decide
  have hoctets : fragmentPacket 13 .request 0 0 msg 0 65536 false false =
      1 :: 0 :: 0 :: 6 :: 13 :: 0 :: msg := by
    simp only [fragmentPacket, hbody]
    rw [length_cons, h, show headerLen 13 + (65536 + 1) = 65542 by decide, hheader]
    rfl
  have hlen : (1 :: 0 :: 0 :: 6 :: 13 :: 0 :: msg).length = 65542 := by simp [h]
  have hfield : (ofBe16 ((1 :: 0 :: 0 :: 6 :: 13 :: 0 :: msg).drop 2)).toNat = 6 :=
    congrArg UInt16.toNat (ofBe16_be16 6 (13 :: 0 :: msg))
  rw [hoctets]
  unfold eapTlsHdrValidate eapHdrValidate
  rw [hlen, hfield, if_neg (by decide), if_neg (by decide)]
  rfl

/-- With a fragment limit above the EAP length field a message of 65536 octets does not arrive. -/
lemma serverRound_overlong (server : ServerSslData) (peer : PeerSslData)
    (h : msg.length = 65536) :
    ∃ t, serverRound plainExchange (serverSends server peer msg 65537) = .ok (some t) ∧
      t.sender.done ∧ t.handed = [[]] := by
  have hfragment : (serverSends server peer msg 65537).sender.fragment (msg.length - 0) 0 =
      .ok (65536, flagsOctet 0 false false) := by
    unfold ServerSslData.fragment serverSends
    dsimp only
    rw [h, if_neg (by omega), flagsOctet_false]
  have hversion : (0 : UInt8).toNat < 8 := by decide
  have hout : (serverSends server peer msg 65537).sender.tlsOut = some msg := rfl
  have hpos : (serverSends server peer msg 65537).sender.tlsOutPos = 0 := rfl
  obtain ⟨size, hbuild⟩ := eapServerTlsBuildMsg_eq 13 0 hout hversion hfragment (by omega)
  have hinit : eapPeerTlsProcessInit plainExchange.env peer.resetInput 13
      (fragmentPacket 13 .request 0 0 msg 0 65536 false false) =
      (peer.resetInput, some (0, [])) := by
    unfold eapPeerTlsProcessInit
    rw [eapTlsHdrValidate_overlong h]
    rfl
  refine ⟨⟨(serverSends server peer msg 65537).sender.sent msg 65536, peer.resetInput, 1, [[]]⟩, ?_,
    ?_, rfl⟩
  · unfold serverRound
    dsimp only [plainExchange] at hbuild hinit ⊢
    rw [hbuild, ok_bind]
    dsimp only [serverSends]
    rw [hinit]
    dsimp only
    rfl
  · unfold ServerSslData.sent serverSends
    dsimp only
    rw [if_pos (by omega)]
    rfl

/-- So a message of 65536 octets is lost. -/
theorem overlong_packet_loses_message :
    ∃ t, Transfer.run (serverRound plainExchange) ServerSslData.done 1
        (serverSends ⟨none, 0, 65537, none, .msg⟩ ⟨none, 0, 65537, none, 0, 0, false⟩
          (replicate 65536 7) 65537) = .ok (some t) ∧ t.handed = [[]] := by
  obtain ⟨t, hround, hdone, hhanded⟩ := serverRound_overlong ⟨none, 0, 65537, none, .msg⟩
    ⟨none, 0, 65537, none, 0, 0, false⟩ (length_replicate (n := 65536) (a := (7 : UInt8)))
  exact ⟨t, (Transfer.run_succ rfl hround 0).trans (Transfer.run_of_done hdone 0), hhanded⟩

end Hostapd.EapTls
