import Hostapd.Pae.Sas
import Hostapd.Pae.Send

/-!
# Receiving MKPDUs

`kay_l2_receive` of `ieee802_1x_kay.c` and what it calls: the sanity check with the search for the
ICV, the basic parameter set, the search for this participant in the sender's peer lists, and the
dispatch of the other parameter sets.

A position in the frame is the octets from it to the end. The three loops over parameter sets are
walks (`Wire.walk`) with the loop condition `left_len > MKA_HDR_LEN + DEFAULT_ICV_LEN`.
-/

namespace Hostapd.Pae

open Wire FirstMatch

/-! ## Walking over parameter sets -/

/-- `MKA_HDR_LEN + DEFAULT_ICV_LEN`: the loops over parameter sets stop when no more octets than
these are left. -/
def minSetLeft : ℕ := mkaHdrLen + defaultIcvLen

/-- The loop over parameter sets. -/
def walkSets {σ ρ : Type} (visit : σ → Bytes → Checked (σ ⊕ ρ)) (s : σ) (rest : Bytes) :
    Checked (σ ⊕ ρ) :=
  walk minSetLeft paramSetLen visit rest.length s rest

/-- Subtraction of two `size_t`. -/
def sizeSub (a b : ℕ) : ℕ := (a + 2 ^ 64 - b) % 2 ^ 64

/-- The parameter set at a position and the ICV fit into what is left of the frame. -/
def fitsWithIcv (rest : Bytes) : Bool :=
  decide (paramSetLen rest + defaultIcvLen ≤ rest.length)

/-! ## Dumps -/

/-- `ieee802_1x_mka_dump_basic_body`: the fixed part is read for the arguments of `wpa_printf`, the
CKN only if it is dumped. -/
def dumpBasicBody (env : Env) (mka : Bytes) : Checked Unit := do
  let _ ← readAt mka 0 sizeofBasicBody
  if env.debug then
    let _ ← readAt mka sizeofBasicBody (sizeSub (paramBodyLen mka + mkaHdrLen) sizeofBasicBody)

/-- The loop of `ieee802_1x_mka_dump_peer_body`. -/
def dumpPeers (env : Env) (rest : Bytes) : ℕ → ℕ → Checked Unit
  | 0, _ => .ok ()
  | n + 1, off => do
    let _ ← readAt rest (off + 12) 4
    if env.debug then
      let _ ← readAt rest off 12
    dumpPeers env rest n (off + sizeofPeerId)

def dumpPeerBody (env : Env) (rest : Bytes) : Checked Unit :=
  dumpPeers env rest ((paramBodyLen rest + 15) / 16) mkaHdrLen

/-- `ieee802_1x_mka_dump_sak_use_body`: key and packet numbers are read unless the body is empty. -/
def dumpSakUseBody (rest : Bytes) : Checked Unit := do
  if paramBodyLen rest ≠ 0 then
    let _ ← readAt rest mkaHdrLen (sizeofSakUseBody - mkaHdrLen)

/-- `ieee802_1x_mka_dump_dist_sak_body`: unless the body is empty, the key number and the wrapped
key are read. -/
def dumpDistSakBody (rest : Bytes) : Checked Unit := do
  if paramBodyLen rest ≠ 0 then
    let _ ← readAt rest mkaHdrLen 28

/-! ## Sanity check -/

/-- One round of `ieee802_1x_mka_decode_icv_body`.  It ends with the position of the ICV, with
`none` if the indicated ICV is too short, or, by `break`, with the end of the frame. -/
def visitIcv (mka : Bytes) (_ : Unit) (rest : Bytes) :
    Checked (Unit ⊕ Option Bytes) := do
  let _ ← readAt rest 0 mkaHdrLen
  if rest.length < paramSetLen rest then
    return .inr (some (mka.drop (mka.length - defaultIcvLen)))
  else if paramBodyType rest ≠ mkaIcvIndicator then
    return .inl ()
  else if paramBodyLen rest < defaultIcvLen then
    return .inr none
  else
    return .inr (some (rest.drop mkaHdrLen))

/-- `ieee802_1x_mka_decode_icv_body`: the octets from the ICV on. -/
def decodeIcvBody (mka : Bytes) : Checked (Option Bytes) := do
  match ← walkSets (visitIcv mka) () mka with
  | .inr icv => return icv
  | .inl () => return some (mka.drop (mka.length - defaultIcvLen))

/-- `mka_algo_agility`, `MKA_ALGO_AGILITY_2009`. -/
def mkaAlgoAgility : Octets 4 := ⟨[0x00, 0x80, 0xC2, 0x01], rfl⟩

/-- The octets of a frame after the Ethernet and EAPOL headers. -/
def mkaOf (buf : Bytes) : Bytes := buf.drop (sizeofEthHdr + sizeofEapolHdr)

def eapolLength (buf : Bytes) : ℕ := (ofBe16 (buf.drop 16)).toNat

variable (crypto : Crypto)

/-- The check of the ICV in `ieee802_1x_kay_mkpdu_sanity_check`. -/
def checkIcv (p : Participant) (buf : Bytes) : Checked Bool := do
  let icv := crypto.icvHash p.ick (buf.take (buf.length - defaultIcvLen))
  match ← decodeIcvBody (mkaOf buf) with
  | none => return false
  | some pos =>
    let msgIcv ← readAt pos 0 defaultIcvLen
    return decide (msgIcv = icv.val)

/-- The check of the CKN and what depends on it in `ieee802_1x_kay_mkpdu_sanity_check`. -/
def checkCkn (ps : List Participant) (buf : Bytes) : Checked Bool := do
  let mka := mkaOf buf
  match ← getParticipant ps (mka.drop sizeofBasicBody) with
  | none => return false
  | some p =>
    if (BasicBody.ofOctets mka).algoAgility ≠ mkaAlgoAgility then return false
    else checkIcv crypto p buf

variable (env : Env)

/-- `ieee802_1x_kay_mkpdu_sanity_check`, for a frame that `kay_l2_receive` accepts; `true` where the
source returns `0`. -/
def mkpduSanityCheck (ps : List Participant) (buf : Bytes) : Checked Bool := do
  let mka := mkaOf buf
  let mkaMsgLen := eapolLength buf
  if buf.take 6 ≠ paeGroupAddr.val then return false
  else if mkaMsgLen < 32 then return false
  else if mkaMsgLen % 4 ≠ 0 then return false
  else
    dumpBasicBody env mka
    if mkaMsgLen < mkaHdrLen + paramBodyLen mka + defaultIcvLen then return false
    else checkCkn crypto ps buf

/-! ## Basic parameter set -/

/-- What the basic parameter set writes to the peer that sent it. -/
def BasicBody.describe (body : BasicBody) (peer : Peer) : Peer :=
  { peer with
    macsecDesired := body.macsecDesired
    macsecCapability := body.macsecCapability
    isKeyServer := body.keyServer
    keyServerPriority := body.priority }

variable (p : Participant)

/-- The part of `ieee802_1x_mka_decode_basic_body` that finds the peer or creates it. -/
def decodePeer (body : BasicBody) : Participant × Bool :=
  match p.getPeer body.actorMi with
  | none =>
    let p := p.deletePeerSci body.actorSci
    match p.createPotentialPeer env .basicPeer body.actorMi body.actorMn body.describe with
    | none => (p, false)
    | some p => (p, true)
  | some peer =>
    if peer.mn < body.actorMn then
      (p.updatePeer body.actorMi fun peer =>
        body.describe { peer with mn := body.actorMn, expire := env.now + mkaLifeTime / 1000 },
        true)
    else (p, false)

variable (m : Mka)

/-- The end of `ieee802_1x_mka_decode_basic_body`: an MKPDU that is accepted is logged. -/
def Mka.endBasicBody (r : Participant × Bool) : Mka × Bool :=
  if r.2 then
    ({ m with self := r.1, kay := m.kay.log (.acceptedMkpdu r.1.id r.1.currentPeerId) }, true)
  else ({ m with self := r.1 }, false)

/-- `ieee802_1x_mka_decode_basic_body` from the point where the participant is found; the flag is
`false` where the source returns `NULL`. -/
def decodeBasicBody (body : BasicBody) : Mka × Bool :=
  let self? := if body.actorMi = m.self.mi then m.self.resetParticipantMi env .basicBody
    else some m.self
  match self? with
  | none => (m, false)
  | some p =>
    let p := { p with
      currentPeerId := ⟨body.actorMi, body.actorMn⟩
      currentPeerSci := body.actorSci }
    m.endBasicBody (decodePeer env p body)

/-! ## Live peers -/

/-- The entries of a peer list with a body of `len` octets, a multiple of 16. -/
def peerEntries (body : Bytes) (len : ℕ) : List PeerId :=
  (List.range (len / sizeofPeerId)).map fun i => PeerId.ofOctets (body.drop (i * sizeofPeerId))

/-- One round of `ieee802_1x_mka_i_in_peerlist`.  The list is dumped before its length is checked,
and a set of another type is skipped without a check. -/
def visitPeerlist (_ : Unit) (rest : Bytes) : Checked (Unit ⊕ Unit) := do
  let _ ← readAt rest 0 mkaHdrLen
  let type := paramBodyType rest
  let bodyLen := paramBodyLen rest
  if type ≠ mkaLivePeerList ∧ type ≠ mkaPotentialPeerList then return .inl ()
  else
    dumpPeerBody env rest
    if !fitsWithIcv rest then return .inl ()
    else if bodyLen % 16 ≠ 0 then return .inl ()
    else
      let body ← readAt rest mkaHdrLen bodyLen
      if (peerEntries body bodyLen).any fun e => e.mi == p.mi && e.mn == p.mn then return .inr ()
      else return .inl ()

/-- `ieee802_1x_mka_i_in_peerlist`. -/
def iInPeerlist (rest : Bytes) : Checked Bool := do
  match ← walkSets (visitPeerlist env p) () rest with
  | .inr () => return true
  | .inl () => return false

/-- The acceptance of the sender as live peer in `ieee802_1x_kay_decode_mkpdu`; `none` where the
source gives up for want of memory. -/
def acceptLivePeer (myIncluded : Bool) : Checked (Option Mka) := do
  let peer := m.self.currentPeerId
  if myIncluded && !m.self.isInLivePeer peer.mi then
    let self? ←
      if m.self.isInPotentialPeer peer.mi then m.self.moveLivePeer env peer.mi peer.mn
      else m.self.createLivePeer env peer.mi peer.mn
    return self?.map fun p => decideMacsecUse (electKeyServer { m with self := p })
  else return some m

/-! ## Parameter sets -/

/-- An entry of a peer list that names this participant: a larger message number than its own shows
that another one uses its member identifier. -/
def checkMyself (site : MiSite) (e : PeerId) (p : Participant) : Participant :=
  if e.mn > p.mn then (p.resetParticipantMi env site).getD p else p

/-- The loop of `ieee802_1x_mka_decode_live_peer_body`, at entry `i`. -/
def decodeLivePeers (env : Env) (isIncluded : Bool) : ℕ → List PeerId → Participant → Participant
  | _, [], p => p
  | i, e :: es, p =>
    if e.mi = p.mi then
      decodeLivePeers env isIncluded (i + 1) es (checkMyself env (.livePeer i) e p)
    else if !isIncluded then decodeLivePeers env isIncluded (i + 1) es p
    else if (p.getPeer e.mi).isSome then
      -- the entry is another member's word for what this peer has sent
      decodeLivePeers env isIncluded (i + 1) es (p.updatePeer e.mi fun peer =>
        { peer with mn := e.mn, expire := env.now + mkaLifeTime / 1000 })
    else
      match p.createPotentialPeer env (.listedPeer i) e.mi e.mn id with
      | none => p
      | some p => decodeLivePeers env isIncluded (i + 1) es p

variable (rest : Bytes)

/-- `ieee802_1x_mka_decode_live_peer_body`. -/
def decodeLivePeerBody : Checked Mka := do
  let isIncluded := m.self.isInLivePeer m.self.currentPeerId.mi
  let bodyLen := paramBodyLen rest
  if bodyLen % 16 ≠ 0 then return m
  else
    let body ← readAt rest mkaHdrLen bodyLen
    return { m with self := decodeLivePeers env isIncluded 0 (peerEntries body bodyLen) m.self }

/-- The loop of `ieee802_1x_mka_decode_potential_peer_body`, at entry `i`. -/
def decodePotentialPeers (env : Env) : ℕ → List PeerId → Participant → Participant
  | _, [], p => p
  | i, e :: es, p =>
    decodePotentialPeers env (i + 1) es
      (if e.mi = p.mi then checkMyself env (.potentialPeer i) e p else p)

/-- `ieee802_1x_mka_decode_potential_peer_body`. -/
def decodePotentialPeerBody : Checked Mka := do
  let bodyLen := paramBodyLen rest
  if bodyLen % 16 ≠ 0 then return m
  else
    let body ← readAt rest mkaHdrLen bodyLen
    return { m with self := decodePotentialPeers env 0 (peerEntries body bodyLen) m.self }

/-- The check of the latest key in `ieee802_1x_mka_decode_sak_use_body`: a live peer that reports
this participant's own latest key is marked.  The flag is `false` if the key is not known. -/
def checkLatestKey (peer : Peer) (body : SakUseBody) : Mka × Bool :=
  if body.ltx || body.lrx then
    let m := { m with
      kay := m.kay.log (.reportedSak m.self.id m.self.currentPeerId.mi body.lki body.lan) }
    if !m.self.sakList.any fun key => isKiEqual key.keyIdentifier body.lki then (m, false)
    else
      let m :=
        if m.self.lki = body.lki ∧ body.lan = m.self.lan then
          { m with
            self.livePeers := updatePeerMi m.self.livePeers m.self.currentPeerId.mi fun peer =>
              { peer with sakUsed := true } }
        else m
      if body.ltx && peer.isKeyServer then
        ({ m with cp := (m.cp.setServertransmitting true).smStep }, true)
      else (m, true)
  else (m, true)

variable (body : SakUseBody)

/-- The check of the old key in `ieee802_1x_mka_decode_sak_use_body`. -/
def oldKeyValid : Bool :=
  !(body.otx || body.orx) || (decide (p.oki = body.oki) && body.oan == p.oan)

/-- The check of the lowest packet numbers in `ieee802_1x_mka_decode_sak_use_body`. -/
def lowestPnValid : Bool :=
  !(body.delayProtect && (body.llpn == 0 || body.olpn == 0))

/-- In `ieee802_1x_mka_decode_sak_use_body` a distribution ends when all live peers use the SAK. -/
def checkAllReceiving : Mka :=
  if m.self.livePeers.all fun peer => peer.sakUsed then
    { m with
      kay := if m.self.toDistSak then
          m.kay.log (.endedDistribution m.self.id (m.self.livePeers.map Peer.mi))
        else m.kay
      self.toDistSak := false
      cp := (m.cp.setAllreceiving true).smStep }
  else m

/-- In `ieee802_1x_mka_decode_sak_use_body` a key server whose peer runs out of packet numbers asks
itself for a new SAK. -/
def checkPnExhaustion : Mka :=
  if body.llpn > m.kay.pnExhaustion && m.self.isKeyServer then { m with self.newSak := true } else m

/-- `ieee802_1x_mka_decode_sak_use_body` from the point where the SAK use of a live peer is dumped.
What follows in the source, the update of the next packet number of the transmit SA, concerns the
driver only. -/
def checkSakUse (peer : Peer) (rest : Bytes) : Mka :=
  let bodyLen := paramBodyLen rest
  if bodyLen ≠ 0 ∧ bodyLen < 40 then m
  else if bodyLen = 0 then m
  else
    let body := SakUseBody.ofOctets rest
    let r := checkLatestKey m peer body
    if !r.2 then r.1
    else if !oldKeyValid r.1.self body then r.1
    else if !lowestPnValid body then r.1
    else checkPnExhaustion (checkAllReceiving r.1) body

/-- `ieee802_1x_mka_decode_sak_use_body`. -/
def decodeSakUseBody : Checked Mka :=
  if !m.self.principal then .ok m
  else
    match m.self.getLivePeer m.self.currentPeerId.mi with
    | none => .ok m
    | some peer => do
      dumpSakUseBody rest
      return checkSakUse m peer rest

/-- A participant takes a distributed SAK from the sender: it is principal and not key server, the
KaY desires MACsec, and the sender is the live peer that is elected key server. -/
def acceptsDistSak : Bool :=
  m.self.principal && !m.self.isKeyServer && m.kay.macsecDesired &&
    m.kay.macsecCapable != .notImplemented &&
    (m.self.getLivePeer m.self.currentPeerId.mi).any fun peer =>
      sciEqual m.kay.keyServerSci peer.sci

def getCipherSuite (cs : UInt64) : Option CsIndex :=
  (List.finRange cipherSuiteTbl.length).find? fun i => (cipherSuiteTbl.get i).id == cs

/-- The cipher suite and the wrapped SAK of a distributed SAK parameter set with a body; `none` if
the cipher suite is not supported. -/
def wrappedSak : Checked (Option (CsIndex × Octets 24)) := do
  if paramBodyLen rest = 28 then
    let wrapped ← readAt rest sizeofDistSakBody 24
    return some (defaultCsIndex, Octets.ofList 24 wrapped)
  else
    let cs ← readAt rest sizeofDistSakBody 8
    match getCipherSuite (ofBe64 cs) with
    | none => return none
    | some i =>
      let wrapped ← readAt rest (sizeofDistSakBody + 8) 24
      return some (i, Octets.ofList 24 wrapped)

/-- The installation of a SAK in `ieee802_1x_mka_decode_dist_sak_body`. -/
def installSak (cs : CsIndex) (body : DistSakBody) (sak : Octets 16) : Mka :=
  let saKey : DataKey :=
    { id := m.kay.nextId
      keyIdentifier := ⟨m.self.currentPeerId.mi, body.kn⟩
      key := sak
      confidentialityOffset := body.confidOffset
      an := body.dan }
  { kay := m.kay.newDataKey saKey
    cp := signalSak m.cp (cipherSuiteTbl.get cs).id body.confidOffset saKey.keyIdentifier body.dan
    self := { m.self with sakList := saKey :: m.self.sakList, toUseSak := true } }

/-- The unwrapping of a SAK in `ieee802_1x_mka_decode_dist_sak_body`, and whether it succeeds. -/
def unwrapSak (crypto : Crypto) (env : Env) (m : Mka) (body : DistSakBody) (cs : CsIndex)
    (wrapped : Octets 24) : Mka × Bool :=
  let m := { m with kay.macsecCsindex := cs }
  if !env.alloc .unwrapSak then (m, false)
  else
    match crypto.aesUnwrap m.self.kek wrapped with
    | none => (m, false)
    | some sak =>
      if !env.alloc .distDataKey then (m, false) else (installSak m cs body sak, true)

/-- The SAK of a distributed SAK parameter set is known. -/
def knowsSak (body : DistSakBody) : Bool :=
  p.sakList.any fun key => decide (key.keyIdentifier = ⟨p.currentPeerId.mi, body.kn⟩)

/-- The part of `ieee802_1x_mka_decode_dist_sak_body` for a parameter set with a body: a SAK that is
not known is unwrapped and installed. -/
def decodeWrappedSak : Checked (Mka × Bool) := do
  dumpDistSakBody rest
  if knowsSak m.self (DistSakBody.ofOctets rest) then return (m, true)
  else
    match ← wrappedSak rest with
    | none => return (m, false)
    | some (cs, wrapped) => return unwrapSak crypto env m (DistSakBody.ofOctets rest) cs wrapped

/-- `ieee802_1x_mka_decode_dist_sak_body`, and whether it returns 0. -/
def decodeDistSakBody : Checked (Mka × Bool) :=
  let bodyLen := paramBodyLen rest
  if bodyLen ≠ 0 ∧ bodyLen ≠ 28 ∧ bodyLen < 36 then .ok (m, false)
  else if !acceptsDistSak m then .ok (m, false)
  else if bodyLen = 0 then
    .ok ({ m with
      kay := m.kay.setAuthenticated
      self.advisedDesired := false
      self.toUseSak := true
      cp := m.cp.connectAuthenticated.smStep }, true)
  else
    decodeWrappedSak crypto env { m with
      kay := m.kay.setSecured
      self.advisedDesired := true
      cp := m.cp.connectSecure.smStep } rest

/-- The `body_rx` column of `mka_body_handler`, by the type of the parameter set.  The functions for
a distributed CAK, KMD and announcements change nothing, and a type without a function is only
reported. -/
def bodyRx (type : UInt8) (rest : Bytes) : Checked Mka :=
  if type = mkaLivePeerList then decodeLivePeerBody env m rest
  else if type = mkaPotentialPeerList then decodePotentialPeerBody env m rest
  else if type = mkaSakUse then decodeSakUseBody m rest
  else if type = mkaDistributedSak then do return (← decodeDistSakBody crypto env m rest).1
  else .ok m

/-! ## Dispatch -/

variable {τ : Type} (handler : τ → UInt8 → Bytes → Checked τ)

/-- One round of the last loop of `ieee802_1x_kay_decode_mkpdu`; the loop state is what the handler
works on and the types handled.  It ends at an ICV indicator. -/
def visitSet (s : τ × Bytes) (rest : Bytes) : Checked ((τ × Bytes) ⊕ τ) := do
  let _ ← readAt rest 0 mkaHdrLen
  let type := paramBodyType rest
  if type = mkaIcvIndicator then return .inr s.1
  else if !fitsWithIcv rest then return .inl s
  else if type ∈ s.2 then return .inl s
  else
    let t ← handler s.1 type rest
    return .inl (t, type :: s.2)

/-- The last loop of `ieee802_1x_kay_decode_mkpdu`, for any function on parameter sets: a type is
handled once, and type 0 never.  The flag says that no ICV indicator ended the loop. -/
def dispatchSets (t : τ) (rest : Bytes) : Checked (τ × Bool) := do
  match ← walkSets (visitSet handler) (t, [0]) rest with
  | .inl s => return (s.1, true)
  | .inr t => return (t, false)

/-! ## MKPDUs -/

/-- The end of `ieee802_1x_kay_decode_mkpdu`: an ICV indicator that ends the last loop also skips
the reset of the retry counter. -/
def resetRetryCount (r : Mka × Bool) : Mka :=
  if r.2 then { r.1 with self.retryCount := 0 } else r.1

/-- `ieee802_1x_kay_decode_mkpdu` after the basic parameter set is accepted. -/
def decodeParamSets (mka : Bytes) : Checked Mka := do
  let rest ← advance mka (paramSetLen mka)
  let myIncluded ← iInPeerlist env m.self rest
  match ← acceptLivePeer env m myIncluded with
  | none => return m
  | some m =>
    let r ← dispatchSets (bodyRx crypto env) m rest
    return resetRetryCount r

/-- `ieee802_1x_kay_decode_mkpdu` from the point where the participant is found. -/
def decodeMkpduFor (mka : Bytes) : Checked Mka :=
  let r := decodeBasicBody env m (BasicBody.ofOctets mka)
  if r.2 then decodeParamSets crypto env r.1 mka else .ok r.1

/-- Write back what a function did to a participant, the KaY and the CP. -/
def System.writeBack (s : System) (m : Mka) : System :=
  { kay := m.kay, cp := m.cp, participants := updateParticipant s.participants m.self }

/-- `ieee802_1x_kay_decode_mkpdu`. -/
def decodeMkpdu (s : System) (buf : Bytes) : Checked System := do
  let mka := mkaOf buf
  if ← mkpduSanityCheck crypto env s.participants buf then
    if s.kay.isObligedKeyServer && (BasicBody.ofOctets mka).keyServer then return s
    else
      match ← getParticipant s.participants (mka.drop sizeofBasicBody) with
      | none => return s
      | some p =>
        let m ← decodeMkpduFor crypto env ⟨s.kay, s.cp, p⟩ mka
        return s.writeBack m
  else return s

/-- The checks of `kay_l2_receive`. -/
def l2Accepts (buf : Bytes) : Bool :=
  decide (sizeofEthHdr + sizeofEapolHdr ≤ buf.length) &&
    decide (buf.length = sizeofEthHdr + sizeofEapolHdr + eapolLength buf) &&
    !decide (octetAt buf 14 < eapolVersion) &&
    decide (ofBe16 (buf.drop 12) = ethPPae) && decide (octetAt buf 15 = eapolTypeMka)

/-- `kay_l2_receive`. -/
def kayL2Receive (s : System) (buf : Bytes) : Checked System :=
  if l2Accepts buf && !s.participants.isEmpty then decodeMkpdu crypto env s buf else .ok s

end Hostapd.Pae
