import Hostapd.Foundation.Machine
import Hostapd.Pae.Receive

/-!
# The KaY as an event-driven system

What drives the KaY of `ieee802_1x_kay.c` and its CP: the participant timer, the frames received,
the event loop callbacks of the CP, and the management calls, among them the replacement of the MKA
instance after a reauthentication in `hapd_kay.c` and `wpas_kay.c`.  `System.step` is the system's
reaction to one event and `kayInit` its initial state.
-/

namespace Hostapd.Pae

open Wire FirstMatch

/-! ## The participant timer -/

/-- Delete the receive SCs that satisfy `sel`, with their receive SAs. -/
def dropReceiveScs (sel : ReceiveSc → Bool) (k : Kay) (rxscs : List ReceiveSc) :
    Kay × List ReceiveSc :=
  (k.deinitDataKeys ((rxscs.filter sel).flatMap fun rxsc => rxsc.saList.map ReceiveSa.pkey),
    rxscs.filter fun rxsc => !sel rxsc)

def Peer.expired (env : Env) (peer : Peer) : Bool := decide (env.now > peer.expire)

/-- The receive SCs of each expired peer are deleted. -/
def expireReceiveScs (peers : List Peer) (k : Kay) (rxscs : List ReceiveSc) :
    Kay × List ReceiveSc :=
  peers.foldl (fun r peer => dropReceiveScs (fun rxsc => sciEqual rxsc.sci peer.sci) r.1 r.2)
    (k, rxscs)

/-- The loop over the live peers of `ieee802_1x_participant_timer`. -/
def expireLivePeers (env : Env) (m : Mka) : Mka :=
  let gone := m.self.livePeers.filter fun peer => peer.expired env
  let (kay, rxscs) := expireReceiveScs gone m.kay m.self.rxscList
  { m with
    kay := kay
    self.rxscList := rxscs
    self.livePeers := m.self.livePeers.filter fun peer => !peer.expired env }

/-- What `ieee802_1x_participant_timer` does when a live peer is gone. -/
def livePeersChanged (m : Mka) : Mka :=
  if m.self.livePeers.isEmpty then
    let (kay, txsc) := dropTransmitSas (fun _ => true) m.kay m.self.txsc
    { kay := kay.setAuthenticated
      cp := m.cp.connectAuthenticated.smStep
      self := { m.self with advisedDesired := false, toUseSak := false, txsc := txsc } }
  else decideMacsecUse (electKeyServer m)

variable (crypto : Crypto) (env : Env)

/-- The generation of a SAK in `ieee802_1x_participant_timer`: `new_sak` is cleared whether a SAK
was generated or not. -/
def timerNewSak (m : Mka) : Mka :=
  if m.self.newSak then
    match generateNewSak crypto env m with
    | some m => { m with self.toDistSak := true, self.newSak := false }
    | none => { m with self.newSak := false }
  else m

/-- An MKPDU is sent at most `MAX_RETRY_CNT` times without an answer. -/
def sendRetry (k : Kay) (p : Participant) : Checked (Kay × Participant) :=
  if p.retryCount < maxRetryCnt then do
    let (k, p) ← sendMkpdu crypto env k p
    return (k, { p with retryCount := p.retryCount + 1 })
  else .ok (k, p)

/-- The part of `ieee802_1x_participant_timer` about peers: live and potential peers expire. -/
def timerPeers (m : Mka) : Mka :=
  let changed := m.self.livePeers.any fun peer => peer.expired env
  let m := expireLivePeers env m
  let m := if changed then livePeersChanged m else m
  { m with self.potentialPeers := m.self.potentialPeers.filter fun peer => !peer.expired env }

/-- `ieee802_1x_participant_timer` of a participant that it does not delete. -/
def participantTimerFor (m : Mka) : Checked Mka := do
  let m := if m.self.livePeers.isEmpty then m else { m with self.mkaLife := 0 }
  let m := timerNewSak crypto env (timerPeers env m)
  let (kay, p) ← sendRetry crypto env m.kay m.self
  return { m with kay := kay, self := p }

/-- The timer deletes the MKA instance: its CAK is too old, or it has had no live peer. -/
def timerDeletes (p : Participant) : Bool :=
  (p.cakLife != 0 && decide (env.now > p.cakLife)) ||
    (p.mkaLife != 0 && p.livePeers.isEmpty && decide (env.now > p.mkaLife))

/-! ## Creating and deleting participants -/

variable (s : System)

/-- `ieee802_1x_kay_delete_mka_common` and the release of the transmit SAs that follows it. -/
def deleteParticipant (p : Participant) : System :=
  { s with
    kay := (dropTransmitSas (fun _ => true)
      (dropReceiveScs (fun _ => true) (s.kay.deinitDataKeys p.sakList) p.rxscList).1 p.txsc).1
    participants := s.participants.eraseP fun q => q.id == p.id }

/-- `ieee802_1x_kay_delete_mka`, and `ieee802_1x_kay_delete_mka_hotswap`, which only leaves the
transmit SC to the SecY. -/
def deleteMka (ckn : MkaKeyName) : Checked System := do
  match ← getParticipant s.participants ckn.name.val with
  | none => return s
  | some p => return deleteParticipant s p

/-- The participant that `ieee802_1x_kay_create_mka` fills in, in zeroed memory. -/
def newParticipant (ckn : MkaKeyName) (cak : Octets 16) (life : ℕ) (mode : MkaCreatedMode)
    (isAuthenticator : Bool) (mi : Mi) : Participant where
  id := s.kay.nextId
  ckn := ckn
  cak := cak
  kek := crypto.kekTrfm cak ckn.octets
  ick := crypto.ickTrfm cak ckn.octets
  principal := mode == .psk || isAuthenticator
  livePeers := []
  potentialPeers := []
  lki := Ki.zero
  lan := 0
  ltx := false
  lrx := false
  oki := Ki.zero
  oan := 0
  otx := false
  orx := false
  isKeyServer := mode == .psk || isAuthenticator
  isObligedKeyServer := mode == .eapExchange && isAuthenticator
  canBeKeyServer := mode == .psk || isAuthenticator
  isElected := mode == .eapExchange
  sakList := []
  rxscList := []
  txsc := ⟨s.kay.actorSci, []⟩
  mi := mi
  mn := 0
  currentPeerId := ⟨Octets.zero 12, 0⟩
  currentPeerSci := Sci.zero
  cakLife := if life = 0 then 0 else life + env.now
  mkaLife := if mode = .psk then 0
    else mkaLifeTime / 1000 + env.now + env.osRandom % (mkaHelloTime * 1000) / 1000000
  toDistSak := false
  toUseSak := false
  newSak := false
  advisedDesired := false
  newKey := none
  retryCount := 0

/-- `ieee802_1x_kay_create_mka`. The source does not check that the transmit SC was allocated. -/
def createMka (crypto : Crypto) (env : Env) (s : System) (ckn : MkaKeyName) (cak : Octets 16)
    (life : ℕ) (mode : MkaCreatedMode) (isAuthenticator : Bool) : Checked System :=
  if !env.alloc .participant then .ok s
  else
    let s :=
      if mode == .eapExchange && isAuthenticator then
        { s with kay.keyServerSci := s.kay.actorSci, kay.keyServerPriority := s.kay.actorPriority }
      else s
    match env.randomMi .createMka with
    | none => .ok s
    | some mi =>
      if !env.alloc .transmitSc then .error .nullPointer
      else
        .ok { s with
          kay.nextId := s.kay.nextId + 1
          cp.secy.protectFrames := s.kay.conf.macsecProtect
          cp.secy.replayProtect := s.kay.conf.macsecReplayProtect
          cp.secy.replayWindow := s.kay.conf.macsecReplayWindow
          participants :=
            newParticipant crypto env s ckn cak life mode isAuthenticator mi :: s.participants }

/-- The loop of `ieee802_1x_create_hapd_mka` that deletes the participants. -/
def deleteAllMka : ℕ → System → Checked System
  | 0, s => .ok s
  | n + 1, s =>
    match s.participants with
    | [] => .ok s
    | p :: _ => deleteMka s p.ckn >>= deleteAllMka n

/-- `ieee802_1x_create_hapd_mka` on a KaY that exists: the MKA instances are replaced by a new
one. -/
def hotSwap (ckn : MkaKeyName) (cak : Octets 16) (isAuthenticator : Bool) : Checked System := do
  let s ← deleteAllMka s.participants.length { s with cp := s.cp.connectUnauthenticated.smStep }
  createMka crypto env s ckn cak 0 .eapExchange isAuthenticator

/-- `ieee802_1x_kay_new_sak`. -/
def kayNewSak : System :=
  { s with
    participants := updatePrincipalParticipant s.participants fun p => { p with newSak := true } }

/-! ## Events -/

/-- The KaY functions as the CP calls them. -/
def kayOps : KayOps Env KayState where
  mallocLki := fun env => env.alloc .cpLki
  setLatestSaAttr := KayState.setLatestSaAttr
  setOldSaAttr := KayState.setOldSaAttr
  createSas := KayState.createSas
  deleteSas := KayState.deleteSas
  enableRxSas := KayState.enableRxSas
  enableTxSas := KayState.enableTxSas
  enableNewInfo := fun env s => s.onPrincipal (sendRetry crypto env)

/-- The event loop calls the CP. -/
def System.onCp (f : CpWorld KayState → Checked (CpWorld KayState)) : Checked System := do
  let w ← f ⟨s.cp, ⟨s.kay, s.participants⟩⟩
  return ⟨w.kay.kay, w.cp, w.kay.participants⟩

/-- What drives the KaY. -/
inductive Event
  | receive (env : Env) (buf : Bytes)
  | tick (env : Env) (participant : ℕ)
  /-- The event loop calls `ieee802_1x_cp_step_cb`. -/
  | cpStep (envs : ℕ → Env)
  /-- The event loop calls `ieee802_1x_cp_transmit_when_timeout`. -/
  | transmitWhen (envs : ℕ → Env)
  /-- The event loop calls `ieee802_1x_cp_retire_when_timeout`. -/
  | retireWhen (envs : ℕ → Env)
  | createMka (env : Env) (ckn : MkaKeyName) (cak : Octets 16) (life : ℕ) (mode : MkaCreatedMode)
      (isAuthenticator : Bool)
  | deleteMka (ckn : MkaKeyName)
  | hotSwap (env : Env) (ckn : MkaKeyName) (cak : Octets 16) (isAuthenticator : Bool)
  | newSak

/-- `ieee802_1x_participant_timer`. -/
def participantTimer (id : ℕ) : Checked System :=
  match s.participants.find? fun p => p.id == id with
  | none => .ok s
  | some p =>
    if timerDeletes env p then
      deleteMka { s with
        kay.authenticated := false, kay.secured := false, kay.failed := true } p.ckn
    else do
      let m ← participantTimerFor crypto env ⟨s.kay, s.cp, p⟩
      return s.writeBack m

/-- One event. -/
def System.step : Event → Checked System
  | .receive env buf => kayL2Receive crypto env s buf
  | .tick env id => participantTimer crypto env s id
  | .cpStep envs => s.onCp (CpWorld.cpStepCb s.kay.conf (kayOps crypto) envs)
  | .transmitWhen envs => s.onCp (CpWorld.cpTransmitWhenTimeout s.kay.conf (kayOps crypto) envs)
  | .retireWhen envs => s.onCp (CpWorld.cpRetireWhenTimeout s.kay.conf (kayOps crypto) envs)
  | .createMka env ckn cak life mode isAuthenticator =>
    Pae.createMka crypto env s ckn cak life mode isAuthenticator
  | .deleteMka ckn => Pae.deleteMka s ckn
  | .hotSwap env ckn cak isAuthenticator => Pae.hotSwap crypto env s ckn cak isAuthenticator
  | .newSak => .ok (kayNewSak s)

/-! ## Initialisation -/

/-- What `ieee802_1x_kay_init` is given: the policy, the port, the address and the SecY's answer to
`secy_get_capability`. -/
structure KayParams where
  policy : MacsecPolicy
  port : UInt16
  addr : Octets 6
  capability : Option MacsecCap

def defaultPrioNotKeyServer : UInt8 := 0xFF

def mkaVersionId : UInt8 := 1

/-- The KaY as `ieee802_1x_kay_init` fills it in, in zeroed memory. -/
def Kay.initial (params : KayParams) : Kay :=
  let secure := params.policy != .doNotSecure
  let capable := if secure then params.capability.getD .integAndConf0_30_50 else .notImplemented
  { conf :=
      { macsecProtect := secure
        macsecEncrypt := params.policy == .shouldEncrypt
        macsecValidate := if secure then .strict else .disabled
        macsecReplayProtect := false
        macsecReplayWindow := 0 }
    macsecDesired := secure
    macsecCapable := capable
    -- without confidentiality the source stores `MACSEC_CAP_INTEGRITY`, whose value is that of
    -- `CONFIDENTIALITY_OFFSET_0`
    macsecConfidentiality := if secure then .offset0 else .none
    macsecCsindex := defaultCsIndex
    actorSci := ⟨params.addr, if params.port = 0 then 1 else params.port⟩
    actorPriority := defaultPrioNotKeyServer
    keyServerSci := Sci.zero
    keyServerPriority := 0
    isObligedKeyServer := false
    distKn := 1
    distAn := 0
    distTime := 0
    pnExhaustion := pendingPnExhaustion
    mkaVersion := mkaVersionId
    algoAgility := mkaAlgoAgility
    authenticated := false
    secured := false
    failed := false
    keyUsers := fun _ => 0
    nextId := 0
    trace := [] }

/-- `ieee802_1x_kay_init`, with the SecY as `secy_init_macsec` leaves it. -/
def kayInit (params : KayParams) (env : Env) (secy : Secy) : Checked System := do
  let kay := Kay.initial params
  let w ← cpSmInit kay.conf (kayOps crypto) env secy ⟨kay, []⟩
  let s : System := ⟨w.kay.kay, w.cp, w.kay.participants⟩
  return if params.policy = .doNotSecure then
    { s with cp := s.cp.connectAuthenticated.smStep } else s

/-! ## A concrete member -/

def sampleMi (octet : UInt8) : Mi := ⟨List.replicate 12 octet, List.length_replicate⟩

def sampleAddr (octet : UInt8) : Octets 6 := ⟨[2, 0, 0, 0, 0, octet], rfl⟩

def sampleName : MkaKeyName := ⟨Octets.zero 32, 1, by decide⟩

/-- A participant with the member identifier `mi` in a KaY with the address `addr`. -/
def sampleMember (addr : Octets 6) (mi : Mi) : Mka :=
  let kay := Kay.initial ⟨.shouldEncrypt, 1, addr, none⟩
  let cp := CpPort.initial kay.conf Secy.untold
  { kay := kay
    cp := cp
    self := newParticipant default (Env.benign 0) ⟨kay, cp, []⟩ sampleName
      (Octets.zero 16) 0 .psk false mi }

end Hostapd.Pae
