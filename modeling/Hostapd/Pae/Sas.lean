import Hostapd.Pae.Kay

/-!
# The key server and secure associations

The functions of `ieee802_1x_kay.c` that elect the key server, that decide as key server whether
MACsec is used, and that generate a SAK; and those by which the CP tells the principal participant
its keys and has it create, enable and delete the secure associations. A KaY without a principal
participant is left as it is by all of them.
-/

namespace Hostapd.Pae

open Wire FirstMatch

/-! ## Election -/

/-- What `compare_priorities` reads of a peer. -/
structure Candidate where
  keyServerPriority : UInt8
  sci : Sci
deriving DecidableEq

def Peer.candidate (peer : Peer) : Candidate := ⟨peer.keyServerPriority, peer.sci⟩

variable (k : Kay)

def Kay.candidate : Candidate := ⟨k.actorPriority, k.actorSci⟩

/-- `compare_priorities`: by priority, then by the MAC address of the SCI. -/
def comparePriorities (peer other : Candidate) : ℤ :=
  if peer.keyServerPriority < other.keyServerPriority then -1
  else if other.keyServerPriority < peer.keyServerPriority then 1
  else memcmp peer.sci.addr.val other.sci.addr.val

/-- One round of the loop of `ieee802_1x_kay_elect_key_server` over the live peers. -/
def electStep (keyServer : Option Peer) (peer : Peer) : Option Peer :=
  if !peer.isKeyServer then keyServer
  else
    match keyServer with
    | none => some peer
    | some ks => if comparePriorities peer.candidate ks.candidate < 0 then some peer else some ks

def electPeer (peers : List Peer) : Option Peer := peers.foldl electStep none

/-- The decision of `ieee802_1x_kay_elect_key_server` between the participant and the peer elected
among the live peers. -/
def iIsKeyServer (canBeKeyServer : Bool) (keyServer : Option Peer) : Bool :=
  match keyServer with
  | some ks => canBeKeyServer && decide (comparePriorities k.candidate ks.candidate < 0)
  | none => canBeKeyServer

/-- Signal a change of key server to the CP if `key_server_sci` is not `sci`. -/
def signalServer (cp : CpPort) (sci : Sci) : CpPort :=
  if sciEqual k.keyServerSci sci then cp else cp.signalChgdserver.smStep

/-- `ieee802_1x_kay_elect_key_server`. -/
def electKeyServer (m : Mka) : Mka :=
  if m.self.isObligedKeyServer then
    { m with self.newSak := true, self.toDistSak := false, cp := m.cp.setElectedself true }
  else
    let keyServer := electPeer m.self.livePeers
    if iIsKeyServer m.kay m.self.canBeKeyServer keyServer then
      { m with
        cp := signalServer m.kay (m.cp.setElectedself true) m.kay.actorSci
        self.isKeyServer := true
        self.principal := true
        self.newSak := true
        self.toDistSak := false
        self.isElected := true
        kay.keyServerSci := m.kay.actorSci
        kay.keyServerPriority := m.kay.actorPriority }
    else
      match keyServer with
      | some ks =>
        { m with
          cp := signalServer m.kay (m.cp.setElectedself false) ks.sci
          self.isKeyServer := false
          self.principal := true
          self.isElected := true
          kay.keyServerSci := ks.sci
          kay.keyServerPriority := ks.keyServerPriority }
      | none =>
        { m with self.principal := false, self.isKeyServer := false, self.isElected := false }

/-! ## Use of MACsec -/

/-- The KaY gives up MACsec: the connection is authenticated only. -/
def Kay.setAuthenticated : Kay :=
  { k with authenticated := true, secured := false, failed := false }

def Kay.setSecured : Kay :=
  { k with authenticated := false, secured := true, failed := false }

/-- The peer can use MACsec and wants it. -/
def Peer.wantsMacsec (peer : Peer) : Bool :=
  peer.macsecDesired && peer.macsecCapability != .notImplemented

/-- `ieee802_1x_kay_decide_macsec_use`. -/
def decideMacsecUse (m : Mka) : Mka :=
  if !m.self.isKeyServer then m
  else if !m.kay.macsecDesired then { m with self.advisedDesired := false }
  else if m.kay.macsecCapable = .notImplemented then { m with self.advisedDesired := false }
  else if m.self.livePeers.any Peer.wantsMacsec then
    { m with
      self.advisedDesired := true
      kay := m.kay.setSecured
      cp := m.cp.connectSecure.smStep }
  else
    { m with
      self.advisedDesired := false
      self.toUseSak := false
      kay := m.kay.setAuthenticated
      cp := m.cp.connectAuthenticated.smStep }

/-! ## Generating a SAK -/

/-- Tell the CP about a new SAK. -/
def signalSak (cp : CpPort) (cs : UInt64) (offset : ConfidentialityOffset) (ki : Ki) (an : UInt8) :
    CpPort :=
  ((((((cp.setCiphersuite cs).smStep.setOffset offset).smStep.setDistributedki
    ki).setDistributedan an).signalNewsak)).smStep

/-- What `ieee802_1x_kay_generate_new_sak` checks before it generates a SAK, and what can fail. -/
def canGenerateSak (env : Env) (m : Mka) : Bool :=
  !m.self.livePeers.isEmpty && !decide (env.now - m.kay.distTime < mkaLifeTime / 1000) &&
    env.alloc .sakKey && env.alloc .sakContext && env.randomSak.isSome && env.alloc .sakDataKey

/-- The `context` of `ieee802_1x_kay_generate_new_sak`; the key number is in host byte order, that
of a little-endian machine. -/
def sakContext (nonce : Octets 16) (m : Mka) : Bytes :=
  nonce.val ++ m.self.livePeers.flatMap (fun peer => peer.mi.val) ++ m.self.mi.val ++
    (be32 m.kay.distKn).reverse

/-- The SAK that `ieee802_1x_kay_generate_new_sak` generates from a nonce. -/
def freshSak (crypto : Crypto) (nonce : Octets 16) (m : Mka) : DataKey where
  id := m.kay.nextId
  keyIdentifier := ⟨m.self.mi, m.kay.distKn⟩
  key := crypto.sakHash m.self.cak (sakContext nonce m)
  confidentialityOffset := m.kay.macsecConfidentiality
  an := m.kay.distAn

/-- `ieee802_1x_kay_init_data_key` and `ieee802_1x_kay_use_data_key` on a new key: the list that it
is added to is its second user. -/
def Kay.newDataKey (key : DataKey) : Kay :=
  ({ k with nextId := k.nextId + 1, keyUsers := Function.update k.keyUsers key.id 1 }).useDataKey
    key

/-- `ieee802_1x_kay_generate_new_sak`; `none` where the source returns `-1`. -/
def generateNewSak (crypto : Crypto) (env : Env) (m : Mka) : Option Mka :=
  if canGenerateSak env m then
    env.randomSak.map fun nonce =>
      let saKey := freshSak crypto nonce m
      let cs := (cipherSuiteTbl.get m.kay.macsecCsindex).id
      let kay := m.kay.newDataKey saKey
      { kay := { kay with
          distKn := kay.distKn + 1
          distAn := if kay.distAn + 1 > 3 then 0 else kay.distAn + 1
          distTime := env.now
          trace := .generatedSak m.self.id saKey :: kay.trace }
        cp := signalSak m.cp cs m.kay.macsecConfidentiality saKey.keyIdentifier saKey.an
        self := { m.self with
          newKey := some saKey
          sakList := saKey :: m.self.sakList
          livePeers := m.self.livePeers.map fun peer => { peer with sakUsed := false } } }
  else none

/-- The KaY with its participants. -/
structure KayState where
  kay : Kay
  participants : List Participant

/-- Delete the receive SAs of a receive SC that satisfy `sel`, with their references. -/
def dropReceiveSas (sel : ReceiveSa → Bool) (k : Kay) (rxsc : ReceiveSc) : Kay × ReceiveSc :=
  (k.deinitDataKeys ((rxsc.saList.filter sel).map ReceiveSa.pkey),
    { rxsc with saList := rxsc.saList.filter fun sa => !sel sa })

/-- Delete the receive SAs of all receive SCs that satisfy `sel`. -/
def dropAllReceiveSas (sel : ReceiveSa → Bool) (k : Kay) (rxscs : List ReceiveSc) :
    Kay × List ReceiveSc :=
  (rxscs.foldl (fun k rxsc => (dropReceiveSas sel k rxsc).1) k,
    rxscs.map fun rxsc => (dropReceiveSas sel k rxsc).2)

/-- Delete the transmit SAs of a transmit SC that satisfy `sel`, with their references. -/
def dropTransmitSas (sel : TransmitSa → Bool) (k : Kay) (txsc : TransmitSc) : Kay × TransmitSc :=
  (k.deinitDataKeys ((txsc.saList.filter sel).map TransmitSa.pkey),
    { txsc with saList := txsc.saList.filter fun sa => !sel sa })

variable (s : KayState)

namespace KayState

/-- `ieee802_1x_kay_set_latest_sa_attr`. -/
def setLatestSaAttr (lki : Option Ki) (lan : UInt8) (ltx lrx : Bool) : KayState :=
  { s with
    participants := updatePrincipalParticipant s.participants fun p =>
      { p with lki := lki.getD Ki.zero, lan := lan, ltx := ltx, lrx := lrx } }

/-- `ieee802_1x_kay_set_old_sa_attr`. -/
def setOldSaAttr (oki : Option Ki) (oan : UInt8) (otx orx : Bool) : KayState :=
  { s with
    participants := updatePrincipalParticipant s.participants fun p =>
      { p with oki := oki.getD Ki.zero, oan := oan, otx := otx, orx := orx } }

/-- Run a function on the principal participant, if there is one. -/
def onPrincipal (f : Kay → Participant → Checked (Kay × Participant)) : Checked KayState :=
  match getPrincipalParticipant s.participants with
  | none => .ok s
  | some p => do
    let (kay, p') ← f s.kay p
    return { kay := kay, participants := updatePrincipalParticipant s.participants fun _ => p' }

end KayState

/-! ## Creating -/

/-- The loop over `rxsc_list` in `ieee802_1x_kay_create_sas`, until an allocation fails. -/
def createReceiveSas (env : Env) (key : DataKey) :
    ℕ → Kay → List ReceiveSc → Kay × List ReceiveSc × Bool
  | _, k, [] => (k, [], true)
  | i, k, rxsc :: rest =>
    let (k, rxsc) := dropReceiveSas (fun sa => sa.an == key.an) k rxsc
    if env.alloc (.receiveSa i) then
      let rxsc := { rxsc with saList := ⟨key, key.an, false⟩ :: rxsc.saList }
      let (k, rest, done) := createReceiveSas env key (i + 1) (k.useDataKey key) rest
      (k, rxsc :: rest, done)
    else (k, rxsc :: rest, false)

/-- The transmit part of `ieee802_1x_kay_create_sas`. -/
def createTransmitSa (env : Env) (key : DataKey) (k : Kay) (txsc : TransmitSc) : Kay × TransmitSc :=
  let (k, txsc) := dropTransmitSas (fun sa => sa.an == key.an) k txsc
  if env.alloc .transmitSa then
    (k.useDataKey key, { txsc with saList := ⟨key, key.an, false⟩ :: txsc.saList })
  else (k, txsc)

/-- `ieee802_1x_kay_create_sas` for the principal participant. The last matching key is taken. -/
def createSasFor (env : Env) (lki : Ki) (k : Kay) (p : Participant) : Kay × Participant :=
  match (p.sakList.filter fun key => isKiEqual key.keyIdentifier lki).getLast? with
  | none => (k, p)
  | some latest =>
    let p := { p with toUseSak := true }
    let (k, rxscs, done) := createReceiveSas env latest 0 k p.rxscList
    let p := { p with rxscList := rxscs }
    if done then
      let (k, txsc) := createTransmitSa env latest k p.txsc
      (k, { p with txsc := txsc })
    else (k, p)

/-- `ieee802_1x_kay_create_sas`. -/
def KayState.createSas (env : Env) (s : KayState) (lki : Ki) : KayState :=
  match getPrincipalParticipant s.participants with
  | none => s
  | some p =>
    let (kay, p') := createSasFor env lki s.kay p
    { kay := kay, participants := updatePrincipalParticipant s.participants fun _ => p' }

/-! ## Deleting -/

/-- The loop over `sak_list` in `ieee802_1x_kay_delete_sas`. -/
def removeSak (ki : Ki) :
    List DataKey → Option DataKey → List DataKey × Option DataKey × List DataKey
  | [], newKey => ([], newKey, [])
  | key :: keys, newKey =>
    if isKiEqual key.keyIdentifier ki then (keys, newKey, [key])
    else
      let newKey := if newKey.any fun k => k.id == key.id then none else newKey
      let (rest, newKey, removed) := removeSak ki keys newKey
      (key :: rest, newKey, removed)

/-- The body of `ieee802_1x_kay_delete_sas` for the principal participant and a key identifier. -/
def deleteSasFor (ki : Ki) (k : Kay) (p : Participant) : Kay × Participant :=
  let (k, txsc) := dropTransmitSas (fun sa => isKiEqual sa.pkey.keyIdentifier ki) k p.txsc
  let (k, rxscs) := dropAllReceiveSas (fun sa => isKiEqual sa.pkey.keyIdentifier ki) k p.rxscList
  let (sakList, newKey, removed) := removeSak ki p.sakList p.newKey
  (k.deinitDataKeys removed,
    { p with txsc := txsc, rxscList := rxscs, sakList := sakList, newKey := newKey })

/-- There is no key that `ieee802_1x_kay_delete_sas` compares with its argument. -/
def Participant.hasNoKeys (p : Participant) : Bool :=
  p.txsc.saList.isEmpty && p.rxscList.all (fun rxsc => rxsc.saList.isEmpty) && p.sakList.isEmpty

/-- `ieee802_1x_kay_delete_sas`. The source does not check its argument for `NULL`. -/
def KayState.deleteSas (ki : Option Ki) : Checked KayState :=
  s.onPrincipal fun k p =>
    match ki with
    | some ki => .ok (deleteSasFor ki k p)
    | none => if p.hasNoKeys then .ok (k, p) else .error .nullPointer

/-! ## Enabling -/

/-- `ieee802_1x_kay_enable_tx_sas`; the flag says whether a transmit SA was enabled. -/
def KayState.enableTxSas (lki : Option Ki) : Checked (KayState × Bool) :=
  match getPrincipalParticipant s.participants with
  | none => .ok (s, false)
  | some p =>
    match lki with
    | none => if p.txsc.saList.isEmpty then .ok (s, false) else .error .nullPointer
    | some lki =>
      let sel (sa : TransmitSa) : Bool := isKiEqual sa.pkey.keyIdentifier lki
      let enable (sa : TransmitSa) : TransmitSa := if sel sa then { sa with inUse := true } else sa
      let p' := { p with txsc.saList := p.txsc.saList.map enable }
      .ok ({ s with participants := updatePrincipalParticipant s.participants fun _ => p' },
        p.txsc.saList.any sel)

/-- `ieee802_1x_kay_enable_rx_sas`; the flag says whether a receive SA was enabled. -/
def KayState.enableRxSas (lki : Ki) : KayState × Bool :=
  match getPrincipalParticipant s.participants with
  | none => (s, false)
  | some p =>
    let sel (sa : ReceiveSa) : Bool := isKiEqual sa.pkey.keyIdentifier lki
    let enable (sa : ReceiveSa) : ReceiveSa := if sel sa then { sa with inUse := true } else sa
    let p' := { p with
      rxscList := p.rxscList.map fun rxsc => { rxsc with saList := rxsc.saList.map enable } }
    ({ s with participants := updatePrincipalParticipant s.participants fun _ => p' },
      p.rxscList.any fun rxsc => rxsc.saList.any sel)

end Hostapd.Pae
