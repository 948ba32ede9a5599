import Hostapd.Foundation.FirstMatch
import Hostapd.Pae.Cp
import Hostapd.Pae.Mkpdu

/-!
# The state of the KaY

The structures of `ieee802_1x_kay_i.h` and `ieee802_1x_kay.h` and the functions of
`ieee802_1x_kay.c` that look up, create and move peers and that count the references to keys.

A `struct data_key` is a value with an address (`id`); its reference count lives in the KaY
(`keyUsers`). The KaY also keeps a `trace` of what it did, newest first, which no modelled function
reads.
-/

namespace Hostapd.Pae

open Wire FirstMatch

/-! ## Structures -/

/-- `struct mka_key_name`: at most `MAX_CKN_LEN` octets of a 32-octet array are in use. -/
structure MkaKeyName where
  name : Octets 32
  len : ℕ
  len_le : len ≤ 32

def MkaKeyName.octets (n : MkaKeyName) : Bytes := n.name.val.take n.len

@[simp] lemma MkaKeyName.length_octets (n : MkaKeyName) : n.octets.length = n.len := by
  simp [MkaKeyName.octets, n.len_le]

/-- A live or potential peer. -/
structure Peer where
  mi : Mi
  mn : UInt32
  expire : ℕ
  sci : Sci
  isKeyServer : Bool
  keyServerPriority : UInt8
  macsecDesired : Bool
  macsecCapability : MacsecCap
  sakUsed : Bool

/-- `struct data_key`: a SAK and its address. -/
structure DataKey where
  id : ℕ
  keyIdentifier : Ki
  key : Octets 16
  confidentialityOffset : ConfidentialityOffset
  an : UInt8
deriving DecidableEq

/-- A receive secure association. -/
structure ReceiveSa where
  pkey : DataKey
  an : UInt8
  inUse : Bool

/-- A receive secure channel. -/
structure ReceiveSc where
  sci : Sci
  saList : List ReceiveSa

/-- A transmit secure association. -/
structure TransmitSa where
  pkey : DataKey
  an : UInt8
  inUse : Bool

/-- A transmit secure channel. -/
structure TransmitSc where
  sci : Sci
  saList : List TransmitSa

/-- An MKA instance. -/
structure Participant where
  id : ℕ
  ckn : MkaKeyName
  cak : Octets 16
  kek : Octets 16
  ick : Octets 16
  principal : Bool
  livePeers : List Peer
  potentialPeers : List Peer
  lki : Ki
  lan : UInt8
  ltx : Bool
  lrx : Bool
  oki : Ki
  oan : UInt8
  otx : Bool
  orx : Bool
  isKeyServer : Bool
  isObligedKeyServer : Bool
  canBeKeyServer : Bool
  isElected : Bool
  sakList : List DataKey
  rxscList : List ReceiveSc
  txsc : TransmitSc
  mi : Mi
  mn : UInt32
  currentPeerId : PeerId
  currentPeerSci : Sci
  cakLife : ℕ
  /-- The time the MKA instance expires if it has no live peer, if it is not zero. -/
  mkaLife : ℕ
  toDistSak : Bool
  toUseSak : Bool
  newSak : Bool
  advisedDesired : Bool
  newKey : Option DataKey
  retryCount : ℕ

/-- An entry of the trace. -/
inductive KayEvent
  /-- `l2_packet_send` of a frame. -/
  | sent (frame : Bytes)
  /-- `ieee802_1x_kay_generate_new_sak` of a participant generated a key. -/
  | generatedSak (participant : ℕ) (sak : DataKey)
  /-- `ieee802_1x_mka_decode_basic_body` accepted a message of a member for a participant. -/
  | acceptedMkpdu (participant : ℕ) (peer : PeerId)
  /-- A live peer reported SAK use of a key and an association number to a participant. -/
  | reportedSak (participant : ℕ) (mi : Mi) (ki : Ki) (an : UInt8)
  /-- `ieee802_1x_mka_decode_sak_use_body` of a participant ended the distribution of a SAK, with
  these members live. -/
  | endedDistribution (participant : ℕ) (livePeers : List Mi)
deriving DecidableEq

/-- `struct ieee802_1x_kay`, but for its participants and its CP. -/
structure Kay where
  conf : MacsecConf
  macsecDesired : Bool
  macsecCapable : MacsecCap
  macsecConfidentiality : ConfidentialityOffset
  macsecCsindex : CsIndex
  actorSci : Sci
  actorPriority : UInt8
  keyServerSci : Sci
  keyServerPriority : UInt8
  isObligedKeyServer : Bool
  distKn : UInt32
  distAn : UInt8
  distTime : ℕ
  pnExhaustion : UInt32
  mkaVersion : UInt8
  algoAgility : Octets 4
  authenticated : Bool
  secured : Bool
  failed : Bool
  /-- The field `user` of the key at an address; zero where there is no key. -/
  keyUsers : ℕ → ℕ
  nextId : ℕ
  trace : List KayEvent

/-- The KaY, its CP and its participants. -/
structure System where
  kay : Kay
  cp : CpPort
  participants : List Participant

/-- The KaY seen from one participant. -/
structure Mka where
  kay : Kay
  cp : CpPort
  self : Participant

/-! ## Environment -/

/-- The calls of `os_zalloc`, `os_malloc` and `wpabuf_alloc` whose failure is handled. -/
inductive AllocSite
  | cpLki
  | participant
  | transmitSc
  | basicPeer
  | listedPeer (i : ℕ)
  | livePeer
  | receiveSc
  | receiveSa (i : ℕ)
  | transmitSa
  | sakKey
  | sakContext
  | sakDataKey
  | unwrapSak
  | distDataKey
  | mkpdu

/-- The calls of `reset_participant_mi`. -/
inductive MiSite
  | createMka
  | basicBody
  | livePeer (i : ℕ)
  | potentialPeer (i : ℕ)

/-- What the environment decides while one event is processed. -/
structure Env where
  now : ℕ
  alloc : AllocSite → Bool
  /-- `os_get_random` for a member identifier. -/
  randomMi : MiSite → Option Mi
  /-- `os_get_random` for the nonce of a SAK. -/
  randomSak : Option (Octets 16)
  osRandom : ℕ
  /-- `secy_get_receive_lowest_pn` for a receive SC and an association number. -/
  lowestPn : Sci → UInt8 → UInt32
  /-- Debug messages are written, so that hex dumps read what they dump. -/
  debug : Bool

/-- An environment in which every call succeeds. -/
def Env.benign (now : ℕ) : Env where
  now := now
  alloc := fun _ => true
  randomMi := fun _ => some (Octets.zero 12)
  randomSak := some (Octets.zero 16)
  osRandom := 0
  lowestPn := fun _ _ => 1
  debug := false

/-- The functions of `ieee802_1x_key.c` and `aes.h` that the KaY uses. -/
structure Crypto where
  icvHash : Octets 16 → Bytes → Octets 16
  kekTrfm : Octets 16 → Bytes → Octets 16
  ickTrfm : Octets 16 → Bytes → Octets 16
  sakHash : Octets 16 → Bytes → Octets 16
  aesWrap : Octets 16 → Octets 16 → Octets 24
  aesUnwrap : Octets 16 → Octets 24 → Option (Octets 16)

instance : Inhabited Crypto where
  default :=
    { icvHash := fun key _ => key
      kekTrfm := fun cak _ => cak
      ickTrfm := fun cak _ => cak
      sakHash := fun cak _ => cak
      aesWrap := fun _ key => Octets.ofList 24 key.val
      aesUnwrap := fun _ wrapped => some (Octets.ofList 16 wrapped.val) }

variable (k : Kay)

def Kay.log (ev : KayEvent) : Kay := { k with trace := ev :: k.trace }

/-! ## Keys -/

/-- `ieee802_1x_kay_use_data_key`. -/
def Kay.useDataKey (key : DataKey) : Kay :=
  { k with keyUsers := Function.update k.keyUsers key.id (k.keyUsers key.id + 1) }

/-- `ieee802_1x_kay_deinit_data_key`: the key is freed with one user left. -/
def Kay.deinitDataKey (key : DataKey) : Kay :=
  let user := k.keyUsers key.id - 1
  { k with keyUsers := Function.update k.keyUsers key.id (if user > 1 then user else 0) }

def Kay.deinitDataKeys (keys : List DataKey) : Kay :=
  keys.foldl Kay.deinitDataKey k

def Kay.KeyAlive (key : DataKey) : Prop := k.keyUsers key.id ≠ 0

instance (k : Kay) (key : DataKey) : Decidable (k.KeyAlive key) :=
  inferInstanceAs (Decidable (_ ≠ _))

/-! ## Peers -/

variable (peers : List Peer)

def getPeerMi (mi : Mi) : Option Peer := peers.find? fun peer => peer.mi == mi

/-- The `mi` is that of a peer of the list. -/
def isInPeers (mi : Mi) : Bool := (getPeerMi peers mi).isSome

/-- Write through the pointer that `get_peer_mi` returns. -/
def updatePeerMi (mi : Mi) (f : Peer → Peer) : List Peer :=
  updateFirst (fun peer => peer.mi == mi) f peers

variable (env : Env)

/-- `ieee802_1x_kay_create_peer`, in zeroed memory. -/
def createPeer (site : AllocSite) (mi : Mi) (mn : UInt32) : Option Peer :=
  if env.alloc site then
    some
      { mi := mi
        mn := mn
        expire := env.now + mkaLifeTime / 1000
        sci := Sci.zero
        isKeyServer := false
        keyServerPriority := 0
        macsecDesired := false
        macsecCapability := .notImplemented
        sakUsed := false }
  else none

/-- `ieee802_1x_kay_init_receive_sc`. -/
def initReceiveSc (sci : Sci) : Option ReceiveSc :=
  if env.alloc .receiveSc then some { sci := sci, saList := [] } else none

namespace Participant

variable (p : Participant) (mi : Mi)

def getLivePeer : Option Peer := getPeerMi p.livePeers mi

def getPotentialPeer : Option Peer := getPeerMi p.potentialPeers mi

def isInLivePeer : Bool := isInPeers p.livePeers mi

def isInPotentialPeer : Bool := isInPeers p.potentialPeers mi

def getPeer : Option Peer :=
  (p.getLivePeer mi).or (p.getPotentialPeer mi)

/-- Write through the pointer that `ieee802_1x_kay_get_peer` returns. -/
def updatePeer (f : Peer → Peer) : Participant :=
  if p.isInLivePeer mi then { p with livePeers := updatePeerMi p.livePeers mi f }
  else { p with potentialPeers := updatePeerMi p.potentialPeers mi f }

/-- Unlink and free the peer that `ieee802_1x_kay_get_peer_sci` returns, if it returns one. -/
def deletePeerSci (sci : Sci) : Participant :=
  if p.livePeers.any fun peer => sciEqual peer.sci sci then
    { p with livePeers := p.livePeers.eraseP fun peer => sciEqual peer.sci sci }
  else { p with potentialPeers := p.potentialPeers.eraseP fun peer => sciEqual peer.sci sci }

/-- `ieee802_1x_kay_create_potential_peer`; `f` is what its caller writes to the new peer. -/
def createPotentialPeer (site : AllocSite) (mi : Mi) (mn : UInt32) (f : Peer → Peer) :
    Option Participant :=
  (createPeer env site mi mn).map fun peer =>
    { p with potentialPeers := f peer :: p.potentialPeers }

/-- `ieee802_1x_kay_create_live_peer`: the source does not check that the peer was allocated. -/
def createLivePeer (mi : Mi) (mn : UInt32) : Checked (Option Participant) :=
  match createPeer env .livePeer mi mn with
  | none => .error .nullPointer
  | some peer =>
    .ok ((initReceiveSc env p.currentPeerSci).map fun rxsc =>
      { p with
        livePeers := { peer with sci := p.currentPeerSci } :: p.livePeers
        rxscList := rxsc :: p.rxscList })

/-- `ieee802_1x_kay_move_live_peer`. -/
def moveLivePeer (mi : Mi) (mn : UInt32) : Checked (Option Participant) :=
  match p.getPotentialPeer mi, initReceiveSc env p.currentPeerSci with
  | _, none => .ok none
  | none, some _ => .error .nullPointer
  | some peer, some rxsc =>
    let live := { peer with
      sci := p.currentPeerSci
      mn := mn
      expire := env.now + mkaLifeTime / 1000 }
    .ok (some { p with
      livePeers := p.livePeers ++ [live]
      potentialPeers := p.potentialPeers.eraseP fun peer => peer.mi == mi
      rxscList := rxsc :: p.rxscList })

def resetParticipantMi (site : MiSite) : Option Participant :=
  (env.randomMi site).map fun mi => { p with mi := mi, mn := 0 }

end Participant

/-! ## Participants -/

/-- `ieee802_1x_kay_get_participant`: the first participant whose CKN the octets start with.  The
comparison reads as many octets as the participant's own CKN has. -/
def getParticipant : List Participant → Bytes → Checked (Option Participant)
  | [], _ => .ok none
  | p :: ps, ckn => do
    let octets ← readAt ckn 0 p.ckn.len
    if octets = p.ckn.octets then return some p else getParticipant ps ckn

/-- A participant is the first one whose CKN begins the octets, and no CKN in front of it is longer
than they are. -/
def FoundByCkn (ps : List Participant) (octets : Bytes) (p : Participant) : Prop :=
  ∃ pre post, ps = pre ++ p :: post ∧ p.ckn.octets <+: octets ∧
    ∀ q ∈ pre, q.ckn.len ≤ octets.length ∧ ¬ q.ckn.octets <+: octets

/-- One round of the loop: the octets that are compared begin what is given. -/
lemma getParticipant_cons {ps : List Participant} {q : Participant} {octets : Bytes}
    (hlen : q.ckn.len ≤ octets.length) : getParticipant (q :: ps) octets =
      if q.ckn.octets <+: octets then .ok (some q) else getParticipant ps octets := by
  have hbegins : octets.take q.ckn.len = q.ckn.octets ↔ q.ckn.octets <+: octets := by
    rw [List.prefix_iff_eq_take, q.ckn.length_octets, eq_comm]
  rw [getParticipant, readAt_of_le (by simpa using hlen), Checked.ok_bind, List.drop_zero]
  simp only [hbegins]
  rfl

/-- The lookup gives exactly the participant that is found by its CKN. -/
lemma getParticipant_eq_some {ps : List Participant} {octets : Bytes} {p : Participant} :
    getParticipant ps octets = .ok (some p) ↔ FoundByCkn ps octets p := by
  constructor
  · intro h
    induction ps with
    | nil => cases h
    | cons q ps ih =>
      have hlen : q.ckn.len ≤ octets.length := by
        obtain ⟨_, hread, -⟩ := Checked.bind_eq_ok.mp h
        simpa using (readAt_eq_ok.mp hread).1
      rw [getParticipant_cons hlen] at h
      split_ifs at h with hq
      · cases h
        exact ⟨[], ps, rfl, hq, by simp⟩
      · obtain ⟨pre, post, rfl, hp, hpre⟩ := ih h
        exact ⟨q :: pre, post, rfl, hp, List.forall_mem_cons.mpr ⟨⟨hlen, hq⟩, hpre⟩⟩
  · rintro ⟨pre, post, rfl, hp, hpre⟩
    induction pre with
    | nil =>
      have hlen := hp.length_le
      rw [p.ckn.length_octets] at hlen
      rw [List.nil_append, getParticipant_cons hlen, if_pos hp]
    | cons q pre ih =>
      obtain ⟨⟨hlen, hq⟩, hpre⟩ := List.forall_mem_cons.mp hpre
      rw [List.cons_append, getParticipant_cons hlen, if_neg hq, ih hpre]

variable (ps : List Participant)

def getPrincipalParticipant : Option Participant :=
  ps.find? fun p => p.principal

/-- Write through the pointer that `ieee802_1x_kay_get_principal_participant` returns. -/
def updatePrincipalParticipant (f : Participant → Participant) : List Participant :=
  updateFirst (fun p => p.principal) f ps

def updateParticipant (p : Participant) : List Participant :=
  updateFirst (fun q => q.id == p.id) (fun _ => p) ps

end Hostapd.Pae
