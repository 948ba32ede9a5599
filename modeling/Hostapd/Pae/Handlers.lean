import Hostapd.Pae.Dispatch

/-!
# What decoding an MKPDU does

One inversion for each function of `ieee802_1x_kay.c` on the way of a received MKPDU: the ways in
which the basic parameter set, the acceptance of the sender as live peer and the `body_rx` functions
can end.  The loops over the entries of peer lists come with an induction rule, and what all
`body_rx` functions keep is put together in `Participant.kept`.
-/

namespace Hostapd.Pae

open Wire Checked FirstMatch List

/-- What identifies a peer on a list: the member and the SCI. -/
def Peer.key (peer : Peer) : Mi × Sci := (peer.mi, peer.sci)

variable {env : Env} {m m' : Mka} {rest : Bytes} {crypto : Crypto}

/-! ## Peers -/

variable {peers peers' : List Peer} {mi : Mi} {peer : Peer}

lemma isInPeers_iff : isInPeers peers mi ↔ mi ∈ peers.map Peer.mi := by
  simp [isInPeers, getPeerMi, find?_isSome]

lemma getPeerMi_eq_some (h : getPeerMi peers mi = some peer) : peer ∈ peers ∧ peer.mi = mi := by
  exact ⟨mem_of_find?_eq_some h, by simpa using find?_some h⟩

lemma map_mi_of_map_key (h : peers'.map Peer.key = peers.map Peer.key) :
    peers'.map Peer.mi = peers.map Peer.mi := by
  have hmi : ∀ l : List Peer, l.map Peer.mi = (l.map Peer.key).map Prod.fst := by
    intro l
    rw [map_map]
    rfl
  rw [hmi, hmi, h]

lemma createPeer_eq_some {site : AllocSite} {mn : UInt32}
    (h : createPeer env site mi mn = some peer) :
    peer.mi = mi ∧ peer.mn = mn ∧ peer.sakUsed = false := by
  rw [createPeer] at h
  split_ifs at h
  cases h
  exact ⟨rfl, rfl, rfl⟩

lemma map_updatePeerMi {β : Type} {f : Peer → Peer} {g : Peer → β} (hg : ∀ a, g (f a) = g a) :
    (updatePeerMi peers mi f).map g = peers.map g :=
  map_updateFirst (fun a _ => hg a) peers

/-! ## The basic parameter set -/

variable (p : Participant) {included : Bool}

/-- The participant with the sender of the MKPDU noted, and perhaps a new member identifier. -/
def Participant.noteSender (body : BasicBody) (mi : Mi) (mn : UInt32) : Participant :=
  { p with
    mi := mi
    mn := mn
    currentPeerId := ⟨body.actorMi, body.actorMn⟩
    currentPeerSci := body.actorSci }

/-- The ways in which the basic parameter set can end, and whether it is accepted. -/
inductive BasicDecoded (env : Env) (m : Mka) (body : BasicBody) : Mka → Bool → Prop
  /-- The sender has this participant's member identifier, and there is no new one. -/
  | noIdentifier : BasicDecoded env m body m false
  | stale (mi : Mi) (mn : UInt32) :
      BasicDecoded env m body { m with self := m.self.noteSender body mi mn } false
  /-- The sender is no peer, and there is no memory for it; a peer with its SCI is deleted. -/
  | noMemory (mi : Mi) (mn : UInt32) (h : m.self.getPeer body.actorMi = none) :
      BasicDecoded env m body
        { m with self := (m.self.noteSender body mi mn).deletePeerSci body.actorSci } false
  /-- The sender is no peer, and becomes a potential one; a peer with its SCI is deleted. -/
  | created (mi : Mi) (mn : UInt32) (p : Participant) (h : m.self.getPeer body.actorMi = none)
      (h' : ((m.self.noteSender body mi mn).deletePeerSci body.actorSci).createPotentialPeer env
        .basicPeer body.actorMi body.actorMn body.describe = some p) :
      BasicDecoded env m body
        { m with
          self := p
          kay := m.kay.log (.acceptedMkpdu m.self.id ⟨body.actorMi, body.actorMn⟩) } true
  | refreshed (mi : Mi) (mn : UInt32) (peer : Peer)
      (h : m.self.getPeer body.actorMi = some peer) (h' : peer.mn < body.actorMn) :
      BasicDecoded env m body
        { m with
          self := (m.self.noteSender body mi mn).updatePeer body.actorMi fun peer =>
            body.describe { peer with mn := body.actorMn, expire := env.now + mkaLifeTime / 1000 }
          kay := m.kay.log (.acceptedMkpdu m.self.id ⟨body.actorMi, body.actorMn⟩) } true

lemma Participant.updatePeer_eq (mi : Mi) (f : Peer → Peer) :
    p.updatePeer mi f = { p with
      livePeers := if p.isInLivePeer mi then updatePeerMi p.livePeers mi f else p.livePeers
      potentialPeers := if p.isInLivePeer mi then p.potentialPeers
        else updatePeerMi p.potentialPeers mi f } := by
  rw [Participant.updatePeer]
  split_ifs <;> rfl

lemma Participant.deletePeerSci_eq (sci : Sci) :
    p.deletePeerSci sci = { p with
      livePeers := p.livePeers.eraseP fun peer => sciEqual peer.sci sci
      potentialPeers := if p.livePeers.any fun peer => sciEqual peer.sci sci then p.potentialPeers
        else p.potentialPeers.eraseP fun peer => sciEqual peer.sci sci } := by
  rw [Participant.deletePeerSci]
  split_ifs with hany
  · rfl
  · have hlive : p.livePeers.eraseP (fun peer => sciEqual peer.sci sci) = p.livePeers :=
      eraseP_of_forall_not (by simpa using hany)
    rw [hlive]

/-- How the basic parameter set is decoded. -/
lemma basicDecoded (env : Env) (m : Mka) (body : BasicBody) :
    BasicDecoded env m body (decodeBasicBody env m body).1 (decodeBasicBody env m body).2 := by
  have hend : ∀ mi mn, BasicDecoded env m body
      (m.endBasicBody (decodePeer env (m.self.noteSender body mi mn) body)).1
      (m.endBasicBody (decodePeer env (m.self.noteSender body mi mn) body)).2 := by
    intro mi mn
    have hget : (m.self.noteSender body mi mn).getPeer body.actorMi =
        m.self.getPeer body.actorMi := rfl
    cases hpeer : m.self.getPeer body.actorMi with
    | none =>
      cases hcr : ((m.self.noteSender body mi mn).deletePeerSci body.actorSci).createPotentialPeer
          env .basicPeer body.actorMi body.actorMn body.describe with
      | none =>
        simp only [decodePeer, hget, hpeer, hcr]
        exact .noMemory mi mn hpeer
      | some p =>
        have hid : p.id = m.self.id ∧ p.currentPeerId = ⟨body.actorMi, body.actorMn⟩ := by
          obtain ⟨peer, -, rfl⟩ := Option.map_eq_some_iff.mp hcr
          rw [Participant.deletePeerSci_eq]
          exact ⟨rfl, rfl⟩
        simp only [decodePeer, hget, hpeer, hcr, Mka.endBasicBody, hid.1, hid.2]
        exact .created mi mn p hpeer hcr
    | some peer =>
      by_cases hmn : peer.mn < body.actorMn
      · have hid : ∀ f, ((m.self.noteSender body mi mn).updatePeer body.actorMi f).id = m.self.id ∧
            ((m.self.noteSender body mi mn).updatePeer body.actorMi f).currentPeerId =
              ⟨body.actorMi, body.actorMn⟩ := by
          intro f
          rw [Participant.updatePeer_eq]
          exact ⟨rfl, rfl⟩
        simp only [decodePeer, hget, hpeer, if_pos hmn, Mka.endBasicBody, hid]
        exact .refreshed mi mn peer hpeer hmn
      · simp only [decodePeer, hget, hpeer, if_neg hmn]
        exact .stale mi mn
  rw [decodeBasicBody]
  split_ifs with hmi
  · rw [Participant.resetParticipantMi]
    cases env.randomMi .basicBody with
    | none => exact .noIdentifier
    | some mi => exact hend mi 0
  · exact hend m.self.mi m.self.mn

lemma BasicDecoded.sender {body : BasicBody} (h : BasicDecoded env m body m' true) :
    m'.self.currentPeerId = ⟨body.actorMi, body.actorMn⟩ ∧
      m'.self.currentPeerSci = body.actorSci := by
  cases h with
  | created mi mn p hpeer hcreate =>
    obtain ⟨peer, -, rfl⟩ := Option.map_eq_some_iff.mp hcreate
    rw [Participant.deletePeerSci_eq]
    exact ⟨rfl, rfl⟩
  | refreshed mi mn peer hpeer hmn =>
    rw [Participant.updatePeer_eq]
    exact ⟨rfl, rfl⟩

/-! ## The acceptance as live peer -/

/-- The election and the decision on the use of MACsec after a change of the live peers. -/
def reelect (m : Mka) : Mka := decideMacsecUse (electKeyServer m)

/-- Who is key server, as the participant and the KaY see it. -/
def Mka.server (m : Mka) : Bool × Bool × Bool × Bool × Sci × Sci :=
  (m.self.isObligedKeyServer, m.self.isKeyServer, m.self.principal, m.self.isElected,
    m.kay.keyServerSci, m.kay.actorSci)

/-- What an election and the decision on the use of MACsec change.  A participant that is key server
after it has been asked for a new SAK, and a distribution is not begun. -/
structure Reelected (m m' : Mka) : Prop where
  self : ∃ keyServer principal elected advised use newSak dist, m'.self = { m.self with
    isKeyServer := keyServer
    principal := principal
    isElected := elected
    advisedDesired := advised
    toUseSak := use
    newSak := newSak
    toDistSak := dist }
  kay : ∃ sci priority authenticated secured failed, m'.kay = { m.kay with
    keyServerSci := sci
    keyServerPriority := priority
    authenticated := authenticated
    secured := secured
    failed := failed }
  newSak : m'.self.isKeyServer → m'.self.newSak
  newSak_mono : m.self.newSak → m'.self.newSak
  toDistSak : m'.self.toDistSak → m.self.toDistSak
  obliged : m.self.isObligedKeyServer → m'.server = m.server

lemma reelected_electKeyServer (m : Mka) : Reelected m (electKeyServer m) := by
  simp only [electKeyServer]
  split_ifs with hobliged
  · exact ⟨⟨_, _, _, _, _, _, _, rfl⟩, ⟨_, _, _, _, _, rfl⟩, fun _ => rfl, fun _ => rfl, nofun,
      fun _ => rfl⟩
  · exact ⟨⟨_, _, _, _, _, _, _, rfl⟩, ⟨_, _, _, _, _, rfl⟩, fun _ => rfl, fun _ => rfl, nofun,
      fun h => absurd h hobliged⟩
  · cases electPeer m.self.livePeers with
    | _ => exact ⟨⟨_, _, _, _, _, _, _, rfl⟩, ⟨_, _, _, _, _, rfl⟩, nofun, id, id,
        fun h => absurd h hobliged⟩

lemma decideMacsecUse_eq (m : Mka) :
    ∃ advised use authenticated secured failed cp, decideMacsecUse m =
      { kay := { m.kay with
          authenticated := authenticated, secured := secured, failed := failed }
        cp := cp
        self := { m.self with advisedDesired := advised, toUseSak := use } } := by
  rw [decideMacsecUse]
  split_ifs
  · exact ⟨_, _, _, _, _, _, rfl⟩
  · exact ⟨_, _, _, _, _, _, rfl⟩
  · exact ⟨_, _, _, _, _, _, rfl⟩
  · exact ⟨_, _, _, _, _, _, rfl⟩
  · exact ⟨_, _, _, _, _, _, rfl⟩

lemma Reelected.decideMacsecUse (h : Reelected m m') : Reelected m (decideMacsecUse m') := by
  obtain ⟨⟨ks, pr, el, ad, us, ns, td, hself⟩, ⟨sci, prio, au, se, fa, hkay⟩, h₁, h₂, h₃, h₄⟩ := h
  obtain ⟨ad', us', au', se', fa', cp', heq⟩ := decideMacsecUse_eq m'
  rw [heq]
  exact ⟨⟨ks, pr, el, ad', us', ns, td, by simp only [hself]⟩,
    ⟨sci, prio, au', se', fa', by simp only [hkay]⟩, h₁, h₂, h₃, h₄⟩

lemma reelected_reelect (m : Mka) : Reelected m (reelect m) :=
  (reelected_electKeyServer m).decideMacsecUse

/-- The live peer that a potential peer becomes. -/
def Participant.promoted (env : Env) (peer : Peer) : Peer :=
  { peer with
    sci := p.currentPeerSci
    mn := p.currentPeerId.mn
    expire := env.now + mkaLifeTime / 1000 }

/-- The ways in which the sender can be accepted as live peer. -/
inductive LiveAccepted (env : Env) (m : Mka) : Mka → Prop
  | same : LiveAccepted env m m
  | moved (peer : Peer) (hlive : m.self.isInLivePeer m.self.currentPeerId.mi = false)
      (h : m.self.getPotentialPeer m.self.currentPeerId.mi = some peer) :
      LiveAccepted env m (reelect { m with self := { m.self with
        livePeers := m.self.livePeers ++ [m.self.promoted env peer]
        potentialPeers := m.self.potentialPeers.eraseP fun peer =>
          peer.mi == m.self.currentPeerId.mi
        rxscList := ⟨m.self.currentPeerSci, []⟩ :: m.self.rxscList } })
  | created (peer : Peer) (hlive : m.self.isInLivePeer m.self.currentPeerId.mi = false)
      (hpotential : m.self.isInPotentialPeer m.self.currentPeerId.mi = false)
      (h : createPeer env .livePeer m.self.currentPeerId.mi m.self.currentPeerId.mn = some peer) :
      LiveAccepted env m (reelect { m with self := { m.self with
        livePeers := { peer with sci := m.self.currentPeerSci } :: m.self.livePeers
        rxscList := ⟨m.self.currentPeerSci, []⟩ :: m.self.rxscList } })

/-- How a sender becomes a live peer. -/
lemma liveAccepted (h : acceptLivePeer env m included = .ok (some m')) : LiveAccepted env m m' := by
  simp only [acceptLivePeer] at h
  by_cases hcond : (included && !m.self.isInLivePeer m.self.currentPeerId.mi)
  swap
  · rw [if_neg hcond] at h
    cases h
    exact .same
  have hlive : m.self.isInLivePeer m.self.currentPeerId.mi = false := by
    simp only [Bool.and_eq_true, Bool.not_eq_true'] at hcond
    exact hcond.2
  rw [if_pos hcond] at h
  by_cases hpotential : m.self.isInPotentialPeer m.self.currentPeerId.mi
  · rw [if_pos hpotential] at h
    obtain ⟨p?, hp, h⟩ := bind_eq_ok.mp h
    obtain ⟨p, rfl, hm⟩ := Option.map_eq_some_iff.mp (Except.ok.inj h)
    subst hm
    obtain ⟨peer, hpeer⟩ := Option.isSome_iff_exists.mp hpotential
    have hpeer' : m.self.getPotentialPeer m.self.currentPeerId.mi = some peer := hpeer
    cases halloc : env.alloc .receiveSc with
    | false =>
      simp only [Participant.moveLivePeer, hpeer', initReceiveSc, halloc] at hp
      cases hp
    | true =>
      simp only [Participant.moveLivePeer, hpeer', initReceiveSc, halloc] at hp
      cases hp
      exact .moved peer hlive hpeer'
  · rw [if_neg hpotential] at h
    obtain ⟨p?, hp, h⟩ := bind_eq_ok.mp h
    obtain ⟨p, rfl, hm⟩ := Option.map_eq_some_iff.mp (Except.ok.inj h)
    subst hm
    rw [Participant.createLivePeer] at hp
    cases hpeer : createPeer env .livePeer m.self.currentPeerId.mi m.self.currentPeerId.mn with
    | none =>
      simp only [hpeer] at hp
      cases hp
    | some peer =>
      cases halloc : env.alloc .receiveSc with
      | false =>
        simp only [hpeer, initReceiveSc, halloc] at hp
        cases hp
      | true =>
        simp only [hpeer, initReceiveSc, halloc] at hp
        cases hp
        exact .created peer hlive (by simpa using hpotential) hpeer

/-! ## SAK use -/

lemma checkSakUse_cases (m : Mka) (peer : Peer) (rest : Bytes) :
    checkSakUse m peer rest = m ∨
      checkSakUse m peer rest = (checkLatestKey m peer (SakUseBody.ofOctets rest)).1 ∨
      checkSakUse m peer rest = checkPnExhaustion (checkAllReceiving
        (checkLatestKey m peer (SakUseBody.ofOctets rest)).1) (SakUseBody.ofOctets rest) := by
  simp only [checkSakUse]
  split_ifs
  · exact .inl rfl
  · exact .inl rfl
  · exact .inr (.inl rfl)
  · exact .inr (.inl rfl)
  · exact .inr (.inl rfl)
  · exact .inr (.inr rfl)

lemma decodeSakUseBody_cases (h : decodeSakUseBody m rest = .ok m') :
    m' = m ∨ ∃ peer, m.self.getLivePeer m.self.currentPeerId.mi = some peer ∧
      m' = checkSakUse m peer rest := by
  rw [decodeSakUseBody] at h
  split_ifs at h with hprincipal
  · cases h
    exact .inl rfl
  cases hpeer : m.self.getLivePeer m.self.currentPeerId.mi with
  | none =>
    simp only [hpeer] at h
    cases h
    exact .inl rfl
  | some peer =>
    simp only [hpeer] at h
    obtain ⟨-, -, h⟩ := bind_eq_ok.mp h
    cases h
    exact .inr ⟨peer, rfl, rfl⟩

/-! ## Distributed SAK -/

/-- How a SAK is taken. -/
lemma unwrapSak_cases (crypto : Crypto) (env : Env) (m : Mka) (body : DistSakBody) (cs : CsIndex)
    (wrapped : Octets 24) :
    (unwrapSak crypto env m body cs wrapped).1 = { m with kay.macsecCsindex := cs } ∨
      ∃ sak, crypto.aesUnwrap m.self.kek wrapped = some sak ∧
        (unwrapSak crypto env m body cs wrapped).1 =
          installSak { m with kay.macsecCsindex := cs } cs body sak := by
  simp only [unwrapSak]
  split_ifs
  · exact .inl rfl
  · cases hsak : crypto.aesUnwrap m.self.kek wrapped with
    | none => exact .inl rfl
    | some sak => exact .inl rfl
  · cases hsak : crypto.aesUnwrap m.self.kek wrapped with
    | none => exact .inl rfl
    | some sak => exact .inr ⟨sak, rfl, rfl⟩

/-- How a wrapped SAK is decoded. -/
lemma decodeWrappedSak_cases {b : Bool} (h : decodeWrappedSak crypto env m rest = .ok (m', b)) :
    m' = m ∨ knowsSak m.self (DistSakBody.ofOctets rest) = false ∧
      ∃ cs wrapped, wrappedSak rest = .ok (some (cs, wrapped)) ∧
        (m', b) = unwrapSak crypto env m (DistSakBody.ofOctets rest) cs wrapped := by
  obtain ⟨-, -, h⟩ := bind_eq_ok.mp h
  split_ifs at h with hknown
  · cases h
    exact .inl rfl
  obtain ⟨w?, hw, h⟩ := bind_eq_ok.mp h
  match w? with
  | none =>
    cases h
    exact .inl rfl
  | some (cs, wrapped) =>
    exact .inr ⟨by simpa using hknown, cs, wrapped, hw, (Except.ok.inj h).symm⟩

/-- A distributed SAK is taken from the key server only.  Without a body it ends the use of
MACsec. -/
lemma decodeDistSakBody_cases {b : Bool} (h : decodeDistSakBody crypto env m rest = .ok (m', b)) :
    m' = m ∨ acceptsDistSak m ∧
      (m' = { m with
          kay := m.kay.setAuthenticated
          self.advisedDesired := false
          self.toUseSak := true
          cp := m.cp.connectAuthenticated.smStep } ∨
        decodeWrappedSak crypto env { m with
          kay := m.kay.setSecured
          self.advisedDesired := true
          cp := m.cp.connectSecure.smStep } rest = .ok (m', b)) := by
  rw [decodeDistSakBody] at h
  split_ifs at h with hlen haccept hzero
  · cases h
    exact .inl rfl
  · cases h
    exact .inl rfl
  · cases h
    exact .inr ⟨by simpa using haccept, .inl rfl⟩
  · exact .inr ⟨by simpa using haccept, .inr h⟩

/-! ## All handlers -/

/-- What an entry of a live peer list of a live peer writes to the peer it names. -/
def PeerId.refresh (env : Env) (e : PeerId) (peer : Peer) : Peer :=
  { peer with mn := e.mn, expire := env.now + mkaLifeTime / 1000 }

/-- The entries of a peer list. -/
def listedPeers (rest : Bytes) : List PeerId :=
  peerEntries ((rest.drop mkaHdrLen).take (paramBodyLen rest)) (paramBodyLen rest)

/-- One of the changes that handlers make. -/
inductive RxOp (env : Env) (rest : Bytes) (m : Mka) : Mka → Prop
  | renamed (mi : Mi) (mn : UInt32) : RxOp env rest m { m with self.mi := mi, self.mn := mn }
  | refreshed (e : PeerId) (h : paramBodyType rest = mkaLivePeerList) (he : e ∈ listedPeers rest) :
      RxOp env rest m { m with self := m.self.updatePeer e.mi (e.refresh env) }
  | listed (e : PeerId) (i : ℕ) (p : Participant) (h : paramBodyType rest = mkaLivePeerList)
      (he : e ∈ listedPeers rest) (hnone : m.self.getPeer e.mi = none)
      (hcreate : m.self.createPotentialPeer env (.listedPeer i) e.mi e.mn id = some p) :
      RxOp env rest m { m with self := p }
  | reported (body : SakUseBody) (cp : CpPort) (live : List Peer)
      (h : paramBodyType rest = mkaSakUse) (hbody : body = SakUseBody.ofOctets rest)
      (huse : (body.ltx || body.lrx))
      (hlive : live = m.self.livePeers ∨ m.self.lki = body.lki ∧ body.lan = m.self.lan ∧
        live = updatePeerMi m.self.livePeers m.self.currentPeerId.mi
          fun peer => { peer with sakUsed := true }) :
      RxOp env rest m
        { kay := m.kay.log (.reportedSak m.self.id m.self.currentPeerId.mi body.lki body.lan)
          cp := cp
          self := { m.self with livePeers := live } }
  | ended (cp : CpPort) (hall : m.self.livePeers.all (fun peer => peer.sakUsed)) :
      RxOp env rest m
        { kay := if m.self.toDistSak then
              m.kay.log (.endedDistribution m.self.id (m.self.livePeers.map Peer.mi))
            else m.kay
          cp := cp
          self := { m.self with toDistSak := false } }
  | asked (new : Bool) (hnew : m.self.newSak → new) :
      RxOp env rest m { m with self.newSak := new }
  | unsecured (h : acceptsDistSak m) :
      RxOp env rest m { m with
        kay := m.kay.setAuthenticated
        self.advisedDesired := false
        self.toUseSak := true
        cp := m.cp.connectAuthenticated.smStep }
  | secured (h : acceptsDistSak m) :
      RxOp env rest m { m with
        kay := m.kay.setSecured
        self.advisedDesired := true
        cp := m.cp.connectSecure.smStep }
  | suite (cs : CsIndex) : RxOp env rest m { m with kay.macsecCsindex := cs }
  | installed (cs : CsIndex) (sak : Octets 16) (h : paramBodyType rest = mkaDistributedSak) :
      RxOp env rest m (installSak m cs (DistSakBody.ofOctets rest) sak)

section Keeps

variable {P : Mka → Prop} (hop : ∀ m m', RxOp env rest m m' → P m → P m') {q : Participant} {i : ℕ}
  {es : List PeerId}

include hop

lemma checkMyself_keeps (site : MiSite) (e : PeerId) (hm : P { m with self := q }) :
    P { m with self := checkMyself env site e q } := by
  rw [checkMyself]
  split_ifs
  · rw [Participant.resetParticipantMi]
    cases env.randomMi site with
    | none => exact hm
    | some mi => exact hop _ _ (.renamed mi 0) hm
  · exact hm

lemma decodePotentialPeers_keeps (hm : P { m with self := q }) :
    P { m with self := decodePotentialPeers env i es q } := by
  induction es generalizing i q with
  | nil => exact hm
  | cons e es ih =>
    rw [decodePotentialPeers]
    split_ifs
    · exact ih (checkMyself_keeps hop _ e hm)
    · exact ih hm

/-- The loop over a live peer list. -/
lemma decodeLivePeers_keeps (htype : paramBodyType rest = mkaLivePeerList)
    (hes : es ⊆ listedPeers rest) (hm : P { m with self := q }) :
    P { m with self := decodeLivePeers env included i es q } := by
  induction es generalizing i q with
  | nil => exact hm
  | cons e es ih =>
    obtain ⟨he, hes⟩ := cons_subset.mp hes
    rw [decodeLivePeers]
    split_ifs with hmi hincluded hpeer
    · exact ih hes (checkMyself_keeps hop _ e hm)
    · exact ih hes hm
    · exact ih hes (hop _ _ (.refreshed e htype he) hm)
    cases hcr : q.createPotentialPeer env (.listedPeer i) e.mi e.mn id with
    | none => exact hm
    | some q' =>
      exact ih hes (hop { m with self := q } _
        (.listed e i q' htype he (by simpa using hpeer) hcr) hm)

/-- The latest key in a SAK use. -/
lemma checkLatestKey_keeps (htype : paramBodyType rest = mkaSakUse) (peer : Peer) (hm : P m) :
    P (checkLatestKey m peer (SakUseBody.ofOctets rest)).1 := by
  by_cases huse : ((SakUseBody.ofOctets rest).ltx || (SakUseBody.ofOctets rest).lrx)
  swap
  · rwa [checkLatestKey, if_neg huse]
  have hreport := fun cp live hlive => hop m _ (.reported _ cp live htype rfl huse hlive) hm
  simp only [checkLatestKey, if_pos huse]
  by_cases hmine : m.self.lki = (SakUseBody.ofOctets rest).lki ∧
      (SakUseBody.ofOctets rest).lan = m.self.lan
  · split_ifs
    · exact hreport _ _ (.inl rfl)
    · exact hreport _ _ (.inr ⟨hmine.1, hmine.2, rfl⟩)
    · exact hreport _ _ (.inr ⟨hmine.1, hmine.2, rfl⟩)
  · split_ifs
    · exact hreport _ _ (.inl rfl)
    · exact hreport _ _ (.inl rfl)
    · exact hreport _ _ (.inl rfl)

/-- A SAK use. -/
lemma decodeSakUseBody_keeps (htype : paramBodyType rest = mkaSakUse)
    (h : decodeSakUseBody m rest = .ok m') (hm : P m) : P m' := by
  rcases decodeSakUseBody_cases h with rfl | ⟨peer, -, rfl⟩
  · exact hm
  have hkey := checkLatestKey_keeps hop htype peer hm
  rcases checkSakUse_cases m peer rest with heq | heq | heq <;> rw [heq]
  · exact hm
  · exact hkey
  generalize (checkLatestKey m peer (.ofOctets rest)).1 = m₁ at hkey ⊢
  have hend : P (checkAllReceiving m₁) := by
    by_cases hall : m₁.self.livePeers.all (fun peer => peer.sakUsed)
    · rw [checkAllReceiving, if_pos hall]
      exact hop _ _ (.ended _ hall) hkey
    · rwa [checkAllReceiving, if_neg hall]
  rw [checkPnExhaustion]
  split_ifs
  · exact hop _ _ (.asked true fun _ => rfl) hend
  · exact hend

/-- What the parts of every handler keep, the handler keeps. -/
lemma bodyRx_induction (h : bodyRx crypto env m (paramBodyType rest) rest = .ok m') (hm : P m) :
    P m' := by
  rw [bodyRx] at h
  split_ifs at h with hlist hpotential huse hdist
  · rw [decodeLivePeerBody] at h
    split_ifs at h
    · cases h
      exact hm
    obtain ⟨body, hbody, hm'⟩ := bind_eq_ok.mp h
    cases hm'
    obtain ⟨-, rfl⟩ := readAt_eq_ok.mp hbody
    exact decodeLivePeers_keeps hop hlist (.refl _) hm
  · rw [decodePotentialPeerBody] at h
    split_ifs at h
    · cases h
      exact hm
    · obtain ⟨body, -, hm'⟩ := bind_eq_ok.mp h
      cases hm'
      exact decodePotentialPeers_keeps hop hm
  · exact decodeSakUseBody_keeps hop huse h hm
  · obtain ⟨⟨m₁, b⟩, hdecoded, heq⟩ := bind_eq_ok.mp h
    cases heq
    rcases decodeDistSakBody_cases hdecoded with rfl | ⟨haccepts, rfl | h⟩
    · exact hm
    · exact hop _ _ (.unsecured haccepts) hm
    have hsecured := hop _ _ (.secured haccepts) hm
    rcases decodeWrappedSak_cases h with rfl | ⟨-, cs, wrapped, -, heq⟩
    · exact hsecured
    have hsuite := hop _ _ (.suite cs) hsecured
    obtain rfl := congrArg Prod.fst heq
    rcases unwrapSak_cases crypto env _ (.ofOctets rest) cs wrapped with
      heq | ⟨sak, -, heq⟩ <;> rw [heq]
    · exact hsuite
    · exact hop _ _ (.installed cs sak hdist) hsuite
  · cases h
    exact hm

end Keeps

/-- What no handler changes in a participant. -/
structure Participant.Kept where
  id : ℕ
  ckn : MkaKeyName
  cak : Octets 16
  kek : Octets 16
  ick : Octets 16
  principal : Bool
  livePeers : List (Mi × Sci)
  rxscList : List ReceiveSc
  isKeyServer : Bool
  isObligedKeyServer : Bool
  currentPeerId : PeerId
  currentPeerSci : Sci
  lki : Ki
  lan : UInt8

/-- What no `body_rx` function changes. -/
def Participant.kept : Participant.Kept where
  id := p.id
  ckn := p.ckn
  cak := p.cak
  kek := p.kek
  ick := p.ick
  principal := p.principal
  livePeers := p.livePeers.map Peer.key
  rxscList := p.rxscList
  isKeyServer := p.isKeyServer
  isObligedKeyServer := p.isObligedKeyServer
  currentPeerId := p.currentPeerId
  currentPeerSci := p.currentPeerSci
  lki := p.lki
  lan := p.lan

lemma kept_of_map_key {p : Participant} {live : List Peer}
    (h : live.map Peer.key = p.livePeers.map Peer.key) :
    ({ p with livePeers := live } : Participant).kept = p.kept := by
  simp only [Participant.kept, h]

lemma RxOp.kept (h : RxOp env rest m m') : m'.self.kept = m.self.kept := by
  cases h with
  | refreshed e h he =>
    rw [Participant.updatePeer]
    split_ifs
    · exact kept_of_map_key (map_updatePeerMi fun _ => rfl)
    · rfl
  | listed e i p h he hnone hcreate =>
    obtain ⟨peer, -, rfl⟩ := Option.map_eq_some_iff.mp hcreate
    rfl
  | reported body cp live h hbody huse hlive =>
    rcases hlive with rfl | ⟨-, -, rfl⟩
    · rfl
    · exact kept_of_map_key (map_updatePeerMi fun _ => rfl)
  | _ => rfl

lemma kept_bodyRx (h : bodyRx crypto env m (paramBodyType rest) rest = .ok m') :
    m'.self.kept = m.self.kept :=
  bodyRx_induction (P := fun q => q.self.kept = m.self.kept) (fun _ _ hop => hop.kept.trans) h rfl

end Hostapd.Pae
