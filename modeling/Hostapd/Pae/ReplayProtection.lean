import Hostapd.Pae.PeerInvariants

/-!
# Replay protection

No member is on the peer lists of a participant twice, whatever happens.  The message number known
of a member does not decrease while it stays on the lists, and no message number is accepted from it
twice, as long as no live peer lists it with a smaller number than the one known: a live peer list
overwrites the number (`PeerId.refresh`), and an older one in it opens the way for replayed MKPDUs.
-/

namespace Hostapd.Pae

open Wire FirstMatch Machine List

/-! ## Members on the lists -/

def Participant.peers (p : Participant) : List Peer := p.livePeers ++ p.potentialPeers

/-- The members on the peer lists. -/
def Participant.peerMis (p : Participant) : List Mi :=
  p.livePeers.map Peer.mi ++ p.potentialPeers.map Peer.mi

def Participant.peerIds (p : Participant) : List PeerId := p.peers.map Peer.peerId

/-- A change of the lists that lists no member twice, and after which each member on them is known
with its old message number or with one that was told. -/
structure Participant.Told (ids : List PeerId) (p p' : Participant) : Prop where
  nodup : p.peerMis.Nodup → p'.peerMis.Nodup
  mem : ∀ x ∈ p'.peerIds, x ∈ p.peerIds ∨ x ∈ ids

/-- The entries of the live peer lists that are handled in an MKPDU. -/
def listedLive (mka : Bytes) : List PeerId :=
  (handledSets (mka.drop (paramSetLen mka))).flatMap fun rest =>
    if paramBodyType rest = mkaLivePeerList then listedPeers rest else []

variable {crypto : Crypto} {env : Env} {m m' : Mka} {p p' p'' : Participant} {mi : Mi} {e : PeerId}
  {peer : Peer} {f : Peer → Peer} {site : AllocSite} {body : BasicBody} {b : Bool}
  {rest : Bytes} {k k' : Kay} {ids ids' : List PeerId}

lemma Participant.map_mi_peers (p : Participant) : p.peers.map Peer.mi = p.peerMis :=
  map_append

lemma Participant.map_mi_peerIds (p : Participant) : p.peerIds.map PeerId.mi = p.peerMis := by
  rw [Participant.peerIds, map_map, ← p.map_mi_peers]
  rfl

lemma Participant.getPeer_eq (p : Participant) (mi : Mi) :
    p.getPeer mi = getPeerMi p.peers mi := find?_append.symm

lemma Participant.getPeer_eq_none : p.getPeer mi = none ↔ mi ∉ p.peerMis := by
  rw [p.getPeer_eq, ← p.map_mi_peers, ← isInPeers_iff, isInPeers]
  cases getPeerMi p.peers mi <;> simp

lemma Participant.peers_updatePeer (p : Participant) (mi : Mi) (f : Peer → Peer) :
    (p.updatePeer mi f).peers = updatePeerMi p.peers mi f := by
  have hany : p.isInLivePeer mi = p.livePeers.any fun peer => peer.mi == mi := by
    rw [Participant.isInLivePeer, isInPeers, getPeerMi, isSome_find?]
  refine .trans ?_ (updateFirst_append p.livePeers p.potentialPeers).symm
  rw [Participant.updatePeer, hany]
  split <;> rfl

lemma Participant.peerIds_deletePeerSci (p : Participant) (sci : Sci) :
    (p.deletePeerSci sci).peerIds.Sublist p.peerIds := by
  refine .map Peer.peerId ?_
  rw [Participant.deletePeerSci]
  split_ifs
  · exact eraseP_sublist.append (.refl _)
  · exact (List.Sublist.refl _).append eraseP_sublist

lemma Participant.peerIds_createPotentialPeer (hf : ∀ peer, (f peer).peerId = peer.peerId)
    (h : p.createPotentialPeer env site e.mi e.mn f = some p') :
    p'.peerIds.Perm (e :: p.peerIds) := by
  obtain ⟨peer, hpeer, rfl⟩ := Option.map_eq_some_iff.mp h
  obtain ⟨hmi, hmn, -⟩ := createPeer_eq_some hpeer
  have hid : (f peer).peerId = e := (hf peer).trans (congrArg₂ PeerId.mk hmi hmn)
  simp only [Participant.peerIds, Participant.peers, map_append, map_cons, hid]
  exact perm_middle

namespace Participant.Told

lemma nodup_of_sublist (h : p'.peerIds.Sublist p.peerIds) (hp : p.peerMis.Nodup) :
    p'.peerMis.Nodup := by
  rw [← map_mi_peerIds] at hp ⊢
  exact hp.sublist (h.map PeerId.mi)

lemma of_sublist (h : p'.peerIds.Sublist p.peerIds) : p.Told ids p' where
  nodup := nodup_of_sublist h
  mem _ hx := .inl (h.subset hx)

lemma refl : p.Told ids p := of_sublist (.refl _)

lemma trans (h : p.Told ids p') (h' : p'.Told ids p'') : p.Told ids p'' :=
  ⟨fun hp => h'.nodup (h.nodup hp), fun x hx => (h'.mem x hx).elim (h.mem x) .inr⟩

lemma mono (h : p.Told ids p') (hsub : ids ⊆ ids') : p.Told ids' p' :=
  ⟨h.nodup, fun x hx => (h.mem x hx).imp_right fun hx => hsub hx⟩

lemma of_perm_cons (h : p'.peerIds.Perm (e :: p.peerIds)) (hnew : e.mi ∉ p.peerMis) :
    p.Told [e] p' where
  nodup hp := by
    rw [← map_mi_peerIds] at hp hnew ⊢
    exact (h.map PeerId.mi).nodup_iff.mpr (nodup_cons.mpr ⟨hnew, hp⟩)
  mem _ hx := (mem_cons.mp (h.subset hx)).symm.imp_right mem_singleton.mpr

/-- A peer is told its number. -/
lemma updatePeer (hf : ∀ peer, (f peer).mi = peer.mi) (hmn : ∀ peer, (f peer).mn = e.mn) :
    p.Told [e] (p.updatePeer e.mi f) where
  nodup hp := by
    rw [← map_mi_peers, p.peers_updatePeer, map_updatePeerMi hf, map_mi_peers]
    exact hp
  mem x hx := by
    obtain ⟨peer, hpeer, rfl⟩ := mem_map.mp hx
    rw [p.peers_updatePeer] at hpeer
    rcases mem_updateFirst hpeer with hpeer | ⟨old, -, hold, rfl⟩
    · exact .inl (mem_map_of_mem hpeer)
    · have hmi : old.mi = e.mi := by simpa using hold
      exact .inr (mem_singleton.mpr (congrArg₂ PeerId.mk ((hf old).trans hmi) (hmn old)))

end Participant.Told

def BasicBody.sender (body : BasicBody) : PeerId := ⟨body.actorMi, body.actorMn⟩

/-- The basic parameter set tells the number of its sender. -/
lemma BasicDecoded.told (h : BasicDecoded env m body m' b) :
    m.self.Told (if b then [body.sender] else []) m'.self := by
  cases h with
  | noIdentifier => exact .refl
  | stale mi mn => exact .of_sublist (.refl _)
  | noMemory mi mn hpeer => exact .of_sublist (Participant.peerIds_deletePeerSci _ _)
  | created mi mn p hpeer hcreate =>
    have hsub := (m.self.noteSender body mi mn).peerIds_deletePeerSci body.actorSci
    refine (Participant.Told.of_sublist (p := m.self) hsub).trans (.of_perm_cons
      (Participant.peerIds_createPotentialPeer
      (f := body.describe) (e := body.sender) (fun _ => rfl) hcreate) ?_)
    rw [← Participant.map_mi_peerIds]
    intro hmem
    refine Participant.getPeer_eq_none.mp hpeer ?_
    exact m.self.map_mi_peerIds ▸ (hsub.map PeerId.mi).subset hmem
  | refreshed mi mn peer hpeer hmn =>
    have hnoted : m.self.Told [body.sender] (m.self.noteSender body mi mn) :=
      .of_sublist (.refl _)
    refine hnoted.trans (.updatePeer ?_ ?_) <;> exact fun _ => rfl

/-- The sender is on a list afterwards. -/
lemma BasicDecoded.sender_mem (h : BasicDecoded env m body m' true) :
    body.sender ∈ m'.self.peerIds := by
  cases h with
  | created mi mn p hpeer hcreate =>
    have hperm := Participant.peerIds_createPotentialPeer (f := body.describe) (e := body.sender)
      (fun _ => rfl) hcreate
    exact hperm.symm.subset mem_cons_self
  | refreshed mi mn peer hpeer hmn =>
    rw [Participant.getPeer_eq] at hpeer
    have hmem := mem_updateFirst_self (f := fun peer => body.describe
      { peer with mn := body.actorMn, expire := env.now + mkaLifeTime / 1000 }) hpeer
    rw [Participant.peerIds, Participant.peers_updatePeer]
    exact mem_map.mpr ⟨_, hmem, congrArg₂ PeerId.mk (getPeerMi_eq_some hpeer).2 rfl⟩

lemma Reelected.peers_eq (h : Reelected m m') : m'.self.peers = m.self.peers := by
  obtain ⟨_, _, _, _, _, _, _, hself⟩ := h.self
  rw [hself]
  rfl

/-- A new live peer keeps the number it came with. -/
lemma LiveAccepted.told (h : LiveAccepted env m m') :
    m.self.Told [m.self.currentPeerId] m'.self := by
  cases h with
  | same => exact .refl
  | moved peer hlive hpeer =>
    have herase : m.self.potentialPeers.Perm
        (peer :: m.self.potentialPeers.eraseP fun q => q.mi == m.self.currentPeerId.mi) :=
      perm_cons_eraseP_of_find? hpeer
    have hid : (m.self.promoted env peer).peerId = m.self.currentPeerId :=
      congrArg₂ PeerId.mk (getPeerMi_eq_some hpeer).2 rfl
    constructor
    · intro hp
      rw [← Participant.map_mi_peers, (reelected_reelect _).peers_eq]
      refine (List.Perm.nodup_iff ?_).mp hp
      simp only [Participant.peerMis, Participant.peers, map_append, map_cons,
        Participant.promoted, append_assoc, singleton_append]
      exact (herase.map Peer.mi).append_left _
    intro x hx
    rw [Participant.peerIds, (reelected_reelect _).peers_eq] at hx
    simp only [Participant.peers, map_append, map_cons, hid, append_assoc,
      singleton_append, mem_append, mem_cons] at hx
    rw [Participant.peerIds, Participant.peers, map_append, mem_append, mem_singleton]
    rcases hx with hx | hx | hx
    · exact .inl (.inl hx)
    · exact .inr hx
    · exact .inl (.inr ((eraseP_sublist.map _).subset hx))
  | created peer hlive hpotential hpeer =>
    obtain ⟨hmi, hmn, -⟩ := createPeer_eq_some hpeer
    refine .of_perm_cons ?_ ?_
    · rw [Participant.peerIds, (reelected_reelect _).peers_eq]
      exact .of_eq (congrArg₂ List.cons (congrArg₂ PeerId.mk hmi hmn) rfl)
    rw [Participant.peerMis, mem_append, not_or]
    rw [Participant.isInLivePeer, Bool.eq_false_iff, ne_eq, isInPeers_iff] at hlive
    rw [Participant.isInPotentialPeer, Bool.eq_false_iff, ne_eq, isInPeers_iff] at hpotential
    exact ⟨hlive, hpotential⟩

/-- Only a live peer list tells numbers of others. -/
lemma RxOp.told (h : RxOp env rest m m') :
    m.self.Told (if paramBodyType rest = mkaLivePeerList then listedPeers rest else [])
      m'.self := by
  cases h with
  | refreshed e h he =>
    rw [if_pos h]
    exact (Participant.Told.updatePeer (f := e.refresh env) (fun _ => rfl) fun _ => rfl).mono
      (by simpa using he)
  | listed e i p h he hnone hcreate =>
    rw [if_pos h]
    exact (Participant.Told.of_perm_cons (Participant.peerIds_createPotentialPeer (fun _ => rfl)
      hcreate) (Participant.getPeer_eq_none.mp hnone)).mono (by simpa using he)
  | reported body cp live h hbody huse hlive =>
    rcases hlive with rfl | ⟨-, -, rfl⟩
    · exact .of_sublist (.refl _)
    refine .of_sublist ?_
    simp only [Participant.peerIds, Participant.peers, map_append]
    rw [map_updatePeerMi]
    exact fun _ => rfl
  | _ => exact .of_sublist (.refl _)

lemma CpTouched.peerIds_eq (h : CpTouched k p k' p') : p'.peerIds = p.peerIds := by
  have hpeers : p'.untouched.peerIds = p.untouched.peerIds := congrArg Participant.peerIds h.self
  exact hpeers

/-- The timer only removes peers. -/
lemma participantTimerFor_peerIds (h : participantTimerFor crypto env m = .ok m') :
    m'.self.peerIds.Sublist m.self.peerIds := by
  obtain ⟨life, m₂, k, p, htimed, hsak, hsend, rfl⟩ := participantTimerFor_cases h
  generalize timedPeers env m = m₁ at htimed hsak
  have hpeers : m₁.self.peers = (m.self.expirePeers env).peers := by
    cases htimed with
    | reelected kay hkay m' h => exact h.peers_eq
    | _ => rfl
  have hsak' : m₂.self.peerIds = m₁.self.peerIds := by
    cases hsak with
    | generated hnew hcan nonce cp users =>
      simp only [Participant.peerIds, Participant.peers, map_append, map_map]
      rfl
    | _ => rfl
  have heq : p.peerIds = (m.self.expirePeers env).peerIds := by
    rw [(retried hsend).touched.peerIds_eq, hsak', Participant.peerIds, hpeers]
    rfl
  rw [heq]
  exact (filter_sublist.append filter_sublist).map Peer.peerId

/-! ## Message numbers -/

/-- The live peer list of an MKPDU names no peer with a smaller message number than the one known,
and not its sender with a smaller one than that of the MKPDU. -/
def ListsNoOlderMn (p : Participant) (mka : Bytes) : Prop :=
  ∀ e ∈ listedLive mka, (∀ peer ∈ p.peers, peer.mi = e.mi → peer.mn ≤ e.mn) ∧
    (e.mi = (BasicBody.ofOctets mka).actorMi → (BasicBody.ofOctets mka).actorMn ≤ e.mn)

instance (p : Participant) (mka : Bytes) : Decidable (ListsNoOlderMn p mka) :=
  inferInstanceAs (Decidable (∀ e ∈ listedLive mka, _ ∧ _))

/-- The message number known of a member, if it is on the lists, is at least `mn`. -/
def Participant.MnAtLeast (p : Participant) (mi : Mi) (mn : UInt32) : Prop :=
  ∀ x ∈ p.peerIds, x.mi = mi → mn ≤ x.mn

/-- The message number of a message of a member that a participant accepted. -/
def KayEvent.acceptedMn (i : ℕ) (mi : Mi) : KayEvent → Option UInt32
  | .acceptedMkpdu j peer => if j = i ∧ peer.mi = mi then some peer.mn else none
  | _ => none

/-- The message numbers of the messages of a member that a participant accepted, the last one
first. -/
def acceptedMns (i : ℕ) (mi : Mi) (trace : List KayEvent) : List UInt32 :=
  trace.filterMap (KayEvent.acceptedMn i mi)

variable {crypto : Crypto} {env : Env} {m m' : Mka} {p p' : Participant} {i j : ℕ} {mi : Mi}
  {mn : UInt32} {mka : Bytes} {k k' : Kay} {ids : List PeerId} {body : BasicBody} {b : Bool}
  {before : List UInt32}

lemma Participant.MnAtLeast.told (h : p.MnAtLeast mi mn) (htold : p.Told ids p')
    (hids : ∀ x ∈ ids, x.mi = mi → mn ≤ x.mn) : p'.MnAtLeast mi mn :=
  fun x hx => (htold.mem x hx).elim (h x) (hids x)

lemma Participant.MnAtLeast.of_sublist (h : p.MnAtLeast mi mn)
    (hsub : p'.peerIds.Sublist p.peerIds) : p'.MnAtLeast mi mn := fun x hx => h x (hsub.subset hx)

lemma Participant.mnAtLeast_of_mem {x : PeerId} (hp : p.peerMis.Nodup) (hx : x ∈ p.peerIds) :
    p.MnAtLeast x.mi x.mn := by
  intro y hy hmi
  rw [← p.map_mi_peerIds] at hp
  rw [inj_on_of_nodup_map hp hy hx hmi]
  exact UInt32.le_refl _

lemma BasicDecoded.lt_of_mnAtLeast (h : BasicDecoded env m body m' true)
    (hm : m.self.MnAtLeast body.actorMi mn) (hon : body.actorMi ∈ m.self.peerMis) :
    mn < body.actorMn := by
  cases h with
  | created mi' mn' p hpeer hcreate => exact absurd hon (Participant.getPeer_eq_none.mp hpeer)
  | refreshed mi' mn' peer hpeer hmn =>
    obtain ⟨hmem, hmi⟩ := getPeerMi_eq_some (m.self.getPeer_eq body.actorMi ▸ hpeer)
    exact UInt32.lt_of_le_of_lt (hm peer.peerId (mem_map_of_mem hmem) hmi) hmn

lemma Kay.TraceBy.acceptedMns_eq (h : k.TraceBy j k') (hne : i ≠ j) :
    acceptedMns i mi k'.trace = acceptedMns i mi k.trace := by
  obtain ⟨new, htrace, habout⟩ := h.trace
  rw [acceptedMns, htrace, filterMap_append, filterMap_eq_nil_iff.mpr fun ev hev => ?_]
  · rfl
  have hev := habout ev hev
  cases ev with
  | acceptedMkpdu l peer =>
    have hl : l = j := by simpa [KayEvent.about] using hev
    have hli : l ≠ i := fun heq => hne (heq.symm.trans hl)
    simp [KayEvent.acceptedMn, hli]
  | _ => rfl

lemma Mka.Hears.acceptedMns_eq {installs : Prop} (h : m.Hears (KayEvent.Reported j) installs m') :
    acceptedMns i mi m'.kay.trace = acceptedMns i mi m.kay.trace := by
  refine h.filterMap_trace fun ev hev => ?_
  cases ev with
  | acceptedMkpdu => exact hev.elim
  | _ => rfl

lemma CpTouched.acceptedMns_eq (h : CpTouched k p k' p') :
    acceptedMns i mi k'.trace = acceptedMns i mi k.trace := by
  rcases h.trace with htrace | ⟨frame, htrace⟩ <;> rw [htrace]
  rfl

lemma participantTimerFor_acceptedMns (h : participantTimerFor crypto env m = .ok m') :
    acceptedMns i mi m'.kay.trace = acceptedMns i mi m.kay.trace := by
  obtain ⟨life, m₂, k, p, htimed, hsak, hsend, rfl⟩ := participantTimerFor_cases h
  have hgenerated : acceptedMns i mi m₂.kay.trace =
      acceptedMns i mi (timedPeers env m).kay.trace := by
    cases hsak <;> rfl
  rw [(retried hsend).touched.acceptedMns_eq, hgenerated, htimed.trace_eq]

lemma BasicDecoded.trace_eq (h : BasicDecoded env m body m' b) :
    m'.kay.trace = if b then .acceptedMkpdu m.self.id body.sender :: m.kay.trace
      else m.kay.trace := by
  cases h <;> rfl

/-- What an MKPDU tells behind its basic parameter set: the sender, if it becomes live, and the
peers on its live peer list.  Nothing more is accepted there. -/
lemma decodeMkpduFor_told (h : decodeMkpduFor crypto env m mka = .ok m') :
    ∃ m₁ b, BasicDecoded env m (BasicBody.ofOctets mka) m₁ b ∧
      m₁.self.Told (if b then (BasicBody.ofOctets mka).sender :: listedLive mka else []) m'.self ∧
      ∀ i mi, acceptedMns i mi m'.kay.trace = acceptedMns i mi m₁.kay.trace := by
  obtain ⟨m₁, b, hbasic, hrest⟩ := decodeMkpduFor_cases h
  refine ⟨m₁, b, hbasic, ?_⟩
  rcases hrest with rfl | ⟨rfl, m₂, m₃, n, hlive, hfold, rfl⟩
  · exact ⟨.refl, fun _ _ => rfl⟩
  have hsets : m₂.self.Told (listedLive mka) m₃.self := by
    refine Checked.foldlM_induction (P := fun q => m₂.self.Told (listedLive mka) q.self) ?_ .refl
      hfold
    intro q rest q' hrest hq hstep
    refine bodyRx_induction (P := fun q => m₂.self.Told (listedLive mka) q.self)
      (fun _ _ hop htold => htold.trans (hop.told.mono ?_)) hstep hq
    exact fun e he => mem_flatMap.mpr ⟨rest, hrest, he⟩
  have hsender : m₁.self.currentPeerId = (BasicBody.ofOctets mka).sender := hbasic.sender.1
  constructor
  · have htold : m₁.self.Told ((BasicBody.ofOctets mka).sender :: listedLive mka) m₂.self :=
      hlive.told.mono (by simp [hsender])
    refine htold.trans ((hsets.mono (subset_cons_self _ _)).trans ?_)
    exact .of_sublist (.refl _)
  intro i mi
  have hfolded : acceptedMns i mi m₃.kay.trace = acceptedMns i mi m₂.kay.trace :=
    Checked.foldlM_induction
      (P := fun q => acceptedMns i mi q.kay.trace = acceptedMns i mi m₂.kay.trace)
      (fun _ _ _ _ hm hstep => (bodyRx_hears hstep).acceptedMns_eq.trans hm) rfl hfold
  exact hfolded.trans (hlive.hears : m₁.Hears (KayEvent.Reported 0) False m₂).acceptedMns_eq

lemma decodeMkpduFor_nodup (h : decodeMkpduFor crypto env m mka = .ok m')
    (hm : m.self.peerMis.Nodup) : m'.self.peerMis.Nodup := by
  obtain ⟨m₁, b, hbasic, htold, -⟩ := decodeMkpduFor_told h
  exact htold.nodup (hbasic.told.nodup hm)

/-- An MKPDU whose lists are not older takes no number back. -/
lemma decodeMkpduFor_mnAtLeast (h : decodeMkpduFor crypto env m mka = .ok m')
    (hlists : ListsNoOlderMn m.self mka) (hm : m.self.MnAtLeast mi mn) (hon : mi ∈ m.self.peerMis) :
    m'.self.MnAtLeast mi mn := by
  obtain ⟨m₁, b, hbasic, htold, -⟩ := decodeMkpduFor_told h
  cases b with
  | false => exact (hm.told hbasic.told nofun).told htold nofun
  | true =>
    have hsender : (BasicBody.ofOctets mka).actorMi = mi →
        mn ≤ (BasicBody.ofOctets mka).actorMn := by
      rintro rfl
      exact UInt32.le_of_lt (hbasic.lt_of_mnAtLeast hm hon)
    refine (hm.told hbasic.told ?_).told htold ?_
    · rintro x hx
      obtain rfl := mem_singleton.mp hx
      exact hsender
    intro x hx hmi
    rcases mem_cons.mp hx with rfl | hx
    · exact hsender hmi
    rw [← m.self.map_mi_peers] at hon
    obtain ⟨peer, hpeer, rfl⟩ := mem_map.mp hon
    exact UInt32.le_trans (hm peer.peerId (mem_map_of_mem hpeer) rfl)
      ((hlists x hx).1 peer hpeer hmi.symm)

/-- A frame is accepted at most once, and then with a larger message number than the one known of
its sender; afterwards at least that one is known. -/
lemma decodeMkpduFor_acceptedMns (mi : Mi) (h : decodeMkpduFor crypto env m mka = .ok m')
    (hlists : ListsNoOlderMn m.self mka) (hnodup : m.self.peerMis.Nodup) :
    acceptedMns m.self.id mi m'.kay.trace = acceptedMns m.self.id mi m.kay.trace ∨
      ∃ n, acceptedMns m.self.id mi m'.kay.trace = n :: acceptedMns m.self.id mi m.kay.trace ∧
        (∀ mn, mi ∈ m.self.peerMis → m.self.MnAtLeast mi mn → mn < n) ∧
        m'.self.MnAtLeast mi n := by
  obtain ⟨m₁, b, hbasic, htold, htrace⟩ := decodeMkpduFor_told h
  rw [htrace, hbasic.trace_eq]
  cases b with
  | false => exact .inl rfl
  | true =>
    by_cases hmi : (BasicBody.ofOctets mka).actorMi = mi
    swap
    · left
      simp [acceptedMns, KayEvent.acceptedMn, BasicBody.sender, hmi]
    subst hmi
    refine .inr ⟨(BasicBody.ofOctets mka).actorMn, ?_, ?_, ?_⟩
    · simp [acceptedMns, KayEvent.acceptedMn, BasicBody.sender]
    · exact fun mn hon hm => hbasic.lt_of_mnAtLeast hm hon
    have hknown := Participant.mnAtLeast_of_mem (hbasic.told.nodup hnodup) hbasic.sender_mem
    refine hknown.told htold fun x hx hmi => ?_
    rcases mem_cons.mp hx with rfl | hx
    · exact UInt32.le_refl _
    · exact (hlists x hx).2 hmi

/-- No member is on the lists of a participant twice, whatever happens. -/
lemma nodup_peerMis_invariant (crypto : Crypto) :
    Invariant crypto (fun _ _ => True) (fun _ => True) (fun _ p => p.peerMis.Nodup) where
  receive _ _ _ _ hp hm' := ⟨trivial, decodeMkpduFor_nodup hm' hp⟩
  tick _ _ _ hp hm' :=
    ⟨trivial, Participant.Told.nodup_of_sublist (participantTimerFor_peerIds hm') hp⟩
  cp _ _ _ _ hp hop :=
    ⟨trivial, by rwa [← Participant.map_mi_peerIds, hop.touched.peerIds_eq,
      Participant.map_mi_peerIds]⟩
  request hp := hp
  create _ _ _ _ := nodup_nil
  quiet _ _ := trivial
  other hq _ _ := hq

/-- A member is on the lists of the participant at an address, if there is one. -/
def System.Lists (i : ℕ) (mi : Mi) (s : System) : Prop :=
  ∀ p ∈ s.participants, p.id = i → mi ∈ p.peerMis

instance (i : ℕ) (mi : Mi) (s : System) : Decidable (s.Lists i mi) :=
  inferInstanceAs (Decidable (∀ p ∈ s.participants, _ → _))

/-- No step takes the number of a listed member back. -/
lemma mnAtLeast_invariant (crypto : Crypto) (i : ℕ) (mi : Mi) (mn : UInt32) :
    Invariant crypto (fun s e => Event.Received crypto ListsNoOlderMn s e ∧ s.Lists i mi)
      (fun _ => True) (fun _ p => p.id = i → p.MnAtLeast mi mn) where
  receive hcond hto hmem _ hp hm' := by
    refine ⟨trivial, fun hid => ?_⟩
    have hid' := (follows_decodeMkpduFor hm').id.symm.trans hid
    exact decodeMkpduFor_mnAtLeast hm' (hcond.1 _ hto) (hp hid') (hcond.2 _ hmem hid')
  tick _ _ _ hp hm' := by
    refine ⟨trivial, fun hid => ?_⟩
    have hid' := (follows_participantTimerFor hm').id.symm.trans hid
    exact (hp hid').of_sublist (participantTimerFor_peerIds hm')
  cp _ _ _ _ hp hop := by
    refine ⟨trivial, fun hid => ?_⟩
    exact (hp (hop.touched.id.symm.trans hid)).of_sublist (by rw [hop.touched.peerIds_eq])
  request hp := hp
  create _ _ _ _ _ := nofun
  quiet _ _ := trivial
  other hq _ _ := hq

/-- Since `before` was noted, the message numbers accepted from a member increase. -/
def Kay.AcceptsInOrder (i : ℕ) (mi : Mi) (before : List UInt32) (k : Kay) : Prop :=
  ∃ new, acceptedMns i mi k.trace = new ++ before ∧ new.Pairwise (· > ·)

lemma Kay.AcceptsInOrder.of_eq (h : k.AcceptsInOrder i mi before)
    (htrace : acceptedMns i mi k'.trace = acceptedMns i mi k.trace) :
    k'.AcceptsInOrder i mi before := by
  rw [Kay.AcceptsInOrder, htrace]
  exact h

/-- A member from which nothing was accepted since `before` was noted, or which is on the lists. -/
def StaysListed (i : ℕ) (mi : Mi) (before : List UInt32) (s : System) : Prop :=
  acceptedMns i mi s.kay.trace = before ∨ s.Lists i mi

instance (i : ℕ) (mi : Mi) (before : List UInt32) (s : System) :
    Decidable (StaysListed i mi before s) := inferInstanceAs (Decidable (_ ∨ _))

/-- What is known of a participant about a member that stays on the lists. -/
def Participant.KnowsAccepted (i : ℕ) (mi : Mi) (before : List UInt32) (k : Kay)
    (p : Participant) : Prop :=
  p.peerMis.Nodup ∧ ∀ new, acceptedMns i mi k.trace = new ++ before → ∀ n ∈ new, p.MnAtLeast mi n

lemma Participant.KnowsAccepted.of_sublist (h : p.KnowsAccepted i mi before k)
    (htrace : acceptedMns i mi k'.trace = acceptedMns i mi k.trace)
    (hpeers : p'.peerIds.Sublist p.peerIds) : p'.KnowsAccepted i mi before k' := by
  refine ⟨Participant.Told.nodup_of_sublist hpeers h.1, fun new hnew n hn => ?_⟩
  exact (h.2 new (htrace.symm.trans hnew) n hn).of_sublist hpeers

/-- An MKPDU is accepted with a larger number only. -/
lemma acceptsInOrder_decodeMkpduFor (h : decodeMkpduFor crypto env m mka = .ok m')
    (hid : m.self.id = i) (hlists : ListsNoOlderMn m.self mka)
    (hstays : acceptedMns i mi m.kay.trace = before ∨ mi ∈ m.self.peerMis)
    (hK : m.kay.AcceptsInOrder i mi before) (hm : m.self.KnowsAccepted i mi before m.kay) :
    m'.kay.AcceptsInOrder i mi before ∧ m'.self.KnowsAccepted i mi before m'.kay := by
  subst hid
  have hnodup := decodeMkpduFor_nodup h hm.1
  -- what was known before the frame is known after it
  have hkept : ∀ new, acceptedMns m.self.id mi m.kay.trace = new ++ before →
      ∀ n ∈ new, mi ∈ m.self.peerMis ∧ m'.self.MnAtLeast mi n := by
    intro new hnew n hn
    have hon := hstays.resolve_left fun hbefore => not_mem_nil
      (append_left_eq_self.mp (hnew.symm.trans hbefore) ▸ hn)
    exact ⟨hon, decodeMkpduFor_mnAtLeast h hlists (hm.2 new hnew n hn) hon⟩
  rcases decodeMkpduFor_acceptedMns mi h hlists hm.1 with heq | ⟨n, heq, hgt, hat⟩
  · refine ⟨hK.of_eq heq, hnodup, fun new hnew n hn => ?_⟩
    exact (hkept new (heq.symm.trans hnew) n hn).2
  obtain ⟨old, hold, hpair⟩ := hK
  refine ⟨⟨n :: old, by rw [heq, hold]; rfl, pairwise_cons.mpr ⟨?_, hpair⟩⟩, hnodup, ?_⟩
  · intro n' hn'
    exact hgt n' (hkept old hold n' hn').1 (hm.2 old hold n' hn')
  intro new hnew n' hn'
  have hnew' : new = n :: old := by
    have happend : new ++ before = (n :: old) ++ before := by
      rw [← hnew, heq, hold]
      rfl
    exact append_cancel_right happend
  rcases mem_cons.mp (hnew' ▸ hn') with rfl | hn'
  · exact hat
  · exact (hkept old hold n' hn').2

/-- The message numbers accepted from a member that stays on the lists increase. -/
lemma acceptsInOrder_invariant (crypto : Crypto) (i : ℕ) (mi : Mi) (before : List UInt32) :
    Invariant crypto
      (fun s e => Event.Received crypto ListsNoOlderMn s e ∧ StaysListed i mi before s)
      (Kay.AcceptsInOrder i mi before)
      (fun k p => p.id = i → p.KnowsAccepted i mi before k) where
  receive := by
    intro s env buf p m' hcond hto hmem hK hp hm'
    have hfollows := follows_decodeMkpduFor hm'
    by_cases hid : p.id = i
    · have hstays := hcond.2.imp_right fun hlists => hlists p hmem hid
      obtain ⟨hK', hp'⟩ :=
        acceptsInOrder_decodeMkpduFor hm' hid (hcond.1 _ hto) hstays hK (hp hid)
      exact ⟨hK', fun _ => hp'⟩
    · have htrace : acceptedMns i mi m'.kay.trace = acceptedMns i mi s.kay.trace :=
        hfollows.trace.acceptedMns_eq (.symm hid)
      exact ⟨hK.of_eq htrace, fun hid' => absurd (hfollows.id.symm.trans hid') hid⟩
  tick := by
    intro s env p m' _ _ hK hp hm'
    have htrace : acceptedMns i mi m'.kay.trace = acceptedMns i mi s.kay.trace :=
      participantTimerFor_acceptedMns hm'
    refine ⟨hK.of_eq htrace, fun hid => ?_⟩
    have hid' := (follows_participantTimerFor hm').id.symm.trans hid
    exact (hp hid').of_sublist htrace (participantTimerFor_peerIds hm')
  cp := by
    intro s e p₀ k p k' p' _ _ _ hK hp hop
    have htrace : acceptedMns i mi k'.trace = acceptedMns i mi k.trace := hop.touched.acceptedMns_eq
    refine ⟨hK.of_eq htrace, fun hid => ?_⟩
    exact (hp (hop.touched.id.symm.trans hid)).of_sublist htrace (by rw [hop.touched.peerIds_eq])
  request hp := hp
  create _ _ _ _ _ := ⟨nodup_nil, fun _ _ _ _ => nofun⟩
  quiet hK hquiet := hK.of_eq (by rw [hquiet.trace_eq])
  other := by
    intro k k' j q hq htrace hne hid
    exact (hq hid).of_sublist (htrace.acceptedMns_eq (hid ▸ hne)) (.refl _)

/-- Replay protection.  In every state reached no member is on the lists of a participant twice.  In
every run from there in which no live peer list names a member with a smaller message number than
the one known, the number of a member that stays on the lists does not decrease; and if it stays
there from the first message accepted from it on, the numbers of the messages accepted increase, so
that none is accepted twice. -/
theorem replay_protection {crypto : Crypto} {params : KayParams} {env : Env} {secy : Secy}
    {s₀ s : System} {es : List Event} (hinit : kayInit crypto params env secy = .ok s₀)
    (hrun : run (System.step crypto) s₀ es = .ok s) :
    (∀ p ∈ s.participants, p.peerMis.Nodup) ∧
    ∀ (es' : List Event) (s' : System) (i : ℕ) (mi : Mi),
      run (System.step crypto) s es' = .ok s' →
      Along (System.step crypto) (Event.Received crypto ListsNoOlderMn) s es' →
      (Along (System.step crypto) (fun t _ => t.Lists i mi) s es' →
        ∀ p ∈ s.participants, ∀ p' ∈ s'.participants, p.id = i → p'.id = i →
          ∀ peer ∈ p.peers, ∀ peer' ∈ p'.peers, peer.mi = mi → peer'.mi = mi → peer.mn ≤ peer'.mn) ∧
      (Along (System.step crypto)
          (fun t _ => StaysListed i mi (acceptedMns i mi s.kay.trace) t) s es' →
        ∃ new, acceptedMns i mi s'.kay.trace = new ++ acceptedMns i mi s.kay.trace ∧
          new.Pairwise (· > ·)) := by
  have hnodup : s.Holds (fun _ => True) (fun _ p => p.peerMis.Nodup) :=
    (nodup_peerMis_invariant crypto).run (kayInit_holds trivial hinit)
      (along_of_forall fun _ _ => trivial) hrun
  refine ⟨hnodup.all, fun es' s' i mi hrun' hlists => ⟨?_, ?_⟩⟩
  · intro hon p hp p' hp' hid hid' peer hpeer peer' hpeer' hmi hmi'
    have hs : s.Holds (fun _ => True) (fun _ q => q.id = i → q.MnAtLeast mi peer.mn) := by
      refine ⟨hnodup.nodup, hnodup.lt, trivial, fun q hq hqid => ?_⟩
      -- the participant with the address is `p`, and the member is on its lists once
      have hqp : q = p := inj_on_of_nodup_map hnodup.nodup hq hp (hqid.trans hid.symm)
      subst hqp hmi
      exact Participant.mnAtLeast_of_mem (hnodup.all q hq) (mem_map_of_mem hpeer)
    have hs' := (mnAtLeast_invariant crypto i mi peer.mn).run hs (hlists.and hon) hrun'
    exact hs'.all p' hp' hid' peer'.peerId (mem_map_of_mem hpeer') hmi'
  · intro hstays
    have hs : s.Holds (Kay.AcceptsInOrder i mi (acceptedMns i mi s.kay.trace))
        (fun k q => q.id = i → q.KnowsAccepted i mi (acceptedMns i mi s.kay.trace) k) := by
      refine ⟨hnodup.nodup, hnodup.lt, ⟨[], rfl, .nil⟩, fun q hq _ => ?_⟩
      refine ⟨hnodup.all q hq, fun new hnew n hn => ?_⟩
      have hnil : new = [] := append_left_eq_self.mp hnew.symm
      exact absurd hn (hnil ▸ not_mem_nil)
    exact ((acceptsInOrder_invariant crypto i mi _).run hs (hlists.and hstays) hrun').kay

/-- The next message of the live peer of `promotePeer`. -/
def nextMessage : Event :=
  .receive (Env.benign 2) (memberFrame (sampleMi 2) 2 (sampleAddr 2)
    [livePeerSet [⟨Octets.zero 12, 0⟩]])

/-- Two messages of a live peer are accepted in the order of their numbers. -/
theorem replay_protection_of_next_message :
    ∃ s₀ s s', kayInit default sampleParams (Env.benign 0) Secy.untold = .ok s₀ ∧
      run (System.step default) s₀ promotePeer = .ok s ∧
      run (System.step default) s [nextMessage] = .ok s' ∧
      acceptedMns 0 (sampleMi 2) s'.kay.trace = [2, 1] ∧
      (∀ p ∈ s.participants, p.peerMis.Nodup) ∧
      (∀ p ∈ s.participants, ∀ p' ∈ s'.participants, p.id = 0 → p'.id = 0 →
        ∀ peer ∈ p.peers, ∀ peer' ∈ p'.peers, peer.mi = sampleMi 2 → peer'.mi = sampleMi 2 →
          peer.mn ≤ peer'.mn) ∧
      ∃ new, acceptedMns 0 (sampleMi 2) s'.kay.trace =
        new ++ acceptedMns 0 (sampleMi 2) s.kay.trace ∧ new.Pairwise (· > ·) := by
  have hreturns : Returns (kayInit default sampleParams (.benign 0) Secy.untold) fun s₀ =>
      Returns (run (System.step default) s₀ promotePeer) fun s =>
        Along (System.step default) (Event.Received default ListsNoOlderMn) s [nextMessage] ∧
        Along (System.step default) (fun t _ => t.Lists 0 (sampleMi 2)) s [nextMessage] ∧
        Along (System.step default) (fun t _ => StaysListed 0 (sampleMi 2)
          (acceptedMns 0 (sampleMi 2) s.kay.trace) t) s [nextMessage] ∧
        Returns (run (System.step default) s [nextMessage]) fun s' =>
          acceptedMns 0 (sampleMi 2) s'.kay.trace = [2, 1] := by
    decide +kernel
  obtain ⟨s₀, hinit, s, hrun, hlists, hon, hstays, s', hrun', haccepted⟩ := hreturns
  obtain ⟨hnodup, hnext⟩ := replay_protection hinit hrun
  obtain ⟨hmn, horder⟩ := hnext [nextMessage] s' 0 (sampleMi 2) hrun' hlists
  exact ⟨s₀, s, s', hinit, hrun, hrun', haccepted, hnodup, hmn hon, horder hstays⟩

/-- A member whose message with the number 5 is accepted, another one that becomes live with a live
peer list that names the first with the number 1, and the message with the number 5 again. -/
def replayedMessage : List Event :=
  [createSample,
    .receive (Env.benign 1) (memberFrame (sampleMi 2) 5 (sampleAddr 2)
      [livePeerSet [⟨Octets.zero 12, 0⟩]]),
    .receive (Env.benign 2) (memberFrame (sampleMi 3) 1 (sampleAddr 3)
      [livePeerSet [⟨Octets.zero 12, 0⟩, ⟨sampleMi 2, 1⟩]]),
    .receive (Env.benign 3) (memberFrame (sampleMi 2) 5 (sampleAddr 2)
      [livePeerSet [⟨Octets.zero 12, 0⟩]])]

/-- The same message of a member that is on the lists all the time is accepted twice, and the number
known of it decreases in between. -/
theorem message_accepted_twice :
    ∃ s₀ s, kayInit default sampleParams (Env.benign 0) Secy.untold = .ok s₀ ∧
      run (System.step default) s₀ replayedMessage = .ok s ∧
      Along (System.step default) (fun t _ => StaysListed 0 (sampleMi 2) [] t) s₀ replayedMessage ∧
      acceptedMns 0 (sampleMi 2) s.kay.trace = [5, 5] ∧
      (∃ t, run (System.step default) s₀ (replayedMessage.take 2) = .ok t ∧
        ∃ p ∈ t.participants, ∃ peer ∈ p.peers, peer.mi = sampleMi 2 ∧ peer.mn = 5) ∧
      ∃ t, run (System.step default) s₀ (replayedMessage.take 3) = .ok t ∧
        ∃ p ∈ t.participants, ∃ peer ∈ p.peers, peer.mi = sampleMi 2 ∧ peer.mn = 1 := by
  set_option synthInstance.maxSize 256 in
  decide +kernel

end Hostapd.Pae
