import Hostapd.Pae.ParamSets
import Hostapd.Pae.Steps

/-!
# Live peers and receive SCs

Over all runs of the system live peers and receive SCs stay in step as long as no member that is not
live comes with the SCI of a live peer: such a member makes `ieee802_1x_mka_decode_basic_body`
delete the live peer and leave its receive SC behind.
-/

namespace Hostapd.Pae

open Wire FirstMatch Machine List

/-! ## A concrete peer -/

/-- A frame of the member with the identifier `mi` and the address `addr` for a participant with a
zeroed CKN of one octet and a zeroed CAK. -/
def memberFrame (mi : Mi) (mn : UInt32) (addr : Octets 6) (sets : List ParamSet) : Bytes :=
  Message.frame ⟨⟨1, 16, true, true, .integAndConf0_30_50, ⟨addr, 1⟩, mi, mn, mkaAlgoAgility⟩,
    replicate 4 0, sets⟩ default (Octets.zero 16) addr

def livePeerSet (es : List PeerId) : ParamSet :=
  ⟨mkaLivePeerList, 0, 0, (es.map PeerId.octets).flatten⟩

def sampleParams : KayParams := ⟨.shouldEncrypt, 1, sampleAddr 1, none⟩

/-- The creation of the participant that `memberFrame` is for; its member identifier is zeroed. -/
def createSample : Event :=
  .createMka (Env.benign 0) sampleName (Octets.zero 16) 0 .psk false

/-! ## Live peers and receive SCs -/

/-- Each live peer has one receive SC, and no other is there. -/
structure Participant.ScsInStep (p : Participant) : Prop where
  nodup : (p.livePeers.map Peer.sci).Nodup
  one : ∀ peer ∈ p.livePeers, (p.rxscList.map ReceiveSc.sci).count peer.sci = 1
  belongs : ∀ rxsc ∈ p.rxscList, ∃ peer ∈ p.livePeers, peer.sci = rxsc.sci

/-- The receive SCs are, up to their order, those of the live peers, which are different. -/
def Participant.ScsMatch (p : Participant) : Prop :=
  (p.livePeers.map Peer.sci).Nodup ∧ (p.rxscList.map ReceiveSc.sci).Perm (p.livePeers.map Peer.sci)

lemma Participant.ScsMatch.inStep {p : Participant} (h : p.ScsMatch) : p.ScsInStep := by
  refine ⟨h.1, ?_, ?_⟩
  · intro peer hpeer
    rw [h.2.count_eq]
    exact count_eq_one_of_mem h.1 (mem_map_of_mem hpeer)
  · intro rxsc hrxsc
    have hmem : rxsc.sci ∈ p.livePeers.map Peer.sci :=
      h.2.subset (mem_map_of_mem hrxsc)
    exact mem_map.mp hmem

/-- A member that is not live does not come with the SCI of a live peer. -/
def ComesWithOwnSci (p : Participant) (mka : Bytes) : Prop :=
  p.isInLivePeer (BasicBody.ofOctets mka).actorMi = false →
    ∀ peer ∈ p.livePeers, peer.sci ≠ (BasicBody.ofOctets mka).actorSci

instance (p : Participant) (mka : Bytes) : Decidable (ComesWithOwnSci p mka) :=
  inferInstanceAs (Decidable (_ → _))

variable {crypto : Crypto} {env : Env} {m m' : Mka} {p p' : Participant}

lemma map_sci_of_map_key {peers peers' : List Peer} (h : peers'.map Peer.key = peers.map Peer.key) :
    peers'.map Peer.sci = peers.map Peer.sci := by
  have hsci : ∀ l : List Peer, l.map Peer.sci = (l.map Peer.key).map Prod.snd := by
    intro l
    rw [map_map]
    rfl
  rw [hsci, hsci, h]

lemma Participant.ScsMatch.congr (h : p.ScsMatch)
    (hlive : p'.livePeers.map Peer.sci = p.livePeers.map Peer.sci)
    (hscs : p'.rxscList.map ReceiveSc.sci = p.rxscList.map ReceiveSc.sci) : p'.ScsMatch := by
  rw [Participant.ScsMatch, hlive, hscs]
  exact h

/-- A member with an SCI of its own leaves the live peers alone. -/
lemma BasicDecoded.live {body : BasicBody} {b : Bool} (h : BasicDecoded env m body m' b)
    (hown : m.self.isInLivePeer body.actorMi = false →
      ∀ peer ∈ m.self.livePeers, peer.sci ≠ body.actorSci) :
    m'.self.livePeers.map Peer.key = m.self.livePeers.map Peer.key ∧
      m'.self.rxscList = m.self.rxscList := by
  have hkept : m.self.getPeer body.actorMi = none →
      m.self.livePeers.eraseP (fun peer => sciEqual peer.sci body.actorSci) = m.self.livePeers := by
    intro hpeer
    have hlive : m.self.isInLivePeer body.actorMi = false := by
      have hnone : m.self.getLivePeer body.actorMi = none := (Option.or_eq_none_iff.mp hpeer).1
      rw [Participant.isInLivePeer, isInPeers, ← Participant.getLivePeer, hnone]
      rfl
    refine eraseP_of_forall_not fun peer hmem => ?_
    rw [sciEqual_iff]
    exact hown hlive peer hmem
  cases h with
  | noIdentifier => exact ⟨rfl, rfl⟩
  | stale mi mn => exact ⟨rfl, rfl⟩
  | noMemory mi mn hpeer =>
    rw [Participant.deletePeerSci_eq]
    exact ⟨congrArg (List.map Peer.key) (hkept hpeer), rfl⟩
  | created mi mn p hpeer hcreate =>
    obtain ⟨peer, -, rfl⟩ := Option.map_eq_some_iff.mp hcreate
    rw [Participant.deletePeerSci_eq]
    exact ⟨congrArg (List.map Peer.key) (hkept hpeer), rfl⟩
  | refreshed mi mn peer hpeer hmn =>
    rw [Participant.updatePeer_eq]
    refine ⟨?_, rfl⟩
    split_ifs
    · exact map_updatePeerMi fun _ => rfl
    · rfl

lemma Reelected.scsMatch (h : Reelected m m') (hm : m.self.ScsMatch) : m'.self.ScsMatch := by
  obtain ⟨_, _, _, _, _, _, _, hself⟩ := h.self
  rw [hself]
  exact hm

/-- A new live peer gets its receive SC. -/
lemma LiveAccepted.scsMatch (h : LiveAccepted env m m') (hm : m.self.ScsMatch)
    (hown : m.self.isInLivePeer m.self.currentPeerId.mi = false →
      ∀ peer ∈ m.self.livePeers, peer.sci ≠ m.self.currentPeerSci) : m'.self.ScsMatch := by
  have hnew : m.self.isInLivePeer m.self.currentPeerId.mi = false →
      m.self.currentPeerSci ∉ m.self.livePeers.map Peer.sci := by
    intro hlive hmem
    obtain ⟨peer, hpeer, hsci⟩ := mem_map.mp hmem
    exact hown hlive peer hpeer hsci
  cases h with
  | same => exact hm
  | moved peer hlive hpeer =>
    refine (reelected_reelect _).scsMatch ?_
    have hscis : (m.self.livePeers ++ [m.self.promoted env peer]).map Peer.sci =
        m.self.livePeers.map Peer.sci ++ [m.self.currentPeerSci] := by
      rw [map_append]
      rfl
    refine ⟨?_, ?_⟩
    · rw [hscis]
      exact (nodup_append_comm.mp (nodup_cons.mpr ⟨hnew hlive, hm.1⟩ :
        ([m.self.currentPeerSci] ++ m.self.livePeers.map Peer.sci).Nodup))
    · rw [hscis]
      exact (hm.2.cons _).trans (perm_append_singleton _ _).symm
  | created peer hlive hpotential hpeer =>
    refine (reelected_reelect _).scsMatch ⟨?_, ?_⟩
    · exact nodup_cons.mpr ⟨hnew hlive, hm.1⟩
    · exact hm.2.cons _

/-- A peer that expires takes its receive SC with it. -/
lemma Participant.ScsMatch.expirePeers (h : p.ScsMatch) (env : Env) :
    (p.expirePeers env).ScsMatch := by
  -- as the SCIs are different, a live peer is expired if and only if its SCI is that of one that is
  have hgone : ∀ peer ∈ p.livePeers, (!peer.expired env) =
      !(p.livePeers.filter fun peer => peer.expired env).any fun q =>
        sciEqual peer.sci q.sci := by
    intro peer hpeer
    congr 1
    rw [Bool.eq_iff_iff, any_eq_true]
    constructor
    · intro hexp
      exact ⟨peer, mem_filter.mpr ⟨hpeer, hexp⟩, sciEqual_iff.mpr rfl⟩
    rintro ⟨q, hq, hsci⟩
    obtain ⟨hq, hexp⟩ := mem_filter.mp hq
    have heq : peer = q := inj_on_of_nodup_map h.1 hpeer hq (sciEqual_iff.mp hsci)
    exact heq ▸ hexp
  have hlive : (p.expirePeers env).livePeers.map Peer.sci =
      (p.livePeers.map Peer.sci).filter fun sci =>
        !(p.livePeers.filter fun peer => peer.expired env).any fun q => sciEqual sci q.sci := by
    rw [Participant.expirePeers, filter_map]
    exact congrArg _ (filter_congr hgone)
  have hscs : (p.expirePeers env).rxscList.map ReceiveSc.sci =
      (p.rxscList.map ReceiveSc.sci).filter fun sci =>
        !(p.livePeers.filter fun peer => peer.expired env).any fun q => sciEqual sci q.sci := by
    rw [Participant.expirePeers, filter_map]
    rfl
  refine ⟨?_, ?_⟩
  · rw [hlive]
    exact h.1.filter _
  · rw [hlive, hscs]
    exact h.2.filter _

lemma PeersTimed.scsMatch (h : PeersTimed env m m') (hm : m.self.ScsMatch) : m'.self.ScsMatch := by
  cases h with
  | reelected kay hkay m' h => exact h.scsMatch (hm.expirePeers env)
  | _ => exact hm.expirePeers env

lemma SakTimed.scsMatch (h : SakTimed crypto env m m') (hm : m.self.ScsMatch) :
    m'.self.ScsMatch := by
  cases h with
  | idle hnew => exact hm
  | refused hnew hcan => exact hm
  | generated hnew hcan nonce cp users =>
    refine hm.congr ?_ rfl
    rw [map_map]
    rfl

lemma CpTouched.scsMatch {k k' : Kay} (h : CpTouched k p k' p') (hp : p.ScsMatch) :
    p'.ScsMatch := by
  have hlive : p'.livePeers = p.livePeers := congrArg (fun q => q.livePeers) h.self
  exact hp.congr (by rw [hlive]) h.scs

/-- An MKPDU of a member with an SCI of its own. -/
lemma decodeMkpduFor_scsMatch {mka : Bytes} (h : decodeMkpduFor crypto env m mka = .ok m')
    (hm : m.self.ScsMatch) (hown : ComesWithOwnSci m.self mka) : m'.self.ScsMatch := by
  obtain ⟨m₁, b, hbasic, hrest⟩ := decodeMkpduFor_cases h
  obtain ⟨hkeys, hscs⟩ := hbasic.live hown
  have hm₁ : m₁.self.ScsMatch := hm.congr (map_sci_of_map_key hkeys) (by rw [hscs])
  rcases hrest with rfl | ⟨rfl, m₂, m₃, n, hlive, hfold, rfl⟩
  · exact hm₁
  have hm₂ : m₂.self.ScsMatch := by
    refine hlive.scsMatch hm₁ ?_
    rw [hbasic.sender.1, hbasic.sender.2]
    intro hnot peer hpeer hsci
    -- the live peers before and after the basic parameter set have the same members and SCIs
    have hnot' : m.self.isInLivePeer (BasicBody.ofOctets mka).actorMi = false := by
      rw [Participant.isInLivePeer, Bool.eq_false_iff, ne_eq, isInPeers_iff] at hnot ⊢
      rwa [map_mi_of_map_key hkeys] at hnot
    have hmem : peer.sci ∈ m.self.livePeers.map Peer.sci :=
      map_sci_of_map_key hkeys ▸ mem_map_of_mem hpeer
    obtain ⟨peer', hpeer', hsci'⟩ := mem_map.mp hmem
    exact hown hnot' peer' hpeer' (hsci'.trans hsci)
  have hm₃ : m₃.self.kept = m₂.self.kept :=
    Checked.foldlM_induction (P := fun m => m.self.kept = m₂.self.kept)
      (fun _ _ _ _ hkept hstep => (kept_bodyRx hstep).trans hkept) rfl hfold
  have hkeys₃ : m₃.self.livePeers.map Peer.key = m₂.self.livePeers.map Peer.key :=
    congrArg Participant.Kept.livePeers hm₃
  have hscs₃ : m₃.self.rxscList = m₂.self.rxscList := congrArg Participant.Kept.rxscList hm₃
  exact hm₂.congr (map_sci_of_map_key hkeys₃) (by rw [hscs₃])

lemma participantTimerFor_scsMatch (h : participantTimerFor crypto env m = .ok m')
    (hm : m.self.ScsMatch) : m'.self.ScsMatch := by
  obtain ⟨life, m₂, k, p, htimed, hsak, hsend, rfl⟩ := participantTimerFor_cases h
  exact (retried hsend).touched.scsMatch (hsak.scsMatch (htimed.scsMatch hm))

/-- Live peers and receive SCs stay in step by every step of the system in which a member that is
not live comes with an SCI of its own. -/
lemma scsMatch_invariant (crypto : Crypto) :
    Invariant crypto (Event.Received crypto ComesWithOwnSci) (fun _ => True)
      (fun _ p => p.ScsMatch) where
  receive hcond hto _ _ hp hm' := ⟨trivial, decodeMkpduFor_scsMatch hm' hp (hcond _ hto)⟩
  tick _ _ _ hp hm' := ⟨trivial, participantTimerFor_scsMatch hm' hp⟩
  cp _ _ _ _ hp hop := ⟨trivial, hop.touched.scsMatch hp⟩
  request hp := hp
  create _ _ _ _ := ⟨nodup_nil, .refl _⟩
  quiet _ _ := trivial
  other hq _ _ := hq

/-- In every run in which a member that is not live comes with an SCI of its own, live peers and
receive SCs are in step in every participant. -/
theorem scs_in_step {crypto : Crypto} {params : KayParams} {env : Env} {secy : Secy} {s₀ s : System}
    {es : List Event} (hinit : kayInit crypto params env secy = .ok s₀)
    (hown : Along (System.step crypto) (Event.Received crypto ComesWithOwnSci) s₀ es)
    (hrun : run (System.step crypto) s₀ es = .ok s) : ∀ p ∈ s.participants, p.ScsInStep := by
  have hs₀ : s₀.Holds (fun _ => True) (fun _ p => p.ScsMatch) := kayInit_holds trivial hinit
  intro p hp
  exact (((scsMatch_invariant crypto).run hs₀ hown hrun).all p hp).inStep

def promotePeer : List Event :=
  [createSample, .receive (Env.benign 1)
    (memberFrame (sampleMi 2) 1 (sampleAddr 2) [livePeerSet [⟨Octets.zero 12, 0⟩]])]

/-- A live peer is in step with its receive SC. -/
theorem scs_in_step_after_promotion :
    ∃ s₀ s, kayInit default sampleParams (Env.benign 0) Secy.untold = .ok s₀ ∧
      run (System.step default) s₀ promotePeer = .ok s ∧
      s.participants.map (fun p => (p.livePeers.length, p.rxscList.length)) = [(1, 1)] ∧
      ∀ p ∈ s.participants, p.ScsInStep := by
  refine exists_ok₂ (fun s₀ _ =>
    Along (System.step default) (Event.Received default ComesWithOwnSci) s₀ promotePeer)
    (by decide +kernel) fun s₀ s hinit hrun _ hown => ?_
  exact scs_in_step hinit hown hrun

/-- A member that restarts with a new member identifier, and so comes with the SCI of a live peer,
leaves the receive SC of the deleted peer behind. -/
theorem scs_not_in_step_after_restart :
    ∃ s₀ s, kayInit default sampleParams (Env.benign 0) Secy.untold = .ok s₀ ∧
      run (System.step default) s₀ (promotePeer ++ [.receive (Env.benign 2)
        (memberFrame (sampleMi 3) 1 ⟨[2, 0, 0, 0, 0, 2], rfl⟩ [])]) = .ok s ∧
      ¬ ∀ p ∈ s.participants, p.ScsInStep := by
  refine returns_of₂ (fun _ s =>
    ∃ p ∈ s.participants, ∃ rxsc ∈ p.rxscList, ∀ peer ∈ p.livePeers, peer.sci ≠ rxsc.sci)
    (by decide +kernel) fun s₀ s _ _ ⟨p, hp, rxsc, hrxsc, hnone⟩ h => ?_
  obtain ⟨peer, hpeer, hsci⟩ := (h p hp).belongs rxsc hrxsc
  exact hnone peer hpeer hsci

end Hostapd.Pae
