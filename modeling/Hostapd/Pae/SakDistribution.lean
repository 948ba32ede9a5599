import Hostapd.Foundation.History
import Hostapd.Pae.SakRequests

/-!
# The end of a distribution

`ieee802_1x_mka_decode_sak_use_body` ends the distribution of a SAK when all live peers use the
latest key.  The latest key is told by the CP, some time after the SAK was generated: a SAK use that
names it before that ends the distribution early.  Otherwise a distribution ends with the reports of
all live peers.
-/

namespace Hostapd.Pae

open Wire FirstMatch Machine List

def KayEvent.generatedBy (i : ℕ) : KayEvent → Option DataKey
  | .generatedSak j sak => if j = i then some sak else none
  | _ => none

/-- The SAK generated last. -/
def lastGenerated (i : ℕ) (trace : List KayEvent) : Option DataKey :=
  trace.findSome? (KayEvent.generatedBy i)

/-- The trace since then. -/
def sinceGenerated (i : ℕ) (trace : List KayEvent) : List KayEvent :=
  trace.takeWhile fun ev => (ev.generatedBy i).isNone

/-- Since a participant generated its last SAK, these members have reported that they use it. -/
def ReportedBy (i : ℕ) (mis : List Mi) (trace : List KayEvent) : Prop :=
  ∃ sak, lastGenerated i trace = some sak ∧
    ∀ mi ∈ mis, .reportedSak i mi sak.keyIdentifier sak.an ∈ sinceGenerated i trace

instance (i : ℕ) (mis : List Mi) (trace : List KayEvent) : Decidable (ReportedBy i mis trace) :=
  inferInstanceAs (Decidable (∃ sak ∈ lastGenerated i trace, ∀ mi ∈ mis, _ ∈ _))

/-- The SAK uses that are handed over. -/
def sakUses (mka : Bytes) : List SakUseBody :=
  (handledSets (mka.drop (paramSetLen mka))).flatMap fun rest =>
    if paramBodyType rest = mkaSakUse then [SakUseBody.ofOctets rest] else []

/-- If a frame with the use of the latest key is handed to a participant that distributes a SAK, the
latest key is that SAK: the CP has been told of it. -/
def LatestIsDistributed (crypto : Crypto) (s : System) : Event → Prop
  | .receive env buf => ∀ p ∈ s.addressee crypto env buf, p.toDistSak →
    ∀ body ∈ sakUses (mkaOf buf), (body.ltx || body.lrx) → p.lki = body.lki →
      body.lan = p.lan →
        (lastGenerated p.id s.kay.trace).map (fun sak => (sak.keyIdentifier, sak.an)) =
          some (p.lki, p.lan)
  | _ => True

instance LatestIsDistributed.decidable (crypto : Crypto) (s : System) :
    (e : Event) → Decidable (LatestIsDistributed crypto s e)
  | .receive env buf => inferInstanceAs (Decidable (∀ p ∈ s.addressee crypto env buf, _ → _))
  | .tick _ _ | .cpStep _ | .transmitWhen _ | .retireWhen _ | .createMka .. | .deleteMka _
  | .hotSwap .. | .newSak => isTrue trivial

def usedMis (peers : List Peer) : List Mi :=
  (peers.filter fun peer => peer.sakUsed).map Peer.mi

/-- A distribution that ends does so with the reports of all members that are live. -/
def KayEvent.EndReported (ev : KayEvent) (earlier : List KayEvent) : Prop :=
  ∀ i mis, ev = .endedDistribution i mis → ReportedBy i mis earlier

/-- Every distribution that ended did so with the reports of all members that were live. -/
def Kay.EndsWithReports (k : Kay) : Prop := History.Justified KayEvent.EndReported k.trace

/-- The members that use the SAK have reported so, if one is being distributed. -/
structure Participant.KnowsReports (k : Kay) (p : Participant) : Prop where
  potential : usedMis p.potentialPeers = []
  live : p.toDistSak → ReportedBy p.id (usedMis p.livePeers) k.trace

variable {ev : KayEvent} {peers : List Peer} {f : Peer → Peer}

variable {crypto : Crypto} {env : Env} {m m' : Mka} {k k' : Kay} {p p' : Participant} {mi : Mi}
  {peers' : List Peer} {cp : CpPort} {rest : Bytes}

/-- Neither a SAK is generated nor a distribution ends. -/
def KayEvent.Plain : KayEvent → Prop
  | .generatedSak _ _ => False
  | .endedDistribution _ _ => False
  | _ => True

/-- The trace is continued by such events. -/
def Kay.Plainly (k k' : Kay) : Prop := ∃ new, k'.trace = new ++ k.trace ∧ ∀ ev ∈ new, ev.Plain

lemma Kay.Plainly.of_eq (h : k'.trace = k.trace) : k.Plainly k' := ⟨[], h, nofun⟩

lemma Kay.Plainly.of_cons (h : k'.trace = ev :: k.trace) (hev : ev.Plain) : k.Plainly k' :=
  ⟨[ev], h, fun _ hmem => mem_singleton.mp hmem ▸ hev⟩

lemma ReportedBy.append {i : ℕ} {mis mis' : List Mi} {trace new : List KayEvent}
    (h : ReportedBy i mis trace) (hnew : ∀ ev ∈ new, ev.generatedBy i = none) (hmis : mis' ⊆ mis) :
    ReportedBy i mis' (new ++ trace) := by
  obtain ⟨sak, hlast, hreported⟩ := h
  refine ⟨sak, ?_, fun mi hmi => ?_⟩
  · rw [lastGenerated, findSome?_append, findSome?_eq_none_iff.mpr hnew]
    exact hlast
  · rw [sinceGenerated, takeWhile_append_of_pos (by simpa using hnew)]
    exact mem_append_right new (hreported mi (hmis hmi))

/-- One more peer reports. -/
lemma ReportedBy.report {i : ℕ} {mis mis' : List Mi} {trace : List KayEvent} {ki : Ki} {an : UInt8}
    (h : ReportedBy i mis trace)
    (hsak : (lastGenerated i trace).map (fun sak => (sak.keyIdentifier, sak.an)) = some (ki, an))
    (hmis : mis' ⊆ mi :: mis) : ReportedBy i mis' (.reportedSak i mi ki an :: trace) := by
  obtain ⟨sak, hlast, hreported⟩ := h
  obtain ⟨rfl, rfl⟩ : sak.keyIdentifier = ki ∧ sak.an = an := by simpa [hlast] using hsak
  refine ⟨sak, hlast, fun mi' hmi' => ?_⟩
  rcases mem_cons.mp (hmis hmi') with rfl | hmi'
  · exact mem_cons_self
  · exact mem_cons_of_mem _ (hreported mi' hmi')

lemma KayEvent.Plain.generatedBy (h : ev.Plain) (i : ℕ) : ev.generatedBy i = none := by
  cases ev with
  | generatedSak j sak => exact h.elim
  | _ => rfl

lemma Kay.EndsWithReports.cons (h : k.EndsWithReports) (htrace : k'.trace = ev :: k.trace)
    (hev : ev.EndReported k.trace) : k'.EndsWithReports := by
  rw [EndsWithReports, htrace]
  exact ⟨hev, h⟩

lemma Kay.EndsWithReports.plainly (h : k.EndsWithReports) (hk : k.Plainly k') :
    k'.EndsWithReports := by
  obtain ⟨new, htrace, hnew⟩ := hk
  rw [EndsWithReports, htrace]
  refine h.append fun ev hev _ i mis heq => ?_
  exact ((heq ▸ hnew ev hev : KayEvent.Plain (.endedDistribution i mis))).elim

lemma Participant.KnowsReports.mono (h : p.KnowsReports k) (hk : k.Plainly k')
    (hid : p'.id = p.id) (hpotential : usedMis p'.potentialPeers ⊆ usedMis p.potentialPeers)
    (hlive : usedMis p'.livePeers ⊆ usedMis p.livePeers)
    (hdist : p'.toDistSak → p.toDistSak) : p'.KnowsReports k' := by
  obtain ⟨new, htrace, hnew⟩ := hk
  refine ⟨subset_nil.mp (h.potential ▸ hpotential), fun hd => ?_⟩
  rw [htrace, hid]
  exact (h.live (hdist hd)).append (fun ev hev => (hnew ev hev).generatedBy p.id) hlive

def Mka.WithReports (m : Mka) : Prop := m.kay.EndsWithReports ∧ m.self.KnowsReports m.kay

lemma Mka.WithReports.mono (h : m.WithReports) (hk : m.kay.Plainly m'.kay)
    (hid : m'.self.id = m.self.id)
    (hpotential : usedMis m'.self.potentialPeers ⊆ usedMis m.self.potentialPeers)
    (hlive : usedMis m'.self.livePeers ⊆ usedMis m.self.livePeers)
    (hdist : m'.self.toDistSak → m.self.toDistSak) : m'.WithReports :=
  ⟨h.1.plainly hk, h.2.mono hk hid hpotential hlive hdist⟩

lemma mem_usedMis : mi ∈ usedMis peers ↔ ∃ peer ∈ peers, peer.sakUsed ∧ peer.mi = mi := by
  simp [usedMis, and_assoc]

lemma usedMis_subset_of_new (h : ∀ peer ∈ peers', peer ∈ peers ∨ peer.sakUsed = false) :
    usedMis peers' ⊆ usedMis peers := by
  intro mi hmi
  obtain ⟨peer, hpeer, hused, rfl⟩ := mem_usedMis.mp hmi
  rcases h peer hpeer with hold | hfalse
  · exact mem_usedMis.mpr ⟨peer, hold, hused, rfl⟩
  · exact absurd (hfalse.symm.trans hused) Bool.false_ne_true

lemma usedMis_subset (h : peers' ⊆ peers) : usedMis peers' ⊆ usedMis peers :=
  usedMis_subset_of_new fun _ hpeer => .inl (h hpeer)

lemma usedMis_updatePeerMi (hf : ∀ peer, (f peer).sakUsed = peer.sakUsed ∧ (f peer).mi = peer.mi)
    (peers : List Peer) (mi : Mi) : usedMis (updatePeerMi peers mi f) ⊆ usedMis peers := by
  intro mi' hmi'
  obtain ⟨peer, hpeer, hused, rfl⟩ := mem_usedMis.mp hmi'
  rcases mem_updateFirst hpeer with hold | ⟨old, hold, -, rfl⟩
  · exact mem_usedMis.mpr ⟨peer, hold, hused, rfl⟩
  · exact mem_usedMis.mpr ⟨old, hold, (hf old).1.symm.trans hused, (hf old).2.symm⟩

lemma Participant.KnowsReports.updatePeer (h : p.KnowsReports k) (mi : Mi)
    (hf : ∀ peer, (f peer).sakUsed = peer.sakUsed ∧ (f peer).mi = peer.mi) :
    (p.updatePeer mi f).KnowsReports k := by
  rw [Participant.updatePeer_eq]
  refine h.mono (.of_eq rfl) rfl ?_ ?_ fun hd => hd
  · split_ifs
    · exact .refl _
    · exact usedMis_updatePeerMi hf _ mi
  · split_ifs
    · exact usedMis_updatePeerMi hf _ mi
    · exact .refl _

lemma Participant.KnowsReports.deletePeerSci (h : p.KnowsReports k) (sci : Sci) :
    (p.deletePeerSci sci).KnowsReports k := by
  rw [Participant.deletePeerSci_eq]
  refine h.mono (.of_eq rfl) rfl ?_ (usedMis_subset eraseP_subset) fun hd => hd
  split_ifs
  · exact .refl _
  · exact usedMis_subset eraseP_subset

lemma Participant.KnowsReports.createPotentialPeer (h : p.KnowsReports k) {site : AllocSite}
    {mn : UInt32} (hf : ∀ peer, (f peer).sakUsed = peer.sakUsed)
    (hcreate : p.createPotentialPeer env site mi mn f = some p') : p'.KnowsReports k := by
  obtain ⟨peer, hpeer, rfl⟩ := Option.map_eq_some_iff.mp hcreate
  refine h.mono (.of_eq rfl) rfl ?_ (.refl _) fun hd => hd
  refine usedMis_subset_of_new fun q hq => ?_
  rcases mem_cons.mp hq with rfl | hq
  · exact .inr ((hf peer).trans (createPeer_eq_some hpeer).2.2)
  · exact .inl hq

/-- The basic parameter set keeps the reports. -/
lemma BasicDecoded.withReports {body : BasicBody} {b : Bool} (h : BasicDecoded env m body m' b)
    (hm : m.WithReports) : m'.WithReports := by
  have hnote : ∀ mi mn, (m.self.noteSender body mi mn).KnowsReports m.kay := fun mi mn =>
    hm.2.mono (.of_eq rfl) rfl (.refl _) (.refl _) fun hd => hd
  have hlog : m.kay.Plainly
      (m.kay.log (.acceptedMkpdu m.self.id ⟨body.actorMi, body.actorMn⟩)) := .of_cons rfl trivial
  have hlogged : ∀ {q : Participant}, q.KnowsReports m.kay → q.KnowsReports
      (m.kay.log (.acceptedMkpdu m.self.id ⟨body.actorMi, body.actorMn⟩)) := fun hq =>
    hq.mono hlog rfl (.refl _) (.refl _) fun hd => hd
  cases h with
  | noIdentifier => exact hm
  | stale mi mn => exact ⟨hm.1, hnote mi mn⟩
  | noMemory mi mn hpeer => exact ⟨hm.1, (hnote mi mn).deletePeerSci _⟩
  | created mi mn p hpeer hcreate =>
    have hdescribe : ∀ peer, (body.describe peer).sakUsed = peer.sakUsed := fun _ => rfl
    refine ⟨hm.1.plainly hlog, hlogged ?_⟩
    exact ((hnote mi mn).deletePeerSci _).createPotentialPeer hdescribe hcreate
  | refreshed mi mn peer hpeer hmn =>
    refine ⟨hm.1.plainly hlog, hlogged ?_⟩
    exact (hnote mi mn).updatePeer _ fun _ => ⟨rfl, rfl⟩

lemma Reelected.withReports (h : Reelected m m') (hm : m.WithReports) : m'.WithReports := by
  obtain ⟨_, _, _, _, _, _, _, hself⟩ := h.self
  obtain ⟨_, _, _, _, _, hkay⟩ := h.kay
  refine hm.mono (.of_eq ?_) ?_ ?_ ?_ h.toDistSak
  · rw [hkay]
  · rw [hself]
  · rw [hself]
    exact .refl _
  · rw [hself]
    exact .refl _

/-- A new live peer keeps the reports. -/
lemma LiveAccepted.withReports (h : LiveAccepted env m m') (hm : m.WithReports) :
    m'.WithReports := by
  cases h with
  | same => exact hm
  | moved peer hlive hpeer =>
    have hunused : peer.sakUsed = false := by
      by_contra hused
      have hmem : peer.mi ∈ usedMis m.self.potentialPeers :=
        mem_usedMis.mpr ⟨peer, mem_of_find?_eq_some hpeer, by simpa using hused, rfl⟩
      exact absurd hmem (hm.2.potential ▸ not_mem_nil)
    refine (reelected_reelect _).withReports (hm.mono (.of_eq rfl) rfl
      (usedMis_subset eraseP_subset) (usedMis_subset_of_new ?_) fun hd => hd)
    intro q hq
    rcases mem_append.mp hq with hq | hq
    · exact .inl hq
    · rw [mem_singleton.mp hq]
      exact .inr hunused
  | created peer hlive hpotential hpeer =>
    refine (reelected_reelect _).withReports (hm.mono (.of_eq rfl) rfl
      (.refl _) (usedMis_subset_of_new ?_) fun hd => hd)
    intro q hq
    rcases mem_cons.mp hq with rfl | hq
    · exact .inr (createPeer_eq_some hpeer).2.2
    · exact .inl hq

lemma Mka.Hears.lastGenerated_eq {i j : ℕ} {installs : Prop}
    (h : m.Hears (KayEvent.Heard i) installs m') :
    lastGenerated j m'.kay.trace = lastGenerated j m.kay.trace := by
  rw [lastGenerated, lastGenerated, ← head?_filterMap, h.filterMap_trace fun ev hev => ?_,
    head?_filterMap]
  cases ev with
  | generatedSak => exact hev.elim
  | _ => rfl

/-- If a SAK is distributed and the use of the latest key is reported, the latest key is that
SAK. -/
def Mka.ReportsLatest (m : Mka) (body : SakUseBody) : Prop :=
  m.self.toDistSak → (body.ltx || body.lrx) → m.self.lki = body.lki → body.lan = m.self.lan →
    (lastGenerated m.self.id m.kay.trace).map (fun sak => (sak.keyIdentifier, sak.an)) =
      some (m.self.lki, m.self.lan)

/-- A change by a handler.  A report makes the sender one that uses the SAK only if it is about the
latest key. -/
lemma RxOp.withReports (h : RxOp env rest m m') (hm : m.WithReports)
    (hlatest : paramBodyType rest = mkaSakUse → m.ReportsLatest (SakUseBody.ofOctets rest)) :
    m'.WithReports := by
  cases h with
  | refreshed e h he => exact ⟨hm.1, hm.2.updatePeer e.mi (f := e.refresh env) fun _ => ⟨rfl, rfl⟩⟩
  | listed e i p h he hnone hcreate =>
    exact ⟨hm.1, hm.2.createPotentialPeer (f := id) (fun _ => rfl) hcreate⟩
  | reported body cp live h hbody huse hlive =>
    have hplain : m.kay.Plainly
        (m.kay.log (.reportedSak m.self.id m.self.currentPeerId.mi body.lki body.lan)) :=
      .of_cons rfl trivial
    rcases hlive with rfl | ⟨hlki, hlan, rfl⟩
    · exact hm.mono hplain rfl (.refl _) (.refl _) fun hd => hd
    refine ⟨hm.1.plainly hplain, hm.2.potential, fun hdist => ?_⟩
    have hsak := hlatest h hdist (hbody ▸ huse) (hbody ▸ hlki) (hbody ▸ hlan)
    rw [hlki, ← hlan] at hsak
    refine (hm.2.live hdist).report hsak fun mi hmi => ?_
    obtain ⟨q, hq, hused, rfl⟩ := mem_usedMis.mp hmi
    rcases mem_updateFirst hq with hq | ⟨old, -, hold, rfl⟩
    · exact mem_cons_of_mem _ (mem_usedMis.mpr ⟨q, hq, hused, rfl⟩)
    · exact mem_cons.mpr (.inl (by simpa using hold))
  | ended cp hall =>
    refine ⟨?_, hm.2.potential, nofun⟩
    split_ifs with hdist
    · refine hm.1.cons rfl fun i mis hev => ?_
      cases hev
      have hmis : usedMis m.self.livePeers = m.self.livePeers.map Peer.mi := by
        rw [usedMis, filter_eq_self.mpr (all_eq_true.mp hall)]
      exact hmis ▸ hm.2.live hdist
    · exact hm.1
  | _ => exact ⟨hm.1, hm.2.potential, hm.2.live⟩

/-- An MKPDU that reports the latest key keeps the reports. -/
lemma decodeMkpduFor_withReports {mka : Bytes} (h : decodeMkpduFor crypto env m mka = .ok m')
    (hm : m.WithReports) (hlatest : ∀ body ∈ sakUses mka, m.ReportsLatest body) :
    m'.WithReports := by
  -- the latest key and the SAK that was generated last stay what they were at the beginning
  refine (decodeMkpduFor_induction
    (P := fun q => m.Hears (KayEvent.Heard m.self.id) True q ∧ q.WithReports) ?_ ?_ ?_ ?_ h).2
  · exact fun m₁ b hbasic => ⟨hbasic.hears.mono (fun _ => id) False.elim, hbasic.withReports hm⟩
  · exact fun m₁ m₂ _ hlive hm₁ => ⟨hm₁.1.trans (hlive.hears.mono (fun _ => id) False.elim),
      hlive.withReports hm₁.2⟩
  · rintro rest hrest m₁ m₂ hop ⟨hhears, hm₁⟩
    refine ⟨hhears.trans (hop.hears.mono (fun _ hev => hhears.id ▸ hev.heard) fun _ => trivial),
      hop.withReports hm₁ ?_⟩
    intro htype hdist huse hlki hlan
    have hmem : SakUseBody.ofOctets rest ∈ sakUses mka :=
      mem_flatMap.mpr ⟨rest, hrest, by rw [if_pos htype]; exact mem_singleton_self _⟩
    have hlki₁ : m₁.self.lki = m.self.lki := congrArg (·.lki) hhears.self
    have hlan₁ : m₁.self.lan = m.self.lan := congrArg (·.lan) hhears.self
    rw [hhears.id, hhears.lastGenerated_eq, hlki₁, hlan₁]
    exact hlatest _ hmem (hhears.toDistSak hdist) huse (hlki₁ ▸ hlki) (hlan₁ ▸ hlan)
  · rintro m₁ n ⟨hhears, hm₁⟩
    exact ⟨hhears.trans ⟨rfl, rfl, .inr rfl, id, le_rfl, [], rfl, nofun⟩, hm₁.1, hm₁.2.potential,
      hm₁.2.live⟩

/-- A callback of the CP keeps the reports. -/
lemma CpTouched.withReports (h : CpTouched k p k' p') (hk : k.EndsWithReports)
    (hp : p.KnowsReports k) : k'.EndsWithReports ∧ p'.KnowsReports k' := by
  have hplain : k.Plainly k' := by
    rcases h.trace with htrace | ⟨frame, htrace⟩
    · exact .of_eq htrace
    · exact .of_cons htrace trivial
  have hid : p'.id = p.id := congrArg (·.id) h.self
  have hdist : p'.toDistSak = p.toDistSak := congrArg (·.toDistSak) h.self
  have hlive : p'.livePeers = p.livePeers := congrArg (·.livePeers) h.self
  have hpotential : p'.potentialPeers = p.potentialPeers := congrArg (·.potentialPeers) h.self
  exact ⟨hk.plainly hplain, hp.mono hplain hid (hpotential ▸ .refl _)
    (hlive ▸ .refl _) hdist.symm.trans⟩

/-- Peers that expire keep the reports. -/
lemma PeersTimed.withReports (h : PeersTimed env m m') (hm : m.WithReports) : m'.WithReports := by
  have hexpired : ∀ {kay : Kay}, m.kay.Recounted kay →
      Mka.WithReports { m with kay := kay, self := m.self.expirePeers env } := by
    rintro kay ⟨users, rfl⟩
    exact hm.mono (.of_eq rfl) rfl (usedMis_subset (filter_subset_self _))
      (usedMis_subset (filter_subset_self _)) fun hd => hd
  cases h with
  | quiet kay hkay => exact hexpired hkay
  | alone kay hkay txsc hnone =>
    have hm := hexpired hkay
    exact ⟨hm.1, hm.2.potential, hm.2.live⟩
  | reelected kay hkay m' h => exact h.withReports (hexpired hkay)

/-- A SAK that is generated keeps the reports. -/
lemma SakTimed.withReports (h : SakTimed crypto env m m') (hm : m.WithReports) :
    m'.WithReports := by
  cases h with
  | idle hnew => exact hm
  | refused hnew hcan => exact ⟨hm.1, hm.2.potential, hm.2.live⟩
  | generated hnew hcan nonce cp users =>
    refine ⟨hm.1.cons rfl nofun, hm.2.potential, fun _ => ?_⟩
    refine ⟨freshSak crypto nonce m, ?_, fun mi hmi => ?_⟩
    · simp [lastGenerated, KayEvent.generatedBy]
    · obtain ⟨peer, hpeer, hused, -⟩ := mem_usedMis.mp hmi
      obtain ⟨old, -, rfl⟩ := mem_map.mp hpeer
      exact absurd hused Bool.false_ne_true

lemma participantTimerFor_withReports (h : participantTimerFor crypto env m = .ok m')
    (hm : m.WithReports) : m'.WithReports := by
  obtain ⟨life, m₂, k, p, htimed, hsak, hsend, rfl⟩ := participantTimerFor_cases h
  have hlife : Mka.WithReports { m with self.mkaLife := life } :=
    ⟨hm.1, hm.2.potential, hm.2.live⟩
  have hm₂ := hsak.withReports (htimed.withReports hlife)
  exact (retried hsend).touched.withReports hm₂.1 hm₂.2

/-- The reports are known by every step in which the latest key that a peer uses is the SAK that is
distributed. -/
lemma withReports_invariant (crypto : Crypto) :
    Invariant crypto (LatestIsDistributed crypto) Kay.EndsWithReports
      (fun k p => p.KnowsReports k) where
  receive hcond hto _ hk hp hm' :=
    decodeMkpduFor_withReports hm' ⟨hk, hp⟩ fun body hbody hdist =>
      hcond _ (Option.mem_def.mpr hto) hdist body hbody
  tick _ _ hk hp hm' := participantTimerFor_withReports hm' ⟨hk, hp⟩
  cp _ _ _ hk hp hop := hop.touched.withReports hk hp
  request hp := ⟨hp.potential, hp.live⟩
  create _ _ _ _ := ⟨rfl, nofun⟩
  quiet hk hquiet := hk.plainly (.of_eq hquiet.trace_eq)
  other hq htrace hne := by
    obtain ⟨new, heq, hnew⟩ := htrace.trace
    refine ⟨hq.potential, fun hdist => ?_⟩
    rw [heq]
    refine (hq.live hdist).append (fun ev hev => ?_) (.refl _)
    cases ev with
    | generatedSak j sak =>
      have hj : some j = none ∨ some j = some _ := hnew _ hev
      rcases hj with hj | hj
      · cases hj
      · exact if_neg fun heq' => hne (heq'.symm.trans (Option.some.inj hj))
    | _ => rfl

/-- A distribution that ends is written to the trace. -/
lemma endedDistribution_of_toDistSak (h : decodeSakUseBody m rest = .ok m')
    (hdist : m.self.toDistSak) (hdist' : m'.self.toDistSak = false) :
    ∃ earlier, m'.kay.trace =
      .endedDistribution m.self.id (m'.self.livePeers.map Peer.mi) :: earlier := by
  rcases decodeSakUseBody_cases h with rfl | ⟨peer, -, rfl⟩
  · exact absurd (hdist'.symm.trans hdist) Bool.false_ne_true
  have hkey : (checkLatestKey m peer (.ofOctets rest)).1.self.toDistSak ∧
      (checkLatestKey m peer (.ofOctets rest)).1.self.id = m.self.id := by
    simp only [checkLatestKey]
    split_ifs <;> exact ⟨hdist, rfl⟩
  rcases checkSakUse_cases m peer rest with heq | heq | heq <;> rw [heq] at hdist' ⊢
  · exact absurd (hdist'.symm.trans hdist) Bool.false_ne_true
  · exact absurd (hdist'.symm.trans hkey.1) Bool.false_ne_true
  generalize (checkLatestKey m peer (.ofOctets rest)).1 = m₁ at *
  have hpn : ∃ new, checkPnExhaustion (checkAllReceiving m₁) (.ofOctets rest) =
      { checkAllReceiving m₁ with self.newSak := new } := by
    rw [checkPnExhaustion]
    split_ifs <;> exact ⟨_, rfl⟩
  obtain ⟨new, hpn⟩ := hpn
  by_cases hall : m₁.self.livePeers.all fun peer => peer.sakUsed
  · rw [hpn, checkAllReceiving, if_pos hall]
    exact ⟨m₁.kay.trace, by simp only [if_pos hkey.1, Kay.log, hkey.2]⟩
  · rw [hpn, checkAllReceiving, if_neg hall] at hdist'
    exact absurd (hdist'.symm.trans hkey.1) Bool.false_ne_true

/-- The end of a distribution.  In every run in which a participant that distributes a SAK receives
the use of its latest key only when that is the SAK, each change of `to_dist_sak` from true to false
by the decoding of a SAK use comes after every live peer has reported, since the last SAK was
generated, the use of that SAK; and no live peer is taken to use the SAK otherwise. -/
theorem distribution_ends_with_reports {crypto : Crypto} {params : KayParams} {env : Env}
    {secy : Secy} {s₀ s : System} {es : List Event}
    (hinit : kayInit crypto params env secy = .ok s₀)
    (hcond : Along (System.step crypto) (LatestIsDistributed crypto) s₀ es)
    (hrun : run (System.step crypto) s₀ es = .ok s) :
    (∀ (m m' : Mka) rest, decodeSakUseBody m rest = .ok m' → m.self.toDistSak →
      m'.self.toDistSak = false → ∃ earlier, m'.kay.trace =
        .endedDistribution m.self.id (m'.self.livePeers.map Peer.mi) :: earlier) ∧
    (∀ i mis earlier, (.endedDistribution i mis :: earlier) <:+ s.kay.trace →
      ReportedBy i mis earlier) ∧
    ∀ p ∈ s.participants, p.toDistSak → ReportedBy p.id (usedMis p.livePeers) s.kay.trace := by
  have hs : s.Holds Kay.EndsWithReports (fun k p => p.KnowsReports k) :=
    (withReports_invariant crypto).run (kayInit_holds trivial hinit) hcond hrun
  exact ⟨fun _ _ _ h hd hd' => endedDistribution_of_toDistSak h hd hd',
    fun i mis _ hsuffix => hs.kay.of_suffix hsuffix i mis rfl, fun p hp => (hs.all p hp).live⟩

/-- The use of a key to receive, with an association number and no old key. -/
def sakUseOf (kn : UInt32) (an : UInt8) : ParamSet :=
  ⟨mkaSakUse, UInt8.ofNat (an.toNat * 64 + 16), 0,
    (⟨Octets.zero 12, kn⟩ : Ki).octets ++ (be32 1 ++ (Ki.zero.octets ++ be32 1))⟩

/-- A message of the member of `promoteClient` that uses a key. -/
def clientUses (now : ℕ) (mn kn : UInt32) (an : UInt8) : Event :=
  .receive (Env.benign now) (clientFrame (sampleMi 2) mn (sampleAddr 2)
    [livePeerSet [⟨Octets.zero 12, 0⟩], sakUseOf kn an])

/-- The SAK of the sample participant is generated, installed, and used by its live peer. -/
def distributeSak : List Event :=
  promoteClient ++ [.tick (Env.benign 6) 0, .cpStep fun _ => Env.benign 6, clientUses 7 2 1 0]

/-- The distribution of the first SAK ends with the report of the live peer. -/
theorem distribution_ends_with_reports_of_client :
    ∃ s₀ s, kayInit default sampleParams (Env.benign 0) Secy.untold = .ok s₀ ∧
      run (System.step default) s₀ distributeSak = .ok s ∧
      s.kay.trace = .endedDistribution 0 [sampleMi 2] :: s.kay.trace.tail ∧
      ReportedBy 0 [sampleMi 2] s.kay.trace.tail := by
  refine exists_ok₂ (fun s₀ _ =>
    Along (System.step default) (LatestIsDistributed default) s₀ distributeSak)
    (by decide +kernel) fun s₀ s hinit hrun hended halong => ?_
  exact (distribution_ends_with_reports hinit halong hrun).2.1 0 [sampleMi 2] _
    (hended ▸ suffix_refl _)

/-- The live peer uses the first SAK while the second one is distributed and the CP has not yet made
it the latest key: the distribution ends, and nobody has reported the second SAK. -/
theorem distribution_ended_by_old_key :
    ∃ s₀ s, kayInit default sampleParams (Env.benign 0) Secy.untold = .ok s₀ ∧
      run (System.step default) s₀
        (distributeSak ++ [.newSak, .tick (Env.benign 12) 0, clientUses 12 3 1 0]) = .ok s ∧
      s.kay.trace = .endedDistribution 0 [sampleMi 2] :: s.kay.trace.tail ∧
      ¬ ReportedBy 0 [sampleMi 2] s.kay.trace.tail := by
  decide +kernel

end Hostapd.Pae
