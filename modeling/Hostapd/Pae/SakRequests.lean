import Hostapd.Pae.PeerInvariants

/-!
# Requests for a new SAK

A request for a new SAK is lost by `ieee802_1x_participant_timer` exactly if
`ieee802_1x_kay_generate_new_sak` refuses and nothing asks again in the same call.  Where that does
not happen, a key server with a live peer that does not use the SAK has a SAK to distribute or to
generate.
-/

namespace Hostapd.Pae

open Wire Checked FirstMatch Machine List

/-- An MKPDU that `ieee802_1x_participant_timer` sends makes a key server ask itself for a SAK. -/
def asksAgain (env : Env) (m : Mka) : Bool :=
  decide (m.self.retryCount < maxRetryCnt) && env.alloc .mkpdu && reportsExhaustion env m.kay m.self

/-- `ieee802_1x_participant_timer` meets a request for a new SAK, or asks again. -/
def KeepsRequest (env : Env) (m : Mka) : Prop :=
  canGenerateSak env (timedPeers env m) ∨ asksAgain env (timedPeers env m)

instance (env : Env) (m : Mka) : Decidable (KeepsRequest env m) :=
  inferInstanceAs (Decidable (_ ∨ _))

/-- A SAK is generated. -/
def Mka.GeneratesSak (m m' : Mka) : Prop :=
  ∃ new sak, m'.kay.trace = new ++ m.kay.trace ∧ .generatedSak m.self.id sak ∈ new

variable {crypto : Crypto} {env : Env} {m m' : Mka} {k k' : Kay} {p p' : Participant}
  {f : Peer → Peer}

/-- Sending asks for a SAK only when packet numbers run out. -/
lemma sendRetry_newSak (h : sendRetry crypto env k p = .ok (k', p')) :
    p'.newSak = (p.newSak || (decide (p.retryCount < maxRetryCnt) && env.alloc .mkpdu &&
      reportsExhaustion env k p)) := by
  rw [sendRetry] at h
  split_ifs at h with hretry
  · obtain ⟨⟨k₁, p₁⟩, hsend, h⟩ := bind_eq_ok.mp h
    cases h
    rw [sendMkpdu] at hsend
    split_ifs at hsend with halloc
    · obtain ⟨r, hr, hsend⟩ := bind_eq_ok.mp hsend
      cases hsend
      have hfst : r.1 = afterSending env k p := encodeMkpdu_fst hr
      simp [hfst, afterSending, hretry, halloc]
    · cases hsend
      simp [halloc]
  · cases h
    simp [hretry]

lemma PeersTimed.newSak (h : PeersTimed env m m') (hnew : m.self.newSak) : m'.self.newSak := by
  cases h with
  | quiet kay hkay => exact hnew
  | alone kay hkay txsc hnone => exact hnew
  | reelected kay hkay m' h => exact h.newSak_mono hnew

/-- A request for a new SAK is met by a timer, or still there after it, exactly if it is not refused
or something asks again. -/
lemma timer_keeps_request_iff (h : participantTimerFor crypto env m = .ok m')
    (hnew : m.self.newSak) : m.GeneratesSak m' ∨ m'.self.newSak ↔ KeepsRequest env m := by
  obtain ⟨life, m₂, k, p, htimed, hsak, hsend, rfl⟩ := participantTimerFor_cases h
  have hnew₁ : (timedPeers env m).self.newSak := htimed.newSak hnew
  have htrace₁ : (timedPeers env m).kay.trace = m.kay.trace := htimed.trace_eq
  have hid : (timedPeers env m).self.id = m.self.id :=
    (htimed.hears : Mka.Hears (fun _ => False) False _ _).id
  have hsent := (retried hsend).touched.trace
  have hp := sendRetry_newSak hsend
  rw [KeepsRequest]
  generalize hm₁ : timedPeers env m = m₁ at *
  cases hsak with
  | idle hidle => exact absurd (hidle.symm.trans hnew₁) Bool.false_ne_true
  | refused _ hcan =>
    have hnot : ¬ m.GeneratesSak { m₁ with self := p, kay := k } := by
      rintro ⟨new, sak, htrace, hmem⟩
      -- nothing was noted but perhaps the frame that was sent
      rcases hsent with hsent | ⟨frame, hsent⟩
      · have hnil : new = [] :=
          append_left_eq_self.mp (htrace.symm.trans (hsent.trans htrace₁))
        exact absurd hmem (hnil ▸ not_mem_nil)
      have hone : new = [.sent frame] := by
        have happend : new ++ m.kay.trace = [.sent frame] ++ m.kay.trace :=
          htrace.symm.trans (hsent.trans (congrArg (.sent frame :: ·) htrace₁))
        exact append_cancel_right happend
      rw [hone, mem_singleton] at hmem
      cases hmem
    have hasks : p.newSak = asksAgain env m₁ := hp.trans (Bool.false_or _)
    simp only [hnot, false_or, hcan, Bool.false_eq_true, hasks]
  | generated _ hcan nonce cp users =>
    have hgen : m.GeneratesSak { kay := k, cp := cp, self := p } := by
      rw [Mka.GeneratesSak, ← htrace₁, ← hid]
      rcases hsent with hsent | ⟨frame, hsent⟩
      · exact ⟨[_], _, hsent, mem_singleton_self _⟩
      · exact ⟨[.sent frame, _], _, hsent, mem_cons_of_mem _ (mem_singleton_self _)⟩
    exact ⟨fun _ => .inl hcan, fun _ => .inl hgen⟩

/-- A key server that advises the use of MACsec, with a live peer that does not use the SAK, has a
SAK to distribute or to generate. -/
def Participant.ServesPeers (p : Participant) : Prop :=
  p.isKeyServer → p.advisedDesired → (∃ peer ∈ p.livePeers, peer.sakUsed = false) →
    p.toDistSak ∨ p.newSak

/-- If a timer finds a key server with live peers asked for a new SAK, it meets the request or asks
again. -/
def TimerKeepsRequest (s : System) : Event → Prop
  | .tick env i => ∀ p ∈ s.participants, p.id = i →
    (timedPeers env ⟨s.kay, s.cp, p⟩).self.isKeyServer →
    (timedPeers env ⟨s.kay, s.cp, p⟩).self.livePeers ≠ [] →
    (timedPeers env ⟨s.kay, s.cp, p⟩).self.newSak → KeepsRequest env ⟨s.kay, s.cp, p⟩
  | _ => True

instance TimerKeepsRequest.decidable (s : System) : (e : Event) → Decidable (TimerKeepsRequest s e)
  | .tick _ _ => inferInstanceAs (Decidable (∀ p ∈ s.participants, _ → _ → _ ≠ [] → _ → _))
  | .receive _ _ | .cpStep _ | .transmitWhen _ | .retireWhen _ | .createMka .. | .deleteMka _
  | .hotSwap .. | .newSak => isTrue trivial

lemma Participant.ServesPeers.mono (h : p.ServesPeers) (hserver : p'.isKeyServer → p.isKeyServer)
    (hadvised : p'.advisedDesired → p.advisedDesired)
    (hlive : ∀ peer ∈ p'.livePeers, peer.sakUsed = false → ∃ old ∈ p.livePeers, old.sakUsed = false)
    (hdist : p.toDistSak → p'.toDistSak) (hnew : p.newSak → p'.newSak) : p'.ServesPeers := by
  rintro hs ha ⟨peer, hpeer, hused⟩
  rcases h (hserver hs) (hadvised ha) (hlive peer hpeer hused) with h | h
  · exact .inl (hdist h)
  · exact .inr (hnew h)

lemma exists_unused_of_updatePeerMi {peers : List Peer} {mi : Mi}
    (hf : ∀ peer, (f peer).sakUsed = false → peer.sakUsed = false) {peer : Peer}
    (hpeer : peer ∈ updatePeerMi peers mi f) (hused : peer.sakUsed = false) :
    ∃ old ∈ peers, old.sakUsed = false := by
  rcases mem_updateFirst hpeer with hold | ⟨old, hold, -, rfl⟩
  · exact ⟨peer, hold, hused⟩
  · exact ⟨old, hold, hf old hused⟩

lemma Participant.ServesPeers.updatePeer (h : p.ServesPeers) (mi : Mi)
    (hf : ∀ peer, (f peer).sakUsed = peer.sakUsed) : (p.updatePeer mi f).ServesPeers := by
  rw [Participant.updatePeer_eq]
  refine h.mono (fun hs => hs) (fun ha => ha) (fun peer hpeer hused => ?_) (fun hd => hd)
    fun hn => hn
  split_ifs at hpeer
  · exact exists_unused_of_updatePeerMi (fun q hq => (hf q).symm.trans hq) hpeer hused
  · exact ⟨peer, hpeer, hused⟩

/-- A new key server asks for a SAK. -/
lemma BasicDecoded.servesPeers {body : BasicBody} {b : Bool} (h : BasicDecoded env m body m' b)
    (hm : m.self.ServesPeers) : m'.self.ServesPeers := by
  have hdelete : ∀ mi mn, ((m.self.noteSender body mi mn).deletePeerSci
      body.actorSci).ServesPeers := by
    intro mi mn
    rw [Participant.deletePeerSci_eq]
    exact hm.mono id id (fun peer hpeer hused => ⟨peer, mem_of_mem_eraseP hpeer, hused⟩) id id
  cases h with
  | noIdentifier => exact hm
  | stale mi mn => exact hm
  | noMemory mi mn hpeer => exact hdelete mi mn
  | created mi mn p hpeer hcreate =>
    obtain ⟨peer, -, rfl⟩ := Option.map_eq_some_iff.mp hcreate
    exact hdelete mi mn
  | refreshed mi mn peer hpeer hmn =>
    have hnote : (m.self.noteSender body mi mn).ServesPeers := hm
    exact hnote.updatePeer body.actorMi (f := fun peer => body.describe
      { peer with mn := body.actorMn, expire := env.now + mkaLifeTime / 1000 }) fun _ => rfl

lemma Reelected.servesPeers (h : Reelected m m') : m'.self.ServesPeers :=
  fun hserver _ _ => .inr (h.newSak hserver)

lemma LiveAccepted.servesPeers (h : LiveAccepted env m m') (hm : m.self.ServesPeers) :
    m'.self.ServesPeers := by
  cases h with
  | same => exact hm
  | _ => exact (reelected_reelect _).servesPeers

/-- A SAK use ends a distribution only when all live peers use the SAK, and only a participant that
is not key server takes a SAK. -/
lemma RxOp.servesPeers {rest : Bytes} (h : RxOp env rest m m')
    (hm : m.self.ServesPeers) : m'.self.ServesPeers := by
  have hserver : acceptsDistSak m → m.self.isKeyServer = false := by
    intro haccepts
    simp only [acceptsDistSak, Bool.and_eq_true, Bool.not_eq_true'] at haccepts
    exact haccepts.1.1.1.2
  cases h with
  | refreshed e h he => exact hm.updatePeer e.mi (f := e.refresh env) fun _ => rfl
  | listed e i p h he hnone hcreate =>
    obtain ⟨peer, -, rfl⟩ := Option.map_eq_some_iff.mp hcreate
    exact hm
  | reported body cp live h hbody huse hlive =>
    rcases hlive with rfl | ⟨-, -, rfl⟩
    · exact hm
    · exact hm.mono id id (fun q hq hused => exists_unused_of_updatePeerMi
        (fun _ htrue => absurd htrue.symm Bool.false_ne_true) hq hused) id id
  | ended cp hall =>
    rintro - - ⟨q, hq, hused⟩
    exact absurd (hused.symm.trans (all_eq_true.mp hall q hq)) Bool.false_ne_true
  | asked new hnew => exact hm.mono id id (fun q hq hused => ⟨q, hq, hused⟩) id hnew
  | unsecured h => exact fun hs => absurd ((hserver h).symm.trans hs) Bool.false_ne_true
  | secured h => exact fun hs => absurd ((hserver h).symm.trans hs) Bool.false_ne_true
  | _ => exact hm

lemma CpTouched.servesPeers (h : CpTouched k p k' p') (hp : p.ServesPeers) : p'.ServesPeers := by
  have hserver : p'.isKeyServer = p.isKeyServer := congrArg (·.isKeyServer) h.self
  have hadvised : p'.advisedDesired = p.advisedDesired := congrArg (·.advisedDesired) h.self
  have hdist : p'.toDistSak = p.toDistSak := congrArg (·.toDistSak) h.self
  have hlive : p'.livePeers = p.livePeers := congrArg (·.livePeers) h.self
  exact hp.mono hserver.symm.trans hadvised.symm.trans
    (fun q hq hused => ⟨q, hlive ▸ hq, hused⟩) hdist.trans h.newSak

lemma PeersTimed.servesPeers (h : PeersTimed env m m') (hm : m.self.ServesPeers) :
    m'.self.ServesPeers := by
  cases h with
  | quiet kay hkay =>
    exact hm.mono id id (fun q hq hused => ⟨q, mem_of_mem_filter hq, hused⟩) id id
  | alone kay hkay txsc hnone =>
    intro _ hadvised
    cases hadvised
  | reelected kay hkay m' h => exact h.servesPeers

/-- The timer keeps it where it loses no request. -/
lemma participantTimerFor_servesPeers (h : participantTimerFor crypto env m = .ok m')
    (hm : m.self.ServesPeers)
    (hkeeps : (timedPeers env m).self.isKeyServer → (timedPeers env m).self.livePeers ≠ [] →
      (timedPeers env m).self.newSak → KeepsRequest env m) : m'.self.ServesPeers := by
  obtain ⟨life, m₂, k, p, htimed, hsak, hsend, rfl⟩ := participantTimerFor_cases h
  have hm₁ : (timedPeers env m).self.ServesPeers := htimed.servesPeers hm
  have htouched := (retried hsend).touched
  have hp := sendRetry_newSak hsend
  rw [KeepsRequest] at hkeeps
  generalize timedPeers env m = m₁ at *
  cases hsak with
  | idle hnew => exact htouched.servesPeers hm₁
  | generated hnew hcan nonce cp users =>
    exact htouched.servesPeers fun _ _ _ => .inl rfl
  | refused hnew hcan =>
    rintro hserver - ⟨peer, hpeer, -⟩
    have hserver₁ : m₁.self.isKeyServer :=
      (congrArg (·.isKeyServer) htouched.self).symm.trans hserver
    have hlive₁ : p.livePeers = m₁.self.livePeers :=
      congrArg (·.livePeers) htouched.self
    have hasks := (hkeeps hserver₁ (ne_nil_of_mem (hlive₁ ▸ hpeer)) hnew).resolve_left
      (by rw [hcan]; exact Bool.false_ne_true)
    exact .inr (hp.trans hasks)

/-- A key server serves its peers by every step in which a timer keeps the request for a SAK. -/
lemma servesPeers_invariant (crypto : Crypto) :
    Invariant crypto TimerKeepsRequest (fun _ => True) (fun _ p => p.ServesPeers) where
  receive _ _ _ _ hp hm' := by
    exact ⟨trivial, decodeMkpduFor_induction (P := fun q => q.self.ServesPeers)
      (fun _ _ hbasic => hbasic.servesPeers hp) (fun _ _ _ hlive => hlive.servesPeers)
      (fun _ _ _ _ hop => hop.servesPeers) (fun _ _ hm => hm) hm'⟩
  tick hcond hmem _ hp hm' :=
    ⟨trivial, participantTimerFor_servesPeers hm' hp (hcond _ hmem rfl)⟩
  cp _ _ _ _ hp hop := ⟨trivial, hop.touched.servesPeers hp⟩
  request _ _ _ _ := .inr rfl
  create _ _ _ _ _ hadvised := by cases hadvised
  quiet _ _ := trivial
  other hq _ _ := hq

/-- Requests for a new SAK.  A timer that finds a participant asked for one generates it or leaves
the participant asked exactly if it is not refused or something asks again; and in every run in
which the timers of key servers with live peers do so, every key server that advises the use of
MACsec and has a live peer that does not use the SAK has a SAK to distribute or to generate. -/
theorem requests_kept {crypto : Crypto} :
    (∀ (env : Env) (m m' : Mka), participantTimerFor crypto env m = .ok m' →
      m.self.newSak → (m.GeneratesSak m' ∨ m'.self.newSak ↔ KeepsRequest env m)) ∧
    ∀ (params : KayParams) (env : Env) (secy : Secy) (s₀ s : System) (es : List Event),
      kayInit crypto params env secy = .ok s₀ →
      Along (System.step crypto) TimerKeepsRequest s₀ es →
      run (System.step crypto) s₀ es = .ok s →
      ∀ p ∈ s.participants, p.isKeyServer → p.advisedDesired →
        (∃ peer ∈ p.livePeers, peer.sakUsed = false) → p.toDistSak ∨ p.newSak := by
  refine ⟨fun env m m' h hnew => timer_keeps_request_iff h hnew, ?_⟩
  intro params env secy s₀ s es hinit hcond hrun p hp
  exact ((servesPeers_invariant crypto).run (kayInit_holds trivial hinit) hcond hrun).all p hp

/-- A frame of a member that is not key server, for the participant of `createSample`. -/
def clientFrame (mi : Mi) (mn : UInt32) (addr : Octets 6) (sets : List ParamSet) : Bytes :=
  Message.frame ⟨⟨1, 255, false, true, .integAndConf0_30_50, ⟨addr, 1⟩, mi, mn, mkaAlgoAgility⟩,
    replicate 4 0, sets⟩ default (Octets.zero 16) addr

def promoteClient : List Event :=
  [createSample, .receive (Env.benign 1)
    (clientFrame (sampleMi 2) 1 (sampleAddr 2) [livePeerSet [⟨Octets.zero 12, 0⟩]])]

/-- The timer that expires at the end of the lifetime of a SAK meets the request for the first
one. -/
theorem requests_kept_by_first_sak :
    ∃ s₀ s s', kayInit default sampleParams (Env.benign 0) Secy.untold = .ok s₀ ∧
      run (System.step default) s₀ promoteClient = .ok s ∧
      (∃ p ∈ s.participants, ∃ m', p.newSak ∧
        participantTimerFor default (Env.benign 6) ⟨s.kay, s.cp, p⟩ = .ok m' ∧
        (Mka.GeneratesSak ⟨s.kay, s.cp, p⟩ m' ∨ m'.self.newSak)) ∧
      run (System.step default) s₀ (promoteClient ++ [.tick (Env.benign 6) 0]) = .ok s' ∧
      ∃ p ∈ s'.participants, p.isKeyServer ∧ p.advisedDesired ∧
        (∃ peer ∈ p.livePeers, peer.sakUsed = false) ∧ (p.toDistSak ∨ p.newSak) := by
  have hreturns : Returns (kayInit default sampleParams (.benign 0) Secy.untold) fun s₀ =>
      (Returns (run (System.step default) s₀ promoteClient) fun s =>
        ∃ p ∈ s.participants, p.newSak ∧ KeepsRequest (.benign 6) ⟨s.kay, s.cp, p⟩ ∧
          Returns (participantTimerFor default (.benign 6) ⟨s.kay, s.cp, p⟩) fun _ => True) ∧
      Along (System.step default) TimerKeepsRequest s₀ (promoteClient ++ [.tick (Env.benign 6) 0]) ∧
      Returns (run (System.step default) s₀ (promoteClient ++ [.tick (Env.benign 6) 0])) fun s' =>
        ∃ p ∈ s'.participants, p.isKeyServer ∧ p.advisedDesired ∧
          ∃ peer ∈ p.livePeers, peer.sakUsed = false := by
    decide +kernel
  obtain ⟨s₀, hinit, ⟨s, hrun, p, hp, hnew, hkeeps, m', htimer, -⟩, halong, s', hrun', p', hp',
    hserver, hadvised, hpeer⟩ := hreturns
  obtain ⟨htimers, hserves⟩ := @requests_kept default
  exact ⟨s₀, s, s', hinit, hrun, ⟨p, hp, m', hnew, htimer, (htimers _ _ _ htimer hnew).mpr hkeeps⟩,
    hrun', p', hp', hserver, hadvised, hpeer,
    hserves _ _ _ s₀ s' _ hinit halong hrun' p' hp' hserver hadvised hpeer⟩

/-- A timer that expires before the end of the lifetime loses the request for the first SAK: the key
server has a live peer that has no SAK, and is not asked for one. -/
theorem request_lost_within_lifetime :
    ∃ s₀ s s', kayInit default sampleParams (Env.benign 0) Secy.untold = .ok s₀ ∧
      run (System.step default) s₀ promoteClient = .ok s ∧
      (∃ p ∈ s.participants, ∃ m', p.newSak ∧
        participantTimerFor default (Env.benign 2) ⟨s.kay, s.cp, p⟩ = .ok m' ∧
        ¬ (Mka.GeneratesSak ⟨s.kay, s.cp, p⟩ m' ∨ m'.self.newSak)) ∧
      run (System.step default) s₀ (promoteClient ++ [.tick (Env.benign 2) 0]) = .ok s' ∧
      ∃ p ∈ s'.participants, p.isKeyServer ∧ p.advisedDesired ∧
        (∃ peer ∈ p.livePeers, peer.sakUsed = false) ∧ p.toDistSak = false ∧ p.newSak = false := by
  have hreturns : Returns (kayInit default sampleParams (.benign 0) Secy.untold) fun s₀ =>
      (Returns (run (System.step default) s₀ promoteClient) fun s =>
        ∃ p ∈ s.participants, p.newSak ∧ ¬ KeepsRequest (.benign 2) ⟨s.kay, s.cp, p⟩ ∧
          Returns (participantTimerFor default (.benign 2) ⟨s.kay, s.cp, p⟩) fun _ => True) ∧
      Returns (run (System.step default) s₀ (promoteClient ++ [.tick (Env.benign 2) 0])) fun s' =>
        ∃ p ∈ s'.participants, p.isKeyServer ∧ p.advisedDesired ∧
          (∃ peer ∈ p.livePeers, peer.sakUsed = false) ∧ p.toDistSak = false ∧
            p.newSak = false := by
    decide +kernel
  obtain ⟨s₀, hinit, ⟨s, hrun, p, hp, hnew, hkeeps, m', htimer, -⟩, s', hrun', hlost⟩ := hreturns
  refine ⟨s₀, s, s', hinit, hrun, ⟨p, hp, m', hnew, htimer, ?_⟩, hrun', hlost⟩
  exact fun hkept => hkeeps ((timer_keeps_request_iff htimer hnew).mp hkept)

end Hostapd.Pae
