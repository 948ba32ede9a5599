import Hostapd.Pae.CpInvariants
import Hostapd.Pae.Handlers

/-!
# What the timer and the CP do

The counterpart of `Handlers` for the two other sources of change: one inversion for each part of
`ieee802_1x_participant_timer`, and the list of what the CP can do to the principal participant
(`CpOp`), with what all of it has in common (`CpTouched`).  `KayOps.Keeps` is the rule by which
something about the KaY is kept by the callbacks of the CP.
-/

namespace Hostapd.Pae

open Wire Checked FirstMatch Machine List

/-! ## References to keys -/

def Kay.Recounted (k k' : Kay) : Prop := ∃ users, k' = { k with keyUsers := users }

lemma Kay.Recounted.refl (k : Kay) : k.Recounted k := ⟨k.keyUsers, rfl⟩

lemma Kay.Recounted.trans {k k' k'' : Kay} (h : k.Recounted k') (h' : k'.Recounted k'') :
    k.Recounted k'' := by
  obtain ⟨users, rfl⟩ := h
  obtain ⟨users', rfl⟩ := h'
  exact ⟨users', rfl⟩

lemma Kay.recounted_useDataKey (k : Kay) (key : DataKey) : k.Recounted (k.useDataKey key) :=
  ⟨_, rfl⟩

lemma Kay.recounted_deinitDataKeys (k : Kay) (keys : List DataKey) :
    k.Recounted (k.deinitDataKeys keys) := by
  induction keys generalizing k with
  | nil => exact .refl k
  | cons key keys ih =>
    have hkey : k.Recounted (k.deinitDataKey key) := ⟨_, rfl⟩
    exact hkey.trans (ih (k.deinitDataKey key))

/-! ## The participant timer -/

/-- Which receive SCs are left. -/
lemma expireReceiveScs_eq (gone : List Peer) (k : Kay) (rxscs : List ReceiveSc) :
    k.Recounted (expireReceiveScs gone k rxscs).1 ∧
      (expireReceiveScs gone k rxscs).2 =
        rxscs.filter fun rxsc => !gone.any fun peer => sciEqual rxsc.sci peer.sci := by
  induction gone generalizing k rxscs with
  | nil => exact ⟨.refl k, by simp [expireReceiveScs]⟩
  | cons peer gone ih =>
    have hdrop : k.Recounted (dropReceiveScs (fun rxsc => sciEqual rxsc.sci peer.sci) k rxscs).1 :=
      k.recounted_deinitDataKeys _
    obtain ⟨hkay, hscs⟩ := ih
      (dropReceiveScs (fun rxsc => sciEqual rxsc.sci peer.sci) k rxscs).1
      (dropReceiveScs (fun rxsc => sciEqual rxsc.sci peer.sci) k rxscs).2
    refine ⟨hdrop.trans hkay, hscs.trans ?_⟩
    rw [dropReceiveScs, filter_filter]
    refine filter_congr fun rxsc _ => ?_
    rw [any_cons, Bool.not_or, Bool.and_comm]

/-- The participant with the peers gone that are expired. -/
def Participant.expirePeers (env : Env) (p : Participant) : Participant :=
  { p with
    livePeers := p.livePeers.filter fun peer => !peer.expired env
    potentialPeers := p.potentialPeers.filter fun peer => !peer.expired env
    rxscList := p.rxscList.filter fun rxsc =>
      !(p.livePeers.filter fun peer => peer.expired env).any fun peer =>
        sciEqual rxsc.sci peer.sci }

/-- The ways in which the part of the timer about peers can end. -/
inductive PeersTimed (env : Env) (m : Mka) : Mka → Prop
  | quiet (kay : Kay) (hkay : m.kay.Recounted kay) :
      PeersTimed env m { m with kay := kay, self := m.self.expirePeers env }
  | alone (kay : Kay) (hkay : m.kay.Recounted kay) (txsc : TransmitSc)
      (hnone : (m.self.expirePeers env).livePeers = []) :
      PeersTimed env m
        { kay := kay.setAuthenticated
          cp := m.cp.connectAuthenticated.smStep
          self := { m.self.expirePeers env with
            advisedDesired := false
            toUseSak := false
            txsc := txsc } }
  /-- Some live peers are expired, and the key server is elected again. -/
  | reelected (kay : Kay) (hkay : m.kay.Recounted kay) (m' : Mka)
      (h : Reelected { m with kay := kay, self := m.self.expirePeers env } m') : PeersTimed env m m'

variable {m m' : Mka} {crypto : Crypto} {env : Env}

lemma Reelected.mapPotentialPeers (h : Reelected m m') (f : List Peer → List Peer) :
    Reelected { m with self.potentialPeers := f m.self.potentialPeers }
      { m' with self.potentialPeers := f m'.self.potentialPeers } := by
  obtain ⟨⟨ks, pr, el, ad, us, ns, td, hself⟩, hkay, h₁, h₂, h₃, h₄⟩ := h
  exact ⟨⟨ks, pr, el, ad, us, ns, td, by simp only [hself]⟩, hkay, h₁, h₂, h₃, h₄⟩

/-- What the timer does to the peers. -/
lemma peersTimed (env : Env) (m : Mka) : PeersTimed env m (timerPeers env m) := by
  obtain ⟨hkay, hscs⟩ := expireReceiveScs_eq (m.self.livePeers.filter fun peer => peer.expired env)
    m.kay m.self.rxscList
  simp only [timerPeers, expireLivePeers, hscs]
  generalize (expireReceiveScs _ m.kay m.self.rxscList).1 = kay at hkay ⊢
  by_cases hchanged : (m.self.livePeers.any fun peer => peer.expired env)
  swap
  · rw [if_neg hchanged]
    exact .quiet kay hkay
  rw [if_pos hchanged, livePeersChanged]
  by_cases hnone : (m.self.livePeers.filter fun peer => !peer.expired env).isEmpty
  · rw [if_pos hnone]
    have hdrop : kay.Recounted (dropTransmitSas (fun _ => true) kay m.self.txsc).1 :=
      kay.recounted_deinitDataKeys _
    exact .alone _ (hkay.trans hdrop) _ (isEmpty_iff.mp hnone)
  rw [if_neg hnone]
  have helect := reelected_reelect { m with
    kay := kay
    self.livePeers := (m.self.expirePeers env).livePeers
    self.rxscList := (m.self.expirePeers env).rxscList }
  exact .reelected kay hkay _ (helect.mapPotentialPeers fun peers =>
    peers.filter fun peer => !peer.expired env)

lemma generateNewSak_eq_none :
    generateNewSak crypto env m = none ↔ canGenerateSak env m = false := by
  rw [generateNewSak]
  split_ifs with hcan
  · have hrandom : env.randomSak.isSome := by
      simp only [canGenerateSak, Bool.and_eq_true] at hcan
      exact hcan.1.2
    simp [hcan, Option.isSome_iff_ne_none.mp hrandom]
  · simpa using hcan

/-- The ways in which the generation of a SAK by the timer can end. -/
inductive SakTimed (crypto : Crypto) (env : Env) (m : Mka) : Mka → Prop
  | idle (hnew : m.self.newSak = false) : SakTimed crypto env m m
  | refused (hnew : m.self.newSak) (hcan : canGenerateSak env m = false) :
      SakTimed crypto env m { m with self.newSak := false }
  | generated (hnew : m.self.newSak) (hcan : canGenerateSak env m)
      (nonce : Octets 16) (cp : CpPort) (users : ℕ → ℕ) :
      SakTimed crypto env m
        { kay := { m.kay with
            keyUsers := users
            nextId := m.kay.nextId + 1
            distKn := m.kay.distKn + 1
            distAn := if m.kay.distAn + 1 > 3 then 0 else m.kay.distAn + 1
            distTime := env.now
            trace := .generatedSak m.self.id (freshSak crypto nonce m) :: m.kay.trace }
          cp := cp
          self := { m.self with
            newKey := some (freshSak crypto nonce m)
            sakList := freshSak crypto nonce m :: m.self.sakList
            livePeers := m.self.livePeers.map fun peer => { peer with sakUsed := false }
            toDistSak := true
            newSak := false } }

lemma sakTimed (crypto : Crypto) (env : Env) (m : Mka) :
    SakTimed crypto env m (timerNewSak crypto env m) := by
  rw [timerNewSak]
  by_cases hnew : m.self.newSak
  swap
  · rw [if_neg hnew]
    exact .idle (by simpa using hnew)
  rw [if_pos hnew]
  cases hgen : generateNewSak crypto env m with
  | none => exact .refused hnew (generateNewSak_eq_none.mp hgen)
  | some m' =>
    rw [generateNewSak] at hgen
    split_ifs at hgen with hcan
    obtain ⟨nonce, -, rfl⟩ := Option.map_eq_some_iff.mp hgen
    exact .generated hnew hcan nonce _ _

/-- The ways in which the sending of an MKPDU can end. -/
inductive Retried (crypto : Crypto) (env : Env) (k : Kay) (p : Participant) :
    Kay → Participant → Prop
  | unsent (n : ℕ) : Retried crypto env k p k { p with retryCount := n }
  | sent (n : ℕ) (frame : Wpabuf)
      (h : encodeMkpdu crypto env k p ⟨mkpduLength k p, []⟩ = .ok (afterSending env k p, frame)) :
      Retried crypto env k p (k.log (.sent frame.octets))
        { afterSending env k p with retryCount := n }

lemma retried {k k' : Kay} {p p' : Participant} (h : sendRetry crypto env k p = .ok (k', p')) :
    Retried crypto env k p k' p' := by
  rw [sendRetry] at h
  split_ifs at h
  · obtain ⟨⟨k₁, p₁⟩, hsend, h⟩ := bind_eq_ok.mp h
    cases h
    rcases sendMkpdu_cases hsend with ⟨rfl, rfl⟩ | ⟨frame, hframe, rfl, rfl⟩
    · exact .unsent _
    · exact .sent _ frame hframe
  · cases h
    exact .unsent p.retryCount

/-- The participant when `ieee802_1x_participant_timer` has dealt with its peers. -/
def timedPeers (env : Env) (m : Mka) : Mka :=
  timerPeers env (if m.self.livePeers.isEmpty then m else { m with self.mkaLife := 0 })

/-- The parts of the timer. -/
lemma participantTimerFor_cases (h : participantTimerFor crypto env m = .ok m') :
    ∃ life m₂ k p, PeersTimed env { m with self.mkaLife := life } (timedPeers env m) ∧
      SakTimed crypto env (timedPeers env m) m₂ ∧
      sendRetry crypto env m₂.kay m₂.self = .ok (k, p) ∧ m' = { m₂ with kay := k, self := p } := by
  have htimed : ∃ life, PeersTimed env { m with self.mkaLife := life } (timedPeers env m) := by
    rw [timedPeers]
    split_ifs
    · exact ⟨m.self.mkaLife, peersTimed env m⟩
    · exact ⟨0, peersTimed env _⟩
  obtain ⟨life, htimed⟩ := htimed
  obtain ⟨⟨k, p⟩, hsend, h⟩ := bind_eq_ok.mp h
  cases h
  exact ⟨life, _, k, p, htimed, sakTimed crypto env _, hsend, rfl⟩

/-! ## Secure associations -/

/-- Every receive SC keeps its SCI. -/
lemma createReceiveSas_eq (env : Env) (key : DataKey) (i : ℕ) (k : Kay)
    (rxscs : List ReceiveSc) :
    k.Recounted (createReceiveSas env key i k rxscs).1 ∧
      (createReceiveSas env key i k rxscs).2.1.map ReceiveSc.sci = rxscs.map ReceiveSc.sci := by
  induction rxscs generalizing i k with
  | nil => exact ⟨.refl k, rfl⟩
  | cons rxsc rxscs ih =>
    have hdrop : k.Recounted (dropReceiveSas (fun sa => sa.an == key.an) k rxsc).1 :=
      k.recounted_deinitDataKeys _
    simp only [createReceiveSas]
    split_ifs
    · obtain ⟨hkay, hscs⟩ := ih (i + 1)
        ((dropReceiveSas (fun sa => sa.an == key.an) k rxsc).1.useDataKey key)
      refine ⟨(hdrop.trans (Kay.recounted_useDataKey _ _)).trans hkay, ?_⟩
      rw [map_cons, map_cons, hscs]
      rfl
    · exact ⟨hdrop, rfl⟩

lemma dropAllReceiveSas_recounted (sel : ReceiveSa → Bool) (k : Kay) (rxscs : List ReceiveSc) :
    k.Recounted (dropAllReceiveSas sel k rxscs).1 := by
  induction rxscs generalizing k with
  | nil => exact .refl k
  | cons rxsc rxscs ih =>
    have hdrop : k.Recounted (dropReceiveSas sel k rxsc).1 := k.recounted_deinitDataKeys _
    exact hdrop.trans (ih (dropReceiveSas sel k rxsc).1)

/-- The list of SAKs only loses. -/
lemma removeSak_spec (ki : Ki) (keys : List DataKey) (newKey : Option DataKey) :
    (removeSak ki keys newKey).1 ⊆ keys ∧
      ((removeSak ki keys newKey).2.1 = newKey ∨ (removeSak ki keys newKey).2.1 = none) := by
  induction keys generalizing newKey with
  | nil => exact ⟨.refl [], .inl rfl⟩
  | cons key keys ih =>
    simp only [removeSak]
    split_ifs
    · exact ⟨subset_cons_self key keys, .inl rfl⟩
    · obtain ⟨hsub, hnew⟩ := ih none
      exact ⟨cons_subset_cons key hsub, .inr (hnew.elim id id)⟩
    · obtain ⟨hsub, hnew⟩ := ih newKey
      exact ⟨cons_subset_cons key hsub, hnew⟩

/-! ## What the CP can do -/

/-- The participant without what the CP can change in it. -/
def Participant.untouched (p : Participant) : Participant :=
  { p with
    lki := Ki.zero
    lan := 0
    ltx := false
    lrx := false
    oki := Ki.zero
    oan := 0
    otx := false
    orx := false
    sakList := []
    rxscList := []
    txsc := ⟨Sci.zero, []⟩
    mn := 0
    toUseSak := false
    newSak := false
    newKey := none
    retryCount := 0 }

/-- What the CP can do to the KaY and its principal participant, function by function. -/
inductive CpOp (crypto : Crypto) (k : Kay) (p : Participant) : Kay → Participant → Prop
  | latest (lki : Ki) (lan : UInt8) (ltx lrx : Bool) :
      CpOp crypto k p k { p with lki := lki, lan := lan, ltx := ltx, lrx := lrx }
  | old (oki : Ki) (oan : UInt8) (otx orx : Bool) :
      CpOp crypto k p k { p with oki := oki, oan := oan, otx := otx, orx := orx }
  | create (env : Env) (ki : Ki) :
      CpOp crypto k p (createSasFor env ki k p).1 (createSasFor env ki k p).2
  | delete (ki : Ki) : CpOp crypto k p (deleteSasFor ki k p).1 (deleteSasFor ki k p).2
  | enableTx (sas : List TransmitSa)
      (h : sas.map TransmitSa.pkey = p.txsc.saList.map TransmitSa.pkey) :
      CpOp crypto k p k { p with txsc.saList := sas }
  | enableRx (enable : ReceiveSa → ReceiveSa) (h : ∀ sa, (enable sa).pkey = sa.pkey) :
      CpOp crypto k p k { p with
        rxscList := p.rxscList.map fun rxsc => { rxsc with saList := rxsc.saList.map enable } }
  | send (env : Env) {k' : Kay} {p' : Participant} (h : sendRetry crypto env k p = .ok (k', p')) :
      CpOp crypto k p k' p'

/-- What all that the CP can do has in common. -/
structure CpTouched (k : Kay) (p : Participant) (k' : Kay) (p' : Participant) : Prop where
  self : p'.untouched = p.untouched
  kay : ∃ users tr, k' = { k with keyUsers := users, trace := tr }
  trace : k'.trace = k.trace ∨ ∃ frame, k'.trace = .sent frame :: k.trace
  scs : p'.rxscList.map ReceiveSc.sci = p.rxscList.map ReceiveSc.sci
  saks : p'.sakList ⊆ p.sakList
  newKey : p'.newKey = p.newKey ∨ p'.newKey = none
  newSak : p.newSak → p'.newSak

variable {crypto : Crypto} {k k' : Kay} {p p' : Participant}

lemma CpTouched.of_recounted (hkay : k.Recounted k') (hself : p'.untouched = p.untouched)
    (hscs : p'.rxscList.map ReceiveSc.sci = p.rxscList.map ReceiveSc.sci)
    (hsaks : p'.sakList ⊆ p.sakList) (hnew : p'.newKey = p.newKey ∨ p'.newKey = none)
    (hsak : p'.newSak = p.newSak) : CpTouched k p k' p' := by
  obtain ⟨users, rfl⟩ := hkay
  exact ⟨hself, ⟨users, k.trace, rfl⟩, .inl rfl, hscs, hsaks, hnew, hsak.trans⟩

/-- What creating secure associations changes. -/
lemma createSasFor_spec (env : Env) (ki : Ki) (k : Kay) (p : Participant) :
    k.Recounted (createSasFor env ki k p).1 ∧ ∃ rxscs txsc use,
      (createSasFor env ki k p).2 = { p with rxscList := rxscs, txsc := txsc, toUseSak := use } ∧
        rxscs.map ReceiveSc.sci = p.rxscList.map ReceiveSc.sci := by
  rw [createSasFor]
  cases (p.sakList.filter fun key => isKiEqual key.keyIdentifier ki).getLast? with
  | none => exact ⟨.refl k, _, _, _, rfl, rfl⟩
  | some key =>
    obtain ⟨hkay, hscs⟩ := createReceiveSas_eq env key 0 k p.rxscList
    dsimp only
    split_ifs
    · refine ⟨?_, _, _, _, rfl, hscs⟩
      have hdrop := hkay.trans (Kay.recounted_deinitDataKeys _
        ((p.txsc.saList.filter fun sa => sa.an == key.an).map TransmitSa.pkey))
      simp only [createTransmitSa]
      split_ifs
      · exact hdrop.trans (Kay.recounted_useDataKey _ _)
      · exact hdrop
    · exact ⟨hkay, _, _, _, rfl, hscs⟩

lemma deleteSasFor_recounted (ki : Ki) (k : Kay) (p : Participant) :
    k.Recounted (deleteSasFor ki k p).1 := by
  have htx : k.Recounted
      (dropTransmitSas (fun sa => isKiEqual sa.pkey.keyIdentifier ki) k p.txsc).1 :=
    k.recounted_deinitDataKeys _
  have hrx := htx.trans (dropAllReceiveSas_recounted
    (fun sa => isKiEqual sa.pkey.keyIdentifier ki) _ p.rxscList)
  exact hrx.trans (Kay.recounted_deinitDataKeys _ (removeSak ki p.sakList p.newKey).2.2)

lemma Retried.touched (h : Retried crypto env k p k' p') : CpTouched k p k' p' := by
  cases h with
  | unsent n => exact .of_recounted (.refl k) rfl rfl (.refl _) (.inl rfl) rfl
  | sent n frame h =>
    refine ⟨rfl, ⟨_, _, rfl⟩, .inr ⟨_, rfl⟩, rfl, .refl _, .inl rfl, fun hnew => ?_⟩
    simp [afterSending, hnew]

/-- What all callbacks of the CP have in common. -/
lemma CpOp.touched (h : CpOp crypto k p k' p') : CpTouched k p k' p' := by
  cases h with
  | create env ki =>
    obtain ⟨hkay, rxscs, txsc, use, hself, hscs⟩ := createSasFor_spec env ki k p
    rw [hself]
    exact .of_recounted hkay rfl hscs (.refl _) (.inl rfl) rfl
  | delete ki =>
    obtain ⟨hsaks, hnew⟩ := removeSak_spec ki p.sakList p.newKey
    refine .of_recounted (deleteSasFor_recounted ki k p) rfl ?_ hsaks hnew rfl
    simp only [deleteSasFor, dropAllReceiveSas, dropReceiveSas, map_map]
    rfl
  | enableRx enable h =>
    refine .of_recounted (.refl k) rfl ?_ (.refl _) (.inl rfl) rfl
    rw [map_map]
    rfl
  | send env h => exact (retried h).touched
  | _ =>
    exact .of_recounted (.refl k) rfl rfl (.refl _) (.inl rfl) rfl

lemma CpOp.retried_or_recounted (h : CpOp crypto k p k' p') :
    (∃ env, Retried crypto env k p k' p') ∨ k.Recounted k' := by
  cases h with
  | create env ki => exact .inr (createSasFor_spec env ki k p).1
  | delete ki => exact .inr (deleteSasFor_recounted ki k p)
  | send env h => exact .inl ⟨env, retried h⟩
  | _ => exact .inr (.refl k)

/-! ## The callbacks of the CP -/

variable {ε κ : Type} {conf : MacsecConf} {ops : KayOps ε κ} {Q : κ → Prop}

/-- Every KaY function that the CP calls keeps something about the KaY. -/
structure KayOps.Keeps (ops : KayOps ε κ) (Q : κ → Prop) : Prop where
  setLatestSaAttr : ∀ s lki lan ltx lrx, Q s → Q (ops.setLatestSaAttr s lki lan ltx lrx)
  setOldSaAttr : ∀ s oki oan otx orx, Q s → Q (ops.setOldSaAttr s oki oan otx orx)
  createSas : ∀ e s ki, Q s → Q (ops.createSas e s ki)
  deleteSas : ∀ s s' ki, Q s → ops.deleteSas s ki = .ok s' → Q s'
  enableRxSas : ∀ s ki, Q s → Q (ops.enableRxSas s ki).1
  enableTxSas : ∀ s r ki, Q s → ops.enableTxSas s ki = .ok r → Q r.1
  enableNewInfo : ∀ e s s', Q s → ops.enableNewInfo e s = .ok s' → Q s'

namespace CpWorld

variable {w w' : CpWorld κ}

lemma deleteSasOf_keeps (h : ops.Keeps Q) {ki : Option Ki} (hw : Q w.kay)
    (hd : w.deleteSasOf ops ki = .ok w') : Q w'.kay := by
  cases ki with
  | none =>
    cases hd
    exact hw
  | some ki =>
    obtain ⟨kay, hkay, hd⟩ := bind_eq_ok.mp hd
    cases hd
    exact h.deleteSas _ _ _ hw hkay

/-- The actions of every state keep it. -/
lemma enter_keeps (h : ops.Keeps Q) {e : ε} {state : CpState} (hw : Q w.kay)
    (he : w.enter conf ops e state = .ok w') : Q w'.kay := by
  cases state
  case change =>
    obtain ⟨v, hv, he⟩ := bind_eq_ok.mp he
    refine deleteSasOf_keeps h (deleteSasOf_keeps h ?_ hv) he
    exact hw
  case receive =>
    cases he
    have hold := h.setOldSaAttr w.kay w.cp.sm.lki w.cp.sm.lan w.cp.sm.ltx w.cp.sm.lrx hw
    simp only [enterReceive]
    split_ifs
    · exact h.enableRxSas _ _ (h.createSas _ _ _ (h.setLatestSaAttr _ _ _ _ _ hold))
    · exact h.enableRxSas _ _ (h.createSas _ _ _ (h.setLatestSaAttr _ _ _ _ _ hold))
    · exact hold
  case receiving =>
    cases he
    exact h.setLatestSaAttr _ _ _ _ _ hw
  case ready =>
    obtain ⟨kay, hkay, he⟩ := bind_eq_ok.mp he
    cases he
    exact h.enableNewInfo _ _ _ hw hkay
  case transmit =>
    obtain ⟨r, hr, he⟩ := bind_eq_ok.mp he
    cases he
    exact h.enableTxSas _ _ _ (h.setLatestSaAttr _ _ _ _ _ hw) hr
  case transmitting =>
    obtain ⟨kay, hkay, he⟩ := bind_eq_ok.mp he
    cases he
    exact h.enableNewInfo _ _ _ (h.setOldSaAttr _ _ _ _ _ hw) hkay
  case abandon =>
    obtain ⟨kay, hkay, he⟩ := bind_eq_ok.mp he
    cases he
    exact h.setLatestSaAttr _ _ _ _ _ (h.deleteSas _ _ _ (h.setLatestSaAttr _ _ _ _ _ hw) hkay)
  case retire =>
    cases he
    exact h.setOldSaAttr _ _ _ _ _ hw
  all_goals
    cases he
    exact hw

lemma react_keeps (h : ops.Keeps Q) {ev : CpEvent ε} (hw : Q w.kay)
    (hr : w.react conf ops ev = .ok w') : Q w'.kay := by
  cases ev with
  | smStep e =>
    exact smStep_induction (P := fun w => Q w.kay) (fun _ _ _ => trivial)
      (fun _ _ _ hv henter _ _ => ⟨enter_keeps h hv henter, fun _ => trivial⟩) hw hr
  | _ =>
    cases hr
    exact hw

lemma cpStepRun_keeps (h : ops.Keeps Q) {es : ℕ → ε} (hw : Q w.kay)
    (hr : w.cpStepRun conf ops es = .ok w') : Q w'.kay := by
  obtain ⟨n, hrun⟩ := stepLoop_eq_run hr
  exact run_induction (P := fun w => Q w.kay) (fun _ _ _ hv hstep => react_keeps h hv hstep) hw hrun

/-- The three callbacks of the CP. -/
inductive IsCallback (conf : MacsecConf) (ops : KayOps ε κ) :
    (CpWorld κ → Checked (CpWorld κ)) → Prop
  | step (es : ℕ → ε) : IsCallback conf ops (cpStepCb conf ops es)
  | transmitWhen (es : ℕ → ε) : IsCallback conf ops (cpTransmitWhenTimeout conf ops es)
  | retireWhen (es : ℕ → ε) : IsCallback conf ops (cpRetireWhenTimeout conf ops es)

/-- A callback is nothing or a run of the CP. -/
lemma IsCallback.cases {f : CpWorld κ → Checked (CpWorld κ)} (hf : IsCallback conf ops f)
    (hr : f w = .ok w') : w' = w ∨ ∃ cp es, cpStepRun conf ops es { w with cp := cp } = .ok w' := by
  have hdue : ∀ (due : Bool) (cp : CpPort) (es : ℕ → ε),
      (if due then cpStepRun conf ops es { w with cp := cp } else .ok w) = .ok w' →
      w' = w ∨ ∃ cp es, cpStepRun conf ops es { w with cp := cp } = .ok w' := by
    intro due cp es hr
    split_ifs at hr
    · exact .inr ⟨cp, es, hr⟩
    · exact .inl (Except.ok.inj hr).symm
  cases hf with
  | _ es => exact hdue _ _ es hr

lemma IsCallback.keeps {f : CpWorld κ → Checked (CpWorld κ)} (hf : IsCallback conf ops f)
    (h : ops.Keeps Q) (hw : Q w.kay) (hr : f w = .ok w') : Q w'.kay := by
  rcases hf.cases hr with rfl | ⟨cp, es, hr⟩
  · exact hw
  · exact cpStepRun_keeps (w := { w with cp := cp }) h hw hr

end CpWorld

/-! ## The principal participant -/

/-- Either nothing changes, or the principal participant and the KaY do what the CP can do. -/
def KayState.PrincipalChanged (crypto : Crypto) (s s' : KayState) : Prop :=
  s' = s ∨ ∃ p k' p', getPrincipalParticipant s.participants = some p ∧
    CpOp crypto s.kay p k' p' ∧
    s' = ⟨k', updatePrincipalParticipant s.participants fun _ => p'⟩

/-- What holds through every change of the principal participant is kept by the KaY functions that
the CP calls. -/
lemma kayOps_keeps {Q : KayState → Prop} (h : ∀ s s', Q s → s.PrincipalChanged crypto s' → Q s') :
    (kayOps crypto).Keeps Q := by
  -- a function on the principal participant that is one of the operations of the CP
  have hon : ∀ (s s' : KayState) (f : Kay → Participant → Checked (Kay × Participant)),
      (∀ p r, f s.kay p = .ok r → CpOp crypto s.kay p r.1 r.2) → Q s → s.onPrincipal f = .ok s' →
      Q s' := by
    intro s s' f hf hs hr
    rw [KayState.onPrincipal] at hr
    cases hp : getPrincipalParticipant s.participants with
    | none =>
      simp only [hp] at hr
      cases hr
      exact hs
    | some p =>
      simp only [hp] at hr
      obtain ⟨r, hfr, hr⟩ := bind_eq_ok.mp hr
      cases hr
      exact h s _ hs (.inr ⟨p, r.1, r.2, hp, hf p r hfr, rfl⟩)
  -- a write to the principal participant that is one of the operations of the CP
  have hwrite : ∀ (s : KayState) (f : Participant → Participant),
      (∀ p, CpOp crypto s.kay p s.kay (f p)) → Q s →
      Q { s with participants := updatePrincipalParticipant s.participants f } := by
    intro s f hf hs
    cases hp : getPrincipalParticipant s.participants with
    | none =>
      rw [updatePrincipalParticipant, updateFirst_of_not_any (find?_eq_none.mp hp)]
      exact hs
    | some p =>
      rw [updatePrincipalParticipant, updateFirst_eq_of_find? hp]
      exact h s _ hs (.inr ⟨p, s.kay, f p, hp, hf p, rfl⟩)
  refine ⟨?_, ?_, ?_, ?_, ?_, ?_, ?_⟩
  · intro s lki lan ltx lrx hs
    exact hwrite s _ (fun p => .latest (lki.getD Ki.zero) lan ltx lrx) hs
  · intro s oki oan otx orx hs
    exact hwrite s _ (fun p => .old (oki.getD Ki.zero) oan otx orx) hs
  · intro env s ki hs
    simp only [kayOps, KayState.createSas]
    cases hp : getPrincipalParticipant s.participants with
    | none => exact hs
    | some p => exact h s _ hs (.inr ⟨p, _, _, hp, .create env ki, rfl⟩)
  · intro s s' ki hs hr
    simp only [kayOps, KayState.deleteSas] at hr
    refine hon s s' _ ?_ hs hr
    intro p r hr
    cases ki with
    | some ki =>
      cases hr
      exact .delete ki
    | none =>
      split_ifs at hr
      cases hr
      exact .enableTx p.txsc.saList rfl
  · intro s ki hs
    simp only [kayOps, KayState.enableRxSas]
    cases hp : getPrincipalParticipant s.participants with
    | none => exact hs
    | some p =>
      refine h s _ hs (.inr ⟨p, _, _, hp, .enableRx _ fun sa => ?_, rfl⟩)
      split_ifs <;> rfl
  · intro s r ki hs hr
    simp only [kayOps, KayState.enableTxSas] at hr
    cases hp : getPrincipalParticipant s.participants with
    | none =>
      simp only [hp] at hr
      cases hr
      exact hs
    | some p =>
      simp only [hp] at hr
      cases ki with
      | none =>
        split_ifs at hr
        cases hr
        exact hs
      | some ki =>
        cases hr
        refine h s _ hs (.inr ⟨p, _, _, hp, .enableTx _ ?_, rfl⟩)
        rw [map_map]
        refine map_congr_left fun sa _ => ?_
        simp only [Function.comp_apply]
        split_ifs <;> rfl
  · intro env s s' hs hr
    exact hon s s' _ (fun p r hr => .send env hr) hs hr

end Hostapd.Pae
