import Hostapd.Pae.RoundTrip
import Hostapd.Pae.SakRequests

/-!
# The transfer of SAKs

What a KaY generates and sends, and what it takes from the frames of another one.  A key server
numbers its SAKs, and its frames distribute no others, wrapped with the key encrypting key; a client
puts the SAKs of such frames on its list under the server's member identifier.
-/

namespace Hostapd.Pae

open Wire Checked FirstMatch Machine List

/-! ## SAKs and frames that leave a KaY -/

/-- The SAKs that were generated. -/
def generatedSaks (trace : List KayEvent) : List DataKey :=
  trace.filterMap fun
    | .generatedSak _ sak => some sak
    | _ => none

/-- The frames that were sent. -/
def sentFrames (trace : List KayEvent) : List Bytes :=
  trace.filterMap fun
    | .sent frame => some frame
    | _ => none

/-- The distributed SAK parameter set with a SAK that is wrapped with `kek`. -/
def wrappedSet (crypto : Crypto) (kek : Octets 16) (sak : DataKey) : ParamSet :=
  let body : DistSakBody := ⟨sak.an, sak.confidentialityOffset, sak.keyIdentifier.kn⟩
  ⟨mkaDistributedSak, body.second, 0, be32 sak.keyIdentifier.kn ++ (crypto.aesWrap kek sak.key).val⟩

/-- A frame of the member `mi` that distributes at most SAKs of the list `saks`, wrapped with
`kek`. -/
def Distributes (crypto : Crypto) (kek : Octets 16) (mi : Mi) (saks : List DataKey)
    (frame : Bytes) : Prop :=
  ∃ (msg : Message) (ick : Octets 16) (src : Octets 6), msg.Wf ∧ frame = msg.frame crypto ick src ∧
    msg.basic.actorMi = mi ∧ ∀ set ∈ msg.sets, set.type = mkaDistributedSak →
      set.body = [] ∨ ∃ sak ∈ saks, set = wrappedSet crypto kek sak

variable {r : Participant × Wpabuf} {k k' : Kay}

/-! ## Sending -/

variable {crypto : Crypto} {env : Env} {k : Kay} {p : Participant} {buf : Wpabuf}

/-- The KaY with all its keys referred to. -/
def Kay.allAlive (k : Kay) : Kay := { k with keyUsers := fun _ => 1 }

lemma encodeDistSakBody_allAlive (h : encodeDistSakBody crypto k p buf = .ok r) :
    encodeDistSakBody crypto k.allAlive p buf = .ok r := by
  rw [encodeDistSakBody] at h ⊢
  split_ifs at h with hlen
  · exact (if_pos hlen).trans h
  refine (if_neg hlen).trans ?_
  cases hkey : p.newKey with
  | none =>
    simp only [hkey] at h
    cases h
  | some sak =>
    simp only [hkey] at h ⊢
    split_ifs at h with halive
    exact (if_pos Nat.one_ne_zero).trans h

/-- A frame that is sent without reading a freed key is the one that is sent with all keys there. -/
lemma encodeMkpdu_allAlive (h : encodeMkpdu crypto env k p buf = .ok r) :
    encodeMkpdu crypto env k.allAlive p buf = .ok r := by
  have hbodies : ∀ hs ⊆ mkaBodyTxHandlers, ∀ {p : Participant} {buf : Wpabuf},
      encodeBodies crypto env k hs p buf = .ok r →
        encodeBodies crypto env k.allAlive hs p buf = .ok r := by
    intro hs hsub
    induction hs with
    | nil => exact fun h => h
    | cons t hs ih =>
      intro p buf h
      have hrest := @ih fun t' ht' => hsub (mem_cons_of_mem t ht')
      rw [encodeBodies] at h ⊢
      split_ifs at h ⊢ with hpresent
      · obtain ⟨r₁, hr₁, h⟩ := bind_eq_ok.mp h
        refine bind_eq_ok.mpr ⟨r₁, ?_, hrest h⟩
        -- only the handler of the distributed SAK looks at the references
        have ht : t ∈ mkaBodyTxHandlers := hsub mem_cons_self
        simp only [mkaBodyTxHandlers, mem_cons, not_mem_nil, or_false] at ht
        rcases ht with rfl | rfl | rfl | rfl | rfl | rfl
        · exact hr₁
        · exact hr₁
        · exact hr₁
        · exact hr₁
        · exact encodeDistSakBody_allAlive hr₁
        · exact hr₁
      · exact hrest h
  obtain ⟨buf₁, hbuf₁, h⟩ := bind_eq_ok.mp h
  obtain ⟨buf₂, hbuf₂, h⟩ := bind_eq_ok.mp h
  exact bind_eq_ok.mpr ⟨buf₁, hbuf₁, bind_eq_ok.mpr ⟨buf₂, hbuf₂, hbodies _ (.refl _) h⟩⟩

/-- A frame distributes the SAK of its participant. -/
lemma distributes_of_encodeMkpdu {saks : List DataKey}
    (h : encodeMkpdu crypto env k p ⟨mkpduLength k p, []⟩ = .ok r)
    (hlive : p.livePeers.length < 256) (hpotential : p.potentialPeers.length < 256)
    (hversion : k.mkaVersion ≠ mkaIcvIndicator) (hsaks : ∀ sak, p.newKey = some sak → sak ∈ saks) :
    Distributes crypto p.kek p.mi saks r.2.octets := by
  have hcan : CanSend k.allAlive p := ⟨hlive, hpotential, fun _ _ _ => Nat.one_ne_zero⟩
  have hlength : mkpduLength k p = mkpduLength k.allAlive p := by
    rw [mkpduLength_eq crypto env, mkpduLength_eq crypto env]
    rfl
  have hframe := encodeMkpdu_allAlive h
  rw [hlength, encodeMkpdu_eq crypto env k.allAlive p hcan] at hframe
  obtain rfl := Except.ok.inj hframe
  refine ⟨sentMessage crypto env k.allAlive p, p.ick, k.actorSci.addr,
    sentMessage_wf crypto env k.allAlive p hcan hversion, rfl, rfl, fun set hset htype => ?_⟩
  have hset : set ∈ emittedSets crypto env k.allAlive p := hset
  simp only [emittedSets, mem_append] at hset
  have hpeers : ∀ {type : UInt8} {peers}, set ∈ peerSets type peers → type = mkaDistributedSak := by
    intro type peers hset
    rw [peerSets] at hset
    split_ifs at hset
    · exact absurd hset not_mem_nil
    · rwa [mem_singleton.mp hset] at htype
  rcases hset with hset | hset | hset | hset
  · exact absurd (hpeers hset) (by decide)
  · exact absurd (hpeers hset) (by decide)
  · rw [sakUseSets] at hset
    split_ifs at hset
    · rw [mem_singleton.mp hset] at htype
      exact absurd htype (by decide : mkaSakUse ≠ mkaDistributedSak)
    · exact absurd hset not_mem_nil
  · rw [distSakSets] at hset
    split at hset
    · rename_i sak hsak
      split_ifs at hset
      · rw [mem_singleton.mp hset, distSakSet]
        split_ifs
        · exact .inl rfl
        · exact .inr ⟨sak, hsaks sak hsak, by rw [csIdOctets_eq]; rfl⟩
      · exact absurd hset not_mem_nil
    · exact absurd hset not_mem_nil

/-! ## The server -/

/-- The SAKs that a KaY generated as the member `mi` are numbered from one on, and its frames
distribute no others. -/
structure Kay.ServesSaks (crypto : Crypto) (kek : Octets 16) (mi : Mi) (k : Kay) : Prop where
  version : k.mkaVersion = mkaVersionId
  distAn : k.distAn < 4
  distKn : k.distKn = UInt32.ofNat ((generatedSaks k.trace).length + 1)
  kns : (generatedSaks k.trace).map (fun sak => sak.keyIdentifier.kn) =
    ((range (generatedSaks k.trace).length).map fun i => UInt32.ofNat (i + 1)).reverse
  saks : ∀ sak ∈ generatedSaks k.trace, sak.keyIdentifier.mi = mi ∧ sak.an < 4
  frames : ∀ frame ∈ sentFrames k.trace, Distributes crypto kek mi (generatedSaks k.trace) frame

/-- A participant that is to distribute, wrapped with `kek`, a SAK that its KaY generated. -/
structure Participant.ServesSaks (kek : Octets 16) (k : Kay) (p : Participant) : Prop where
  kek : p.kek = kek
  newKey : ∀ sak, p.newKey = some sak → sak ∈ generatedSaks k.trace

/-- The participant is the member `mi`, and what it sends fits into parameter sets. -/
def Participant.IsMember (mi : Mi) (p : Participant) : Prop :=
  p.mi = mi ∧ p.livePeers.length < 256 ∧ p.potentialPeers.length < 256

def System.IsMember (mi : Mi) (s : System) : Prop := ∀ p ∈ s.participants, p.IsMember mi

instance (mi : Mi) (s : System) : Decidable (s.IsMember mi) :=
  inferInstanceAs (Decidable (∀ p ∈ s.participants, _ ∧ _))

/-- MKA instances are created with this CKN and CAK. -/
def Event.Shares (ckn : MkaKeyName) (cak : Octets 16) (e : Event) : Prop :=
  ∀ ckn' cak', e.Creates ckn' cak' → ckn' = ckn ∧ cak' = cak

variable {crypto : Crypto} {env : Env} {kek : Octets 16} {mi : Mi} {m m' : Mka} {k k' : Kay}
  {p p' : Participant}

lemma Distributes.mono {saks saks' : List DataKey} {frame : Bytes}
    (h : Distributes crypto kek mi saks frame) (hsub : saks ⊆ saks') :
    Distributes crypto kek mi saks' frame := by
  obtain ⟨msg, ick, src, hwf, hframe, hmi, hsets⟩ := h
  refine ⟨msg, ick, src, hwf, hframe, hmi, fun set hset htype => ?_⟩
  rcases hsets set hset htype with hbody | ⟨sak, hsak, heq⟩
  · exact .inl hbody
  · exact .inr ⟨sak, hsub hsak, heq⟩

/-- The property depends on the trace and the numbers. -/
lemma Kay.ServesSaks.congr (h : k.ServesSaks crypto kek mi)
    (hversion : k'.mkaVersion = k.mkaVersion) (han : k'.distAn = k.distAn)
    (hkn : k'.distKn = k.distKn) (hgenerated : generatedSaks k'.trace = generatedSaks k.trace)
    (hsent : ∀ frame ∈ sentFrames k'.trace, frame ∈ sentFrames k.trace ∨
      Distributes crypto kek mi (generatedSaks k.trace) frame) : k'.ServesSaks crypto kek mi where
  version := hversion.trans h.version
  distAn := han ▸ h.distAn
  distKn := hkn ▸ hgenerated ▸ h.distKn
  kns := hgenerated ▸ h.kns
  saks := hgenerated ▸ h.saks
  frames := by
    rw [hgenerated]
    intro frame hframe
    rcases hsent frame hframe with hold | hnew
    · exact h.frames frame hold
    · exact hnew

/-- What is heard generates no SAK. -/
lemma Mka.Hears.servesSaks {i : ℕ} {installs : Prop} (h : m.Hears (KayEvent.Heard i) installs m')
    (hk : m.kay.ServesSaks crypto kek mi) (hp : m.self.ServesSaks kek m.kay) :
    m'.kay.ServesSaks crypto kek mi ∧ m'.self.ServesSaks kek m'.kay := by
  have hgenerated : generatedSaks m'.kay.trace = generatedSaks m.kay.trace := by
    refine h.filterMap_trace fun ev hev => ?_
    cases ev with
    | generatedSak => exact hev.elim
    | _ => rfl
  have hsent : sentFrames m'.kay.trace = sentFrames m.kay.trace := by
    refine h.filterMap_trace fun ev hev => ?_
    cases ev with
    | sent => exact hev.elim
    | _ => rfl
  refine ⟨hk.congr (congrArg (·.mkaVersion) h.kay) (congrArg (·.distAn) h.kay)
    (congrArg (·.distKn) h.kay) hgenerated fun frame hframe => .inl (hsent ▸ hframe),
    (congrArg (·.kek) h.self).trans hp.kek, fun sak hsak => ?_⟩
  rw [hgenerated]
  exact hp.newKey sak ((congrArg (·.newKey) h.self).symm.trans hsak)

/-- Sending distributes no other SAK. -/
lemma Retried.servesSaks (h : Retried crypto env k p k' p') (hk : k.ServesSaks crypto kek mi)
    (hp : p.ServesSaks kek k) (hmember : p.IsMember mi) :
    k'.ServesSaks crypto kek mi ∧ p'.ServesSaks kek k' := by
  cases h with
  | unsent n => exact ⟨hk, hp.kek, hp.newKey⟩
  | sent n frame h =>
    refine ⟨hk.congr rfl rfl rfl rfl fun frame' hframe' => ?_, hp.kek, hp.newKey⟩
    rcases mem_cons.mp hframe' with rfl | hold
    · have hversion : k.mkaVersion ≠ mkaIcvIndicator := hk.version ▸ by decide
      exact .inr (hmember.1 ▸ hp.kek ▸
        distributes_of_encodeMkpdu h hmember.2.1 hmember.2.2 hversion hp.newKey)
    · exact .inl hold

lemma PeersTimed.isMember (h : PeersTimed env m m') (hm : m.self.IsMember mi) :
    m'.self.IsMember mi := by
  have hexpired : (m.self.expirePeers env).IsMember mi :=
    ⟨hm.1, (length_filter_le _ _).trans_lt hm.2.1, (length_filter_le _ _).trans_lt hm.2.2⟩
  cases h with
  | reelected kay hkay m' h =>
    obtain ⟨_, _, _, _, _, _, _, hself⟩ := h.self
    rw [hself]
    exact hexpired
  | _ => exact hexpired

lemma SakTimed.isMember (h : SakTimed crypto env m m') (hm : m.self.IsMember mi) :
    m'.self.IsMember mi := by
  cases h with
  | generated hnew hcan nonce cp users => exact ⟨hm.1, (length_map _).trans_lt hm.2.1, hm.2.2⟩
  | _ => exact hm

/-- A SAK that the timer generates has the next number. -/
lemma SakTimed.servesSaks (h : SakTimed crypto env m m') (hk : m.kay.ServesSaks crypto kek mi)
    (hp : m.self.ServesSaks kek m.kay) (hmi : m.self.mi = mi) :
    m'.kay.ServesSaks crypto kek mi ∧ m'.self.ServesSaks kek m'.kay := by
  cases h with
  | idle hnew => exact ⟨hk, hp⟩
  | refused hnew hcan => exact ⟨hk, hp.kek, hp.newKey⟩
  | generated hnew hcan nonce cp users =>
    have hgenerated : generatedSaks (.generatedSak m.self.id (freshSak crypto nonce m) ::
        m.kay.trace) = freshSak crypto nonce m :: generatedSaks m.kay.trace := rfl
    refine ⟨⟨hk.version, ?_, ?_, ?_, ?_, ?_⟩, hp.kek, ?_⟩
    · dsimp only
      split_ifs with hlast
      · decide
      · exact UInt8.lt_of_le_of_lt (UInt8.not_lt.mp hlast) (by decide)
    · rw [hgenerated, length_cons, UInt32.ofNat_add, ← hk.distKn]
      rfl
    · rw [hgenerated, length_cons, range_succ, map_append, reverse_append, map_cons, hk.kns]
      simp only [map_cons, map_nil, reverse_singleton, singleton_append, ← hk.distKn]
      rfl
    · intro sak hsak
      rcases mem_cons.mp hsak with rfl | hold
      · exact ⟨hmi, hk.distAn⟩
      · exact hk.saks sak hold
    · exact fun frame hframe => (hk.frames frame hframe).mono (subset_cons_self _ _)
    · intro sak hsak
      cases hsak
      exact mem_cons_self

/-- The timer generates and distributes as it should. -/
lemma participantTimerFor_servesSaks (h : participantTimerFor crypto env m = .ok m')
    (hk : m.kay.ServesSaks crypto kek mi) (hp : m.self.ServesSaks kek m.kay)
    (hmember : m.self.IsMember mi) :
    m'.kay.ServesSaks crypto kek mi ∧ m'.self.ServesSaks kek m'.kay := by
  obtain ⟨life, m₂, k, p, htimed, hsak, hsend, rfl⟩ := participantTimerFor_cases h
  have hmember₁ := htimed.isMember hmember
  obtain ⟨hk₁, hp₁⟩ := Mka.Hears.servesSaks (i := 0) htimed.hears hk ⟨hp.kek, hp.newKey⟩
  obtain ⟨hk₂, hp₂⟩ := hsak.servesSaks hk₁ hp₁ hmember₁.1
  exact (retried hsend).servesSaks hk₂ hp₂ (hsak.isMember hmember₁)

/-- The server's SAKs are numbered, and its frames distribute no others. -/
lemma servesSaks_invariant (crypto : Crypto) (ckn : MkaKeyName) (cak : Octets 16) (mi : Mi) :
    Invariant crypto (fun s e => s.IsMember mi ∧ e.Shares ckn cak)
      (Kay.ServesSaks crypto (crypto.kekTrfm cak ckn.octets) mi)
      (fun k p => p.ServesSaks (crypto.kekTrfm cak ckn.octets) k) where
  receive _ _ _ hk hp hm' := (decodeMkpduFor_hears hm').servesSaks hk hp
  tick hcond hmem hk hp hm' :=
    participantTimerFor_servesSaks hm' hk hp (hcond.1 _ hmem)
  cp := by
    intro s e p₀ k p k' p' hcond hmem hp₀ hk hp hop
    rcases hop.retried_or_recounted with ⟨env, hretried⟩ | ⟨users, rfl⟩
    · have hmember : p.IsMember mi ↔ p₀.IsMember mi := congrArg (·.IsMember mi) hp₀ |>.to_iff
      exact hretried.servesSaks hk hp (hmember.mpr (hcond.1 p₀ hmem))
    have hkek : p'.kek = p.kek := congrArg (·.kek) hop.touched.self
    refine ⟨hk.congr rfl rfl rfl rfl fun _ => .inl, hkek.trans hp.kek, fun sak hsak => ?_⟩
    rcases hop.touched.newKey with hnew | hnew
    · exact hp.newKey sak (hnew.symm.trans hsak)
    · cases hnew.symm.trans hsak
  request hp := ⟨hp.kek, hp.newKey⟩
  create hcond hcreates _ _ := by
    obtain ⟨rfl, rfl⟩ := hcond.2 _ _ hcreates
    exact ⟨rfl, nofun⟩
  quiet hk hquiet := by
    obtain ⟨-, -, _, _, _, _, _, _, _, rfl⟩ := hquiet
    exact hk.congr rfl rfl rfl rfl fun _ => .inl
  other hq htrace _ := by
    obtain ⟨new, heq, -⟩ := htrace.trace
    refine ⟨hq.kek, fun sak hsak => ?_⟩
    rw [heq, generatedSaks, filterMap_append]
    exact mem_append_right _ (hq.newKey sak hsak)

/-- In every run in which a KaY keeps its member identifier and has one CKN and CAK, the SAKs that
it generates have its identifier and the numbers from one on, and whatever it sends distributes,
wrapped with the KEK, no other SAK than one of these. -/
theorem saks_numbered_and_distributed {crypto : Crypto} {ckn : MkaKeyName} {cak : Octets 16}
    {mi : Mi} {params : KayParams} {env : Env} {secy : Secy} {s₀ s : System} {es : List Event}
    (hinit : kayInit crypto params env secy = .ok s₀)
    (halong : Along (System.step crypto) (fun s e => s.IsMember mi ∧ e.Shares ckn cak) s₀ es)
    (hrun : run (System.step crypto) s₀ es = .ok s) :
    (generatedSaks s.kay.trace).map (·.keyIdentifier) =
        ((range (generatedSaks s.kay.trace).length).map fun i =>
          (⟨mi, UInt32.ofNat (i + 1)⟩ : Ki)).reverse ∧
      ∀ frame ∈ sentFrames s.kay.trace,
        Distributes crypto (crypto.kekTrfm cak ckn.octets) mi (generatedSaks s.kay.trace)
          frame := by
  have hserves : s.kay.ServesSaks crypto (crypto.kekTrfm cak ckn.octets) mi :=
    ((servesSaks_invariant crypto ckn cak mi).run
      (kayInit_holds ⟨rfl, (by decide : (0 : UInt8) < 4), rfl, rfl, nofun, nofun⟩ hinit) halong
      hrun).kay
  refine ⟨?_, hserves.frames⟩
  have hown : (generatedSaks s.kay.trace).map (·.keyIdentifier) =
      ((generatedSaks s.kay.trace).map fun sak => sak.keyIdentifier.kn).map (Ki.mk mi) := by
    rw [map_map]
    exact map_congr_left fun sak hsak => by rw [← (hserves.saks sak hsak).1]; rfl
  rw [hown, hserves.kns, map_reverse, map_map]
  rfl

/-- The first SAK of a key server. -/
theorem saks_numbered_and_distributed_of_first :
    ∃ s₀ s, kayInit default sampleParams (Env.benign 0) Secy.untold = .ok s₀ ∧
      run (System.step default) s₀ (promoteClient ++ [.tick (Env.benign 6) 0]) = .ok s ∧
      (generatedSaks s.kay.trace).map (·.keyIdentifier) = [⟨Octets.zero 12, 1⟩] ∧
      ∀ frame ∈ sentFrames s.kay.trace, Distributes default
        (Crypto.kekTrfm default (Octets.zero 16) sampleName.octets) (Octets.zero 12)
        (generatedSaks s.kay.trace) frame := by
  have hreturns : Returns (kayInit default sampleParams (.benign 0) Secy.untold) fun s₀ =>
      Along (System.step default) (fun s _ => s.IsMember (Octets.zero 12)) s₀
        (promoteClient ++ [.tick (Env.benign 6) 0]) ∧
      Returns (run (System.step default) s₀ (promoteClient ++ [.tick (Env.benign 6) 0])) fun s =>
        (generatedSaks s.kay.trace).length = 1 := by
    decide +kernel
  obtain ⟨s₀, hinit, hmember, s, hrun, hone⟩ := hreturns
  have hshares : ∀ e ∈ promoteClient ++ [.tick (Env.benign 6) 0],
      e.Shares sampleName (Octets.zero 16) := by
    intro e he ckn cak hcreates
    fin_cases he
    · exact ⟨hcreates.1.symm, hcreates.2.symm⟩
    · exact hcreates.elim
    · exact hcreates.elim
  obtain ⟨hnumbers, hframes⟩ := saks_numbered_and_distributed hinit
    (hmember.and (along_of_mem hshares)) hrun
  rw [hone] at hnumbers
  exact ⟨s₀, s, hinit, hrun, hnumbers, hframes⟩

/-! ## The client -/

/-- A SAK of the list has the key identifier of a key, and is the same key. -/
def Matches (saks : List DataKey) (key : DataKey) : Prop :=
  ∃ sak ∈ saks, sak.keyIdentifier = key.keyIdentifier ∧ sak.key = key.key ∧ sak.an = key.an ∧
    sak.confidentialityOffset = key.confidentialityOffset

/-- A participant whose SAKs are its own or match one of a list. -/
structure Participant.Agrees (kek : Octets 16) (saks : List DataKey) (k : Kay) (p : Participant) :
    Prop where
  kek : p.kek = kek
  saks : ∀ key ∈ p.sakList, (∃ i, .generatedSak i key ∈ k.trace) ∨ Matches saks key

section Client

variable {crypto : Crypto} {env : Env} {kek : Octets 16} {mi : Mi} {saks : List DataKey}
  {m m' : Mka}

lemma LiveAccepted.currentPeerId_eq (h : LiveAccepted env m m') :
    m'.self.currentPeerId = m.self.currentPeerId := by
  cases h with
  | same => rfl
  | _ =>
    obtain ⟨_, _, _, _, _, _, _, hself⟩ := (reelected_reelect _).self
    rw [hself]

lemma wrappedSet_wf (sak : DataKey) : (wrappedSet crypto kek sak).Wf :=
  ⟨by simp [wrappedSet], by simp [wrappedSet]⟩

lemma wrappedSet_octets (sak : DataKey) (t : Bytes) :
    (wrappedSet crypto kek sak).octets ++ t =
      (⟨sak.an, sak.confidentialityOffset, sak.keyIdentifier.kn⟩ : DistSakBody).octets 28 ++
        ((crypto.aesWrap kek sak.key).val ++ t) := by
  have hlen : (wrappedSet crypto kek sak).body.length = 28 := by simp [wrappedSet]
  rw [ParamSet.octets, hlen]
  simp only [wrappedSet, DistSakBody.octets, append_assoc]

/-- What is wrapped is found again. -/
lemma wrappedSak_wrappedSet (sak : DataKey) (t : Bytes) :
    wrappedSak ((wrappedSet crypto kek sak).octets ++ t) =
      .ok (some (defaultCsIndex, crypto.aesWrap kek sak.key)) := by
  have hlen : paramBodyLen ((wrappedSet crypto kek sak).octets ++ t) = 28 := by
    rw [ParamSet.paramBodyLen_octets _ (wrappedSet_wf sak)]
    simp [wrappedSet]
  have hread : readAt ((wrappedSet crypto kek sak).octets ++ t) sizeofDistSakBody 24 =
      .ok (crypto.aesWrap kek sak.key).val := by
    rw [readAt_eq_ok, wrappedSet_octets]
    refine ⟨by simp only [length_append, DistSakBody.length_octets, Octets.length_eq]; omega, ?_⟩
    rw [drop_left' (DistSakBody.length_octets _ _), take_left' (Octets.length_eq _)]
  rw [wrappedSak, if_pos hlen, hread, ok_bind, Octets.ofList_val]
  rfl

section Lists

variable (haes : ∀ kek key, crypto.aesUnwrap kek (crypto.aesWrap kek key) = some key)
  (hsaks : ∀ sak ∈ saks, sak.keyIdentifier.mi = mi ∧ sak.an < 4)

include haes hsaks

/-- A client takes the SAK that was wrapped. -/
lemma sakList_decodeDistSakBody {set : ParamSet} {t : Bytes} {b : Bool}
    (h : decodeDistSakBody crypto env m (set.octets ++ t) = .ok (m', b)) (hwf : set.Wf)
    (hset : set.body = [] ∨ ∃ sak ∈ saks, set = wrappedSet crypto kek sak)
    (hkek : m.self.kek = kek) (hmi : m.self.currentPeerId.mi = mi) :
    ∀ key ∈ m'.self.sakList, key ∈ m.self.sakList ∨ Matches saks key := by
  rcases hset with hbody | ⟨sak, hsak, rfl⟩
  · have hlen : paramBodyLen (set.octets ++ t) = 0 := by
      rw [ParamSet.paramBodyLen_octets _ hwf, hbody, length_nil]
    simp only [decodeDistSakBody, hlen] at h
    split_ifs at h <;> cases h <;> exact fun _ => .inl
  rcases decodeDistSakBody_cases h with rfl | ⟨-, rfl | h⟩
  · exact fun _ => .inl
  · exact fun _ => .inl
  rcases decodeWrappedSak_cases h with rfl | ⟨-, cs, wrapped, hwrapped, heq⟩
  · exact fun _ => .inl
  obtain rfl := congrArg Prod.fst heq
  rw [wrappedSak_wrappedSet] at hwrapped
  obtain ⟨rfl, rfl⟩ := Prod.mk.inj (Option.some.inj (Except.ok.inj hwrapped))
  rw [wrappedSet_octets, DistSakBody.ofOctets_octets _ (hsaks sak hsak).2]
  rcases unwrapSak_cases crypto env _ ⟨sak.an, sak.confidentialityOffset, sak.keyIdentifier.kn⟩
    defaultCsIndex (crypto.aesWrap kek sak.key) with heq | ⟨sak', hunwrap, heq⟩ <;> rw [heq]
  · exact fun _ => .inl
  rw [show Participant.kek _ = kek from hkek, haes] at hunwrap
  obtain rfl := Option.some.inj hunwrap
  intro key hkey
  rcases mem_cons.mp hkey with rfl | hold
  · refine .inr ⟨sak, hsak, ?_, rfl, rfl, rfl⟩
    exact congrArg (fun mi => (⟨mi, sak.keyIdentifier.kn⟩ : Ki)) ((hsaks sak hsak).1.trans hmi.symm)
  · exact .inl hold

/-- The sets of a frame bring the SAKs wrapped in them. -/
lemma sakList_handleSets {tail : Bytes} {sets : List ParamSet} (hwf : ∀ set ∈ sets, set.Wf)
    (h : handleSets (bodyRx crypto env) tail m sets = .ok m')
    (hsets : ∀ set ∈ sets, set.type = mkaDistributedSak →
      set.body = [] ∨ ∃ sak ∈ saks, set = wrappedSet crypto kek sak)
    (hkek : m.self.kek = kek) (hmi : m.self.currentPeerId.mi = mi) :
    ∀ key ∈ m'.self.sakList, key ∈ m.self.sakList ∨ Matches saks key := by
  induction sets generalizing m with
  | nil =>
    cases h
    exact fun _ => .inl
  | cons set sets ih =>
    obtain ⟨m₁, hm₁, h⟩ := bind_eq_ok.mp h
    have htype : paramBodyType (set.octets ++ (setsOctets sets ++ tail)) = set.type :=
      ParamSet.paramBodyType_octets _
    have hbody : bodyRx crypto env m (paramBodyType (set.octets ++ (setsOctets sets ++ tail)))
        (set.octets ++ (setsOctets sets ++ tail)) = .ok m₁ := htype.symm ▸ hm₁
    have hkept := kept_bodyRx hbody
    have hfirst : ∀ key ∈ m₁.self.sakList, key ∈ m.self.sakList ∨ Matches saks key := by
      by_cases hdist : set.type = mkaDistributedSak
      · rw [hdist] at hm₁
        obtain ⟨⟨m₂, b⟩, hm₂, heq⟩ := bind_eq_ok.mp hm₁
        cases heq
        exact sakList_decodeDistSakBody haes hsaks hm₂ (hwf set mem_cons_self)
          (hsets set mem_cons_self hdist) hkek hmi
      · have hsaks := (bodyRx_hears hbody).saks.resolve_left (htype ▸ hdist)
        exact fun key hkey => .inl (hsaks ▸ hkey)
    have hrest := ih (fun set' hset' => hwf set' (mem_cons_of_mem set hset')) h
      (fun set' hset' => hsets set' (mem_cons_of_mem set hset'))
      ((congrArg Participant.Kept.kek hkept).trans hkek)
      ((congrArg (fun q : Participant.Kept => q.currentPeerId.mi) hkept).trans hmi)
    intro key hkey
    rcases hrest key hkey with hold | hnew
    · exact hfirst key hold
    · exact .inr hnew

/-- A frame of the server brings SAKs of the server. -/
lemma sakList_decodeMkpduFor {frame : Bytes}
    (h : decodeMkpduFor crypto env m (mkaOf frame) = .ok m')
    (hframe : Distributes crypto kek mi saks frame) (hkek : m.self.kek = kek) :
    ∀ key ∈ m'.self.sakList, key ∈ m.self.sakList ∨ Matches saks key := by
  obtain ⟨msg, ick, src, hwf, rfl, hmi, hsets⟩ := hframe
  have hbasic := basicDecoded env m msg.basic
  have hsaks₁ := hbasic.hears.saks.resolve_left not_false
  rw [Message.mkaOf_frame, msg.decodeMkpduFor_mka hwf, receiveSets] at h
  split_ifs at h with haccepted
  swap
  · cases h
    exact fun key hkey => .inl (hsaks₁ ▸ hkey)
  obtain ⟨m?, hm, h⟩ := bind_eq_ok.mp h
  cases m? with
  | none =>
    cases h
    exact fun key hkey => .inl (hsaks₁ ▸ hkey)
  | some m₂ =>
    obtain ⟨m₃, hm₃, h⟩ := bind_eq_ok.mp h
    cases h
    have hlive := liveAccepted hm
    have hhears := hbasic.hears.trans hlive.hears
    have hkek₂ : m₂.self.kek = m.self.kek := congrArg (·.kek) hhears.self
    have hsender : BasicDecoded env m msg.basic (decodeBasicBody env m msg.basic).1 true :=
      haccepted ▸ hbasic
    have hmi₂ : m₂.self.currentPeerId.mi = mi := by
      rw [hlive.currentPeerId_eq, hsender.sender.1]
      exact hmi
    have hm₃' := sakList_handleSets haes hsaks (msg.sets_wf hwf) hm₃ hsets (hkek₂.trans hkek) hmi₂
    rwa [hhears.saks.resolve_left not_false] at hm₃'

end Lists

lemma Participant.Agrees.mono {p p' : Participant} (h : p.Agrees kek saks k)
    (hkek : p'.kek = p.kek) (htrace : k.trace ⊆ k'.trace)
    (hsaks : ∀ key ∈ p'.sakList, key ∈ p.sakList ∨ (∃ i, .generatedSak i key ∈ k'.trace) ∨
      Matches saks key) : p'.Agrees kek saks k' := by
  refine ⟨hkek.trans h.kek, fun key hkey => ?_⟩
  rcases hsaks key hkey with hold | hnew
  · rcases h.saks key hold with ⟨i, hi⟩ | hmatch
    · exact .inl ⟨i, htrace hi⟩
    · exact .inr hmatch
  · exact hnew

lemma Kay.TraceBy.subset {i : ℕ} (h : k.TraceBy i k') : k.trace ⊆ k'.trace := by
  obtain ⟨new, htrace, -⟩ := h.trace
  exact htrace ▸ subset_append_right new k.trace

lemma CpTouched.agrees {p p' : Participant} (h : CpTouched k p k' p') (hp : p.Agrees kek saks k) :
    p'.Agrees kek saks k' := by
  have hkek : p'.kek = p.kek := congrArg (·.kek) h.self
  exact hp.mono hkek (h.traceBy p.id).subset fun key hkey => .inl (h.saks hkey)

/-- The timer brings no SAK of another one. -/
lemma participantTimerFor_agrees (h : participantTimerFor crypto env m = .ok m')
    (hp : m.self.Agrees kek saks m.kay) : m'.self.Agrees kek saks m'.kay := by
  obtain ⟨life, m₂, k, p, htimed, hsak, hsend, rfl⟩ := participantTimerFor_cases h
  have hm₁ : (timedPeers env m).self.Agrees kek saks (timedPeers env m).kay := by
    have hhears : Mka.Hears (KayEvent.Heard 0) False _ _ := htimed.hears
    exact hp.mono (congrArg (·.kek) hhears.self) (htimed.trace_eq ▸ .refl _) fun key hkey =>
      .inl (hhears.saks.resolve_left not_false ▸ hkey)
  refine (retried hsend).touched.agrees ?_
  cases hsak with
  | idle hnew => exact hm₁
  | refused hnew hcan => exact ⟨hm₁.kek, hm₁.saks⟩
  | generated hnew hcan nonce cp users =>
    refine hm₁.mono rfl (subset_cons_self _ _) fun key hkey => ?_
    rcases mem_cons.mp hkey with rfl | hold
    · exact .inr (.inl ⟨_, mem_cons_self⟩)
    · exact .inl hold

/-- The SAKs of the client are its own or match those of the server. -/
lemma agrees_invariant (haes : ∀ kek key, crypto.aesUnwrap kek (crypto.aesWrap kek key) = some key)
    (ckn : MkaKeyName) (cak : Octets 16)
    (hsaks : ∀ sak ∈ saks, sak.keyIdentifier.mi = mi ∧ sak.an < 4) :
    Invariant crypto (fun _ e => e.Shares ckn cak ∧ ∀ env frame, e = .receive env frame →
        Distributes crypto (crypto.kekTrfm cak ckn.octets) mi saks frame) (fun _ => True)
      (fun k p => p.Agrees (crypto.kekTrfm cak ckn.octets) saks k) where
  receive hcond _ _ _ hp hm' := by
    refine ⟨trivial, hp.mono (congrArg (·.kek) (decodeMkpduFor_hears hm').self)
      (follows_decodeMkpduFor hm').trace.subset fun key hkey => ?_⟩
    rcases sakList_decodeMkpduFor haes hsaks hm' (hcond.2 _ _ rfl) hp.kek key hkey with hold | hnew
    · exact .inl hold
    · exact .inr (.inr hnew)
  tick _ _ _ hp hm' := ⟨trivial, participantTimerFor_agrees hm' hp⟩
  cp _ _ _ _ hp hop := ⟨trivial, hop.touched.agrees hp⟩
  request hp := ⟨hp.kek, hp.saks⟩
  create hcond hcreates _ _ := by
    obtain ⟨rfl, rfl⟩ := hcond.1 _ _ hcreates
    exact ⟨rfl, nofun⟩
  quiet _ _ := trivial
  other hq htrace _ := hq.mono rfl htrace.subset fun _ => .inl

end Client

/-! ## Rejected SAKs -/

/-- A distributed SAK is rejected before anything is changed. -/
def RefusedAtOnce (m : Mka) (rest : Bytes) : Prop :=
  paramBodyLen rest ≠ 0 ∧ paramBodyLen rest ≠ 28 ∧ paramBodyLen rest < 36 ∨ acceptsDistSak m = false

instance (m : Mka) (rest : Bytes) : Decidable (RefusedAtOnce m rest) :=
  inferInstanceAs (Decidable (_ ∨ _))

/-- The KaY uses MACsec as advised, with the cipher suite of a distributed SAK if that is known. -/
structure Mka.SecuredAs (m : Mka) (rest : Bytes) : Prop where
  advised : m.self.advisedDesired
  secured : m.kay.setSecured = m.kay
  connect : m.cp.sm.connect = .secure
  suite : ∀ cs wrapped, wrappedSak rest = .ok (some (cs, wrapped)) → m.kay.macsecCsindex = cs

variable {crypto : Crypto} {env : Env} {m m' : Mka} {rest : Bytes}

/-- A rejected SAK may leave its cipher suite behind. -/
lemma decodeWrappedSak_of_rejected (h : decodeWrappedSak crypto env m rest = .ok (m', false)) :
    ∃ cs, m' = { m with kay.macsecCsindex := cs } ∧ (cs = m.kay.macsecCsindex ↔
      ∀ cs' wrapped, wrappedSak rest = .ok (some (cs', wrapped)) → m.kay.macsecCsindex = cs') := by
  obtain ⟨-, -, h⟩ := bind_eq_ok.mp h
  split_ifs at h with hknown
  · cases h
  obtain ⟨w?, hw, h⟩ := bind_eq_ok.mp h
  match w? with
  | none =>
    cases h
    exact ⟨m.kay.macsecCsindex, rfl,
      iff_of_true rfl fun cs' wrapped hw' => nomatch hw.symm.trans hw'⟩
  | some (cs, wrapped) =>
    refine ⟨cs, ?_, fun hcs cs' wrapped' hw' => ?_, fun hsuite => (hsuite cs wrapped hw).symm⟩
    swap
    · cases hw.symm.trans hw'
      exact hcs.symm
    have hunwrap : unwrapSak crypto env m (.ofOctets rest) cs wrapped = (m', false) :=
      Except.ok.inj h
    simp only [unwrapSak] at hunwrap
    split_ifs at hunwrap <;> cases hsak : crypto.aesUnwrap m.self.kek wrapped <;>
      simp only [hsak, Prod.mk.injEq, Bool.true_eq_false, and_false, and_true] at hunwrap <;>
      exact hunwrap.symm

/-- A distributed SAK that is rejected leaves the participant, the KaY and the variables of the CP
as they are in these cases and no others: it is rejected at once, or what the function sets for any
SAK with a body is set already. -/
theorem rejected_dist_sak_changes_nothing_iff
    (h : decodeDistSakBody crypto env m rest = .ok (m', false)) :
    m'.self = m.self ∧ m'.kay = m.kay ∧ m'.cp.sm = m.cp.sm ↔
      RefusedAtOnce m rest ∨ m.SecuredAs rest := by
  rw [decodeDistSakBody] at h
  split_ifs at h with hlen haccepts hzero
  · cases h
    exact iff_of_true ⟨rfl, rfl, rfl⟩ (.inl (.inl hlen))
  · cases h
    exact iff_of_true ⟨rfl, rfl, rfl⟩ (.inl (.inr (by simpa using haccepts)))
  · cases h
  obtain ⟨cs, rfl, hcs⟩ := decodeWrappedSak_of_rejected h
  constructor
  · rintro ⟨hself, hkay, hsm⟩
    refine .inr ⟨(congrArg (·.advisedDesired) hself).symm, ?_, (congrArg (·.connect) hsm).symm,
      hcs.mp (congrArg (·.macsecCsindex) hkay)⟩
    rw [← hkay]
    rfl
  · rintro ((hlen' | hrefused) | hset)
    · exact absurd hlen' hlen
    · exact absurd hrefused (by simpa using haccepts)
    refine ⟨?_, ?_, ?_⟩
    · rw [← hset.advised]
    · rw [hset.secured, hcs.mpr hset.suite]
      rfl
    · rw [CpPort.connectSecure, CpPort.setConnect, CpPort.smStep, ← hset.connect]

/-- A client with one live peer, its key server. -/
def sampleClient : Mka :=
  let m := sampleMember (Octets.zero 6) (sampleMi 1)
  { m with
    self.principal := true
    self.isKeyServer := false
    self.livePeers := [⟨m.self.currentPeerId.mi, 1, 0, m.kay.keyServerSci, true, 0, true,
      .notImplemented, false⟩] }

/-- A distributed SAK parameter set with a cipher suite that is not supported. -/
def unknownSuite : Bytes := [4, 0, 0, 36] ++ replicate 36 0

/-- A parameter set of a bad length is rejected and changes nothing. -/
theorem rejected_dist_sak_changes_nothing_of_short :
    ∃ m', decodeDistSakBody default (Env.benign 0) sampleClient [4, 0, 0, 1] = .ok (m', false) ∧
      m'.self = sampleClient.self ∧ m'.kay = sampleClient.kay ∧ m'.cp.sm = sampleClient.cp.sm := by
  have hlen : paramBodyLen [4, 0, 0, 1] ≠ 0 ∧ paramBodyLen [4, 0, 0, 1] ≠ 28 ∧
      paramBodyLen [4, 0, 0, 1] < 36 := by decide
  have h : decodeDistSakBody default (.benign 0) sampleClient [4, 0, 0, 1] =
      .ok (sampleClient, false) := by
    rw [decodeDistSakBody, if_pos hlen]
  exact ⟨sampleClient, h, (rejected_dist_sak_changes_nothing_iff h).mpr (.inl (.inl hlen))⟩

/-- A SAK for a cipher suite that is not supported is rejected, but the KaY is secured from then on,
the participant is advised to use MACsec, and the CP is told to connect. -/
theorem rejected_dist_sak_secures :
    ∃ m', decodeDistSakBody default (Env.benign 0) sampleClient unknownSuite = .ok (m', false) ∧
      sampleClient.kay.secured = false ∧ m'.kay.secured ∧
      sampleClient.self.advisedDesired = false ∧ m'.self.advisedDesired ∧
      sampleClient.cp.sm.connect = .pending ∧ m'.cp.sm.connect = .secure := by
  have h : ∃ r, decodeDistSakBody default (Env.benign 0) sampleClient unknownSuite = .ok r ∧
      r.2 = false ∧ sampleClient.kay.secured = false ∧ r.1.kay.secured ∧
      sampleClient.self.advisedDesired = false ∧ r.1.self.advisedDesired ∧
      sampleClient.cp.sm.connect = .pending ∧ r.1.cp.sm.connect = .secure := by decide +kernel
  obtain ⟨⟨m', accepted⟩, hr, hfalse, hset⟩ := h
  cases hfalse
  exact ⟨m', hr, hset⟩

end Hostapd.Pae
