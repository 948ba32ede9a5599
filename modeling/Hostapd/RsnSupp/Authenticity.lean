import Hostapd.RsnSupp.Effects

/-!
# Which frames the supplicant acts on

`wpa_sm_rx_eapol` is to decrypt key data, install keys and authorise the port only if the message
integrity code of its frame was verified under the pairwise key in the same call. Two kinds of
frames are exceptions: the key data of a frame without a message integrity code is decrypted if its
Encrypted Key Data bit is set, and a frame from the station of a direct link is verified under a key
of that link but handled like one of the access point.

Over an association the replay counters of the verified frames increase.
-/

namespace Hostapd.RsnSupp

open Wire Wpa Machine List

/-! ## One call -/

/-- The action hands a key to the driver or authorises the port. -/
def Action.installs : Action → Bool
  | .installPtk .. => true
  | .installGtk .. => true
  | .installIgtk .. => true
  | .portValid => true
  | _ => false

/-- The action needs an authenticated frame. -/
def Action.needsMic (a : Action) : Bool := a.installs || a == .decryptKeyData

variable (conf : Conf) (crypto : Crypto) (sm : Sm) (packet : Packet)

/-- The call begins with verifying the message integrity code of its frame, under the temporary PTK
or under the PTK. -/
def Verified : Prop :=
  ∃ key tmp, accepted conf sm packet = some (key, tmp) ∧
    (actions conf crypto sm packet).head? = some (.micVerified key.replayCounter) ∧
    ((sm.tptkSet ∧ micOk conf crypto sm.tptk key tmp) ∨
      (sm.ptkSet ∧ micOk conf crypto sm.ptk key tmp))

/-- The frame is a message 1/2 of WPA, and its key data is a group key. -/
structure CarriesWpaGtk (key : EapolKey) : Prop where
  wpa : conf.isRsn = false
  group : key.keyInfo.keyType = false
  notSmk : key.keyInfo.smkMessage = false
  mic : key.keyInfo.mic
  afterThird : sm.msg3Of4Ok
  gtk : (gtk1Of2Wpa conf crypto sm.ptk key key.keyData).isSome

/-- The frame of the call is accepted.  It has no message integrity code, or comes from a direct
link and is verified under a key of that link.  Its key data is encrypted or a group key. -/
def ActsUnverified : Prop :=
  ∃ key tmp, accepted conf sm packet = some (key, tmp) ∧
    (key.keyInfo.mic → StkVerified conf crypto key packet.src tmp sm) ∧
    (encrypted conf key ∨ CarriesWpaGtk conf crypto sm key)

variable {conf crypto sm packet} {ans : Answers} {peer : Bool} {key : EapolKey}
  {keyData tmp : Bytes} {sm' sm₁ : Sm}

/-- A frame without message integrity code installs nothing, and no frame is verified. -/
lemma Handled.grows_authentic (h : Handled conf crypto ans peer key keyData sm sm') :
    Grows (fun a => (a.installs → key.keyInfo.mic) ∧ a ≠ .decryptKeyData ∧
      ∀ c, a ≠ .micVerified c) sm sm' := by
  apply h.grows
  · intro _ snonce ptk
    exact ⟨nofun, nofun, nofun⟩
  · intro hmic alg rsc tk
    exact ⟨fun _ => hmic, nofun, nofun⟩
  intro ptk a _ ha
  match ha with
  | .sent _ | .deauthenticate => exact ⟨nofun, nofun, nofun⟩
  | .portValid hmic | .installGtk hmic _ _ | .installIgtk hmic _ =>
    exact ⟨fun _ => hmic, nofun, nofun⟩

/-- Keys are installed only for a frame with a code. -/
lemma handle_grows :
    Grows (fun a => (a.installs → key.keyInfo.mic) ∧ ∀ c, a ≠ .micVerified c)
      sm (handle conf crypto ans key sm peer) := by
  have hopened : Grows (fun a => (a.installs → key.keyInfo.mic) ∧ ∀ c, a ≠ .micVerified c)
      sm (opened conf key sm) := by
    refine opened_quiet.grows.mono ?_
    rintro a ⟨rfl, -⟩
    exact ⟨nofun, nofun⟩
  rcases @handle_cases conf crypto ans peer key sm with ⟨-, heq⟩ | ⟨keyData, -, hhandled⟩
  · rw [heq]
    exact hopened
  · refine hopened.trans (hhandled.grows_authentic.mono ?_)
    rintro a ⟨hinstalls, -, hmic⟩
    exact ⟨hinstalls, hmic⟩

/-! ### Frames that are acted on -/

lemma decryptKeyData_mem_handle (hencr : encrypted conf key) :
    ∃ acts, (handle conf crypto ans key sm peer).trace = sm.trace ++ .decryptKeyData :: acts := by
  have hopened : (opened conf key sm).trace = sm.trace ++ [.decryptKeyData] := by
    unfold opened
    rw [if_pos hencr]
    rfl
  rcases @handle_cases conf crypto ans peer key sm with ⟨-, heq⟩ | ⟨keyData, -, hhandled⟩
  · exact ⟨[], by rw [heq, hopened]⟩
  · obtain ⟨acts, hacts, -⟩ := hhandled.grows_authentic
    exact ⟨acts, by rw [hacts, hopened, append_assoc, singleton_append]⟩

lemma handle_of_not_encrypted (hencr : ¬ encrypted conf key) :
    handle conf crypto ans key sm peer = dispatch conf crypto ans key key.keyData peer sm := by
  simp only [handle, plainKeyData, hencr, if_false, Bool.false_eq_true]

/-- The installation of a group key is written to the trace before what follows it. -/
lemma installGtk_bind_trace {gd : GtkData} {rsc : Bytes} {f : Sm → Except Sm Sm}
    {P : Action → Prop} (hdeauth : P .deauthenticate) (hf : ∀ s, Ends (Quiet P s) (f s)) :
    ∃ a acts, a.installs ∧
      (finish (installGtk conf ans gd rsc sm >>= f)).trace = sm.trace ++ a :: acts := by
  unfold installGtk
  dsimp only
  split
  · obtain ⟨acts, hacts, -⟩ := (quiet_finish hdeauth (hf (sm.act _))).grows
    exact ⟨_, acts, rfl, hacts.trans (append_assoc _ _ _)⟩
  · exact ⟨_, [.deauthenticate], rfl, append_assoc _ _ _⟩

/-- A message 1/2 of WPA with a group key hands it to the driver, whoever sent it. -/
lemma installGtk_mem_handle (h : CarriesWpaGtk conf crypto sm key) :
    ∃ a acts, a.installs ∧
      (handle conf crypto ans key sm peer).trace = sm.trace ++ a :: acts := by
  obtain ⟨hwpa, hgroup, hsmk, hmic, hthird, hgtk⟩ := h
  obtain ⟨gd, hgd⟩ := Option.isSome_iff_exists.mp hgtk
  have hkeys : keys1Of2 conf crypto ans key key.keyData sm = (some gd, sm) := by
    rw [keys1Of2, if_neg (by simp [hwpa]), hgd]
  have hhandle : handle conf crypto ans key sm peer =
      process1Of2 conf crypto ans key key.keyData sm := by
    rw [handle_of_not_encrypted (by simp [encrypted, hwpa]), dispatch, hgroup, hsmk, hmic]
    rfl
  rw [hhandle, process1Of2, hthird, hkeys]
  refine @installGtk_bind_trace conf { sm with wpaState := .groupHandshake } ans gd _ _
    (fun a => ∃ ptk, Allowed conf crypto key key.keyData ptk a) ⟨sm.ptk, .deauthenticate⟩
    fun s => ?_
  have hsend : Ends (Quiet (Allowed conf crypto key key.keyData s.ptk) s) (do
      let t ← send2Of2 conf crypto ans key s
      return if sm.wpaState == .completed then { t with wpaState := .completed }
        else keyNegComplete key.keyInfo.secure t) := by
    refine .quiet_bind send2Of2_quiet fun t _ => ?_
    show Quiet _ _ _
    split
    · exact .of_eq rfl rfl
    · exact keyNegComplete_quiet hmic _
  exact hsend.mono fun t ht => ⟨ht.core_eq, ht.grows.mono fun a ha => ⟨_, ha⟩⟩

/-- Nothing that needs an authenticated frame is done for one that is not verified. -/
lemma handle_unneeded (hpeer : key.keyInfo.mic → peer) (hencr : ¬ encrypted conf key)
    (hgtk : ¬ CarriesWpaGtk conf crypto sm key) :
    Grows (fun a => a.needsMic = false) sm (handle conf crypto ans key sm peer) := by
  rw [handle_of_not_encrypted hencr]
  by_cases hmic : key.keyInfo.mic
  · have hdeauth : ∀ s : Sm, Grows (fun a => a.needsMic = false) s s.deauthenticate := fun s =>
      ⟨[.deauthenticate], rfl, by simp [Action.needsMic, Action.installs]⟩
    simp only [dispatch, hpeer hmic, hmic, if_true]
    split
    · split
      · exact .of_eq rfl
      · exact .of_eq rfl
    next hgroup =>
    split
    · exact .of_eq rfl
    next hsmk =>
    unfold process1Of2
    split
    · exact hdeauth sm
    next hthird =>
    have hkeys : keys1Of2 conf crypto ans key key.keyData sm = (none, sm) := by
      unfold keys1Of2
      split
      · next hrsn =>
        have hclear : key.keyInfo.encrKeyData = false := by simpa [encrypted, hrsn] using hencr
        split
        · rfl
        · next ie _ =>
          have hnone : gtk1Of2Rsn conf key ie = none := by
            unfold gtk1Of2Rsn
            split
            · rfl
            · simp [hclear]
          rw [hnone]
      · next hrsn =>
        have hnone : gtk1Of2Wpa conf crypto sm.ptk key key.keyData = none := by
          by_contra hsome
          exact hgtk ⟨by simpa using hrsn, by simpa using hgroup, by simpa using hsmk, hmic,
            by simpa using hthird, Option.isSome_iff_ne_none.mpr hsome⟩
        rw [hnone]
    rw [hkeys]
    exact hdeauth { sm with wpaState := .groupHandshake }
  · refine dispatch_handled.grows_authentic.mono ?_
    rintro a ⟨hinstalls, hdecrypt, -⟩
    have hnot : a.installs = false := by simpa using fun h => hmic (hinstalls h)
    simp [Action.needsMic, hnot, hdecrypt]

/-! ### Verified frames -/

/-- A frame verified under the PTK. -/
lemma verified_of_checked (hacc : accepted conf sm packet = some (key, tmp))
    (hverify : verifyEapolKeyMic conf crypto key tmp sm = some sm₁)
    (hrx : rxEapol conf crypto sm packet = handle conf crypto packet.ans key sm₁ peer) :
    Verified conf crypto sm packet := by
  obtain ⟨acts, hacts, -⟩ := @handle_grows conf crypto sm₁ packet.ans peer key
  rcases verifyEapolKeyMic_cases hverify with ⟨htptk, hok, heq⟩ | ⟨-, hptk, hok, heq⟩
  · refine ⟨key, tmp, hacc, ?_, .inl ⟨htptk, hok⟩⟩
    rw [actions, hrx, hacts, heq, verified, Sm.act, Sm.confirm, append_assoc, drop_left]
    rfl
  · refine ⟨key, tmp, hacc, ?_, .inr ⟨hptk, hok⟩⟩
    rw [actions, hrx, hacts, heq, verified, Sm.act, append_assoc, drop_left]
    rfl

lemma not_verified_of_trace (htrace : sm₁.trace = sm.trace)
    (hrx : rxEapol conf crypto sm packet = handle conf crypto ans key sm₁ peer) :
    ¬ Verified conf crypto sm packet := by
  rintro ⟨key', tmp', -, hhead, -⟩
  obtain ⟨acts, hacts, hall⟩ := @handle_grows conf crypto sm₁ ans peer key
  rw [actions, hrx, hacts, htrace, drop_left] at hhead
  exact (hall _ (mem_of_mem_head? hhead)).2 _ rfl

/-- A call that does something has verified its frame under the PTK, or handles a frame that has no
code or one of a direct link. -/
lemma verified_or_handled {a : Action} (ha : a ∈ actions conf crypto sm packet) :
    Verified conf crypto sm packet ∨
      ∃ key tmp peerkeys, accepted conf sm packet = some (key, tmp) ∧
        (key.keyInfo.mic → StkVerified conf crypto key packet.src tmp sm) ∧
        rxEapol conf crypto sm packet = handle conf crypto packet.ans key { sm with peerkeys }
          (sm.peerkey packet.src).isSome := by
  rcases rxEapol_cases conf crypto sm packet with ⟨_, hrx⟩ | ⟨key, tmp, sm₁, hacc, hchecked, hrx⟩
  · rw [actions, hrx, drop_length] at ha
    cases ha
  rcases checked_cases hchecked with ⟨-, -, hverify⟩ | ⟨hstk, peerkeys, rfl⟩
  · exact .inl (verified_of_checked hacc hverify hrx)
  · exact .inr ⟨key, tmp, peerkeys, hacc, hstk, hrx⟩

/-- A call that acts on a frame has verified it, unless the frame is of the kinds that
`ActsUnverified` lists. -/
lemma verified_of_needsMic (hnot : ¬ ActsUnverified conf crypto sm packet) {a : Action}
    (ha : a ∈ actions conf crypto sm packet) (hneeds : a.needsMic) :
    Verified conf crypto sm packet := by
  obtain hverified | ⟨key, tmp, peerkeys, hacc, hstk, hrx⟩ := verified_or_handled ha
  · exact hverified
  have hpeer : key.keyInfo.mic → (sm.peerkey packet.src).isSome := by
    intro hmic
    obtain ⟨peer, hpeer, -⟩ := hstk hmic
    rw [hpeer]
    rfl
  obtain ⟨acts, hacts, hall⟩ := @handle_unneeded conf crypto { sm with peerkeys } packet.ans
    (sm.peerkey packet.src).isSome key hpeer (fun hencr => hnot ⟨key, tmp, hacc, hstk, .inl hencr⟩)
    fun hgtk => hnot ⟨key, tmp, hacc, hstk, .inr { hgtk with }⟩
  rw [actions, hrx, hacts, drop_left] at ha
  exact absurd hneeds (by simp [hall a ha])

/-- A frame that `ActsUnverified` lists is acted on without having been verified. -/
lemma ActsUnverified.acts (h : ActsUnverified conf crypto sm packet) :
    ∃ a ∈ actions conf crypto sm packet, a.needsMic ∧ ¬ Verified conf crypto sm packet := by
  obtain ⟨key, tmp, hacc, hstk, hacts⟩ := h
  obtain ⟨peerkeys, hchecked⟩ := checked_of_stkVerified hstk
  have hrx : rxEapol conf crypto sm packet = handle conf crypto packet.ans key { sm with peerkeys }
      (sm.peerkey packet.src).isSome := by
    simp only [rxEapol, hacc, hchecked]
  have hverified : ¬ Verified conf crypto sm packet :=
    not_verified_of_trace (show { sm with peerkeys }.trace = sm.trace from rfl) hrx
  rcases hacts with hencr | hgtk
  · obtain ⟨acts, htrace⟩ := @decryptKeyData_mem_handle conf crypto { sm with peerkeys } packet.ans
      (sm.peerkey packet.src).isSome key hencr
    refine ⟨.decryptKeyData, ?_, rfl, hverified⟩
    rw [actions, hrx, htrace, drop_left]
    exact mem_cons_self
  · have hgtk' : CarriesWpaGtk conf crypto { sm with peerkeys } key := { hgtk with }
    obtain ⟨a, acts, hinstalls, htrace⟩ := @installGtk_mem_handle conf crypto _ packet.ans
      (sm.peerkey packet.src).isSome key hgtk'
    refine ⟨a, ?_, by simp [Action.needsMic, hinstalls], hverified⟩
    rw [actions, hrx, htrace, drop_left]
    exact mem_cons_self

/-- A call installs keys or authorises the port only after it verified its frame, if the frame does
not come from a direct link. -/
lemma verified_of_installs (hpeer : sm.peerkey packet.src = none) {a : Action}
    (ha : a ∈ actions conf crypto sm packet) (hinstalls : a.installs) :
    Verified conf crypto sm packet := by
  obtain hverified | ⟨key, tmp, peerkeys, -, hstk, hrx⟩ := verified_or_handled ha
  · exact hverified
  obtain ⟨acts, hacts, hall⟩ := @handle_grows conf crypto { sm with peerkeys } packet.ans
    (sm.peerkey packet.src).isSome key
  rw [actions, hrx, hacts, drop_left] at ha
  obtain ⟨peer, hsome, -⟩ := hstk ((hall a ha).1 hinstalls)
  cases hpeer.symm.trans hsome

/-! ## An association -/

/-- The replay counters of verified frames. -/
def verifiedCounters (trace : List Action) : List ℕ :=
  trace.filterMap fun
    | .micVerified c => some c
    | _ => none

/-- The counters of the verified frames increase, and the last one is kept. -/
structure CountersIncrease (sm : Sm) : Prop where
  pairwise : (verifiedCounters sm.trace).Pairwise (· < ·)
  le_last : ∀ c ∈ verifiedCounters sm.trace, sm.rxReplayCounterSet ∧ c ≤ sm.rxReplayCounter

lemma Grows.verifiedCounters_eq {P : Action → Prop} (h : Grows P sm sm')
    (hP : ∀ a, P a → ∀ c, a ≠ .micVerified c) :
    verifiedCounters sm'.trace = verifiedCounters sm.trace := by
  obtain ⟨acts, hacts, hall⟩ := h
  have hnone : verifiedCounters acts = [] := by
    unfold verifiedCounters
    rw [filterMap_eq_nil_iff]
    intro a ha
    have hne := hP a (hall a ha)
    cases a with
    | micVerified c => exact absurd rfl (hne c)
    | _ => rfl
  rw [hacts, verifiedCounters, filterMap_append]
  exact (congrArg _ hnone).trans (append_nil _)

/-- A frame is verified with a larger counter only. -/
lemma CountersIncrease.rxEapol (h : CountersIncrease sm) :
    CountersIncrease (rxEapol conf crypto sm packet) := by
  rcases rxEapol_cases conf crypto sm packet with ⟨_, hrx⟩ | ⟨key, tmp, sm₁, hacc, hchecked, hrx⟩
  · rw [hrx]
    exact { h with }
  rw [hrx]
  set peer := (sm.peerkey packet.src).isSome
  have hcounters : verifiedCounters (handle conf crypto packet.ans key sm₁ peer).trace =
      verifiedCounters sm₁.trace := handle_grows.verifiedCounters_eq fun _ ha => ha.2
  obtain ⟨hlast, hset⟩ := @handle_rxReplayCounter conf crypto packet.ans peer key sm₁
  rcases checked_cases hchecked with ⟨-, hpeer, hverify⟩ | ⟨-, peerkeys, rfl⟩
  · have hverified : sm₁.rxReplayCounter = key.replayCounter ∧ sm₁.rxReplayCounterSet ∧
        sm₁.trace = sm.trace ++ [.micVerified key.replayCounter] := by
      rcases verifyEapolKeyMic_cases hverify with ⟨-, -, rfl⟩ | ⟨-, -, -, rfl⟩
      · exact ⟨rfl, rfl, rfl⟩
      · exact ⟨rfl, rfl, rfl⟩
    obtain ⟨hcounter, hcounted, htrace⟩ := hverified
    have hnew : verifiedCounters sm₁.trace = verifiedCounters sm.trace ++ [key.replayCounter] := by
      rw [htrace, verifiedCounters, filterMap_append]
      rfl
    -- The frame was accepted, so its counter is above the last one and so above all of them.
    have habove : ∀ c ∈ verifiedCounters sm.trace, c < key.replayCounter := by
      intro c hc
      obtain ⟨hcset, hle⟩ := h.le_last c hc
      exact lt_of_le_of_lt hle (accepted_counter hacc hpeer hcset)
    refine ⟨?_, ?_⟩
    · rw [hcounters, hnew, pairwise_append]
      refine ⟨h.pairwise, pairwise_singleton _ _, ?_⟩
      intro c hc d hd
      rw [mem_singleton.mp hd]
      exact habove c hc
    · intro c hc
      rw [hcounters, hnew] at hc
      rw [hlast, hset, hcounter, hcounted]
      refine ⟨rfl, ?_⟩
      rcases mem_append.mp hc with hc | hc
      · exact (habove c hc).le
      · exact (mem_singleton.mp hc).le
  · refine ⟨by rw [hcounters]; exact h.pairwise, ?_⟩
    rw [hcounters, hlast, hset]
    exact h.le_last

lemma countersIncrease_run {sm₀ : Sm} {packets : List Packet}
    (hrun : run (receive conf crypto) (notifyAssoc sm₀) packets = .ok sm) :
    CountersIncrease sm := by
  have hstart : CountersIncrease (notifyAssoc sm₀) :=
    ⟨.nil, by simp [notifyAssoc, verifiedCounters]⟩
  refine run_induction ?_ hstart hrun
  intro s packet s' hs hstep
  cases hstep
  split
  · exact hs
  · exact hs.rxEapol

/-! ## The result -/

/-- The supplicant decrypts key data, installs keys and authorises the port after it verified the
frame under a pairwise key exactly if the frame is not one of those that `ActsUnverified` lists.  It
installs and authorises after that in any case if the frame does not come from a direct link.  In an
association the replay counters of the verified frames increase. -/
theorem acts_on_authenticated_frames (conf : Conf) (crypto : Crypto) :
    (∀ sm packet,
      ((∀ a ∈ actions conf crypto sm packet, a.needsMic → Verified conf crypto sm packet) ↔
        ¬ ActsUnverified conf crypto sm packet) ∧
      (sm.peerkey packet.src = none →
        ∀ a ∈ actions conf crypto sm packet, a.installs → Verified conf crypto sm packet)) ∧
    (∀ sm₀ packets sm, run (receive conf crypto) (notifyAssoc sm₀) packets = .ok sm →
      (verifiedCounters sm.trace).Pairwise (· < ·)) := by
  refine ⟨fun sm packet => ⟨⟨?_, ?_⟩, fun hpeer a => verified_of_installs hpeer⟩, ?_⟩
  · intro h hacts
    obtain ⟨a, ha, hneeds, hnot⟩ := hacts.acts
    exact hnot (h a ha hneeds)
  · intro hnot a ha hneeds
    exact verified_of_needsMic hnot ha hneeds
  · intro sm₀ packets sm hrun
    exact (countersIncrease_run hrun).pairwise

/-- A handshake in which message 3/4 comes twice: the two verified frames have increasing
counters. -/
theorem acts_on_authenticated_frames_of_handshake :
    Returns (run (receive Conf.sample Crypto.sample) (notifyAssoc {})
      [{ buf := (sample1Of4 1 (sampleNonce 5)).encode },
        { buf := (sample3Of4 2 (sampleNonce 5) (sampleNonce 0) (Octets.zero 8) []).encode },
        { buf := (sample3Of4 3 (sampleNonce 5) (sampleNonce 0) (Octets.zero 8) []).encode }])
      fun sm => verifiedCounters sm.trace = [2, 3] ∧
        (verifiedCounters sm.trace).Pairwise (· < ·) := by
  refine exists_ok (by decide +kernel) fun sm hrun _ => ?_
  exact (acts_on_authenticated_frames Conf.sample Crypto.sample).2 _ _ sm hrun

/-- Message 1/4 with the Encrypted Key Data bit. -/
def unverifiedFrame : EapolKey :=
  { sample1Of4 9 (sampleNonce 5) with
    keyInfo := { ver := KeyInfo.hmacSha1Aes, keyType := true, ack := true, encrKeyData := true }
    keyData := replicate 16 0 }

/-- Key data is decrypted although no message integrity code was verified in the call. -/
theorem decrypts_unverified_key_data :
    let packet : Packet := { buf := unverifiedFrame.encode }
    .decryptKeyData ∈ actions Conf.sample Crypto.sample { ptkSet := true } packet ∧
      ¬ Verified Conf.sample Crypto.sample { ptkSet := true } packet := by
  intro packet
  have hhead : (actions Conf.sample Crypto.sample { ptkSet := true } packet).head? =
      some .decryptKeyData := by decide +kernel
  refine ⟨mem_of_mem_head? hhead, ?_⟩
  rintro ⟨key, tmp, -, hverified, -⟩
  cases hhead.symm.trans hverified

end Hostapd.RsnSupp
