import Hostapd.RsnSupp.Sm

/-!
# What handling a frame does

`Quiet P` says that a part of a handler leaves the keys, nonces and counters (`Core`) alone and
writes only actions with `P` to the trace; most of the code is quiet. What is not is named: the
derivation of a temporary PTK in message 1/4, and the SNonce being marked as used and the temporal
key being handed over in message 3/4. Whatever the frame is, `handle` does one of the things that
`Handled` lists.
-/

namespace Hostapd.RsnSupp

open Wire Wpa List

/-! ## Quiet steps -/

/-- The keys, nonces and counters of the state machine. -/
structure Core where
  pmk : Bytes
  ptk : Ptk
  tptk : Ptk
  ptkSet : Bool
  tptkSet : Bool
  tkToSet : Bool
  snonce : Nonce
  anonce : Nonce
  renewSnonce : Bool
  rxReplayCounter : ℕ
  rxReplayCounterSet : Bool

/-- The part that quiet code leaves alone. -/
def Sm.core (sm : Sm) : Core where
  pmk := sm.pmk
  ptk := sm.ptk
  tptk := sm.tptk
  ptkSet := sm.ptkSet
  tptkSet := sm.tptkSet
  tkToSet := sm.tkToSet
  snonce := sm.snonce
  anonce := sm.anonce
  renewSnonce := sm.renewSnonce
  rxReplayCounter := sm.rxReplayCounter
  rxReplayCounterSet := sm.rxReplayCounterSet

/-- The trace grows by actions with `P`. -/
def Grows (P : Action → Prop) (sm sm' : Sm) : Prop :=
  ∃ acts, sm'.trace = sm.trace ++ acts ∧ ∀ a ∈ acts, P a

/-- Keys, nonces and counters stay, and the trace grows by actions with `P`. -/
structure Quiet (P : Action → Prop) (sm sm' : Sm) : Prop where
  core_eq : sm'.core = sm.core
  grows : Grows P sm sm'

variable {P Q : Action → Prop} {sm sm₁ sm₂ : Sm}

lemma Grows.of_eq (h : sm₁.trace = sm.trace) : Grows P sm sm₁ := ⟨[], by simpa using h, by simp⟩

lemma Grows.trans (h₁ : Grows P sm sm₁) (h₂ : Grows P sm₁ sm₂) : Grows P sm sm₂ := by
  obtain ⟨as, has, hP⟩ := h₁
  obtain ⟨bs, hbs, hQ⟩ := h₂
  refine ⟨as ++ bs, by rw [hbs, has, append_assoc], ?_⟩
  intro a ha
  rcases mem_append.mp ha with h | h
  · exact hP a h
  · exact hQ a h

lemma Grows.mono (h : Grows P sm sm₁) (hPQ : ∀ a, P a → Q a) : Grows Q sm sm₁ := by
  obtain ⟨acts, hacts, hP⟩ := h
  exact ⟨acts, hacts, fun a ha => hPQ a (hP a ha)⟩

lemma Quiet.of_eq (hcore : sm₁.core = sm.core) (htrace : sm₁.trace = sm.trace) :
    Quiet P sm sm₁ := ⟨hcore, .of_eq htrace⟩

lemma Quiet.refl (sm : Sm) : Quiet P sm sm := .of_eq rfl rfl

lemma Quiet.trans (h₁ : Quiet P sm sm₁) (h₂ : Quiet P sm₁ sm₂) : Quiet P sm sm₂ :=
  ⟨h₂.core_eq.trans h₁.core_eq, h₁.grows.trans h₂.grows⟩

lemma Quiet.act {a : Action} (h : P a) : Quiet P sm (sm.act a) :=
  ⟨rfl, [a], rfl, by simpa using h⟩

lemma Quiet.deauthenticate (h : P .deauthenticate) : Quiet P sm sm.deauthenticate :=
  ⟨rfl, [.deauthenticate], rfl, by simpa using h⟩

lemma Quiet.rxReplayCounter_eq (h : Quiet P sm sm₁) :
    sm₁.rxReplayCounter = sm.rxReplayCounter ∧ sm₁.rxReplayCounterSet = sm.rxReplayCounterSet :=
  ⟨congrArg Core.rxReplayCounter h.core_eq, congrArg Core.rxReplayCounterSet h.core_eq⟩

lemma Quiet.setAnonce (h : Quiet P sm sm₁) (anonce : Nonce) :
    Quiet P { sm with anonce } { sm₁ with anonce } :=
  ⟨congrArg (fun core : Core => { core with anonce }) h.core_eq, h.grows⟩

lemma Quiet.setRenewSnonce (h : Quiet P sm sm₁) (renewSnonce : Bool) :
    Quiet P { sm with renewSnonce } { sm₁ with renewSnonce } :=
  ⟨congrArg (fun core : Core => { core with renewSnonce }) h.core_eq, h.grows⟩

/-! ## Results of a handler -/

/-- A handler ends in a state with `R`, at its end or at its `failed` label. -/
def Ends (R : Sm → Prop) : Except Sm Sm → Prop
  | .ok sm => R sm
  | .error sm => R sm

variable {P : Action → Prop} {R R' : Sm → Prop} {sm : Sm} {x : Except Sm Sm} {f : Sm → Except Sm Sm}

lemma Ends.mono (hx : Ends R x) (h : ∀ s, R s → R' s) : Ends R' x := by
  cases x with
  | ok s => exact h s hx
  | error s => exact h s hx

lemma Ends.quiet_bind (hx : Ends (Quiet P sm) x)
    (hf : ∀ s, s.core = sm.core → Ends (Quiet P s) (f s)) : Ends (Quiet P sm) (x >>= f) := by
  cases x with
  | ok s => exact (hf s hx.core_eq).mono fun s' hs' => .trans hx hs'
  | error s => exact hx

lemma quiet_finish (h : P .deauthenticate) (hx : Ends (Quiet P sm) x) : Quiet P sm (finish x) := by
  cases x with
  | ok s => exact hx
  | error s => exact .trans (show Quiet P sm s from hx) (.deauthenticate h)

/-! ## Actions -/

/-- The message integrity code of a frame is made with a key. -/
def Signed (conf : Conf) (crypto : Crypto) (ptk : Ptk) (frame : EapolKey) : Prop :=
  ∃ (unsigned : EapolKey) (mic : Bytes),
    crypto.eapolKeyMic ptk.kck conf.keyMgmt unsigned.keyInfo.ver unsigned.encode = some mic ∧
    unsigned.keyMic = replicate conf.keyMgmt.micLen 0 ∧
    frame = { unsigned with keyMic := mic.takeD conf.keyMgmt.micLen 0 }

/-- The group key that a frame carries: in its elements, or for message 1/2 of WPA as its encrypted
key data. -/
def carriedGtk (conf : Conf) (crypto : Crypto) (ptk : Ptk) (key : EapolKey)
    (keyData : Bytes) : Option GtkData :=
  if key.keyInfo.keyType ∨ conf.isRsn then
    (parseIes keyData).bind fun ie => ie.gtk.bind (gtkOfKde conf)
  else gtk1Of2Wpa conf crypto ptk key keyData

/-- The index, the packet number and the octets of the management group key that a frame carries. -/
def carriedIgtk (conf : Conf) (keyData : Bytes) : Option (ℕ × Bytes × Bytes) :=
  (parseIes keyData).bind fun ie => ie.igtk.bind (igtkOfKde conf)

/-- What a handler may do besides deriving and handing over pairwise keys. -/
inductive Allowed (conf : Conf) (crypto : Crypto) (key : EapolKey) (keyData : Bytes)
    (ptk : Ptk) : Action → Prop
  | sent {frame : EapolKey} (signed : Signed conf crypto ptk frame) :
    Allowed conf crypto key keyData ptk (.sent frame)
  | deauthenticate : Allowed conf crypto key keyData ptk .deauthenticate
  | portValid (mic : key.keyInfo.mic) : Allowed conf crypto key keyData ptk .portValid
  | installGtk {gd : GtkData} (mic : key.keyInfo.mic)
    (carried : carriedGtk conf crypto ptk key keyData = some gd) (tx : Bool) :
    Allowed conf crypto key keyData ptk (.installGtk gd.alg gd.keyidx tx
      ((relaxedRsc conf key.keyRsc).take gd.keyRscLen) (driverGtk conf gd.gtk))
  | installIgtk {keyidx : ℕ} {pn octets : Bytes} (mic : key.keyInfo.mic)
    (carried : carriedIgtk conf keyData = some (keyidx, pn, octets)) :
    Allowed conf crypto key keyData ptk (.installIgtk conf.mgmtGroupCipher.toAlg keyidx pn octets)

lemma carriedGtk_of_elements {conf : Conf} {crypto : Crypto} {ptk : Ptk} {key : EapolKey}
    {keyData gtk : Bytes} {ie : EapolIeParse} {gd : GtkData}
    (helements : key.keyInfo.keyType ∨ conf.isRsn)
    (hparse : parseIes keyData = some ie) (hgtk : ie.gtk = some gtk)
    (hgd : gtkOfKde conf gtk = some gd) : carriedGtk conf crypto ptk key keyData = some gd := by
  unfold carriedGtk
  rw [if_pos helements, hparse]
  simp only [Option.bind_some, hgtk, hgd]

/-! ## The parts of the handlers -/

section Parts

variable {conf : Conf} {crypto : Crypto} {ans : Answers} {key : EapolKey} {keyData : Bytes}
  {ptk : Ptk} {ie : EapolIeParse} {sm : Sm}

lemma eapolKeySend_quiet {frame : EapolKey}
    (hmic : frame.keyMic = replicate conf.keyMgmt.micLen 0) :
    Ends (Quiet (Allowed conf crypto key keyData ptk) sm)
      (eapolKeySend conf crypto ans ptk.kck frame sm) := by
  unfold eapolKeySend
  split
  · exact .refl sm
  next mic hmicOf =>
  split
  · exact .act (.sent ⟨frame, mic, hmicOf, hmic, rfl⟩)
  · exact .refl sm

lemma send2Of4_quiet :
    Ends (Quiet (Allowed conf crypto key keyData sm.tptk) sm)
      (send2Of4 conf crypto ans key sm) := by
  unfold send2Of4
  split
  · exact .refl sm
  · exact eapolKeySend_quiet rfl

lemma send4Of4_quiet :
    Ends (Quiet (Allowed conf crypto key keyData sm.ptk) sm) (send4Of4 conf crypto ans key sm) := by
  exact eapolKeySend_quiet rfl

lemma send2Of2_quiet :
    Ends (Quiet (Allowed conf crypto key keyData sm.ptk) sm) (send2Of2 conf crypto ans key sm) := by
  exact eapolKeySend_quiet rfl

section

variable (hmic : key.keyInfo.mic)

include hmic

lemma installGtk_quiet {gd : GtkData} (hgd : carriedGtk conf crypto ptk key keyData = some gd) :
    Ends (Quiet (Allowed conf crypto key keyData ptk) sm)
      (installGtk conf ans gd (relaxedRsc conf key.keyRsc) sm) := by
  unfold installGtk
  dsimp only
  split
  · exact .act (.installGtk hmic hgd _)
  · exact .act (.installGtk hmic hgd _)

lemma keyNegComplete_quiet (secure : Bool) :
    Quiet (Allowed conf crypto key keyData ptk) sm (keyNegComplete secure sm) := by
  have hstate : Quiet (Allowed conf crypto key keyData ptk) sm { sm with wpaState := .completed } :=
    .of_eq rfl rfl
  unfold keyNegComplete
  split
  · exact hstate.trans (.act (.portValid hmic))
  · exact hstate

lemma pairwiseGtk_quiet {gtk : Bytes} (hpairwise : key.keyInfo.keyType)
    (hparse : parseIes keyData = some ie) (hgtk : ie.gtk = some gtk) :
    Ends (Quiet (Allowed conf crypto key keyData ptk) sm) (pairwiseGtk conf ans key gtk sm) := by
  unfold pairwiseGtk
  split
  · exact .refl sm
  split
  · exact keyNegComplete_quiet hmic _
  split
  · exact .refl sm
  · next gd hgd =>
    refine .quiet_bind (installGtk_quiet hmic ?_) fun s _ => keyNegComplete_quiet hmic _
    exact carriedGtk_of_elements (.inl hpairwise) hparse hgtk hgd

lemma setIgtk_quiet (hparse : parseIes keyData = some ie) :
    Ends (Quiet (Allowed conf crypto key keyData ptk) sm) (setIgtk conf ans ie sm) := by
  unfold setIgtk
  split
  · exact .refl sm
  split
  · exact .refl sm
  next igtk higtk =>
  split
  · exact .refl sm
  next keyidx pn octets hkde =>
  have hcarried : carriedIgtk conf keyData = some (keyidx, pn, octets) := by
    unfold carriedIgtk
    rw [hparse]
    simp only [Option.bind_some, higtk, hkde]
  split
  · exact .act (.installIgtk hmic hcarried)
  · exact .act (.installIgtk hmic hcarried)

end

lemma validateIe_quiet :
    Ends (Quiet (Allowed conf crypto key keyData ptk) sm) (validateIe conf ans ie sm) := by
  have hlookup : Quiet (Allowed conf crypto key keyData ptk) sm (lookupBeaconIe ans sm) := by
    unfold lookupBeaconIe
    split
    · split
      · exact .refl sm
      · exact .of_eq rfl rfl
    · exact .refl sm
  unfold validateIe
  dsimp only
  split
  · exact hlookup
  · exact hlookup.trans (.deauthenticate .deauthenticate)

end Parts

/-! ## The handlers -/

/-- The temporal key is handed to the driver. -/
def handOver (conf : Conf) (key : EapolKey) (sm : Sm) : Sm :=
  let rsc := if conf.isRsn then replicate 8 0 else key.keyRsc.val
  let sm := sm.act (.installPtk conf.pairwiseCipher.toAlg (rsc.take conf.pairwiseCipher.rscLen)
    (sm.ptk.tk.take conf.pairwiseCipher.keyLen))
  { sm with ptk := { sm.ptk with tk := replicate 32 0 }, tkToSet := false }

/-- The temporal key is handed to the driver, which refuses it; the association ends. -/
def handOverRefused (conf : Conf) (key : EapolKey) (sm : Sm) : Sm :=
  let rsc := if conf.isRsn then replicate 8 0 else key.keyRsc.val
  (sm.act (.installPtk conf.pairwiseCipher.toAlg (rsc.take conf.pairwiseCipher.rscLen)
    (sm.ptk.tk.take conf.pairwiseCipher.keyLen))).deauthenticate

/-- The frame is message 3/4 for the ANonce in use. -/
structure IsThird (peer : Bool) (key : EapolKey) (sm : Sm) : Prop where
  peer_eq : peer = false
  mic : key.keyInfo.mic
  pairwise : key.keyInfo.keyType
  anonce_eq : sm.anonce = key.keyNonce

/-- Message 3/4 hands over the temporal key in the state `sm₁`. -/
structure HandsOver (conf : Conf) (crypto : Crypto) (peer : Bool) (key : EapolKey)
    (keyData : Bytes) (sm sm₁ : Sm) : Prop extends IsThird peer key sm where
  tkToSet : sm.tkToSet
  valid : conf.pairwiseCipher.validPairwise
  before : Quiet (Allowed conf crypto key keyData sm.ptk) { sm with renewSnonce := true } sm₁

/-- The ways in which a frame is handled. -/
inductive Handled (conf : Conf) (crypto : Crypto) (ans : Answers) (peer : Bool) (key : EapolKey)
    (keyData : Bytes) (sm sm' : Sm) : Prop
  | quiet (grows : Quiet (Allowed conf crypto key keyData sm.ptk) sm sm')
  | pmk {pmk : Bytes} (answer : ans.pmk = .key pmk)
    (grows : Quiet (Allowed conf crypto key keyData sm.ptk) { sm with pmk } sm')
  /-- Message 1/4: a temporary PTK is derived, with a new SNonce if the last one was used.  The
  ANonce is taken over unless the association ends. -/
  | first {sm₁ : Sm} {pmk : Bytes} {snonce : Nonce} (mic : key.keyInfo.mic = false)
    (pmk_eq : pmk = sm.pmk ∨ ans.pmk = .key pmk)
    (snonce_eq : if sm.renewSnonce then ans.snonce = some snonce else snonce = sm.snonce)
    (derived : sm₁ =
      deriveTptk conf crypto key.keyNonce { sm with pmk, snonce, renewSnonce := false })
    (grows : Quiet (Allowed conf crypto key keyData sm₁.tptk) { sm₁ with anonce := key.keyNonce }
        sm' ∨
      (Quiet (Allowed conf crypto key keyData sm₁.tptk) sm₁ sm' ∧ sm'.deauthenticated))
  | third (third : IsThird peer key sm)
    (grows : Quiet (Allowed conf crypto key keyData sm.ptk) { sm with renewSnonce := true } sm')
  | install {sm₁ : Sm} (handed : HandsOver conf crypto peer key keyData sm sm₁)
    (after : Quiet (Allowed conf crypto key keyData sm.ptk) (handOver conf key sm₁) sm')
  /-- The driver refuses the temporal key. -/
  | refused {sm₁ : Sm} (handed : HandsOver conf crypto peer key keyData sm sm₁)
    (eq : sm' = handOverRefused conf key sm₁)

variable {conf : Conf} {crypto : Crypto} {ans : Answers} {peer : Bool} {key : EapolKey}
  {keyData pmk tmp : Bytes} {src : Mac} {packet : Packet} {sm sm' s sm₁ : Sm}

lemma Handled.of_ends {x : Except Sm Sm}
    (hx : Ends (Quiet (Allowed conf crypto key keyData sm.ptk) sm) x) :
    Handled conf crypto ans peer key keyData sm (finish x) :=
  .quiet (quiet_finish .deauthenticate hx)

lemma Handled.bind {x : Except Sm Sm} {f : Sm → Except Sm Sm}
    (hx : Ends (Quiet (Allowed conf crypto key keyData sm.ptk) sm) x)
    (hf : ∀ s, Quiet (Allowed conf crypto key keyData sm.ptk) sm s →
      Handled conf crypto ans peer key keyData sm (finish (f s))) :
    Handled conf crypto ans peer key keyData sm (finish (x >>= f)) := by
  cases x with
  | ok s => exact hf s hx
  | error s => exact .of_ends hx

lemma Handled.of_pmk (hpmk : pmk = sm.pmk ∨ ans.pmk = .key pmk)
    (h : Quiet (Allowed conf crypto key keyData sm.ptk) { sm with pmk } sm') :
    Handled conf crypto ans peer key keyData sm sm' := by
  rcases hpmk with rfl | hans
  · exact .quiet ⟨h.core_eq, h.grows⟩
  · exact .pmk hans h

/-- A new SNonce is drawn if the last one was used. -/
lemma renew_cases (ans : Answers) (sm : Sm) :
    renew ans sm = .error sm ∨ ∃ snonce,
      (if sm.renewSnonce then ans.snonce = some snonce else snonce = sm.snonce) ∧
      renew ans sm = .ok { sm with snonce, renewSnonce := false } := by
  cases hrenew : sm.renewSnonce with
  | false => exact .inr ⟨sm.snonce, by simp, by rw [renew, if_neg (by simp [hrenew]), ← hrenew]⟩
  | true =>
    cases hsnonce : ans.snonce with
    | none => exact .inl (by simp [renew, hrenew, hsnonce])
    | some snonce => exact .inr ⟨snonce, by simp, by simp [renew, hrenew, hsnonce]⟩

/-- The answer to message 1/4. -/
lemma answer1Of4_handled (hmic : key.keyInfo.mic = false)
    (hpmk : pmk = sm.pmk ∨ ans.pmk = .key pmk) (state : WpaState) :
    Handled conf crypto ans peer key keyData sm
      (finish (answer1Of4 conf crypto ans key { sm with pmk, wpaState := state })) := by
  unfold answer1Of4
  rcases renew_cases ans { sm with pmk, wpaState := state } with herror | ⟨snonce, hsnonce, hok⟩
  · rw [herror]
    exact .of_pmk hpmk ⟨rfl, [.deauthenticate], rfl, by simpa using .deauthenticate⟩
  rw [hok]
  set sm₁ := deriveTptk conf crypto key.keyNonce
    { sm with pmk, wpaState := state, snonce, renewSnonce := false }
  have hquiet := @send2Of4_quiet conf crypto ans key keyData sm₁
  simp only [bind, Except.bind]
  cases hs : send2Of4 conf crypto ans key sm₁ with
  | ok s =>
    rw [hs] at hquiet
    obtain ⟨hcore, hgrows⟩ := hquiet.setAnonce key.keyNonce
    exact .first hmic hpmk hsnonce rfl (.inl ⟨hcore, hgrows⟩)
  | error s =>
    rw [hs] at hquiet
    obtain ⟨hcore, hgrows⟩ := hquiet.trans (.deauthenticate .deauthenticate)
    exact .first hmic hpmk hsnonce rfl (.inr ⟨⟨hcore, hgrows⟩, rfl⟩)

/-- Message 1/4 is handled as listed. -/
lemma process1Of4_handled (hmic : key.keyInfo.mic = false) :
    Handled conf crypto ans peer key keyData sm (process1Of4 conf crypto ans key keyData sm) := by
  have hstate : Quiet (Allowed conf crypto key keyData sm.ptk) sm
      { sm with wpaState := .fourWayHandshake } := .of_eq rfl rfl
  unfold process1Of4
  split
  · exact .quiet (.refl sm)
  split
  · exact .of_ends hstate
  unfold getPmk
  cases hpmk : ans.pmk with
  | unchanged => exact answer1Of4_handled hmic (.inl rfl) .fourWayHandshake
  | key pmk => exact answer1Of4_handled hmic (.inr hpmk) .fourWayHandshake
  | requested => exact .quiet hstate
  | failed => exact .of_ends hstate

/-- The group keys of message 3/4. -/
lemma groupKeys3Of4_quiet {ie : EapolIeParse} {ptk : Ptk} (hmic : key.keyInfo.mic)
    (hpairwise : key.keyInfo.keyType) (hparse : parseIes keyData = some ie) (s : Sm) :
    Ends (Quiet (Allowed conf crypto key keyData ptk) s) (groupKeys3Of4 conf ans key ie s) := by
  have hport : Quiet (Allowed conf crypto key keyData ptk) s
      { (if key.keyInfo.secure then s.act .portValid else s) with
        wpaState := .groupHandshake } := by
    split
    · exact .trans (.act (.portValid hmic)) (.of_eq rfl rfl)
    · exact .of_eq rfl rfl
  have hgtk : ∀ s, Ends (Quiet (Allowed conf crypto key keyData ptk) s)
      (gtk3Of4 conf ans key ie s) := by
    intro s
    unfold gtk3Of4
    split
    · exact keyNegComplete_quiet hmic _
    · split
      · exact .refl s
      · next gtk hgtk => exact pairwiseGtk_quiet hmic hpairwise hparse hgtk
  refine .quiet_bind ((hgtk _).mono fun s₁ h₁ => hport.trans h₁) fun s₁ _ => ?_
  exact .quiet_bind (setIgtk_quiet hmic hparse) fun s₂ _ => .of_eq rfl rfl

/-- The pairwise key of message 3/4. -/
lemma install3Of4_handled {ie : EapolIeParse} (hthird : IsThird peer key sm)
    (hparse : parseIes keyData = some ie)
    (hs : Quiet (Allowed conf crypto key keyData sm.ptk) { sm with renewSnonce := true } s) :
    Handled conf crypto ans peer key keyData sm (finish (install3Of4 conf ans key ie s)) := by
  have hgroup := fun s =>
    @groupKeys3Of4_quiet conf crypto ans key keyData ie sm.ptk hthird.mic hthird.pairwise hparse s
  have hskip : Handled conf crypto ans peer key keyData sm
      (finish (groupKeys3Of4 conf ans key ie s)) :=
    .third hthird (hs.trans (quiet_finish .deauthenticate (hgroup s)))
  have htkToSet : s.tkToSet = sm.tkToSet := congrArg Core.tkToSet hs.core_eq
  unfold install3Of4
  split
  · unfold installPtk
    split
    · exact hskip
    next htk =>
    split
    · exact hskip
    split
    · exact .third hthird (hs.trans (.deauthenticate .deauthenticate))
    next hvalid =>
    have hhanded : HandsOver conf crypto peer key keyData sm s :=
      ⟨hthird, by simpa [htkToSet] using htk, by simpa using hvalid, hs⟩
    dsimp only
    split
    · exact .refused hhanded rfl
    · exact .install hhanded (quiet_finish .deauthenticate (hgroup (handOver conf key s)))
  · exact hskip

/-- Message 3/4 is handled as listed. -/
lemma process3Of4_handled (hpeer : peer = false) (hmic : key.keyInfo.mic)
    (hpairwise : key.keyInfo.keyType) :
    Handled conf crypto ans peer key keyData sm (process3Of4 conf crypto ans key keyData sm) := by
  have hstate : Quiet (Allowed conf crypto key keyData sm.ptk) sm
      { sm with wpaState := .fourWayHandshake } := .of_eq rfl rfl
  unfold process3Of4
  split
  · exact .of_ends hstate
  next ie hparse =>
  split
  · exact .of_ends hstate
  refine .bind (validateIe_quiet.mono fun s hs => hstate.trans hs) fun s hs => ?_
  split
  · exact .of_ends hs
  next hanonce =>
  split
  · exact .of_ends hs
  have hptk : s.ptk = sm.ptk := congrArg Core.ptk hs.core_eq
  have hcore : s.anonce = sm.anonce := congrArg Core.anonce hs.core_eq
  refine .bind ((hptk ▸ send4Of4_quiet).mono fun s₁ h₁ => hs.trans h₁) fun s₁ hs₁ => ?_
  exact install3Of4_handled ⟨hpeer, hmic, hpairwise, hcore ▸ not_not.mp hanonce⟩ hparse
    (hs₁.setRenewSnonce _)

/-- The group keys in message 1/2. -/
lemma keys1Of2_quiet {gd : Option GtkData} (hmic : key.keyInfo.mic)
    (hgroup : key.keyInfo.keyType = false) (h : keys1Of2 conf crypto ans key keyData sm = (gd, s)) :
    Quiet (Allowed conf crypto key keyData sm.ptk) sm s ∧
      ∀ g, gd = some g → carriedGtk conf crypto sm.ptk key keyData = some g := by
  unfold keys1Of2 at h
  split at h
  · next hrsn =>
    split at h
    · cases h
      exact ⟨.refl sm, nofun⟩
    next ie hparse =>
    split at h
    · cases h
      exact ⟨.refl sm, nofun⟩
    next g hg =>
    have hcarried : carriedGtk conf crypto sm.ptk key keyData = some g := by
      unfold gtk1Of2Rsn at hg
      split at hg
      · cases hg
      next gtk hgtk =>
      split at hg
      · cases hg
      · split_ifs at hg
        · exact carriedGtk_of_elements (.inr hrsn) hparse hgtk hg
    have hset := @setIgtk_quiet conf crypto ans key keyData sm.ptk ie sm hmic hparse
    split at h
    all_goals
      next s' hs' =>
      cases h
      rw [hs'] at hset
      exact ⟨hset, fun g' hg' => hg' ▸ hcarried⟩
  · next hrsn =>
    cases h
    refine ⟨.refl sm, fun g hg => ?_⟩
    unfold carriedGtk
    rw [if_neg (by simp [hgroup, hrsn]), hg]

/-- Message 1/2 is handled as listed. -/
lemma process1Of2_handled (hmic : key.keyInfo.mic) (hgroup : key.keyInfo.keyType = false) :
    Handled conf crypto ans peer key keyData sm (process1Of2 conf crypto ans key keyData sm) := by
  unfold process1Of2
  split
  · exact .of_ends (.refl sm)
  cases hkeys : keys1Of2 conf crypto ans key keyData sm with
  | mk gd s =>
    obtain ⟨hs, hcarried⟩ := keys1Of2_quiet hmic hgroup hkeys
    have hstate : Quiet (Allowed conf crypto key keyData sm.ptk) sm
        { s with wpaState := .groupHandshake } := hs.trans (.of_eq rfl rfl)
    cases gd with
    | none => exact .of_ends hstate
    | some g =>
      refine .of_ends (.quiet_bind ?_ fun s₁ hs₁ => ?_)
      · exact (installGtk_quiet hmic (hcarried g rfl)).mono fun s₁ h₁ => hstate.trans h₁
      have hsend := @send2Of2_quiet conf crypto ans key keyData s₁
      have hptk : s₁.ptk = sm.ptk := congrArg Core.ptk hs₁
      rw [hptk] at hsend
      refine .quiet_bind hsend fun s₂ _ => ?_
      show Quiet _ _ _
      split
      · exact .of_eq rfl rfl
      · exact keyNegComplete_quiet hmic _

/-- Every frame is handled in one of the ways that `Handled` lists. -/
lemma dispatch_handled :
    Handled conf crypto ans peer key keyData sm
      (dispatch conf crypto ans key keyData peer sm) := by
  unfold dispatch
  split
  · next hpairwise =>
    split
    · exact .quiet (.refl sm)
    split
    · exact .quiet (.of_eq rfl rfl)
    next hpeer =>
    split
    · next hmic => exact process3Of4_handled (by simpa using hpeer) hmic hpairwise
    · next hmic => exact process1Of4_handled (by simpa using hmic)
  · next hgroup =>
    split
    · exact .quiet (.of_eq rfl rfl)
    · split
      · next hmic => exact process1Of2_handled hmic (by simpa using hgroup)
      · exact .quiet (.refl sm)

/-- By what the trace grows. -/
lemma Handled.grows {P : Action → Prop} {sm' : Sm}
    (h : Handled conf crypto ans peer key keyData sm sm')
    (hderived : key.keyInfo.mic = false → ∀ snonce ptk, P (.derived snonce ptk))
    (hinstall : key.keyInfo.mic → ∀ alg rsc tk, P (.installPtk alg rsc tk))
    (hallowed : ∀ ptk a, (key.keyInfo.mic → ptk = sm.ptk) →
      Allowed conf crypto key keyData ptk a → P a) : Grows P sm sm' := by
  have hsame := fun a => hallowed sm.ptk a fun _ => rfl
  cases h with
  | quiet hgrows => exact hgrows.grows.mono hsame
  | pmk _ hgrows => exact hgrows.grows.mono hsame
  | @first sm₁ _ _ hmic _ _ heq hgrows =>
    have hother := fun a =>
      hallowed sm₁.tptk a fun hmic' => absurd (hmic.symm.trans hmic') (by decide)
    have hfirst : Grows P sm sm₁ := by
      rw [heq]
      exact ⟨[.derived _ _], rfl, by simpa using hderived hmic _ _⟩
    rcases hgrows with hgrows | ⟨hgrows, -⟩
    · exact hfirst.trans (hgrows.grows.mono hother)
    · exact hfirst.trans (hgrows.grows.mono hother)
  | third _ hgrows => exact hgrows.grows.mono hsame
  | @install sm₁ handed hafter =>
    have hover : Grows P sm₁ (handOver conf key sm₁) :=
      ⟨[.installPtk _ _ _], rfl, by simpa using hinstall handed.mic _ _ _⟩
    have hbefore : Grows P sm sm₁ := handed.before.grows.mono hsame
    exact hbefore.trans (hover.trans (hafter.grows.mono hsame))
  | @refused sm₁ handed heq =>
    have hbefore : Grows P sm sm₁ := handed.before.grows.mono hsame
    rw [heq]
    refine hbefore.trans ⟨[.installPtk _ _ _, .deauthenticate], append_assoc _ _ _, ?_⟩
    intro a ha
    rcases mem_pair.mp ha with rfl | rfl
    · exact hinstall handed.mic _ _ _
    · exact hsame _ .deauthenticate

/-- The replay counter is not touched. -/
lemma Handled.rxReplayCounter_eq (h : Handled conf crypto ans peer key keyData sm sm') :
    sm'.rxReplayCounter = sm.rxReplayCounter ∧ sm'.rxReplayCounterSet = sm.rxReplayCounterSet := by
  cases h with
  | quiet hgrows => exact hgrows.rxReplayCounter_eq
  | pmk _ hgrows => exact (hgrows.rxReplayCounter_eq :)
  | first _ _ _ heq hgrows =>
    subst heq
    rcases hgrows with hgrows | ⟨hgrows, -⟩
    · exact (hgrows.rxReplayCounter_eq :)
    · exact (hgrows.rxReplayCounter_eq :)
  | third _ hgrows => exact (hgrows.rxReplayCounter_eq :)
  | install handed hafter =>
    obtain ⟨hcounter, hset⟩ := handed.before.rxReplayCounter_eq
    obtain ⟨hcounter', hset'⟩ := hafter.rxReplayCounter_eq
    exact ⟨hcounter'.trans hcounter, hset'.trans hset⟩
  | refused handed heq =>
    rw [heq]
    exact (handed.before.rxReplayCounter_eq :)

/-! ## Receiving a packet -/

/-- The temporary PTK is confirmed. -/
def Sm.confirm (sm : Sm) : Sm :=
  { sm with tptkSet := false, ptkSet := true, ptk := sm.tptk, tptk := {} }

lemma verifyEapolKeyMic_cases (h : verifyEapolKeyMic conf crypto key tmp sm = some sm') :
    (sm.tptkSet ∧ micOk conf crypto sm.tptk key tmp ∧ sm' = verified key sm.confirm) ∨
    (¬ (sm.tptkSet ∧ micOk conf crypto sm.tptk key tmp) ∧ sm.ptkSet ∧
      micOk conf crypto sm.ptk key tmp ∧ sm' = verified key sm) := by
  unfold verifyEapolKeyMic at h
  split at h
  · next htptk =>
    cases h
    exact .inl ⟨htptk.1, htptk.2, rfl⟩
  next htptk =>
  split at h
  · next hptk =>
    cases h
    exact .inr ⟨htptk, hptk.1, hptk.2, rfl⟩
  · cases h

/-- The frame comes from a direct link and is verified under a key of it. -/
def StkVerified (conf : Conf) (crypto : Crypto) (key : EapolKey) (src : Mac) (tmp : Bytes)
    (sm : Sm) : Prop :=
  ∃ peer, sm.peerkey src = some peer ∧ (peer.verifyEapolKeyMic conf crypto key tmp).2

/-- How a frame comes to be handled: verified under the PTK, under a key of a direct link, or
without a code. -/
lemma checked_cases (h : checked conf crypto key src tmp sm = .ok sm₁) :
    (key.keyInfo.mic ∧ sm.peerkey src = none ∧
      verifyEapolKeyMic conf crypto key tmp sm = some sm₁) ∨
    ((key.keyInfo.mic → StkVerified conf crypto key src tmp sm) ∧
      ∃ peerkeys, sm₁ = { sm with peerkeys }) := by
  unfold checked at h
  split at h
  · next hmic =>
    split at h
    · next hnone =>
      cases hverify : verifyEapolKeyMic conf crypto key tmp sm with
      | none =>
        rw [hverify] at h
        cases h
      | some s =>
        rw [hverify] at h
        cases h
        exact .inl ⟨hmic, hnone, rfl⟩
    · next peer hpeer =>
      dsimp only at h
      split at h
      · next hok =>
        cases h
        exact .inr ⟨fun _ => ⟨peer, hpeer, hok⟩, _, rfl⟩
      · cases h
  · next hmic =>
    cases h
    exact .inr ⟨fun h => absurd h hmic, sm.peerkeys, rfl⟩

lemma checked_of_stkVerified (h : key.keyInfo.mic → StkVerified conf crypto key src tmp sm) :
    ∃ peerkeys, checked conf crypto key src tmp sm = .ok { sm with peerkeys } := by
  unfold checked
  split
  · next hmic =>
    obtain ⟨peer, hpeer, hok⟩ := h hmic
    simp only [hpeer, hok, if_true]
    exact ⟨_, rfl⟩
  · exact ⟨sm.peerkeys, rfl⟩

/-- A frame that is dropped because of its message integrity code leaves at most an STK behind. -/
lemma checked_error (h : checked conf crypto key src tmp sm = .error sm₁) :
    ∃ peerkeys, sm₁ = { sm with peerkeys } := by
  unfold checked at h
  split at h
  · split at h
    · cases hverify : verifyEapolKeyMic conf crypto key tmp sm with
      | none =>
        rw [hverify] at h
        cases h
        exact ⟨sm.peerkeys, rfl⟩
      | some s =>
        rw [hverify] at h
        cases h
    · dsimp only at h
      split at h
      · cases h
      · cases h
        exact ⟨_, rfl⟩
  · cases h

/-- The decryption of the key data is written to the trace. -/
def opened (conf : Conf) (key : EapolKey) (sm : Sm) : Sm :=
  if encrypted conf key then sm.act .decryptKeyData else sm

lemma opened_quiet :
    Quiet (fun a => a = .decryptKeyData ∧ encrypted conf key) sm (opened conf key sm) := by
  unfold opened
  split
  · next hencr => exact .act ⟨rfl, hencr⟩
  · exact .refl sm

lemma handle_cases :
    (plainKeyData conf crypto ans key sm = none ∧
      handle conf crypto ans key sm peer = opened conf key sm) ∨
    ∃ keyData, plainKeyData conf crypto ans key sm = some keyData ∧
      Handled conf crypto ans peer key keyData (opened conf key sm)
        (handle conf crypto ans key sm peer) := by
  unfold handle
  cases hplain : plainKeyData conf crypto ans key sm with
  | none => exact .inl ⟨rfl, rfl⟩
  | some keyData => exact .inr ⟨keyData, rfl, dispatch_handled⟩

lemma handle_rxReplayCounter :
    (handle conf crypto ans key sm peer).rxReplayCounter = sm.rxReplayCounter ∧
      (handle conf crypto ans key sm peer).rxReplayCounterSet = sm.rxReplayCounterSet := by
  obtain ⟨hcounter, hset⟩ := (@opened_quiet conf key sm).rxReplayCounter_eq
  rcases @handle_cases conf crypto ans peer key sm with ⟨-, heq⟩ | ⟨keyData, -, hhandled⟩
  · rw [heq]
    exact ⟨hcounter, hset⟩
  · obtain ⟨hcounter', hset'⟩ := hhandled.rxReplayCounter_eq
    exact ⟨hcounter'.trans hcounter, hset'.trans hset⟩

/-- A packet is dropped, or its frame is accepted, checked and handled. -/
lemma rxEapol_cases (conf : Conf) (crypto : Crypto) (sm : Sm) (packet : Packet) :
    (∃ peerkeys, rxEapol conf crypto sm packet = { sm with peerkeys }) ∨
    ∃ key tmp sm₁, accepted conf sm packet = some (key, tmp) ∧
      checked conf crypto key packet.src tmp sm = .ok sm₁ ∧
      rxEapol conf crypto sm packet =
        handle conf crypto packet.ans key sm₁ (sm.peerkey packet.src).isSome := by
  unfold rxEapol
  cases hacc : accepted conf sm packet with
  | none => exact .inl ⟨sm.peerkeys, rfl⟩
  | some frame =>
    obtain ⟨key, tmp⟩ := frame
    cases hchecked : checked conf crypto key packet.src tmp sm with
    | error s =>
      obtain ⟨peerkeys, rfl⟩ := checked_error hchecked
      exact .inl ⟨peerkeys, by simp only [hchecked]⟩
    | ok sm₁ => exact .inr ⟨key, tmp, sm₁, rfl, hchecked, by simp only [hchecked]⟩

/-- What a call of `wpa_sm_rx_eapol` does. -/
def actions (conf : Conf) (crypto : Crypto) (sm : Sm) (packet : Packet) : List Action :=
  (rxEapol conf crypto sm packet).trace.drop sm.trace.length

/-- The replay counter of an accepted frame that does not come from a direct link is a new one. -/
lemma accepted_counter (h : accepted conf sm packet = some (key, tmp))
    (hpeer : sm.peerkey packet.src = none) (hset : sm.rxReplayCounterSet) :
    sm.rxReplayCounter < key.replayCounter := by
  unfold accepted at h
  split at h
  · cases h
  dsimp only at h
  split at h
  · next hacc =>
    cases h
    simp only [acceptable, counterOk, hpeer, hset, Bool.and_eq_true, Bool.true_and,
      Bool.not_eq_true', decide_eq_false_iff_not, not_le] at hacc
    exact hacc.2.1.1.1.2
  · cases h

end Hostapd.RsnSupp
