import Hostapd.Pae.System

/-!
# Invariants of the controlled port

The CP as a machine of its own: `CpEvent` are the inputs of the KaY, single evaluations of
`SM_STEP(CP)` and the expiries of its timers, in any order, over any KaY.

`CpSm.Confirmed` says that the machine transmits only with a key it has and receives with; it is
kept by every evaluation that enters one state, but not where the independent `if`s of `RECEIVING`
and `READY` enter two. `CpSm.Guarded` says that the port is open only under the intended protection;
it is kept by every event.
-/

namespace Hostapd.Pae

open Wire Checked Machine

/-! ## The machine -/

/-- The functions by which the KaY and the logon process set the variables of the CP. -/
inductive CpInput
  | connect (c : ConnectType)
  | chgdserver
  | electedself (status : Bool)
  | ciphersuite (cs : UInt64)
  | offset (o : ConfidentialityOffset)
  | newsak
  | distributedki (dki : Ki)
  | distributedan (an : UInt8)
  | usingreceivesas (status : Bool)
  | allreceiving (status : Bool)
  | servertransmitting (status : Bool)
  | usingtransmitas (status : Bool)
  | smStep

/-- The KaY sets a variable of the CP. -/
def CpInput.apply (p : CpPort) : CpInput → CpPort
  | .connect c => p.setConnect c
  | .chgdserver => p.signalChgdserver
  | .electedself status => p.setElectedself status
  | .ciphersuite cs => p.setCiphersuite cs
  | .offset o => p.setOffset o
  | .newsak => p.signalNewsak
  | .distributedki dki => p.setDistributedki dki
  | .distributedan an => p.setDistributedan an
  | .usingreceivesas status => p.setUsingreceivesas status
  | .allreceiving status => p.setAllreceiving status
  | .servertransmitting status => p.setServertransmitting status
  | .usingtransmitas status => p.setUsingtransmitas status
  | .smStep => p.smStep

/-- What happens to the CP. -/
inductive CpEvent (ε : Type)
  | input (i : CpInput)
  /-- One evaluation of `SM_STEP(CP)`. -/
  | smStep (e : ε)
  | transmitWhen
  | retireWhen
  /-- `ieee802_1x_kay_create_mka` tells the SecY to protect frames as configured. -/
  | createMka

variable {ε κ : Type} (conf : MacsecConf) (ops : KayOps ε κ)

/-- One event. -/
def CpWorld.react (w : CpWorld κ) : CpEvent ε → Checked (CpWorld κ)
  | .input i => .ok { w with cp := i.apply w.cp }
  | .smStep e => w.smStep conf ops e
  | .transmitWhen => .ok { w with cp.sm.transmitWhen := 0 }
  | .retireWhen => .ok { w with cp.sm.retireWhen := 0 }
  | .createMka =>
    .ok { w with
      cp.secy.protectFrames := conf.macsecProtect
      cp.secy.replayProtect := conf.macsecReplayProtect
      cp.secy.replayWindow := conf.macsecReplayWindow }

variable {conf ops}

/-- The loop of `ieee802_1x_cp_step_run` is a run of evaluations of `SM_STEP(CP)`. -/
lemma CpWorld.stepLoop_eq_run {es : ℕ → ε} {fuel i : ℕ} {w w' : CpWorld κ}
    (h : w.stepLoop conf ops es fuel i = .ok w') :
    ∃ n, run (CpWorld.react conf ops) w
      ((List.range n).map fun j => CpEvent.smStep (es (i + j))) = .ok w' := by
  induction fuel generalizing i w with
  | zero => exact ⟨0, h⟩
  | succ fuel ih =>
    obtain ⟨v, hv, hrest⟩ := bind_eq_ok.mp h
    by_cases hstate : v.cp.sm.state = w.cp.sm.state
    · rw [if_pos hstate] at hrest
      exact ⟨1, run_cons_eq_ok.mpr ⟨v, hv, hrest⟩⟩
    rw [if_neg hstate] at hrest
    obtain ⟨n, hn⟩ := ih hrest
    refine ⟨n + 1, ?_⟩
    rw [List.range_succ_eq_map, List.map_cons, List.map_map]
    refine run_cons_eq_ok.mpr ⟨v, hv, ?_⟩
    have hshift : ((fun j => CpEvent.smStep (es (i + j))) ∘ Nat.succ) =
        fun j => CpEvent.smStep (es (i + 1 + j)) := by
      funext j
      simp [Nat.add_assoc, Nat.add_comm 1 j]
    rw [hshift]
    exact hn

/-! ## What entering a state does to the CP -/

/-- The states from `RECEIVE` on, which leave the protection as `SECURED` set it. -/
def CpState.keepsProtection : CpState → Bool
  | .receive | .receiving | .ready | .transmit | .transmitting | .abandon | .retire => true
  | _ => false

namespace CpWorld

variable {ε κ : Type} {conf : MacsecConf} {ops : KayOps ε κ} {e : ε} {w w' : CpWorld κ}

lemma deleteSasOf_cp {ki : Option Ki} (h : w.deleteSasOf ops ki = .ok w') : w'.cp = w.cp := by
  cases ki with
  | none =>
    cases h
    rfl
  | some ki =>
    obtain ⟨kay, -, hw⟩ := bind_eq_ok.mp h
    cases hw
    rfl

lemma enterChange_cp (h : w.enterChange ops = .ok w') :
    w'.cp = { w.cp with
      sm.state := .change
      sm.portValid := false
      sm.controlledPortEnabled := false
      secy.enablePort := false } := by
  obtain ⟨v, hv, hrest⟩ := bind_eq_ok.mp h
  rw [deleteSasOf_cp hrest, deleteSasOf_cp hv]

/-- The CP in `RECEIVE`. -/
lemma enterReceive_cp (halloc : ops.mallocLki e) :
    ∃ used stepCb, (w.enterReceive ops e).cp = { w.cp with
      sm.state := .receive
      sm.oki := w.cp.sm.lki
      sm.oan := w.cp.sm.lan
      sm.otx := w.cp.sm.ltx
      sm.orx := w.cp.sm.lrx
      sm.lki := some w.cp.sm.distributedKi
      sm.lan := w.cp.sm.distributedAn
      sm.ltx := false
      sm.lrx := false
      sm.usingReceiveSas := used
      stepCb := stepCb
      sm.newSak := false
      sm.allReceiving := false } := by
  simp only [enterReceive, halloc, if_true]
  split
  · exact ⟨true, true, rfl⟩
  · exact ⟨w.cp.sm.usingReceiveSas, w.cp.stepCb, rfl⟩

lemma enterIf_eq_ok {cond : CpSm → Bool} {state : CpState} :
    w.enterIf conf ops e cond state = .ok w' ↔
      cond w.cp.sm ∧ w.enter conf ops e state = .ok w' ∨ cond w.cp.sm = false ∧ w' = w := by
  unfold enterIf
  cases cond w.cp.sm <;> simp [eq_comm]

/-- What every entry of a state keeps, an evaluation of `SM_STEP(CP)` keeps.  The states from
`RECEIVE` on are entered only from `SECURED` on, where `Q` holds as well. -/
lemma smStep_induction {P Q : CpWorld κ → Prop}
    (hQ : ∀ v, P v → v.cp.sm.state = .secured ∨ v.cp.sm.state.keepsProtection → Q v)
    (henter : ∀ v v' state, P v → v.enter conf ops e state = .ok v' → state ≠ .begin →
      (state.keepsProtection → Q v) → P v' ∧ (state.keepsProtection → Q v'))
    (hw : P w) (h : w.smStep conf ops e = .ok w') : P w' := by
  have hif : ∀ {v v' : CpWorld κ} {cond : CpSm → Bool} {state : CpState}, P v →
      v.enterIf conf ops e cond state = .ok v' → state ≠ .begin →
      (state.keepsProtection → Q v) → P v' ∧ (state.keepsProtection → Q v') := by
    intro v v' cond state hv h hbegin hq
    rcases enterIf_eq_ok.mp h with ⟨-, h⟩ | ⟨-, rfl⟩
    · exact henter v v' state hv h hbegin hq
    · exact ⟨hv, hq⟩
  obtain ⟨v, hv, h⟩ := bind_eq_ok.mp h
  replace hv := (hif hw hv nofun nofun).1
  have hq := hQ v hv
  cases hs : v.cp.sm.state <;> simp only [smSwitch, hs] at h <;> rw [hs] at hq
  case «begin» => exact (henter _ _ _ hv h nofun nofun).1
  case init => exact (henter _ _ _ hv h nofun nofun).1
  case change =>
    cases hc : v.cp.sm.connect <;> simp only [hc] at h
    · cases h
      exact hv
    · exact (henter _ _ _ hv h nofun nofun).1
    · exact (henter _ _ _ hv h nofun nofun).1
    · exact (henter _ _ _ hv h nofun nofun).1
  case allowed => exact (hif hv h nofun nofun).1
  case authenticated => exact (hif hv h nofun nofun).1
  case secured =>
    split at h
    · exact (henter _ _ _ hv h nofun nofun).1
    · exact (hif hv h nofun (fun _ => hq (.inl rfl))).1
  case receiving =>
    obtain ⟨w1, h1, h⟩ := bind_eq_ok.mp h
    obtain ⟨w2, h2, h3⟩ := bind_eq_ok.mp h
    obtain ⟨hv1, hq1⟩ := hif hv h1 nofun (fun _ => hq (.inr rfl))
    obtain ⟨hv2, hq2⟩ := hif hv1 h2 nofun (fun _ => hq1 rfl)
    exact (hif hv2 h3 nofun (fun _ => hq2 rfl)).1
  case ready =>
    obtain ⟨w1, h1, h2⟩ := bind_eq_ok.mp h
    obtain ⟨hv1, hq1⟩ := hif hv h1 nofun (fun _ => hq (.inr rfl))
    exact (hif hv1 h2 nofun (fun _ => hq1 rfl)).1
  case retire =>
    split at h
    · exact (henter _ _ _ hv h nofun nofun).1
    · exact (hif hv h nofun (fun _ => hq (.inr rfl))).1
  case abandon =>
    split at h
    · exact (henter _ _ _ hv h nofun (fun _ => hq (.inr rfl))).1
    · exact (hif hv h nofun (fun _ => hq (.inr rfl))).1
  all_goals exact (hif hv h nofun (fun _ => hq (.inr rfl))).1

end CpWorld

/-! ## The latest key -/

/-- The machine transmits only with a key that it has and receives with.  What is known of the
latest key depends on the state. -/
def CpSm.Confirmed (sm : CpSm) : Prop :=
  match sm.state with
  | .receive => sm.lki ≠ none ∧ sm.ltx = false
  | .receiving => sm.lki ≠ none ∧ sm.lrx ∧ sm.ltx = false
  | .ready => sm.lki ≠ none ∧ sm.lrx ∧ sm.ltx = false
  | .transmit => sm.lki ≠ none ∧ sm.lrx
  | .transmitting => sm.lki ≠ none ∧ sm.lrx
  | .abandon => sm.ltx = false
  | _ => sm.ltx → sm.lki ≠ none ∧ sm.lrx

lemma CpSm.Confirmed.lrx_of_ltx {sm : CpSm} (h : sm.Confirmed) (hltx : sm.ltx) :
    sm.lki ≠ none ∧ sm.lrx := by
  unfold CpSm.Confirmed at h
  cases hs : sm.state <;> simp_all

/-- An evaluation of `SM_STEP(CP)` in `RECEIVING` or `READY` does not enter a second state after
`ABANDON` or `RECEIVE`. -/
def CpSm.EntersOnce (sm : CpSm) : Prop :=
  match sm.state with
  | .receiving => (sm.newSak || sm.changedConnect) →
      sm.electedSelf ∧ sm.allReceiving = false ∧ sm.transmitWhen ≠ 0
  | .ready => (sm.newSak || sm.changedConnect) → sm.serverTransmitting = false
  | _ => True

instance (sm : CpSm) : Decidable sm.EntersOnce := by
  unfold CpSm.EntersOnce
  split <;> infer_instance

variable {ε κ : Type} {conf : MacsecConf} {ops : KayOps ε κ}

/-- An evaluation of `SM_STEP(CP)` enters one state at a time, and has memory for a key. -/
def EntersOnceWithMemory (ops : KayOps ε κ) (w : CpWorld κ) : CpEvent ε → Prop
  | .smStep e => w.cp.sm.EntersOnce ∧ ops.mallocLki e
  | _ => True

instance (ops : KayOps ε κ) (w : CpWorld κ) (ev : CpEvent ε) :
    Decidable (EntersOnceWithMemory ops w ev) := by
  cases ev <;> unfold EntersOnceWithMemory <;> infer_instance

namespace CpWorld

variable {e : ε} {w w' : CpWorld κ}

lemma enterInit_confirmed : (enterInit w).cp.sm.Confirmed := by
  simp [enterInit, CpSm.Confirmed]

lemma enterChange_confirmed (hw : w.cp.sm.Confirmed) (h : w.enterChange ops = .ok w') :
    w'.cp.sm.Confirmed := by
  rw [enterChange_cp h]
  exact hw.lrx_of_ltx

lemma enterIf_confirmed {cond : CpSm → Bool} {state : CpState} (hw : w.cp.sm.Confirmed)
    (h : w.enterIf conf ops e cond state = .ok w')
    (henter : w.enter conf ops e state = .ok w' → w'.cp.sm.Confirmed) : w'.cp.sm.Confirmed := by
  rcases enterIf_eq_ok.mp h with ⟨-, h⟩ | ⟨-, rfl⟩
  · exact henter h
  · exact hw

lemma enter_receive_confirmed (halloc : ops.mallocLki e)
    (h : w.enter conf ops e .receive = .ok w') : w'.cp.sm.Confirmed := by
  cases h
  obtain ⟨used, stepCb, hcp⟩ := enterReceive_cp (w := w) halloc
  rw [hcp]
  exact ⟨by simp, rfl⟩

lemma changeOrReceive_confirmed (hw : w.cp.sm.Confirmed) (halloc : ops.mallocLki e)
    (h : (if w.cp.sm.changedConnect then enter conf ops e w .change
      else enterIf conf ops e (fun sm => sm.newSak) .receive w) = .ok w') :
    w'.cp.sm.Confirmed := by
  split at h
  · exact enterChange_confirmed hw h
  · exact enterIf_confirmed hw h (enter_receive_confirmed halloc)

/-- `RECEIVING`, where at most one condition holds. -/
lemma receiving_confirmed (hs : w.cp.sm.state = .receiving) (hw : w.cp.sm.Confirmed)
    (honce : w.cp.sm.EntersOnce) (h : w.smSwitch conf ops e = .ok w') : w'.cp.sm.Confirmed := by
  simp only [smSwitch, hs] at h
  simp only [CpSm.Confirmed, hs] at hw
  simp only [CpSm.EntersOnce, hs] at honce
  obtain ⟨hlki, hlrx, hltx⟩ := hw
  obtain ⟨w1, h1, h⟩ := bind_eq_ok.mp h
  obtain ⟨w2, h2, h3⟩ := bind_eq_ok.mp h
  rcases enterIf_eq_ok.mp h1 with ⟨hgo, h1⟩ | ⟨-, rfl⟩
  · -- `ABANDON` is entered: the other conditions do not hold
    obtain ⟨helected, hall, hwhen⟩ := honce hgo
    obtain ⟨kay, -, ⟨⟩⟩ := bind_eq_ok.mp h1
    rcases enterIf_eq_ok.mp h2 with ⟨hc, -⟩ | ⟨-, rfl⟩
    · simp [setLatestSaAttr, helected] at hc
    rcases enterIf_eq_ok.mp h3 with ⟨hc, -⟩ | ⟨-, rfl⟩
    · simp [setLatestSaAttr, helected, hall, hwhen] at hc
    exact hltx
  · rcases enterIf_eq_ok.mp h2 with ⟨hne, h2⟩ | ⟨-, rfl⟩
    · obtain ⟨kay, -, ⟨⟩⟩ := bind_eq_ok.mp h2
      rcases enterIf_eq_ok.mp h3 with ⟨hc, -⟩ | ⟨-, rfl⟩
      · simp only [Bool.not_eq_true'] at hne
        simp [hne] at hc
      exact ⟨hlki, hlrx, hltx⟩
    · rcases enterIf_eq_ok.mp h3 with ⟨-, h3⟩ | ⟨-, rfl⟩
      · obtain ⟨⟨kay, enabled⟩, -, ⟨⟩⟩ := bind_eq_ok.mp h3
        cases enabled <;> exact ⟨hlki, hlrx⟩
      · simp only [CpSm.Confirmed, hs]
        exact ⟨hlki, hlrx, hltx⟩

/-- `READY`, where at most one condition holds. -/
lemma ready_confirmed (hs : w.cp.sm.state = .ready) (hw : w.cp.sm.Confirmed)
    (honce : w.cp.sm.EntersOnce) (halloc : ops.mallocLki e)
    (h : w.smSwitch conf ops e = .ok w') : w'.cp.sm.Confirmed := by
  simp only [smSwitch, hs] at h
  simp only [CpSm.Confirmed, hs] at hw
  simp only [CpSm.EntersOnce, hs] at honce
  obtain ⟨hlki, hlrx, hltx⟩ := hw
  obtain ⟨w1, h1, h2⟩ := bind_eq_ok.mp h
  rcases enterIf_eq_ok.mp h1 with ⟨hgo, h1⟩ | ⟨-, rfl⟩
  · -- `RECEIVE` is entered: the server does not transmit
    have hserver := honce hgo
    have hreceive := enter_receive_confirmed halloc h1
    cases h1
    obtain ⟨used, stepCb, hcp1⟩ := enterReceive_cp (w := w) halloc
    rcases enterIf_eq_ok.mp h2 with ⟨hc, -⟩ | ⟨-, rfl⟩
    · simp [hcp1, hserver] at hc
    exact hreceive
  · rcases enterIf_eq_ok.mp h2 with ⟨-, h2⟩ | ⟨-, rfl⟩
    · obtain ⟨⟨kay, enabled⟩, -, ⟨⟩⟩ := bind_eq_ok.mp h2
      cases enabled <;> exact ⟨hlki, hlrx⟩
    · simp only [CpSm.Confirmed, hs]
      exact ⟨hlki, hlrx, hltx⟩

/-- Every state, if one state is entered at a time. -/
lemma smSwitch_confirmed (hw : w.cp.sm.Confirmed) (honce : w.cp.sm.EntersOnce)
    (halloc : ops.mallocLki e) (h : w.smSwitch conf ops e = .ok w') : w'.cp.sm.Confirmed := by
  have hretire : ∀ {v v' : CpWorld κ}, v.cp.sm.Confirmed → v.enter conf ops e .retire = .ok v' →
      v'.cp.sm.Confirmed := by
    rintro v _ hv ⟨⟩
    exact hv.lrx_of_ltx
  have hswitch := h
  cases hs : w.cp.sm.state <;> simp only [smSwitch, hs] at h
  case receiving => exact receiving_confirmed hs hw honce hswitch
  case ready => exact ready_confirmed hs hw honce halloc hswitch
  case «begin» =>
    cases h
    exact enterInit_confirmed
  case init => exact enterChange_confirmed hw h
  case change =>
    have hplain : w.cp.sm.ltx → w.cp.sm.lki ≠ none ∧ w.cp.sm.lrx :=
      hw.lrx_of_ltx
    cases hc : w.cp.sm.connect <;> simp only [hc] at h <;> cases h
    · exact hw
    · exact hplain
    · exact hplain
    · exact hplain
  case secured => exact changeOrReceive_confirmed hw halloc h
  case receive =>
    refine enterIf_confirmed hw h fun h => ?_
    simp only [CpSm.Confirmed, hs] at hw
    cases h
    exact ⟨hw.1, rfl, hw.2⟩
  case transmit =>
    refine enterIf_confirmed hw h fun h => ?_
    simp only [CpSm.Confirmed, hs] at hw
    obtain ⟨kay, -, ⟨⟩⟩ := bind_eq_ok.mp h
    exact hw
  case transmitting => exact enterIf_confirmed hw h (hretire hw)
  case abandon =>
    split at h
    · exact hretire hw h
    · exact enterIf_confirmed hw h (enter_receive_confirmed halloc)
  case retire => exact changeOrReceive_confirmed hw halloc h
  all_goals exact enterIf_confirmed hw h (enterChange_confirmed hw)

lemma react_confirmed {ev : CpEvent ε} (hw : w.cp.sm.Confirmed)
    (hcond : EntersOnceWithMemory ops w ev) (h : w.react conf ops ev = .ok w') :
    w'.cp.sm.Confirmed := by
  cases ev with
  | input i =>
    cases h
    cases i <;> exact hw
  | smStep e =>
    obtain ⟨v, hv, hswitch⟩ := bind_eq_ok.mp h
    rcases enterIf_eq_ok.mp hv with ⟨-, hv⟩ | ⟨-, rfl⟩
    · cases hv
      exact smSwitch_confirmed enterInit_confirmed trivial hcond.2 hswitch
    · exact smSwitch_confirmed hw hcond.1 hcond.2 hswitch
  | _ =>
    cases h
    exact hw

end CpWorld

lemma cpSmInit_eq_ok {e : ε} {secy : Secy} {kay : κ} {w : CpWorld κ}
    (h : cpSmInit conf ops e secy kay = .ok w) :
    (CpWorld.enterInit ⟨CpPort.initial conf secy, kay⟩).enterChange ops = .ok w := h

/-- A CP all of whose evaluations of `SM_STEP(CP)` enter one state at a time, with memory for a key,
transmits only with a key that it has and receives with, and is in `TRANSMIT` only with a key. -/
theorem transmits_only_with_confirmed_key {e : ε} {secy : Secy} {kay : κ} {w₀ w : CpWorld κ}
    {evs : List (CpEvent ε)} (hinit : cpSmInit conf ops e secy kay = .ok w₀)
    (hcond : Along (CpWorld.react conf ops) (EntersOnceWithMemory ops) w₀ evs)
    (hrun : run (CpWorld.react conf ops) w₀ evs = .ok w) :
    (w.cp.sm.ltx → w.cp.sm.lki ≠ none ∧ w.cp.sm.lrx) ∧
      (w.cp.sm.state = .transmit → w.cp.sm.lki ≠ none) := by
  have h₀ : w₀.cp.sm.Confirmed :=
    CpWorld.enterChange_confirmed CpWorld.enterInit_confirmed (cpSmInit_eq_ok hinit)
  have hw : w.cp.sm.Confirmed :=
    run_along_induction (P := fun w => w.cp.sm.Confirmed)
      (fun _ _ _ hs hc hstep => CpWorld.react_confirmed hs hc hstep) h₀ hcond hrun
  refine ⟨hw.lrx_of_ltx, fun hstate => ?_⟩
  simp only [CpSm.Confirmed, hstate] at hw
  exact hw.1

/-- The SAK of `keyedKay`. -/
def keyedSak : DataKey where
  id := 1
  keyIdentifier := ⟨Octets.zero 12, 1⟩
  key := Octets.zero 16
  confidentialityOffset := .offset0
  an := 0

/-- A KaY with one participant that is principal and has a SAK and a receive SC. -/
def keyedKay : KayState :=
  let kay := Kay.initial ⟨.shouldEncrypt, 1, sampleAddr 1, none⟩
  let cp := CpPort.initial kay.conf Secy.untold
  let self := newParticipant default (Env.benign 0) ⟨kay, cp, []⟩ sampleName
    (Octets.zero 16) 0 .psk false (Octets.zero 12)
  { kay := kay.newDataKey keyedSak
    participants := [{ self with
      sakList := [keyedSak]
      rxscList := [⟨⟨sampleAddr 2, 1⟩, []⟩] }] }

/-- The key server is told its new SAK, receives with it and waits for its peers in `RECEIVING`. -/
def untilReceiving : List (CpEvent Env) :=
  [.input (.connect .secure), .smStep (Env.benign 0), .input (.electedself true),
    .input (.distributedki keyedSak.keyIdentifier), .input (.distributedan keyedSak.an),
    .input .newsak, .smStep (Env.benign 0), .smStep (Env.benign 0)]

/-- A key server that starts to transmit once its peers receive. -/
theorem transmits_with_confirmed_key_after_allreceiving :
    ∃ w₀ w, cpSmInit keyedKay.kay.conf (kayOps default) (Env.benign 0) Secy.untold keyedKay =
        .ok w₀ ∧
      run (CpWorld.react keyedKay.kay.conf (kayOps default)) w₀
        (untilReceiving ++ [.input (.allreceiving true), .smStep (Env.benign 0)]) = .ok w ∧
      w.cp.sm.ltx ∧ w.cp.sm.lki ≠ none ∧ w.cp.sm.lrx := by
  refine exists_ok₂ (fun w₀ _ =>
    Along (CpWorld.react keyedKay.kay.conf (kayOps default)) (EntersOnceWithMemory (kayOps default))
      w₀ (untilReceiving ++ [.input (.allreceiving true), .smStep (Env.benign 0)]))
    (by decide +kernel) fun w₀ w hinit hrun hltx hcond => ?_
  exact (transmits_only_with_confirmed_key hinit hcond hrun).1 hltx

/-- In `RECEIVING` a new SAK arrives together with the last peer's SAK use: one evaluation enters
`ABANDON`, which drops the latest key, and then `TRANSMIT`. -/
theorem transmits_without_key :
    ∃ w₀ w, cpSmInit keyedKay.kay.conf (kayOps default) (Env.benign 0) Secy.untold keyedKay =
        .ok w₀ ∧
      run (CpWorld.react keyedKay.kay.conf (kayOps default)) w₀
        (untilReceiving ++ [.input .newsak, .input (.allreceiving true), .smStep (Env.benign 0)]) =
          .ok w ∧
      w.cp.sm.state = .transmit ∧ w.cp.sm.ltx ∧ w.cp.sm.lki = none ∧ w.cp.sm.lrx = false :=
  ⟨_, _, rfl, rfl, rfl, rfl, rfl, rfl⟩

/-! ## The controlled port -/

/-- The variables that are pushed to the SecY are as the KaY is configured. -/
def CpSm.ProtectedAs (conf : MacsecConf) (sm : CpSm) : Prop :=
  sm.protectFrames = conf.macsecProtect ∧ sm.replayProtect = conf.macsecReplayProtect ∧
    sm.validateFrames = conf.macsecValidate

/-- The port is open only under the intended protection: it is closed up to `CHANGE`, unprotected in
`ALLOWED` and `AUTHENTICATED`, and protected as configured from `SECURED` on. -/
def CpSm.Guarded (conf : MacsecConf) (sm : CpSm) : Prop :=
  match sm.state with
  | .begin => sm.controlledPortEnabled = false
  | .init => sm.controlledPortEnabled = false
  | .change => sm.controlledPortEnabled = false
  | .allowed => sm.protectFrames = false
  | .authenticated => sm.protectFrames = false
  | _ => sm.ProtectedAs conf

/-- What the SecY was last told is what the machine has. -/
def CpPort.Synced (p : CpPort) : Prop :=
  p.secy.enablePort = p.sm.controlledPortEnabled ∧ p.secy.protectFrames = p.sm.protectFrames ∧
    p.secy.validateFrames = p.sm.validateFrames

variable {ε κ : Type} {conf : MacsecConf} {ops : KayOps ε κ}

/-- `ieee802_1x_kay_create_mka` happens while the machine protects frames as configured. -/
def CreatesWhileProtected (conf : MacsecConf) (w : CpWorld κ) : CpEvent ε → Prop
  | .createMka => w.cp.sm.protectFrames = conf.macsecProtect
  | _ => True

instance (w : CpWorld κ) (ev : CpEvent ε) : Decidable (CreatesWhileProtected conf w ev) := by
  cases ev <;> unfold CreatesWhileProtected <;> infer_instance

namespace CpWorld

variable {e : ε} {w w' : CpWorld κ} {state : CpState} {ev : CpEvent ε}

/-- States that leave the protection alone. -/
lemma enter_keepsProtection (hkeep : state.keepsProtection)
    (h : w.enter conf ops e state = .ok w') :
    w'.cp.sm.state = state ∧ (w.cp.sm.ProtectedAs conf → w'.cp.sm.ProtectedAs conf) ∧
      (w.cp.Synced → w'.cp.Synced) := by
  cases state with
  | receive =>
    cases h
    cases halloc : ops.mallocLki e with
    | false =>
      simp only [enterReceive, halloc]
      exact ⟨rfl, id, id⟩
    | true =>
      obtain ⟨used, stepCb, hcp⟩ := enterReceive_cp (w := w) halloc
      rw [hcp]
      exact ⟨rfl, id, id⟩
  | transmit =>
    obtain ⟨⟨kay, enabled⟩, -, ⟨⟩⟩ := bind_eq_ok.mp h
    cases enabled <;> exact ⟨rfl, id, fun hw => ⟨rfl, hw.2⟩⟩
  | ready | transmitting | abandon =>
    obtain ⟨kay, -, ⟨⟩⟩ := bind_eq_ok.mp h
    exact ⟨rfl, id, id⟩
  | receiving | retire =>
    cases h
    exact ⟨rfl, id, id⟩
  | _ => cases hkeep

lemma guarded_of_keepsProtection (hs : w.cp.sm.state.keepsProtection)
    (hw : w.cp.sm.ProtectedAs conf) : w.cp.sm.Guarded conf := by
  unfold CpSm.Guarded
  split <;> simp_all [CpState.keepsProtection]

/-- Entering a state keeps the port guarded. -/
lemma enter_guarded (hkeep : state.keepsProtection → w.cp.sm.ProtectedAs conf)
    (hbegin : state ≠ .begin) (h : w.enter conf ops e state = .ok w') :
    w'.cp.sm.Guarded conf ∧ (state.keepsProtection → w'.cp.sm.ProtectedAs conf) := by
  by_cases hk : state.keepsProtection
  · obtain ⟨hs, hprotected, -⟩ := enter_keepsProtection hk h
    have hw' := hprotected (hkeep hk)
    exact ⟨guarded_of_keepsProtection (by rw [hs]; exact hk) hw', fun _ => hw'⟩
  refine ⟨?_, fun hk' => absurd hk' hk⟩
  cases state with
  | «begin» => exact absurd rfl hbegin
  | change =>
    rw [enterChange_cp h]
    rfl
  | secured =>
    cases h
    exact ⟨rfl, rfl, rfl⟩
  | init | allowed | authenticated =>
    cases h
    rfl
  | _ => exact absurd rfl hk

lemma enter_synced (hw : w.cp.Synced) (h : w.enter conf ops e state = .ok w') : w'.cp.Synced := by
  by_cases hk : state.keepsProtection
  · exact (enter_keepsProtection hk h).2.2 hw
  cases state with
  | init =>
    cases h
    exact ⟨rfl, hw.2⟩
  | change =>
    rw [enterChange_cp h]
    exact ⟨rfl, hw.2⟩
  | allowed | authenticated =>
    cases h
    exact ⟨rfl, rfl, rfl⟩
  | secured =>
    cases h
    exact ⟨hw.1, rfl, rfl⟩
  | «begin» =>
    cases h
    exact hw
  | _ => exact absurd rfl hk

lemma guarded_protected (hw : w.cp.sm.Guarded conf)
    (hs : w.cp.sm.state = .secured ∨ w.cp.sm.state.keepsProtection) : w.cp.sm.ProtectedAs conf := by
  unfold CpSm.Guarded at hw
  cases hstate : w.cp.sm.state <;> simp [hstate, CpState.keepsProtection] at hs hw <;> exact hw

lemma react_guarded (hw : w.cp.sm.Guarded conf) (h : w.react conf ops ev = .ok w') :
    w'.cp.sm.Guarded conf := by
  cases ev with
  | smStep e =>
    exact smStep_induction (P := fun w => w.cp.sm.Guarded conf) (fun _ => guarded_protected)
      (fun _ _ _ _ hstep hbegin hkeep => enter_guarded hkeep hbegin hstep) hw h
  | input i =>
    cases h
    cases i <;> exact hw
  | _ =>
    cases h
    exact hw

/-- Every event keeps the SecY in step, the creation of an MKA instance only while the machine
protects frames as configured. -/
lemma react_synced (hw : w.cp.Synced) (hcond : CreatesWhileProtected conf w ev)
    (h : w.react conf ops ev = .ok w') : w'.cp.Synced := by
  cases ev with
  | smStep e =>
    exact smStep_induction (P := fun w => w.cp.Synced) (fun _ _ _ => trivial)
      (fun _ _ _ hv hstep _ _ => ⟨enter_synced hv hstep, fun _ => trivial⟩) hw h
  | input i =>
    cases h
    cases i <;> exact hw
  | transmitWhen | retireWhen =>
    cases h
    exact hw
  | createMka =>
    cases h
    exact ⟨hw.1, hcond.symm, hw.2.2⟩

end CpWorld

/-- In every run the controlled port is open only in `ALLOWED` and `AUTHENTICATED`, unprotected, or
protected as the KaY is configured.  In every run in which an MKA instance is created only while the
machine protects frames as configured, the SecY was last told what the machine has. -/
theorem port_guarded_and_secy_synced {e : ε} {secy : Secy} {kay : κ} {w₀ w : CpWorld κ}
    {evs : List (CpEvent ε)} (hinit : cpSmInit conf ops e secy kay = .ok w₀)
    (hrun : run (CpWorld.react conf ops) w₀ evs = .ok w) :
    (w.cp.sm.controlledPortEnabled →
      (w.cp.sm.state = .allowed ∨ w.cp.sm.state = .authenticated) ∧ w.cp.sm.protectFrames = false ∨
      w.cp.sm.protectFrames = conf.macsecProtect ∧
        w.cp.sm.replayProtect = conf.macsecReplayProtect ∧
        w.cp.sm.validateFrames = conf.macsecValidate) ∧
    (Along (CpWorld.react conf ops) (CreatesWhileProtected conf) w₀ evs →
      w.cp.secy.enablePort = w.cp.sm.controlledPortEnabled ∧
        w.cp.secy.protectFrames = w.cp.sm.protectFrames ∧
        w.cp.secy.validateFrames = w.cp.sm.validateFrames) := by
  have hcp := CpWorld.enterChange_cp (cpSmInit_eq_ok hinit)
  refine ⟨fun hport => ?_, fun hcond => ?_⟩
  · have hw : w.cp.sm.Guarded conf :=
      run_induction (P := fun w => w.cp.sm.Guarded conf)
        (fun _ _ _ hs hstep => CpWorld.react_guarded hs hstep) (by rw [hcp]; rfl) hrun
    unfold CpSm.Guarded at hw
    cases hs : w.cp.sm.state <;> simp only [hs] at hw
    case «begin» => exact absurd hport (by simp [hw])
    case init => exact absurd hport (by simp [hw])
    case change => exact absurd hport (by simp [hw])
    case allowed => exact .inl ⟨.inl rfl, hw⟩
    case authenticated => exact .inl ⟨.inr rfl, hw⟩
    all_goals exact .inr hw
  · exact run_along_induction (P := fun w => w.cp.Synced)
      (fun _ _ _ hs hc hstep => CpWorld.react_synced hs hc hstep)
      (by rw [hcp]; exact ⟨rfl, rfl, rfl⟩) hcond hrun

/-- An MKA instance that is created while the machine is in `CHANGE`: the SecY is in step after the
port was opened unauthenticated. -/
theorem secy_synced_after_createMka :
    ∃ w₀ w, cpSmInit keyedKay.kay.conf (kayOps default) (Env.benign 0) Secy.untold keyedKay =
        .ok w₀ ∧
      run (CpWorld.react keyedKay.kay.conf (kayOps default)) w₀
        [.createMka, .input (.connect .unauthenticated), .smStep (Env.benign 0)] = .ok w ∧
      w.cp.sm.controlledPortEnabled ∧ w.cp.secy.protectFrames = w.cp.sm.protectFrames := by
  refine exists_ok₂ (fun w₀ _ => Along (CpWorld.react keyedKay.kay.conf (kayOps default))
    (CreatesWhileProtected keyedKay.kay.conf) w₀
    [.createMka, .input (.connect .unauthenticated), .smStep (Env.benign 0)])
    (by decide +kernel) fun w₀ w hinit hrun _ hcond => ?_
  exact ((port_guarded_and_secy_synced hinit hrun).2 hcond).2.1

/-- An MKA instance that is created while the machine is in `ALLOWED`, as when the instance is
replaced a second time before a peer is live: the port is open and the machine does not protect
frames, but the SecY was told to. -/
theorem secy_not_synced_after_createMka :
    ∃ w₀ w, cpSmInit keyedKay.kay.conf (kayOps default) (Env.benign 0) Secy.untold keyedKay =
        .ok w₀ ∧
      run (CpWorld.react keyedKay.kay.conf (kayOps default)) w₀
        [.input (.connect .unauthenticated), .createMka, .smStep (Env.benign 0),
          .input (.connect .unauthenticated), .createMka, .smStep (Env.benign 0)] = .ok w ∧
      w.cp.sm.state = .allowed ∧ w.cp.sm.controlledPortEnabled ∧
      w.cp.sm.protectFrames = false ∧ w.cp.secy.protectFrames :=
  ⟨_, _, rfl, rfl, rfl, rfl, rfl, rfl⟩

end Hostapd.Pae
