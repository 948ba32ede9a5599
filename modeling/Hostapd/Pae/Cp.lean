import Hostapd.Pae.Defs

/-!
# The controlled port state machine

`ieee802_1x_cp.c`: the variables of the CP machine (`CpSm`), the actions on entering each of its
states, one evaluation of its transitions (`smStep`), the loop `cpStepRun` that evaluates them until
the state is stable, and the three event loop callbacks.

The seven functions by which the CP calls the KaY are a parameter (`KayOps`), over an arbitrary type
`κ` of KaY states. A function that reports back by setting a CP variable returns its value.
-/

namespace Hostapd.Pae

open Wire

/-! ## State -/

/-- `enum cp_states`. -/
inductive CpState
  | begin
  | init
  | change
  | allowed
  | authenticated
  | secured
  | receive
  | receiving
  | ready
  | transmit
  | transmitting
  | abandon
  | retire
deriving DecidableEq

/-- How the KaY connects. -/
inductive ConnectType
  | pending
  | unauthenticated
  | authenticated
  | secure
deriving DecidableEq

/-- The fields of `struct ieee802_1x_kay` that the CP reads.  They are written by
`ieee802_1x_kay_init` only. -/
structure MacsecConf where
  macsecProtect : Bool
  macsecEncrypt : Bool
  macsecValidate : ValidateFrames
  macsecReplayProtect : Bool
  macsecReplayWindow : UInt32

/-- `struct ieee802_1x_cp_sm`.  `lki` and `oki` are `none` where the source has `NULL`. -/
structure CpSm where
  state : CpState
  portValid : Bool
  connect : ConnectType
  chgdServer : Bool
  electedSelf : Bool
  cipherOffset : ConfidentialityOffset
  cipherSuite : UInt64
  newSak : Bool
  distributedKi : Ki
  distributedAn : UInt8
  usingReceiveSas : Bool
  allReceiving : Bool
  serverTransmitting : Bool
  usingTransmitSa : Bool
  lki : Option Ki
  lan : UInt8
  ltx : Bool
  lrx : Bool
  oki : Option Ki
  oan : UInt8
  otx : Bool
  orx : Bool
  protectFrames : Bool
  validateFrames : ValidateFrames
  replayProtect : Bool
  replayWindow : UInt32
  currentCipherSuite : UInt64
  confidentialityOffset : ConfidentialityOffset
  controlledPortEnabled : Bool
  portEnabled : Bool
  transmitWhen : ℕ
  transmitDelay : ℕ
  retireWhen : ℕ
  retireDelay : ℕ

/-- What the SecY was last told through `secy_cp_control_*`. -/
structure Secy where
  enablePort : Bool
  protectFrames : Bool
  encrypt : Bool
  validateFrames : ValidateFrames
  replayProtect : Bool
  replayWindow : UInt32
  currentCipherSuite : UInt64
  confidentialityOffset : ConfidentialityOffset

/-- A SecY before it was told anything. -/
def Secy.untold : Secy where
  enablePort := false
  protectFrames := false
  encrypt := false
  validateFrames := .disabled
  replayProtect := false
  replayWindow := 0
  currentCipherSuite := 0
  confidentialityOffset := .none

/-- The CP machine with what it drives: the SecY and its three event loop timeouts. -/
structure CpPort where
  sm : CpSm
  secy : Secy
  /-- `ieee802_1x_cp_step_cb` is registered. -/
  stepCb : Bool
  /-- `ieee802_1x_cp_transmit_when_timeout` is registered. -/
  transmitWhenCb : Bool
  /-- `ieee802_1x_cp_retire_when_timeout` is registered. -/
  retireWhenCb : Bool

/-- The CP with its KaY. -/
structure CpWorld (κ : Type) where
  cp : CpPort
  kay : κ

/-- The KaY functions that the CP calls, over KaY states `κ`; `ε` is what the environment
decides. -/
structure KayOps (ε κ : Type) where
  /-- `os_malloc` of the `lki` in `SM_STATE(CP, RECEIVE)` succeeds. -/
  mallocLki : ε → Bool
  setLatestSaAttr : κ → Option Ki → UInt8 → Bool → Bool → κ
  setOldSaAttr : κ → Option Ki → UInt8 → Bool → Bool → κ
  createSas : ε → κ → Ki → κ
  deleteSas : κ → Option Ki → Checked κ
  /-- `ieee802_1x_kay_enable_rx_sas`; the flag is set when some receive SA was enabled, which sets
  `using_receive_sas` and calls `ieee802_1x_cp_sm_step`. -/
  enableRxSas : κ → Ki → κ × Bool
  /-- `ieee802_1x_kay_enable_tx_sas`; the flag is set when some transmit SA was enabled, which
  sets `using_transmit_sa` and calls `ieee802_1x_cp_sm_step`. -/
  enableTxSas : κ → Option Ki → Checked (κ × Bool)
  enableNewInfo : ε → κ → Checked κ

/-! ## Inputs -/

namespace CpPort

/-- `ieee802_1x_cp_sm_step`: a step is left to the event loop. -/
def smStep (p : CpPort) : CpPort := { p with stepCb := true }

variable (p : CpPort)

/-- `ieee802_1x_cp_connect_pending`, `_unauthenticated`, `_authenticated` and `_secure`. -/
def setConnect (c : ConnectType) : CpPort := { p with sm.connect := c }

def connectUnauthenticated : CpPort := p.setConnect .unauthenticated

def connectAuthenticated : CpPort := p.setConnect .authenticated

def connectSecure : CpPort := p.setConnect .secure

def signalChgdserver : CpPort := { p with sm.chgdServer := true }

variable (status : Bool)

def setElectedself : CpPort := { p with sm.electedSelf := status }

def setCiphersuite (cs : UInt64) : CpPort := { p with sm.cipherSuite := cs }

def setOffset (offset : ConfidentialityOffset) : CpPort :=
  { p with sm.cipherOffset := offset }

def signalNewsak : CpPort := { p with sm.newSak := true }

def setDistributedki (dki : Ki) : CpPort := { p with sm.distributedKi := dki }

def setDistributedan (an : UInt8) : CpPort := { p with sm.distributedAn := an }

def setUsingreceivesas : CpPort :=
  { p with sm.usingReceiveSas := status }

def setAllreceiving : CpPort := { p with sm.allReceiving := status }

def setServertransmitting : CpPort :=
  { p with sm.serverTransmitting := status }

def setUsingtransmitas : CpPort :=
  { p with sm.usingTransmitSa := status }

end CpPort

namespace CpSm

/-- The cipher suite or the offset has changed. -/
def changedCipher (sm : CpSm) : Bool :=
  sm.confidentialityOffset != sm.cipherOffset || sm.currentCipherSuite != sm.cipherSuite

def changedConnect (sm : CpSm) : Bool :=
  sm.connect != .secure || sm.chgdServer || sm.changedCipher

end CpSm

/-! ## Entering a state

Each function is the `SM_STATE(CP, ..)` of its name: `SM_ENTRY` sets `CP_state`, the rest is the
action. -/

namespace CpWorld

variable {ε κ : Type}

/-- `SM_STATE(CP, INIT)`. -/
def enterInit (w : CpWorld κ) : CpWorld κ :=
  { w with
    cp.sm.state := .init
    cp.sm.controlledPortEnabled := false
    cp.secy.enablePort := false
    cp.sm.portValid := false
    cp.sm.lki := none
    cp.sm.ltx := false
    cp.sm.lrx := false
    cp.sm.oki := none
    cp.sm.otx := false
    cp.sm.orx := false
    cp.sm.portEnabled := true
    cp.sm.chgdServer := false }

/-- `ieee802_1x_kay_delete_sas` for a key that the CP has, if it has one. -/
def deleteSasOf (ops : KayOps ε κ) (w : CpWorld κ) (ki : Option Ki) : Checked (CpWorld κ) :=
  match ki with
  | none => .ok w
  | some ki => do
    let kay ← ops.deleteSas w.kay (some ki)
    return { w with kay := kay }

/-- `SM_STATE(CP, CHANGE)`. -/
def enterChange (ops : KayOps ε κ) (w : CpWorld κ) : Checked (CpWorld κ) := do
  let w : CpWorld κ := { w with
    cp.sm.state := .change
    cp.sm.portValid := false
    cp.sm.controlledPortEnabled := false
    cp.secy.enablePort := false }
  let w ← deleteSasOf ops w w.cp.sm.lki
  deleteSasOf ops w w.cp.sm.oki

variable (conf : MacsecConf)

/-- The actions that `SM_STATE(CP, ALLOWED)` and `SM_STATE(CP, AUTHENTICATED)` share: the port is
opened without protection. -/
def enterUnprotected (state : CpState) (w : CpWorld κ) : CpWorld κ :=
  { w with
    cp.sm.state := state
    cp.sm.protectFrames := false
    cp.sm.replayProtect := false
    cp.sm.validateFrames := .checked
    cp.sm.portValid := false
    cp.sm.controlledPortEnabled := true
    cp.secy.enablePort := true
    cp.secy.protectFrames := false
    cp.secy.encrypt := conf.macsecEncrypt
    cp.secy.validateFrames := .checked
    cp.secy.replayProtect := false
    cp.secy.replayWindow := w.cp.sm.replayWindow }

/-- `SM_STATE(CP, ALLOWED)`. -/
def enterAllowed (w : CpWorld κ) : CpWorld κ :=
  enterUnprotected conf .allowed w

/-- `SM_STATE(CP, AUTHENTICATED)`. -/
def enterAuthenticated (w : CpWorld κ) : CpWorld κ :=
  enterUnprotected conf .authenticated w

/-- `SM_STATE(CP, SECURED)`. -/
def enterSecured (w : CpWorld κ) : CpWorld κ :=
  { w with
    cp.sm.state := .secured
    cp.sm.chgdServer := false
    cp.sm.protectFrames := conf.macsecProtect
    cp.sm.replayProtect := conf.macsecReplayProtect
    cp.sm.validateFrames := conf.macsecValidate
    cp.sm.currentCipherSuite := w.cp.sm.cipherSuite
    cp.secy.currentCipherSuite := w.cp.sm.cipherSuite
    cp.sm.confidentialityOffset := w.cp.sm.cipherOffset
    cp.sm.portValid := true
    cp.secy.confidentialityOffset := w.cp.sm.cipherOffset
    cp.secy.protectFrames := conf.macsecProtect
    cp.secy.encrypt := conf.macsecEncrypt
    cp.secy.validateFrames := conf.macsecValidate
    cp.secy.replayProtect := conf.macsecReplayProtect
    cp.secy.replayWindow := w.cp.sm.replayWindow }

/-- `ieee802_1x_kay_set_latest_sa_attr` with the machine's own variables. -/
def setLatestSaAttr (ops : KayOps ε κ) (w : CpWorld κ) : CpWorld κ :=
  { w with kay := ops.setLatestSaAttr w.kay w.cp.sm.lki w.cp.sm.lan w.cp.sm.ltx w.cp.sm.lrx }

/-- `ieee802_1x_kay_set_old_sa_attr` with the machine's own variables. -/
def setOldSaAttr (ops : KayOps ε κ) (w : CpWorld κ) : CpWorld κ :=
  { w with kay := ops.setOldSaAttr w.kay w.cp.sm.oki w.cp.sm.oan w.cp.sm.otx w.cp.sm.orx }

variable (ops : KayOps ε κ) (e : ε) (w : CpWorld κ)

/-- `SM_STATE(CP, RECEIVE)`: the latest key becomes the old one and the distributed key the
latest. -/
def enterReceive : CpWorld κ :=
  let w : CpWorld κ := setOldSaAttr ops { w with
    cp.sm.state := .receive
    cp.sm.oki := w.cp.sm.lki
    cp.sm.oan := w.cp.sm.lan
    cp.sm.otx := w.cp.sm.ltx
    cp.sm.orx := w.cp.sm.lrx }
  if ops.mallocLki e then
    let ki := w.cp.sm.distributedKi
    let w : CpWorld κ := setLatestSaAttr ops { w with
      cp.sm.lki := some ki
      cp.sm.lan := w.cp.sm.distributedAn
      cp.sm.ltx := false
      cp.sm.lrx := false }
    let enabled := ops.enableRxSas (ops.createSas e w.kay ki) ki
    let cp := if enabled.2 then (w.cp.setUsingreceivesas true).smStep else w.cp
    { cp := { cp with sm.newSak := false, sm.allReceiving := false }, kay := enabled.1 }
  else
    { w with cp.sm.lki := none }

/-- `SM_STATE(CP, RECEIVING)`. -/
def enterReceiving : CpWorld κ :=
  let w := setLatestSaAttr ops { w with cp.sm.state := .receiving, cp.sm.lrx := true }
  { w with
    cp.sm.transmitWhen := w.cp.sm.transmitDelay
    cp.transmitWhenCb := true
    cp.stepCb := true
    cp.sm.usingReceiveSas := false
    cp.sm.serverTransmitting := false }

/-- `SM_STATE(CP, READY)`. -/
def enterReady : Checked (CpWorld κ) := do
  let kay ← ops.enableNewInfo e w.kay
  return { w with cp.sm.state := .ready, kay := kay }

/-- `SM_STATE(CP, TRANSMIT)`. -/
def enterTransmit : Checked (CpWorld κ) := do
  let w := setLatestSaAttr ops { w with
    cp.sm.state := .transmit
    cp.sm.controlledPortEnabled := true
    cp.secy.enablePort := true
    cp.sm.ltx := true }
  let enabled ← ops.enableTxSas w.kay w.cp.sm.lki
  let cp := if enabled.2 then (w.cp.setUsingtransmitas true).smStep else w.cp
  return { cp := { cp with sm.allReceiving := false, sm.serverTransmitting := false },
           kay := enabled.1 }

/-- `SM_STATE(CP, TRANSMITTING)`. -/
def enterTransmitting : Checked (CpWorld κ) := do
  let w := setOldSaAttr ops { w with
    cp.sm.state := .transmitting
    cp.sm.retireWhen := if w.cp.sm.orx then w.cp.sm.retireDelay else 0
    cp.sm.otx := false }
  let kay ← ops.enableNewInfo e w.kay
  return { w with
    kay := kay
    cp.retireWhenCb := true
    cp.sm.usingTransmitSa := false }

/-- `SM_STATE(CP, ABANDON)`. -/
def enterAbandon : Checked (CpWorld κ) := do
  let w := setLatestSaAttr ops { w with cp.sm.state := .abandon, cp.sm.lrx := false }
  let kay ← ops.deleteSas w.kay w.cp.sm.lki
  let w := setLatestSaAttr ops { w with kay := kay, cp.sm.lki := none }
  return { w with cp.sm.newSak := false }

/-- `SM_STATE(CP, RETIRE)`. -/
def enterRetire : CpWorld κ :=
  setOldSaAttr ops { w with
    cp.sm.state := .retire
    cp.sm.oki := none
    cp.sm.orx := false
    cp.sm.otx := false }

/-- `SM_ENTER(CP, state)`; no transition enters `BEGIN`. -/
def enter : CpState → Checked (CpWorld κ)
  | .begin => .ok w
  | .init => .ok (enterInit w)
  | .change => enterChange ops w
  | .allowed => .ok (enterAllowed conf w)
  | .authenticated => .ok (enterAuthenticated conf w)
  | .secured => .ok (enterSecured conf w)
  | .receive => .ok (enterReceive ops e w)
  | .receiving => .ok (enterReceiving ops w)
  | .ready => enterReady ops e w
  | .transmit => enterTransmit ops w
  | .transmitting => enterTransmitting ops e w
  | .abandon => enterAbandon ops w
  | .retire => .ok (enterRetire ops w)

/-- `if (cond) SM_ENTER(CP, state);`. -/
def enterIf (cond : CpSm → Bool) (state : CpState) (w : CpWorld κ) : Checked (CpWorld κ) :=
  if cond w.cp.sm then enter conf ops e w state else .ok w

/-! ## Steps -/

/-- The `switch` of `SM_STEP(CP)`.  The branches of `RECEIVING` and `READY` are independent `if`s,
each reading the variables that the one before it left. -/
def smSwitch : Checked (CpWorld κ) :=
  let sm := w.cp.sm
  match sm.state with
  | .begin => enter conf ops e w .init
  | .init => enter conf ops e w .change
  | .change =>
    match sm.connect with
    | .unauthenticated => enter conf ops e w .allowed
    | .authenticated => enter conf ops e w .authenticated
    | .secure => enter conf ops e w .secured
    | .pending => .ok w
  | .allowed => enterIf conf ops e (fun sm => sm.connect != .unauthenticated) .change w
  | .authenticated => enterIf conf ops e (fun sm => sm.connect != .authenticated) .change w
  | .secured =>
    if sm.changedConnect then enter conf ops e w .change
    else enterIf conf ops e (fun sm => sm.newSak) .receive w
  | .receive => enterIf conf ops e (fun sm => sm.usingReceiveSas) .receiving w
  | .receiving => do
    let w ← enterIf conf ops e (fun sm => sm.newSak || sm.changedConnect) .abandon w
    let w ← enterIf conf ops e (fun sm => !sm.electedSelf) .ready w
    enterIf conf ops e
      (fun sm => sm.electedSelf && (sm.allReceiving || sm.transmitWhen == 0)) .transmit w
  | .transmit => enterIf conf ops e (fun sm => sm.usingTransmitSa) .transmitting w
  | .transmitting =>
    enterIf conf ops e (fun sm => sm.retireWhen == 0 || sm.changedConnect) .retire w
  | .retire =>
    if sm.changedConnect then enter conf ops e w .change
    else enterIf conf ops e (fun sm => sm.newSak) .receive w
  | .ready => do
    let w ← enterIf conf ops e (fun sm => sm.newSak || sm.changedConnect) .receive w
    enterIf conf ops e (fun sm => sm.serverTransmitting) .transmit w
  | .abandon =>
    if sm.changedConnect then enter conf ops e w .retire
    else enterIf conf ops e (fun sm => sm.newSak) .receive w

/-- `SM_STEP(CP)`. -/
def smStep : Checked (CpWorld κ) := do
  let w ← enterIf conf ops e (fun sm => !sm.portEnabled) .init w
  smSwitch conf ops e w

/-- The loop of `ieee802_1x_cp_step_run` with `fuel` iterations left, the next one in the
environment `es i`. -/
def stepLoop (conf : MacsecConf) (ops : KayOps ε κ) (es : ℕ → ε) :
    ℕ → ℕ → CpWorld κ → Checked (CpWorld κ)
  | 0, _, w => .ok w
  | fuel + 1, i, w => do
    let w' ← smStep conf ops (es i) w
    if w'.cp.sm.state = w.cp.sm.state then .ok w' else stepLoop conf ops es fuel (i + 1) w'

variable (es : ℕ → ε)

def cpStepRun (w : CpWorld κ) : Checked (CpWorld κ) :=
  stepLoop conf ops es 100 0 w

/-- `ieee802_1x_cp_step_cb`, called by the event loop when its timeout is registered. -/
def cpStepCb (w : CpWorld κ) : Checked (CpWorld κ) :=
  if w.cp.stepCb then cpStepRun conf ops es { w with cp.stepCb := false } else .ok w

/-- `ieee802_1x_cp_transmit_when_timeout`. -/
def cpTransmitWhenTimeout (w : CpWorld κ) : Checked (CpWorld κ) :=
  if w.cp.transmitWhenCb then
    cpStepRun conf ops es { w with cp.transmitWhenCb := false, cp.sm.transmitWhen := 0 }
  else .ok w

/-- `ieee802_1x_cp_retire_when_timeout`. -/
def cpRetireWhenTimeout (w : CpWorld κ) : Checked (CpWorld κ) :=
  if w.cp.retireWhenCb then
    cpStepRun conf ops es { w with cp.retireWhenCb := false, cp.sm.retireWhen := 0 }
  else .ok w

end CpWorld

/-! ## Initialisation -/

/-- The machine as `ieee802_1x_cp_sm_init` fills it in before entering `INIT`; what it does not
set is zero. -/
def CpSm.initial (conf : MacsecConf) : CpSm where
  state := .begin
  portValid := false
  connect := .pending
  chgdServer := false
  electedSelf := false
  cipherOffset := .offset0
  cipherSuite := csIdGcmAes128
  newSak := false
  distributedKi := Ki.zero
  distributedAn := 0
  usingReceiveSas := false
  allReceiving := false
  serverTransmitting := false
  usingTransmitSa := false
  lki := none
  lan := 0
  ltx := false
  lrx := false
  oki := none
  oan := 0
  otx := false
  orx := false
  protectFrames := conf.macsecProtect
  validateFrames := conf.macsecValidate
  replayProtect := conf.macsecReplayProtect
  replayWindow := conf.macsecReplayWindow
  currentCipherSuite := csIdGcmAes128
  confidentialityOffset := .offset0
  controlledPortEnabled := false
  portEnabled := false
  transmitWhen := 0
  transmitDelay := mkaLifeTime
  retireWhen := 0
  retireDelay := mkaSakRetireTime

/-- The SecY after the `secy_cp_control_*` calls of `ieee802_1x_cp_sm_init`; it is not told a
cipher suite. -/
def Secy.initial (conf : MacsecConf) (secy : Secy) : Secy :=
  { secy with
    protectFrames := conf.macsecProtect
    encrypt := conf.macsecEncrypt
    validateFrames := conf.macsecValidate
    replayProtect := conf.macsecReplayProtect
    replayWindow := conf.macsecReplayWindow
    enablePort := false
    confidentialityOffset := .offset0 }

/-- The CP before `ieee802_1x_cp_sm_init` enters `INIT`. -/
def CpPort.initial (conf : MacsecConf) (secy : Secy) : CpPort where
  sm := CpSm.initial conf
  secy := Secy.initial conf secy
  stepCb := false
  transmitWhenCb := false
  retireWhenCb := false

/-- `ieee802_1x_cp_sm_init`: the machine enters `INIT` and takes one step. -/
def cpSmInit {ε κ : Type} (conf : MacsecConf) (ops : KayOps ε κ) (e : ε) (secy : Secy) (kay : κ) :
    Checked (CpWorld κ) :=
  CpWorld.smStep conf ops e (CpWorld.enterInit { cp := CpPort.initial conf secy, kay := kay })

end Hostapd.Pae
