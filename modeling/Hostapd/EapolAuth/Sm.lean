import Hostapd.EapServer.Sm

/-!
# The port machines of the authenticator

`src/eapol_auth/eapol_auth_sm.c`: the machines of one port, stepped together with the EAP server
machine that they share an interface record with, and what the rest of the authenticator does to
their variables (`src/ap/ieee802_1x.c`, `src/ap/wpa_auth_glue.c`), without the stations that a
cached or an FT key lets in.

What is called from the middle of a step and the steps of the single machines are events of their
own, so that a run can have them in any order.
-/

namespace Hostapd.EapolAuth

open Wire (Bytes)
open EapServer

/-! ## Types -/

/-- `PortTypes`. -/
inductive PortType
  | forceUnauthorized
  | auto
  | forceAuthorized
deriving DecidableEq

/-- The status of a port. -/
inductive PortState
  | unauthorized
  | authorized
deriving DecidableEq

/-- The directions that are controlled. -/
inductive ControlledDirection
  | both
  | inward
deriving DecidableEq

/-- `auth_pae_state`. -/
inductive AuthPae
  | initialise
  | disconnected
  | connecting
  | authenticating
  | authenticated
  | aborting
  | held
  | forceAuth
  | forceUnauth
  | restart
deriving DecidableEq

/-- `be_auth_state`. -/
inductive BeAuth
  | request
  | response
  | success
  | fail
  | timeout
  | idle
  | initialise
  | ignore
deriving DecidableEq

/-- `struct eapol_state_machine`.  A machine with two states is a flag that says that it is in the
second of them. -/
structure Port (W P : Type) where
  aWhile : ℕ := 0
  quietWhile : ℕ := 0
  reAuthWhen : ℕ := 0
  authAbort : Bool := false
  authFail : Bool := false
  /-- `authPortStatus`, which has none of its values at first. -/
  authPortStatus : Option PortState := none
  authStart : Bool := false
  authTimeout : Bool := false
  authSuccess : Bool := false
  eapolEap : Bool := false
  initialise : Bool := false
  keyDone : Bool := false
  keyRun : Bool := false
  keyTxEnabled : Bool := false
  portControl : PortType := .auto
  portValid : Bool := false
  reAuthenticate : Bool := false
  authPae : AuthPae := .initialise
  eapolLogoff : Bool := false
  eapolStart : Bool := false
  /-- `portMode`, which has none of its values at first. -/
  portMode : Option PortType := none
  reAuthCount : ℕ := 0
  quietPeriod : ℕ := 60
  reAuthMax : ℕ := 2
  beAuth : BeAuth := .initialise
  serverTimeout : ℕ := 30
  /-- `reauth_timer_state` is `REAUTH_TIMER_REAUTHENTICATE`. -/
  reauthenticating : Bool := false
  reAuthPeriod : ℕ := 0
  reAuthEnabled : Bool := false
  /-- `auth_key_tx_state` is `AUTH_KEY_TX_KEY_TRANSMIT`. -/
  keyTransmit : Bool := false
  /-- `key_rx_state` is `KEY_RX_KEY_RECEIVE`. -/
  keyReceive : Bool := false
  rxKey : Bool := false
  /-- `ctrl_dir_state` is `CTRL_DIR_IN_OR_BOTH`. -/
  inOrBoth : Bool := true
  adminControlledDirections : ControlledDirection := .both
  operControlledDirections : ControlledDirection := .both
  operEdge : Bool := false
  usesWpa : Bool := false
  initialising : Bool := false
  /-- `eap`, with the interface record. -/
  eap : EapSm W P

namespace Port

variable {W P : Type} (s : Port W P)

def note (e : Entry) : Port W P := { s with eap := { s.eap with log := e :: s.eap.log } }

def modifyIf (f : EapIf → EapIf) : Port W P :=
  { s with eap := { s.eap with eapIf := f s.eap.eapIf } }

def eapIf (s : Port W P) : EapIf := s.eap.eapIf

/-! ## `AUTH_PAE` -/

/-- `SM_STATE(AUTH_PAE, INITIALIZE)`. -/
def enterInitialise : Port W P :=
  { s with authPae := .initialise, portMode := some .auto, keyRun := false }

/-- `SM_STATE(AUTH_PAE, DISCONNECTED)`. -/
def enterDisconnected : Port W P :=
  { s with
    authPae := .disconnected, authPortStatus := some .unauthorized, reAuthCount := 0
    eapolLogoff := false }

/-- `SM_STATE(AUTH_PAE, RESTART)`. -/
def enterRestart : Port W P :=
  (({ s with authPae := .restart } : Port W P).note .restart).modifyIf
    fun i => { i with eapRestart := true }

/-- `SM_STATE(AUTH_PAE, CONNECTING)`. -/
def enterConnecting : Port W P :=
  { s with authPae := .connecting, reAuthenticate := false, reAuthCount := s.reAuthCount + 1 }

/-- `SM_STATE(AUTH_PAE, HELD)`. -/
def enterHeld : Port W P :=
  { s with
    authPae := .held, authPortStatus := some .unauthorized, quietWhile := s.quietPeriod
    eapolLogoff := false }

/-- `SM_STATE(AUTH_PAE, AUTHENTICATED)`. -/
def enterAuthenticated : Port W P :=
  ({ s with
    authPae := .authenticated, authPortStatus := some .authorized
    reAuthCount := 0 } : Port W P).note .authenticated

/-- `SM_STATE(AUTH_PAE, AUTHENTICATING)`. -/
def enterAuthenticating : Port W P :=
  { s with
    authPae := .authenticating, eapolStart := false, authSuccess := false, authFail := false
    authTimeout := false, authStart := true, keyRun := false, keyDone := false }

/-- `SM_STATE(AUTH_PAE, ABORTING)`. -/
def enterAborting : Port W P :=
  { s with authPae := .aborting, authAbort := true, keyRun := false, keyDone := false }

/-- `SM_STATE(AUTH_PAE, FORCE_AUTH)`. -/
def enterForceAuth : Port W P :=
  { s with
    authPae := .forceAuth, authPortStatus := some .authorized, portMode := some .forceAuthorized
    eapolStart := false }

/-- `SM_STATE(AUTH_PAE, FORCE_UNAUTH)`. -/
def enterForceUnauth : Port W P :=
  { s with
    authPae := .forceUnauth, authPortStatus := some .unauthorized
    portMode := some .forceUnauthorized, eapolStart := false }

/-- The transitions from `CONNECTING`. -/
def stepConnecting : Port W P :=
  if s.eapolLogoff ∨ s.reAuthMax < s.reAuthCount then s.enterDisconnected
  else if (s.eapIf.eapReq ∧ s.reAuthCount ≤ s.reAuthMax) ∨ s.eapIf.eapSuccess ∨ s.eapIf.eapFail then
    s.enterAuthenticating
  else s

/-- The transitions from `AUTHENTICATED`. -/
def stepAuthenticated : Port W P :=
  if s.eapolStart ∨ s.reAuthenticate then s.enterRestart
  else if s.eapolLogoff ∨ s.portValid = false then s.enterDisconnected
  else s

/-- The transitions from `AUTHENTICATING`. -/
def stepAuthenticating : Port W P :=
  if s.authSuccess ∧ s.portValid then s.enterAuthenticated
  else if s.authFail ∨ (s.keyDone ∧ s.portValid = false) then s.enterHeld
  else if s.eapolStart ∨ s.eapolLogoff ∨ s.authTimeout then s.enterAborting
  else s

/-- The transitions from `ABORTING`. -/
def stepAborting : Port W P :=
  if s.eapolLogoff ∧ s.authAbort = false then s.enterDisconnected
  else if s.eapolLogoff = false ∧ s.authAbort = false then s.enterRestart
  else s

/-- The transitions of `SM_STEP(AUTH_PAE)` that depend on the state. -/
def authPaeLocal : Port W P :=
  match s.authPae with
  | .initialise => s.enterDisconnected
  | .disconnected => s.enterRestart
  | .restart => if s.eapIf.eapRestart then s else s.enterConnecting
  | .held => if s.quietWhile = 0 then s.enterRestart else s
  | .connecting => s.stepConnecting
  | .authenticated => s.stepAuthenticated
  | .authenticating => s.stepAuthenticating
  | .aborting => s.stepAborting
  | .forceAuth => if s.eapolStart then s.enterForceAuth else s
  | .forceUnauth => if s.eapolStart then s.enterForceUnauth else s

/-- `SM_STEP(AUTH_PAE)`. -/
def authPaeStep : Port W P :=
  if (s.portControl = .auto ∧ s.portMode ≠ some s.portControl) ∨ s.initialise ∨
      s.eapIf.portEnabled = false then
    s.enterInitialise
  else if s.portControl = .forceAuthorized ∧ s.portMode ≠ some s.portControl then s.enterForceAuth
  else if s.portControl = .forceUnauthorized ∧ s.portMode ≠ some s.portControl then
    s.enterForceUnauth
  else s.authPaeLocal

/-! ## `BE_AUTH` -/

/-- `ieee802_1x_abort_auth`: a peer that did not answer is disconnected. -/
def abortAuth : Port W P :=
  s.modifyIf fun i => { i with portEnabled := i.portEnabled && !i.eapTimeout }

/-- `SM_STATE(BE_AUTH, INITIALIZE)`. -/
def enterBeInitialise : Port W P :=
  { ({ s with beAuth := .initialise } : Port W P).abortAuth.modifyIf
      fun i => { i with eapNoReq := false } with
    authAbort := false }

/-- `SM_STATE(BE_AUTH, REQUEST)`. -/
def enterRequest : Port W P :=
  ({ s with beAuth := .request, eapolEap := false } : Port W P).modifyIf
    fun i => { i with eapReq := false }

/-- `SM_STATE(BE_AUTH, RESPONSE)`. -/
def enterResponse : Port W P :=
  ({ s with
    beAuth := .response, authTimeout := false, eapolEap := false
    aWhile := s.serverTimeout } : Port W P).modifyIf
      fun i => { i with eapNoReq := false, eapResp := true }

/-- `SM_STATE(BE_AUTH, SUCCESS)`. -/
def enterSuccess : Port W P :=
  { s with beAuth := .success, authSuccess := true, keyRun := true }

/-- `SM_STATE(BE_AUTH, FAIL)`. -/
def enterFail : Port W P := { s with beAuth := .fail, authFail := true }

/-- `SM_STATE(BE_AUTH, TIMEOUT)`. -/
def enterTimeout : Port W P := { s with beAuth := .timeout, authTimeout := true }

/-- `SM_STATE(BE_AUTH, IDLE)`. -/
def enterIdle : Port W P := { s with beAuth := .idle, authStart := false }

/-- `SM_STATE(BE_AUTH, IGNORE)`. -/
def enterIgnore : Port W P :=
  ({ s with beAuth := .ignore } : Port W P).modifyIf fun i => { i with eapNoReq := false }

/-- The transitions from `REQUEST` and from `IGNORE`. -/
def stepWaiting : Port W P :=
  if s.eapolEap then s.enterResponse
  else if s.eapIf.eapReq then s.enterRequest
  else if s.eapIf.eapTimeout then s.enterTimeout
  else s

/-- The transitions from `RESPONSE` behind that to `IGNORE`, which does not end the step. -/
def stepResponse : Port W P :=
  if s.eapIf.eapReq then s.enterRequest
  else if s.aWhile = 0 then s.enterTimeout
  else if s.eapIf.eapFail then s.enterFail
  else if s.eapIf.eapSuccess then s.enterSuccess
  else s

/-- The transitions from `IDLE`. -/
def stepIdle : Port W P :=
  if s.eapIf.eapFail ∧ s.authStart then s.enterFail
  else if s.eapIf.eapReq ∧ s.authStart then s.enterRequest
  else if s.eapIf.eapSuccess ∧ s.authStart then s.enterSuccess
  else s

/-- The transitions of `SM_STEP(BE_AUTH)` that depend on the state. -/
def beAuthLocal : Port W P :=
  match s.beAuth with
  | .initialise => s.enterIdle
  | .request => s.stepWaiting
  | .response => (if s.eapIf.eapNoReq then s.enterIgnore else s).stepResponse
  | .success => s.enterIdle
  | .fail => s.enterIdle
  | .timeout => s.enterIdle
  | .idle => s.stepIdle
  | .ignore => s.stepWaiting

/-- `SM_STEP(BE_AUTH)`. -/
def beAuthStep : Port W P :=
  if s.portControl ≠ .auto ∨ s.initialise ∨ s.authAbort then s.enterBeInitialise else s.beAuthLocal

/-! ## The other machines -/

/-- `SM_STATE(REAUTH_TIMER, INITIALIZE)`. -/
def enterReauthInitialise : Port W P :=
  { s with reauthenticating := false, reAuthWhen := s.reAuthPeriod }

/-- `SM_STEP(REAUTH_TIMER)`, with `SM_STATE(REAUTH_TIMER, REAUTHENTICATE)`. -/
def reauthTimerStep : Port W P :=
  if s.portControl ≠ .auto ∨ s.initialise ∨ s.authPortStatus = some .unauthorized ∨
      s.reAuthEnabled = false then
    s.enterReauthInitialise
  else if s.reauthenticating then s.enterReauthInitialise
  else if s.reAuthWhen = 0 then { s with reauthenticating := true, reAuthenticate := true }
  else s

/-- `SM_STATE(AUTH_KEY_TX, KEY_TRANSMIT)`. -/
def enterKeyTransmit : Port W P :=
  ({ s with keyTransmit := true, keyDone := true } : Port W P).modifyIf
    fun i => { i with eapKeyAvailable := false }

/-- `SM_STEP(AUTH_KEY_TX)`. -/
def authKeyTxStep : Port W P :=
  if s.initialise ∨ s.portControl ≠ .auto then { s with keyTransmit := false }
  else if s.keyTransmit then
    if s.keyTxEnabled = false ∨ s.keyRun = false then { s with keyTransmit := false }
    else if s.eapIf.eapKeyAvailable then s.enterKeyTransmit
    else s
  else if s.keyTxEnabled ∧ s.eapIf.eapKeyAvailable ∧ s.keyRun ∧ s.usesWpa = false then
    s.enterKeyTransmit
  else s

/-- `SM_STEP(KEY_RX)`. -/
def keyRxStep : Port W P :=
  if s.initialise ∨ s.eapIf.portEnabled = false then { s with keyReceive := false }
  else if s.rxKey then { s with keyReceive := true, rxKey := false }
  else s

/-- `SM_STATE(CTRL_DIR, IN_OR_BOTH)`. -/
def enterInOrBoth : Port W P :=
  { s with inOrBoth := true, operControlledDirections := s.adminControlledDirections }

/-- `SM_STATE(CTRL_DIR, FORCE_BOTH)`. -/
def enterForceBoth : Port W P :=
  { s with inOrBoth := false, operControlledDirections := .both }

/-- `SM_STEP(CTRL_DIR)`. -/
def ctrlDirStep : Port W P :=
  if s.initialise then s.enterInOrBoth
  else if s.inOrBoth then
    let s := if s.operControlledDirections ≠ s.adminControlledDirections then s.enterInOrBoth else s
    if s.eapIf.portEnabled = false ∨ s.operEdge = false then s.enterForceBoth else s
  else if s.eapIf.portEnabled ∧ s.operEdge then s.enterInOrBoth
  else s

/-! ## All of them -/

/-- The states that a round compares. -/
def states : AuthPae × BeAuth × Bool × Bool × Bool × Bool :=
  (s.authPae, s.beAuth, s.reauthenticating, s.keyTransmit, s.keyReceive, s.inOrBoth)

/-- One round of the machines. Before each but the first the port asks whether the station is
there. -/
def stepMachines (alive : ℕ → Bool) (s : Port W P) : Port W P :=
  let s := s.authPaeStep
  let s := if s.initialising || alive 0 then s.beAuthStep else s
  let s := if s.initialising || alive 1 then s.reauthTimerStep else s
  let s := if s.initialising || alive 2 then s.authKeyTxStep else s
  let s := if s.initialising || alive 3 then s.keyRxStep else s
  if s.initialising || alive 4 then s.ctrlDirStep else s

/-- `aaa_send`: the response is on its way to the authentication server. -/
def aaaSent : Port W P := s.modifyIf fun i => { i with aaaEapResp := false }

/-- The machines have changed nothing: the EAP machine is stepped. -/
def stepEap (env : Env W P) (rounds : ℕ) (s : Port W P) : Except Fault (Port W P × Bool) := do
  let r ← s.eap.serverSmStep env rounds
  .ok ({ s with eap := r.1 }, r.2)

/-- `eapol_sm_step_run` with this many steps left; whether the station is there is asked anew in
every step. -/
def stepRun (env : Env W P) (rounds : ℕ) (alive : ℕ → ℕ → Bool) :
    ℕ → Port W P → Except Fault (Port W P)
  | 0, s => .ok s
  | n + 1, s =>
    let next := s.stepMachines (alive n)
    if next.states ≠ s.states then stepRun env rounds alive n next
    else if alive n 5 then do
      let r ← next.stepEap env rounds
      if r.2 then stepRun env rounds alive n r.1 else .ok r.1.aaaSent
    else .ok next

/-- `max_steps` of `eapol_sm_step_run`. -/
def maxSteps : ℕ := 100

/-- `eapol_sm_step_run`. -/
def eapolSmStepRun (env : Env W P) (rounds : ℕ) (alive : ℕ → ℕ → Bool) (s : Port W P) :
    Except Fault (Port W P) :=
  s.stepRun env rounds alive maxSteps

/-- `eapol_auth_initialize`. -/
def eapolAuthInitialise (env : Env W P) (rounds : ℕ) (alive : ℕ → ℕ → Bool) (s : Port W P) :
    Except Fault (Port W P) := do
  let s ← ({ s with initialising := true, initialise := true } : Port W P).eapolSmStepRun env rounds
    alive
  let s ← ({ s with initialise := false } : Port W P).eapolSmStepRun env rounds
    fun n => alive (maxSteps + n)
  .ok { s with initialising := false }

/-- `eapol_port_timers_tick` before it steps the machines. -/
def tick : Port W P :=
  ({ s with
    aWhile := s.aWhile - 1, quietWhile := s.quietWhile - 1
    reAuthWhen := s.reAuthWhen - 1 } : Port W P).modifyIf
      fun i => { i with retransWhile := i.retransWhile - 1 }

/-- The identity is forgotten. -/
def clearIdentity : Port W P :=
  { s with eap := { s.eap with vars := { s.eap.vars with identity := none } } }

end Port

/-! ## Events -/

/-- What a station is set up with. -/
structure Conf where
  eapReauthPeriod : ℕ := 0
  wpa : Bool := false
  wepKey : Bool := false

/-- What a message of the authentication server says. -/
inductive Verdict
  /-- Access-Accept, with the keys and the time to the next authentication that it may have. -/
  | accept (keys : Option Bytes) (reAuthPeriod : Option ℕ)
  | refused (authFail : Bool)
  | reject
  | challenge (timeout : Option ℕ)

/-- What happens to a port. -/
inductive Event (W : Type)
  /-- `eapol_sm_step_run` is called. -/
  | step (rounds : ℕ) (alive : ℕ → ℕ → Bool)
  /-- A second has passed, and `eapol_sm_step_run` is called. -/
  | tick (rounds : ℕ) (alive : ℕ → ℕ → Bool)
  /-- `AUTH_PAE` is stepped alone. -/
  | authPae
  /-- `BE_AUTH` is stepped alone. -/
  | beAuth
  | eap (rounds : ℕ)
  | eapPacket (data : Bytes)
  | eapolStart
  | eapolLogoff
  /-- A message of the authentication server is received, with the EAP packet in it. -/
  | radius (verdict : Verdict) (eap : Option Bytes)
  | pendingCb
  | portEnabled (value : Bool)
  | portValid (value : Bool)
  | portControlAuto
  | keyRun (value : Bool)
  | keyDone (value : Bool)
  /-- `eapKeyAvailable` is written. -/
  | keyAvailable (value : Bool)
  | reAuthenticate
  | erpKeys (keys : List Erp.ServerKey)
  | world (w : W)

namespace Port

variable {W P : Type}

/-- `eapol_auth_alloc` up to the step of the machines. -/
def alloc (conf : Conf) (world : W) : Port W P :=
  { reAuthPeriod := conf.eapReauthPeriod
    reAuthEnabled := decide (0 < conf.eapReauthPeriod)
    keyTxEnabled := !conf.wpa && conf.wepKey
    portValid := !conf.wpa
    usesWpa := conf.wpa
    eap := { vars := { world := world } } }

/-- `eapol_auth_alloc`. -/
def eapolAuthAlloc (env : Env W P) (conf : Conf) (world : W) (rounds : ℕ) (alive : ℕ → ℕ → Bool) :
    Except Fault (Port W P) :=
  (alloc conf world).eapolAuthInitialise env rounds alive

/-- `ieee802_1x_decapsulate_radius`. -/
def decapsulateRadius (s : Port W P) : Option Bytes → Port W P
  | none => s.modifyIf fun i => { i with aaaEapNoReq := true }
  | some eap =>
    if eap.length < Eap.sizeofEapHdr then s.modifyIf fun i => { i with aaaEapNoReq := true }
    else s.modifyIf fun i => { i with aaaEapReq := true, aaaEapReqData := some eap }

/-- `ieee802_1x_get_keys`. -/
def getKeys (i : EapIf) : Option Bytes → EapIf
  | none => i
  | some keys => { i with aaaEapKeyData := some keys, aaaEapKeyAvailable := true }

/-- `ieee802_1x_receive_auth`. -/
def receiveAuth (s : Port W P) (verdict : Verdict) (eap : Option Bytes) : Port W P :=
  match verdict with
  | .accept keys reAuthPeriod =>
    let s : Port W P := { s with reAuthPeriod := reAuthPeriod.getD s.reAuthPeriod }
    let s := (s.note .aaaSuccess).modifyIf fun i => getKeys { i with aaaSuccess := true } keys
    (s.decapsulateRadius eap).modifyIf fun i => { i with aaaEapReq := false }
  | .refused authFail =>
    ({ s with authFail := s.authFail || authFail } : Port W P).decapsulateRadius eap
  | .reject =>
    ((s.modifyIf fun i => { i with aaaFail := true }).decapsulateRadius eap).modifyIf
      fun i => { i with aaaEapReq := false }
  | .challenge timeout =>
    (s.modifyIf fun i => { i with aaaEapReq := true, aaaMethodTimeout := timeout.getD 0 })
      |>.decapsulateRadius eap

/-- One event. -/
def step (env : Env W P) (s : Port W P) : Event W → Except Fault (Port W P)
  | .step rounds alive => s.eapolSmStepRun env rounds alive
  | .tick rounds alive => s.tick.eapolSmStepRun env rounds alive
  | .authPae => .ok s.authPaeStep
  | .beAuth => .ok s.beAuthStep
  | .eap rounds => do
    let r ← s.stepEap env rounds
    .ok r.1
  | .eapPacket data =>
    let s : Port W P := { s with eapolEap := true }
    .ok (s.modifyIf fun i => { i with eapRespData := some data })
  | .eapolStart => .ok ({ s with eapolStart := true } : Port W P).clearIdentity
  | .eapolLogoff => .ok ({ s with eapolLogoff := true } : Port W P).clearIdentity
  | .radius verdict eap => .ok (s.receiveAuth verdict eap)
  | .pendingCb => .ok { s with eap := s.eap.pendingCb }
  | .portEnabled value => .ok (s.modifyIf fun i => { i with portEnabled := value })
  | .portValid value => .ok { s with portValid := value }
  | .portControlAuto => .ok { s with portControl := .auto }
  | .keyRun value => .ok { s with keyRun := value }
  | .keyDone value => .ok { s with keyDone := value }
  | .keyAvailable value => .ok (s.modifyIf fun i => { i with eapKeyAvailable := value })
  | .reAuthenticate => .ok { s with reAuthenticate := true }
  | .erpKeys keys => .ok { s with eap := { s.eap with erpKeys := keys } }
  | .world w => .ok { s with eap := { s.eap with vars := { s.eap.vars with world := w } } }

end Port

end Hostapd.EapolAuth
