import Hostapd.EapServer.Common

/-!
# The EAP server machine

The states of `src/eap_server/eap_server.c`, each with what its entry does, and the transitions
between them: those of `SM_STEP(EAP)` that depend on the state are one function for each state that
has a choice.
-/

namespace Hostapd.EapServer

open Wire Eap

variable {W P : Type}

namespace EapSm

/-! ## States -/

variable (env : Env W P) (s : EapSm W P)

/-- `SM_ENTRY(EAP, ...)`. -/
def entry (glob : Bool) (next : EapState) : EapSm W P :=
  { s with changed := s.changed || !glob || decide (s.state ≠ next), state := next }

def methodSucceeds : Bool := s.m.elim false fun m => m.1.isSuccess m.2

def methodIsDone : Bool := s.m.elim false fun m => m.1.isDone m.2

/-- `SM_STATE(EAP, DISABLED)`. -/
def enterDisabled (glob : Bool) : EapSm W P :=
  { s.entry glob .disabled with numRounds := 0 }

/-- The identity that `INITIALIZE` leaves: it is asked for again at the beginning of a
re-authentication. -/
def initialIdentity : Option Bytes :=
  if s.eapIf.eapRestart ∧ env.eapServer = false then none else s.vars.identity

/-- What a server behind a passthrough does with the first packet in `INITIALIZE`. -/
def parseFirst : EapSm W P :=
  if env.backendAuth then
    let rx := parseEapResp s.eapIf.eapRespData
    { s with
      currentMethod := number typeNone
      rx := rx
      currentId := if rx.rxResp then rx.respId else s.currentId }
  else s

/-- `SM_STATE(EAP, INITIALIZE)`. -/
def enterInitialise (glob : Bool) : EapSm W P :=
  let s := s.entry glob .initialise
  parseFirst env
    { s with
      tryInitiateReauth := false
      currentId := -1
      eapIf := { s.eapIf with
        eapSuccess := false, eapFail := false, eapTimeout := false, eapKeyData := none
        eapSessionId := none, eapKeyAvailable := false, eapRestart := false }
      m := none
      vars := { s.vars with
        identity := initialIdentity env s, userEapMethodIndex := 0, methodPending := .none }
      numRounds := 0
      log := .initialised :: s.log }

/-- The machine with a method and its private data, or without a method of type none. -/
def withMethod (m : EapMethod W P) (r : Option P × MethodVars W) : EapSm W P :=
  match r.1 with
  | some priv => { s with m := some (m, priv), vars := r.2 }
  | none => { s with m := none, vars := r.2, currentMethod := number typeNone }

/-- `SM_STATE(EAP, PICK_UP_METHOD)` with the method of that type. -/
def pickUp (m : Option (EapMethod W P)) : EapSm W P :=
  match m with
  | some m =>
    match m.initPickUp with
    | some initPickUp => s.withMethod m (initPickUp s.vars)
    | none => { s with m := none, currentMethod := number typeNone }
  | none => { s with m := none, currentMethod := number typeNone }

/-- `SM_STATE(EAP, PICK_UP_METHOD)`; only the identity is picked up. -/
def enterPickUpMethod : EapSm W P :=
  let s := s.entry false .pickUpMethod
  if s.rx.respMethod = number typeIdentity then
    ({ s with currentMethod := s.rx.respMethod, m := none } : EapSm W P).pickUp
      (env.getEapMethod eapVendorIetf s.rx.respMethod)
  else s

/-- The back off of `eap_sm_calculateTimeout`. -/
def backoff : ℕ → ℕ → ℕ
  | 0, rto => rto
  | n + 1, rto => if 20 ≤ rto * 2 then 20 else backoff n (rto * 2)

/-- `eap_sm_calculateTimeout`. -/
def calculateTimeout : ℕ :=
  if s.tryInitiateReauth then 1
  else if s.methodTimeout ≠ 0 then s.methodTimeout
  else backoff s.retransCount 3

variable (next : EapState)

/-- `SM_STATE(EAP, IDLE)` and `SM_STATE(EAP, IDLE2)`. -/
def enterIdle : EapSm W P :=
  let s := s.entry false next
  { s with eapIf := { s.eapIf with retransWhile := s.calculateTimeout } }

/-- `SM_STATE(EAP, RETRANSMIT)` and `SM_STATE(EAP, RETRANSMIT2)`. -/
def enterRetransmit : EapSm W P :=
  let s := { s.entry false next with retransCount := s.retransCount + 1 }
  if s.retransCount ≤ s.vars.maxRetrans ∧ s.lastReqData.isSome then
    { s with eapIf := { s.eapIf with eapReqData := s.lastReqData, eapReq := true } }
  else s

/-- `SM_STATE(EAP, RECEIVED)`. -/
def enterReceived : EapSm W P :=
  { s.entry false .received with
    rx := parseEapResp s.eapIf.eapRespData, numRounds := s.numRounds + 1 }

/-- `SM_STATE(EAP, RECEIVED2)`. -/
def enterReceived2 : EapSm W P :=
  { s.entry false .received2 with rx := parseEapResp s.eapIf.eapRespData }

/-- `SM_STATE(EAP, DISCARD)` and `SM_STATE(EAP, DISCARD2)`. -/
def enterDiscard : EapSm W P :=
  { s.entry false next with eapIf := { s.eapIf with eapResp := false, eapNoReq := true } }

/-- `SM_STATE(EAP, SEND_REQUEST)` and `SM_STATE(EAP, SEND_REQUEST2)`. -/
def enterSendRequest : EapSm W P :=
  let s := { s.entry false next with retransCount := 0 }
  if s.eapIf.eapReqData.isSome then
    { s with
      lastReqData := s.eapIf.eapReqData
      eapIf := { s.eapIf with eapResp := false, eapReq := true } }
  else
    { s with eapIf := { s.eapIf with eapResp := false, eapReq := false, eapNoReq := true } }

/-- `SM_STATE(EAP, INTEGRITY_CHECK)`: a response is given to the method even if there is none. -/
def enterIntegrityCheck : Except Fault (EapSm W P) :=
  let s := s.entry false .integrityCheck
  if hdrLenValid s.eapIf.eapRespData 1 then
    match s.m with
    | none => .error (.memory .nullPointer)
    | some (m, priv) =>
      .ok { s with
        ignore := m.check.elim s.ignore fun check =>
          check priv s.vars (s.eapIf.eapRespData.getD []) }
  else .ok { s with ignore := true }

/-- `eap_sm_nextId`. -/
def nextId : ℤ × MethodVars W :=
  if s.currentId < 0 then
    let r := env.rand s.vars.world
    let id : ℤ := r.1.toNat
    (if id ≠ s.lastId then id else (id + 1) % 256, { s.vars with world := r.2 })
  else ((s.currentId + 1) % 256, s.vars)

/-- `SM_STATE(EAP, METHOD_REQUEST)`. -/
def enterMethodRequest : EapSm W P :=
  let s := s.entry false .methodRequest
  match s.m with
  | none => s
  | some (m, priv) =>
    let next := s.nextId env
    let r := m.buildReq priv next.2 (idOctet next.1)
    { s with
      currentId := next.1
      lastId := next.1
      m := some (m, r.2.1)
      vars := r.2.2
      eapIf := { s.eapIf with eapReqData := r.1 }
      methodTimeout := m.getTimeout.elim 0 fun getTimeout => getTimeout r.2.1 }

/-- `eap_server_erp_init` and `ieee802_1x_erp_add_key`: the keys afterwards. -/
def erpInit (keys : List Erp.ServerKey) (emsk sessionId : Option Bytes) :
    List Erp.ServerKey :=
  match env.erpDomain.bind fun domain => Erp.deriveKeys env.crypto domain emsk sessionId with
  | none => keys
  | some (nai, rRK, rIK) => { nai := nai, rRK := rRK, rIK := rIK } :: keys

/-- The end of `METHOD_RESPONSE`, once the method has processed the response. -/
def responded (m : EapMethod W P) (priv : P) : EapSm W P :=
  if m.isDone priv then
    let sessionId := m.getSessionId.bind fun getSessionId => getSessionId priv
    { s with
      eapIf := { s.eapIf with
        eapKeyData := m.getKey.bind fun getKey => getKey priv
        eapSessionId := sessionId }
      erpKeys :=
        if env.erp then erpInit env s.erpKeys (m.getEmsk.bind fun getEmsk => getEmsk priv) sessionId
        else s.erpKeys
      methodState := .ended }
  else { s with methodState := .continues }

/-- `SM_STATE(EAP, METHOD_RESPONSE)`. -/
def enterMethodResponse : Except Fault (EapSm W P) :=
  let s := s.entry false .methodResponse
  if hdrLenValid s.eapIf.eapRespData 1 then
    match s.m with
    | none => .error (.memory .nullPointer)
    | some (m, priv) =>
      let r := m.process priv s.vars (s.eapIf.eapRespData.getD [])
      .ok (({ s with m := some (m, r.1), vars := r.2 } : EapSm W P).responded env m r.1)
  else .ok s

/-- `eap_sm_Policy_getNextMethod`: the type, and the variables that it changes. -/
def getNextMethod : (UInt32 × UInt32) × MethodVars W :=
  if s.vars.identity = none ∨ s.currentId = -1 then
    ((eapVendorIetf, number typeIdentity), { s.vars with updateUser := true })
  else
    match User.at? s.vars.user s.vars.userEapMethodIndex with
    | some m => (m, { s.vars with userEapMethodIndex := s.vars.userEapMethodIndex + 1 })
    | none => ((eapVendorIetf, number typeNone), s.vars)

/-- The end of `PROPOSE_METHOD`, with the method that was set up. -/
def proposed : EapSm W P :=
  if s.currentMethod = number typeIdentity ∨ s.currentMethod = number typeNotification then
    { s with methodState := .continues }
  else { s with methodState := .proposed }

/-- The loop of `PROPOSE_METHOD`: a method that cannot be set up is followed by the next one. -/
def tryAnotherMethod (env : Env W P) : ℕ → EapSm W P → Except Fault (EapSm W P)
  | 0, _ => .error .endless
  | n + 1, s =>
    let next := s.getNextMethod
    let s := { s with
      vars := next.2
      currentMethod := if next.1.1 = eapVendorIetf then next.1.2 else number eapTypeExpanded
      m := none }
    match env.getEapMethod next.1.1 next.1.2 with
    | none => .ok { s with decision := .failure }
    | some m =>
      let r := m.init s.vars
      match r.1 with
      | some priv => .ok ({ s with m := some (m, priv), vars := r.2 } : EapSm W P).proposed
      | none => tryAnotherMethod env n { s with vars := r.2, currentMethod := number typeNone }

variable (rounds : ℕ)

/-- `SM_STATE(EAP, PROPOSE_METHOD)`. -/
def enterProposeMethod (s : EapSm W P) : Except Fault (EapSm W P) :=
  tryAnotherMethod env rounds { s.entry false .proposeMethod with tryInitiateReauth := false }

/-- `eap_sm_Policy_update`. -/
def policyUpdate (nak : Option Bytes) : EapSm W P :=
  match nak, s.vars.user with
  | some nak, some user =>
    if user.phase2 then { s with decision := .failure }
    else
      { s with vars :=
          { s.vars with user := some (user.processNak s.vars.userEapMethodIndex nak) } }
  | _, _ => s

/-- `SM_STATE(EAP, NAK)`. -/
def enterNak : EapSm W P :=
  let s := { s.entry false .nak with m := none }
  if hdrLenValid s.eapIf.eapRespData 1 then s.policyUpdate (s.eapIf.eapRespData.bind nakList) else s

/-- The end of `eap_sm_Policy_getDecision`, once the user is known as far as can be. -/
def decideMore : EapSm W P :=
  let s := { s with startReauth := false }
  if (User.at? s.vars.user s.vars.userEapMethodIndex).isSome then { s with decision := .continues }
  else if s.vars.identity = none ∧ env.erpSendReauthStart ∧ s.initiateReauthStartSent = false then
    { s with decision := .initiateReauthStart }
  else if s.vars.identity = none ∨ s.currentId = -1 then { s with decision := .continues }
  else { s with decision := .failure }

/-- The part of `eap_sm_Policy_getDecision` that looks the user up. -/
def decideUser (identity : Bytes) : EapSm W P :=
  match env.getEapUser s.vars.world identity with
  | none => { s with vars := { s.vars with user := none }, decision := .failure }
  | some user =>
    let vars := { s.vars with user := some user, userEapMethodIndex := 0 }
    if s.currentMethod = number typeIdentity ∧ identityFirst s.vars.user ∧
        identityFirst vars.user then
      { s with vars := { vars with updateUser := true }, decision := .failure }
    else
      decideMore env { s with vars := { vars with updateUser := false } }

/-- `eap_sm_Policy_getDecision`, written to `decision`. -/
def getDecision : EapSm W P :=
  if env.eapServer = false ∧ s.vars.identity.isSome ∧ s.startReauth = false then
    { s with decision := .passthrough }
  else if s.currentMethod ≠ number typeIdentity ∧ s.methodSucceeds then
    { s with decision := .success, vars := { s.vars with updateUser := true } }
  else if s.methodIsDone ∧ s.methodSucceeds = false then
    { s with decision := .failure, vars := { s.vars with updateUser := true } }
  else
    match s.vars.identity with
    | some identity =>
      if (s.vars.user = none ∨ s.vars.updateUser) ∧ s.startReauth = false then
        decideUser env s identity
      else decideMore env s
    | none => decideMore env s

/-- `SM_STATE(EAP, SELECT_ACTION)`. -/
def enterSelectAction : EapSm W P :=
  getDecision env (s.entry false .selectAction)

/-- `SM_STATE(EAP, TIMEOUT_FAILURE)` and `SM_STATE(EAP, TIMEOUT_FAILURE2)`. -/
def enterTimeoutFailure : EapSm W P :=
  { s.entry false next with eapIf := { s.eapIf with eapTimeout := true } }

/-- `SM_STATE(EAP, FAILURE)`. -/
def enterFailure (glob : Bool) : EapSm W P :=
  { s.entry glob .failure with
    eapIf := { s.eapIf with eapReqData := some (buildFailure s.currentId), eapFail := true }
    lastReqData := none }

/-- `SM_STATE(EAP, SUCCESS)`. -/
def enterSuccess : EapSm W P :=
  { s.entry false .success with
    eapIf := { s.eapIf with
      eapReqData := some (buildSuccess s.currentId)
      eapKeyAvailable := s.eapIf.eapKeyAvailable || s.eapIf.eapKeyData.isSome
      eapSuccess := true }
    lastReqData := none
    log := .success s.methodSucceeds :: s.log }

/-- `SM_STATE(EAP, INITIATE_REAUTH_START)`. -/
def enterInitiateReauthStart : EapSm W P :=
  let s := s.entry false .initiateReauthStart
  let next := s.nextId env
  { s with
    initiateReauthStartSent := true
    tryInitiateReauth := true
    currentId := next.1
    vars := next.2
    lastId := next.1
    eapIf := { s.eapIf with eapReqData := some (buildInitiateReauthStart env.erpDomain next.1) }
    lastReqData := none }

/-- `erp_send_finish_reauth` up to the flags: the packet and its identifier. -/
def finishPacket (id : UInt8) (packet : Bytes) : EapSm W P :=
  { s with
    lastId := s.currentId
    currentId := id.toNat
    eapIf := { s.eapIf with eapReqData := some packet }
    lastReqData := none }

/-- The server after `INITIATE_RECEIVED` has looked at the packet, `erp_send_finish_reauth`
included. -/
def answered (msg : Bytes) : Erp.InitiateResult → EapSm W P
  | .ignored => { s with ignore := true }
  | .unknownKey packet =>
    let s := s.finishPacket (msg.getD 1 0) packet
    { s with eapIf := { s.eapIf with eapFail := true } }
  | .malformed key cryptosuite =>
    { s with
      erpKeys := FirstMatch.updateFirst (Erp.ServerKey.named key.nai.octets)
        (fun k => { k with cryptosuite := cryptosuite }) s.erpKeys
      ignore := true }
  | .accepted key seq cryptosuite hashLen =>
    let body := Erp.finishBody (msg.getD 1 0) 0 seq key.nai.octets cryptosuite hashLen
    let s := s.finishPacket (msg.getD 1 0) (body ++ Erp.tag env.crypto key.rIK body hashLen)
    { s with
      erpKeys := FirstMatch.updateFirst (Erp.ServerKey.named key.nai.octets)
        (fun k => { k with cryptosuite := cryptosuite, recvSeq := some seq }) s.erpKeys
      eapIf := { s.eapIf with
        eapKeyData := some (Erp.rMSK env.crypto key.rRK seq)
        eapKeyAvailable := true
        eapSuccess := true }
      log :=
        .reauthenticated s.erpKeys key (msg.take (ofBe16 (msg.drop 2)).toNat) hashLen :: s.log }

/-- `INITIATE_RECEIVED` of a passthrough: the packet stands for the identity of the user. -/
def forwarded : Option Bytes → EapSm W P
  | none => { s with ignore := true }
  | some keyname => { s with vars := { s.vars with identity := some keyname } }

/-- `SM_STATE(EAP, INITIATE_RECEIVED)`. -/
def enterInitiateReceived : Except Fault (EapSm W P) :=
  let s := s.entry false .initiateReceived
  let s := { s with rx := { s.rx with rxInitiate := false } }
  if env.eapServer then
    match s.eapIf.eapRespData with
    | none => .ok { s with ignore := true }
    | some msg => do
      let r ← lift (Erp.initiateReceived env.crypto s.erpKeys msg)
      .ok (s.answered env msg r)
  else do
    let keyname ← lift (initiateKeyname s.eapIf.eapRespData)
    .ok (s.forwarded keyname)

/-! ## States of the passthrough -/

/-- `SM_STATE(EAP, INITIALIZE_PASSTHROUGH)`. -/
def enterInitialisePassthrough : EapSm W P :=
  { s.entry false .initialisePassthrough with
    eapIf := { s.eapIf with aaaEapRespData := none }
    tryInitiateReauth := false }

/-- `SM_STATE(EAP, AAA_REQUEST)`. -/
def enterAaaRequest : EapSm W P :=
  { s.entry false .aaaRequest with
    eapIf := { s.eapIf with aaaEapRespData := s.eapIf.eapRespData.or s.eapIf.aaaEapRespData } }

/-- `eap_copy_buf` to the packet that is sent next, if there is one from the authentication
server. -/
def copyReqData : EapSm W P :=
  { s with eapIf := { s.eapIf with eapReqData := s.eapIf.aaaEapReqData.or s.eapIf.eapReqData } }

/-- `SM_STATE(EAP, AAA_RESPONSE)`. -/
def enterAaaResponse : EapSm W P :=
  let s := (s.entry false .aaaResponse).copyReqData
  { s with currentId := getId s.eapIf.eapReqData, methodTimeout := s.eapIf.aaaMethodTimeout }

/-- `SM_STATE(EAP, AAA_IDLE)`. -/
def enterAaaIdle : EapSm W P :=
  { s.entry false .aaaIdle with
    eapIf := { s.eapIf with
      aaaFail := false, aaaSuccess := false, aaaEapReq := false, aaaEapNoReq := false
      aaaEapResp := true }
    log := .aaaIdle :: s.log }

/-- `SM_STATE(EAP, FAILURE2)`. -/
def enterFailure2 : EapSm W P :=
  let s := (s.entry false .failure2).copyReqData
  { s with eapIf := { s.eapIf with eapFail := true } }

/-- `SM_STATE(EAP, SUCCESS2)`. -/
def enterSuccess2 : EapSm W P :=
  let s := (s.entry false .success2).copyReqData
  { s with
    eapIf := { s.eapIf with
      eapKeyAvailable := s.eapIf.aaaEapKeyAvailable
      eapKeyData :=
        if s.eapIf.aaaEapKeyAvailable then s.eapIf.aaaEapKeyData.or s.eapIf.eapKeyData else none
      eapSuccess := true }
    startReauth := true
    log := .success2 :: s.log }

/-! ## Transitions -/

/-- The transitions of `INITIALIZE`. -/
def stepInitialise : EapSm W P :=
  if env.backendAuth ∧ s.rx.rxResp then
    if s.rx.IsNak then s.enterNak else s.enterPickUpMethod env
  else s.enterSelectAction env

/-- The transitions of `PICK_UP_METHOD`. -/
def stepPickUpMethod : Except Fault (EapSm W P) :=
  if s.currentMethod = number typeNone then .ok (s.enterSelectAction env)
  else s.enterMethodResponse env

/-- The transitions of `IDLE`. -/
def stepIdle : EapSm W P :=
  if s.eapIf.retransWhile = 0 then
    if s.tryInitiateReauth then
      ({ s with tryInitiateReauth := false } : EapSm W P).enterSelectAction env
    else s.enterRetransmit .retransmit
  else if s.eapIf.eapResp then s.enterReceived
  else s

/-- The transitions from `RETRANSMIT` and `RETRANSMIT2`, to the states with the same number. -/
def stepRetransmit (failed waiting : EapState) : EapSm W P :=
  if s.vars.maxRetrans < s.retransCount then s.enterTimeoutFailure failed
  else s.enterIdle waiting

/-- The transitions of `RECEIVED`. -/
def stepReceived : Except Fault (EapSm W P) :=
  if s.rx.rxResp ∧ s.rx.respId = s.currentId ∧ s.rx.IsNak ∧ s.methodState = .proposed then
    .ok s.enterNak
  else if s.rx.rxResp ∧ s.rx.respId = s.currentId ∧ s.rx.IsOf s.currentMethod then
    s.enterIntegrityCheck
  else if s.rx.rxInitiate then s.enterInitiateReceived env
  else .ok (s.enterDiscard .discard)

/-- The transitions of `INTEGRITY_CHECK`. -/
def stepIntegrityCheck : Except Fault (EapSm W P) :=
  if s.ignore then .ok (s.enterDiscard .discard) else s.enterMethodResponse env

/-- The end of a step that has sent a request: the method may have built none. -/
def requested : EapSm W P :=
  if s.eapIf.eapNoReq ∧ s.eapIf.eapReq = false then s.enterFailure false else s

/-- The transitions of `METHOD_REQUEST`. -/
def stepMethodRequest : EapSm W P :=
  if s.m.isNone then s.enterFailure false else (s.enterSendRequest .sendRequest).requested

/-- The transitions of `METHOD_RESPONSE`. -/
def stepMethodResponse : Except Fault (EapSm W P) :=
  if s.methodState = .ended then .ok (s.enterSelectAction env)
  else
    match s.vars.methodPending with
    | .wait => .ok s
    | .cont =>
      let s : EapSm W P := { s with vars := { s.vars with methodPending := .none } }
      s.enterMethodResponse env
    | .none => .ok (s.enterMethodRequest env)

/-- The transitions of `PROPOSE_METHOD`. -/
def stepProposeMethod (s : EapSm W P) : Except Fault (EapSm W P) :=
  match s.vars.methodPending with
  | .wait =>
    .ok { s with vars := { s.vars with userEapMethodIndex := s.vars.userEapMethodIndex - 1 } }
  | .cont =>
    ({ s with vars := { s.vars with methodPending := .none } } : EapSm W P).enterProposeMethod env
      rounds
  | .none => .ok (s.enterMethodRequest env)

/-- The transitions of `SELECT_ACTION`. -/
def stepSelectAction (s : EapSm W P) : Except Fault (EapSm W P) :=
  match s.decision with
  | .failure => .ok (s.enterFailure false)
  | .success => .ok s.enterSuccess
  | .passthrough => .ok s.enterInitialisePassthrough
  | .initiateReauthStart => .ok (s.enterInitiateReauthStart env)
  | .continues =>
    if env.eapServer ∧ env.erp ∧ s.rx.rxInitiate then s.enterInitiateReceived env
    else s.enterProposeMethod env rounds

/-- The transitions of `IDLE2`. -/
def stepIdle2 : EapSm W P :=
  if s.eapIf.eapResp then s.enterReceived2
  else if s.eapIf.retransWhile = 0 then s.enterRetransmit .retransmit2
  else s

/-- The transitions of `RECEIVED2`. -/
def stepReceived2 : EapSm W P :=
  if s.rx.rxResp ∧ s.rx.respId = s.currentId then s.enterAaaRequest else s.enterDiscard .discard2

/-- The transitions of `AAA_IDLE`. -/
def stepAaaIdle : EapSm W P :=
  if s.eapIf.aaaFail then s.enterFailure2
  else if s.eapIf.aaaSuccess then s.enterSuccess2
  else if s.eapIf.aaaEapReq then s.enterAaaResponse
  else if s.eapIf.aaaTimeout then s.enterTimeoutFailure .timeoutFailure2
  else s

/-- The transitions of `SM_STEP(EAP)` that depend on the state. -/
def stepLocal (s : EapSm W P) : Except Fault (EapSm W P) :=
  match s.state with
  | .initialise => .ok (s.stepInitialise env)
  | .pickUpMethod => s.stepPickUpMethod env
  | .disabled => .ok (if s.eapIf.portEnabled then s.enterInitialise env false else s)
  | .idle => .ok (s.stepIdle env)
  | .retransmit => .ok (s.stepRetransmit .timeoutFailure .idle)
  | .received => s.stepReceived env
  | .discard => .ok (s.enterIdle .idle)
  | .sendRequest => .ok (s.enterIdle .idle)
  | .integrityCheck => s.stepIntegrityCheck env
  | .methodRequest => .ok s.stepMethodRequest
  | .methodResponse => s.stepMethodResponse env
  | .proposeMethod => s.stepProposeMethod env rounds
  | .nak => .ok (s.enterSelectAction env)
  | .selectAction => s.stepSelectAction env rounds
  | .initiateReauthStart => .ok (s.enterSendRequest .sendRequest)
  | .initiateReceived => .ok (if env.eapServer then s else s.enterSelectAction env)
  | .timeoutFailure => .ok s
  | .failure => .ok s
  | .success => .ok s
  | .initialisePassthrough => .ok (if s.currentId = -1 then s.enterAaaIdle else s.enterAaaRequest)
  | .idle2 => .ok s.stepIdle2
  | .retransmit2 => .ok (s.stepRetransmit .timeoutFailure2 .idle2)
  | .received2 => .ok s.stepReceived2
  | .discard2 => .ok (s.enterIdle .idle2)
  | .sendRequest2 => .ok (s.enterIdle .idle2)
  | .aaaRequest => .ok s.enterAaaIdle
  | .aaaResponse => .ok (s.enterSendRequest .sendRequest2)
  | .aaaIdle => .ok s.stepAaaIdle
  | .timeoutFailure2 => .ok s
  | .failure2 => .ok s
  | .success2 => .ok s

/-- `SM_STEP(EAP)`. -/
def smStep (s : EapSm W P) : Except Fault (EapSm W P) :=
  if s.eapIf.eapRestart ∧ s.eapIf.portEnabled then .ok (s.enterInitialise env true)
  else if s.eapIf.portEnabled = false then .ok (s.enterDisabled true)
  else if maxAuthRounds < s.numRounds then
    .ok (if s.numRounds = maxAuthRounds + 1 then
      ({ s with numRounds := s.numRounds + 1 } : EapSm W P).enterFailure true else s)
  else s.stepLocal env rounds

/-- `eap_server_sm_step`, in at most so many rounds: the machine, and whether its state has
changed. -/
def serverSmStep (env : Env W P) : ℕ → EapSm W P → Except Fault (EapSm W P × Bool)
  | 0, s => .ok (s, false)
  | n + 1, s => do
    let s ← ({ s with changed := false } : EapSm W P).smStep env n
    if s.changed then
      let r ← serverSmStep env n s
      .ok (r.1, true)
    else .ok (s, false)

/-- `eap_sm_pending_cb`. -/
def pendingCb : EapSm W P :=
  if s.vars.methodPending = .wait then
    { s with vars := { s.vars with methodPending := .cont } }
  else s

end EapSm

end Hostapd.EapServer
