import Hostapd.Wps.Step

/-!
# Wi-Fi Protected Setup: the Enrollee

The registration protocol as the Enrollee runs it (`wps_enrollee_get_msg` and
`wps_enrollee_process_msg` of `wps_enrollee.c`). A station is an Enrollee to get the credentials of
a network; an access point is one towards an external Registrar, which has to know the AP PIN.

Random numbers, fresh keys, the lock of the AP PIN (`ap_setup_locked`) and the value that `cred_cb`
returns are given to the step.
-/

namespace Hostapd.Wps.Enrollee

open Wire Machine

abbrev St := Wps.St Unit

/-- What comes from outside with a step. -/
structure Answers where
  nonceE : Option Bytes := none
  dhKeys : Option (Bytes × Bytes) := none
  /-- The attributes of M1 that describe this device, up to the Association State. -/
  deviceAttrs : Bytes := []
  snonce : Option (Bytes × Bytes) := none
  /-- Whether the random pool is ready, which an access point asks for. -/
  poolReady : Bool := true
  iv : Option Bytes := none
  psk : Option Bytes := none

variable (prims : Prims) (ctx : Context) (s : St)

/-! ## Building messages -/

variable (ans : Answers)

/-- The first attributes of M3, M5 and M7. -/
def header (type : MsgType) : Bytes :=
  buildVersion ++ attr .msgType [type.code] ++ attr .registrarNonce s.wps.nonceR

/-- `wps_build_m1`. -/
def buildM1 : Except St (St × Option (OpCode × Bytes)) := do
  let nonceE ← need s ans.nonceE
  let s := s.upd fun d => { d with nonceE := nonceE }
  let keys ← need (s.upd fun d => { d with dhPrivkey := none }) ans.dhKeys
  let s := s.upd fun d => { d with dhPrivkey := some keys.1, dhPubkeyE := some keys.2 }
  let msg := buildVersion ++ attr .msgType [MsgType.m1.code] ++ attr .uuidE s.wps.uuidE ++
    attr .macAddr s.wps.macAddrE ++ attr .enrolleeNonce nonceE ++ attr .publicKey keys.2 ++
    ans.deviceAttrs ++ attr .devPasswordId (be16 s.wps.devPwId) ++ attr .configError (be16 0) ++
    ctx.osVersion ++ buildWfaExt
  return send s .m1 msg none .recvM2

/-- `wps_build_m3`: the commitments E-Hash1 and E-Hash2. -/
def buildM3 : Except St (St × Option (OpCode × Bytes)) := do
  let devPassword ← need s s.wps.devPassword
  let s := s.upd fun d => derivePsk prims d devPassword
  check s (ctx.ap = false ∨ ans.poolReady)
  let snonce ← need s ans.snonce
  let s := s.upd fun d => { d with snonce1 := snonce.1, snonce2 := snonce.2 }
  check s (s.wps.dhPubkeyE ≠ none ∧ s.wps.dhPubkeyR ≠ none)
  let msg := header s .m3 ++ attr .eHash1 (commitment prims s.wps.keys snonce.1 s.wps.psk1) ++
    attr .eHash2 (commitment prims s.wps.keys snonce.2 s.wps.psk2) ++ buildWfaExt
  let msg ← need s (buildAuthenticator prims s.wps msg)
  return send s .m3 msg none .recvM4

/-- `wps_build_m5`: E-S1. -/
def buildM5 : Except St (St × Option (OpCode × Bytes)) := do
  let settings ← sealSettings prims s ans.iv (attr .eSnonce1 s.wps.snonce1)
  let msg ← need s (buildAuthenticator prims s.wps (header s .m5 ++ settings.2 ++ buildWfaExt))
  return send s .m5 msg (some settings.1) .recvM6

/-- `wps_build_cred_auth_type`: only the strongest type is shown. -/
def shownAuthType : UInt16 :=
  if hasFlag ctx.apAuthType 0x20 then 0x20
  else if hasFlag ctx.apAuthType 0x02 then 0x02
  else if hasFlag ctx.apAuthType 0x01 then 0x01
  else ctx.apAuthType

/-- `wps_build_cred_encr_type`. -/
def shownEncrType : UInt16 :=
  if hasFlag ctx.apAuthType 0x22 then
    if hasFlag ctx.apEncrType 0x08 then 0x08
    else if hasFlag ctx.apEncrType 0x04 then 0x04
    else ctx.apEncrType
  else ctx.apEncrType

/-- `wps_build_cred_network_key`: a key is made for the Registrar when none is configured. -/
def shownKey : Except St Bytes :=
  if hasFlag ctx.apAuthType 0x22 ∧ (ctx.networkKey.getD []).length = 0 then do
    let r ← need s ans.psk
    return hexDigits r
  else .ok (ctx.networkKey.getD [])

/-- `wps_build_ap_settings`. -/
def buildApSettings : Except St Bytes :=
  match ctx.apSettings with
  | some settings => .ok settings
  | none => do
    let key ← shownKey ctx s ans
    return attr .ssid ctx.ssid ++ attr .macAddr ctx.macAddr ++
      attr .authType (be16 (shownAuthType ctx)) ++ attr .encrType (be16 (shownEncrType ctx)) ++
      attr .networkKey key

/-- What M7 carries: E-S2, and the settings of an access point. -/
def m7Settings : Except St Bytes :=
  if ctx.ap then do
    let settings ← buildApSettings ctx s ans
    return attr .eSnonce2 s.wps.snonce2 ++ settings
  else .ok (attr .eSnonce2 s.wps.snonce2)

/-- `wps_build_m7`. -/
def buildM7 : Except St (St × Option (OpCode × Bytes)) := do
  let plain ← m7Settings ctx s ans
  let settings ← sealSettings prims s ans.iv plain
  let msg ← need s (buildAuthenticator prims s.wps (header s .m7 ++ settings.2 ++ buildWfaExt))
  return send s .m7 msg (some settings.1) .recvM8

/-- `wps_build_wsc_ack`, `wps_build_wsc_nack` and `wps_build_wsc_done`. -/
def buildWsc (type : MsgType) : Bytes :=
  buildVersion ++ attr .msgType [type.code] ++ attr .enrolleeNonce s.wps.nonceE ++
    attr .registrarNonce s.wps.nonceR ++
    (if type = .wscNack then attr .configError (be16 s.wps.configError) else []) ++ buildWfaExt

/-- `wps_enrollee_get_msg`: the next message of the session, if there is one. -/
def getMsg : St × Option (OpCode × Bytes) :=
  match s.wps.state with
  | .sendM1 => orNone (buildM1 ctx s ans)
  | .sendM3 => orNone (buildM3 prims ctx s ans)
  | .sendM5 => orNone (buildM5 prims s ans)
  | .sendM7 => orNone (buildM7 prims ctx s ans)
  | .receivedM2d =>
    if ctx.ap then (s, some (.nack, buildWsc s .wscNack))
    else (s.goto .recvM2, some (.ack, buildWsc s .wscAck))
  | .sendWscNack => (s, some (.nack, buildWsc s .wscNack))
  | .msgDone =>
    (s.goto (if ctx.ap then .recvAck else .finished), some (.done, buildWsc s .wscDone))
  | _ => (s, none)

/-! ## Processing messages -/

/-- The frame of all handlers: the message must be due, and what it holds decides between the next
state and WSC_NACK. -/
def processMsgIn (due : State) (body : St → Except St St) (s : St) : St :=
  if s.wps.state ≠ due then s.goto .sendWscNack
  else settle (·.goto .sendWscNack) id (body s)

variable (attrs : Attrs)

/-- `wps_process_dev_pw_id`: the Registrar may choose the alternative device password. -/
def processDevPwId : Except St St := do
  let id ← need s (attrs.get? .devPasswordId)
  let id := ofBe16 id
  if s.wps.devPwId = id then return s
  else if s.wps.devPwId = 4 ∧ id = 0 then return s
  else
    match s.wps.altDevPassword with
    | none => .error s
    | some password =>
      if s.wps.altDevPwId = id then
        return s.upd fun d => { d with devPwId := id, devPassword := some password
                                       altDevPassword := none }
      else .error s

/-- `wps_process_pubkey`: a hash that came out of band must fit, and the keys are derived. -/
def processPubkey : Except St St := do
  let pubkey ← need s (attrs.get? .publicKey)
  check (s.refuse 20) (s.wps.peerPubkeyHash.all fun hash =>
    (prims.sha256 pubkey).take 20 = hash)
  let s := s.upd fun d => { d with dhPubkeyR := some pubkey }
  match deriveKeys prims s.wps s.wps.dhPubkeyR with
  | .error d => .error (s.upd fun _ => d)
  | .ok d => .ok (s.upd fun _ => d)

variable (msg : Bytes)

def checkMsg : Except St Unit := checkOwn prims s .enrolleeNonce s.wps.nonceE attrs msg

/-- `wps_process_cred_e`: one Credential attribute is taken, skipped or bad. -/
def processCredE (cred : Bytes) (accept : Credential → Bool) : St × Option Bool :=
  match parseMsg cred >>= processCred with
  | none => (s, none)
  | some c =>
    let s := s.upd fun d => { d with cred := c }
    if hasFlag c.encrType 0x0d = false then
      (s, if hasFlag c.encrType 0x02 then some false else none)
    else
      (s.tell (.credCb { c with credAttr := attr .cred cred } s.wps),
        if accept c then some true else none)

/-- The loop of `wps_process_creds` over the Credential attributes. -/
def processCredLoop (s : St) (accept : Credential → Bool) : List Bytes → ℕ → Except St St
  | [], ok => if ok = 0 then .error s else .ok s
  | cred :: creds, ok =>
    match processCredE s cred accept with
    | (s, none) => .error s
    | (s, some taken) => processCredLoop s accept creds (if taken then ok + 1 else ok)

/-- `wps_process_creds`: an access point takes none. -/
def processCreds (eattrs : Attrs) (accept : Credential → Bool) : Except St St :=
  if ctx.ap then .ok s
  else processCredLoop s accept (eattrs.values .cred) 0

/-- The stronger types are added to settings with TKIP or WPA-Personal only. -/
def upgradeTypes (cred : Credential) : Credential :=
  { cred with
    encrType := if cred.encrType &&& 0x0c = 0x04 then cred.encrType ||| 0x08 else cred.encrType
    authType := if cred.authType &&& 0x22 = 0x02 then cred.authType ||| 0x20 else cred.authType }

/-- `wps_process_ap_settings_e`: the new settings of an access point. -/
def processApSettingsE (plain : Bytes) (eattrs : Attrs) (accept : Credential → Bool) :
    Except St St :=
  if ctx.ap = false then .ok s
  else do
    let cred ← need s (processApSettings eattrs)
    check s (hasFlag cred.encrType 0x0d)
    let s := s.tell (.credCb { upgradeTypes cred with credAttr := plain } s.wps)
    check s (accept cred)
    return s

/-- Whether the lock refuses a new external Registrar.  With 2 it may run the protocol up to M7. -/
def setupLocked (d : Data) (lock : ℕ) : Bool :=
  ctx.ap ∧ ((lock ≠ 0 ∧ lock ≠ 2) ∨ d.devPassword = none)

/-- `wps_process_device_attrs`. -/
def processDeviceAttrs : Except St St := do
  let manufacturer ← need s (attrs.get? .manufacturer)
  let s := s.upd fun d => { d with manufacturer := some manufacturer }
  let modelName ← need s (attrs.get? .modelName)
  let s := s.upd fun d => { d with modelName := some modelName }
  let _ ← need s (attrs.get? .modelNumber)
  let _ ← need s (attrs.get? .serialNumber)
  let _ ← need s (attrs.get? .primaryDevType)
  let _ ← need s (attrs.get? .devName)
  return s

/-- The end of `wps_process_m2`: with a public key hash from out of band the credentials are in M2
already. -/
def m2Settings (accept : Credential → Bool) : Except St St :=
  if s.wps.peerPubkeyHash = none then .ok (s.goto .sendM3)
  else do
    let settings ← need s (openSettings prims s.wps.keys attrs)
    let s ← processCreds ctx s settings.2 accept
    return s.goto .msgDone

variable (lock : ℕ)

/-- The body of `wps_process_m2`. -/
def m2Body (attrs : Attrs) (msg : Bytes) (accept : Credential → Bool) (s : St) :
    Except St St := do
  let nonceR ← need s (attrs.get? .registrarNonce)
  let s := s.upd fun d => { d with nonceR := nonceR }
  check s (attrs.get? .enrolleeNonce = some s.wps.nonceE)
  let uuidR ← need s (attrs.get? .uuidR)
  let s := s.upd fun d => { d with uuidR := uuidR }
  let s ← processDevPwId s attrs
  check (s.refuse 15) (setupLocked ctx s.wps lock = false)
  let s ← processPubkey prims s attrs
  check s (authenticatorValid prims s.wps.authkey s.wps.lastMsg attrs msg)
  let s ← processDeviceAttrs s attrs
  m2Settings prims ctx s attrs accept

/-- The body of `wps_process_m4`: R-Hash1 and R-Hash2 are taken, and R-S1 must give R-Hash1. -/
def m4Body (s : St) : Except St St := do
  checkMsg prims s attrs msg
  let hash1 ← need s (attrs.get? .rHash1)
  let s := s.upd fun d => { d with peerHash1 := hash1 }
  let hash2 ← need s (attrs.get? .rHash2)
  let s := s.upd fun d => { d with peerHash2 := hash2 }
  let settings ← need s (openSettings prims s.wps.keys attrs)
  let snonce ← need s (settings.2.get? .rSnonce1)
  let s ← compareHash prims s false s.wps.peerHash1 s.wps.psk1 snonce
  return s.goto .sendM5

/-- The body of `wps_process_m6`: R-S2 must give R-Hash2. -/
def m6Body (s : St) : Except St St := do
  checkMsg prims s attrs msg
  let settings ← need s (openSettings prims s.wps.keys attrs)
  let snonce ← need s (settings.2.get? .rSnonce2)
  let s ← compareHash prims s true s.wps.peerHash2 s.wps.psk2 snonce
  let s := if ctx.ap then s.tell .apPinSuccess else s
  return s.goto .sendM7

/-- The body of `wps_process_m8`. -/
def m8Body (attrs : Attrs) (msg : Bytes) (accept : Credential → Bool) (s : St) :
    Except St St := do
  checkMsg prims s attrs msg
  check (s.refuse 15) (ctx.ap = false ∨ lock = 0)
  let settings ← need s (openSettings prims s.wps.keys attrs)
  let s ← processCreds ctx s settings.2 accept
  let s ← processApSettingsE ctx s settings.1 settings.2 accept
  return s.goto .msgDone

/-- `wps_process_m2d`. -/
def m2dBody : Except St St := .ok (s.goto .receivedM2d)

/-- The messages that `wps_process_wsc_msg` knows. -/
def dispatch (type : UInt8) (attrs : Attrs) (msg : Bytes) (accept : Credential → Bool) :
    St × ProcessRes :=
  if type = MsgType.m2.code then
    (processMsgIn .recvM2 (m2Body prims ctx lock attrs msg accept) s, .continue)
  else if type = MsgType.m2d.code then (processMsgIn .recvM2 m2dBody s, .continue)
  else if type = MsgType.m4.code then
    (processMsgIn .recvM4 (m4Body prims attrs msg) s, .continue)
  else if type = MsgType.m6.code then
    (processMsgIn .recvM6 (m6Body prims ctx attrs msg) s, .continue)
  else if type = MsgType.m8.code then
    (processMsgIn .recvM8 (m8Body prims ctx lock attrs msg accept) s, .continue)
  else (s, .failure)

/-- A WSC_MSG that was answered is kept for the next Authenticator, unless it is an M2D. -/
def keepMsg (type : UInt8) (msg : Bytes) (r : St × ProcessRes) : St × ProcessRes :=
  if r.2 = .continue ∧ type ≠ MsgType.m2d.code then
    (r.1.upd fun d => { d with lastMsg := some msg }, r.2)
  else r

/-- `wps_process_wsc_msg`. -/
def processWscMsg (msg : Bytes) (accept : Credential → Bool) : St × ProcessRes :=
  match parseMsg msg with
  | none => (s, .failure)
  | some attrs =>
    if attrs.get? .enrolleeNonce ≠ some s.wps.nonceE then (s, .failure)
    else
      match attrs.octet? .msgType with
      | none => (s.goto .sendWscNack, .continue)
      | some type => keepMsg type msg (dispatch prims ctx s lock type attrs msg accept)

/-- `wps_process_wsc_ack`: the end of a registration with an external Registrar. -/
def processWscAck : St × ProcessRes :=
  if (parseMsg msg).any (wscValid s.wps .wscAck) ∧ s.wps.state = .recvAck ∧ ctx.ap then
    (s.goto .finished, .done)
  else (s, .failure)

/-- `wps_process_wsc_nack`. -/
def processWscNack : St × ProcessRes :=
  if (parseMsg msg).any (fun attrs =>
      wscValid s.wps .wscNack attrs ∧ attrs.get? .configError ≠ none) then
    (s.goto .sendWscNack, .failure)
  else (s, .failure)

/-- `wps_enrollee_process_msg`, with the lock of the access point and the answer of `cred_cb`. -/
def processMsg (op : OpCode) (msg : Bytes) (accept : Credential → Bool) : St × ProcessRes :=
  let s := s.tell (.received op s.wps.lastMsg msg)
  match op with
  | .msg => processWscMsg prims ctx s lock msg accept
  | .ack => processWscAck ctx s msg
  | .nack => processWscNack s msg
  | .done => (s, .failure)

end Hostapd.Wps.Enrollee
