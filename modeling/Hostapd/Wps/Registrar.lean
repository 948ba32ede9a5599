import Hostapd.Wps.Pins
import Hostapd.Wps.Step

/-!
# Wi-Fi Protected Setup: the Registrar

The registration protocol as the Registrar runs it (`wps_registrar_get_msg` and
`wps_registrar_process_msg` of `wps_registrar.c`), without UPnP. Random numbers, fresh keys, the
time and whether another push button session is active come with the step (`Answers`). Memory
failures, the events for the user and the list of authorised MAC addresses are left out.
-/

namespace Hostapd.Wps.Registrar

open Wire Machine

abbrev St := Wps.St Registrar

/-- What comes from outside with a step. -/
structure Answers where
  nonceR : Option Bytes := none
  dhKeys : Option (Bytes × Bytes) := none
  snonce : Option (Bytes × Bytes) := none
  iv : Option Bytes := none
  psk : Option Bytes := none
  now : ℕ := 0

variable (prims : Prims) (ctx : Context) (s : St)

/-! ## Building messages -/

/-- `wps_get_dev_password`: the password of the session, from the push button, an NFC token or the
configured PINs. -/
def getDevPassword (now : ℕ) : Except St St :=
  let s := s.upd fun d => { d with devPassword := none }
  if s.wps.pbc then
    .ok (s.upd fun d => { d with devPassword := some (List.replicate 8 0x30) })
  else
    match s.wps.nfcPwToken with
    | some token =>
      if token.pwId = 7 then .ok s
      else .ok (s.upd fun d => { d with devPassword := some token.devPw })
    | none =>
      if 0x10 ≤ s.wps.devPwId ∧ ctx.apNfcDevPwId = s.wps.devPwId ∧ ctx.apNfcDevPw ≠ none then
        .ok (s.upd fun d => { d with devPassword := ctx.apNfcDevPw })
      else
        let r := s.reg.getPin s.wps.uuidE now
        let s := { s with reg := r.1 }
        match r.2 with
        | none => .error s
        | some pin =>
          let devPwId := if 0x10 ≤ s.wps.devPwId then 0 else s.wps.devPwId
          .ok ((s.tell (.gotPin pin.id)).upd fun d =>
            { d with devPassword := some pin.pin, devPwId := devPwId })

/-- The strongest authentication type of the session, none if it has none that is supported. -/
def selectAuthType (authType : UInt16) : Option UInt16 :=
  if hasFlag authType 0x20 then some 0x20
  else if hasFlag authType 0x02 then some 0x02
  else if hasFlag authType 0x01 then some 0x01
  else none

/-- The encryption type that goes with the selected authentication type. -/
def selectEncrType (authType encrType : UInt16) : Option UInt16 :=
  let encrType :=
    if ctx.ap ∧ authType = 0x20 then encrType &&& ctx.encrTypesRsn
    else if ctx.ap ∧ authType = 0x02 then encrType &&& ctx.encrTypesWpa
    else encrType
  if authType = 0x20 ∨ authType = 0x02 then
    if hasFlag encrType 0x08 then some 0x08
    else if hasFlag encrType 0x04 then some 0x04
    else none
  else if hasFlag encrType 0x01 then some 0x01
  else none

variable (ans : Answers)

/-- The network key of a new credential: generated for an unconfigured access point, the configured
one, or one of the Enrollee's own.  The key generated, if any, comes first. -/
def credKey : Except St (Option Bytes × Bytes) :=
  if s.reg.configured = false ∧ ctx.ap ∧ ctx.disableAutoConf = false then do
    let r ← need s ans.psk
    return (some (prims.base64 r), prims.base64 r)
  else
    match ctx.forcePerEnrolleePsk, s.wps.usePskKey, ctx.psk, ctx.networkKey with
    | false, true, some psk, _ => .ok (s.wps.newPsk, hexDigits psk)
    | false, _, _, some key => .ok (s.wps.newPsk, key)
    | _, _, _, _ =>
      if hasFlag s.wps.authType 0x22 then do
        let r ← need (s.upd fun d => { d with newPsk := none }) ans.psk
        return (some r, hexDigits r)
      else .ok (s.wps.newPsk, [])

/-- The credential of the session, made from the configuration (the middle part of
`wps_build_cred`). -/
def makeCred : Except St St :=
  match s.wps.useCred with
  | some cred => .ok (s.upd fun d => { d with cred := cred })
  | none => do
    let authType ← need s (selectAuthType s.wps.authType)
    let s := s.upd fun d => { d with authType := authType }
    let encrType ← need s (selectEncrType ctx authType s.wps.encrType)
    let s := s.upd fun d => { d with encrType := encrType }
    let key ← credKey prims ctx s ans
    let cred : Credential :=
      { ssid := ctx.ssid, authType := authType, encrType := encrType, key := key.2,
        macAddr := s.wps.macAddrE }
    return s.upd fun d => { d with cred := cred, newPsk := key.1 }

/-- `wps_build_cred`: the credential attributes of M8. -/
def buildCred : Except St (St × Bytes) :=
  if ctx.skipCredBuild then .ok (s, ctx.extraCred)
  else do
    let s ← makeCred prims ctx s ans
    return (s, attr .cred (buildCredential s.wps.cred) ++ ctx.extraCred)

/-- The first attributes of every message of the Registrar. -/
def header (type : MsgType) : Bytes :=
  buildVersion ++ attr .msgType [type.code] ++ attr .enrolleeNonce s.wps.nonceE

/-- `wps_build_public_key` and `wps_derive_keys` of M2. -/
def deriveM2Keys : Except St (St × Bytes) := do
  let keys ← need (s.upd fun d => { d with dhPrivkey := none }) ans.dhKeys
  let s := s.upd fun d => { d with dhPrivkey := some keys.1, dhPubkeyR := some keys.2 }
  match deriveKeys prims s.wps s.wps.dhPubkeyE with
  | .error d => .error (s.upd fun _ => d)
  | .ok d => .ok (s.upd fun _ => d, keys.2)

/-- Whether M2 carries the credentials: the hashes of both public keys came over NFC, so no device
password is needed. -/
def abbreviated (d : Data) : Bool :=
  d.nfcPwToken.any fun token => token.pkHashProvidedOob ∧ token.pwId = 7

/-- The Encrypted Settings of M2, in the abbreviated handshake only. -/
def m2Settings : Except St (St × Option (Bytes × Bytes)) :=
  if abbreviated s.wps then do
    let r ← buildCred prims ctx s ans
    let settings ← sealSettings prims r.1 ans.iv r.2
    return (r.1, some settings)
  else .ok (s, none)

/-- `wps_build_m2`. -/
def buildM2 : Except St (St × Option (OpCode × Bytes)) := do
  let nonceR ← need s ans.nonceR
  let s := s.upd fun d => { d with nonceR := nonceR }
  let head := header s .m2 ++ attr .registrarNonce nonceR ++ attr .uuidR s.wps.uuidR
  let r ← deriveM2Keys prims s ans
  let s := r.1
  let r' ← m2Settings prims ctx s ans
  let msg := head ++ attr .publicKey r.2 ++ ctx.deviceAttrs ++ attr .configError (be16 0) ++
    attr .devPasswordId (be16 s.wps.devPwId) ++ ctx.osVersion ++ buildWfaExt ++
    (r'.2.map Prod.snd).getD []
  let s := r'.1
  let msg ← need s (buildAuthenticator prims s.wps msg)
  return send s .m2 msg (r'.2.map Prod.fst) (if r'.2 = none then .recvM3 else .recvDone)

/-- `wps_build_m2d`; an access point whose setup is locked says so. -/
def buildM2d (locked : Bool) : St × Option (OpCode × Bytes) :=
  let err : UInt16 := if ctx.ap ∧ locked ∧ s.wps.configError = 0 then 15 else s.wps.configError
  send s .m2d
    (header s .m2d ++ attr .registrarNonce s.wps.nonceR ++ attr .uuidR s.wps.uuidR ++
      ctx.deviceAttrs ++ attr .configError (be16 err) ++ ctx.osVersion ++ buildWfaExt) none
    .recvM2dAck

/-- `wps_build_m4`: the commitments R-Hash1 and R-Hash2, and R-S1. -/
def buildM4 : Except St (St × Option (OpCode × Bytes)) := do
  let s := s.upd fun d => derivePsk prims d (d.devPassword.getD [])
  let snonce ← need s ans.snonce
  let s := s.upd fun d => { d with snonce1 := snonce.1, snonce2 := snonce.2 }
  check s (s.wps.dhPubkeyE ≠ none ∧ s.wps.dhPubkeyR ≠ none)
  let settings ← sealSettings prims s ans.iv (attr .rSnonce1 snonce.1)
  let msg := header s .m4 ++ attr .rHash1 (commitment prims s.wps.keys snonce.1 s.wps.psk1) ++
    attr .rHash2 (commitment prims s.wps.keys snonce.2 s.wps.psk2) ++ settings.2 ++ buildWfaExt
  let msg ← need s (buildAuthenticator prims s.wps msg)
  return send s .m4 msg (some settings.1) .recvM5

/-- `wps_build_m6`: R-S2.  From here on the PIN is revealed. -/
def buildM6 : Except St (St × Option (OpCode × Bytes)) := do
  let settings ← sealSettings prims s ans.iv (attr .rSnonce2 s.wps.snonce2)
  let msg ← need s (buildAuthenticator prims s.wps (header s .m6 ++ settings.2 ++ buildWfaExt))
  return send (s.upd fun d => { d with pinRevealed := true }) .m6 msg (some settings.1) .recvM7

/-- What M8 carries: the credentials, or the new settings of the access point. -/
def m8Settings : Except St (St × Bytes) :=
  if ctx.ap ∨ s.wps.er then buildCred prims ctx s ans
  else .ok (s, buildCredential s.wps.cred)

/-- `wps_build_m8`. -/
def buildM8 : Except St (St × Option (OpCode × Bytes)) := do
  let r ← m8Settings prims ctx s ans
  let settings ← sealSettings prims r.1 ans.iv r.2
  let msg ← need r.1
    (buildAuthenticator prims r.1.wps (header r.1 .m8 ++ settings.2 ++ buildWfaExt))
  return send r.1 .m8 msg (some settings.1) .recvDone

/-- `wps_build_wsc_ack` and `wps_build_wsc_nack`. -/
def buildWsc (type : MsgType) : Bytes :=
  header s type ++ attr .registrarNonce s.wps.nonceR ++
    (if type = .wscNack then attr .configError (be16 s.wps.configError) else []) ++ buildWfaExt

/-- State `SEND_M2`: M2 with a device password, M2D without one. -/
def sendM2 (locked : Bool) : St × Option (OpCode × Bytes) :=
  match getDevPassword ctx s ans.now with
  | .error s => buildM2d ctx s locked
  | .ok s => orNone (buildM2 prims ctx s ans)

/-- `wps_registrar_get_msg`: the next message of the session, if there is one. -/
def getMsg (locked : Bool) : St × Option (OpCode × Bytes) :=
  match s.wps.state with
  | .sendM2 => sendM2 prims ctx s ans locked
  | .sendM2d => buildM2d ctx s locked
  | .sendM4 => orNone (buildM4 prims s ans)
  | .sendM6 => orNone (buildM6 prims s ans)
  | .sendM8 => orNone (buildM8 prims ctx s ans)
  | .recvDone => (s, some (.ack, buildWsc s .wscAck))
  | .sendWscNack => (s, some (.nack, buildWsc s .wscNack))
  | _ => (s, none)

/-! ## Processing M1 -/

/-- `wps_process_auth_type_flags`: the common types, all own ones if there are none in common. -/
def commonAuthTypes (flags : UInt16) : UInt16 :=
  -- Some Enrollees announce WPA2 and mean WPA2-Personal.
  let flags := if flags &&& 0x32 = 0x12 then flags ||| 0x20 else flags
  if ctx.authTypes &&& flags = 0 then ctx.authTypes else ctx.authTypes &&& flags

/-- `wps_process_encr_type_flags`. -/
def commonEncrTypes (flags : UInt16) : UInt16 :=
  if ctx.encrTypes &&& flags = 0 then ctx.encrTypes else ctx.encrTypes &&& flags

variable (attrs : Attrs)

/-- Attributes that only have to be there. -/
def needAll (types : List AttrType) : Except St Unit :=
  check s (types.all fun t => (attrs.get? t).isSome)

/-- The first attributes of M1: who the Enrollee is. -/
def m1Identity : Except St St := do
  let uuidE ← need s (attrs.get? .uuidE)
  let s := s.upd fun d => { d with uuidE := uuidE }
  let macAddr ← need s (attrs.get? .macAddr)
  let s := s.upd fun d => { d with macAddrE := macAddr }
  let nonceE ← need s (attrs.get? .enrolleeNonce)
  let s := s.upd fun d => { d with nonceE := nonceE }
  let pubkey ← need s (attrs.get? .publicKey)
  return s.upd fun d => { d with dhPubkeyE := some pubkey }

/-- The attributes of M1 that say what the Enrollee supports.  One without a display gets the key
as a PSK. -/
def m1Capabilities : Except St St := do
  let auth ← need s (attrs.get? .authTypeFlags)
  let s := s.upd fun d => { d with authType := commonAuthTypes ctx (ofBe16 auth) }
  let encr ← need s (attrs.get? .encrTypeFlags)
  let s := s.upd fun d => { d with encrType := commonEncrTypes ctx (ofBe16 encr) }
  needAll s attrs [.connTypeFlags]
  let methods ← need s (attrs.get? .configMethods)
  let s := s.upd fun d =>
    { d with usePskKey := d.usePskKey ∨ hasFlag (ofBe16 methods) 0x08 = false }
  needAll s attrs [.wpsState]
  return s

/-- The attributes of M1 that describe the Enrollee, and its Device Password ID. -/
def m1Device : Except St St := do
  let manufacturer ← need s (attrs.get? .manufacturer)
  let s := s.upd fun d => { d with manufacturer := some manufacturer }
  let modelName ← need s (attrs.get? .modelName)
  let s := s.upd fun d => { d with modelName := some modelName }
  needAll s attrs [.modelNumber, .serialNumber, .primaryDevType, .devName, .rfBands, .assocState]
  let devPwId ← need s (attrs.get? .devPasswordId)
  let s := s.upd fun d => { d with devPwId := ofBe16 devPwId }
  needAll s attrs [.configError, .osVersion]
  return s

/-- The attributes of M1, processed in their order up to the first that is missing. -/
def processM1Attrs : Except St St := do
  let s ← m1Identity s attrs
  let s ← m1Capabilities ctx s attrs
  m1Device s attrs

/-- Whether a Device Password ID is one that this Registrar supports. -/
def supportedPwId (reg : Registrar) (id : UInt16) : Bool :=
  0x10 ≤ id ∨ id = 0 ∨ id = 8 ∨ id = 1 ∨ id = 2 ∨ id = 5 ∨ id = 7 ∨ (id = 4 ∧ reg.pbc)

/-- The NFC token for the Device Password ID of M1.  A token with a known hash is used once, and
the Enrollee's public key must have that hash. -/
def matchToken : Except St St :=
  if 0x10 ≤ s.wps.devPwId ∨ s.wps.devPwId = 7 then
    match s.reg.nfcPwTokens.find? (·.pwId = s.wps.devPwId) with
    | none => .ok s
    | some token =>
      match token.pubkeyHash with
      | none => .ok (s.upd fun d => { d with nfcPwToken := some token })
      | some hash =>
        let s : St :=
          { s with
            reg := { s.reg with
              nfcPwTokens := s.reg.nfcPwTokens.eraseP (·.pwId = s.wps.devPwId) }
            wps := { s.wps with nfcPwToken := some token } }
        if (prims.sha256 (s.wps.dhPubkeyE.getD [])).take 20 = hash then .ok s
        else .error (s.upd fun d => { d with state := .sendM2d, configError := 20 })
  else .ok s

/-- Push button configuration: M1 is denied when another session is active. -/
def matchPbc (pbcOverlap : Bool) : Except St St :=
  if s.wps.devPwId = 4 then
    if s.reg.forcePbcOverlap ∨ pbcOverlap then
      .error { s with reg := { s.reg with forcePbcOverlap := true }
                      wps := { s.wps with state := .sendM2d, configError := 12 } }
    else .ok (s.upd fun d => { d with pbc := true })
  else .ok s

/-- `"Apple "`. -/
def apple : Bytes := [0x41, 0x70, 0x70, 0x6c, 0x65, 0x20]

/-- `"AirPort"`. -/
def airPort : Bytes := [0x41, 0x69, 0x72, 0x50, 0x6f, 0x72, 0x74]

/-- Some devices do not take a passphrase: they get the key as a PSK. -/
def preferPsk (d : Data) : Data :=
  if d.manufacturer.any (fun m => m.take 6 = apple) ∧
      d.modelName.any (fun m => m.takeWhile (· ≠ 0) = airPort) then
    { d with usePskKey := true }
  else d

/-- `wps_process_m1`.  What comes after the attributes always answers, with M2 or M2D. -/
def processM1 (pbcOverlap : Bool) : St × ProcessRes :=
  if s.wps.state ≠ .recvM1 then (s, .failure)
  else
    match processM1Attrs ctx s attrs with
    | .error s => (s, .failure)
    | .ok s =>
      if supportedPwId s.reg s.wps.devPwId = false then (s.goto .sendM2d, .continue)
      else
        match matchToken prims s >>= (matchPbc · pbcOverlap) with
        | .error s => (s, .continue)
        | .ok s => ((s.upd preferPsk).goto .sendM2, .continue)

/-! ## Processing M3, M5 and M7 -/

variable (msg : Bytes)

def checkMsg : Except St Unit := checkOwn prims s .registrarNonce s.wps.nonceR attrs msg

/-- The frame of M3, M5 and M7: the message must be due, no push button session may overlap, and
what it holds decides between the next state and WSC_NACK. -/
def processMsgIn (due next : State) (body : St → Except St St) (s : St) : St :=
  if s.wps.state ≠ due then s.goto .sendWscNack
  else if s.wps.pbc ∧ s.reg.forcePbcOverlap then s.refuse 12
  else settle (·.goto .sendWscNack) (·.goto next) (body s)

/-- The body of `wps_process_m3`: the Enrollee commits to E-Hash1 and E-Hash2. -/
def m3Body (s : St) : Except St St := do
  checkMsg prims s attrs msg
  let hash1 ← need s (attrs.get? .eHash1)
  let s := s.upd fun d => { d with peerHash1 := hash1 }
  let hash2 ← need s (attrs.get? .eHash2)
  return s.upd fun d => { d with peerHash2 := hash2 }

def processM3 : St :=
  processMsgIn .recvM3 .sendM4 (m3Body prims attrs msg) s

/-- `wps_process_e_snonce1`: E-S1 must give the E-Hash1 of M3. -/
def processESnonce1 (eattrs : Attrs) : Except St St := do
  let snonce ← need s (eattrs.get? .eSnonce1)
  compareHash prims s false s.wps.peerHash1 s.wps.psk1 snonce

/-- The body of `wps_process_m5`. -/
def m5Body (s : St) : Except St St := do
  checkMsg prims s attrs msg
  let settings ← need s (openSettings prims s.wps.keys attrs)
  processESnonce1 prims s settings.2

def processM5 : St :=
  processMsgIn .recvM5 .sendM6 (m5Body prims attrs msg) s

/-- `wps_process_e_snonce2`: E-S2 must give the E-Hash2 of M3.  Either way the PIN is used up. -/
def processESnonce2 (eattrs : Attrs) : Except St St := do
  let snonce ← need s (eattrs.get? .eSnonce2)
  if s.wps.peerHash2 = commitment prims s.wps.keys snonce s.wps.psk2 then
    return { reg := (s.reg.unlockPin s.wps.uuidE).invalidatePin s.wps.uuidE
             wps := { s.wps with pinRevealed := false }
             out := .compared true true :: s.out }
  else
    .error { reg := s.reg.invalidatePin s.wps.uuidE
             wps := { s.wps with configError := 18 }
             out := .compared true false :: s.out }

/-- `wps_sta_cred_cb`: of several authentication or encryption types only the strongest stays, and
the credential goes to the user. -/
def singleTypes (cred : Credential) : Credential :=
  { cred with
    authType :=
      if hasFlag cred.authType 0x20 then 0x20
      else if hasFlag cred.authType 0x02 then 0x02 else cred.authType
    encrType :=
      if hasFlag cred.encrType 0x08 then 0x08
      else if hasFlag cred.encrType 0x04 then 0x04 else cred.encrType }

/-- `wps_cred_update`: everything but the MAC address is replaced. -/
def credUpdate (cred new : Credential) : Credential :=
  { cred with
    ssid := new.ssid, authType := new.authType, encrType := new.encrType, keyIdx := new.keyIdx
    key := new.key }

/-- `wps_process_ap_settings_r`: the settings of an access point that is the Enrollee.  Without new
settings to give to it, the old ones are learned and the protocol ends here. -/
def processApSettingsR (eattrs : Attrs) : Except St St :=
  if ctx.ap ∨ s.wps.er then .ok s
  else do
    let cred ← need s (processApSettings eattrs)
    match s.wps.newApSettings with
    | some new => .ok (s.upd fun d => { d with cred := credUpdate cred new })
    | none =>
      if s.wps.apSettingsCb then .error (s.upd fun d => { d with cred := cred })
      else
        let learned := singleTypes { cred with credAttr := attr .cred (buildCredential cred) }
        .error ((s.upd fun d => { d with cred := { learned with credAttr := [] } }).tell
          (.credCb learned s.wps))

/-- The body of `wps_process_m7`. -/
def m7Body (s : St) : Except St St := do
  checkMsg prims s attrs msg
  let settings ← need s (openSettings prims s.wps.keys attrs)
  let s ← processESnonce2 prims s settings.2
  processApSettingsR ctx s settings.2

def processM7 : St :=
  processMsgIn .recvM7 .sendM8 (m7Body prims ctx attrs msg) s

/-! ## Processing messages -/

/-- A WSC_MSG that was answered is kept for the next Authenticator. -/
def keepMsg (r : St × ProcessRes) : St × ProcessRes :=
  if r.2 = .continue then (r.1.upd fun d => { d with lastMsg := some msg }, r.2) else r

/-- The messages that `wps_process_wsc_msg` knows. -/
def dispatch (type : UInt8) (attrs : Attrs) (msg : Bytes) (pbcOverlap : Bool) :
    St × ProcessRes :=
  if type = MsgType.m1.code then processM1 prims ctx s attrs pbcOverlap
  else if type = MsgType.m3.code then (processM3 prims s attrs msg, .continue)
  else if type = MsgType.m5.code then (processM5 prims s attrs msg, .continue)
  else if type = MsgType.m7.code then (processM7 prims ctx s attrs msg, .continue)
  else (s, .failure)

/-- `wps_process_wsc_msg`. -/
def processWscMsg (pbcOverlap : Bool) : St × ProcessRes :=
  match parseMsg msg with
  | none => (s, .failure)
  | some attrs =>
    match attrs.octet? .msgType with
    | none => (s.goto .sendWscNack, .continue)
    | some type =>
      if type ≠ MsgType.m1.code ∧ attrs.get? .registrarNonce ≠ some s.wps.nonceR then (s, .failure)
      else keepMsg msg (dispatch prims ctx s type attrs msg pbcOverlap)

/-- The credential with which an access point leaves the unconfigured state. -/
def autoConfCred (psk : Bytes) : Credential :=
  { ssid := ctx.ssid, authType := if ctx.rf60GHz then 0x20 else 0x22
    encrType := if ctx.rf60GHz then 0x08 else 0x0c, key := psk }

/-- The first registration with an access point that is not configured configures it. -/
def autoConf : St :=
  match s.wps.newPsk with
  | some psk =>
    if s.reg.configured = false ∧ ctx.ap ∧ ctx.disableAutoConf = false then
      { reg := { s.reg with configured := true }
        wps := { s.wps with newPsk := none }
        out := .credCb (autoConfCred ctx psk) s.wps :: s.out }
    else s
  | none => s

/-- A Registrar that is not an access point uses what it has sent. -/
def staCred : St :=
  if ctx.ap ∨ s.wps.er then s
  else (s.upd fun d => { d with cred := singleTypes d.cred }).tell
    (.credCb (singleTypes s.wps.cred) s.wps)

/-- What `wps_process_wsc_done` does when the registration is complete. -/
def completed : St :=
  let s := staCred ctx (autoConf ctx s)
  { s with reg := if s.wps.pbc then { s.reg with pbc := false } else s.reg
           wps := { s.wps with newPsk := none } }

/-- `wps_process_wsc_done`. -/
def processWscDone : St × ProcessRes :=
  if s.wps.state = .recvDone ∧ (parseMsg msg).any (wscValid s.wps .wscDone) then
    (completed ctx s, .done)
  else (s.goto .sendWscNack, .failure)

/-- `wps_registrar_process_msg`.  A WSC_ACK never changes anything, a WSC_NACK always ends the
session. -/
def processMsg (op : OpCode) (msg : Bytes) (pbcOverlap : Bool) : St × ProcessRes :=
  let s := s.tell (.received op s.wps.lastMsg msg)
  match op with
  | .msg => processWscMsg prims ctx s msg pbcOverlap
  | .ack => (s, .failure)
  | .nack => (s.goto .sendWscNack, .failure)
  | .done => processWscDone ctx s msg

/-- What `wps_deinit` does to the Registrar: a revealed PIN is removed, another one is unlocked. -/
def deinit (reg : Registrar) (d : Data) : Registrar :=
  if d.pinRevealed then reg.invalidatePin d.uuidE else reg.unlockPin d.uuidE

end Hostapd.Wps.Registrar
