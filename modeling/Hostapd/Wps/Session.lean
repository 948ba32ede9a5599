import Hostapd.Wps.Attributes

/-!
# Wi-Fi Protected Setup: the data of a registration session

`struct wps_data` and what both roles do with it: the key derivation and the Encrypted Settings of
`wps_common.c`, the Authenticator and Key Wrap Authenticator of `wps_attr_process.c` and
`wps_attr_build.c`, and the reading and writing of Credentials. The primitives are parameters
(`Prims`).

A history (`Entry`) has every message received with the message the Authenticator is computed over,
every message sent with a copy of the session data, every comparison of a committed hash, and every
Credential handed to `cred_cb`.
-/

namespace Hostapd.Wps

open Wire List

/-- The cryptographic primitives. -/
structure Prims where
  /-- `hmac_sha256` with key and data. -/
  hmacSha256 : Bytes → Bytes → Bytes
  sha256 : Bytes → Bytes
  /-- `aes_128_cbc_encrypt` with key, initialisation vector and data. -/
  aesCbcEncrypt : Bytes → Bytes → Bytes → Bytes
  /-- `aes_128_cbc_decrypt` with key, initialisation vector and data. -/
  aesCbcDecrypt : Bytes → Bytes → Bytes → Bytes
  /-- `dh5_derive_shared` with own private and peer's public key, padded to 192 octets. -/
  dhShared : Bytes → Bytes → Option Bytes
  /-- `base64_encode` without the line feed and the padding. -/
  base64 : Bytes → Bytes

/-- The states of a session (`wps->state`): those of an Enrollee, then those of a Registrar. -/
inductive State where
  | sendM1 | recvM2 | sendM3 | recvM4 | sendM5 | recvM6 | sendM7 | recvM8 | receivedM2d | msgDone
  | recvAck | finished | sendWscNack
  | recvM1 | sendM2 | recvM3 | sendM4 | recvM5 | sendM6 | recvM7 | sendM8 | recvDone | sendM2d
  | recvM2dAck
  deriving DecidableEq

/-- The types of messages with attributes (`enum wps_msg_type`). -/
inductive MsgType where
  | m1 | m2 | m2d | m3 | m4 | m5 | m6 | m7 | m8 | wscAck | wscNack | wscDone
  deriving DecidableEq

/-- The octet of a message type. -/
def MsgType.code : MsgType → UInt8
  | .m1 => 0x04
  | .m2 => 0x05
  | .m2d => 0x06
  | .m3 => 0x07
  | .m4 => 0x08
  | .m5 => 0x09
  | .m6 => 0x0a
  | .m7 => 0x0b
  | .m8 => 0x0c
  | .wscAck => 0x0d
  | .wscNack => 0x0e
  | .wscDone => 0x0f

/-- The operation a message comes with (`enum wsc_op_code`). -/
inductive OpCode where
  | msg | ack | nack | done
  deriving DecidableEq

/-- What processing a message tells the caller (`enum wps_process_res`). -/
inductive ProcessRes where
  | done | continue | failure
  deriving DecidableEq

/-- The credentials of a network. -/
structure Credential where
  ssid : Bytes := []
  authType : UInt16 := 0
  encrType : UInt16 := 0
  keyIdx : UInt8 := 0
  key : Bytes := []
  macAddr : Bytes := replicate 6 0
  credAttr : Bytes := []

/-- A device password that came over NFC (`struct wps_nfc_pw_token`).  A token for connection
handover has a hash of the peer's public key: it is made by `Registrar.addNfcPwToken` only. -/
structure NfcPwToken where
  pubkeyHash : Option Bytes
  pwId : UInt16
  devPw : Bytes
  pkHashProvidedOob : Bool
  handover_known : pwId = 7 → pubkeyHash ≠ none ∧ pkHashProvidedOob

/-- The data of a session. -/
structure Data where
  state : State
  uuidE : Bytes := replicate 16 0
  uuidR : Bytes := replicate 16 0
  macAddrE : Bytes := replicate 6 0
  nonceE : Bytes := replicate 16 0
  nonceR : Bytes := replicate 16 0
  psk1 : Bytes := replicate 16 0
  psk2 : Bytes := replicate 16 0
  snonce1 : Bytes := replicate 16 0
  snonce2 : Bytes := replicate 16 0
  peerHash1 : Bytes := replicate 32 0
  peerHash2 : Bytes := replicate 32 0
  dhPrivkey : Option Bytes := none
  dhPubkeyE : Option Bytes := none
  dhPubkeyR : Option Bytes := none
  authkey : Bytes := replicate 32 0
  keywrapkey : Bytes := replicate 16 0
  lastMsg : Option Bytes := none
  devPassword : Option Bytes := none
  devPwId : UInt16 := 0
  pbc : Bool := false
  /-- The alternative device password of an access point with an NFC token. -/
  altDevPassword : Option Bytes := none
  altDevPwId : UInt16 := 0
  peerPubkeyHash : Option Bytes := none
  encrType : UInt16 := 0
  authType : UInt16 := 0
  newPsk : Option Bytes := none
  /-- Whether M6 has been sent and the Enrollee has not proved the second half. -/
  pinRevealed : Bool := false
  cred : Credential := {}
  manufacturer : Option Bytes := none
  modelName : Option Bytes := none
  configError : UInt16 := 0
  /-- Whether this is a session of an external Registrar's own protocol stack. -/
  er : Bool := false
  newApSettings : Option Credential := none
  /-- The credential to send in place of one made from the configuration. -/
  useCred : Option Credential := none
  usePskKey : Bool := false
  /-- Whether learned access point settings go to `ap_settings_cb` in place of `cred_cb`. -/
  apSettingsCb : Bool := false
  nfcPwToken : Option NfcPwToken := none

/-- The keys of a session, as far as the peer's messages are checked with them. -/
structure Keys where
  authkey : Bytes
  keywrapkey : Bytes
  pubkeyE : Bytes
  pubkeyR : Bytes

/-- The keys of the session. -/
def Data.keys (d : Data) : Keys :=
  { authkey := d.authkey, keywrapkey := d.keywrapkey, pubkeyE := d.dhPubkeyE.getD []
    pubkeyR := d.dhPubkeyR.getD [] }

/-- The long term context (`struct wps_context` and the configuration of `struct wps_registrar`).
The attributes that only describe the device are taken as they are written. -/
structure Context where
  ap : Bool
  ssid : Bytes := []
  authTypes : UInt16 := 0x23
  encrTypes : UInt16 := 0x0d
  encrTypesRsn : UInt16 := 0x08
  encrTypesWpa : UInt16 := 0x04
  networkKey : Option Bytes := none
  psk : Option Bytes := none
  macAddr : Bytes := replicate 6 0
  apAuthType : UInt16 := 0x20
  apEncrType : UInt16 := 0x08
  apSettings : Option Bytes := none
  apNfcDevPwId : UInt16 := 0
  apNfcDevPw : Option Bytes := none
  /-- Whether only `extraCred` is sent. -/
  skipCredBuild : Bool := false
  extraCred : Bytes := []
  /-- Whether the first registration leaves the access point unconfigured. -/
  disableAutoConf : Bool := false
  forcePerEnrolleePsk : Bool := false
  rf60GHz : Bool := false
  /-- The attributes of M2 and M2D that describe this device, up to the Association State. -/
  deviceAttrs : Bytes := []
  osVersion : Bytes := []

/-- What a session is started with (`struct wps_config`, and what a caller sets right after
`wps_init`). -/
structure Config where
  registrar : Bool
  uuid : Bytes := replicate 16 0
  pin : Option Bytes := none
  devPwId : UInt16 := 0
  pbc : Bool := false
  newApSettings : Option Credential := none
  peerPubkeyHash : Option Bytes := none
  usePskKey : Bool := false
  /-- Whether this is a session of an external Registrar's own protocol stack. -/
  er : Bool := false
  /-- The credential to send in place of one made from the configuration. -/
  useCred : Option Credential := none
  /-- Whether learned access point settings go to `ap_settings_cb`. -/
  apSettingsCb : Bool := false

/-- `wps_init`. -/
def initSession (ctx : Context) (cfg : Config) : Data :=
  let d : Data :=
    { state := if cfg.registrar then .recvM1 else .sendM1
      newApSettings := cfg.newApSettings, peerPubkeyHash := cfg.peerPubkeyHash
      usePskKey := cfg.usePskKey, er := cfg.er, useCred := cfg.useCred
      apSettingsCb := cfg.apSettingsCb, pbc := cfg.pbc, devPassword := cfg.pin
      devPwId := if cfg.pin ≠ none ∨ cfg.devPwId = 7 then cfg.devPwId else 0 }
  let d := if cfg.registrar then { d with uuidR := cfg.uuid }
    else { d with uuidE := cfg.uuid, macAddrE := ctx.macAddr }
  -- The AP PIN stays as the alternative to the password of the own NFC token.
  let d := if ctx.ap ∧ cfg.registrar = false ∧ ctx.apNfcDevPwId ≠ 0 then
      { d with altDevPwId := d.devPwId, altDevPassword := d.devPassword
               devPwId := ctx.apNfcDevPwId, devPassword := ctx.apNfcDevPw }
    else d
  if cfg.pbc then { d with devPwId := 4, devPassword := some (replicate 8 0x30) } else d

/-- An entry of the history. -/
inductive Entry where
  /-- A message came in; `prev` is the message before it (`last_msg`). -/
  | received (op : OpCode) (prev : Option Bytes) (msg : Bytes)
  /-- A WSC_MSG was sent: its octets, the settings it carries encrypted, and the session then. -/
  | sent (type : MsgType) (msg : Bytes) (settings : Option Bytes) (wps : Data)
  /-- A committed hash was compared: which one, and whether it matched. -/
  | compared (second : Bool) (matched : Bool)
  /-- The Registrar has proved knowledge of the AP PIN (`WPS_EV_AP_PIN_SUCCESS`). -/
  | apPinSuccess
  /-- A credential was handed to `cred_cb` by a session that then was as given. -/
  | credCb (cred : Credential) (wps : Data)
  /-- The PIN with this number was obtained from `wps_registrar_get_pin`. -/
  | gotPin (id : ℕ)

/-- The WSC_MSG sent last, according to the history. -/
def lastSent : List Entry → Option Bytes
  | [] => none
  | .sent _ msg _ _ :: _ => some msg
  | _ :: older => lastSent older

/-! ## Keys -/

variable (prims : Prims)

/-- `wps_kdf`: `len` octets from a key and a label. -/
def kdf (key labelPre label : Bytes) (len : ℕ) : Bytes :=
  ((range ((len + 31) / 32)).flatMap fun i =>
    prims.hmacSha256 key (toBe 4 (i + 1) ++ labelPre ++ label ++ toBe 4 (len * 8))).take len

/-- `"Wi-Fi Easy and Secure Key Derivation"`. -/
def kdfLabel : Bytes := "Wi-Fi Easy and Secure Key Derivation".toUTF8.data.toList

/-- `wps_derive_keys` with the peer's public key `pubkey`: AuthKey and KeyWrapKey from the
Diffie-Hellman secret.  The private key is used up.  The error keeps the session as it then is. -/
def deriveKeys (d : Data) (pubkey : Option Bytes) : Except Data Data :=
  match d.dhPrivkey, pubkey with
  | some privkey, some pubkey =>
    match prims.dhShared privkey pubkey with
    | none => .error d
    | some shared =>
      let dhkey := prims.sha256 shared
      let kdk := prims.hmacSha256 dhkey (d.nonceE ++ d.macAddrE ++ d.nonceR)
      let keys := kdf prims kdk [] kdfLabel 80
      .ok { d with dhPrivkey := none, authkey := keys.take 32,
                   keywrapkey := (keys.drop 32).take 16 }
  | _, _ => .error d

/-- PSK1, of the first half of the password. -/
def psk1Of (authkey devPasswd : Bytes) : Bytes :=
  (prims.hmacSha256 authkey (devPasswd.take ((devPasswd.length + 1) / 2))).take 16

/-- PSK2, of the second half. -/
def psk2Of (authkey devPasswd : Bytes) : Bytes :=
  (prims.hmacSha256 authkey (devPasswd.drop ((devPasswd.length + 1) / 2))).take 16

/-- `wps_derive_psk`. -/
def derivePsk (d : Data) (devPasswd : Bytes) : Data :=
  { d with psk1 := psk1Of prims d.authkey devPasswd, psk2 := psk2Of prims d.authkey devPasswd }

/-- The hash that commits to a secret nonce: HMAC of the nonce, a PSK and both public keys. -/
def commitment (k : Keys) (snonce psk : Bytes) : Bytes :=
  prims.hmacSha256 k.authkey (snonce ++ psk ++ k.pubkeyE ++ k.pubkeyR)

/-! ## Authenticators and Encrypted Settings -/

/-- The Authenticator of a message after `prev`: HMAC-SHA256 of both, cut to eight octets. -/
def authenticatorOf (authkey prev msg : Bytes) : Bytes :=
  (prims.hmacSha256 authkey (prev ++ msg)).take 8

/-- `wps_build_authenticator`: the message with its Authenticator. -/
def buildAuthenticator (d : Data) (msg : Bytes) : Option Bytes :=
  d.lastMsg.map fun prev => msg ++ attr .authenticator (authenticatorOf prims d.authkey prev msg)

/-- `wps_process_authenticator`: whether the Authenticator attribute of a message is right.  The
message is taken without its last twelve octets. -/
def authenticatorValid (authkey : Bytes) (prev : Option Bytes) (attrs : Attrs)
    (msg : Bytes) : Bool :=
  match attrs.get? .authenticator, prev with
  | some authenticator, some prev =>
    authenticatorOf prims authkey prev (msg.take (msg.length - 12)) = authenticator
  | _, _ => false

/-- `wps_build_key_wrap_auth`: the settings with their Key Wrap Authenticator. -/
def buildKeyWrapAuth (authkey plain : Bytes) : Bytes :=
  plain ++ attr .keyWrapAuth ((prims.hmacSha256 authkey plain).take 8)

/-- `wps_process_key_wrap_auth`: whether settings end in a valid Key Wrap Authenticator. -/
def keyWrapAuthValid (authkey : Bytes) (attrs : Attrs) (plain : Bytes) : Bool :=
  match attrs.find .keyWrapAuth with
  | none => false
  | some a =>
    a.offset = plain.length - 8 ∧
      (prims.hmacSha256 authkey (plain.take (plain.length - 12))).take 8 = a.value

/-- `wps_build_encr_settings`: the Encrypted Settings attribute, padded to whole blocks. -/
def buildEncrSettings (keywrapkey iv plain : Bytes) : Bytes :=
  let pad := 16 - plain.length % 16
  attr .encrSettings
    (iv ++ prims.aesCbcEncrypt keywrapkey iv (plain ++ replicate pad (UInt8.ofNat pad)))

/-- `wps_decrypt_encr_settings`: the settings without the padding, none if they are malformed. -/
def decryptEncrSettings (keywrapkey : Bytes) (encr : Option Bytes) :
    Option Bytes :=
  match encr with
  | none => none
  | some encr =>
    if encr.length < 32 ∨ encr.length % 16 ≠ 0 then none
    else
      let decrypted := prims.aesCbcDecrypt keywrapkey (encr.take 16) (encr.drop 16)
      let pad := (decrypted.getLast?.getD 0).toNat
      let used := decrypted.length - pad
      if decrypted.length < pad then none
      else if (decrypted.drop used).all (·.toNat = pad) then some (decrypted.take used)
      else none

/-- The attributes of the Encrypted Settings of a message: they decrypt, they parse and they end in
a valid Key Wrap Authenticator. -/
def openSettings (k : Keys) (attrs : Attrs) : Option (Bytes × Attrs) := do
  let plain ← decryptEncrSettings prims k.keywrapkey (attrs.get? .encrSettings)
  let eattrs ← parseMsg plain
  guard (keyWrapAuthValid prims k.authkey eattrs plain)
  return (plain, eattrs)

/-! ## Credentials -/

def hasFlag (flags flag : UInt16) : Bool := flags &&& flag ≠ 0

/-- `wps_process_cred_ssid`: zero padding is removed. -/
def trimSsid (ssid : Bytes) : Bytes := (ssid.reverse.dropWhile (· = 0)).reverse

/-- Whether an octet is a control character (`has_ctrl_char`). -/
def isCtrlChar (c : UInt8) : Bool := c < 32 ∨ c = 127

variable (cred : Credential)

/-- `wps_workaround_cred_key`: a terminating zero is removed from a passphrase, and a passphrase
that is too short or has control characters is refused. -/
def workaroundCredKey : Option Credential :=
  let cred' :=
    if hasFlag cred.authType 0x22 ∧ 8 < cred.key.length ∧ cred.key.length < 64 ∧
        cred.key.getLast? = some 0 then
      { cred with key := cred.key.dropLast }
    else cred
  if hasFlag cred'.authType 0x22 ∧ (cred'.key.length < 8 ∨ cred'.key.any isCtrlChar) then none
  else some cred'

/-- `wps_process_cred_network_key`: the key, which an open network may leave out.  A key that does
not fit is ignored. -/
def processCredNetworkKey (key : Option Bytes) : Option Credential :=
  match key with
  | none => if cred.authType = 0x01 ∧ cred.encrType = 0x01 then some cred else none
  | some key => if key.length ≤ 64 then some { cred with key := key } else some cred

/-- The attributes that credentials and AP settings have in common, in the order in which they are
processed. -/
def processCredCommon (attrs : Attrs) : Option Credential := do
  let ssid ← attrs.get? .ssid
  let authType ← attrs.get? .authType
  let encrType ← attrs.get? .encrType
  let cred : Credential :=
    { ssid := trimSsid ssid, authType := ofBe16 authType, encrType := ofBe16 encrType,
      keyIdx := ((attrs.get? .networkKeyIndex).getD [0]).headD 0 }
  let cred ← processCredNetworkKey cred (attrs.get? .networkKey)
  let macAddr ← attrs.get? .macAddr
  workaroundCredKey { cred with macAddr := macAddr }

/-- `wps_process_cred`: a Credential also has a Network Index. -/
def processCred (attrs : Attrs) : Option Credential := do
  let _ ← attrs.get? .networkIndex
  processCredCommon attrs

def processApSettings (attrs : Attrs) : Option Credential := processCredCommon attrs

/-- `wps_build_credential`. -/
def buildCredential : Bytes :=
  attr .networkIndex [1] ++ attr .ssid cred.ssid ++ attr .authType (be16 cred.authType) ++
    attr .encrType (be16 cred.encrType) ++ attr .networkKey cred.key ++
    attr .macAddr cred.macAddr

/-- `wpa_snprintf_hex`: two lower case digits for each octet. -/
def hexDigits (l : Bytes) : Bytes :=
  l.flatMap fun c => [digit (c.toNat / 16), digit (c.toNat % 16)]
where
  digit (n : ℕ) : UInt8 := UInt8.ofNat (if n < 10 then 48 + n else 87 + n)

end Hostapd.Wps
