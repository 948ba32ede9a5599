import Hostapd.Foundation.Checked
import Hostapd.Foundation.Machine
import Hostapd.RsnSupp.Ie

/-!
# The WPA supplicant

The supplicant's side of the 4-Way Handshake and the Group Key Handshake (`rsn_supp/wpa.c`): the
state machine data, the handlers of messages 1/4, 3/4 and 1/2, and `wpa_sm_rx_eapol`. Of the frames
from stations with which keys for a direct link are negotiated the checks are modelled; what they do
to the list of these stations is left to the outside.

What the machine does to the outside, and the cryptographic steps that matter for its security, are
written to its `trace`. What it asks the outside while it handles one frame is an `Answers`. A
handler that jumps to its `failed` label, which deauthenticates, returns its state as an error.
-/

namespace Hostapd.RsnSupp

open Wire Wpa List

/-! ## State -/

/-- The configuration of the association. -/
structure Conf where
  proto : Proto := .rsn
  pairwiseCipher : Cipher := .ccmp
  groupCipher : Cipher := .ccmp
  mgmtGroupCipher : Cipher := .aes128Cmac
  keyMgmt : KeyMgmt := .psk
  /-- Receive sequence counters that look corrupted are ignored (`wpa_rsc_relaxation`). -/
  rscRelaxation : Bool := false
  rsnEnabled : Bool := true
  ownAddr : Mac := Octets.zero 6
  bssid : Mac := Octets.zero 6
  assocWpaIe : Option Bytes := none
  /-- The network is known (`wpa_sm_get_network_ctx`). -/
  networkCtx : Bool := true
  eapolVersion : UInt8 := 2

variable (conf : Conf)

/-- The protocol is RSN or OSEN, not WPA. -/
def Conf.isRsn : Bool := conf.proto == .rsn || conf.proto == .osen

/-- The connection states that the handlers tell apart (`enum wpa_states`). -/
inductive WpaState
  | associated
  | fourWayHandshake
  | groupHandshake
  | completed
deriving DecidableEq

/-- An entry of the trace. -/
inductive Action
  /-- A pairwise transient key is derived with this SNonce (`wpa_pmk_to_ptk`). -/
  | derived (snonce : Nonce) (ptk : Ptk)
  | micVerified (replayCounter : ℕ)
  /-- Key data is decrypted (`wpa_supplicant_decrypt_key_data`). -/
  | decryptKeyData
  /-- A pairwise key is handed to the driver (`wpa_supplicant_install_ptk`). -/
  | installPtk (alg : Option Alg) (rsc tk : Bytes)
  /-- A group key is handed to the driver (`wpa_supplicant_install_gtk`). -/
  | installGtk (alg : Alg) (keyidx : ℕ) (tx : Bool) (rsc gtk : Bytes)
  /-- A management group key is handed to the driver (`ieee80211w_set_keys`). -/
  | installIgtk (alg : Option Alg) (keyidx : ℕ) (pn igtk : Bytes)
  /-- The port is authorised (`eapol_sm_notify_portValid`). -/
  | portValid
  | sent (frame : EapolKey)
  /-- The association ends (`wpa_sm_deauthenticate`). -/
  | deauthenticate
deriving DecidableEq

/-- A station with which keys for a direct link are negotiated (`struct wpa_peerkey`), with what the
receipt of a frame depends on. -/
structure PeerKey where
  addr : Mac
  /-- This end started the SMK handshake. -/
  initiator : Bool := false
  inonce : Nonce := Octets.zero 32
  smk : Bytes := []
  cipher : Cipher := .ccmp
  akmp : KeyMgmt := .psk
  replayCounter : ℕ := 0
  replayCounterSet : Bool := false
  stk : Ptk := {}
  /-- The STK of a handshake that is not confirmed yet. -/
  tstk : Ptk := {}
  stkSet : Bool := false
  tstkSet : Bool := false

/-- The state machine data (`struct wpa_sm`). -/
structure Sm where
  pmk : Bytes := []
  ptk : Ptk := {}
  /-- The pairwise transient key of a handshake that is not confirmed yet. -/
  tptk : Ptk := {}
  ptkSet : Bool := false
  tptkSet : Bool := false
  tkToSet : Bool := false
  snonce : Nonce := Octets.zero 32
  anonce : Nonce := Octets.zero 32
  renewSnonce : Bool := true
  rxReplayCounter : ℕ := 0
  rxReplayCounterSet : Bool := false
  msg3Of4Ok : Bool := false
  wpaState : WpaState := .associated
  apWpaIe : Option Bytes := none
  apRsnIe : Option Bytes := none
  peerkeys : List PeerKey := []
  deauthenticated : Bool := false
  trace : List Action := []

/-- The result of looking for the PMK (`wpa_supplicant_get_pmk`). -/
inductive PmkResult
  | unchanged
  | key (pmk : Bytes)
  | requested
  | failed

/-- What the outside answers during one frame. -/
structure Answers where
  alloc : Bool := true
  allocUnwrap : Bool := true
  pmk : PmkResult := .unchanged
  snonce : Option Nonce := some (Octets.zero 32)
  sent : Bool := true
  setPtk : Bool := true
  setGtk : Bool := true
  setIgtk : Bool := true
  /-- The WPA and RSN elements in the scan results (`wpa_sm_get_beacon_ie`). -/
  beaconIe : Option (Option Bytes × Option Bytes) := none
  /-- The stations of direct links after a message of the SMK handshake (`peerkey_rx_eapol_smk`) or
  of the STK handshake (`peerkey_rx_eapol_4way`). -/
  peerkeys : List PeerKey := []

namespace Sm

def act (sm : Sm) (a : Action) : Sm := { sm with trace := sm.trace ++ [a] }

def deauthenticate (sm : Sm) : Sm := { sm.act .deauthenticate with deauthenticated := true }

/-- The first entry for the source of a frame. -/
def peerkey (sm : Sm) (src : Mac) : Option PeerKey := sm.peerkeys.find? (·.addr == src)

/-- The first entry for the source of a frame is changed. -/
def setPeerkey (sm : Sm) (src : Mac) (peer : PeerKey) : Sm :=
  { sm with peerkeys := sm.peerkeys.set (sm.peerkeys.findIdx (·.addr == src)) peer }

end Sm

/-- A new association with an access point (`wpa_sm_notify_assoc`).  Nothing has been done in it
yet. -/
def notifyAssoc (sm : Sm) : Sm :=
  { sm with
    rxReplayCounter := 0, rxReplayCounterSet := false, renewSnonce := true
    ptkSet := false, ptk := {}, tptkSet := false, tptk := {}, deauthenticated := false
    trace := [] }

/-- The `failed` label of a handler. -/
def finish : Except Sm Sm → Sm
  | .ok sm => sm
  | .error sm => sm.deauthenticate

/-! ## Sending -/

/-- The common part of the supplicant's frames. -/
def reply (key : EapolKey) (keyInfo : KeyInfo) : EapolKey where
  version := conf.eapolVersion
  type := if conf.isRsn then keyTypeRsn else keyTypeWpa
  keyInfo := keyInfo
  keyLength := if conf.isRsn then 0 else key.keyLength
  replayCounter := key.replayCounter
  keyMic := replicate conf.keyMgmt.micLen 0

variable (crypto : Crypto) (ans : Answers)

/-- Fill in the message integrity code and send the frame (`wpa_eapol_key_send`). -/
def eapolKeySend (kck : Bytes) (frame : EapolKey) (sm : Sm) : Except Sm Sm :=
  match crypto.eapolKeyMic kck conf.keyMgmt frame.keyInfo.ver frame.encode with
  | none => .error sm
  | some mic =>
    if ans.sent then
      .ok (sm.act (.sent { frame with keyMic := mic.takeD conf.keyMgmt.micLen 0 }))
    else .error sm

variable (key : EapolKey) (sm : Sm)

/-- Send message 2/4 (`wpa_supplicant_send_2_of_4`). -/
def send2Of4 : Except Sm Sm :=
  match conf.assocWpaIe with
  | none => .error sm
  | some wpaIe =>
    let frame :=
      { reply conf key { ver := key.keyInfo.ver, keyType := true, mic := true } with
        keyNonce := sm.snonce, keyData := wpaIe }
    eapolKeySend conf crypto ans sm.tptk.kck frame sm

/-- Send message 4/4 (`wpa_supplicant_send_4_of_4`). -/
def send4Of4 : Except Sm Sm :=
  let info : KeyInfo :=
    { ver := key.keyInfo.ver, keyType := true, mic := true, secure := key.keyInfo.secure }
  eapolKeySend conf crypto ans sm.ptk.kck (reply conf key info) sm

/-- Send message 2/2 (`wpa_supplicant_send_2_of_2`). -/
def send2Of2 : Except Sm Sm :=
  let info : KeyInfo :=
    { ver := key.keyInfo.ver, keyIndex := key.keyInfo.keyIndex, mic := true, secure := true }
  eapolKeySend conf crypto ans sm.ptk.kck (reply conf key info) sm

/-! ## Message 1/4 -/

/-- The two Michael keys of a temporal key, octets 16 to 23 and 24 to 31, in swapped order. -/
def swapMichael (tk : Bytes) : Bytes :=
  tk.take 16 ++ (tk.drop 24).take 8 ++ (tk.drop 16).take 8

/-- Take over the PMK; the second component is the state when message 1/4 is not answered. -/
def getPmk : Except Sm (Sm × Bool) :=
  match ans.pmk with
  | .unchanged => .ok (sm, true)
  | .key pmk => .ok ({ sm with pmk }, true)
  | .requested => .ok (sm, false)
  | .failed => .error sm

/-- A new SNonce, if the last one was used. -/
def renew : Except Sm Sm :=
  if sm.renewSnonce then
    match ans.snonce with
    | none => .error sm
    | some snonce => .ok { sm with snonce, renewSnonce := false }
  else .ok sm

/-- The PTK that message 1/4 leads to. -/
def temporaryPtk (anonce : Nonce) (sm : Sm) : Ptk :=
  let ptk := crypto.pmkToPtk sm.pmk .pairwise conf.ownAddr conf.bssid sm.snonce anonce
    conf.keyMgmt conf.pairwiseCipher
  if conf.pairwiseCipher = .tkip then { ptk with tk := swapMichael ptk.tk } else ptk

/-- Derive a temporary PTK. -/
def deriveTptk (anonce : Nonce) (sm : Sm) : Sm :=
  let tptk := temporaryPtk conf crypto anonce sm
  { sm.act (.derived sm.snonce tptk) with tptk, tptkSet := true, tkToSet := true }

/-- Answer message 1/4: derive the temporary PTK and send message 2/4. -/
def answer1Of4 : Except Sm Sm := do
  let sm ← renew ans sm
  let sm ← send2Of4 conf crypto ans key (deriveTptk conf crypto key.keyNonce sm)
  return { sm with anonce := key.keyNonce }

variable (keyData : Bytes)

/-- Handle message 1/4 (`wpa_supplicant_process_1_of_4`). -/
def process1Of4 (sm : Sm) : Sm :=
  if !conf.networkCtx then sm
  else
    let sm := { sm with wpaState := .fourWayHandshake }
    if conf.isRsn ∧ parseIes keyData = none then finish (.error sm)
    else
      match getPmk ans sm with
      | .error sm => finish (.error sm)
      | .ok (sm, false) => sm
      | .ok (sm, true) => finish (answer1Of4 conf crypto ans key sm)

/-! ## Installing keys -/

/-- Hand the temporal key to the driver, and clear it (`wpa_supplicant_install_ptk`). -/
def installPtk (conf : Conf) (ans : Answers) (key : EapolKey) (sm : Sm) : Except Sm Sm :=
  if !sm.tkToSet then .ok sm
  else if conf.pairwiseCipher = .none then .ok sm
  else if !conf.pairwiseCipher.validPairwise then .error sm
  else
    let rsc := if conf.isRsn then replicate 8 0 else key.keyRsc.val
    let sm := sm.act (.installPtk conf.pairwiseCipher.toAlg (rsc.take conf.pairwiseCipher.rscLen)
      (sm.ptk.tk.take conf.pairwiseCipher.keyLen))
    if !ans.setPtk then .error sm
    else .ok { sm with ptk := { sm.ptk with tk := replicate 32 0 }, tkToSet := false }

/-- A group key that was received (`struct wpa_gtk_data`). -/
structure GtkData where
  alg : Alg
  tx : Bool
  keyRscLen : ℕ
  keyidx : ℕ
  gtk : Bytes

/-- The length of the counter and the algorithm of a group cipher, if the key has its length
(`wpa_supplicant_check_group_cipher`). -/
def checkGroupCipher (cipher : Cipher) (keylen maxkeylen : ℕ) : Option (ℕ × Alg) :=
  match cipher.toAlg with
  | none => none
  | some alg =>
    if keylen ≠ cipher.keyLen ∨ maxkeylen < cipher.keyLen then none
    else some (cipher.rscLen, alg)

/-- The octets of a group key as the driver is given them. -/
def driverGtk (gtk : Bytes) : Bytes :=
  if conf.groupCipher = .tkip then swapMichael gtk else gtk

/-- Hand a group key to the driver (`wpa_supplicant_install_gtk`). -/
def installGtk (conf : Conf) (ans : Answers) (gd : GtkData) (keyRsc : Bytes) (sm : Sm) :
    Except Sm Sm :=
  let tx := if conf.pairwiseCipher = .none then true else gd.tx
  let sm := sm.act (.installGtk gd.alg gd.keyidx tx (keyRsc.take gd.keyRscLen)
    (driverGtk conf gd.gtk))
  if ans.setGtk then .ok sm else .error sm

/-- The Tx bit counts only if no pairwise keys are used
(`wpa_supplicant_gtk_tx_bit_workaround`). -/
def gtkTxBitWorkaround (tx : Bool) : Bool := tx && conf.pairwiseCipher == .none

/-- The receive sequence counter to use: zero in place of one that looks corrupted
(`wpa_supplicant_rsc_relaxation`). -/
def relaxedRsc (rsc : Octets 8) : Bytes :=
  let octet (i : ℕ) : UInt8 := rsc.val.getD i 0
  if conf.rscRelaxation ∧ conf.groupCipher.rscLen = 6 ∧
      ((octet 5 ≠ 0 ∧ octet 0 = 0) ∨ octet 6 ≠ 0 ∨ octet 7 ≠ 0) then
    replicate 8 0
  else rsc.val

/-- The handshake is complete (`wpa_supplicant_key_neg_complete`). -/
def keyNegComplete (secure : Bool) (sm : Sm) : Sm :=
  let sm := { sm with wpaState := .completed }
  if secure then sm.act .portValid else sm

/-- The GTK in a KDE. -/
def gtkOfKde (gtk : Bytes) : Option GtkData :=
  match checkGroupCipher conf.groupCipher (gtk.length - 2) (gtk.length - 2) with
  | none => none
  | some (keyRscLen, alg) =>
    some { alg, keyRscLen, keyidx := (gtk.getD 0 0).toNat % 4, gtk := gtk.drop 2
           tx := gtkTxBitWorkaround conf ((gtk.getD 0 0).toNat / 4 % 2 == 1) }

/-- Install the group key of message 3/4 (`wpa_supplicant_pairwise_gtk`). -/
def pairwiseGtk (gtk : Bytes) (sm : Sm) : Except Sm Sm :=
  if gtk.length < 2 ∨ 32 < gtk.length - 2 then .error sm
  else if conf.groupCipher = .gtkNotUsed then .ok (keyNegComplete key.keyInfo.secure sm)
  else
    match gtkOfKde conf gtk with
    | none => .error sm
    | some gd => do
      let sm ← installGtk conf ans gd (relaxedRsc conf key.keyRsc) sm
      return keyNegComplete key.keyInfo.secure sm

/-- The index, the packet number and the key in the body of an IGTK KDE. -/
def igtkOfKde (igtk : Bytes) : Option (ℕ × Bytes × Bytes) :=
  let keyidx := (igtk.getD 0 0).toNat + 256 * (igtk.getD 1 0).toNat
  if igtk.length ≠ 8 + conf.mgmtGroupCipher.keyLen then none
  else if 4095 < keyidx then none
  else some (keyidx, (igtk.drop 2).take 6, igtk.drop 8)

/-- Install the management group key, if the key data has one (`ieee80211w_set_keys`). -/
def setIgtk (conf : Conf) (ans : Answers) (ie : EapolIeParse) (sm : Sm) : Except Sm Sm :=
  if !conf.mgmtGroupCipher.validMgmtGroup then .ok sm
  else
    match ie.igtk with
    | none => .ok sm
    | some igtk =>
      match igtkOfKde conf igtk with
      | none => .error sm
      | some (keyidx, pn, octets) =>
        let sm := sm.act (.installIgtk conf.mgmtGroupCipher.toAlg keyidx pn octets)
        if ans.setIgtk then .ok sm else .error sm

/-! ## Message 3/4 -/

/-- The elements of the beacon, looked up if they are not known. -/
def lookupBeaconIe : Sm :=
  if sm.apWpaIe.isNone ∧ sm.apRsnIe.isNone then
    match ans.beaconIe with
    | none => sm
    | some (apWpaIe, apRsnIe) => { sm with apWpaIe, apRsnIe }
  else sm

variable (ie : EapolIeParse)

/-- The elements of message 3/4 agree with the beacon. -/
def ieMatches : Bool :=
  let noIe := ie.wpaIe.isNone && ie.rsnIe.isNone && (sm.apWpaIe.isSome || sm.apRsnIe.isSome)
  let differs (a b : Option Bytes) := a.isSome && b.isSome && a != b
  let downgrade := conf.proto == .wpa && ie.rsnIe.isSome && sm.apRsnIe.isNone && conf.rsnEnabled
  !(noIe || differs ie.wpaIe sm.apWpaIe || differs ie.rsnIe sm.apRsnIe || downgrade)

/-- Compare the elements of message 3/4 with the beacon; a mismatch deauthenticates
(`wpa_supplicant_validate_ie`). -/
def validateIe (sm : Sm) : Except Sm Sm :=
  let sm := lookupBeaconIe ans sm
  if ieMatches conf sm ie then .ok sm else .error sm.deauthenticate

/-- The elements of message 3/4 are acceptable: group keys only in encrypted key data, and a
management group key of the right length. -/
def keyDataOk : Bool :=
  let igtkLen := 8 + conf.mgmtGroupCipher.keyLen
  !(ie.gtk.isSome && !key.keyInfo.encrKeyData) && !(ie.igtk.isSome && !key.keyInfo.encrKeyData) &&
    !(conf.mgmtGroupCipher.validMgmtGroup && ie.igtk.any fun igtk => igtk.length != igtkLen)

/-- The GTK of message 3/4. -/
def gtk3Of4 (sm : Sm) : Except Sm Sm :=
  if conf.groupCipher = .gtkNotUsed then .ok (keyNegComplete key.keyInfo.secure sm)
  else
    match ie.gtk with
    | none => .ok sm
    | some gtk => pairwiseGtk conf ans key gtk sm

/-- Authorise the port and install the group keys of message 3/4. -/
def groupKeys3Of4 (sm : Sm) : Except Sm Sm := do
  let sm := if key.keyInfo.secure then sm.act .portValid else sm
  let sm ← gtk3Of4 conf ans key ie { sm with wpaState := .groupHandshake }
  let sm ← setIgtk conf ans ie sm
  return { sm with msg3Of4Ok := true }

/-- Install the pairwise key of message 3/4. -/
def install3Of4 (sm : Sm) : Except Sm Sm :=
  if key.keyInfo.install then installPtk conf ans key sm >>= groupKeys3Of4 conf ans key ie
  else groupKeys3Of4 conf ans key ie sm

/-- Handle message 3/4 (`wpa_supplicant_process_3_of_4`). -/
def process3Of4 (sm : Sm) : Sm :=
  let sm := { sm with wpaState := .fourWayHandshake }
  match parseIes keyData with
  | none => finish (.error sm)
  | some ie =>
    if !keyDataOk conf key ie then finish (.error sm)
    else
      finish do
        let sm ← validateIe conf ans ie sm
        if sm.anonce ≠ key.keyNonce then .error sm
        else if key.keyLength.toNat ≠ conf.pairwiseCipher.keyLen then .error sm
        else
          let sm ← send4Of4 conf crypto ans key sm
          install3Of4 conf ans key ie { sm with renewSnonce := true }

/-! ## Message 1/2 -/

/-- The group key of message 1/2 of RSN (`wpa_supplicant_process_1_of_2_rsn`). -/
def gtk1Of2Rsn : Option GtkData :=
  match ie.gtk with
  | none => none
  | some gtk =>
    if !key.keyInfo.encrKeyData then none
    else if 32 < gtk.length - 2 then none
    else gtkOfKde conf gtk

/-- The group key of message 1/2 of WPA, which is its encrypted key data
(`wpa_supplicant_process_1_of_2_wpa`). -/
def gtk1Of2Wpa (ptk : Ptk) (key : EapolKey) (keyData : Bytes) : Option GtkData :=
  let ver := key.keyInfo.ver
  let gtkLen := key.keyLength.toNat
  let maxkeylen := if ver = KeyInfo.hmacSha1Aes then keyData.length - 8 else keyData.length
  if ver = KeyInfo.hmacSha1Aes ∧ keyData.length < 8 then none
  else if maxkeylen < gtkLen then none
  else
    match checkGroupCipher conf.groupCipher gtkLen maxkeylen with
    | none => none
    | some (keyRscLen, alg) =>
      let gd (gtk : Bytes) : GtkData :=
        { alg, keyRscLen, keyidx := key.keyInfo.keyIndex.toNat, gtk := gtk.take gtkLen
          tx := gtkTxBitWorkaround conf key.keyInfo.install }
      if ver = KeyInfo.hmacMd5Rc4 ∧ ptk.kek.length = 16 then
        if 32 < keyData.length then none
        else some (gd (crypto.rc4Skip (key.keyIv.val ++ ptk.kek) keyData))
      else if ver = KeyInfo.hmacSha1Aes then
        if maxkeylen % 8 ≠ 0 ∨ 32 < maxkeylen then none
        else (crypto.aesUnwrap ptk.kek keyData).map gd
      else none

/-- Take the group key of message 1/2 and install the management group key of RSN. -/
def keys1Of2 (sm : Sm) : Option GtkData × Sm :=
  if conf.isRsn then
    match parseIes keyData with
    | none => (none, sm)
    | some ie =>
      match gtk1Of2Rsn conf key ie with
      | none => (none, sm)
      | some gd =>
        -- A failure to install the management group key is only logged.
        match setIgtk conf ans ie sm with
        | .ok sm => (some gd, sm)
        | .error sm => (some gd, sm)
  else (gtk1Of2Wpa conf crypto sm.ptk key keyData, sm)

/-- Handle message 1/2 (`wpa_supplicant_process_1_of_2`). -/
def process1Of2 (sm : Sm) : Sm :=
  if !sm.msg3Of4Ok then finish (.error sm)
  else
    let rekey := sm.wpaState == .completed
    match keys1Of2 conf crypto ans key keyData sm with
    | (none, sm) => finish (.error { sm with wpaState := .groupHandshake })
    | (some gd, sm) =>
      finish do
        let sm := { sm with wpaState := .groupHandshake }
        let sm ← installGtk conf ans gd (relaxedRsc conf key.keyRsc) sm
        let sm ← send2Of2 conf crypto ans key sm
        return if rekey then { sm with wpaState := .completed }
          else keyNegComplete key.keyInfo.secure sm

/-! ## Receiving -/

/-- The octets of an EAPOL-Key frame in a received packet; none for a packet that is dropped. -/
def keyFrame (buf : Bytes) : Option Bytes :=
  let micLen := conf.keyMgmt.micLen
  let plen := beNat ((buf.drop 2).take 2)
  if buf.length < 4 + EapolKey.hdrLen micLen then none
  else if buf.getD 1 0 ≠ eapolKeyType then none
  else if buf.length - 4 < plen ∨ plen < EapolKey.hdrLen micLen then none
  else
    let tmp := buf.take (plen + 4)
    if tmp.getD 4 0 ≠ keyTypeWpa ∧ tmp.getD 4 0 ≠ keyTypeRsn then none
    else if plen - EapolKey.hdrLen micLen < EapolKey.keyDataLength micLen tmp then none
    else some tmp

/-- The descriptor version is one the negotiated suites allow. -/
def verOk (info : KeyInfo) : Bool :=
  let ver := info.ver
  let akm := conf.keyMgmt
  let known := ver == KeyInfo.hmacMd5Rc4 || ver == KeyInfo.aes128Cmac || ver == KeyInfo.hmacSha1Aes
  if !known && !akm.suiteB && akm != .osen then false
  else if akm == .osen && ver != KeyInfo.akmDefined then false
  else if akm.suiteB && ver != KeyInfo.akmDefined then false
  else if akm.sha256 then ver == KeyInfo.aes128Cmac || akm == .osen || akm.suiteB
  else if conf.pairwiseCipher == .ccmp && !akm.suiteB && ver != KeyInfo.hmacSha1Aes then
    -- Group keys of another cipher may come with version 1, and version 3 is stronger.
    (conf.groupCipher != .ccmp && !info.keyType) || ver == KeyInfo.aes128Cmac
  else if conf.pairwiseCipher == .gcmp && !akm.suiteB && ver != KeyInfo.hmacSha1Aes then false
  else true

/-- The code is right under a PTK. -/
def micOk (ptk : Ptk) (key : EapolKey) (tmp : Bytes) : Bool :=
  key.keyMic == crypto.micField ptk.kck conf.keyMgmt key.keyInfo.ver tmp

/-- The replay counter is taken over from a verified frame. -/
def verified : Sm :=
  { sm.act (.micVerified key.replayCounter) with
    rxReplayCounter := key.replayCounter, rxReplayCounterSet := true }

/-- Verify the MIC of a frame under the temporary PTK, which is then confirmed, or under the PTK
(`wpa_supplicant_verify_eapol_key_mic`). -/
def verifyEapolKeyMic (tmp : Bytes) (sm : Sm) : Option Sm :=
  if sm.tptkSet ∧ micOk conf crypto sm.tptk key tmp then
    some (verified key { sm with tptkSet := false, ptkSet := true, ptk := sm.tptk, tptk := {} })
  else if sm.ptkSet ∧ micOk conf crypto sm.ptk key tmp then some (verified key sm)
  else none

/-- The initiator derives the STK when the first message integrity code of the peer comes. -/
def PeerKey.deriveStk (peer : PeerKey) : PeerKey :=
  if peer.initiator && !peer.stkSet then
    { peer with
      stk := crypto.pmkToPtk peer.smk .peer conf.ownAddr peer.addr peer.inonce key.keyNonce
        peer.akmp peer.cipher
      stkSet := true }
  else peer

/-- The frame with its message integrity code cleared and calculated in place.  PeerKey takes it to
be 16 octets long. -/
def calculateMic (kck : Bytes) (ver : BitVec 3) (buf : Bytes) : Bytes :=
  let cleared := EapolKey.clearMic 16 buf
  let mic := (crypto.eapolKeyMic kck conf.keyMgmt ver cleared).getD []
  cleared.take 81 ++ mic ++ cleared.drop (81 + mic.length)

/-- Verify the MIC of a frame under the temporary STK or the STK
(`peerkey_verify_eapol_key_mic`). -/
def PeerKey.verifyEapolKeyMic (peer : PeerKey) (tmp : Bytes) : PeerKey × Bool :=
  let peer := peer.deriveStk conf crypto key
  let calculate (stk : Ptk) := calculateMic conf crypto stk.kck key.keyInfo.ver
  let ok (buf : Bytes) : Bool := (buf.drop 81).take 16 == key.keyMic.take 16
  let counted (peer : PeerKey) :=
    { peer with replayCounter := key.replayCounter, replayCounterSet := true }
  let tmp := if peer.tstkSet then calculate peer.tstk tmp else tmp
  if peer.tstkSet ∧ ok tmp then
    (counted { peer with tstkSet := false, stkSet := true, stk := peer.tstk, tstk := {} }, true)
  else if peer.stkSet ∧ ok (calculate peer.stk tmp) then (counted peer, true)
  else (peer, false)

/-- The state in which an accepted frame is handled. -/
def checked (src : Mac) (tmp : Bytes) (sm : Sm) : Except Sm Sm :=
  if key.keyInfo.mic then
    match sm.peerkey src with
    | none => (verifyEapolKeyMic conf crypto key tmp sm).elim (.error sm) .ok
    | some peer =>
      let (peer', ok) := peer.verifyEapolKeyMic conf crypto key tmp
      if ok then .ok (sm.setPeerkey src peer') else .error (sm.setPeerkey src peer')
  else .ok sm

/-- The decrypted key data (`wpa_supplicant_decrypt_key_data`). -/
def decryptKeyData : Option Bytes :=
  let ver := key.keyInfo.ver
  if !sm.ptkSet then none
  else if ver = KeyInfo.hmacMd5Rc4 ∧ sm.ptk.kek.length = 16 then
    some (crypto.rc4Skip (key.keyIv.val ++ sm.ptk.kek) key.keyData)
  else if ver = KeyInfo.hmacSha1Aes ∨ ver = KeyInfo.aes128Cmac ∨ conf.keyMgmt = .osen ∨
      conf.keyMgmt.suiteB then
    if key.keyData.length < 8 ∨ key.keyData.length % 8 ≠ 0 then none
    else if !ans.allocUnwrap then none
    else crypto.aesUnwrap sm.ptk.kek key.keyData
  else none

variable (peer : Bool)

/-- The handler of a frame, by its kind and by whether it comes from the station of a direct
link. -/
def dispatch (sm : Sm) : Sm :=
  if key.keyInfo.keyType then
    if key.keyInfo.keyIndex ≠ 0 then sm
    else if peer then { sm with peerkeys := ans.peerkeys }
    else if key.keyInfo.mic then process3Of4 conf crypto ans key keyData sm
    else process1Of4 conf crypto ans key keyData sm
  else if key.keyInfo.smkMessage then { sm with peerkeys := ans.peerkeys }
  else if key.keyInfo.mic then process1Of2 conf crypto ans key keyData sm
  else sm

/-- The replay counter of a frame is acceptable.  A peer that this end asked answers with the
counter of the request. -/
def counterOk (src : Mac) (key : EapolKey) : Bool :=
  match sm.peerkey src with
  | none => !(sm.rxReplayCounterSet && key.replayCounter ≤ sm.rxReplayCounter)
  | some peer =>
    key.keyInfo.smkMessage ||
      if peer.initiator then (key.replayCounter + 1) % 256 ^ 8 == peer.replayCounter
      else !(peer.replayCounterSet && key.replayCounter ≤ peer.replayCounter)

/-- The frame passes the checks before its MIC is verified. -/
def acceptable (src : Mac) (key : EapolKey) : Bool :=
  let initiator := (sm.peerkey src).any (·.initiator)
  verOk conf key.keyInfo && counterOk sm src key && !(initiator && key.keyInfo.ack) &&
    (key.keyInfo.ack || key.keyInfo.smkMessage || initiator) && !key.keyInfo.request

/-- The key data of the frame is to be decrypted before the frame is handled. -/
def encrypted : Bool := conf.isRsn && key.keyInfo.encrKeyData

/-- The key data in the clear; none if it cannot be decrypted. -/
def plainKeyData : Option Bytes :=
  if encrypted conf key then decryptKeyData conf crypto ans key sm else some key.keyData

/-- Decrypt the key data of a verified frame and handle it. -/
def handle : Sm :=
  let sm' := if encrypted conf key then sm.act .decryptKeyData else sm
  match plainKeyData conf crypto ans key sm with
  | none => sm'
  | some keyData => dispatch conf crypto ans key keyData peer sm'

/-- What comes from outside with one call of `wpa_sm_rx_eapol`. -/
structure Packet where
  ans : Answers := {}
  src : Mac := Octets.zero 6
  buf : Bytes

/-- The frame in a packet, if it is not dropped before its message integrity code is verified. -/
def accepted (packet : Packet) : Option (EapolKey × Bytes) :=
  match keyFrame conf packet.buf with
  | none => none
  | some tmp =>
    let key := EapolKey.decode conf.keyMgmt.micLen tmp
    if packet.ans.alloc && acceptable conf sm packet.src key then some (key, tmp) else none

/-- Handle a received packet (`wpa_sm_rx_eapol`). -/
def rxEapol (packet : Packet) : Sm :=
  match accepted conf sm packet with
  | none => sm
  | some (key, tmp) =>
    match checked conf crypto key packet.src tmp sm with
    | .error sm => sm
    | .ok sm₁ => handle conf crypto packet.ans key sm₁ (sm.peerkey packet.src).isSome

/-- One packet of an association: once the supplicant has deauthenticated, none is handled. -/
def receive (packet : Packet) : Checked Sm :=
  .ok (if sm.deauthenticated then sm else rxEapol conf crypto sm packet)

/-! ## Frames for concrete runs -/

def Conf.sample : Conf := { assocWpaIe := some [] }

def sampleNonce (octet : UInt8) : Nonce := Octets.ofList 32 (replicate 32 octet)

/-- A message 1/4. -/
def sample1Of4 (counter : ℕ) (anonce : Nonce) : EapolKey where
  version := 2
  type := keyTypeRsn
  keyInfo := { ver := KeyInfo.hmacSha1Aes, keyType := true, ack := true }
  keyLength := 16
  replayCounter := counter
  keyNonce := anonce
  keyMic := replicate 16 0

/-- Message 3/4 under the keys of a handshake, with elements as its key data. -/
def sample3Of4 (counter : ℕ) (anonce snonce : Nonce) (rsc : Octets 8) (elements : Bytes) :
    EapolKey where
  version := 2
  type := keyTypeRsn
  keyInfo :=
    { ver := KeyInfo.hmacSha1Aes, keyType := true, install := true, ack := true, mic := true
      secure := true, encrKeyData := true }
  keyLength := 16
  replayCounter := counter
  keyNonce := anonce
  keyRsc := rsc
  keyMic := (temporaryPtk Conf.sample Crypto.sample anonce { snonce }).kck
  keyData := elements ++ replicate 8 0

/-- A message 1/2. -/
def sample1Of2 (counter : ℕ) (anonce snonce : Nonce) (rsc : Octets 8) (elements : Bytes) :
    EapolKey :=
  { sample3Of4 counter anonce snonce rsc elements with
    keyInfo :=
      { ver := KeyInfo.hmacSha1Aes, ack := true, mic := true, secure := true
        encrKeyData := true } }

end Hostapd.RsnSupp
