import Hostapd.RsnSupp.Ie
import Hostapd.Wpa.Common

/-!
# The WPA authenticator: sending EAPOL-Key frames

The data of the authenticator (`ap/wpa_auth_i.h`) that the assembly of frames reads, the assembly of
key data (`wpa_add_kde`, `ieee80211w_kde_add` and the part of PTKINITNEGOTIATING that builds the key
data of message 3/4) and `__wpa_send_eapol`.

What the rest of the access point answers is a `World`. Every question is asked at a time, the
length of the station's `log` of frames sent, so a world can give a different answer each time.
-/

namespace Hostapd.WpaAuth

open Wire Wpa RsnSupp

def maxEapolRetries : ℕ := 4

/-- The states of the group machine. -/
inductive GroupState
  | gtkInit
  | setkeys
  | setkeysdone
  | fatalFailure
deriving DecidableEq

/-- The version of WPA a station uses (`WPA_VERSION_*`). -/
inductive WpaVersion
  | noWpa
  | wpa
  | wpa2
deriving DecidableEq

/-- A replay counter that was sent (`struct wpa_key_replay_counter`). -/
structure KeyReplayCounter where
  counter : ℕ := 0
  valid : Bool := false

/-- The configuration of the authenticator: `struct wpa_auth_config` and its elements. -/
structure Config where
  /-- RSN is enabled (`conf.wpa & WPA_PROTO_RSN`). -/
  protoRsn : Bool := true
  wpaGroup : Cipher := .ccmp
  groupMgmtCipher : Cipher := .aes128Cmac
  disableGtk : Bool := false
  eapolVersion : UInt8 := 2
  /-- The RSN and WPA elements of the beacon, one after the other (`wpa_auth->wpa_ie`). -/
  wpaIe : Bytes := []

/-- The messages that are sent. -/
inductive Msg
  | pairwise1
  | pairwise3
  | group1

/-- An entry of the log. -/
inductive LogEntry
  | sent (msg : Msg) (frame : EapolKey)

/-- The state machine of a station (`struct wpa_state_machine`). -/
structure Sm where
  addr : Mac := Octets.zero 6
  aNonce : Nonce := Octets.zero 32
  ptk : Ptk := {}
  ptkValid : Bool := false
  keyReplay : List KeyReplayCounter := List.replicate maxEapolRetries {}
  mgmtFrameProt : Bool := false
  rxEapolKeySecure : Bool := false
  wpa : WpaVersion := .wpa2
  pairwise : Cipher := .ccmp
  wpaKeyMgmt : KeyMgmt := .psk
  log : List LogEntry := []

/-- The state machine of a group key (`struct wpa_group`). -/
structure Group where
  gtkLen : ℕ := 16
  gn : ℕ := 1
  counter : ℕ := 0
  wpaGroupState : GroupState := .gtkInit
  gtk : List Bytes := [[], []]
  igtk : List Bytes := [[], []]
  gnIgtk : ℕ := 4

/-- What the rest of the access point answers, by address of the station and time. -/
structure World where
  /-- Random octets in place of a group key (`random_get_bytes`). -/
  dummyGtk : Mac → ℕ → Option Bytes
  dummyIgtk : Mac → ℕ → Option Bytes
  alloc : Mac → ℕ → Bool
  allocKde : Mac → ℕ → Bool
  allocKeyData : Mac → ℕ → Bool
  /-- The sequence number of the group key with an index (`wpa_auth_get_seqnum`). -/
  seqnum : Mac → ℕ → ℕ → Option (Octets 8)

def World.sample : World where
  dummyGtk _ _ := some []
  dummyIgtk _ _ := some []
  alloc _ _ := true
  allocKde _ _ := true
  allocKeyData _ _ := true
  seqnum _ _ _ := some (Octets.zero 8)

namespace Sm

def now (sm : Sm) : ℕ := sm.log.length

def note (sm : Sm) (e : LogEntry) : Sm := { sm with log := sm.log ++ [e] }

/-- AES-128-CMAC is used (`wpa_use_aes_cmac`). -/
def useAesCmac (sm : Sm) : Bool := sm.wpaKeyMgmt.sha256 || sm.wpaKeyMgmt == .osen

end Sm

/-! ## Key data -/

/-- A key data encapsulation (`wpa_add_kde`). -/
def addKde (kde data : Bytes) : Bytes :=
  eidVendorSpecific :: UInt8.ofNat (4 + data.length) :: (kde ++ data)

/-- The GTK KDE.  The authenticator never sets the Tx bit, bit 2 of the first octet. -/
def gtkKde (keyidx : ℕ) (tx : Bool) (gtk : Bytes) : Bytes :=
  addKde rsnKeyDataGroupkey ([UInt8.ofNat (keyidx % 4 + 4 * tx.toNat), 0] ++ gtk)

/-- The body of the IGTK KDE (`struct wpa_igtk_kde`). -/
def igtkBody (keyid : ℕ) (pn : Bytes) (igtk : Bytes) : Bytes :=
  [UInt8.ofNat keyid, 0] ++ pn.takeD 6 0 ++ igtk

variable (conf : Config)

/-- The group key for a station: its own random one, if every station has its own. -/
def gtkFor (world : World) (sm : Sm) (gsm : Group) : Option Bytes :=
  if conf.disableGtk then (world.dummyGtk sm.addr sm.now).map (·.takeD gsm.gtkLen 0)
  else some ((gsm.gtk.getD (gsm.gn - 1) []).takeD gsm.gtkLen 0)

/-- The body of the IGTK KDE for a station, if it uses management frame protection. -/
def igtkFor (world : World) (sm : Sm) (gsm : Group) : Option Bytes :=
  let len := conf.groupMgmtCipher.keyLen
  if !sm.mgmtFrameProt then none
  else
    let pn := if gsm.wpaGroupState ≠ .setkeysdone then []
      else ((world.seqnum sm.addr sm.now gsm.gnIgtk).map (·.val)).getD []
    let igtk := if conf.disableGtk then world.dummyIgtk sm.addr sm.now
      else some (gsm.igtk.getD (gsm.gnIgtk - 4) [])
    igtk.map fun igtk => igtkBody gsm.gnIgtk pn (igtk.takeD len 0)

/-- The IGTK KDE, if there is a management group key (`ieee80211w_kde_add`). -/
def igtkKde : Option Bytes → Bytes
  | none => []
  | some body => addKde rsnKeyDataIgtk body

/-! ## Sending -/

/-- The descriptor version that is used. -/
def keyVersion (sm : Sm) : BitVec 3 :=
  if sm.wpaKeyMgmt = .osen ∨ sm.wpaKeyMgmt.suiteB then KeyInfo.akmDefined
  else if sm.useAesCmac then KeyInfo.aes128Cmac
  else if sm.pairwise ≠ .tkip then KeyInfo.hmacSha1Aes
  else KeyInfo.hmacMd5Rc4

/-- Key data is encrypted with AES key wrap. -/
def usesAesWrap (sm : Sm) (version : BitVec 3) : Bool :=
  version == KeyInfo.hmacSha1Aes || sm.wpaKeyMgmt == .osen || sm.wpaKeyMgmt.suiteB ||
    version == KeyInfo.aes128Cmac

/-- The key data with its padding up to a multiple of eight octets: 0xdd and then zeros. -/
def padKeyData (kde : Bytes) : Bytes :=
  let padLen := if kde.length % 8 = 0 then 0 else 8 - kde.length % 8
  kde ++ (if padLen = 0 then [] else 0xdd :: List.replicate (padLen - 1) 0)

variable (crypto : Crypto)

/-- The encrypted key data, the initialisation vector and the group; none if it is not possible. -/
def encryptKeyData (sm : Sm) (gsm : Group) (version : BitVec 3) (kde : Bytes) :
    Option (Bytes × Octets 16) × Group :=
  if usesAesWrap sm version then
    ((crypto.aesWrap sm.ptk.kek (padKeyData kde)).map (·, Octets.zero 16), gsm)
  else if sm.ptk.kek.length = 16 then
    let iv := Octets.ofList 16 ((toBe 32 gsm.counter).drop 16)
    (some (crypto.rc4Skip (iv.val ++ sm.ptk.kek) kde, iv),
      { gsm with counter := (gsm.counter + 1) % 256 ^ 32 })
  else (none, gsm)

/-- Take the next replay counter: the counters of the last messages move on by one place. -/
def nextReplayCounter (sm : Sm) : Sm :=
  let counter := ((sm.keyReplay.headD {}).counter + 1) % 256 ^ 8
  { sm with keyReplay := { counter, valid := true } :: sm.keyReplay.take (maxEapolRetries - 1) }

/-- The frame before its key data and its message integrity code are filled in. -/
def frameHeader (sm : Sm) (version : BitVec 3) (keyInfo : KeyInfo) (keyRsc : Option (Octets 8))
    (nonce : Nonce) (keyidx : ℕ) (encr : Bool) : EapolKey where
  version := conf.eapolVersion
  type := if sm.wpa = .wpa2 then keyTypeRsn else keyTypeWpa
  keyInfo :=
    { keyInfo with
      ver := version
      encrKeyData := keyInfo.encrKeyData || (encr && sm.wpa == .wpa2)
      keyIndex := if sm.wpa ≠ .wpa2 then BitVec.ofNat 2 keyidx else keyInfo.keyIndex }
  keyLength := UInt16.ofNat (if keyInfo.keyType then sm.pairwise else conf.wpaGroup).keyLen
  replayCounter := (sm.keyReplay.headD {}).counter
  keyNonce := nonce
  keyRsc := keyRsc.getD (Octets.zero 8)
  keyMic := List.replicate sm.wpaKeyMgmt.micLen 0

/-- Fill in the message integrity code; none if it is asked for without a valid PTK. -/
def addMic (sm : Sm) (frame : EapolKey) : Option EapolKey :=
  if frame.keyInfo.mic then
    if sm.ptkValid then
      let mic := crypto.micField sm.ptk.kck sm.wpaKeyMgmt frame.keyInfo.ver frame.encode
      some { frame with keyMic := mic }
    else none
  else some frame

/-- Send an EAPOL-Key frame (`__wpa_send_eapol`).  A null `kde` pointer with a length is the
length `kdeLen` with no key data; the frame then ends with that many zero octets. -/
def sendEapol (world : World) (msg : Msg) (sm : Sm) (gsm : Group) (keyInfo : KeyInfo)
    (keyRsc : Option (Octets 8)) (nonce : Nonce) (kde : Option Bytes) (kdeLen : ℕ)
    (keyidx : ℕ) (encr : Bool) : Sm × Group :=
  let version := keyVersion sm
  if !world.alloc sm.addr sm.now then (sm, gsm)
  else
    let sm := nextReplayCounter sm
    let hdr := frameHeader conf sm version keyInfo keyRsc nonce keyidx encr
    let filled : Option EapolKey × Group :=
      match kde with
      | none => (some { hdr with trailer := List.replicate kdeLen 0 }, gsm)
      | some kde =>
        if !encr then (some { hdr with keyData := kde }, gsm)
        else if !world.allocKeyData sm.addr sm.now then (none, gsm)
        else
          match encryptKeyData crypto sm gsm version kde with
          | (none, gsm) => (none, gsm)
          | (some (keyData, keyIv), gsm) => (some { hdr with keyData, keyIv }, gsm)
    match filled.1.bind (addMic crypto sm) with
    | none => (sm, filled.2)
    | some frame => (sm.note (.sent msg frame), filled.2)

/-! ## Message 3/4 -/

/-- The elements sent in message 3/4: without the RSN element for a station that uses WPA. -/
def wpaIeFor (sm : Sm) : Bytes :=
  let len := (conf.wpaIe.getD 1 0).toNat + 2
  if sm.wpa = .wpa ∧ conf.protoRsn ∧ len < conf.wpaIe.length ∧ conf.wpaIe.getD 0 0 = eidRsn then
    let ie := conf.wpaIe.drop len
    -- A mobility domain element is skipped as well.
    let ie := if ie.getD 0 0 = 54 then ie.drop ((ie.getD 1 0).toNat + 2) else ie
    ie.take ((ie.getD 1 0).toNat + 2)
  else conf.wpaIe

/-- Send message 3/4: the part of PTKINITNEGOTIATING behind the retry limit. -/
def sendPairwise3 (world : World) (sm : Sm) (gsm : Group) : Sm × Group :=
  let rsc := (world.seqnum sm.addr sm.now gsm.gn).getD (Octets.zero 8)
  let info : KeyInfo := { mic := true, ack := true, install := true, keyType := true }
  if sm.wpa = .wpa2 then
    match gtkFor conf world sm gsm with
    | none => (sm, gsm)
    | some gtk =>
      let kde := wpaIeFor conf sm ++ gtkKde gsm.gn false gtk ++ igtkKde (igtkFor conf world sm gsm)
      if !world.allocKde sm.addr sm.now then (sm, gsm)
      else
        sendEapol conf crypto world .pairwise3 sm gsm { info with secure := true } (some rsc)
          sm.aNonce (some kde) kde.length gsm.gn true
  else
    let kde := wpaIeFor conf sm ++ igtkKde (igtkFor conf world sm gsm)
    if !world.allocKde sm.addr sm.now then (sm, gsm)
    else
      -- The Secure bit is set for a station that set it in message 2/4.
      sendEapol conf crypto world .pairwise3 sm gsm { info with secure := sm.rxEapolKeySecure } none
        sm.aNonce (some kde) kde.length 0 false

end Hostapd.WpaAuth
