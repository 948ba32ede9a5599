import Hostapd.Foundation.FirstMatch
import Hostapd.Foundation.Machine
import Hostapd.Ft.Authenticator

/-!
# Fast transition: key holders and the keys they store

An access point as an R0 and an R1 key holder: its two caches, the frames of the distribution system
that it receives (`wpa_ft_rrb_rx` of `ap/wpa_auth_ft.c`) and sends, and the derivation of keys at
the initial association. Every wrapping of data, every pull and every PMK-R1 that is stored because
of a frame is written to its history.

The distribution system may lose, repeat, delay and change frames. The only assumption (`Unforged`)
is that what can be unwrapped with a key was wrapped with it by an access point.

So a stored key comes from an R0 key holder that shares the key of the frame, was derived from a
PMK-R0 of the station for this R1 key holder, and, in an answer to a pull, with the nonce of a pull
that this R1 key holder sent for the station.
-/

namespace Hostapd.Ft

open Wire Wpa FirstMatch Machine List Function

/-- A PMK-R0 in the cache (`struct wpa_ft_pmk_r0_sa`). -/
structure PmkR0Sa where
  pmkR0 : Pmk
  pmkR0Name : KeyName
  spa : Mac
  pairwise : UInt16
  pmkR1Pushed : Bool := false

/-- The frame that a PMK-R1 is stored for. -/
inductive Source
  /-- An answer to a pull; `outstanding` tells whether a station still waits for it. -/
  | response (src : Mac) (data : RespData) (outstanding : Bool)
  | push (src : Mac) (data : PushData) (now : ℕ)
deriving DecidableEq

/-- An entry of the history. -/
inductive KeyEvent
  | wrapped (key : Octets 16) (plain : Bytes)
  | pulled (spa : Mac) (nonce : Octets 16)
  | stored (source : Source) (r1 : PmkR1Sa)
deriving DecidableEq

/-- An access point (`struct wpa_authenticator`, the part of fast transition). -/
structure Ap where
  conf : Conf
  pmkR0 : List PmkR0Sa := []
  pmkR1 : List PmkR1Sa := []
  stas : List Sm := []
  history : List KeyEvent := []

namespace Ap

def note (ap : Ap) (e : KeyEvent) : Ap := { ap with history := e :: ap.history }

/-- Store a PMK-R1 (`wpa_ft_store_pmk_r1`). -/
def storePmkR1 (ap : Ap) (r1 : PmkR1Sa) : Ap := { ap with pmkR1 := r1 :: ap.pmkR1 }

/-- The first PMK-R0 of a station with a name (`wpa_ft_fetch_pmk_r0`). -/
def fetchPmkR0 (ap : Ap) (spa : Mac) (pmkR0Name : KeyName) : Option PmkR0Sa :=
  ap.pmkR0.find? fun r0 => r0.spa == spa && r0.pmkR0Name == pmkR0Name

variable (prims : Prims)

/-- The keys of a station are derived at its initial association (`wpa_auth_derive_ptk_ft`). -/
def deriveKeys (spa : Mac) (xxkey : Bytes) (pairwise : UInt16) (ap : Ap) : Ap :=
  if xxkey.length = 0 then ap
  else
    let (pmkR0, pmkR0Name) := prims.derivePmkR0 xxkey ap.conf.ssid ap.conf.mobilityDomain
      ap.conf.r0KeyHolder spa
    let (pmkR1, pmkR1Name) := prims.derivePmkR1 pmkR0 pmkR0Name ap.conf.r1KeyHolder spa
    { ap with pmkR0 := { pmkR0, pmkR0Name, spa, pairwise } :: ap.pmkR0 }.storePmkR1
      { pmkR1, pmkR1Name, spa, pairwise }

/-! ## Requests of stations -/

/-- Send a pull for a station, if there is one to send. -/
def sendPull (spa : Mac) (pull : Option (RemoteR0kh × PullData)) (ap : Ap) : Ap :=
  match pull with
  | none => ap
  | some (r0kh, data) => (ap.note (.pulled spa data.nonce)).note (.wrapped r0kh.key data.encode)

/-- Process the elements of a request of a station, which is added if it is not known. -/
def authReq (cb : PendingCb) (ans : Answers) (spa : Mac) (ies : Bytes) (ap : Ap) : Ap :=
  let stas := if ap.stas.any (·.addr == spa) then ap.stas else { addr := spa } :: ap.stas
  match stas.find? (·.addr == spa) with
  | none => ap
  | some sm =>
    let res := processAuthReq prims ap.conf ap.pmkR1 ans ies { sm with ftPendingCb := some cb }
    { ap with stas := updateFirst (·.addr == spa) (fun _ => res.sm) stas }.sendPull spa res.pull

/-- A request that waited for a PMK-R1 is processed again (`ft_pull_resp_cb_finish`). -/
def pullRespFinish (ans : Answers) (spa : Mac) (ap : Ap) : Ap :=
  match ap.stas.find? (·.addr == spa) with
  | none => ap
  | some sm =>
    match sm.ftPullFinish, sm.ftPendingReqIes with
    | true, some ies =>
      let res := processAuthReq prims ap.conf ap.pmkR1 ans ies sm
      let sm := { res.sm with ftPendingReqIes := none, ftPullFinish := false }
      { ap with stas := updateFirst (·.addr == spa) (fun _ => sm) ap.stas }.sendPull spa res.pull
    | _, _ => ap

/-! ## Frames between key holders -/

/-- The wrapped data of a frame, whose plaintext has `len` octets. -/
def crypt (len : ℕ) (data : Bytes) : Bytes := (data.drop rrbHeaderLen).take (len + 8)

/-- A pull is answered (`wpa_ft_rrb_rx_pull`). -/
def rrbRxPull (src : Mac) (data : Bytes) (ap : Ap) : Ap :=
  if data.length < rrbHeaderLen + PullData.len + 8 then ap
  else
    match ap.conf.r1khList.find? (·.addr == src) with
    | none => ap
    | some r1kh =>
      match prims.aesUnwrap r1kh.key (crypt PullData.len data) with
      | none => ap
      | some plain =>
        let f := PullData.decode plain
        match ap.fetchPmkR0 f.s1khId f.pmkR0Name with
        | none => ap
        | some r0 =>
          let (pmkR1, pmkR1Name) := prims.derivePmkR1 r0.pmkR0 f.pmkR0Name f.r1khId f.s1khId
          let r : RespData := { nonce := f.nonce, r1khId := f.r1khId, s1khId := f.s1khId, pmkR1,
                                pmkR1Name, pairwise := r0.pairwise }
          ap.note (.wrapped r1kh.key r.encode)

/-- A station waits for an answer to its pull (`ft_pull_resp_cb`). -/
def awaits (f : RespData) (sm : Sm) : Bool :=
  f.s1khId == sm.addr && f.nonce == sm.ftPendingPullNonce && sm.ftPendingCb.isSome &&
    sm.ftPendingReqIes.isSome

/-- The answer to a pull (`wpa_ft_rrb_rx_resp`).  The key is stored before any station is looked
for that waits for it. -/
def rrbRxResp (src : Mac) (data : Bytes) (ap : Ap) : Ap :=
  if data.length < rrbHeaderLen + RespData.len + 8 then ap
  else
    match ap.conf.r0khList.find? (·.addr == src) with
    | none => ap
    | some r0kh =>
      match prims.aesUnwrap r0kh.key (crypt RespData.len data) with
      | none => ap
      | some plain =>
        let f := RespData.decode plain
        if f.r1khId ≠ ap.conf.r1KeyHolder then ap
        else
          let r1 : PmkR1Sa := { pmkR1 := f.pmkR1, pmkR1Name := f.pmkR1Name, spa := f.s1khId,
                                pairwise := f.pairwise }
          let ap := (ap.storePmkR1 r1).note (.stored (.response src f (ap.stas.any (awaits f))) r1)
          { ap with stas :=
              updateFirst (awaits f) (fun sm => { sm with ftPullFinish := true }) ap.stas }

/-- A push (`wpa_ft_rrb_rx_push`). -/
def rrbRxPush (src : Mac) (now : ℕ) (data : Bytes) (ap : Ap) : Ap :=
  if data.length < rrbHeaderLen + PushData.len + 8 then ap
  else
    match ap.conf.r0khList.find? (·.addr == src) with
    | none => ap
    | some r0kh =>
      match prims.aesUnwrap r0kh.key (crypt PushData.len data) with
      | none => ap
      | some plain =>
        let f := PushData.decode plain
        let tsend := f.timestamp.toNat
        if (tsend < now ∧ 60 < now - tsend) ∨ (now < tsend ∧ 60 < tsend - now) then ap
        else if f.r1khId ≠ ap.conf.r1KeyHolder then ap
        else
          let r1 : PmkR1Sa := { pmkR1 := f.pmkR1, pmkR1Name := f.pmkR1Name, spa := f.s1khId,
                                pairwise := f.pairwise }
          (ap.storePmkR1 r1).note (.stored (.push src f now) r1)

/-- An FT Action frame from another access point is processed or forwarded. -/
def rrbRxAction (ans : Answers) (packetType : UInt8) (action : Bytes) (ap : Ap) : Ap :=
  if action.length < 14 then ap
  else if action.getD 0 0 ≠ 6 then ap
  else if packetType = packetRequest ∧ action.getD 1 0 = 1 ∧
      Octets.ofList 6 (action.drop 8) = ap.conf.addr then
    ap.authReq prims .rrbRxRequestCb ans (Octets.ofList 6 (action.drop 2)) (action.drop 14)
  else ap

/-- A frame from the distribution system (`wpa_ft_rrb_rx`). -/
def rrbRx (ans : Answers) (src : Mac) (now : ℕ) (data : Bytes) (ap : Ap) : Ap :=
  if data.length < rrbHeaderLen then ap
  else if data.getD 0 0 ≠ 1 then ap
  else
    let alen := getLe16 (data.drop 2)
    let packetType := data.getD 1 0
    if data.length - rrbHeaderLen < alen then ap
    else if packetType = packetPull then ap.rrbRxPull prims src data
    else if packetType = packetResp then ap.rrbRxResp prims src data
    else if packetType = packetPush then ap.rrbRxPush prims src now data
    else ap.rrbRxAction prims ans packetType ((data.drop rrbHeaderLen).take alen)

/-! ## Pushing keys -/

/-- The data of a push to an R1 key holder (`wpa_ft_generate_pmk_r1`). -/
def generatePmkR1 (now : ℕ) (r0 : PmkR0Sa) (s1khId : Mac) (r1kh : RemoteR1kh) : PushData :=
  let (pmkR1, pmkR1Name) := prims.derivePmkR1 r0.pmkR0 r0.pmkR0Name r1kh.id s1khId
  { timestamp := UInt32.ofNat now, r1khId := r1kh.id, s1khId, pmkR0Name := r0.pmkR0Name, pmkR1,
    pmkR1Name, pairwise := r0.pairwise }

/-- Push the keys of a station to all R1 key holders, once (`wpa_ft_push_pmk_r1`). -/
def pushPmkR1 (now : ℕ) (addr : Mac) (ap : Ap) : Ap :=
  if !ap.conf.pmkR1Push then ap
  else
    match ap.pmkR0.find? (·.spa == addr) with
    | none => ap
    | some r0 =>
      if r0.pmkR1Pushed then ap
      else
        let wrapped := ap.conf.r1khList.map fun r1kh =>
          KeyEvent.wrapped r1kh.key (generatePmkR1 prims now r0 addr r1kh).encode
        { ap with
          pmkR0 := updateFirst (·.spa == addr) (fun r0 => { r0 with pmkR1Pushed := true }) ap.pmkR0
          history := wrapped.reverse ++ ap.history }

end Ap

/-! ## The network -/

abbrev Net (n : ℕ) := Fin n → Ap

namespace Net

variable {n : ℕ} {prims : Prims}

/-- What happens in a network of `n` access points. -/
inductive Event (n : ℕ)
  /-- A station completes its initial association with an access point. -/
  | deriveKeys (ap : Fin n) (spa : Mac) (xxkey : Bytes) (pairwise : UInt16)
  | push (ap : Fin n) (now : ℕ) (spa : Mac)
  | authReq (ap : Fin n) (ans : Answers) (spa : Mac) (ies : Bytes)
  | rrbRx (ap : Fin n) (ans : Answers) (src : Mac) (now : ℕ) (data : Bytes)
  | pullRespFinish (ap : Fin n) (ans : Answers) (spa : Mac)

/-- One event. -/
def step (prims : Prims) (net : Net n) : Event n → Except Empty (Net n)
  | .deriveKeys i spa xxkey pairwise =>
    .ok (update net i ((net i).deriveKeys prims spa xxkey pairwise))
  | .push i now spa => .ok (update net i ((net i).pushPmkR1 prims now spa))
  | .authReq i ans spa ies =>
    .ok (update net i ((net i).authReq prims .authFtFinish ans spa ies))
  | .rrbRx i ans src now data =>
    .ok (update net i ((net i).rrbRx prims ans src now data))
  | .pullRespFinish i ans spa => .ok (update net i ((net i).pullRespFinish prims ans spa))

/-- Some access point has wrapped data with a key. -/
def Wrapped (net : Net n) (key : Octets 16) (plain : Bytes) : Prop :=
  ∃ i, .wrapped key plain ∈ (net i).history

instance (net : Net n) (key : Octets 16) (plain : Bytes) : Decidable (net.Wrapped key plain) :=
  inferInstanceAs (Decidable (∃ _, _))

def sharedKeys (conf : Conf) : List (Octets 16) :=
  conf.r0khList.map (·.key) ++ conf.r1khList.map (·.key)

/-- A frame is not forged: what an access point can unwrap of it was wrapped by an access point. -/
def Unforged (prims : Prims) (net : Net n) : Event n → Prop
  | .rrbRx i _ _ _ data =>
    ∀ key ∈ sharedKeys (net i).conf, ∀ len ∈ [PullData.len, RespData.len, PushData.len],
      ∀ plain ∈ prims.aesUnwrap key (Ap.crypt len data), net.Wrapped key plain
  | _ => True

/-! ## What is known of keys -/

/-- The access point has a PMK-R0 of a station. -/
def Holds (ap : Ap) (spa : Mac) (pmkR0 : Pmk) (pmkR0Name : KeyName) : Prop :=
  ∃ r0 ∈ ap.pmkR0, r0.spa = spa ∧ r0.pmkR0 = pmkR0 ∧ r0.pmkR0Name = pmkR0Name

/-- A PMK-R1 is the one that a station derives for an R1 key holder from a PMK-R0 that the access
point has. -/
def FromHeldKey (prims : Prims) (ap : Ap) (spa : Mac) (r1khId : R1khId) (pmkR1 : Pmk)
    (pmkR1Name : KeyName) : Prop :=
  ∃ pmkR0 pmkR0Name, Holds ap spa pmkR0 pmkR0Name ∧
    (pmkR1, pmkR1Name) = Supplicant.derivePmkR1 prims { ownAddr := spa, r1khId, pmkR0, pmkR0Name }

/-- An access point with an identity as R1 key holder has pulled a key of a station with a nonce. -/
def Pulled (net : Net n) (r1khId : R1khId) (spa : Mac) (nonce : Octets 16) : Prop :=
  ∃ i, (net i).conf.r1KeyHolder = r1khId ∧ .pulled spa nonce ∈ (net i).history

/-- The data of a pull that an access point has wrapped. -/
structure PullMade (ap : Ap) (data : PullData) : Prop where
  r1khId : data.r1khId = ap.conf.r1KeyHolder
  pulled : .pulled data.s1khId data.nonce ∈ ap.history

/-- The data of an answer that an access point has wrapped with a key. -/
structure RespMade (prims : Prims) (net : Net n) (ap : Ap) (key : Octets 16) (data : RespData) :
    Prop where
  shared : ∃ r1kh ∈ ap.conf.r1khList, r1kh.key = key
  pulled : net.Pulled data.r1khId data.s1khId data.nonce
  fromHeldKey : FromHeldKey prims ap data.s1khId data.r1khId data.pmkR1 data.pmkR1Name

/-- The data of a push that an access point has wrapped with a key. -/
structure PushMade (prims : Prims) (ap : Ap) (key : Octets 16) (data : PushData) : Prop where
  shared : ∃ r1kh ∈ ap.conf.r1khList, r1kh.key = key ∧ r1kh.id = data.r1khId
  fromHeldKey : FromHeldKey prims ap data.s1khId data.r1khId data.pmkR1 data.pmkR1Name

/-- Why an access point has wrapped data. -/
inductive Made (prims : Prims) (net : Net n) (ap : Ap) (key : Octets 16) : Bytes → Prop
  | pull {data : PullData} (h : PullMade ap data) : Made prims net ap key data.encode
  | resp {data : RespData} (h : RespMade prims net ap key data) : Made prims net ap key data.encode
  | push {data : PushData} (h : PushMade prims ap key data) : Made prims net ap key data.encode

/-- A PMK-R1 was sent to an access point by an R0 key holder: the frame comes from the address of a
configured one, was wrapped with its key by an access point that shares this key with an R1 key
holder, and the key in it is the one that the station derives from a PMK-R0 of that access point. -/
def FromR0kh (prims : Prims) (net : Net n) (i : Fin n) (src : Mac) (plain : Bytes)
    (r1 : PmkR1Sa) : Prop :=
  ∃ r0kh ∈ (net i).conf.r0khList, r0kh.addr = src ∧
    ∃ j, .wrapped r0kh.key plain ∈ (net j).history ∧
      (∃ r1kh ∈ (net j).conf.r1khList, r1kh.key = r0kh.key) ∧
      FromHeldKey prims (net j) r1.spa (net i).conf.r1KeyHolder r1.pmkR1 r1.pmkR1Name

/-- Why an access point has stored a PMK-R1: in an answer to a pull of its own for the station, or
in a push that is at most 60 seconds off. -/
def Genuine (prims : Prims) (net : Net n) (i : Fin n) (r1 : PmkR1Sa) : Source → Prop
  | .response src data _ =>
    FromR0kh prims net i src data.encode r1 ∧ .pulled r1.spa data.nonce ∈ (net i).history ∧
      data.s1khId = r1.spa ∧ data.r1khId = (net i).conf.r1KeyHolder
  | .push src data now =>
    FromR0kh prims net i src data.encode r1 ∧ now ≤ data.timestamp.toNat + 60 ∧
      data.timestamp.toNat ≤ now + 60 ∧ data.s1khId = r1.spa ∧
      data.r1khId = (net i).conf.r1KeyHolder

end Net

end Hostapd.Ft
