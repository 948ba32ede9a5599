import Hostapd.Foundation.Machine
import Hostapd.Ft.Authenticator

/-!
# Fast transition: a station at an access point

Authentication and (Re)Association Request frames of one station (`ap/ieee802_11.c`) and the events
reported to its state machine (`wpa_auth_sm_event` of `ap/wpa_auth.c`), as far as they bear on fast
transition. What the 4-way handshake does to the same state are events of their own; the checks of a
request that have nothing to do with fast transition are an answer of the environment.
-/

namespace Hostapd.Ft

open Wire Wpa

/-- The authentication algorithms (`WLAN_AUTH_*`). -/
inductive AuthAlg
  | openSystem
  | ft
deriving DecidableEq

/-- The subtypes of the frames whose sequence number is remembered, with their codes
(`WLAN_FC_STYPE_*`). -/
inductive FrameSubtype
  | assocReq
  | reassocReq
  | auth
deriving DecidableEq

def FrameSubtype.code : FrameSubtype → ℕ
  | assocReq => 0
  | reassocReq => 2
  | auth => 11

/-- Something that happened to the pairwise key, and whether the station was associated. -/
structure Entry where
  effect : Effect
  assoc : Bool
deriving DecidableEq

/-- What the access point keeps for a station (`struct sta_info`), and its cache of PMK-R1 keys. -/
structure Sta where
  sm : Sm
  cache : List PmkR1Sa := []
  /-- The station is authenticated (`WLAN_STA_AUTH`). -/
  auth : Bool := false
  /-- The station is associated (`WLAN_STA_ASSOC`). -/
  assoc : Bool := false
  /-- An association request was accepted (`WLAN_STA_ASSOC_REQ_OK`). -/
  assocReqOk : Bool := false
  authAlg : AuthAlg := .openSystem
  lastSeqCtrl : Option ℕ := none
  lastSubtype : FrameSubtype := .auth
  addedUnassoc : Bool := false
  /-- Responses with status success that were sent and not yet acknowledged. -/
  awaitingAck : ℕ := 0
  log : List Entry := []

/-- The events that the state machine is told about (`enum wpa_event`). -/
inductive WpaEvent
  | auth
  | assoc
  | disassoc
  | deauth
  | reauth
  | reauthEapol
  | assocFt
deriving DecidableEq

/-- Tell the state machine about an event (`wpa_auth_sm_event`). -/
def smEvent (setKeyOk : Bool) (event : WpaEvent) (sm : Sm) : Sm × List Effect :=
  if event = .assocFt then
    let (sm, effects) := installPtk setKeyOk sm
    ({ sm with ftCompleted := true }, effects)
  else
    let sm := { sm with ftCompleted := false }
    if sm.mgmtFrameProt ∧ event = .auth then (sm, [])
    else
      let sm := { sm with ptkValid := false, ptk := {} }
      (if event = .reauthEapol then sm else { sm with pairwiseSet := false }, [])

namespace Sta

/-- Effects are written to the history. -/
def note (sta : Sta) (effects : List Effect) : Sta :=
  { sta with log := (effects.map (⟨·, sta.assoc⟩)).reverse ++ sta.log }

/-- An event for the state machine. -/
def event (sta : Sta) (setKeyOk : Bool) (e : WpaEvent) : Sta :=
  let (sm, effects) := smEvent setKeyOk e sta.sm
  { sta with sm }.note effects

variable (prims : Prims) (conf : Conf)

/-- An FT Authentication Request. -/
def authReq (ans : Answers) (ies : Bytes) (sta : Sta) : Sta × Option ℕ :=
  let res := processAuthReq prims conf sta.cache ans ies sta.sm
  ({ sta with sm := res.sm }.note res.effects, res.status)

/-- A request is received: the algorithm and the way of the response are remembered. -/
def beginAuthFt (cb : PendingCb) (sta : Sta) : Sta :=
  { sta with authAlg := .ft, sm := { sta.sm with ftPendingCb := some cb } }

/-- The response to an authentication over the air is sent (`handle_auth_ft_finish`). -/
def authFtFinish (status : ℕ) (sta : Sta) : Sta :=
  if status = statusSuccess then { sta with auth := true }
  else { sta with addedUnassoc := false }

/-- The driver is told about a station that authenticates; none if it does not take it. -/
def addUnassoc (fullState addOk : Bool) (sta : Sta) : Option Sta :=
  if fullState ∧ !sta.addedUnassoc then
    if addOk then some { sta with assoc := false, auth := false, addedUnassoc := true } else none
  else some sta

/-- An Authentication frame (`handle_auth`). -/
def handleAuth (alg : AuthAlg) (retry : Bool) (seqCtrl : ℕ) (fullState addOk : Bool) (ans : Answers)
    (ies : Bytes) (sta : Sta) : Sta :=
  if retry ∧ sta.lastSeqCtrl = some seqCtrl ∧ sta.lastSubtype = .auth then sta
  else
    let sta := { sta with lastSeqCtrl := some seqCtrl, lastSubtype := .auth }
    match sta.addUnassoc fullState addOk with
    | none => { sta with assoc := false, auth := false }
    | some sta =>
      match alg with
      | .openSystem => { sta with auth := true, authAlg := .openSystem }.event true .auth
      | .ft =>
        let (sta, status) := (sta.beginAuthFt .authFtFinish).authReq prims conf ans ies
        match status with
        | none => sta
        | some status => sta.authFtFinish status

/-- A request through the distribution system (`wpa_ft_rrb_rx_request`); the station is added if it
is not known. -/
def rrbRequest (ans : Answers) (ies : Bytes) (sta : Sta) : Sta :=
  ((sta.beginAuthFt .rrbRxRequestCb).authReq prims conf ans ies).1

/-- A request that waited for a PMK-R1 is processed again (`ft_pull_resp_cb_finish`). -/
def pullRespFinish (ans : Answers) (sta : Sta) : Sta :=
  match sta.sm.ftPendingReqIes with
  | none => sta
  | some ies =>
    let (sta, status) := sta.authReq prims conf ans ies
    let sta := { sta with sm := { sta.sm with ftPendingReqIes := none } }
    if sta.sm.ftPendingCb = some .authFtFinish then
      sta.authFtFinish (status.getD statusUnspecifiedFailure)
    else sta

/-- What `wpa_validate_wpa_ie` takes from the RSN element of a request. -/
structure RsnChoice where
  pairwise : UInt16
  wpaKeyMgmt : KeyMgmt
  mgmtFrameProt : Bool

/-- A (re)association frame is taken for one that was already received.  The source asks
`… && sta->last_subtype == reassoc ? WLAN_FC_STYPE_REASSOC_REQ : WLAN_FC_STYPE_ASSOC_REQ`, which C
reads as a choice between the codes 2 and 0 with all that stands before it as the condition. -/
def repeated (reassoc retry : Bool) (seqCtrl : ℕ) (sta : Sta) : Bool :=
  retry && sta.lastSeqCtrl == some seqCtrl && sta.lastSubtype.code == reassoc.toNat

/-- The status of the checks of a (re)association request (`check_assoc_ies`), and the station after
them.  `choice` is none if the RSN element is refused, and `othersOk` tells whether the checks that
are not those of fast transition are passed. -/
def checkAssocIes (reassoc : Bool) (choice : Option RsnChoice) (othersOk : Bool) (ies : Bytes)
    (sta : Sta) : Sta × Bool :=
  match choice with
  | none => (sta, false)
  | some choice =>
    let sm := { sta.sm with
      pairwise := choice.pairwise
      wpaKeyMgmt := choice.wpaKeyMgmt
      mgmtFrameProt := choice.mgmtFrameProt }
    let ftOk := sta.authAlg ≠ .ft ∨ reassoc ∧ validateReassoc prims conf sm ies = statusSuccess
    ({ sta with sm }, othersOk && decide ftOk)

/-- Send the response to a (re)association request, after its checks. -/
def answerAssoc (checked : Sta × Bool) : Sta :=
  let (sta, ok) := checked
  if ok then
    { sta with assocReqOk := true, addedUnassoc := false, awaitingAck := sta.awaitingAck + 1 }
  else { sta with addedUnassoc := false }

/-- A (Re)Association Request frame (`handle_assoc`). -/
def handleAssoc (reassoc retry : Bool) (seqCtrl : ℕ) (choice : Option RsnChoice) (othersOk : Bool)
    (ies : Bytes) (sta : Sta) : Sta :=
  -- Over the distribution system a station comes here without an Authentication frame.
  if !sta.auth ∧ sta.authAlg ≠ .ft then sta
  else
    let sta := { sta with auth := true }
    if sta.repeated reassoc retry seqCtrl then sta
    else
      let sta := { sta with
        lastSeqCtrl := some seqCtrl
        lastSubtype := if reassoc then .reassocReq else .assocReq }
      answerAssoc (sta.checkAssocIes prims conf reassoc choice othersOk ies)

/-- The driver reports whether an association response with status success was acknowledged
(`handle_assoc_cb`).  `bindOk` is false if the station cannot be bound to its VLAN. -/
def handleAssocCb (ok bindOk setKeyOk : Bool) (sta : Sta) : Sta :=
  if sta.awaitingAck = 0 then sta
  else
    let sta := { sta with awaitingAck := sta.awaitingAck - 1 }
    if !ok then { sta with assocReqOk := false }
    else
      let sta := { sta with assoc := true }
      if !bindOk then sta
      else sta.event setKeyOk (if sta.authAlg = .ft then .assocFt else .assoc)

/-- A Disassociation frame (`handle_disassoc`). -/
def handleDisassoc (sta : Sta) : Sta :=
  { sta with lastSeqCtrl := none, assoc := false, assocReqOk := false,
             addedUnassoc := false }.event true .disassoc

/-- A Deauthentication frame (`handle_deauth`): the station is removed. -/
def handleDeauth (sta : Sta) : Sta :=
  { sm := { addr := sta.sm.addr }, cache := sta.cache, awaitingAck := sta.awaitingAck,
    log := sta.log }

/-- What the machines of the 4-way handshake do to the keys of the station. -/
inductive Handshake
  | nonces (aNonce sNonce : Nonce)
  | derived (ptk : Ptk)
  | cleared
  /-- The pairwise key is installed, not by `wpa_ft_install_ptk`. -/
  | installed

/-- What the 4-way handshake does. -/
def handshake (h : Handshake) (sta : Sta) : Sta :=
  match h with
  | .nonces aNonce sNonce => { sta with sm := { sta.sm with aNonce, sNonce } }
  | .derived ptk => { sta with sm := { sta.sm with ptk, ptkValid := true } }
  | .cleared =>
    { sta with sm := { sta.sm with ptk := {}, ptkValid := false, pairwiseSet := false } }
  | .installed => { sta with sm := { sta.sm with pairwiseSet := true } }

/-! ## Runs -/

/-- What happens to a station. -/
inductive Event
  | auth (alg : AuthAlg) (retry : Bool) (seqCtrl : ℕ) (fullState addOk : Bool) (ans : Answers)
      (ies : Bytes)
  | rrbRequest (ans : Answers) (ies : Bytes)
  | store (r1 : PmkR1Sa)
  | pullRespFinish (ans : Answers)
  | assoc (reassoc retry : Bool) (seqCtrl : ℕ) (choice : Option RsnChoice) (othersOk : Bool)
      (ies : Bytes)
  /-- The association event: an association response was acknowledged or not. -/
  | assocCb (ok bindOk setKeyOk : Bool)
  | disassoc
  | deauth
  | reauth (eapol : Bool)
  | handshake (h : Handshake)

/-- One event. -/
def step (sta : Sta) : Event → Except Empty Sta
  | .auth alg retry seqCtrl fullState addOk ans ies =>
    .ok (sta.handleAuth prims conf alg retry seqCtrl fullState addOk ans ies)
  | .rrbRequest ans ies => .ok (sta.rrbRequest prims conf ans ies)
  | .store r1 => .ok { sta with cache := r1 :: sta.cache }
  | .pullRespFinish ans => .ok (sta.pullRespFinish prims conf ans)
  | .assoc reassoc retry seqCtrl choice othersOk ies =>
    .ok (sta.handleAssoc prims conf reassoc retry seqCtrl choice othersOk ies)
  | .assocCb ok bindOk setKeyOk => .ok (sta.handleAssocCb ok bindOk setKeyOk)
  | .disassoc => .ok sta.handleDisassoc
  | .deauth => .ok sta.handleDeauth
  | .reauth eapol => .ok (sta.event true (if eapol then .reauthEapol else .reauth))
  | .handshake h => .ok (sta.handshake h)

end Sta

end Hostapd.Ft
