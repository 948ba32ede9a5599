import Hostapd.Ft.Rrb

/-!
# Fast transition: the authenticator

The functions of `ap/wpa_auth_ft.c` on the state machine of one station: the processing of an FT
Authentication Request over the air or through the distribution system, the installation of the
pairwise key and the checks of a Reassociation Request. What the rest of the access point answers
during a call is an `Answers`; what the call does to the keys is a list of `Effect`s.
-/

namespace Hostapd.Ft

open Wire Wpa

def statusSuccess : ℕ := 0

def statusUnspecifiedFailure : ℕ := 1

def statusInvalidPmkid : ℕ := 53

def statusInvalidMdie : ℕ := 54

def statusInvalidFtie : ℕ := 55

/-- The status that a result of -1 becomes. -/
def statusMinusOne : ℕ := 65535

/-! ## Data -/

/-- An R0 key holder that keys are pulled from (`struct ft_remote_r0kh`). -/
structure RemoteR0kh where
  addr : Mac
  id : Bytes
  key : Octets 16

/-- An R1 key holder that keys are handed to (`struct ft_remote_r1kh`). -/
structure RemoteR1kh where
  addr : Mac
  id : R1khId
  key : Octets 16

/-- The configuration (`struct wpa_auth_config`, the part of fast transition) and the address of the
access point. -/
structure Conf where
  addr : Mac
  ssid : Bytes
  mobilityDomain : Octets 2
  r0KeyHolder : Bytes
  r1KeyHolder : R1khId
  r0khList : List RemoteR0kh := []
  r1khList : List RemoteR1kh := []
  pmkR1Push : Bool := true
  ftOverDs : Bool := true
  /-- The RSN element with a PMKID (`wpa_write_rsn_ie`). -/
  rsnIe : KeyName → Bytes := fun pmkid => pmkid.val

/-- A PMK-R1 in the cache (`struct wpa_ft_pmk_r1_sa`). -/
structure PmkR1Sa where
  pmkR1 : Pmk
  pmkR1Name : KeyName
  spa : Mac
  pairwise : UInt16
deriving DecidableEq

/-- The functions that a response can be handed to (`ft_pending_cb`). -/
inductive PendingCb
  /-- It is sent over the air (`handle_auth_ft_finish`). -/
  | authFtFinish
  /-- It is sent through the distribution system (`wpa_ft_rrb_rx_request_cb`). -/
  | rrbRxRequestCb
deriving DecidableEq

/-- The state machine of a station (`struct wpa_state_machine`, the part of fast transition). -/
structure Sm where
  addr : Mac
  pairwise : UInt16 := 0
  wpaKeyMgmt : KeyMgmt := .ieee8021x
  mgmtFrameProt : Bool := false
  ptk : Ptk := {}
  ptkValid : Bool := false
  pairwiseSet : Bool := false
  aNonce : Nonce := Octets.zero 32
  sNonce : Nonce := Octets.zero 32
  xxkey : Bytes := []
  pmkR1Name : KeyName := Octets.zero 16
  pmkR1NameValid : Bool := false
  r0khId : Bytes := []
  ftPendingReqIes : Option Bytes := none
  ftPendingPullNonce : Octets 16 := Octets.zero 16
  ftPendingCb : Option PendingCb := none
  /-- The request that waits will be processed again (`ft_pull_resp_cb_finish` is registered). -/
  ftPullFinish : Bool := false
  ftCompleted : Bool := false

/-- What the rest of the access point answers. -/
structure Answers where
  aNonce : Option Nonce := none
  pullNonce : Option (Octets 16) := none
  setKeyOk : Bool := true

/-- What happens to the pairwise key of a station. -/
inductive Effect
  /-- A request is accepted: a key is derived with this ANonce, which was drawn for it, and becomes
  the one of the station. -/
  | derived (aNonce : Nonce) (ptk : Ptk)
  /-- `wpa_ft_install_ptk` hands a temporal key to the driver, which takes it or not. -/
  | setKey (alg : Option Alg) (tk : Bytes) (ok : Bool)
deriving DecidableEq

/-! ## The cache -/

/-- The first PMK-R1 of a station with a name (`wpa_ft_fetch_pmk_r1`). -/
def fetchPmkR1 (cache : List PmkR1Sa) (spa : Mac) (pmkR1Name : KeyName) : Option PmkR1Sa :=
  cache.find? fun r1 => r1.spa == spa && r1.pmkR1Name == pmkR1Name

/-! ## Authentication requests -/

/-- Hand the pairwise key to the driver (`wpa_ft_install_ptk`). -/
def installPtk (setKeyOk : Bool) (sm : Sm) : Sm × List Effect :=
  match (Prims.cipherOfBit sm.pairwise).filter Cipher.validPairwise with
  | none => (sm, [])
  | some cipher =>
    let effects := [.setKey cipher.toAlg (sm.ptk.tk.takeD cipher.keyLen 0) setKeyOk]
    (if setKeyOk then { sm with pairwiseSet := true } else sm, effects)

/-- The outcome of an FT Authentication Request. -/
structure AuthResult where
  sm : Sm
  /-- The status of the response, none if the response has to wait for a PMK-R1. -/
  status : Option ℕ
  respIes : Bytes := []
  pull : Option (RemoteR0kh × PullData) := none
  effects : List Effect := []

/-- Ask the R0 key holder that the station names for a PMK-R1 (`wpa_ft_pull_pmk_r1`). -/
def pullPmkR1 (conf : Conf) (ans : Answers) (ies : Bytes) (pmkR0Name : KeyName) (sm : Sm) :
    AuthResult :=
  match conf.r0khList.find? fun r0kh => r0kh.id == sm.r0khId, ans.pullNonce with
  | some r0kh, some nonce =>
    { sm := { sm with ftPendingPullNonce := nonce, ftPendingReqIes := some ies }
      status := none
      pull := some (r0kh, { nonce, pmkR0Name, r1khId := conf.r1KeyHolder, s1khId := sm.addr }) }
  | _, _ => { sm, status := some statusInvalidPmkid }

/-- Derive and install a pairwise key and build the response, with the PMK-R1 at hand. -/
def acceptAuthReq (prims : Prims) (conf : Conf) (ans : Answers) (r1 : PmkR1Sa)
    (pmkR0Name : KeyName) (sm : Sm) : AuthResult :=
  let sm := { sm with pmkR1NameValid := true, pmkR1Name := r1.pmkR1Name }
  match ans.aNonce with
  | none => { sm, status := some statusUnspecifiedFailure }
  | some aNonce =>
    let ptk := prims.pmkR1ToPtk r1.pmkR1 sm.sNonce aNonce sm.addr conf.addr sm.wpaKeyMgmt
      r1.pairwise
    let sm := { sm with aNonce, ptk, pairwise := r1.pairwise, ptkValid := true }
    let (sm, effects) := installPtk ans.setKeyOk sm
    { sm
      status := some statusSuccess
      respIes := conf.rsnIe pmkR0Name ++ writeMdie conf.mobilityDomain conf.ftOverDs ++
        writeFtie sm.r0khId conf.r1KeyHolder sm.aNonce sm.sNonce
      effects := .derived aNonce ptk :: effects }

/-- The mobility domain of a request is the one of the access point. -/
def validMdie (conf : Conf) (parse : FtIes) : Bool :=
  parse.mdie.any fun mdie => 3 ≤ mdie.length && mdie.take 2 == conf.mobilityDomain.val

/-- The fast transition element of a request, if it is complete. -/
def validFtie (parse : FtIes) : Option Bytes := parse.ftie.filter (ftieLen ≤ ·.length)

/-- Process the elements of an FT Authentication Request (`wpa_ft_process_auth_req`). -/
def processAuthReq (prims : Prims) (conf : Conf) (cache : List PmkR1Sa) (ans : Answers)
    (ies : Bytes) (sm : Sm) : AuthResult :=
  let sm := { sm with pmkR1NameValid := false }
  match parseIes ies with
  | none => { sm, status := some statusUnspecifiedFailure }
  | some parse =>
    if !validMdie conf parse then { sm, status := some statusInvalidMdie }
    else
      match validFtie parse with
      | none => { sm, status := some statusInvalidFtie }
      | some ftie =>
        let sm := { sm with sNonce := ftieSNonce ftie }
        match parse.r0khId with
        | none => { sm, status := some statusInvalidFtie }
        | some r0khId =>
          let sm := { sm with r0khId }
          match parse.rsnPmkid with
          | none => { sm, status := some statusInvalidPmkid }
          | some pmkid =>
            let pmkR0Name := Octets.ofList 16 pmkid
            let pmkR1Name := prims.derivePmkR1Name pmkR0Name conf.r1KeyHolder sm.addr
            match fetchPmkR1 cache sm.addr pmkR1Name with
            | none => pullPmkR1 conf ans ies pmkR0Name sm
            | some r1 => acceptAuthReq prims conf ans r1 pmkR0Name sm

/-! ## Reassociation requests -/

/-- The elements of a Reassociation Request that the checks compare. -/
structure ReassocIes where
  mdie : Bytes
  ftie : Bytes
  rsn : Bytes
  ric : Option Bytes

/-- Require a condition, with the status of the refusal. -/
def require (cond : Bool) (status : ℕ) : Except ℕ Unit := if cond then .ok () else .error status

/-- The checks of a Reassociation Request before its MIC, in the order of the source. -/
def checkReassocIes (conf : Conf) (sm : Sm) (ies : Bytes) : Except ℕ ReassocIes := do
  let parse ← (parseIes ies).elim (.error statusUnspecifiedFailure) .ok
  let rsn ← parse.rsn.elim (.error statusUnspecifiedFailure) .ok
  let pmkid ← parse.rsnPmkid.elim (.error statusInvalidPmkid) .ok
  require (pmkid == sm.pmkR1Name.val) statusInvalidPmkid
  require (validMdie conf parse) statusInvalidMdie
  let ftie ← (validFtie parse).elim (.error statusInvalidFtie) .ok
  require (ftieSNonce ftie == sm.sNonce) statusMinusOne
  require (ftieANonce ftie == sm.aNonce) statusMinusOne
  require (parse.r0khId == some sm.r0khId) statusMinusOne
  require (parse.r1khId == some conf.r1KeyHolder.val) statusMinusOne
  let ric := parse.ric.getD []
  require (ftieCount ftie == 3 + ieCount ric.length ric) statusMinusOne
  return { mdie := parse.mdie.getD [], ftie, rsn, ric := parse.ric }

/-- Check the elements of a Reassociation Request; the status is success or that of the refusal
(`wpa_ft_validate_reassoc`). -/
def validateReassoc (prims : Prims) (conf : Conf) (sm : Sm) (ies : Bytes) : ℕ :=
  match checkReassocIes conf sm ies with
  | .error status => status
  | .ok parse =>
    match prims.ftMic sm.ptk.kck sm.addr conf.addr 5 (element 54 parse.mdie)
        (element 55 parse.ftie) (element 48 parse.rsn) parse.ric with
    | none => statusUnspecifiedFailure
    | some mic => if mic.val == ftieMic parse.ftie then statusSuccess else statusInvalidFtie

end Hostapd.Ft
