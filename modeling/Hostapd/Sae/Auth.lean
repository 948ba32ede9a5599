import Hostapd.Foundation.Machine
import Hostapd.Sae.Common

/-!
# The access point's side of an SAE exchange

The state machine of `src/ap/ieee802_11.c` for one station: `handle_auth_sae` and what it calls, the
retransmission timer, and the start of an exchange by a mesh point.

A frame comes with the answers of everything outside the exchange (`Answers`): the search for the
password element, the random numbers, whether a token is necessary and right and whether the driver
sends what it is given. The history is a list with the latest entry first; nothing in the code reads
it.
-/

namespace Hostapd.Sae

open Wire

variable {El : Type}

/-- An entry of the history. -/
inductive Entry (El : Type)
  /-- `sae_process_commit` has succeeded for these values of the peer and has given this KCK. -/
  | derived (peerScalar : ℕ) (peerElement : El) (kck : Octets 32)
  | computed (kck : Option (Octets 32))
  /-- `sae_check_confirm` has succeeded while these values of the peer were stored. -/
  | checked (peerScalar : Option ℕ) (peerElement : Option El) (kck : Option (Octets 32))
  /-- The state has become accepted while these values of the peer were stored. -/
  | accepted (peerScalar : Option ℕ) (peerElement : Option El) (kck : Option (Octets 32))
deriving DecidableEq

/-- What does not change during an exchange. -/
structure Env (El : Type) where
  lib : Groups El
  hashes : Hashes
  mesh : Bool
  saeGroups : Option (List ℕ)
  passphrase : Bool

/-- What the outside answers to a frame. -/
structure Answers (El : Type) where
  /-- What `sae_derive_pwe_ecc` or `sae_derive_pwe_ffc` stores, and whether it succeeds. -/
  pwe : Option El × Bool
  /-- The octets of `random_get_bytes`. -/
  draw : ℕ → Option Bytes
  antiClogging : Bool
  tokenOk : Bool
  commitSent : Bool
  confirmSent : Bool

/-- The data of a station that has an exchange. -/
structure Exchange (El : Type) where
  sae : SaeData El := {}
  timer : Bool := false
  log : List (Entry El) := []

/-- `struct sta_info`. -/
structure Sta (El : Type) where
  hasSae : Bool := false
  exchange : Exchange El := {}
  addedUnassoc : Bool := false

/-! ## Frames that are sent -/

/-- `sae_prepare_commit`. -/
def saePrepareCommit (ans : Answers El) (d : SaeData El) : Except SaeFault (SaeData El × Bool) :=
  match d.tmp with
  | none => .ok (d, false)
  | some t =>
    let t := { t with pwe := ans.pwe.1 <|> t.pwe }
    if t.group.isSome && !ans.pwe.2 then
      .ok ({ d with tmp := some t }, false)
    else do
      let r ← saeDeriveCommit ans.draw t
      .ok ({ d with tmp := some r.1 }, r.2)

/-- The end of `auth_sae_send_commit`: the commit is written and sent. -/
def sendWritten (ans : Answers El) (d : SaeData El) : Except SaeFault (SaeData El × Status) := do
  let _ ← saeWriteCommit d (d.tmp.bind Tmp.antiCloggingToken)
  .ok (d, if ans.commitSent then .success else .failed)

variable (env : Env El) (ans : Answers El) (d : SaeData El)

/-- `auth_sae_send_commit`. -/
def authSaeSendCommit (update : Bool) : Except SaeFault (SaeData El × Status) :=
  if !env.passphrase then
    .ok (d, .unspecifiedFailure)
  else if update then do
    let r ← saePrepareCommit ans d
    if r.2 then sendWritten ans r.1 else .ok (r.1, .unspecifiedFailure)
  else
    sendWritten ans d

def SaeData.kck : Option (Octets 32) := d.tmp.bind Tmp.kck

def SaeData.peerElement : Option El := d.tmp.bind Tmp.peerCommitElement

variable (x : Exchange El)

/-- A confirm has been calculated, which needs temporary data. -/
def Exchange.computed : Exchange El :=
  if x.sae.tmp.isSome then { x with log := .computed x.sae.kck :: x.log } else x

/-- `auth_sae_send_confirm`. -/
def authSaeSendConfirm : Except SaeFault (Exchange El × Status) := do
  let r ← saeWriteConfirm env.hashes x.sae
  .ok ({ x.computed with sae := r.1 }, if ans.confirmSent then .success else .failed)

/-! ## Steps of the state machine -/

/-- `sae_check_big_sync` finds too many attempts. -/
def bigSync : Bool := decide (5 < d.sync)

/-- What `sae_check_big_sync` does then. -/
def giveUp : SaeData El := { d with state := .nothing, sync := 0 }

def setRetransmitTimer : Exchange El :=
  if env.mesh then { x with timer := true } else x

/-- `sae_accept_sta`. -/
def saeAcceptSta : Exchange El :=
  { x with
    sae := { x.sae with state := .accepted }
    log := .accepted x.sae.peerCommitScalar x.sae.peerElement x.sae.kck :: x.log }

/-- `sae_sm_step` for a commit, up to the call of `sae_process_commit`; a status ends the step
before it.  In the accepted state the station is freed and its address read after that. -/
def beforeProcess : Except SaeFault (Exchange El × Option Status) :=
  match x.sae.state with
  | .nothing => do
    let r ← authSaeSendCommit env ans x.sae true
    if r.2 = .success then
      .ok ({ x with sae := { r.1 with state := .committed } }, none)
    else
      .ok ({ x with sae := r.1 }, some r.2)
  | .committed => .ok ({ x with timer := false }, none)
  | .confirmed =>
    if bigSync x.sae then
      .ok ({ x with timer := false, sae := giveUp x.sae }, some .success)
    else do
      let r ← authSaeSendCommit env ans { x.sae with sync := x.sae.sync + 1 } true
      if r.2 = .success then
        .ok ({ x with timer := false, sae := r.1 }, none)
      else
        .ok ({ x with timer := false, sae := r.1 }, some r.2)
  | .accepted => .error .useAfterFree

/-- `sae_sm_step` for a commit, after `sae_process_commit` has succeeded; the state at its beginning
is `start`. -/
def afterProcess (start : SaeState) (x : Exchange El) : Except SaeFault (Exchange El × Status) :=
  if start = .nothing ∧ env.mesh = false then
    .ok ({ x with sae := { x.sae with sync := 0 } }, .success)
  else do
    let r ← authSaeSendConfirm env ans x
    if r.2 = .success then
      if start = .confirmed then
        .ok (setRetransmitTimer env r.1, .success)
      else
        .ok (setRetransmitTimer env { r.1 with
          sae := { r.1.sae with state := .confirmed, sync := 0 } }, .success)
    else
      .ok r

/-- The history after `sae_process_commit` has succeeded. -/
def Exchange.derived (d : SaeData El) : Exchange El :=
  match d.peerCommitScalar, d.peerElement, d.kck with
  | some s, some e, some kck => { x with sae := d, log := .derived s e kck :: x.log }
  | _, _, _ => { x with sae := d }

/-- `sae_sm_step` for a commit. -/
def smStepCommit : Except SaeFault (Exchange El × Status) := do
  let r ← beforeProcess env ans x
  match r.2 with
  | some status => .ok (r.1, status)
  | none => do
    let processed ← saeProcessCommit env.hashes r.1.sae
    match processed with
    | none => .ok (r.1, .unspecifiedFailure)
    | some d => afterProcess env ans x.sae.state (r.1.derived d)

/-- `sae_sm_step` for a confirm. -/
def smStepConfirm : Except SaeFault (Exchange El × Status) :=
  match x.sae.state with
  | .nothing => .ok (x, .success)
  | .committed =>
    if env.mesh then
      if bigSync x.sae then
        .ok ({ x with timer := false, sae := giveUp x.sae }, .success)
      else do
        let r ← authSaeSendCommit env ans { x.sae with sync := x.sae.sync + 1 } false
        if r.2 = .success then
          .ok (setRetransmitTimer env { x with timer := false, sae := r.1 }, .success)
        else
          .ok ({ x with timer := false, sae := r.1 }, r.2)
    else do
      let r ← authSaeSendConfirm env ans { x with timer := false }
      -- The step is run once more, which takes the exchange from confirmed to accepted.
      if r.2 = .success then
        .ok (saeAcceptSta r.1, .success)
      else
        .ok r
  | .confirmed => .ok (saeAcceptSta { x with timer := false }, .success)
  | .accepted =>
    if bigSync x.sae then
      .ok ({ x with sae := giveUp x.sae }, .success)
    else do
      let r ← authSaeSendConfirm env ans { x with sae := { x.sae with sync := x.sae.sync + 1 } }
      .ok ({ r.1 with sae := saeClearTempData r.1.sae }, r.2)

/-! ## Frames that are received -/

/-- What `handle_auth_sae` does with a commit before `sae_sm_step`; a status ends the handling. -/
def commitReceived [DecidableEq El] (env : Env El) (ans : Answers El) (d : SaeData El)
    (body : Bytes) : SaeData El × Option Status :=
  let parsed := saeParseCommit env.lib env.saeGroups d body
  if parsed.2.1 = .silentlyDiscard then
    (parsed.1, some .silentlyDiscard)
  else if parsed.2.2.isSome && !ans.tokenOk then
    (parsed.1, some .unspecifiedFailure)
  else if parsed.2.1 ≠ .success then
    (parsed.1, some parsed.2.1)
  else if parsed.2.2.isNone && ans.antiClogging then
    (if env.mesh then { parsed.1 with state := .nothing } else parsed.1, some .antiCloggingTokenReq)
  else
    (parsed.1, none)

/-- The handling of a request for a token by a mesh point. -/
def tokenRequested (body : Bytes) : Except SaeFault (Exchange El × Option Status) :=
  match body with
  | lo :: hi :: token =>
    let r := saeGroupAllowed env.lib env.saeGroups x.sae (getLe16 lo hi)
    if r.2 = .success then do
      let d := { r.1 with
        tmp := r.1.tmp.map fun t => { t with antiCloggingToken := some token } }
      let sent ← authSaeSendCommit env ans d false
      if sent.2 = .success then
        .ok (setRetransmitTimer env { x with
          sae := { sent.1 with state := .committed, sync := 0 } }, none)
      else
        .ok ({ x with sae := sent.1 }, some sent.2)
    else
      .ok ({ x with sae := r.1 }, some r.2)
  | _ => .ok (x, some .unspecifiedFailure)

/-- The loop of `sae_pick_next_group` over the groups behind the one in use. -/
def pickGroup (lib : Groups El) : SaeData El → List ℕ → SaeData El
  | d, [] => d
  | d, group :: groups =>
    let r := saeSetGroup lib d group
    if r.2 then r.1 else pickGroup lib r.1 groups

/-- `sae_pick_next_group`. -/
def saePickNextGroup : SaeData El :=
  if d.state = .committed then
    match env.saeGroups with
    | none => d
    | some groups => pickGroup env.lib d ((groups.dropWhile (· ≠ d.group)).drop 1)
  else
    d

/-- `handle_auth_sae` for the first transaction, with the value of `resp` if it reaches its end. -/
def handleCommit [DecidableEq El] (env : Env El) (ans : Answers El) (x : Exchange El)
    (status : Status) (body : Bytes) : Except SaeFault (Exchange El × Option Status) :=
  if env.mesh && decide (status = .antiCloggingTokenReq) && x.sae.tmp.isSome then
    tokenRequested env ans x body
  else if env.mesh && decide (status = .finiteCyclicGroupNotSupported) && x.sae.tmp.isSome then
    .ok ({ x with sae := saePickNextGroup env x.sae }, some .success)
  else if status ≠ .success then
    .ok (x, some .success)
  else
    match commitReceived env ans x.sae body with
    | (d, some resp) => .ok ({ x with sae := d }, some resp)
    | (d, none) => do
      let r ← smStepCommit env ans { x with sae := d }
      .ok (r.1, some r.2)

/-- A confirm was verified. -/
def Exchange.checked : Exchange El :=
  { x with log := .checked x.sae.peerCommitScalar x.sae.peerElement x.sae.kck :: x.log }

/-- `handle_auth_sae` for the second transaction, with the value of `resp` at its end. -/
def handleConfirm (status : Status) (body : Bytes) : Except SaeFault (Exchange El × Status) :=
  if status ≠ .success then
    .ok (x, .success)
  else if x.sae.state = .confirmed ∨ x.sae.state = .accepted ∨ env.mesh = false then do
    let verified ← saeCheckConfirm env.hashes x.sae body
    let x := if body.length < 2 + 32 then x else x.computed
    if verified then smStepConfirm env ans x.checked else .ok (x, .unspecifiedFailure)
  else
    smStepConfirm env ans x

/-- The end of `handle_auth_sae`, at `remove_sta`. -/
def removeSta (sta : Sta El) (resp status : Status) : Sta El :=
  if sta.addedUnassoc && (decide (resp ≠ .success) || decide (status ≠ .success)) then
    { sta with addedUnassoc := false }
  else
    sta

/-- `handle_auth_sae`. -/
def handleAuthSae [DecidableEq El] (env : Env El) (ans : Answers El) (sta : Sta El)
    (transaction : ℕ) (status : Status) (body : Bytes) : Except SaeFault (Sta El) :=
  if !sta.hasSae && (decide (transaction ≠ 1) || decide (status ≠ .success)) then
    .ok (removeSta sta .failed status)
  else if transaction = 1 then do
    let r ← handleCommit env ans sta.exchange status body
    let sta := { sta with hasSae := true, exchange := r.1 }
    .ok (r.2.elim sta fun resp => removeSta sta resp status)
  else if transaction = 2 then do
    let r ← handleConfirm env ans sta.exchange status body
    .ok (removeSta { sta with hasSae := true, exchange := r.1 } r.2 status)
  else
    .ok (removeSta sta (if status = .success then .unknownAuthTransaction else .success) status)

/-! ## Timer and start -/

/-- `auth_sae_retransmit_timer`. -/
def authSaeRetransmitTimer : Except SaeFault (Exchange El) :=
  if bigSync x.sae then
    .ok { x with timer := false, sae := giveUp x.sae }
  else
    let x := { x with timer := false, sae := { x.sae with sync := x.sae.sync + 1 } }
    match x.sae.state with
    | .committed => do
      let r ← authSaeSendCommit env ans x.sae false
      .ok { x with timer := true, sae := r.1 }
    | .confirmed => do
      let r ← authSaeSendConfirm env ans x
      .ok { r.1 with timer := true }
    | _ => .ok x

/-- `auth_sae_init_committed`. -/
def authSaeInitCommitted : Except SaeFault (Exchange El) :=
  if x.sae.tmp.isNone || decide (x.sae.state ≠ .nothing) then
    .ok x
  else do
    let r ← authSaeSendCommit env ans x.sae false
    if r.2 = .success then
      .ok (setRetransmitTimer env { x with
        sae := { r.1 with state := .committed, sync := 0 } })
    else
      .ok { x with sae := r.1 }

/-- `mesh_rsn_sae_group` over the groups that have not been tried. -/
def meshRsnSaeGroup (lib : Groups El) : SaeData El → List ℕ → SaeData El × Bool
  | d, [] => (d, false)
  | d, group :: groups =>
    let r := saeSetGroup lib d group
    if r.2 then r else meshRsnSaeGroup lib r.1 groups

/-- `mesh_rsn_auth_sae_sta` for a peer without a cached key. -/
def meshRsnAuthSaeSta (groups : List ℕ) : Except SaeFault (Exchange El) :=
  if !env.passphrase then
    .ok x
  else
    let r := meshRsnSaeGroup env.lib x.sae groups
    if !r.2 then
      .ok { x with sae := r.1 }
    else do
      let prepared ← saePrepareCommit ans r.1
      if prepared.2 then
        authSaeInitCommitted env ans { x with sae := prepared.1 }
      else
        .ok { x with sae := prepared.1 }

/-- What happens to a station. -/
inductive Event (El : Type)
  | frame (transaction : ℕ) (status : Status) (body : Bytes) (ans : Answers El)
  | timer (ans : Answers El)
  | start (groups : List ℕ) (ans : Answers El)

/-- One event. -/
def step [DecidableEq El] (env : Env El) (sta : Sta El) : Event El → Except SaeFault (Sta El)
  | .frame transaction status body ans => handleAuthSae env ans sta transaction status body
  | .timer ans =>
    if sta.exchange.timer then do
      let x ← authSaeRetransmitTimer env ans sta.exchange
      .ok { sta with exchange := x }
    else
      .ok sta
  | .start groups ans =>
    if env.mesh then do
      let x ← meshRsnAuthSaeSta env ans sta.exchange groups
      .ok { sta with hasSae := true, exchange := x }
    else
      .ok sta

end Hostapd.Sae
