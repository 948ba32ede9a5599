import Hostapd.Erp.Parties

/-!
# Data of the EAP server machine

`src/eap_server/eap_server.c`: the full authenticator, its passthrough to an authentication server
and re-authentication. Methods are arbitrary functions of their private data and of the variables of
the machine that they read and write; whatever else they read and write is a `W`.

The history records when the machine was initialised, on what grounds it reported success, and when
the port machines, which share the interface record, were restarted and authenticated.
-/

namespace Hostapd.EapServer

open Wire Eap List

/-! ## Types -/

/-- The states of the machine. -/
inductive EapState
  | disabled
  | initialise
  | idle
  | received
  | integrityCheck
  | methodResponse
  | methodRequest
  | proposeMethod
  | selectAction
  | sendRequest
  | discard
  | nak
  | retransmit
  | success
  | failure
  | timeoutFailure
  | pickUpMethod
  | initialisePassthrough
  | idle2
  | retransmit2
  | received2
  | discard2
  | sendRequest2
  | aaaRequest
  | aaaResponse
  | aaaIdle
  | timeoutFailure2
  | failure2
  | success2
  | initiateReauthStart
  | initiateReceived
deriving DecidableEq

/-- The progress of a method (`methodState`). -/
inductive MethodState
  | proposed
  | continues
  | ended
deriving DecidableEq

/-- What the policy decides (`decision`). -/
inductive Decision
  | success
  | failure
  | continues
  | passthrough
  | initiateReauthStart

/-- Whether a method is waited for (`method_pending`). -/
inductive MethodPending
  | none
  | wait
  | cont
deriving DecidableEq

/-- A read outside a packet, or a loop without end. -/
inductive Fault
  | memory (f : Wire.Fault)
  | endless

def lift {α : Type} : Checked α → Except Fault α
  | .ok a => .ok a
  | .error f => .error (.memory f)

lemma lift_eq_ok {α : Type} {x : Checked α} {a : α} : lift x = .ok a ↔ x = .ok a := by
  cases x with
  | error f => exact ⟨nofun, nofun⟩
  | ok b => simp [lift]

def maxAuthRounds : ℕ := 50

def maxMethods : ℕ := 8

/-- `struct eap_user`, as far as the machine itself uses it. -/
structure User where
  /-- `methods`: the vendors and types before the zeros that end the array. -/
  methods : List (UInt32 × UInt32)
  length_le : methods.length ≤ maxMethods
  zero_notMem : (0, 0) ∉ methods
  phase2 : Bool := false

/-- The variables of the machine that methods write. -/
structure MethodVars (W : Type) where
  identity : Option Bytes := none
  user : Option User := none
  userEapMethodIndex : ℕ := 0
  updateUser : Bool := false
  methodPending : MethodPending := .none
  maxRetrans : ℕ := 5
  world : W

/-- `struct eap_method`; the functions that a method can do without are optional. -/
structure EapMethod (W P : Type) where
  vendor : UInt32
  method : UInt32
  /-- `init`, which can fail. -/
  init : MethodVars W → Option P × MethodVars W
  /-- `initPickUp`, which can fail. -/
  initPickUp : Option (MethodVars W → Option P × MethodVars W) := none
  buildReq : P → MethodVars W → UInt8 → Option Bytes × P × MethodVars W
  getTimeout : Option (P → ℕ) := none
  /-- `check`: the response is to be dropped. -/
  check : Option (P → MethodVars W → Bytes → Bool) := none
  process : P → MethodVars W → Bytes → P × MethodVars W
  isDone : P → Bool
  isSuccess : P → Bool
  getKey : Option (P → Option Bytes) := none
  getSessionId : Option (P → Option Bytes) := none
  getEmsk : Option (P → Option Bytes) := none

/-- `struct eap_eapol_interface`. -/
structure EapIf where
  eapResp : Bool := false
  eapRespData : Option Bytes := none
  portEnabled : Bool := false
  retransWhile : ℕ := 0
  eapRestart : Bool := false
  eapReq : Bool := false
  eapNoReq : Bool := false
  eapSuccess : Bool := false
  eapFail : Bool := false
  eapTimeout : Bool := false
  eapReqData : Option Bytes := none
  eapKeyData : Option Bytes := none
  eapSessionId : Option Bytes := none
  eapKeyAvailable : Bool := false
  aaaEapReq : Bool := false
  aaaEapNoReq : Bool := false
  aaaSuccess : Bool := false
  aaaFail : Bool := false
  aaaEapReqData : Option Bytes := none
  aaaEapKeyData : Option Bytes := none
  aaaEapKeyAvailable : Bool := false
  aaaMethodTimeout : ℕ := 0
  aaaEapResp : Bool := false
  aaaEapRespData : Option Bytes := none
  aaaTimeout : Bool := false

/-- What `eap_sm_parseEapResp` leaves. -/
structure Rx where
  rxResp : Bool := false
  rxInitiate : Bool := false
  respId : ℤ := -1
  respMethod : UInt32 := 0
  respVendor : UInt32 := eapVendorIetf
  respVendorMethod : UInt32 := 0

/-- What the history of a port records, the latest entries first. -/
inductive Entry
  /-- `AUTH_PAE` has entered `RESTART`. -/
  | restart
  /-- `EAP` has entered `INITIALIZE`. -/
  | initialised
  /-- `EAP` has entered `SUCCESS`, where the current method reports this as its success. -/
  | success (isSuccess : Bool)
  /-- `EAP` has entered `AAA_IDLE`. -/
  | aaaIdle
  | aaaSuccess
  /-- `EAP` has entered `SUCCESS2`. -/
  | success2
  /-- An EAP-Initiate/Re-auth packet was accepted with one of the keys and a tag of some length. -/
  | reauthenticated (keys : List Erp.ServerKey) (key : Erp.ServerKey) (packet : Bytes)
    (hashLen : ℕ)
  /-- `AUTH_PAE` has entered `AUTHENTICATED`. -/
  | authenticated
deriving DecidableEq

/-- `struct eap_sm`.  The method is stored together with its private data: whenever one of them is
cleared the other is. -/
structure EapSm (W P : Type) where
  state : EapState := .disabled
  eapIf : EapIf := {}
  currentMethod : UInt32 := 0
  currentId : ℤ := 0
  methodState : MethodState := .proposed
  retransCount : ℕ := 0
  lastReqData : Option Bytes := none
  methodTimeout : ℕ := 0
  rx : Rx := { respId := 0 }
  ignore : Bool := false
  decision : Decision := .success
  m : Option (EapMethod W P × P) := none
  vars : MethodVars W
  changed : Bool := false
  lastId : ℤ := 0
  numRounds : ℕ := 0
  startReauth : Bool := false
  initiateReauthStartSent : Bool := false
  tryInitiateReauth : Bool := false
  erpKeys : List Erp.ServerKey := []
  log : List Entry := []

/-- What the machine is built and configured with. -/
structure Env (W P : Type) where
  methods : List (EapMethod W P)
  /-- `get_eap_user` for the first phase. -/
  getEapUser : W → Bytes → Option User
  rand : W → UInt8 × W
  crypto : Erp.Crypto
  eapServer : Bool
  backendAuth : Bool := false
  erp : Bool := false
  erpSendReauthStart : Bool := false
  erpDomain : Option Bytes := none

/-! ## Packets -/

def number (type : UInt8) : UInt32 := type.toUInt32

def idOctet (id : ℤ) : UInt8 := UInt8.ofNat (id % 256).toNat

/-- The type behind the header of a response, whose length field gives `plen`. -/
def Rx.typed (rx : Rx) (resp : Bytes) (plen : ℕ) : Rx :=
  if plen ≤ sizeofEapHdr then rx
  else if resp.getD 4 0 = eapTypeExpanded ∧ sizeofEapHdr + 8 ≤ plen then
    { rx with
      respMethod := number (resp.getD 4 0)
      respVendor := UInt32.ofNat (beNat ((resp.drop 5).take 3))
      respVendorMethod := ofBe32 (resp.drop 8) }
  else
    { rx with respMethod := number (resp.getD 4 0) }

/-- `eap_sm_parseEapResp`.  What is read lies in the octets that the length field gives, which are
there. -/
def parseEapResp (resp : Option Bytes) : Rx :=
  match resp with
  | none => {}
  | some resp =>
    let plen := (ofBe16 (resp.drop 2)).toNat
    if resp.length < sizeofEapHdr ∨ resp.length < plen then {}
    else
      Rx.typed
        { rxResp := decide (resp.getD 0 0 = 2)
          rxInitiate := decide (resp.getD 0 0 = Erp.codeInitiate)
          respId := (resp.getD 1 0).toNat } resp plen

/-- `eap_sm_getId`. -/
def getId (data : Option Bytes) : ℤ :=
  match data with
  | none => -1
  | some data => if data.length < sizeofEapHdr then -1 else (data.getD 1 0).toNat

def headerOnly (code id : UInt8) : Bytes := [code, id] ++ be16 4

def buildSuccess (id : ℤ) : Bytes := headerOnly 3 (idOctet id)

def buildFailure (id : ℤ) : Bytes := headerOnly 4 (idOctet id)

/-- `eap_sm_buildInitiateReauthStart`. -/
def buildInitiateReauthStart (domain : Option Bytes) (id : ℤ) : Bytes :=
  let payload := 0 :: domain.elim [] fun d =>
    [Erp.tlvDomainName, UInt8.ofNat d.length] ++ d
  [Erp.codeInitiate, idOctet id] ++ be16 (UInt16.ofNat (sizeofEapHdr + 1 + payload.length)) ++
    Erp.typeReauthStart :: payload

/-- The list of a Nak response that has room for a type, unless the response has another type. -/
def nakList (resp : Bytes) : Option Bytes :=
  let pos := (resp.take (ofBe16 (resp.drop 2)).toNat).drop sizeofEapHdr
  if pos.getD 0 0 = typeNak then some (pos.drop 1) else none

/-- The name of the key in an EAP-Initiate/Re-auth packet, which is forwarded with it as the
identity of the user. -/
def keynameOf : Option Erp.ErpTlvs → Option Bytes
  | some ⟨some (keyname, _), _⟩ => if 253 < keyname.length then none else some keyname
  | _ => none

/-- `INITIATE_RECEIVED` up to the name of the key. -/
def initiateKeyname (msg : Option Bytes) : Checked (Option Bytes) :=
  match msg.bind (eapHdrValidate eapVendorIetf 2) with
  | none => .ok none
  | some payload =>
    if payload.length < 4 then
      .ok none
    else do
      let tlvs ← advance payload 3
      let parsed ← Erp.erpParseTlvs tlvs true
      .ok (keynameOf parsed)

/-- The response is a Nak. -/
def Rx.IsNak (rx : Rx) : Prop :=
  rx.respMethod = number typeNak ∨
    (rx.respMethod = number eapTypeExpanded ∧ rx.respVendor = eapVendorIetf ∧
      rx.respVendorMethod = number typeNak)

/-- The response is of a method. -/
def Rx.IsOf (rx : Rx) (method : UInt32) : Prop :=
  rx.respMethod = method ∨
    (rx.respMethod = number eapTypeExpanded ∧ rx.respVendor = eapVendorIetf ∧
      rx.respVendorMethod = method)

instance (rx : Rx) : Decidable rx.IsNak := inferInstanceAs (Decidable (_ ∨ _))

instance (rx : Rx) (method : UInt32) : Decidable (rx.IsOf method) :=
  inferInstanceAs (Decidable (_ ∨ _))

/-! ## Methods and users -/

/-- An entry of the list of methods. -/
def User.at? (user : Option User) (idx : ℕ) : Option (UInt32 × UInt32) :=
  user.bind fun u => u.methods[idx]?

/-- A method of the list stays: the peer has named its type. -/
def kept (nak : Bytes) (m : UInt32 × UInt32) : Bool :=
  decide (m.1 = eapVendorIetf) && nak.any fun t => decide (number t = m.2)

/-- `eap_sm_process_nak`: of the methods from this index on, those that the peer did not name leave
the list. -/
def User.processNak (user : User) (idx : ℕ) (nak : Bytes) : User :=
  { user with
    methods := user.methods.take idx ++ (user.methods.drop idx).filter (kept nak)
    length_le := by
      have h := length_filter_le (kept nak) (user.methods.drop idx)
      have hle := user.length_le
      simp only [length_append, length_take, length_drop] at h ⊢
      omega
    zero_notMem := by
      intro h
      rcases mem_append.1 h with h | h
      · exact user.zero_notMem (mem_of_mem_take h)
      · exact user.zero_notMem (mem_of_mem_drop (mem_of_mem_filter h)) }

/-- The identity is the first method. -/
def identityFirst (user : Option User) : Bool :=
  decide (User.at? user 0 = some (eapVendorIetf, number typeIdentity))

variable {W P : Type}

/-- `eap_server_get_eap_method`. -/
def Env.getEapMethod (env : Env W P) (vendor method : UInt32) : Option (EapMethod W P) :=
  env.methods.find? fun m => decide (m.vendor = vendor ∧ m.method = method)

end Hostapd.EapServer
