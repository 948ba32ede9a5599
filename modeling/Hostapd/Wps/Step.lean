import Hostapd.Foundation.Stepwise
import Hostapd.Wps.Session

/-!
# Wi-Fi Protected Setup: the steps of a session

What the handlers of the Enrollee and of the Registrar have in common (`wps_common.c`,
`wps_attr_build.c`, `wps_attr_process.c`). A step works on a session, on what it shares with others,
and on the entries that it adds to the history. A step that gives up in the middle leaves what it
has changed so far: its error is the state at that point.
-/

namespace Hostapd.Wps

open Wire Machine

/-- What a step works on; `reg` is shared with other sessions. -/
structure St (ρ : Type) where
  reg : ρ
  wps : Data
  out : List Entry := []

variable {ρ : Type} (prims : Prims) (s : St ρ)

def St.upd (f : Data → Data) : St ρ := { s with wps := f s.wps }

@[simp] lemma St.upd_reg (f : Data → Data) : (s.upd f).reg = s.reg := rfl

@[simp] lemma St.upd_wps (f : Data → Data) : (s.upd f).wps = f s.wps := rfl

@[simp] lemma St.upd_out (f : Data → Data) : (s.upd f).out = s.out := rfl

def St.tell (e : Entry) : St ρ := { s with out := e :: s.out }

def St.goto (state : State) : St ρ := { s with wps := { s.wps with state := state } }

/-- The state in which a WSC_NACK is sent next, for this error. -/
def St.refuse (configError : UInt16) : St ρ :=
  { s with wps := { s.wps with state := .sendWscNack, configError := configError } }

/-! ## Building messages -/

/-- The end of every message with Encrypted Settings: the settings are closed with their Key Wrap
Authenticator and encrypted. -/
def sealSettings (iv : Option Bytes) (plain : Bytes) : Except (St ρ) (Bytes × Bytes) := do
  let plain := buildKeyWrapAuth prims s.wps.authkey plain
  let iv ← need s iv
  return (plain, buildEncrSettings prims s.wps.keywrapkey iv plain)

/-- A WSC_MSG is sent and the session waits in `next`; the message is kept for the next
Authenticator. -/
def send (type : MsgType) (msg : Bytes) (settings : Option Bytes) (next : State) :
    St ρ × Option (OpCode × Bytes) :=
  let d := { s.wps with state := next, lastMsg := some msg }
  ((s.upd fun _ => d).tell (.sent type msg settings d), some (.msg, msg))

/-- A message that could not be built leaves what was changed on the way. -/
def orNone : Except (St ρ) (St ρ × Option (OpCode × Bytes)) → St ρ × Option (OpCode × Bytes)
  | .ok r => r
  | .error s => (s, none)

/-! ## Processing messages -/

/-- The own nonce must come back (`wps_process_enrollee_nonce`, `wps_process_registrar_nonce`), and
the Authenticator must be right (`wps_process_authenticator`). -/
def checkOwn (type : AttrType) (nonce : Bytes) (attrs : Attrs) (msg : Bytes) :
    Except (St ρ) Unit := do
  check s (attrs.get? type = some nonce)
  check s (authenticatorValid prims s.wps.authkey s.wps.lastMsg attrs msg)

/-- A secret nonce of the other side is compared with what it committed to. -/
def compareHash (second : Bool) (hash psk snonce : Bytes) : Except (St ρ) (St ρ) :=
  if hash = commitment prims s.wps.keys snonce psk then .ok (s.tell (.compared second true))
  else .error ((s.tell (.compared second false)).upd fun d => { d with configError := 18 })

/-- Whether a WSC_ACK, WSC_NACK or WSC_Done is of the right type and has both nonces. -/
def wscValid (d : Data) (type : MsgType) (attrs : Attrs) : Bool :=
  attrs.octet? .msgType = some type.code ∧ attrs.get? .registrarNonce = some d.nonceR ∧
    attrs.get? .enrolleeNonce = some d.nonceE

variable {prims s} {stopped Q : St ρ → Prop}

lemma meets_sealSettings (hs : stopped s) (iv : Option Bytes) (plain : Bytes) :
    Meets stopped (fun _ => True) (sealSettings prims s iv plain) :=
  meets_need hs fun _ _ => trivial

lemma orNone_of_meets {R : St ρ × Option (OpCode × Bytes) → Prop}
    {r : Except (St ρ) (St ρ × Option (OpCode × Bytes))} (h : Meets stopped R r)
    (hstop : ∀ u, stopped u → Q u) (hR : ∀ r, R r → Q r.1) : Q (orNone r).1 := by
  cases r with
  | error u => exact hstop u h
  | ok r => exact hR r h

lemma meets_checkOwn {type : AttrType} {nonce msg : Bytes} {attrs : Attrs}
    {f : Unit → Except (St ρ) (St ρ)} (hs : stopped s)
    (hf : authenticatorValid prims s.wps.authkey s.wps.lastMsg attrs msg → Meets stopped Q (f ())) :
    Meets stopped Q (checkOwn prims s type nonce attrs msg >>= f) := by
  unfold checkOwn
  rw [bind_assoc]
  exact meets_check hs fun _ => meets_check hs hf

end Hostapd.Wps
