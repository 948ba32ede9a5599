import Hostapd.Wps.Session
import Hostapd.Foundation.FirstMatch

/-!
# Wi-Fi Protected Setup: the PINs of a Registrar

The list of configured PINs of `wps_registrar.c` and the functions on it.  A PIN is configured for
one UUID-E or for any (a wildcard PIN); `wps_registrar_get_pin` locks the PIN it gives to a
session, and `wps_registrar_unlock_pin` and `wps_registrar_invalidate_pin` find the PIN again by
the UUID-E.  Each configured PIN has a number of its own here, by which the proofs follow it.
-/

namespace Hostapd.Wps

open Wire FirstMatch

/-- A configured PIN (`struct wps_uuid_pin`). -/
structure Pin where
  id : ℕ
  uuid : Bytes
  /-- 0 for a PIN of one UUID-E; for a wildcard PIN 1, and one more for each of two uses. -/
  wildcardUuid : ℕ
  pin : Bytes
  /-- `PIN_LOCKED`: a session has obtained it. -/
  locked : Bool := false
  expiration : Option ℕ := none

/-- The changing part of `struct wps_registrar`, with the configuration state of its context. -/
structure Registrar where
  pins : List Pin := []
  nextId : ℕ := 0
  nfcPwTokens : List NfcPwToken := []
  pbc : Bool := false
  forcePbcOverlap : Bool := false
  /-- Whether the context is in state `WPS_STATE_CONFIGURED`. -/
  configured : Bool := false

variable (uuid : Bytes)

namespace Registrar

/-- The PIN configured for exactly this UUID-E. -/
def isFor (p : Pin) : Bool := p.wildcardUuid = 0 ∧ p.uuid = uuid

/-- A wildcard PIN that may still be assigned. -/
def isFree (p : Pin) : Bool := p.wildcardUuid = 1 ∨ p.wildcardUuid = 2

/-- The PIN that carries this UUID-E, however it came to it. -/
def carries (p : Pin) : Bool := p.uuid = uuid

variable (reg : Registrar)

/-- `wps_registrar_invalidate_unused`: the first wildcard PIN that was never used is removed. -/
def invalidateUnused : Registrar :=
  { reg with pins := reg.pins.eraseP fun p => p.wildcardUuid = 1 ∧ p.locked = false }

/-- `wps_registrar_add_pin` at a time: a new PIN for a UUID-E, or for any. -/
def addPin (uuid : Option Bytes) (pin : Bytes) (now timeout : ℕ) : Registrar :=
  let p : Pin :=
    { id := reg.nextId, uuid := uuid.getD (List.replicate 16 0),
      wildcardUuid := if uuid = none then 1 else 0, pin := pin,
      expiration := if timeout = 0 then none else some (now + timeout) }
  let reg := if uuid = none then reg.invalidateUnused else reg
  { reg with pins := p :: reg.pins, nextId := reg.nextId + 1, pbc := false }

/-- `wps_registrar_expire_pins`. -/
def expirePins (now : ℕ) : Registrar :=
  { reg with pins := reg.pins.filter fun p => p.expiration.all (now ≤ ·) }

/-- `wps_registrar_invalidate_wildcard_pin`: the first wildcard PIN with this password, or the first
one at all, is removed. -/
def invalidateWildcardPin (devPw : Option Bytes) : Registrar :=
  { reg with pins := reg.pins.eraseP fun p => devPw.all (· = p.pin) ∧ p.wildcardUuid ≠ 0 }

/-- `wps_registrar_invalidate_pin`: the first PIN that carries the UUID-E is removed. -/
def invalidatePin : Registrar :=
  { reg with pins := reg.pins.eraseP (carries uuid) }

/-- `wps_registrar_unlock_pin`: the first PIN that carries the UUID-E is unlocked; a wildcard PIN
that has been assigned twice is removed. -/
def unlockPin : Registrar :=
  match reg.pins.find? (carries uuid) with
  | none => reg
  | some p =>
    if p.wildcardUuid = 3 then reg.invalidatePin uuid
    else
      { reg with pins := updateFirst (carries uuid) (fun p => { p with locked := false }) reg.pins }

/-- The PINs after one was looked up for a UUID-E: the PIN for that UUID-E is locked, and without
one the first wildcard PIN is assigned to the UUID-E and locked. -/
def lookUp (pins : List Pin) (uuid : Bytes) : List Pin × Option Pin :=
  match pins.find? (isFor uuid) with
  | some p => (updateFirst (isFor uuid) (fun p => { p with locked := true }) pins, some p)
  | none =>
    (updateFirst isFree
        (fun p => { p with wildcardUuid := p.wildcardUuid + 1, uuid := uuid, locked := true }) pins,
      pins.find? isFree)

/-- Two hexadecimal digits in upper case (`wpa_snprintf_hex_uppercase`). -/
def hexUppercase (b : UInt8) : Bytes :=
  [b / 16, b % 16].map fun n => if n < 10 then 48 + n else 55 + n

/-- `wps_registrar_add_nfc_pw_token`: a new token takes the place of those with its identifier, and
of all if that is 0.  One for connection handover is refused without a hash of the peer's public key
that was provided out of band. -/
def addNfcPwToken (pubkeyHash : Option Bytes) (pwId : UInt16) (devPw : Option Bytes)
    (pkHashProvidedOob alloc : Bool) : Registrar :=
  let devPw := devPw.getD []
  if 32 < devPw.length then reg
  else if h : pwId = 7 → pubkeyHash ≠ none ∧ pkHashProvidedOob then
    let tokens := reg.nfcPwTokens.filter fun t => ¬ (pwId = 0 ∨ t.pwId = pwId)
    if alloc = false then { reg with nfcPwTokens := tokens }
    else
      { reg with
        nfcPwTokens :=
          ⟨pubkeyHash, pwId, devPw.flatMap hexUppercase, pkHashProvidedOob, h⟩ :: tokens
        pbc := false }
  else reg

/-- `wps_registrar_get_pin` at a time: the PIN for a UUID-E, none if it is locked. -/
def getPin (now : ℕ) : Registrar × Option Pin :=
  let reg := reg.expirePins now
  let r := lookUp reg.pins uuid
  ({ reg with pins := r.1 }, r.2.filter fun p => p.locked = false)

end Registrar

end Hostapd.Wps
