import Hostapd.Foundation.History
import Hostapd.Wps.Step

/-!
# Wi-Fi Protected Setup: evidence in the history of a session

What a session has to have seen before it gives a secret away, said about the messages that came in,
with the keys of the session:

* `Authenticated`: a message of a type whose Authenticator is right for the message sent last and
  the message itself;
* `Opens`: its Encrypted Settings decrypt, parse, and end in a valid Key Wrap Authenticator;
* `Reveals`: they hold a secret nonce which, with a half of the device password, gives the hash
  that was committed to before.

For the Enrollee as for the Registrar a `Role` says what has to precede an entry of the history and
what the history holds in each state; every step keeps both.
-/

namespace Hostapd.Wps

open Wire History Machine

variable (prims : Prims)

/-- A message of type `type` with these attributes came in, right after the message sent last, and
its Authenticator under `authkey` covers both. -/
def Authenticated (authkey : Bytes) (type : MsgType) (attrs : Attrs) (e : Entry)
    (older : List Entry) : Prop :=
  ∃ prev msg, e = .received .msg prev msg ∧ prev = lastSent older ∧ parseMsg msg = some attrs ∧
    attrs.octet? .msgType = some type.code ∧
    authenticatorValid prims authkey prev attrs msg

variable (k : Keys)

/-- The Encrypted Settings of a message are opened with the keys of a session: this includes their
Key Wrap Authenticator. -/
def Opens (attrs : Attrs) (plain : Bytes) (eattrs : Attrs) : Prop :=
  openSettings prims k attrs = some (plain, eattrs)

/-- The Encrypted Settings of a message hold the secret nonce that a hash and a PSK commit to. -/
def Reveals (attrs : Attrs) (t : AttrType) (hash psk : Bytes) : Prop :=
  ∃ plain eattrs snonce, Opens prims k attrs plain eattrs ∧ eattrs.get? t = some snonce ∧
    hash = commitment prims k snonce psk

/-- What a credential that was read from settings looks like. -/
inductive ReadFrom (plain : Bytes) (eattrs : Attrs) : Credential → Prop
  | credential {cred : Bytes} {c : Credential} (hmem : cred ∈ eattrs.values .cred)
      (hread : (parseMsg cred >>= processCred) = some c) :
      ReadFrom plain eattrs { c with credAttr := attr .cred cred }
  | apSettings {c c' : Credential} (hread : processApSettings eattrs = some c)
      (hssid : c'.ssid = c.ssid) (hkey : c'.key = c.key) (hmac : c'.macAddr = c.macAddr) :
      ReadFrom plain eattrs c'

/-- A credential came in the Encrypted Settings of an authenticated message, under the keys of the
session `d`. -/
def FromSettings (d : Data) (c : Credential) (older : List Entry) : Prop :=
  ∃ type attrs plain eattrs, Occurs (Authenticated prims d.authkey type attrs) older ∧
    Opens prims d.keys attrs plain eattrs ∧ ReadFrom plain eattrs c

/-- The PSKs of a session are those of its device password. -/
def HasPsks (d : Data) : Prop :=
  d.psk1 = psk1Of prims d.authkey (d.devPassword.getD []) ∧
    d.psk2 = psk2Of prims d.authkey (d.devPassword.getD [])

lemma meets_deriveKeys {prims : Prims} (d : Data) (pubkey : Option Bytes) :
    Meets (fun d' => d' = d)
      (fun d' => ∃ authkey keywrapkey, d' =
        { d with dhPrivkey := none, authkey := authkey, keywrapkey := keywrapkey })
      (deriveKeys prims d pubkey) := by
  unfold deriveKeys
  split
  · split
    · exact .refl _
    · exact ⟨_, _, .refl _⟩
  · exact .refl _

/-! ## The Enrollee's proof, as the Registrar sees it -/

/-- M3 has come, and with it the hashes that the Enrollee commits to. -/
def CommittedE (hash1 hash2 : Bytes) (log : List Entry) : Prop :=
  Occurs (fun e older => ∃ attrs, Authenticated prims k.authkey .m3 attrs e older ∧
    attrs.get? .eHash1 = some hash1 ∧ attrs.get? .eHash2 = some hash2) log

variable (password hash1 hash2 : Bytes) (log : List Entry)

/-- M5 has come after M3, with an E-S1 that gives E-Hash1 under the PSK of the first half of the
device password. -/
def ProvedE1 : Prop :=
  Occurs (fun e older => ∃ attrs, Authenticated prims k.authkey .m5 attrs e older ∧
    Reveals prims k attrs .eSnonce1 hash1 (psk1Of prims k.authkey password) ∧
    CommittedE prims k hash1 hash2 older) log

/-- M7 has come after M5, with an E-S2 that gives E-Hash2 under the PSK of the second half. -/
def ProvedE2 : Prop :=
  Occurs (fun e older => ∃ attrs, Authenticated prims k.authkey .m7 attrs e older ∧
    Reveals prims k attrs .eSnonce2 hash2 (psk2Of prims k.authkey password) ∧
    ProvedE1 prims k password hash1 hash2 older) log

/-! ## The Registrar's proof, as the Enrollee sees it -/

/-- M4 has come, with R-Hash1 and R-Hash2 and an R-S1 that gives R-Hash1 under the PSK of the first
half of the device password. -/
def ProvedR1 : Prop :=
  Occurs (fun e older => ∃ attrs, Authenticated prims k.authkey .m4 attrs e older ∧
    attrs.get? .rHash1 = some hash1 ∧ attrs.get? .rHash2 = some hash2 ∧
    Reveals prims k attrs .rSnonce1 hash1 (psk1Of prims k.authkey password)) log

/-- M6 has come after M4, with an R-S2 that gives R-Hash2 under the PSK of the second half. -/
def ProvedR2 : Prop :=
  Occurs (fun e older => ∃ attrs, Authenticated prims k.authkey .m6 attrs e older ∧
    Reveals prims k attrs .rSnonce2 hash2 (psk2Of prims k.authkey password) ∧
    ProvedR1 prims k password hash1 hash2 older) log

/-! ## The public key bound over NFC -/

/-- The abbreviated handshake: a token for connection handover matched, and the Enrollee's public
key has the hash that came over NFC. -/
def KeyBound (d : Data) : Prop :=
  ∃ token hash, d.nfcPwToken = some token ∧ token.pwId = 7 ∧ token.pubkeyHash = some hash ∧
    (prims.sha256 d.keys.pubkeyE).take 20 = hash

/-! ## Sessions -/

/-- A session with its history, and what it shares with other sessions. -/
structure Session (ρ : Type) where
  reg : ρ
  wps : Data
  log : List Entry := []

namespace Session

variable {ρ : Type} (s : Session ρ)

def enter : St ρ := { reg := s.reg, wps := s.wps }

def after (t : St ρ) : Session ρ := { reg := t.reg, wps := t.wps, log := t.out ++ s.log }

end Session

/-- What has to precede an entry in the history of a session, and what the history holds in each of
its states. -/
structure Role where
  Reason : Entry → List Entry → Prop
  Evidence : Data → List Entry → Prop
  received : ∀ op prev msg older, Reason (.received op prev msg) older
  nack : ∀ d log, d.state = .sendWscNack → Evidence d log
  /-- What is not sent takes nothing away. -/
  cons : ∀ d log e, lastSent (e :: log) = lastSent log → Evidence d log → Evidence d (e :: log)
  /-- The states in which the message sent last is needed for an Authenticator. -/
  awaiting : List State
  keep : ∀ d log msg, d.state ∉ awaiting → Evidence d log →
    Evidence { d with lastMsg := some msg } log

/-- The history is justified and holds what the state needs. -/
structure Good {ρ : Type} (role : Role) (log : List Entry) (s : St ρ) : Prop where
  reasons : Justified role.Reason (s.out ++ log)
  evidence : role.Evidence s.wps (s.out ++ log)

section Good

variable {ρ : Type} {role : Role} {s : Session ρ} {t : St ρ}

def Session.Good (role : Role) (s : Session ρ) : Prop := Wps.Good role s.log s.enter

variable {log}

/-- A message is kept for the next Authenticator. -/
lemma Good.keep (h : Good role log t) (hstate : t.wps.state ∉ role.awaiting) (msg : Bytes) :
    Good role log (t.upd fun d => { d with lastMsg := some msg }) :=
  ⟨h.reasons, role.keep _ _ msg hstate h.evidence⟩

lemma Good.after (h : Good role s.log t) : (s.after t).Good role := ⟨h.reasons, h.evidence⟩

end Good

end Hostapd.Wps
