import Hostapd.Wps.RegistrarSteps

/-!
# Wi-Fi Protected Setup: what a Registrar has seen before it gives secrets away

A Registrar session as a machine: messages come in, messages are built, and in between the
administrator and other sessions change the Registrar.
-/

namespace Hostapd.Wps.Registrar

open Wire History Machine

abbrev Session := Wps.Session Registrar

/-- What happens to a session. -/
inductive Event where
  /-- A message comes in; whether another push button session is active comes with it. -/
  | receive (op : OpCode) (msg : Bytes) (pbcOverlap : Bool)
  | build (ans : Answers) (locked : Bool)
  /-- The administrator or another session leaves the Registrar in this state. -/
  | others (reg : Registrar)

variable (prims : Prims) (ctx : Context) (s : Session)

/-- One event. -/
def step : Event → Except Empty Session
  | .receive op msg pbcOverlap =>
    .ok (s.after (processMsg prims ctx s.enter op msg pbcOverlap).1)
  | .build ans locked => .ok (s.after (getMsg prims ctx s.enter ans locked).1)
  | .others reg => .ok { s with reg := reg }

/-! ## Reasons and evidence -/

/-- A credential is the Registrar's own: one that this session has sent in M2 or M8, or the one with
the key that was generated for such a message. -/
def SentBefore (c : Credential) (log : List Entry) : Prop :=
  Occurs (fun e _ => ∃ type msg settings d, e = .sent type msg settings d ∧
    (type = .m2 ∨ type = .m8) ∧
    (c = singleTypes d.cred ∨ ∃ psk, d.newPsk = some psk ∧ c = autoConfCred ctx psk)) log

/-- A credential is handed over at the end: a valid WSC_Done has just come, and the credential is
the Registrar's own. -/
def OwnAtDone (c : Credential) (d : Data) (older : List Entry) : Prop :=
  ∃ prev msg rest, older = .received .done prev msg :: rest ∧
    (parseMsg msg).any (wscValid d .wscDone) ∧
    SentBefore ctx c rest

/-- What has to precede an entry. -/
def Reason (e : Entry) (older : List Entry) : Prop :=
  match e with
  | .sent .m2 _ settings d => settings ≠ none → KeyBound prims d
  | .sent .m6 _ _ d =>
    ProvedE1 prims d.keys (d.devPassword.getD []) d.peerHash1 d.peerHash2 older
  | .sent .m8 _ _ d =>
    ProvedE2 prims d.keys (d.devPassword.getD []) d.peerHash1 d.peerHash2 older
  | .credCb c d => FromSettings prims d c older ∨ OwnAtDone ctx c d older
  | _ => True

/-- The credentials were sent. -/
def CredSent (d : Data) (log : List Entry) : Prop :=
  Occurs (fun e _ => ∃ type msg settings d', e = .sent type msg settings d' ∧
    (type = .m2 ∨ type = .m8) ∧ (d.cred = d'.cred ∨ d.cred = singleTypes d'.cred) ∧
    ∀ psk, d.newPsk = some psk → d'.newPsk = some psk) log

/-- What the history holds in each state of a Registrar session. -/
def Evidence (d : Data) (log : List Entry) : Prop :=
  match d.state with
  | .recvM1 => d.nfcPwToken = none
  | .sendM2 => ∀ token, d.nfcPwToken = some token → token.pwId = 7 → KeyBound prims d
  | .recvM3 => d.lastMsg = lastSent log
  | .sendM4 => CommittedE prims d.keys d.peerHash1 d.peerHash2 log
  | .recvM5 => d.lastMsg = lastSent log ∧ HasPsks prims d ∧
      CommittedE prims d.keys d.peerHash1 d.peerHash2 log
  | .sendM6 => HasPsks prims d ∧
      ProvedE1 prims d.keys (d.devPassword.getD []) d.peerHash1 d.peerHash2 log
  | .recvM7 => d.lastMsg = lastSent log ∧ HasPsks prims d ∧
      ProvedE1 prims d.keys (d.devPassword.getD []) d.peerHash1 d.peerHash2 log
  | .sendM8 => ProvedE2 prims d.keys (d.devPassword.getD []) d.peerHash1 d.peerHash2 log
  | .recvDone => CredSent d log
  | _ => True

variable {d : Data} {log : List Entry} {t : St}

lemma Evidence.cons (h : Evidence prims d log) {e : Entry}
    (he : lastSent (e :: log) = lastSent log) : Evidence prims d (e :: log) := by
  unfold Evidence at *
  split at h
  · exact h
  · exact h
  · rw [he]; exact h
  · exact .cons h e
  · exact ⟨he ▸ h.1, h.2.1, .cons h.2.2 e⟩
  · exact ⟨h.1, .cons h.2 e⟩
  · exact ⟨he ▸ h.1, h.2.1, .cons h.2.2 e⟩
  · exact .cons h e
  · exact .cons h e
  · trivial

/-- The Registrar's reasons and evidence. -/
def role (prims : Prims) (ctx : Context) : Role where
  Reason := Reason prims ctx
  Evidence := Evidence prims
  received _ _ _ _ := trivial
  nack d log h := by simp [Evidence, h]
  cons _ _ _ he h := h.cons prims he
  awaiting := [.recvM3, .recvM5, .recvM7]
  keep d log msg hstate h := by
    unfold Evidence at *
    split at h <;> simp_all [KeyBound, HasPsks, Data.keys, CredSent]

/-! ## Messages that come in -/

variable {prims ctx} {s : Session} {op : OpCode} {msg : Bytes} {attrs : Attrs}
  {body : St → Except St St}

/-- Before M2 is sent: a token for connection handover fits the Enrollee's key. -/
structure Bound (prims : Prims) (ctx : Context) (log : List Entry) (t : St) : Prop where
  reasons : Justified (Reason prims ctx) (t.out ++ log)
  state : t.wps.state = .sendM2
  bound : HandoverBound prims t.wps

variable {log : List Entry} {t : St} (h : Bound prims ctx log t)

include h

lemma Bound.m2Only {u : St} (hu : M2Only t u) : Bound prims ctx log u :=
  ⟨hu.out ▸ h.reasons, hu.state.trans h.state, h.bound.congr hu.token hu.key⟩

/-- A PIN is asked for. -/
lemma Bound.getDevPassword (now : ℕ) :
    Meets (Bound prims ctx log) (Bound prims ctx log) (getDevPassword ctx t now) := by
  have hasked : Bound prims ctx log (askPin t now) := by
    refine ⟨?_, h.state, h.bound⟩
    unfold askPin
    cases (t.reg.getPin t.wps.uuidE now).2 with
    | none => exact h.reasons
    | some pin => exact ⟨trivial, h.reasons⟩
  cases hasks : asks ctx t.wps with
  | false =>
    exact (meets_getDevPassword (u := t) h.state (by simp [hasks]) fun _ => rfl).weaken
      (fun _ => h.m2Only) fun _ => h.m2Only
  | true =>
    exact (meets_getDevPassword h.state (fun _ => rfl) (by simp [hasks])).weaken
      (fun _ => hasked.m2Only) fun _ => hasked.m2Only

omit h

section

variable (hg : Good (role prims ctx) log t) (ans : Answers)

include hg

end

end Hostapd.Wps.Registrar
