import Hostapd.Foundation.Slots
import Hostapd.Wps.GuessSteps
import Hostapd.Wps.SecretRelease

/-!
# Wi-Fi Protected Setup: guesses at the AP PIN are rate limited

An access point with any number of concurrent sessions of external Registrars, and the part of
`wps_hostapd.c` that counts failed proofs of the AP PIN: after the third one the setup is locked for
a time that grows, and after ten in a row until the administrator enables the AP PIN again.

The lock is looked at when M2 comes, but guesses are evaluated with M4 and M6. As long as a session
takes M2 only while no other one is under way (`Alone`), every guess is one that the lockout allows
(`guesses_rate_limited`); several sessions together evaluate more (`guess_during_lockout`).
-/

namespace Hostapd.Wps.PinLockout

open Wire History Machine Slots Enrollee Nat

/-! ## The access point -/

/-- What `struct hostapd_data` and `struct wps_context` keep about the AP PIN. -/
structure Ap where
  /-- Whether setup is locked (`wps->ap_setup_locked`). -/
  lock : ℕ := 0
  /-- Whether setup is locked by configuration (`conf->ap_setup_locked`). -/
  confLock : ℕ := 0
  apPin : Option Bytes := none
  failures : ℕ := 0
  consecutive : ℕ := 0
  lockoutTime : ℕ := 0
  /-- When `hostapd_wps_reenable_ap_pin` is called, if it is. -/
  timer : Option ℕ := none

namespace Ap

/-- The access point as `hostapd_init_wps` leaves it. -/
def initial (confLock : ℕ) (apPin : Option Bytes) : Ap :=
  { lock := confLock, confLock := confLock, apPin := apPin }

variable (ap : Ap)

/-- The time of the next lock. -/
def nextLockout : ℕ :=
  if ap.lockoutTime = 0 then 60
  else if ap.lockoutTime < 365 * 24 * 60 * 60 ∧ ap.failures % 3 = 0 then ap.lockoutTime * 2
  else ap.lockoutTime

/-- The second part of `wps_pwd_auth_fail`: setup is locked, for good or for a time. -/
def lockSetup (now : ℕ) : Ap :=
  let ap := { ap with lock := 1 }
  if ap.confLock = 0 ∧ 10 ≤ ap.consecutive then { ap with timer := none }
  else if ap.confLock = 0 then
    { ap with lockoutTime := ap.nextLockout, timer := some (now + ap.nextLockout) }
  else ap

/-- `hostapd_pwd_auth_fail`. -/
def pwdAuthFail (now : ℕ) : Ap :=
  if ap.apPin = none then ap
  else
    let ap := { ap with failures := (ap.failures + 1) % 2 ^ 32
                        consecutive := (ap.consecutive + 1) % 2 ^ 32 }
    if ap.failures < 3 then ap else ap.lockSetup now

def apPinSuccess : Ap := if ap.apPin = none then ap else { ap with consecutive := 0 }

/-- `hostapd_wps_reenable_ap_pin`, which is called when the timer has run down. -/
def reenableApPin : Ap :=
  let ap := { ap with timer := none }
  if ap.confLock ≠ 0 ∨ 10 ≤ ap.consecutive then ap else { ap with lock := 0 }

/-- `wps_ap_pin_set` and `hostapd_wps_ap_pin_enable`: the administrator enables a new AP PIN. -/
def apPinSet (pin : Bytes) : Ap :=
  { ap with apPin := some pin, failures := 0, consecutive := 0, confLock := 0, lock := 0 }

/-- `wps_ap_pin_disable`, by the administrator or after a time. -/
def apPinDisable : Ap := { ap with apPin := none }

end Ap

/-- What happens that matters for the rate limit. -/
inductive Act where
  | guess (time : ℕ)
  /-- The guess was wrong; the lockout time is now `lockout`. -/
  | failed (time lockout : ℕ)
  | succeeded
  | enabled
  deriving DecidableEq

/-- An access point, its sessions as an Enrollee, and the time. -/
structure System where
  ap : Ap
  now : ℕ := 0
  sessions : List (Option Data) := []
  log : List Act := []

/-- What happens to the access point. -/
inductive Event where
  /-- `wps_init` of a session with an external Registrar; the password is the AP PIN. -/
  | start (cfg : Config)
  /-- A message comes in for a session, with the answer of `cred_cb`. -/
  | receive (session : ℕ) (op : OpCode) (msg : Bytes) (accept : Credential → Bool)
  | build (session : ℕ) (ans : Answers)
  | deinit (session : ℕ)
  | pass (seconds : ℕ)
  | timer
  | setPin (pin : Bytes)
  | disablePin

/-- What the access point learns from an entry. -/
def note (now : ℕ) (e : Entry) (r : Ap × List Act) : Ap × List Act :=
  match e with
  | .compared _ true => (r.1, .guess now :: r.2)
  | .compared _ false =>
    (r.1.pwdAuthFail now, .failed now (r.1.pwdAuthFail now).lockoutTime :: .guess now :: r.2)
  | .apPinSuccess => (r.1.apPinSuccess, .succeeded :: r.2)
  | _ => r

/-- A session after a step. -/
def System.put (s : System) (i : ℕ) (t : Enrollee.St) : System :=
  let r := t.out.foldr (note s.now) (s.ap, s.log)
  { s with ap := r.1, sessions := s.sessions.set i (some t.wps), log := r.2 }

variable (prims : Prims) (ctx : Context)

def apContext : Context := { ctx with ap := true }

/-- One step.  What is meant for a session that is not there does nothing. -/
def step (s : System) : Event → Except Empty System
  | .start cfg =>
    let d := initSession (apContext ctx) { cfg with registrar := false, pin := s.ap.apPin }
    .ok { s with sessions := s.sessions ++ [some d] }
  | .receive i op msg accept =>
    match live s.sessions i with
    | none => .ok s
    | some d =>
      .ok (s.put i
        (processMsg prims (apContext ctx) { reg := (), wps := d } s.ap.lock op msg accept).1)
  | .build i ans =>
    match live s.sessions i with
    | none => .ok s
    | some d => .ok (s.put i (getMsg prims (apContext ctx) { reg := (), wps := d } ans).1)
  | .deinit i => .ok { s with sessions := s.sessions.set i none }
  | .pass seconds => .ok { s with now := s.now + seconds }
  | .timer =>
    if s.ap.timer.any (· ≤ s.now) then .ok { s with ap := s.ap.reenableApPin } else .ok s
  | .setPin pin => .ok { s with ap := s.ap.apPinSet pin, log := .enabled :: s.log }
  | .disablePin => .ok { s with ap := s.ap.apPinDisable }

/-- A session takes a WSC_MSG in place of M2 only while no other session is under way, and M4 and M6
only while there is an AP PIN and the counter of failures has not run out. -/
def Alone (s : System) : Event → Prop
  | .receive i op _ _ => ∀ d ∈ live s.sessions i, op = .msg →
      (d.state = .recvM2 → ¬ AnyOther s.sessions i underWay) ∧
      (d.state = .recvM4 ∨ d.state = .recvM6 → s.ap.apPin ≠ none ∧ s.ap.failures + 1 < 2 ^ 32)
  | _ => True

instance (s : System) : (e : Event) → Decidable (Alone s e)
  | .receive i op _ _ =>
    inferInstanceAs (Decidable (∀ d ∈ live s.sessions i, op = .msg → (_ → ¬ AnyOther _ _ _) ∧
      (_ ∨ _ → _ ≠ _ ∧ _ < _)))
  | .start _ | .build _ _ | .deinit _ | .pass _ | .timer | .setPin _ | .disablePin => isTrue trivial

/-! ## What the lockout allows -/

/-- Failed proofs since the AP PIN was enabled last. -/
def failuresOf : List Act → ℕ
  | [] => 0
  | .enabled :: _ => 0
  | .failed _ _ :: older => failuresOf older + 1
  | .guess _ :: older => failuresOf older
  | .succeeded :: older => failuresOf older

/-- Failed proofs since the AP PIN was enabled or proved last. -/
def consecutiveOf : List Act → ℕ
  | [] => 0
  | .enabled :: _ => 0
  | .succeeded :: _ => 0
  | .failed _ _ :: older => consecutiveOf older + 1
  | .guess _ :: older => consecutiveOf older

/-- Until when the last failed proof locks the setup. -/
def lockedUntil : List Act → ℕ
  | [] => 0
  | .enabled :: _ => 0
  | .failed time lockout :: _ => time + lockout
  | .guess _ :: older => lockedUntil older
  | .succeeded :: older => lockedUntil older

/-- A guess may be evaluated at a time: if there have been three failed proofs, the lockout of the
last one is over, and there have not been ten in a row. -/
def Allowed (time : ℕ) (older : List Act) : Prop :=
  (3 ≤ failuresOf older → lockedUntil older ≤ time) ∧ consecutiveOf older < 10

instance (time : ℕ) (older : List Act) : Decidable (Allowed time older) :=
  inferInstanceAs (Decidable (_ ∧ _))

/-- A guess is one that is allowed. -/
def Reason (e : Act) (older : List Act) : Prop :=
  match e with
  | .guess time => Allowed time older
  | _ => True

variable {prims : Prims} {ctx : Context} {s s' : System} {i : ℕ} {d : Data} {log : List Act}
  {time : ℕ}

lemma consecutiveOf_le (log : List Act) : consecutiveOf log ≤ failuresOf log := by
  induction log with
  | nil => rfl
  | cons e log ih =>
    cases e with
    | guess time => exact ih
    | failed time lockout => exact succ_le_succ ih
    | succeeded => exact zero_le _
    | enabled => exact zero_le _

lemma allowed_of_few (h : failuresOf log < 3) (time : ℕ) : Allowed time log :=
  ⟨fun h3 => absurd h3 (by omega), (consecutiveOf_le log).trans_lt (by omega)⟩

lemma Allowed.later (h : Allowed time log) {time' : ℕ} (hle : time ≤ time') :
    Allowed time' log := ⟨fun h3 => (h.1 h3).trans hle, h.2⟩

lemma Allowed.guess (h : Allowed time log) (t : ℕ) : Allowed time (.guess t :: log) := h

lemma Allowed.succeeded (h : Allowed time log) : Allowed time (.succeeded :: log) :=
  ⟨h.1, zero_lt_succ _⟩

/-! ## The counters and the timer -/

/-- The access point keeps count: an unlocked setup allows a guess, and the timer does not run down
before the lockout is over. -/
structure ApOk (ap : Ap) (now : ℕ) (log : List Act) : Prop where
  failures : ap.failures = failuresOf log
  consecutive : ap.consecutive = consecutiveOf log
  unlocked : ap.lock = 0 ∨ ap.lock = 2 → Allowed now log
  timer : ∀ t, ap.timer = some t → 3 ≤ failuresOf log → lockedUntil log ≤ t
  conf : ap.confLock ≠ 0 → ap.timer = none

variable {ap : Ap} {now : ℕ} {e : Event}

lemma apOk_initial (confLock : ℕ) (apPin : Option Bytes) :
    ApOk (Ap.initial confLock apPin) 0 [] :=
  ⟨rfl, rfl, fun _ => allowed_of_few (by decide) 0, fun _ ht => absurd ht (by simp [Ap.initial]),
    fun _ => rfl⟩

variable (h : ApOk ap now log)

include h

lemma ApOk.later {now' : ℕ} (hle : now ≤ now') : ApOk ap now' log :=
  { h with unlocked := fun hu => (h.unlocked hu).later hle }

lemma ApOk.guess (t : ℕ) : ApOk ap now (.guess t :: log) :=
  ⟨h.failures, h.consecutive, h.unlocked, h.timer, h.conf⟩

lemma ApOk.succeeded (hpin : ap.apPin ≠ none) : ApOk ap.apPinSuccess now (.succeeded :: log) := by
  rw [Ap.apPinSuccess, if_neg hpin]
  exact ⟨h.failures, rfl, fun hu => (h.unlocked hu).succeeded, h.timer, h.conf⟩

lemma ApOk.disabled : ApOk ap.apPinDisable now log :=
  ⟨h.failures, h.consecutive, h.unlocked, h.timer, h.conf⟩

omit h

lemma apOk_enabled (ap : Ap) (now : ℕ) (log : List Act) (pin : Bytes) :
    ApOk (ap.apPinSet pin) now (.enabled :: log) where
  failures := rfl
  consecutive := rfl
  unlocked _ := allowed_of_few (by simp [failuresOf]) now
  timer _ _ h3 := absurd h3 (by simp [failuresOf])
  conf hc := absurd rfl hc

/-- The time of the lock is over. -/
lemma ApOk.reenabled (h : ApOk ap now log) (hdue : ap.timer.any (· ≤ now)) :
    ApOk ap.reenableApPin now log := by
  obtain ⟨t, ht, hle⟩ : ∃ t, ap.timer = some t ∧ t ≤ now := by
    cases htimer : ap.timer with
    | none => simp [htimer] at hdue
    | some t => exact ⟨t, rfl, by simpa [htimer] using hdue⟩
  unfold Ap.reenableApPin
  simp only
  split
  · exact ⟨h.failures, h.consecutive, h.unlocked, fun _ ht => absurd ht (by simp), fun _ => rfl⟩
  rename_i hgo
  refine ⟨h.failures, h.consecutive, fun _ => ?_, fun _ ht => absurd ht (by simp), fun _ => rfl⟩
  refine ⟨fun h3 => (h.timer t ht h3).trans hle, ?_⟩
  rw [← h.consecutive]
  omega

/-- A failed proof may lock the setup. -/
lemma ApOk.failed (h : ApOk ap now log) (hpin : ap.apPin ≠ none)
    (hlt : ap.failures + 1 < 2 ^ 32) :
    ApOk (ap.pwdAuthFail now) now
      (.failed now (ap.pwdAuthFail now).lockoutTime :: .guess now :: log) := by
  have hfailures : (ap.failures + 1) % 2 ^ 32 = failuresOf log + 1 := by
    rw [mod_eq_of_lt hlt, h.failures]
  have hconsecutive : (ap.consecutive + 1) % 2 ^ 32 = consecutiveOf log + 1 := by
    have hle := consecutiveOf_le log
    rw [h.consecutive, mod_eq_of_lt (by omega)]
  unfold Ap.pwdAuthFail
  rw [if_neg hpin]
  simp only [hfailures, hconsecutive]
  split
  · rename_i hfew
    refine ⟨rfl, rfl, fun _ => ?_, fun _ _ h3 => ?_, h.conf⟩
    · exact allowed_of_few (by exact hfew) now
    · exact absurd h3 (by change ¬ 3 ≤ failuresOf log + 1; omega)
  unfold Ap.lockSetup
  simp only
  split
  · exact ⟨rfl, rfl, fun hu => absurd hu (by simp), fun _ ht => absurd ht (by simp), fun _ => rfl⟩
  split
  · rename_i hconf
    refine ⟨rfl, rfl, fun hu => absurd hu (by simp), ?_, absurd hconf⟩
    rintro t ⟨⟩ -
    exact le_refl _
  · rename_i hconf
    have hnone := h.conf hconf
    refine ⟨rfl, rfl, fun hu => absurd hu (by simp), fun t ht => ?_, h.conf⟩
    exact absurd (hnone.symm.trans ht) (by simp)

/-! ## The system -/

/-- What the access point keeps. -/
structure Inv (s : System) : Prop where
  ap : ApOk s.ap s.now s.log
  allowed : Any s.sessions underWay → Allowed s.now s.log
  one : AtMostOne s.sessions underWay
  once : Justified Reason s.log

lemma note_of_silent (e : Entry) (r : Ap × List Act) (he : tellsGuess e = false) :
    note now e r = r := by
  unfold note
  split
  · exact absurd he (by simp [tellsGuess])
  · exact absurd he (by simp [tellsGuess])
  · exact absurd he (by simp [tellsGuess])
  · rfl

lemma System.put_eq (s : System) (i : ℕ) {t : Enrollee.St} {told : List Entry}
    (htold : t.out.filter tellsGuess = told) :
    s.put i t = { s with ap := (told.foldr (note s.now) (s.ap, s.log)).1
                         sessions := s.sessions.set i (some t.wps)
                         log := (told.foldr (note s.now) (s.ap, s.log)).2 } := by
  unfold System.put
  rw [foldr_filter note_of_silent, htold]

section

variable (hi : live s.sessions i = some d) {t : Enrollee.St}

include hi

/-- A step of one session keeps the invariant: the access point keeps count, and the session is
under way afterwards only if that is allowed and it was so before or is alone. -/
lemma Inv.set (h : Inv s) {d' : Data} {ap : Ap} {log : List Act} (hap : ApOk ap s.now log)
    (hself : underWay d' → Allowed s.now log ∧ (underWay d ∨ ¬ AnyOther s.sessions i underWay))
    (hothers : AnyOther s.sessions i underWay → Allowed s.now log) (honce : Justified Reason log) :
    Inv { s with ap := ap, sessions := s.sessions.set i (some d'), log := log } := by
  refine ⟨hap, fun hany => ?_, h.one.set hi ?_, honce⟩
  · rcases (any_set hi).mp hany with ⟨_, ⟨⟩, hu⟩ | hother
    · exact (hself hu).1
    · exact hothers hother
  · rintro _ ⟨⟩ hu
    exact (hself hu).2

lemma Inv.others (h : Inv s) (hother : AnyOther s.sessions i underWay) : Allowed s.now s.log :=
  h.allowed ((any_of_live hi).mpr (.inr hother))

lemma Inv.build (h : Inv s) (ht : Built { reg := (), wps := d } t) : Inv (s.put i t) := by
  rw [s.put_eq i ht.silent]
  refine h.set hi h.ap (fun hu => ?_) (h.others hi) h.once
  have hold := ht.underWay hu
  exact ⟨h.allowed ⟨i, d, hi, hold⟩, .inl hold⟩

/-- A message that comes in keeps the invariant. -/
lemma Inv.receive (h : Inv s) {op : OpCode}
    (halone : op = .msg → (d.state = .recvM2 → ¬ AnyOther s.sessions i underWay) ∧
      (d.state = .recvM4 ∨ d.state = .recvM6 → s.ap.apPin ≠ none ∧ s.ap.failures + 1 < 2 ^ 32))
    {prev : Option Bytes} {msg : Bytes}
    (ht : Heard s.ap.lock op (St.tell { reg := (), wps := d } (.received op prev msg)) t) :
    Inv (s.put i t) := by
  have hcompares : ∀ {second : Bool}, d.state = compares second →
      d.state = .recvM4 ∨ d.state = .recvM6 := by
    intro second hstate
    cases second
    · exact .inl hstate
    · exact .inr hstate
  cases ht with
  | silent hsilent hunderWay =>
    rw [s.put_eq i hsilent]
    refine h.set hi h.ap (fun hu => ?_) (h.others hi) h.once
    rcases hunderWay hu with hold | ⟨hop, hstate, hlock⟩
    · exact ⟨h.allowed ⟨i, d, hi, hold⟩, .inl hold⟩
    · exact ⟨h.ap.unlocked hlock, .inr ((halone hop).1 hstate)⟩
  | matched hop second hstate hout hunderWay =>
    have hold : underWay d := underWay_of_compares hstate
    have hallowed := h.allowed ⟨i, d, hi, hold⟩
    obtain ⟨hpin, -⟩ := (halone hop).2 (hcompares hstate)
    rw [s.put_eq i hout]
    cases second with
    | false =>
      refine h.set hi (h.ap.guess s.now) (fun _ => ?_) (fun _ => ?_) ⟨hallowed, h.once⟩
      · exact ⟨hallowed.guess s.now, .inl hold⟩
      · exact hallowed.guess s.now
    | true =>
      refine h.set hi ((h.ap.guess s.now).succeeded hpin) (fun hu => ?_) (fun _ => ?_)
        ⟨trivial, hallowed, h.once⟩
      · exact absurd (hunderWay hu) (by simp)
      · exact (hallowed.guess s.now).succeeded
  | failed hop second hstate hout hunderWay =>
    have hold : underWay d := underWay_of_compares hstate
    have hallowed := h.allowed ⟨i, d, hi, hold⟩
    obtain ⟨hpin, hlt⟩ := (halone hop).2 (hcompares hstate)
    rw [s.put_eq i hout]
    refine h.set hi (h.ap.failed hpin hlt) (fun hu => ?_) (fun hother => ?_)
      ⟨trivial, hallowed, h.once⟩
    · exact absurd hu (by simp [hunderWay])
    · -- The session was the only one under way.
      exact absurd hother (h.one.alone hi hold)

end

lemma Inv.deinit (h : Inv s) (i : ℕ) : Inv { s with sessions := s.sessions.set i none } := by
  have hlive : ∀ {j b}, live (s.sessions.set i none) j = some b → live s.sessions j = some b := by
    intro j b hb
    obtain ⟨-, ⟨⟩⟩ | ⟨-, hb⟩ := live_set_eq_some hb
    exact hb
  exact ⟨h.ap, fun ⟨j, b, hb, hu⟩ => h.allowed ⟨j, b, hlive hb, hu⟩,
    fun j k b b' hb hb' => h.one j k b b' (hlive hb) (hlive hb'), h.once⟩

lemma Inv.start (h : Inv s) (hd : underWay d = false) :
    Inv { s with sessions := s.sessions ++ [some d] } :=
  ⟨h.ap, fun hany => h.allowed ((any_append hd).mp hany), h.one.append hd, h.once⟩

lemma underWay_initSession (ctx : Context) {cfg : Config} (hrole : cfg.registrar = false) :
    underWay (initSession ctx cfg) = false := by
  have hd : (initSession ctx cfg).state = .sendM1 := by
    unfold initSession
    simp only [hrole]
    split <;> split <;> simp
  simp [underWay, hd]

/-- Every event of a session that is alone keeps the invariant. -/
lemma Inv.step (h : Inv s) (halone : Alone s e) (hstep : step prims ctx s e = .ok s') : Inv s' := by
  cases e with
  | start cfg =>
    cases hstep
    exact h.start (underWay_initSession _ rfl)
  | receive i op msg accept =>
    simp only [PinLockout.step] at hstep
    split at hstep
    · cases hstep
      exact h
    · rename_i d hi
      cases hstep
      exact h.receive hi (halone d hi) (heard rfl _ s.ap.lock op msg accept)
  | build i ans =>
    simp only [PinLockout.step] at hstep
    split at hstep
    · cases hstep
      exact h
    · rename_i d hi
      cases hstep
      exact h.build hi (built _ ans)
  | deinit i =>
    cases hstep
    exact h.deinit i
  | pass seconds =>
    cases hstep
    have hle := le_add_right s.now seconds
    exact ⟨h.ap.later hle, fun hany => (h.allowed hany).later hle, h.one, h.once⟩
  | timer =>
    simp only [PinLockout.step] at hstep
    split at hstep
    · rename_i hdue
      cases hstep
      exact ⟨h.ap.reenabled hdue, h.allowed, h.one, h.once⟩
    · cases hstep
      exact h
  | setPin pin =>
    cases hstep
    exact ⟨apOk_enabled _ _ _ pin, fun _ => allowed_of_few (by simp [failuresOf]) _, h.one,
      trivial, h.once⟩
  | disablePin =>
    cases hstep
    exact ⟨h.ap.disabled, h.allowed, h.one, h.once⟩

/-! ## The lockout time -/

/-- A failure does not shorten the lock. -/
lemma lockoutTime_pwdAuthFail (ap : Ap) (now : ℕ) :
    ap.lockoutTime ≤ (ap.pwdAuthFail now).lockoutTime := by
  have hnext : ∀ ap : Ap, ap.lockoutTime ≤ ap.nextLockout := by
    intro ap
    unfold Ap.nextLockout
    split
    · omega
    split
    · omega
    · exact le_refl _
  have hlock : ∀ ap : Ap, ap.lockoutTime ≤ (ap.lockSetup now).lockoutTime := by
    intro ap
    unfold Ap.lockSetup
    simp only
    split
    · exact le_refl _
    split
    · exact hnext { ap with lock := 1 }
    · exact le_refl _
  unfold Ap.pwdAuthFail
  split
  · exact le_refl _
  simp only
  split
  · exact le_refl _
  · exact hlock { ap with failures := (ap.failures + 1) % 2 ^ 32
                          consecutive := (ap.consecutive + 1) % 2 ^ 32 }

lemma lockoutTime_apPinSuccess (ap : Ap) : ap.apPinSuccess.lockoutTime = ap.lockoutTime := by
  unfold Ap.apPinSuccess
  split
  · rfl
  · rfl

lemma lockoutTime_foldr_note (now : ℕ) (out : List Entry) (r : Ap × List Act) :
    r.1.lockoutTime ≤ (out.foldr (note now) r).1.lockoutTime := by
  induction out with
  | nil => exact le_refl _
  | cons e out ih =>
    refine ih.trans ?_
    rw [List.foldr_cons]
    unfold note
    split
    · exact le_refl _
    · exact lockoutTime_pwdAuthFail _ now
    · exact (lockoutTime_apPinSuccess _).ge
    · exact le_refl _

/-- No event shortens the lock. -/
lemma lockoutTime_step (hstep : step prims ctx s e = .ok s') :
    s.ap.lockoutTime ≤ s'.ap.lockoutTime := by
  match e, hstep with
  | .start _, rfl | .deinit _, rfl | .pass _, rfl | .setPin _, rfl | .disablePin, rfl =>
    exact le_refl _
  | .timer, hstep =>
    simp only [PinLockout.step] at hstep
    split at hstep <;> cases hstep
    · simp only [Ap.reenableApPin]
      split
      · exact le_refl _
      · exact le_refl _
    · exact le_refl _
  | .build .., hstep | .receive .., hstep =>
    simp only [PinLockout.step] at hstep
    split at hstep <;> cases hstep
    · exact le_refl _
    · exact lockoutTime_foldr_note s.now _ (s.ap, s.log)

/-! ## The rate limit -/

/-- Guesses at the AP PIN are rate limited: in every run in which a session takes M2 only while no
other one is under way, a guess is evaluated after three failed proofs only when the lockout of the
last one is over, and after ten in a row only when the AP PIN has been enabled again; and the
lockout time never decreases. -/
theorem guesses_rate_limited {confLock : ℕ} {apPin : Option Bytes} {es : List Event}
    (halone : Along (step prims ctx) Alone { ap := .initial confLock apPin } es)
    (hrun : run (step prims ctx) { ap := .initial confLock apPin } es = .ok s) :
    (∀ newer time older, s.log = newer ++ .guess time :: older → Allowed time older) ∧
      ∀ e s', step prims ctx s e = .ok s' → s.ap.lockoutTime ≤ s'.ap.lockoutTime := by
  have hinit : Inv { ap := .initial confLock apPin } :=
    ⟨apOk_initial confLock apPin, by simp [Any], by simp [AtMostOne], trivial⟩
  have hinv : Inv s :=
    run_along_induction (fun _ _ _ h ha hs => h.step ha hs) hinit halone hrun
  refine ⟨fun newer time older hlog => ?_, fun e s' hstep => lockoutTime_step hstep⟩
  exact justified_iff.mp hinv.once newer (.guess time) older hlog

/-- A session comes under way: M1 goes out, M2 comes in, M3 goes out. -/
def opening (i : ℕ) : List Event :=
  [.start { registrar := false }, .build i enrolleeAnswers,
   .receive i .msg (sampleMsg .m2 (attr .uuidR zeroNonce ++ attr .devPasswordId (Wire.be16 0) ++
     attr .publicKey (List.replicate 192 0) ++ sampleDevice)) fun _ => true,
   .build i enrolleeAnswers]

/-- An M4 whose R-S1 does not give R-Hash1. -/
def wrongM4 : Bytes :=
  sampleMsg .m4 (attr .rHash1 (List.replicate 32 1) ++ attr .rHash2 (List.replicate 32 0) ++
    sampleSettings (attr .rSnonce1 zeroNonce))

def guessWrong (i : ℕ) : Event := .receive i .msg wrongM4 fun _ => true

/-- Three wrong guesses, one after the other, and a fourth one when the lockout is over. -/
def patientEvents : List Event :=
  opening 0 ++ [guessWrong 0] ++ opening 1 ++ [guessWrong 1] ++ opening 2 ++ [guessWrong 2] ++
    [.pass 60, .timer] ++ opening 3 ++ [guessWrong 3]

/-- The fourth guess is evaluated one minute after the third one. -/
theorem guesses_rate_limited_fourth :
    ∃ s, run (step flatPrims sampleAp) { ap := .initial 0 (some []) } patientEvents = .ok s ∧
      s.log = [.failed 60 60, .guess 60, .failed 0 60, .guess 0, .failed 0 0, .guess 0, .failed 0 0,
        .guess 0] ∧
      (∀ newer time older, s.log = newer ++ .guess time :: older → Allowed time older) ∧
      ∀ e s', step flatPrims sampleAp s e = .ok s' → s.ap.lockoutTime ≤ s'.ap.lockoutTime := by
  have halone : Along (step flatPrims sampleAp) Alone { ap := .initial 0 (some []) }
      patientEvents := by decide +kernel
  exact exists_ok (by decide +kernel) fun s hrun _ => guesses_rate_limited halone hrun

/-- Four sessions come under way together, and then each makes a wrong guess. -/
def parallelEvents : List Event :=
  opening 0 ++ opening 1 ++ opening 2 ++ opening 3 ++
    [guessWrong 0, guessWrong 1, guessWrong 2, guessWrong 3]

/-- The fourth guess is evaluated although the setup has just been locked for a minute. -/
theorem guess_during_lockout :
    ∃ s newer time older,
      run (step flatPrims sampleAp) { ap := .initial 0 (some []) } parallelEvents = .ok s ∧
      s.log = newer ++ .guess time :: older ∧ ¬ Allowed time older := by
  have hreturns : Returns (run (step flatPrims sampleAp) { ap := .initial 0 (some []) }
      parallelEvents) fun s => s.log = [.failed 0 60, .guess 0, .failed 0 60, .guess 0,
        .failed 0 0, .guess 0, .failed 0 0, .guess 0] := by decide +kernel
  obtain ⟨s, hrun, hlog⟩ := hreturns
  exact ⟨s, [.failed 0 60], 0, _, hrun, hlog, by decide⟩

end Hostapd.Wps.PinLockout
