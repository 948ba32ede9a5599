import Hostapd.EapServer.Success
import Hostapd.EapolAuth.Sm
import Hostapd.Foundation.History

/-!
# A port is authorised by the EAP success of its own conversation

Whenever `AUTH_PAE` enters `AUTHENTICATED`, the EAP machine has reported success since the latest
`RESTART`, and on grounds.  What carries this is the handshake over `eapRestart`: the port leaves
`RESTART` only when the EAP machine has been initialised, and being initialised is what takes an old
success back.
-/

namespace Hostapd.EapolAuth

open Wire (Bytes)
open Wire.Checked EapServer Machine History List

variable {W P : Type}

/-! ## The history -/

/-- The EAP machine has been initialised since the latest `RESTART`, and there was one. -/
def Current : List Entry → Prop
  | [] => False
  | .initialised :: before => .restart ∈ before
  | .restart :: _ => False
  | _ :: before => Current before

variable {log : List Entry} {e : Entry} {c : Erp.Crypto} {s t : Port W P} {env : Env W P}
  {rounds : ℕ} {alive : ℕ → ℕ → Bool} {u : EapSm W P}

lemma Current.mem (h : Current log) : .restart ∈ log := by
  induction log with
  | nil => exact h.elim
  | cons e before ih =>
    cases e with
    | initialised => exact mem_cons_of_mem _ h
    | restart => exact mem_cons_self
    | _ => exact mem_cons_of_mem _ (ih h)

lemma Current.cons (h : Current log) (hne : e ≠ .restart) : Current (e :: log) := by
  cases e with
  | initialised => exact h.mem
  | restart => exact absurd rfl hne
  | _ => exact h

lemma Current.tail (h : Current (e :: log)) (hne : e ≠ .initialised) :
    e ≠ .restart ∧ Current log := by
  cases e with
  | initialised => exact absurd rfl hne
  | restart => exact h.elim
  | _ => exact ⟨nofun, h⟩

/-- Grounds since the machine was initialised are grounds since the latest `RESTART`. -/
lemma since_restart_of_current (h : Since c .initialised log) (hcurrent : Current log) :
    Since c .restart log := by
  induction log with
  | nil => exact h.elim
  | cons e before ih =>
    obtain ⟨hne, hgrounds | hsince⟩ := h
    · exact ⟨(hcurrent.tail hne).1, .inl hgrounds⟩
    · exact ⟨(hcurrent.tail hne).1, .inr (ih hsince (hcurrent.tail hne).2)⟩

/-- If the port is authorised, it is so on grounds. -/
def Founded (c : Erp.Crypto) (e : Entry) (before : List Entry) : Prop :=
  e = .authenticated → Since c .restart before ∧ .restart ∈ before

/-! ## What every step keeps -/

namespace Port

/-- What the machines, the EAP machine and the outside do to the variables that decide over the
port. -/
inductive Change (c : Erp.Crypto) (s : Port W P) : Port W P → Prop
  /-- None of these variables is written. -/
  | quiet {t : Port W P} (hquiet : Quiet s.eap t.eap)
      (hport : (t.portControl, t.authPae, t.authPortStatus, t.authSuccess) =
        (s.portControl, s.authPae, s.authPortStatus, s.authSuccess)) : Change c s t
  | eap {u : EapSm W P} (hm : Moved c s.eap u) : Change c s { s with eap := u }
  /-- The authentication server has reported success. -/
  | accepted (keys : Option Bytes) : Change c s
      ((s.note .aaaSuccess).modifyIf fun i => getKeys { i with aaaSuccess := true } keys)
  | authPae : Change c s s.authPaeStep
  | success (hsuccess : s.eap.eapIf.eapSuccess) : Change c s s.enterSuccess
  | auto : Change c s { s with portControl := .auto }

/-- A property that is kept by every change. -/
structure Kept (c : Erp.Crypto) (Q : Port W P → Prop) : Prop where
  sound : ∀ {s}, Q s → Sound s.eap
  change : ∀ {s t}, Q s → Change c s t → Q t

lemma getKeys_frame (i : EapIf) (keys : Option Bytes) :
    (getKeys i keys).eapSuccess = i.eapSuccess ∧ (getKeys i keys).eapRestart = i.eapRestart := by
  cases keys with
  | none => exact ⟨rfl, rfl⟩
  | some keys => exact ⟨rfl, rfl⟩

lemma quiet_with (e : EapSm W P) (vars : MethodVars W) (keys : List Erp.ServerKey) :
    Quiet e { e with vars := vars, erpKeys := keys } :=
  ⟨rfl, fun h => h.chosen, id⟩

lemma quiet_pendingCb (e : EapSm W P) : Quiet e e.pendingCb := by
  unfold EapSm.pendingCb
  split
  · exact quiet_with e _ _
  · exact .refl e

namespace Kept

variable {Q : Port W P → Prop}

section

variable (hQ : Kept c Q) (h : Q s)

include hQ h

lemma quiet (hquiet : Quiet s.eap t.eap)
    (hport : (t.portControl, t.authPae, t.authPortStatus, t.authSuccess) =
      (s.portControl, s.authPae, s.authPortStatus, s.authSuccess)) : Q t :=
  hQ.change h (.quiet hquiet hport)

lemma stepWaiting : Q s.stepWaiting := by
  unfold Port.stepWaiting
  split_ifs
  · exact hQ.quiet h (.withIf _ rfl) rfl
  · exact hQ.quiet h (.withIf _ rfl) rfl
  · exact hQ.quiet h (.refl _) rfl
  · exact h

lemma stepResponse : Q s.stepResponse := by
  unfold Port.stepResponse
  split_ifs with _ _ _ hsuccess
  · exact hQ.quiet h (.withIf _ rfl) rfl
  · exact hQ.quiet h (.refl _) rfl
  · exact hQ.quiet h (.refl _) rfl
  · exact hQ.change h (.success hsuccess)
  · exact h

lemma stepIdle : Q s.stepIdle := by
  unfold Port.stepIdle
  split_ifs with _ _ hsuccess
  · exact hQ.quiet h (.refl _) rfl
  · exact hQ.quiet h (.withIf _ rfl) rfl
  · exact hQ.change h (.success hsuccess.1)
  · exact h

lemma beAuthStep : Q s.beAuthStep := by
  have hidle : Q s.enterIdle := hQ.quiet h (.refl _) rfl
  unfold Port.beAuthStep
  split
  · exact hQ.quiet h (.withIf _ rfl) rfl
  unfold beAuthLocal
  split
  · exact hidle
  · exact hQ.stepWaiting h
  · apply hQ.stepResponse
    split
    · exact hQ.quiet h (.withIf _ rfl) rfl
    · exact h
  · exact hidle
  · exact hidle
  · exact hidle
  · exact hQ.stepIdle h
  · exact hQ.stepWaiting h

lemma reauthTimerStep : Q s.reauthTimerStep := by
  unfold Port.reauthTimerStep
  split_ifs
  · exact hQ.quiet h (.refl _) rfl
  · exact hQ.quiet h (.refl _) rfl
  · exact hQ.quiet h (.refl _) rfl
  · exact h

lemma authKeyTxStep : Q s.authKeyTxStep := by
  have htransmit : Q s.enterKeyTransmit := hQ.quiet h (.withIf _ rfl) rfl
  unfold Port.authKeyTxStep
  split_ifs
  · exact hQ.quiet h (.refl _) rfl
  · exact hQ.quiet h (.refl _) rfl
  · exact htransmit
  · exact h
  · exact htransmit
  · exact h

lemma keyRxStep : Q s.keyRxStep := by
  unfold Port.keyRxStep
  split_ifs
  · exact hQ.quiet h (.refl _) rfl
  · exact hQ.quiet h (.refl _) rfl
  · exact h

/-- Controlled directions do not matter. -/
lemma ctrlDirStep : Q s.ctrlDirStep := by
  have hinOrBoth : Q s.enterInOrBoth := hQ.quiet h (.refl _) rfl
  unfold Port.ctrlDirStep
  split
  · exact hinOrBoth
  split
  · have htaken : Q (if s.operControlledDirections ≠ s.adminControlledDirections then
        s.enterInOrBoth else s) := by
      split
      · exact hinOrBoth
      · exact h
    dsimp only
    generalize (if s.operControlledDirections ≠ s.adminControlledDirections then
      s.enterInOrBoth else s) = t at htaken ⊢
    split
    · exact hQ.quiet htaken (.refl _) rfl
    · exact htaken
  · split
    · exact hinOrBoth
    · exact h

/-- One round of the machines keeps it. -/
lemma stepMachines (alive : ℕ → Bool) : Q (s.stepMachines alive) := by
  -- each machine is stepped or not, depending on whether the station is still there
  have hguard : ∀ (b : Bool) {f : Port W P → Port W P} {t : Port W P},
      (∀ t, Q t → Q (f t)) → Q t → Q (if b then f t else t) := by
    intro b f t hf ht
    cases b with
    | false => exact ht
    | true => exact hf t ht
  refine hguard _ (fun _ => hQ.ctrlDirStep) ?_
  refine hguard _ (fun _ => hQ.keyRxStep) ?_
  refine hguard _ (fun _ => hQ.authKeyTxStep) ?_
  refine hguard _ (fun _ => hQ.reauthTimerStep) ?_
  refine hguard _ (fun _ => hQ.beAuthStep) ?_
  exact hQ.change h .authPae

lemma decapsulateRadius (eap : Option Bytes) : Q (s.decapsulateRadius eap) := by
  unfold Port.decapsulateRadius
  split
  · exact hQ.quiet h (.withIf _ rfl) rfl
  · split
    · exact hQ.quiet h (.withIf _ rfl) rfl
    · exact hQ.quiet h (.withIf _ rfl) rfl

/-- A message of the authentication server keeps it. -/
lemma receiveAuth (verdict : Verdict) (eap : Option Bytes) : Q (s.receiveAuth verdict eap) := by
  cases verdict with
  | accept keys reAuthPeriod =>
    have hperiod : Q { s with reAuthPeriod := reAuthPeriod.getD s.reAuthPeriod } :=
      hQ.quiet h (.refl _) rfl
    have haccepted := hQ.change hperiod (.accepted keys)
    exact hQ.quiet (hQ.decapsulateRadius haccepted eap) (.withIf _ rfl) rfl
  | refused authFail =>
    refine hQ.decapsulateRadius ?_ eap
    exact hQ.quiet h (.refl _) rfl
  | reject =>
    have hreject : Q (s.modifyIf fun i => { i with aaaFail := true }) :=
      hQ.quiet h (.withIf _ rfl) rfl
    exact hQ.quiet (hQ.decapsulateRadius hreject eap) (.withIf _ rfl) rfl
  | challenge timeout =>
    refine hQ.decapsulateRadius ?_ eap
    exact hQ.quiet h (.withIf _ rfl) rfl

end

section

variable (hQ : Kept env.crypto Q)

include hQ

lemma stepEap {r : Port W P × Bool} (h : Q s) (hr : s.stepEap env rounds = .ok r) : Q r.1 := by
  obtain ⟨e, he, hr⟩ := bind_eq_ok.mp hr
  cases hr
  exact (EapSm.serverSmStep_induction env (Q := fun e => Q { s with eap := e })
    (fun _ _ _ hq hm => hQ.change hq (.eap hm)) rounds he (hQ.sound h) h).2

/-- The loop over the machines keeps it. -/
lemma stepRun (n : ℕ) (h : Q s) (ht : s.stepRun env rounds alive n = .ok t) : Q t := by
  induction n generalizing s with
  | zero =>
    cases ht
    exact h
  | succ n ih =>
    rw [Port.stepRun] at ht
    have hnext : Q (s.stepMachines (alive n)) := hQ.stepMachines h (alive n)
    split at ht
    · exact ih hnext ht
    split at ht
    · obtain ⟨r, hr, ht⟩ := bind_eq_ok.mp ht
      have hstepped := hQ.stepEap hnext hr
      split at ht
      · exact ih hstepped ht
      · cases ht
        exact hQ.quiet hstepped (.withIf _ rfl) rfl
    · cases ht
      exact hnext

lemma eapolAuthAlloc {conf : Conf} {world : W} (h : Q (alloc conf world))
    (hs : eapolAuthAlloc env conf world rounds alive = .ok s) : Q s := by
  obtain ⟨t, ht, hs⟩ := bind_eq_ok.mp hs
  obtain ⟨u, hu, hs⟩ := bind_eq_ok.mp hs
  cases hs
  have hallocated : Q { alloc conf world with initialising := true, initialise := true } :=
    hQ.quiet h (.refl _) rfl
  have hfirst : Q { t with initialise := false } :=
    hQ.quiet (hQ.stepRun maxSteps hallocated ht) (.refl _) rfl
  exact hQ.quiet (hQ.stepRun maxSteps hfirst hu) (.refl _) rfl

/-- Every event is made of changes. -/
lemma step {e : Event W} (h : Q s) (ht : s.step env e = .ok t) : Q t := by
  match e, ht with
  | .step rounds alive, ht => exact hQ.stepRun maxSteps h ht
  | .tick rounds alive, ht =>
    have htick : Q s.tick := hQ.quiet h (.withIf _ rfl) rfl
    exact hQ.stepRun maxSteps htick ht
  | .eap rounds, ht =>
    obtain ⟨r, hr, ht⟩ := bind_eq_ok.mp ht
    cases ht
    exact hQ.stepEap h hr
  | .authPae, rfl => exact hQ.change h .authPae
  | .beAuth, rfl => exact hQ.beAuthStep h
  | .radius verdict eap, rfl => exact hQ.receiveAuth h verdict eap
  | .portControlAuto, rfl => exact hQ.change h .auto
  | .eapPacket _, rfl | .portEnabled _, rfl | .keyAvailable _, rfl =>
    exact hQ.quiet h (.withIf _ rfl) rfl
  | .pendingCb, rfl => exact hQ.quiet h (quiet_pendingCb _) rfl
  | .eapolStart, rfl | .eapolLogoff, rfl | .erpKeys _, rfl | .world _, rfl =>
    exact hQ.quiet h (quiet_with _ _ _) rfl
  | .portValid _, rfl | .keyRun _, rfl | .keyDone _, rfl | .reAuthenticate, rfl =>
    exact hQ.quiet h (.refl _) rfl

/-- What a new port has and every change keeps holds in every run. -/
lemma run {conf : Conf} {world : W} {s₀ : Port W P} {events : List (Event W)}
    (h : Q (alloc conf world)) (hstart : Port.eapolAuthAlloc env conf world rounds alive = .ok s₀)
    (hrun : Machine.run (Port.step env) s₀ events = .ok s) : Q s :=
  run_induction (fun _ _ _ h ht => hQ.step h ht) (hQ.eapolAuthAlloc h hstart) hrun

end

end Kept

end Port

/-! ## The invariant -/

/-- What a port keeps. -/
structure Inv (c : Erp.Crypto) (s : Port W P) : Prop where
  sound : Sound s.eap
  success : s.eap.eapIf.eapSuccess → Since c .initialised s.eap.log
  /-- The port leaves `RESTART` with an EAP machine that has been initialised. -/
  current : s.authPae = .connecting ∨ s.authPae = .authenticating → Current s.eap.log
  /-- In `RESTART` the EAP machine is still to be initialised, or has been. -/
  restarting : s.authPae = .restart →
    .restart ∈ s.eap.log ∧ (s.eap.eapIf.eapRestart = false → Current s.eap.log)
  /-- A success that the port has taken has grounds since the latest `RESTART`. -/
  authSuccess : s.authPae = .authenticating → s.authSuccess → Since c .restart s.eap.log
  founded : Justified (Founded c) s.eap.log

lemma Inv.frame (h : Inv c s) (hquiet : Quiet s.eap t.eap) (hpae : t.authPae = s.authPae)
    (hsuccess : t.authSuccess = s.authSuccess) : Inv c t := by
  refine ⟨(Moved.quiet hquiet (c := c)).sound h.sound, ?_, ?_, ?_, ?_, ?_⟩
  · rw [hquiet.eapSuccess, hquiet.log]
    exact h.success
  · rw [hpae, hquiet.log]
    exact h.current
  · rw [hpae, hquiet.log, hquiet.eapRestart]
    exact h.restarting
  · rw [hpae, hsuccess, hquiet.log]
    exact h.authSuccess
  · rw [hquiet.log]
    exact h.founded

lemma Inv.leave (h : Inv c s) (heap : t.eap = s.eap) (hrestart : t.authPae ≠ .restart)
    (hconnecting : t.authPae ≠ .connecting) (hauthenticating : t.authPae ≠ .authenticating) :
    Inv c t := by
  refine ⟨heap ▸ h.sound, heap ▸ h.success, ?_, fun hpae => absurd hpae hrestart,
    fun hpae => absurd hpae hauthenticating, heap ▸ h.founded⟩
  rintro (hpae | hpae)
  · exact absurd hpae hconnecting
  · exact absurd hpae hauthenticating

/-- The EAP machine notes something. -/
lemma Inv.noted (h : Inv c s) (hlog : u.log = e :: s.eap.log) (hrestart : e ≠ .restart)
    (hauthenticated : e ≠ .authenticated) (hsound : Sound u)
    (hsuccess : u.eapIf.eapSuccess → Since c .initialised u.log)
    (hcurrent : u.eapIf.eapRestart = false → e = .initialised ∨ s.eap.eapIf.eapRestart = false) :
    Inv c { s with eap := u } := by
  refine ⟨hsound, hsuccess, fun hpae => ?_, fun hpae => ⟨?_, fun hclear => ?_⟩,
    fun hpae hsucc => ?_, ?_⟩
  · rw [hlog]
    exact (h.current hpae).cons hrestart
  · rw [hlog]
    exact mem_cons_of_mem _ (h.restarting hpae).1
  · rw [hlog]
    rcases hcurrent hclear with rfl | hold
    · exact (h.restarting hpae).1
    · exact ((h.restarting hpae).2 hold).cons hrestart
  · rw [hlog]
    exact (h.authSuccess hpae hsucc).cons hrestart
  · rw [hlog]
    exact ⟨fun he => absurd he hauthenticated, h.founded⟩

/-- The EAP machine takes a step. -/
lemma Inv.moved (h : Inv c s) (hm : Moved c s.eap u) : Inv c { s with eap := u } := by
  have hsound : Sound u := hm.sound h.sound
  cases hm with
  | quiet hquiet => exact h.frame hquiet rfl rfl
  | initialised hstate hsuccess hrestart haaa hlog =>
    refine h.noted hlog nofun nofun hsound (fun hsucc => ?_) fun _ => .inl rfl
    rw [hsuccess] at hsucc
    cases hsucc
  | aaaIdle hstate hsuccess hrestart haaa hlog =>
    refine h.noted hlog nofun nofun hsound (fun hsucc => ?_) fun hclear => .inr ?_
    · rw [hlog]
      exact (h.success (hsuccess.symm.trans hsucc)).cons nofun
    · exact hrestart.symm.trans hclear
  | reported e hgrounds hselect hidle hrestart haaa hlog =>
    have hne := hgrounds.ne
    refine h.noted hlog hne.2.2.1 hne.2.2.2 hsound (fun _ => ?_) fun hclear => .inr ?_
    · rw [hlog]
      exact ⟨hne.2.1, .inl hgrounds⟩
    · exact hrestart.symm.trans hclear

/-! ## `AUTH_PAE` -/

namespace Port

variable {c : Erp.Crypto} {s : Port W P}

section

variable (h : Inv c s)

include h

/-- `RESTART` takes back that the EAP machine has been initialised, and asks for it. -/
lemma inv_enterRestart : Inv c s.enterRestart := by
  refine ⟨⟨h.sound.chosen, ?_, ?_⟩, ?_, ?_, fun _ => ⟨mem_cons_self, nofun⟩, nofun, ?_⟩
  · exact fun haaa => (h.sound.reported haaa).cons nofun
  · exact fun hidle => mem_cons_of_mem _ (h.sound.waiting hidle)
  · exact fun hsuccess => (h.success hsuccess).cons nofun
  · rintro (hpae | hpae) <;> cases hpae
  · exact ⟨nofun, h.founded⟩

lemma inv_enterConnecting (hcurrent : Current s.eap.log) : Inv c s.enterConnecting :=
  ⟨h.sound, h.success, fun _ => hcurrent, nofun, nofun, h.founded⟩

lemma inv_enterAuthenticated (hpae : s.authPae = .authenticating)
    (hsuccess : s.authSuccess) : Inv c s.enterAuthenticated := by
  refine ⟨⟨h.sound.chosen, ?_, ?_⟩, ?_, ?_, nofun, nofun, ?_⟩
  · exact fun haaa => (h.sound.reported haaa).cons nofun
  · exact fun hidle => mem_cons_of_mem _ (h.sound.waiting hidle)
  · exact fun hsuccess => (h.success hsuccess).cons nofun
  · rintro (hpae | hpae) <;> cases hpae
  · exact ⟨fun _ => ⟨h.authSuccess hpae hsuccess, (h.current (.inr hpae)).mem⟩, h.founded⟩

lemma inv_enterDisconnected : Inv c s.enterDisconnected :=
  h.leave rfl nofun nofun nofun

lemma inv_stepConnecting (hpae : s.authPae = .connecting) : Inv c s.stepConnecting := by
  unfold stepConnecting
  split_ifs
  · exact inv_enterDisconnected h
  · exact ⟨h.sound, h.success, fun _ => (h.current (.inl hpae)), nofun, fun _ => nofun, h.founded⟩
  · exact h

lemma inv_stepAuthenticated : Inv c s.stepAuthenticated := by
  unfold stepAuthenticated
  split_ifs
  · exact inv_enterRestart h
  · exact inv_enterDisconnected h
  · exact h

lemma inv_stepAuthenticating (hpae : s.authPae = .authenticating) : Inv c s.stepAuthenticating := by
  unfold stepAuthenticating
  split_ifs with hsuccess
  · exact inv_enterAuthenticated h hpae hsuccess.1
  · exact h.leave rfl nofun nofun nofun
  · exact h.leave rfl nofun nofun nofun
  · exact h

lemma inv_stepAborting : Inv c s.stepAborting := by
  unfold stepAborting
  split_ifs
  · exact inv_enterDisconnected h
  · exact inv_enterRestart h
  · exact h

/-- The transitions of the states. -/
lemma inv_authPaeLocal : Inv c s.authPaeLocal := by
  unfold authPaeLocal
  cases hpae : s.authPae with
  | initialise => exact inv_enterDisconnected h
  | disconnected => exact inv_enterRestart h
  | restart =>
    dsimp only
    split
    next => exact h
    next hclear => exact inv_enterConnecting h ((h.restarting hpae).2 (Bool.not_eq_true _ ▸ hclear))
  | held =>
    dsimp only
    split
    · exact inv_enterRestart h
    · exact h
  | connecting => exact inv_stepConnecting h hpae
  | authenticated => exact inv_stepAuthenticated h
  | authenticating => exact inv_stepAuthenticating h hpae
  | aborting => exact inv_stepAborting h
  | _ =>
    dsimp only
    split
    · exact h.leave rfl nofun nofun nofun
    · exact h

lemma inv_authPaeStep : Inv c s.authPaeStep := by
  unfold authPaeStep
  split_ifs
  · exact h.leave rfl nofun nofun nofun
  · exact h.leave rfl nofun nofun nofun
  · exact h.leave rfl nofun nofun nofun
  · exact inv_authPaeLocal h

/-- A success that is taken is one of the conversation since `RESTART`. -/
lemma inv_enterSuccess (hsuccess : s.eap.eapIf.eapSuccess) : Inv c s.enterSuccess :=
  ⟨h.sound, h.success, h.current, h.restarting,
    fun hpae _ => since_restart_of_current (h.success hsuccess) (h.current (.inr hpae)), h.founded⟩

lemma inv_accepted (keys : Option Bytes) :
    Inv c ((s.note .aaaSuccess).modifyIf fun i => getKeys { i with aaaSuccess := true } keys) := by
  obtain ⟨hsuccess, hrestart⟩ :=
    getKeys_frame { (s.note .aaaSuccess).eap.eapIf with aaaSuccess := true } keys
  refine h.noted rfl nofun nofun ⟨h.sound.chosen, fun _ => trivial, ?_⟩ ?_ fun hclear => .inr ?_
  · exact fun hidle => mem_cons_of_mem _ (h.sound.waiting hidle)
  · exact fun hsucc => (h.success (hsuccess.symm.trans hsucc)).cons nofun
  · exact hrestart.symm.trans hclear

end

lemma inv_kept : Kept c (Inv c : Port W P → Prop) where
  sound := Inv.sound
  change h hchange := by
    cases hchange with
    | quiet hquiet hport =>
      simp only [Prod.mk.injEq] at hport
      exact h.frame hquiet hport.2.1 hport.2.2.2
    | eap hm => exact h.moved hm
    | accepted keys => exact inv_accepted h keys
    | authPae => exact inv_authPaeStep h
    | success hsuccess => exact inv_enterSuccess h hsuccess
    | auto => exact h.frame (.refl _) rfl rfl

lemma inv_alloc (conf : Conf) (world : W) : Inv c (alloc conf world : Port W P) := by
  refine ⟨⟨nofun, nofun, nofun⟩, nofun, ?_, nofun, nofun, justified_nil⟩
  rintro (hpae | hpae)
  · cases hpae
  · cases hpae

end Port

/-! ## The port -/

/-- In every run of a port, whatever happens and in whatever order its machines are stepped:
whenever `AUTH_PAE` has entered `AUTHENTICATED`, the EAP machine has entered `SUCCESS` with a method
that reports its success, or `SUCCESS2` with a success that the authentication server has reported
since the latest `AAA_IDLE`, or has verified a re-authentication, since the latest `RESTART`. -/
theorem authenticated_on_grounds {env : Env W P} {conf : Conf} {world : W} {rounds : ℕ}
    {alive : ℕ → ℕ → Bool} {s₀ s : Port W P} {events : List (Event W)}
    (hstart : Port.eapolAuthAlloc env conf world rounds alive = .ok s₀)
    (hrun : run (Port.step env) s₀ events = .ok s) (before : List Entry)
    (hentry : .authenticated :: before <:+ s.eap.log) :
    .restart ∈ before ∧ Since env.crypto .restart before := by
  have hinv : Inv env.crypto s := Port.inv_kept.run (Port.inv_alloc conf world) hstart hrun
  exact (hinv.founded.of_suffix hentry rfl).symm

/-- A method that takes the first response: its type, and what it does with the response. -/
def oneRound (method : UInt32) (take : MethodVars Unit → Bytes → MethodVars Unit) :
    EapMethod Unit Bool where
  vendor := Eap.eapVendorIetf
  method := method
  init vars := (some false, vars)
  buildReq priv vars id := (some [1, id, 0, 5, method.toUInt8], priv, vars)
  process _ vars resp := (true, take vars resp)
  isDone := id
  isSuccess := id

/-- A server with the identity and one other method. -/
def sampleEnv : Env Unit Bool where
  methods := [oneRound 1 fun vars resp => { vars with identity := some (resp.drop 5) },
    oneRound 4 fun vars _ => vars]
  getEapUser _ _ := some { methods := [(0, 4)], length_le := by decide, zero_notMem := by decide }
  rand w := (0, w)
  crypto := ⟨fun _ _ => ⟨replicate 32 0, by decide⟩, fun _ _ _ _ => []⟩
  eapServer := true

/-- A station that authenticates. -/
def sampleEvents : List (Event Unit) :=
  [.portEnabled true, .step 20 fun _ _ => true, .eapPacket [2, 1, 0, 6, 1, 97],
    .step 20 fun _ _ => true, .eapPacket [2, 2, 0, 5, 4], .step 20 fun _ _ => true]

/-- The port of the station is authorised, on the grounds of its method. -/
theorem authenticated_of_sampleEvents : ∃ (s₀ s : Port Unit Bool) (before : List Entry),
    Port.eapolAuthAlloc sampleEnv {} () 20 (fun _ _ => true) = .ok s₀ ∧
      run (Port.step sampleEnv) s₀ sampleEvents = .ok s ∧
      s.eap.log = .authenticated :: before ∧ s.authPortStatus = some .authorized ∧
      .restart ∈ before ∧ Since sampleEnv.crypto .restart before := by
  have hreturns : ∃ s₀ s, Port.eapolAuthAlloc sampleEnv {} () 20 (fun _ _ => true) = .ok s₀ ∧
      run (Port.step sampleEnv) s₀ sampleEvents = .ok s ∧
        s.eap.log.head? = some .authenticated ∧ s.authPortStatus = some .authorized := by
    decide +kernel
  obtain ⟨s₀, s, hstart, hrun, hhead, hstatus⟩ := hreturns
  obtain ⟨before, hlog⟩ := head?_eq_some_iff.1 hhead
  exact ⟨s₀, s, before, hstart, hrun, hlog, hstatus,
    authenticated_on_grounds hstart hrun before (hlog ▸ suffix_refl _)⟩

end Hostapd.EapolAuth
