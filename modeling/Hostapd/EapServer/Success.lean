import Hostapd.EapServer.Sm
import Hostapd.Erp.PacketSafety

/-!
# On what grounds the EAP server reports success

What one step of the machine can do to the flags that the port reads: it is initialised, which takes
a reported success back; it enters `AAA_IDLE`, which forgets what the authentication server has
reported; or it reports success, and then on grounds.  Every other step leaves these flags and the
history as they are.
-/

namespace Hostapd.EapServer

open Wire Eap

/-! ## Grounds -/

/-- The authentication server has reported success since the latest entry into `AAA_IDLE`. -/
def Reported : List Entry → Prop
  | [] => False
  | .aaaSuccess :: _ => True
  | .aaaIdle :: _ => False
  | _ :: before => Reported before

/-- The entry reports a success, and on grounds: the method has succeeded, the authentication server
has reported it since the latest `AAA_IDLE`, or the tag of a re-authentication is right under one of
the keys. -/
def Grounds (c : Erp.Crypto) : Entry → List Entry → Prop
  | .success isSuccess, _ => isSuccess
  | .success2, before => Reported before ∧ .aaaIdle ∈ before
  | .reauthenticated keys key packet n, _ =>
    key ∈ keys ∧ Erp.tagMatches c key.rIK packet n = .ok true
  | _, _ => False

/-- There are grounds for success behind the latest entry `stop`. -/
def Since (c : Erp.Crypto) (stop : Entry) : List Entry → Prop
  | [] => False
  | e :: before => e ≠ stop ∧ (Grounds c e before ∨ Since c stop before)

variable {c : Erp.Crypto} {e : Entry} {before : List Entry}

lemma Since.cons {stop : Entry} (h : Since c stop before) (hne : e ≠ stop) :
    Since c stop (e :: before) := ⟨hne, .inr h⟩

/-! ## Steps -/

variable {W P : Type} {t s : EapSm W P} {next : EapState} {rounds : ℕ}

/-- What the flags of a machine stand for. -/
structure Sound (s : EapSm W P) : Prop where
  chosen : s.state = .selectAction → s.decision = .success → s.methodSucceeds
  /-- A success of the authentication server was reported since the latest `AAA_IDLE`. -/
  reported : s.eapIf.aaaSuccess → Reported s.log
  waiting : s.state = .aaaIdle → .aaaIdle ∈ s.log

/-- The flags that the port reads, and the history. -/
def EapSm.seen (s : EapSm W P) : Bool × Bool × Bool × List Entry :=
  (s.eapIf.eapSuccess, s.eapIf.eapRestart, s.eapIf.aaaSuccess, s.log)

/-- The flags that the port reads and the history are as before. -/
structure Quiet (s t : EapSm W P) : Prop where
  seen : t.seen = s.seen
  chosen : Sound s → t.state = .selectAction → t.decision = .success → t.methodSucceeds
  waiting : t.state = .aaaIdle → s.state = .aaaIdle

/-- What one step does to the flags and the history. -/
inductive Moved (c : Erp.Crypto) (s t : EapSm W P) : Prop
  | quiet (h : Quiet s t)
  | initialised (hstate : t.state = .initialise) (hsuccess : t.eapIf.eapSuccess = false)
    (hrestart : t.eapIf.eapRestart = false) (haaa : t.eapIf.aaaSuccess = s.eapIf.aaaSuccess)
    (hlog : t.log = .initialised :: s.log)
  | aaaIdle (hstate : t.state = .aaaIdle) (hsuccess : t.eapIf.eapSuccess = s.eapIf.eapSuccess)
    (hrestart : t.eapIf.eapRestart = s.eapIf.eapRestart) (haaa : t.eapIf.aaaSuccess = false)
    (hlog : t.log = .aaaIdle :: s.log)
  | reported (e : Entry) (hgrounds : Grounds c e s.log) (hselect : t.state ≠ .selectAction)
    (hidle : t.state ≠ .aaaIdle) (hrestart : t.eapIf.eapRestart = s.eapIf.eapRestart)
    (haaa : t.eapIf.aaaSuccess = s.eapIf.aaaSuccess) (hlog : t.log = e :: s.log)

variable {s u : EapSm W P}

lemma Quiet.eapSuccess (h : Quiet s t) : t.eapIf.eapSuccess = s.eapIf.eapSuccess :=
  congrArg (·.1) h.seen

lemma Quiet.eapRestart (h : Quiet s t) : t.eapIf.eapRestart = s.eapIf.eapRestart :=
  congrArg (·.2.1) h.seen

lemma Quiet.aaaSuccess (h : Quiet s t) : t.eapIf.aaaSuccess = s.eapIf.aaaSuccess :=
  congrArg (·.2.2.1) h.seen

lemma Quiet.log (h : Quiet s t) : t.log = s.log := congrArg (·.2.2.2) h.seen

lemma Quiet.refl (s : EapSm W P) : Quiet s s := ⟨rfl, fun h => h.chosen, id⟩

lemma Quiet.trans (h : Quiet s t) (h' : Quiet t u) (hs : Sound t) : Quiet s u :=
  ⟨h'.seen.trans h.seen, fun _ => h'.chosen hs, fun hu => h.waiting (h'.waiting hu)⟩

lemma Quiet.of_vars {vars : MethodVars W} (h : Quiet { s with vars := vars } t) : Quiet s t :=
  ⟨h.seen, fun hs => h.chosen ⟨hs.chosen, hs.reported, hs.waiting⟩, h.waiting⟩

lemma Quiet.withIf (s : EapSm W P) {i : EapIf} (h : { s with eapIf := i }.seen = s.seen) :
    Quiet s { s with eapIf := i } :=
  ⟨h, fun hs => hs.chosen, id⟩

lemma Quiet.enter (hselect : t.state ≠ .selectAction) (hidle : t.state ≠ .aaaIdle)
    (hseen : t.seen = s.seen) : Quiet s t :=
  ⟨hseen, fun _ h => absurd h hselect, fun h => absurd h hidle⟩

lemma Quiet.enter_of_eq (hstate : t.state = next) (hselect : next ≠ .selectAction)
    (hidle : next ≠ .aaaIdle) (hseen : t.seen = s.seen) : Quiet s t := by
  subst hstate
  exact .enter hselect hidle hseen

lemma Reported.cons (h : Reported before) (hne : e ≠ .aaaIdle) : Reported (e :: before) := by
  cases e <;> first | exact absurd rfl hne | exact h | trivial

lemma Grounds.ne (h : Grounds c e before) :
    e ≠ .aaaIdle ∧ e ≠ .initialised ∧ e ≠ .restart ∧ e ≠ .authenticated := by
  refine ⟨?_, ?_, ?_, ?_⟩ <;> rintro rfl <;> exact h

/-- Every step keeps what the flags stand for. -/
lemma Moved.sound (h : Moved c s t) (hs : Sound s) : Sound t := by
  cases h with
  | quiet h =>
    refine ⟨h.chosen hs, fun haaa => ?_, fun hidle => ?_⟩
    · rw [h.log]
      exact hs.reported (h.aaaSuccess.symm.trans haaa)
    · rw [h.log]
      exact hs.waiting (h.waiting hidle)
  | initialised hstate hsuccess hrestart haaa hlog =>
    refine ⟨fun h => ?_, fun h => ?_, fun h => ?_⟩
    · rw [hstate] at h
      cases h
    · rw [hlog]
      exact (hs.reported (haaa.symm.trans h)).cons nofun
    · rw [hstate] at h
      cases h
  | aaaIdle hstate hsuccess hrestart haaa hlog =>
    refine ⟨fun h => ?_, fun h => ?_, fun _ => ?_⟩
    · rw [hstate] at h
      cases h
    · rw [haaa] at h
      cases h
    · rw [hlog]
      exact List.mem_cons_self
  | reported e hgrounds hselect hidle hrestart haaa hlog =>
    refine ⟨fun h => absurd h hselect, fun h => ?_, fun h => absurd h hidle⟩
    rw [hlog]
    exact (hs.reported (haaa.symm.trans h)).cons hgrounds.ne.1

/-- A quiet part before a step changes nothing about it. -/
lemma Quiet.moved {u : EapSm W P} (h : Quiet s t) (hs : Sound t) (hu : Moved c t u) :
    Moved c s u := by
  cases hu with
  | quiet hu => exact .quiet (h.trans hu hs)
  | initialised hstate hsuccess hrestart haaa hlog =>
    exact .initialised hstate hsuccess hrestart (haaa.trans h.aaaSuccess) (h.log ▸ hlog)
  | aaaIdle hstate hsuccess hrestart haaa hlog =>
    exact .aaaIdle hstate (hsuccess.trans h.eapSuccess) (hrestart.trans h.eapRestart) haaa
      (h.log ▸ hlog)
  | reported e hgrounds hselect hidle hrestart haaa hlog =>
    exact .reported e (h.log ▸ hgrounds) hselect hidle (hrestart.trans h.eapRestart)
      (haaa.trans h.aaaSuccess) (h.log ▸ hlog)

/-! ## Entries into states -/

namespace EapSm

variable (env : Env W P) (s : EapSm W P) {t : EapSm W P}

lemma moved_enterInitialise (c : Erp.Crypto) (glob : Bool) :
    Moved c s (s.enterInitialise env glob) := by
  unfold enterInitialise parseFirst
  split <;> exact .initialised rfl rfl rfl rfl rfl

lemma quiet_enterRetransmit (hselect : next ≠ .selectAction) (hidle : next ≠ .aaaIdle) :
    Quiet s (s.enterRetransmit next) := by
  unfold enterRetransmit
  dsimp only
  split <;> exact .enter hselect hidle rfl

lemma quiet_enterSendRequest (hselect : next ≠ .selectAction) (hidle : next ≠ .aaaIdle) :
    Quiet s (s.enterSendRequest next) := by
  unfold enterSendRequest
  dsimp only
  split <;> exact .enter hselect hidle rfl

lemma quiet_enterIntegrityCheck (h : s.enterIntegrityCheck = .ok t) : Quiet s t := by
  unfold enterIntegrityCheck at h
  dsimp only at h
  split at h
  · split at h <;> cases h
    exact .enter nofun nofun rfl
  · cases h
    exact .enter nofun nofun rfl

lemma quiet_enterMethodRequest : Quiet s (s.enterMethodRequest env) := by
  unfold enterMethodRequest
  dsimp only
  split <;> exact .enter nofun nofun rfl

lemma quiet_enterMethodResponse (h : s.enterMethodResponse env = .ok t) : Quiet s t := by
  unfold enterMethodResponse at h
  dsimp only at h
  split at h
  · split at h <;> cases h
    unfold responded
    split <;> exact .enter nofun nofun rfl
  · cases h
    exact .enter nofun nofun rfl

lemma proposed_frame : s.proposed.state = s.state ∧ s.proposed.seen = s.seen := by
  unfold proposed
  split <;> exact ⟨rfl, rfl⟩

/-- Whatever methods are tried, only the method and its variables change, and the decision. -/
lemma quiet_tryAnotherMethod (n : ℕ) {s₀ s : EapSm W P} (h : tryAnotherMethod env n s = .ok t)
    (hs : s.state = .proposeMethod) (hseen : s.seen = s₀.seen) : Quiet s₀ t := by
  induction n generalizing s with
  | zero => cases h
  | succ n ih =>
    rw [tryAnotherMethod] at h
    dsimp only at h
    split at h
    · cases h
      exact .enter_of_eq hs nofun nofun hseen
    split at h
    · cases h
      obtain ⟨hstate, hproposed⟩ := proposed_frame _
      exact .enter_of_eq (hstate.trans hs) nofun nofun (hproposed.trans hseen)
    · exact ih h hs hseen

lemma quiet_enterProposeMethod (h : s.enterProposeMethod env rounds = .ok t) : Quiet s t :=
  quiet_tryAnotherMethod env rounds h rfl rfl

lemma quiet_enterNak : Quiet s s.enterNak := by
  unfold enterNak
  dsimp only
  split
  · unfold policyUpdate
    split
    · split <;> exact .enter nofun nofun rfl
    · exact .enter nofun nofun rfl
  · exact .enter nofun nofun rfl

section Decision

variable {s : EapSm W P} (hstate : t.state = .selectAction) (hseen : t.seen = s.seen)
include hstate hseen

lemma quiet_of_decision (hdecision : t.decision ≠ .success) : Quiet s t := by
  refine ⟨hseen, fun _ _ h => absurd h hdecision, fun h => ?_⟩
  rw [hstate] at h
  cases h

lemma quiet_decideMore : Quiet s (t.decideMore env) := by
  unfold decideMore
  dsimp only
  split_ifs <;> exact quiet_of_decision hstate hseen nofun

/-- The policy is quiet. -/
lemma quiet_getDecision : Quiet s (t.getDecision env) := by
  unfold getDecision
  split
  · exact quiet_of_decision hstate hseen nofun
  split
  next hsucceeds =>
    -- the only decision for success, made because the method has succeeded
    refine ⟨hseen, fun _ _ _ => hsucceeds.2, fun h => ?_⟩
    rw [show t.state = .aaaIdle from h] at hstate
    cases hstate
  next =>
    split
    · exact quiet_of_decision hstate hseen nofun
    split
    · split
      · unfold decideUser
        split
        · exact quiet_of_decision hstate hseen nofun
        dsimp only
        split
        · exact quiet_of_decision hstate hseen nofun
        · exact quiet_decideMore env hstate hseen
      · exact quiet_decideMore env hstate hseen
    · exact quiet_decideMore env hstate hseen

end Decision

lemma quiet_enterSelectAction : Quiet s (s.enterSelectAction env) :=
  quiet_getDecision env rfl rfl

lemma quiet_forwarded {s : EapSm W P} (keyname : Option Bytes)
    (hstate : t.state = .initiateReceived) (hseen : t.seen = s.seen) :
    Quiet s (t.forwarded keyname) := by
  cases keyname with
  | _ => exact .enter_of_eq hstate nofun nofun hseen

/-- What a server answers to a packet for a re-authentication: success only if the tag is right. -/
lemma moved_answered {s : EapSm W P} {msg : Bytes} {r : Erp.InitiateResult}
    (hstate : s.state = .initiateReceived)
    (hr : Erp.initiateReceived env.crypto s.erpKeys msg = .ok r) :
    Moved env.crypto s (s.answered env msg r) := by
  have hselect : s.state ≠ .selectAction := by rw [hstate]; nofun
  have hidle : s.state ≠ .aaaIdle := by rw [hstate]; nofun
  cases r with
  | accepted key seq cryptosuite hashLen =>
    obtain ⟨r, hr', hfrom⟩ := Erp.initiateReceived_safe env.crypto s.erpKeys msg
    rw [hr] at hr'
    cases hr'
    have hmem : key ∈ s.erpKeys := List.mem_of_find?_eq_some (hfrom _ _ _ _ rfl).1
    have hgrounds : Grounds env.crypto (.reauthenticated s.erpKeys key
        (msg.take (ofBe16 (msg.drop 2)).toNat) hashLen) s.log :=
      ⟨hmem, (hfrom _ _ _ _ rfl).2.2⟩
    exact .reported _ hgrounds hselect hidle rfl rfl rfl
  | _ => exact .quiet (.enter hselect hidle rfl)

/-- A re-authentication is reported with a right tag. -/
lemma moved_enterInitiateReceived (h : s.enterInitiateReceived env = .ok t) (hs : Sound s) :
    Moved env.crypto s t := by
  unfold enterInitiateReceived at h
  dsimp only at h
  have hquiet : Quiet s { s.entry false .initiateReceived with
      rx := { (s.entry false .initiateReceived).rx with rxInitiate := false } } :=
    .enter nofun nofun rfl
  split at h
  · split at h
    · cases h
      exact .quiet (.enter nofun nofun rfl)
    obtain ⟨r, hr, h⟩ := Checked.bind_eq_ok.mp h
    cases h
    refine hquiet.moved ((Moved.quiet hquiet (c := env.crypto)).sound hs) ?_
    exact moved_answered env rfl (lift_eq_ok.mp hr)
  · obtain ⟨keyname, -, h⟩ := Checked.bind_eq_ok.mp h
    cases h
    exact .quiet (quiet_forwarded keyname rfl rfl)

/-! ## Transitions -/

lemma quiet_stepInitialise : Quiet s (s.stepInitialise env) := by
  unfold stepInitialise
  split
  · split
    · exact s.quiet_enterNak
    · unfold enterPickUpMethod
      dsimp only
      split
      · unfold pickUp
        split
        · split
          · unfold withMethod
            split <;> exact .enter nofun nofun rfl
          · exact .enter nofun nofun rfl
        · exact .enter nofun nofun rfl
      · exact .enter nofun nofun rfl
  · exact s.quiet_enterSelectAction env

lemma quiet_stepPickUpMethod (h : s.stepPickUpMethod env = .ok t) : Quiet s t := by
  unfold stepPickUpMethod at h
  split at h
  · cases h
    exact s.quiet_enterSelectAction env
  · exact s.quiet_enterMethodResponse env h

lemma quiet_stepIdle : Quiet s (s.stepIdle env) := by
  unfold stepIdle
  split
  · split
    · exact quiet_getDecision env rfl rfl
    · exact s.quiet_enterRetransmit nofun nofun
  · split
    · exact .enter nofun nofun rfl
    · exact .refl s

lemma quiet_stepRetransmit {failed waiting : EapState} (hselect : failed ≠ .selectAction)
    (hidle : failed ≠ .aaaIdle) (hselect' : waiting ≠ .selectAction) (hidle' : waiting ≠ .aaaIdle) :
    Quiet s (s.stepRetransmit failed waiting) := by
  unfold stepRetransmit
  split
  · exact .enter hselect hidle rfl
  · exact .enter hselect' hidle' rfl

lemma moved_stepReceived (h : s.stepReceived env = .ok t) (hs : Sound s) :
    Moved env.crypto s t := by
  unfold stepReceived at h
  split at h
  · cases h
    exact .quiet s.quiet_enterNak
  split at h
  · exact .quiet (s.quiet_enterIntegrityCheck h)
  split at h
  · exact s.moved_enterInitiateReceived env h hs
  · cases h
    exact .quiet (.enter nofun nofun rfl)

lemma quiet_stepIntegrityCheck (h : s.stepIntegrityCheck env = .ok t) : Quiet s t := by
  unfold stepIntegrityCheck at h
  split at h
  · cases h
    exact .enter nofun nofun rfl
  · exact s.quiet_enterMethodResponse env h

lemma quiet_stepMethodRequest : Quiet s s.stepMethodRequest := by
  unfold stepMethodRequest
  split
  · exact .enter nofun nofun rfl
  have hsent : Quiet s (s.enterSendRequest .sendRequest) := s.quiet_enterSendRequest nofun nofun
  unfold requested
  split
  · exact .enter nofun nofun hsent.seen
  · exact hsent

lemma quiet_stepMethodResponse (h : s.stepMethodResponse env = .ok t) : Quiet s t := by
  unfold stepMethodResponse at h
  split at h
  · cases h
    exact s.quiet_enterSelectAction env
  split at h
  · cases h
    exact .refl s
  · exact .of_vars (quiet_enterMethodResponse env _ h)
  · cases h
    exact s.quiet_enterMethodRequest env

lemma quiet_stepProposeMethod (h : s.stepProposeMethod env rounds = .ok t) : Quiet s t := by
  unfold stepProposeMethod at h
  split at h
  · cases h
    exact .of_vars (.refl _)
  · exact .of_vars (quiet_enterProposeMethod env _ h)
  · cases h
    exact s.quiet_enterMethodRequest env

/-- Success is chosen only for a method that has succeeded. -/
lemma moved_stepSelectAction (h : s.stepSelectAction env rounds = .ok t)
    (hstate : s.state = .selectAction) (hs : Sound s) : Moved env.crypto s t := by
  unfold stepSelectAction at h
  split at h
  · cases h
    exact .quiet (.enter nofun nofun rfl)
  next hdecision =>
    cases h
    -- the decision is for success, which is the method's
    exact .reported (.success s.methodSucceeds) (hs.chosen hstate hdecision) nofun nofun rfl rfl rfl
  · cases h
    exact .quiet (.enter nofun nofun rfl)
  · cases h
    exact .quiet (.enter nofun nofun rfl)
  · split at h
    · exact s.moved_enterInitiateReceived env h hs
    · exact .quiet (s.quiet_enterProposeMethod env h)

lemma quiet_stepIdle2 : Quiet s s.stepIdle2 := by
  unfold stepIdle2
  split
  · exact .enter nofun nofun rfl
  · split
    · exact s.quiet_enterRetransmit nofun nofun
    · exact .refl s

lemma quiet_stepReceived2 : Quiet s s.stepReceived2 := by
  unfold stepReceived2
  split
  · exact .enter nofun nofun rfl
  · exact .enter nofun nofun rfl

lemma moved_stepAaaIdle (c : Erp.Crypto) (hstate : s.state = .aaaIdle) (hs : Sound s) :
    Moved c s s.stepAaaIdle := by
  unfold stepAaaIdle
  split
  · exact .quiet (.enter nofun nofun rfl)
  split
  next haaa =>
    exact .reported .success2 ⟨hs.reported haaa, hs.waiting hstate⟩ nofun nofun rfl rfl rfl
  next =>
    split
    · exact .quiet (.enter nofun nofun rfl)
    · split
      · exact .quiet (.enter nofun nofun rfl)
      · exact .quiet (.refl s)

/-- The transitions of a state are steps of that kind. -/
lemma moved_stepLocal (h : s.stepLocal env rounds = .ok t) (hs : Sound s) :
    Moved env.crypto s t := by
  unfold stepLocal at h
  cases hstate : s.state <;> simp only [hstate] at h
  case received => exact s.moved_stepReceived env h hs
  case selectAction => exact s.moved_stepSelectAction env h hstate hs
  case pickUpMethod => exact .quiet (s.quiet_stepPickUpMethod env h)
  case integrityCheck => exact .quiet (s.quiet_stepIntegrityCheck env h)
  case methodResponse => exact .quiet (s.quiet_stepMethodResponse env h)
  case proposeMethod => exact .quiet (s.quiet_stepProposeMethod env h)
  all_goals cases h
  case disabled =>
    split
    · exact s.moved_enterInitialise env env.crypto false
    · exact .quiet (.refl s)
  case initialise => exact .quiet (s.quiet_stepInitialise env)
  case idle => exact .quiet (s.quiet_stepIdle env)
  case methodRequest => exact .quiet s.quiet_stepMethodRequest
  case sendRequest => exact .quiet (.enter nofun nofun rfl)
  case discard => exact .quiet (.enter nofun nofun rfl)
  case nak => exact .quiet (s.quiet_enterSelectAction env)
  case retransmit => exact .quiet (s.quiet_stepRetransmit nofun nofun nofun nofun)
  case success => exact .quiet (.refl s)
  case failure => exact .quiet (.refl s)
  case timeoutFailure => exact .quiet (.refl s)
  case initialisePassthrough =>
    split
    · exact .aaaIdle rfl rfl rfl rfl rfl
    · exact .quiet (.enter nofun nofun rfl)
  case idle2 => exact .quiet s.quiet_stepIdle2
  case retransmit2 => exact .quiet (s.quiet_stepRetransmit nofun nofun nofun nofun)
  case received2 => exact .quiet s.quiet_stepReceived2
  case discard2 => exact .quiet (.enter nofun nofun rfl)
  case sendRequest2 => exact .quiet (.enter nofun nofun rfl)
  case aaaRequest => exact .aaaIdle rfl rfl rfl rfl rfl
  case aaaResponse => exact .quiet (s.quiet_enterSendRequest nofun nofun)
  case aaaIdle => exact s.moved_stepAaaIdle env.crypto hstate hs
  case timeoutFailure2 => exact .quiet (.refl s)
  case failure2 => exact .quiet (.refl s)
  case success2 => exact .quiet (.refl s)
  case initiateReauthStart => exact .quiet (s.quiet_enterSendRequest nofun nofun)
  case initiateReceived =>
    split
    · exact .quiet (.refl s)
    · exact .quiet (s.quiet_enterSelectAction env)

lemma moved_smStep (h : s.smStep env rounds = .ok t) (hs : Sound s) : Moved env.crypto s t := by
  unfold smStep at h
  split at h
  · cases h
    exact s.moved_enterInitialise env env.crypto true
  split at h
  · cases h
    exact .quiet (.enter nofun nofun rfl)
  split at h
  · cases h
    split
    · exact .quiet (.enter nofun nofun rfl)
    · exact .quiet (.refl s)
  · exact s.moved_stepLocal env h hs

/-- What every step keeps, the loop keeps. -/
lemma serverSmStep_induction {Q : EapSm W P → Prop}
    (hstep : ∀ s t, Sound s → Q s → Moved env.crypto s t → Q t) (n : ℕ) {s : EapSm W P}
    {changed : Bool} (h : s.serverSmStep env n = .ok (t, changed)) (hs : Sound s) (hq : Q s) :
    Sound t ∧ Q t := by
  induction n generalizing s changed with
  | zero =>
    cases h
    exact ⟨hs, hq⟩
  | succ n ih =>
    obtain ⟨u, hu, h⟩ := Checked.bind_eq_ok.mp h
    have hquiet : Quiet s { s with changed := false } := ⟨rfl, fun h => h.chosen, id⟩
    have hs' : Sound { s with changed := false } := (Moved.quiet hquiet (c := env.crypto)).sound hs
    have hmoved : Moved env.crypto s u := hquiet.moved hs' (moved_smStep env _ hu hs')
    split at h
    · obtain ⟨r, hr, h⟩ := Checked.bind_eq_ok.mp h
      cases h
      exact ih hr (hmoved.sound hs) (hstep s u hs hq hmoved)
    · cases h
      exact ⟨hmoved.sound hs, hstep s t hs hq hmoved⟩

end EapSm

end Hostapd.EapServer
