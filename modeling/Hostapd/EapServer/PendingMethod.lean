import Hostapd.EapServer.Sm
import Hostapd.Foundation.Machine

/-!
# A method of the EAP server that gets ready

A method may need time before it can build its request.  While it gets ready, every step of the
machine takes the index into the user's list of methods back by one.
-/

namespace Hostapd.EapServer

open Wire Eap Machine

namespace EapSm

variable {W P : Type} (env : Env W P) (n : ℕ)

def IfUp (eapIf : EapIf) : Prop := eapIf.portEnabled ∧ eapIf.eapRestart = false

/-- `PROPOSE_METHOD` waits for the method that the index stands behind. -/
structure Waits (s : EapSm W P) : Prop where
  state : s.state = .proposeMethod
  pending : s.vars.methodPending = .wait
  known : s.vars.identity ≠ none ∧ s.currentId ≠ -1
  rounds : s.numRounds ≤ maxAuthRounds

/-- `eap_server_sm_step` with the flags of the port. -/
def stepWith (s : EapSm W P) (eapIf : EapIf) : Except Fault (EapSm W P) :=
  (serverSmStep env (n + 1) { s with eapIf := eapIf }).map Prod.fst

/-- The machine with other flags of the port and the index taken back. -/
def back (s : EapSm W P) (eapIf : EapIf) : EapSm W P :=
  { s with
    eapIf := eapIf, changed := false
    vars := { s.vars with userEapMethodIndex := s.vars.userEapMethodIndex - 1 } }

variable {s t : EapSm W P} {i k : ℕ}

lemma serverSmStep_unchanged (h : ({ s with changed := false } : EapSm W P).smStep env n = .ok t)
    (ht : t.changed = false) : serverSmStep env (n + 1) s = .ok (t, false) := by
  rw [serverSmStep, h]
  simp [bind, Except.bind, ht]

lemma smStep_eq_stepLocal (hport : IfUp s.eapIf) (hrounds : s.numRounds ≤ maxAuthRounds) :
    s.smStep env n = s.stepLocal env n := by
  rw [smStep, if_neg (by simp [hport.2]), if_neg (by simp [hport.1]), if_neg (by omega)]

lemma Waits.step (h : s.Waits) {eapIf : EapIf} (hup : IfUp eapIf) :
    stepWith env n s eapIf = .ok (s.back eapIf) := by
  have hstep : ({ s with eapIf := eapIf, changed := false } : EapSm W P).smStep env n =
      .ok (s.back eapIf) := by
    rw [smStep_eq_stepLocal env n (by exact hup) (by exact h.rounds)]
    simp [stepLocal, h.state, stepProposeMethod, h.pending, back]
  rw [stepWith, serverSmStep_unchanged env n hstep rfl]
  rfl

/-- Every step takes the index back by one. -/
lemma Waits.run (h : s.Waits) (hup : IfUp s.eapIf) {ifs : List EapIf} (hifs : ∀ f ∈ ifs, IfUp f) :
    ∃ s', Machine.run (stepWith env n) s ifs = .ok s' ∧ s'.Waits ∧ IfUp s'.eapIf ∧
      s'.vars.user = s.vars.user ∧
      s'.vars.userEapMethodIndex = s.vars.userEapMethodIndex - ifs.length := by
  induction ifs generalizing s with
  | nil => exact ⟨s, rfl, h, hup, rfl, rfl⟩
  | cons f ifs ih =>
    obtain ⟨hf, hifs⟩ := List.forall_mem_cons.mp hifs
    obtain ⟨s', hrun, hwaits, hup', huser, hindex⟩ :=
      @ih (s.back f) ⟨h.state, h.pending, h.known, h.rounds⟩ hf hifs
    refine ⟨s', run_cons_eq_ok.mpr ⟨_, h.step env n hf, hrun⟩, hwaits, hup', huser, ?_⟩
    have hone : (s.back f).vars.userEapMethodIndex = s.vars.userEapMethodIndex - 1 := rfl
    rw [hindex, hone, List.length_cons]
    omega

/-- **A pending method is resumed, not replaced,** if it is the first one of the user's list or the
only step while it is waited for is the one that ends the call in which the wait began.  After `k +
1` steps the machine proposes the entry `k` places before the one that it waited for. -/
theorem pending_method_resumed (h : s.Waits) (hup : IfUp s.eapIf)
    (hindex : s.vars.userEapMethodIndex = i + 1) {entry : UInt32 × UInt32}
    (hentry : User.at? s.vars.user i = some entry) {ifs : List EapIf} (hifs : ∀ f ∈ ifs, IfUp f)
    (hlen : ifs.length = k + 1) (rounds : ℕ) :
    ∃ s' t : EapSm W P, Machine.run (stepWith env n) s ifs = .ok s' ∧
      s'.pendingCb.smStep env rounds = t.enterProposeMethod env rounds ∧
      (t.vars.userEapMethodIndex = i ↔ k = 0 ∨ i = 0) ∧
      (k = 0 ∨ i = 0 → t.getNextMethod.1 = entry) := by
  obtain ⟨s', hrun, hwaits, hup', huser, hback⟩ := h.run env n hup hifs
  rw [hindex, hlen, Nat.add_sub_add_right] at hback
  refine ⟨s', { s' with vars := { s'.vars with methodPending := .none } }, hrun, ?_, ?_,
    fun hk => ?_⟩
  · rw [pendingCb, if_pos hwaits.pending,
      smStep_eq_stepLocal env rounds (by exact hup') (by exact hwaits.rounds)]
    simp [stepLocal, hwaits.state, stepProposeMethod]
  · rw [hback]
    omega
  · have hi : i - k = i := by omega
    simp [getNextMethod, hwaits.known, hback, huser, hi, hentry]

/-- A method that takes every response with an octet behind the type, and needs time to get ready if
it says so. -/
def sampleMethod (type : UInt8) (pending : MethodPending) : EapMethod Unit Unit where
  vendor := eapVendorIetf
  method := number type
  init vars := (some (), { vars with methodPending := pending })
  buildReq _ vars id := (some [1, id, 0, 5, type], (), vars)
  check := some fun _ _ resp => decide (resp.length < 6)
  process _ vars _ := ((), vars)
  isDone _ := false
  isSuccess _ := false

/-- The second of two methods has to get ready. -/
def sampleServer : Env Unit Unit where
  methods := [sampleMethod 4 .none, sampleMethod 6 .wait]
  getEapUser _ _ := none
  rand _ := (0, ())
  crypto := ⟨fun _ _ => ⟨List.replicate 32 0, rfl⟩, fun _ _ _ n => List.replicate n 0⟩
  eapServer := true

def sampleUser : User where
  methods := [(0, 4), (0, 6)]
  length_le := by decide
  zero_notMem := by decide

/-- A machine that goes on with the second method. -/
def sampleNext : EapSm Unit Unit where
  state := .nak
  eapIf := { portEnabled := true }
  currentId := 7
  vars := { identity := some [97], user := some sampleUser, userEapMethodIndex := 1, world := () }

/-- The second method is resumed if it is ready before another step is made. -/
theorem pending_method_resumed_of_one : ∃ s s' t : EapSm Unit Unit,
    sampleNext.enterProposeMethod sampleServer 1 = .ok s ∧
      Machine.run (stepWith sampleServer 0) s [{ portEnabled := true }] = .ok s' ∧
      s'.pendingCb.smStep sampleServer 1 = t.enterProposeMethod sampleServer 1 ∧
      t.getNextMethod.1 = (0, 6) := by
  obtain ⟨s, hs, hwaits, hup, hindex, hentry⟩ : ∃ s, sampleNext.enterProposeMethod sampleServer 1 =
      .ok s ∧ s.Waits ∧ IfUp s.eapIf ∧ s.vars.userEapMethodIndex = 1 + 1 ∧
        User.at? s.vars.user 1 = some (0, 6) :=
    ⟨_, rfl, ⟨rfl, rfl, ⟨nofun, by decide⟩, by decide⟩, ⟨rfl, rfl⟩, rfl, rfl⟩
  have hifs : ∀ f ∈ [({ portEnabled := true } : EapIf)], IfUp f :=
    List.forall_mem_singleton.mpr ⟨rfl, rfl⟩
  obtain ⟨s', t, hrun, hstep, -, hnext⟩ :=
    pending_method_resumed sampleServer 0 hwaits hup hindex hentry hifs rfl 1
  exact ⟨s, s', t, hs, hrun, hstep, hnext (.inl rfl)⟩

/-- With one more step the first method is proposed in its place. -/
theorem pending_method_replaced : ∃ s s' t : EapSm Unit Unit,
    sampleNext.enterProposeMethod sampleServer 1 = .ok s ∧ s.currentMethod = number 6 ∧
    Machine.run (stepWith sampleServer 0) s [{ portEnabled := true }, { portEnabled := true }] =
      .ok s' ∧
    s'.pendingCb.smStep sampleServer 1 = .ok t ∧ t.currentMethod = number 4 :=
  ⟨_, _, _, rfl, rfl, rfl, rfl, rfl⟩

end EapSm

end Hostapd.EapServer
