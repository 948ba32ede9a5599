import Hostapd.EapolAuth.Authorization

/-!
# The controlled port follows `AUTH_PAE`

`authPortStatus`, which opens the port, is written by `AUTH_PAE` only.  So what its transitions keep
holds whatever the other machines, the EAP server and the frames of the station do in between.
-/

namespace Hostapd.EapolAuth

open Wire (Bytes)
open Wire.Checked EapServer Machine List

variable {W P : Type} {s t : Port W P}

/-- The status that goes with a state; the states for a fixed status are not entered. -/
def Fits : AuthPae → Option PortState → Prop
  | .forceAuth, _ | .forceUnauth, _ => False
  | .authenticated, status => status = some .authorized
  | .disconnected, status | .held, status => status = some .unauthorized
  | _, _ => True

/-- The port is under control of `AUTH_PAE`. -/
structure PortOk (s : Port W P) : Prop where
  auto : s.portControl = .auto
  fits : Fits s.authPae s.authPortStatus
  entered : s.authPortStatus = some .authorized → .authenticated ∈ s.eap.log

namespace Port

/-- `AUTH_PAE` sets the status that goes with its state. -/
lemma ok_authPaeStep (h : PortOk s) : PortOk s.authPaeStep := by
  have hrestart : PortOk s.enterRestart :=
    ⟨h.auto, trivial, fun hopen => mem_cons_of_mem _ (h.entered hopen)⟩
  have hdisconnected : PortOk s.enterDisconnected := ⟨h.auto, rfl, nofun⟩
  have hforced : s.authPae ≠ .forceAuth ∧ s.authPae ≠ .forceUnauth := by
    constructor <;> intro hpae <;> exact (hpae ▸ h.fits :)
  unfold authPaeStep
  split_ifs with hinit hforce hunforce
  · exact ⟨h.auto, trivial, h.entered⟩
  · exact absurd (h.auto.symm.trans hforce.1) nofun
  · exact absurd (h.auto.symm.trans hunforce.1) nofun
  unfold authPaeLocal
  split
  · exact hdisconnected
  · exact hrestart
  · split
    · exact h
    · exact ⟨h.auto, trivial, h.entered⟩
  · split
    · exact hrestart
    · exact h
  · unfold stepConnecting
    split_ifs
    · exact hdisconnected
    · exact ⟨h.auto, trivial, h.entered⟩
    · exact h
  · unfold stepAuthenticated
    split_ifs
    · exact hrestart
    · exact hdisconnected
    · exact h
  · unfold stepAuthenticating
    split_ifs
    · exact ⟨h.auto, rfl, fun _ => mem_cons_self⟩
    · exact ⟨h.auto, rfl, nofun⟩
    · exact ⟨h.auto, trivial, h.entered⟩
    · exact h
  · unfold stepAborting
    split_ifs
    · exact hdisconnected
    · exact hrestart
    · exact h
  · next hpae => exact absurd hpae hforced.1
  · next hpae => exact absurd hpae hforced.2

/-- Every change keeps the status in step. -/
lemma ok_change {c : Erp.Crypto} (h : PortOk s) (hchange : Change c s t) : PortOk t := by
  cases hchange with
  | quiet hquiet hport =>
    simp only [Prod.mk.injEq] at hport
    obtain ⟨hcontrol, hpae, hstatus, -⟩ := hport
    refine ⟨hcontrol ▸ h.auto, hpae ▸ hstatus ▸ h.fits, ?_⟩
    rw [hstatus, hquiet.log]
    exact h.entered
  | eap hm =>
    refine ⟨h.auto, h.fits, fun hopen => ?_⟩
    cases hm with
    | quiet hquiet => exact hquiet.log ▸ h.entered hopen
    | initialised _ _ _ _ hlog | aaaIdle _ _ _ _ hlog | reported _ _ _ _ _ _ hlog =>
      exact hlog ▸ mem_cons_of_mem _ (h.entered hopen)
  | accepted keys => exact ⟨h.auto, h.fits, fun hopen => mem_cons_of_mem _ (h.entered hopen)⟩
  | authPae => exact ok_authPaeStep h
  | success => exact ⟨h.auto, h.fits, h.entered⟩
  | auto => exact ⟨rfl, h.fits, h.entered⟩

lemma ok_kept {c : Erp.Crypto} : Kept c fun s : Port W P => Inv c s ∧ PortOk s where
  sound h := h.1.sound
  change h hchange := ⟨inv_kept.change h.1 hchange, ok_change h.2 hchange⟩

end Port

/-- In every run of a port its controlled port is open only after `AUTH_PAE` has entered
`AUTHENTICATED`, on grounds since a `RESTART`, and never in `DISCONNECTED` or `HELD`; and it is open
in `AUTHENTICATED`. -/
theorem port_open_on_grounds {env : Env W P} {conf : Conf} {world : W} {rounds : ℕ}
    {alive : ℕ → ℕ → Bool} {s₀ s : Port W P} {events : List (Event W)}
    (hstart : Port.eapolAuthAlloc env conf world rounds alive = .ok s₀)
    (hrun : run (Port.step env) s₀ events = .ok s) :
    (s.authPortStatus = some .authorized →
      s.authPae ≠ .disconnected ∧ s.authPae ≠ .held ∧
        ∃ before, .authenticated :: before <:+ s.eap.log ∧ .restart ∈ before ∧
          Since env.crypto .restart before) ∧
      (s.authPae = .authenticated → s.authPortStatus = some .authorized) := by
  have hnew : PortOk (Port.alloc conf world : Port W P) := ⟨rfl, trivial, fun hc => by cases hc⟩
  obtain ⟨hinv, hok⟩ := Port.ok_kept.run ⟨Port.inv_alloc conf world, hnew⟩ hstart hrun
  have hfits := hok.fits
  refine ⟨fun hopen => ⟨fun hpae => ?_, fun hpae => ?_, ?_⟩, fun hpae => ?_⟩
  · rw [hpae, hopen] at hfits
    cases hfits
  · rw [hpae, hopen] at hfits
    cases hfits
  · obtain ⟨newer, before, hlog⟩ := append_of_mem (hok.entered hopen)
    have hsuffix : .authenticated :: before <:+ s.eap.log := ⟨newer, hlog.symm⟩
    exact ⟨before, hsuffix, (hinv.founded.of_suffix hsuffix rfl).symm⟩
  · rw [hpae] at hfits
    exact hfits

/-- The port of the station in `sampleEvents`, which then logs off. -/
theorem port_open_on_grounds_of_logoff : ∃ s₀ s : Port Unit Bool,
    Port.eapolAuthAlloc sampleEnv {} () 20 (fun _ _ => true) = .ok s₀ ∧
      run (Port.step sampleEnv) s₀ (sampleEvents ++ [.eapolLogoff, .authPae]) = .ok s ∧
      s.authPae = .disconnected ∧ s.authPortStatus ≠ some .authorized := by
  have hreturns : ∃ s₀ s : Port Unit Bool,
      Port.eapolAuthAlloc sampleEnv {} () 20 (fun _ _ => true) = .ok s₀ ∧
        run (Port.step sampleEnv) s₀ (sampleEvents ++ [.eapolLogoff, .authPae]) = .ok s ∧
        s.authPae = .disconnected := by
    decide +kernel
  obtain ⟨s₀, s, hstart, hrun, hpae⟩ := hreturns
  exact ⟨s₀, s, hstart, hrun, hpae, fun hopen =>
    ((port_open_on_grounds hstart hrun).1 hopen).1 hpae⟩

end Hostapd.EapolAuth
