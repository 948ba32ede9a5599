import Hostapd.RsnSupp.Effects

/-!
# Pairwise keys at the supplicant

When the temporal key is handed to the driver, the supplicant clears its copy and `tk_to_set`. A
message 1/4, which nobody authenticates, sets `tk_to_set` for the temporary PTK it derives; but a
frame that does not verify under the temporary PTK is still accepted under the PTK. A message 3/4 of
the old handshake then installs the cleared temporal key, all zeros (`cleared_key_installed`).

`installed_once` shows that this is the only way. It is assumed that random SNonces do not repeat
and that different SNonces and PTKs have different temporal keys, none of them zero.
-/

namespace Hostapd.RsnSupp

open Wire Wpa Machine List

/-! ## Keys in the trace -/

/-- The temporal keys that were installed. -/
def installedTks (trace : List Action) : List Bytes :=
  trace.filterMap fun
    | .installPtk _ _ tk => some tk
    | _ => none

/-- The PTKs that were derived. -/
def derivations (trace : List Action) : List (Nonce × Ptk) :=
  trace.filterMap fun
    | .derived snonce ptk => some (snonce, ptk)
    | _ => none

variable (conf : Conf)

/-- The temporal key of a PTK as it is handed to the driver. -/
def tkOf (ptk : Ptk) : Bytes := ptk.tk.take conf.pairwiseCipher.keyLen

/-- A temporal key that was cleared. -/
def clearedTk : Bytes := replicate 32 0

/-- A cleared temporal key as it is handed to the driver. -/
def wipedTk : Bytes := clearedTk.take conf.pairwiseCipher.keyLen

/-- No temporal key is installed twice, and no cleared one is installed. -/
def InstalledOnce (sm : Sm) : Prop :=
  (installedTks sm.trace).Nodup ∧ wipedTk conf ∉ installedTks sm.trace

instance (conf : Conf) (sm : Sm) : Decidable (InstalledOnce conf sm) :=
  inferInstanceAs (Decidable (_ ∧ _))

/-! ## The conditions -/

/-- A PTK is derived freshly: a new SNonce was not used before, and the temporal key is not zero and
not that of another SNonce or PTK. -/
def FreshFor (sm : Sm) (d : Nonce × Ptk) : Prop :=
  (sm.renewSnonce → ∀ d' ∈ derivations sm.trace, d'.1 ≠ d.1) ∧
  (conf.pairwiseCipher.validPairwise →
    (∀ d' ∈ derivations sm.trace, tkOf conf d'.2 = tkOf conf d.2 → d' = d) ∧
    tkOf conf d.2 ≠ wipedTk conf)

instance (conf : Conf) (sm : Sm) (d : Nonce × Ptk) : Decidable (FreshFor conf sm d) :=
  inferInstanceAs (Decidable (_ ∧ _))

/-- The PTKs that a packet makes the supplicant derive are derived freshly. -/
def KeysFresh (crypto : Crypto) (sm : Sm) (packet : Packet) : Prop :=
  ∀ d ∈ derivations (actions conf crypto sm packet), FreshFor conf sm d

instance (conf : Conf) (crypto : Crypto) (sm : Sm) (packet : Packet) :
    Decidable (KeysFresh conf crypto sm packet) :=
  inferInstanceAs (Decidable (∀ d ∈ derivations (actions conf crypto sm packet), _))

/-- A pairwise frame with the ANonce in use, which does not come from a direct link, verifies under
the PTK, whose temporal key was cleared, and not under the temporary PTK that is pending. -/
def OldKeyAnswers (crypto : Crypto) (sm : Sm) (packet : Packet) : Bool :=
  match accepted conf sm packet with
  | none => false
  | some (key, tmp) =>
    (sm.peerkey packet.src).isNone && key.keyInfo.mic && key.keyInfo.keyType &&
      sm.anonce == key.keyNonce && sm.tkToSet && sm.tptkSet &&
      !micOk conf crypto sm.tptk key tmp && sm.ptkSet && micOk conf crypto sm.ptk key tmp &&
      sm.ptk.tk == clearedTk

/-! ## The invariant -/

/-- The temporal key of a PTK was derived and is not installed. -/
def Installable (installed : List Bytes) (derived : List (Nonce × Ptk)) (ptk : Ptk) :
    Prop := (∃ snonce, (snonce, ptk) ∈ derived) ∧ tkOf conf ptk ∉ installed

def Ready (core : Core) (installed : List Bytes) (derived : List (Nonce × Ptk)) : Prop :=
  (core.tptkSet → core.tptk ≠ core.ptk) ∧ Installable conf installed derived core.ptk

/-- The keys of the supplicant in relation to those it installed and derived. -/
structure KeysOnce (conf : Conf) (core : Core) (installed : List Bytes)
    (derived : List (Nonce × Ptk)) : Prop where
  nodup : installed.Nodup
  wiped : wipedTk conf ∉ installed
  origin : ∀ tk ∈ installed, conf.pairwiseCipher.validPairwise ∧ ∃ d ∈ derived, tkOf conf d.2 = tk
  tptk : core.tptkSet → Installable conf installed derived core.tptk
  ptk : core.ptkSet → core.ptk.tk = clearedTk ∨ Installable conf installed derived core.ptk
  /-- A key that is to be handed over without a temporary PTK is the key of the PTK. -/
  toSet : core.tkToSet → core.tptkSet = false → core.ptkSet →
    Installable conf installed derived core.ptk
  /-- An SNonce that may be used again was not used for an installed key. -/
  snonce : core.renewSnonce = false → ∀ d ∈ derived, tkOf conf d.2 ∈ installed → d.1 ≠ core.snonce
  distinct : conf.pairwiseCipher.validPairwise → ∀ d ∈ derived, ∀ d' ∈ derived,
    tkOf conf d.2 = tkOf conf d'.2 → d = d'
  nonzero : conf.pairwiseCipher.validPairwise → ∀ d ∈ derived, tkOf conf d.2 ≠ wipedTk conf

/-- Keys are installed once. -/
def Sm.KeysOnce (sm : Sm) : Prop :=
  RsnSupp.KeysOnce conf sm.core (installedTks sm.trace) (derivations sm.trace)

namespace KeysOnce

variable {conf : Conf} {core : Core} {installed : List Bytes} {derived : List (Nonce × Ptk)}

section

variable (h : KeysOnce conf core installed derived)

include h

lemma confirm (htptk : core.tptkSet) :
    KeysOnce conf { core with tptkSet := false, ptkSet := true, ptk := core.tptk, tptk := {} }
      installed derived :=
  { h with
    tptk := nofun
    ptk := fun _ => .inr (h.tptk htptk)
    toSet := fun _ _ _ => h.tptk htptk }

lemma setRenewSnonce : KeysOnce conf { core with renewSnonce := true } installed derived :=
  { h with snonce := nofun }

/-- A derivation with a fresh SNonce. -/
lemma derive {snonce : Nonce} {ptk : Ptk} (hsnonce : core.renewSnonce ∨ snonce = core.snonce)
    (hrenewed : core.renewSnonce → ∀ d' ∈ derived, d'.1 ≠ snonce)
    (hfresh : conf.pairwiseCipher.validPairwise →
      (∀ d' ∈ derived, tkOf conf d'.2 = tkOf conf ptk → d' = (snonce, ptk)) ∧
      tkOf conf ptk ≠ wipedTk conf) :
    KeysOnce conf
      { core with snonce, renewSnonce := false, tptk := ptk, tptkSet := true, tkToSet := true }
      installed (derived ++ [(snonce, ptk)]) := by
  -- No key that is installed was derived with this SNonce.
  have hunused : ∀ d ∈ derived, tkOf conf d.2 ∈ installed → d.1 ≠ snonce := by
    intro d hd hin
    by_cases hrenew : core.renewSnonce
    · exact hrenewed hrenew d hd
    · rw [hsnonce.resolve_left hrenew]
      exact h.snonce (by simpa using hrenew) d hd hin
  have hnew : tkOf conf ptk ∉ installed := by
    intro hin
    obtain ⟨hvalid, d, hd, htk⟩ := h.origin _ hin
    have hsame := (hfresh hvalid).1 d hd htk
    exact hunused d hd (htk ▸ hin) (congrArg Prod.fst hsame)
  have hgrow : ∀ p, Installable conf installed derived p →
      Installable conf installed (derived ++ [(snonce, ptk)]) p := by
    rintro p ⟨⟨s, hs⟩, hp⟩
    exact ⟨⟨s, mem_append_left _ hs⟩, hp⟩
  refine
    { nodup := h.nodup
      wiped := h.wiped
      origin := ?_
      tptk := fun _ => ⟨⟨snonce, mem_append_right _ (mem_singleton_self _)⟩, hnew⟩
      ptk := fun hptk => (h.ptk hptk).imp id (hgrow _)
      toSet := nofun
      snonce := ?_
      distinct := ?_
      nonzero := ?_ }
  · intro tk htk
    obtain ⟨hvalid, d, hd, heq⟩ := h.origin tk htk
    exact ⟨hvalid, d, mem_append_left _ hd, heq⟩
  · intro _
    simp only [forall_mem_append, forall_mem_singleton]
    exact ⟨hunused, fun hin => absurd hin hnew⟩
  · intro hvalid
    obtain ⟨hsame, -⟩ := hfresh hvalid
    simp only [forall_mem_append, forall_mem_singleton]
    exact ⟨fun d hd => ⟨h.distinct hvalid d hd, hsame d hd⟩,
      fun d hd heq => (hsame d hd heq.symm).symm, fun _ => trivial⟩
  · intro hvalid
    simp only [forall_mem_append, forall_mem_singleton]
    exact ⟨h.nonzero hvalid, (hfresh hvalid).2⟩

lemma installedOnce (hvalid : conf.pairwiseCipher.validPairwise)
    (hptk : Installable conf installed derived core.ptk) :
    (installed ++ [tkOf conf core.ptk]).Nodup ∧
      wipedTk conf ∉ installed ++ [tkOf conf core.ptk] := by
  obtain ⟨⟨s, hs⟩, hnew⟩ := hptk
  refine ⟨nodup_append_comm.mp (nodup_cons.mpr ⟨hnew, h.nodup⟩), ?_⟩
  rw [mem_append, mem_singleton]
  rintro (hin | heq)
  · exact h.wiped hin
  · exact h.nonzero hvalid _ hs heq.symm

/-- The temporal key is handed over for the first time. -/
lemma handOver (hvalid : conf.pairwiseCipher.validPairwise)
    (hptk : Installable conf installed derived core.ptk)
    (htptk : core.tptkSet → core.tptk ≠ core.ptk) :
    KeysOnce conf
      { core with
        renewSnonce := true, ptk := { core.ptk with tk := clearedTk }, tkToSet := false }
      (installed ++ [tkOf conf core.ptk]) derived := by
  obtain ⟨hnodup, hwiped⟩ := h.installedOnce hvalid hptk
  refine
    { nodup := hnodup
      wiped := hwiped
      origin := ?_
      tptk := ?_
      ptk := fun _ => .inl rfl
      toSet := nofun
      snonce := nofun
      distinct := h.distinct
      nonzero := h.nonzero }
  · obtain ⟨s, hs⟩ := hptk.1
    simp only [forall_mem_append, forall_mem_singleton]
    exact ⟨h.origin, hvalid, (s, core.ptk), hs, rfl⟩
  intro hset
  obtain ⟨⟨s, hs⟩, hnew⟩ := h.tptk hset
  refine ⟨⟨s, hs⟩, ?_⟩
  rw [mem_append, mem_singleton]
  rintro (hin | heq)
  · exact hnew hin
  · obtain ⟨s', hs'⟩ := hptk.1
    exact htptk hset (congrArg Prod.snd (h.distinct hvalid _ hs _ hs' heq))

end

end KeysOnce

/-! ## One packet -/

/-- The action neither derives nor installs a pairwise key. -/
def Action.keepsPairwise : Action → Bool
  | .derived .. => false
  | .installPtk .. => false
  | _ => true

section Packet

variable {conf : Conf} {crypto : Crypto} {ans : Answers} {peer : Bool} {key : EapolKey}
  {keyData tmp : Bytes} {src : Mac} {packet : Packet} {ptk : Ptk} {sm sm₁ sm' : Sm}
  {P : Action → Prop}

lemma handOver_core : (handOver conf key sm).core =
    { sm.core with ptk := { sm.core.ptk with tk := clearedTk }, tkToSet := false } := rfl

lemma handOver_installedTks :
    installedTks (handOver conf key sm).trace = installedTks sm.trace ++ [tkOf conf sm.ptk] := by
  rw [handOver, Sm.act, installedTks, filterMap_append]
  rfl

lemma handOver_derivations : derivations (handOver conf key sm).trace = derivations sm.trace := by
  rw [handOver, Sm.act, derivations, filterMap_append]
  exact append_nil _

lemma handOverRefused_installedTks :
    installedTks (handOverRefused conf key sm).trace =
      installedTks sm.trace ++ [tkOf conf sm.ptk] := by
  rw [handOverRefused, Sm.deauthenticate, Sm.act, Sm.act, append_assoc, installedTks,
    filterMap_append]
  rfl

lemma keys_of_keepsPairwise {acts : List Action} (h : ∀ a ∈ acts, a.keepsPairwise) :
    installedTks acts = [] ∧ derivations acts = [] := by
  constructor
  · apply filterMap_eq_nil_iff.mpr
    intro a ha
    have hkeeps := h a ha
    cases a with
    | installPtk => cases hkeeps
    | _ => rfl
  · apply filterMap_eq_nil_iff.mpr
    intro a ha
    have hkeeps := h a ha
    cases a with
    | derived => cases hkeeps
    | _ => rfl

lemma Grows.keys_eq (h : Grows P sm sm') (hP : ∀ a, P a → a.keepsPairwise) :
    installedTks sm'.trace = installedTks sm.trace ∧
      derivations sm'.trace = derivations sm.trace := by
  obtain ⟨acts, hacts, hall⟩ := h
  obtain ⟨hinstalled, hderived⟩ := keys_of_keepsPairwise fun a ha => hP a (hall a ha)
  rw [hacts, installedTks, derivations, filterMap_append, filterMap_append]
  exact ⟨(congrArg _ hinstalled).trans (append_nil _), (congrArg _ hderived).trans (append_nil _)⟩

lemma Allowed.keepsPairwise {a : Action} (h : Allowed conf crypto key keyData ptk a) :
    a.keepsPairwise := by
  cases h with
  | _ => rfl

lemma Quiet.keeps {C : Core → List Bytes → List (Nonce × Ptk) → Prop}
    (hquiet : Quiet P sm sm') (hP : ∀ a, P a → a.keepsPairwise)
    (h : C sm.core (installedTks sm.trace) (derivations sm.trace)) :
    C sm'.core (installedTks sm'.trace) (derivations sm'.trace) := by
  obtain ⟨hinstalled, hderived⟩ := hquiet.grows.keys_eq hP
  rw [hquiet.core_eq, hinstalled, hderived]
  exact h

lemma Sm.KeysOnce.allowed (h : sm.KeysOnce conf)
    (hquiet : Quiet (Allowed conf crypto key keyData ptk) sm sm') : sm'.KeysOnce conf :=
  hquiet.keeps (fun _ => Allowed.keepsPairwise) h

section

variable (hchecked : checked conf crypto key src tmp sm = .ok sm₁)

include hchecked

/-- What the verification of a frame does to the keys: at most the temporary PTK is confirmed. -/
lemma checked_keys : (∃ peerkeys, sm₁ = { sm with peerkeys }) ∨
    (sm.tptkSet ∧ sm₁ = verified key sm.confirm) ∨ sm₁ = verified key sm := by
  rcases checked_cases hchecked with ⟨-, -, hverify⟩ | ⟨-, hsame⟩
  · rcases verifyEapolKeyMic_cases hverify with ⟨htptk, -, rfl⟩ | ⟨-, -, -, rfl⟩
    · exact .inr (.inl ⟨htptk, rfl⟩)
    · exact .inr (.inr rfl)
  · exact .inl hsame

lemma checked_grows : Grows (fun a => a.keepsPairwise) sm sm₁ := by
  rcases checked_keys hchecked with ⟨_, rfl⟩ | ⟨-, rfl⟩ | rfl
  · exact .of_eq rfl
  · exact ⟨[.micVerified _], rfl, by simp [Action.keepsPairwise]⟩
  · exact ⟨[.micVerified _], rfl, by simp [Action.keepsPairwise]⟩

lemma checked_renewSnonce : sm₁.renewSnonce = sm.renewSnonce := by
  rcases checked_keys hchecked with ⟨_, rfl⟩ | ⟨-, rfl⟩ | rfl <;> rfl

lemma Sm.KeysOnce.checked (h : sm.KeysOnce conf) : sm₁.KeysOnce conf := by
  obtain ⟨hinstalled, hderived⟩ := (checked_grows hchecked).keys_eq fun _ ha => ha
  unfold Sm.KeysOnce
  rw [hinstalled, hderived]
  rcases checked_keys hchecked with ⟨_, rfl⟩ | ⟨htptk, rfl⟩ | rfl
  · exact h
  · exact { KeysOnce.confirm h htptk with }
  · exact { h with }

end

/-- A frame that may hand over the temporal key does so for one that is not installed, unless an old
key answers. -/
lemma Sm.KeysOnce.installable (h : sm.KeysOnce conf) (hpeer : sm.peerkey packet.src = none)
    (hmic : key.keyInfo.mic) (hpairwise : key.keyInfo.keyType)
    (hacc : accepted conf sm packet = some (key, tmp))
    (hold : OldKeyAnswers conf crypto sm packet = false)
    (hchecked : RsnSupp.checked conf crypto key packet.src tmp sm = .ok sm₁)
    (hanonce : sm₁.anonce = key.keyNonce) (htkToSet : sm₁.tkToSet) :
    Ready conf sm₁.core (installedTks sm₁.trace) (derivations sm₁.trace) := by
  have h₁ := h.checked hchecked
  have hverify : verifyEapolKeyMic conf crypto key tmp sm = some sm₁ := by
    rcases checked_cases hchecked with ⟨-, -, hverify⟩ | ⟨hstk, -⟩
    · exact hverify
    · obtain ⟨peer, hpeer', -⟩ := hstk hmic
      cases hpeer.symm.trans hpeer'
  rcases verifyEapolKeyMic_cases hverify with ⟨htptk, -, rfl⟩ | ⟨hnot, hptk, hok, rfl⟩
  · exact ⟨nofun, h₁.toSet htkToSet rfl rfl⟩
  have hfails : sm.tptkSet → micOk conf crypto sm.tptk key tmp = false := by
    intro htptk
    simpa using fun hmicOk => hnot ⟨htptk, hmicOk⟩
  refine ⟨?_, ?_⟩
  · intro htptk heq
    have heq' : sm.tptk = sm.ptk := heq
    have hfails' := hfails htptk
    rw [heq', hok] at hfails'
    cases hfails'
  by_cases htptk : sm.tptkSet
  · rcases h₁.ptk hptk with hcleared | hinstallable
    · -- The condition excludes this case: the PTK was used before.
      have hcleared' : sm.ptk.tk = clearedTk := hcleared
      have hanonce' : sm.anonce = key.keyNonce := hanonce
      have htkToSet' : sm.tkToSet := htkToSet
      unfold OldKeyAnswers at hold
      simp [hacc, hpeer, hmic, hpairwise, hanonce', htkToSet', htptk, hfails htptk, hptk, hok,
        hcleared'] at hold
    · exact hinstallable
  · have htptk' : sm.tptkSet = false := by simpa using htptk
    exact h₁.toSet htkToSet htptk' hptk

/-- Handling a frame keeps the invariant, or the association ends with every key installed at most
once. -/
lemma Sm.KeysOnce.handled (h : sm.KeysOnce conf)
    (hhandled : Handled conf crypto ans peer key keyData sm sm')
    (hfresh : ∀ acts, sm'.trace = sm.trace ++ acts → ∀ d ∈ derivations acts, FreshFor conf sm d)
    (hinstall : IsThird peer key sm → sm.tkToSet →
      Ready conf sm.core (installedTks sm.trace) (derivations sm.trace)) :
    sm'.KeysOnce conf ∨ (sm'.deauthenticated ∧ InstalledOnce conf sm') := by
  cases hhandled with
  | quiet hgrows => exact .inl (h.allowed hgrows)
  | @pmk pmk _ hgrows =>
    have hpmk : Sm.KeysOnce conf { sm with pmk } := { h with }
    exact .inl (hpmk.allowed hgrows)
  | @first s pmk snonce _ _ hsnonce hderived hgrows =>
    -- Whatever is written after the derivation, the derivation itself is written first.
    have hfresh' : ∀ acts, sm'.trace = s.trace ++ acts → FreshFor conf sm (snonce, s.tptk) := by
      intro acts hacts
      refine hfresh (.derived snonce s.tptk :: acts) ?_ _ mem_cons_self
      rw [hacts, hderived, deriveTptk, Sm.act, append_assoc]
      rfl
    have hsnonce' : sm.renewSnonce ∨ snonce = sm.snonce := by
      by_cases hrenew : sm.renewSnonce
      · exact .inl hrenew
      · rw [if_neg hrenew] at hsnonce
        exact .inr hsnonce
    have hnew : FreshFor conf sm (snonce, s.tptk) → s.KeysOnce conf := by
      rintro ⟨hrenewed, hother⟩
      subst hderived
      have hstep := KeysOnce.derive h hsnonce' hrenewed hother
      unfold Sm.KeysOnce
      rw [deriveTptk, Sm.act, installedTks, derivations, filterMap_append, filterMap_append]
      simpa [installedTks, derivations] using { hstep with }
    rcases hgrows with hgrows | ⟨hgrows, -⟩ <;> obtain ⟨acts, hacts, -⟩ := hgrows.grows
    · have hanonce : Sm.KeysOnce conf { s with anonce := key.keyNonce } :=
        { hnew (hfresh' acts hacts) with }
      exact .inl (hanonce.allowed hgrows)
    · exact .inl ((hnew (hfresh' acts hacts)).allowed hgrows)
  | third _ hgrows =>
    have hthird : Sm.KeysOnce conf { sm with renewSnonce := true } := h.setRenewSnonce
    exact .inl (hthird.allowed hgrows)
  | @install s handed hafter =>
    obtain ⟨hthird, htkToSet, hvalid, hbefore⟩ := handed
    obtain ⟨htptk, hinstallable⟩ := hinstall hthird htkToSet
    obtain ⟨hinstalled, hderived⟩ := hbefore.grows.keys_eq fun _ => Allowed.keepsPairwise
    have hptk : s.ptk = sm.ptk := congrArg Core.ptk hbefore.core_eq
    have hover : (handOver conf key s).KeysOnce conf := by
      have hstep := KeysOnce.handOver h hvalid hinstallable htptk
      unfold Sm.KeysOnce
      rw [handOver_core, hbefore.core_eq, handOver_installedTks, handOver_derivations, hinstalled,
        hderived, hptk]
      exact hstep
    exact .inl (hover.allowed hafter)
  | @refused s handed heq =>
    obtain ⟨hthird, htkToSet, hvalid, hbefore⟩ := handed
    obtain ⟨htptk, hinstallable⟩ := hinstall hthird htkToSet
    obtain ⟨hinstalled, -⟩ := hbefore.grows.keys_eq fun _ => Allowed.keepsPairwise
    have hptk : s.ptk = sm.ptk := congrArg Core.ptk hbefore.core_eq
    refine .inr ⟨by rw [heq]; rfl, ?_⟩
    unfold InstalledOnce
    rw [heq, handOverRefused_installedTks, hinstalled, hptk]
    exact KeysOnce.installedOnce h hvalid hinstallable

/-- Every frame keeps it, unless an old key answers. -/
lemma Sm.KeysOnce.rxEapol (h : sm.KeysOnce conf) (hfresh : KeysFresh conf crypto sm packet)
    (hold : OldKeyAnswers conf crypto sm packet = false) :
    (rxEapol conf crypto sm packet).KeysOnce conf ∨
      ((rxEapol conf crypto sm packet).deauthenticated ∧
        InstalledOnce conf (rxEapol conf crypto sm packet)) := by
  rcases rxEapol_cases conf crypto sm packet with ⟨_, hrx⟩ | ⟨key, tmp, sm₁, hacc, hchecked, hrx⟩
  · rw [hrx]
    exact .inl h
  have hopened := @opened_quiet conf key sm₁
  have hkeeps : ∀ a, a = Action.decryptKeyData ∧ encrypted conf key → a.keepsPairwise := by
    rintro a ⟨rfl, -⟩
    rfl
  have h₁ : (opened conf key sm₁).KeysOnce conf :=
    hopened.keeps hkeeps (h.checked hchecked)
  rcases @handle_cases conf crypto packet.ans (sm.peerkey packet.src).isSome key sm₁ with
    ⟨-, heq⟩ | ⟨keyData, -, hhandled⟩
  · rw [hrx, heq]
    exact .inl h₁
  have hcore := hopened.core_eq
  rw [hrx]
  refine h₁.handled hhandled ?_ ?_
  · -- The derivations of the call are those made while the frame is handled.
    intro acts hacts d hd
    have hbefore := (checked_grows hchecked).trans (hopened.grows.mono hkeeps)
    have hrenew : (opened conf key sm₁).renewSnonce = sm.renewSnonce :=
      (congrArg Core.renewSnonce hcore).trans (checked_renewSnonce hchecked)
    obtain ⟨-, hderived⟩ := hbefore.keys_eq fun _ ha => ha
    obtain ⟨pre, hpre, -⟩ := hbefore
    have hactions : actions conf crypto sm packet = pre ++ acts := by
      rw [actions, hrx, hacts, hpre, append_assoc, drop_left]
    have hfresh' := hfresh d (by
      rw [hactions, derivations, filterMap_append]
      exact mem_append_right _ hd)
    unfold FreshFor at hfresh' ⊢
    rw [hrenew, hderived]
    exact hfresh'
  · intro hthird htkToSet
    have hpeer : sm.peerkey packet.src = none := by simpa using hthird.peer_eq
    exact hopened.keeps hkeeps (h.installable hpeer hthird.mic hthird.pairwise hacc hold hchecked
      ((congrArg Core.anonce hcore).symm.trans hthird.anonce_eq)
      ((congrArg Core.tkToSet hcore).symm.trans htkToSet))

end Packet

/-! ## An association -/

/-- In an association with fresh keys in which no old key answers while a temporary PTK is pending,
no temporal key is installed twice and no cleared one is installed. -/
theorem installed_once {conf : Conf} {crypto : Crypto} {sm₀ sm : Sm} {packets : List Packet}
    (hfresh : Along (receive conf crypto) (KeysFresh conf crypto) (notifyAssoc sm₀) packets)
    (hold : Along (receive conf crypto)
      (fun s packet => OldKeyAnswers conf crypto s packet = false) (notifyAssoc sm₀) packets)
    (hrun : run (receive conf crypto) (notifyAssoc sm₀) packets = .ok sm) :
    InstalledOnce conf sm := by
  have hstart : (notifyAssoc sm₀).KeysOnce conf :=
    ⟨nodup_nil, not_mem_nil, nofun, nofun, nofun, nofun, nofun, nofun, nofun⟩
  have hstep : ∀ (s : Sm) (packet : Packet) (s' : Sm),
      (s.KeysOnce conf ∨ (s.deauthenticated ∧ InstalledOnce conf s)) →
      (KeysFresh conf crypto s packet ∧ OldKeyAnswers conf crypto s packet = false) →
      receive conf crypto s packet = .ok s' →
      s'.KeysOnce conf ∨ (s'.deauthenticated ∧ InstalledOnce conf s') := by
    rintro s packet s' hs hcond ⟨⟩
    split
    · exact hs
    next hassoc =>
    rcases hs with hs | ⟨hdeauth, -⟩
    · exact hs.rxEapol hcond.1 hcond.2
    · exact absurd hdeauth hassoc
  have hend := run_along_induction hstep (.inl hstart) (hfresh.and hold) hrun
  rcases hend with h | ⟨-, h⟩
  · exact ⟨h.nodup, h.wiped⟩
  · exact h

/-- A handshake, a second message 1/4, and a message 3/4 of the handshake with the given SNonce. -/
def twoHandshakes (snonce : UInt8) : List Packet :=
  let anonce := sampleNonce 5
  let answers (octet : UInt8) : Answers := { snonce := some (sampleNonce octet) }
  [{ ans := answers 1, buf := (sample1Of4 1 anonce).encode },
    { buf := (sample3Of4 2 anonce (sampleNonce 1) (Octets.zero 8) []).encode },
    { ans := answers 2, buf := (sample1Of4 3 anonce).encode },
    { buf := (sample3Of4 4 anonce (sampleNonce snonce) (Octets.zero 8) []).encode }]

/-- Two handshakes, each with a message 3/4 of its own, install two keys. -/
theorem installed_once_of_rekey :
    Returns (run (receive Conf.sample Crypto.sample) (notifyAssoc {}) (twoHandshakes 2)) fun sm =>
      (installedTks sm.trace).length = 2 ∧ InstalledOnce Conf.sample sm := by
  have hfresh : Along (receive Conf.sample Crypto.sample) (KeysFresh Conf.sample Crypto.sample)
      (notifyAssoc {}) (twoHandshakes 2) := by decide +kernel
  have hold : Along (receive Conf.sample Crypto.sample)
      (fun s packet => OldKeyAnswers Conf.sample Crypto.sample s packet = false)
      (notifyAssoc {}) (twoHandshakes 2) := by decide +kernel
  exact exists_ok (by decide +kernel) fun sm hrun _ => installed_once hfresh hold hrun

/-- A message 3/4 of the first handshake comes again after the second message 1/4: the cleared
temporal key is installed, although all keys are fresh. -/
theorem cleared_key_installed :
    Along (receive Conf.sample Crypto.sample) (KeysFresh Conf.sample Crypto.sample)
      (notifyAssoc {}) (twoHandshakes 1) ∧
    Returns (run (receive Conf.sample Crypto.sample) (notifyAssoc {}) (twoHandshakes 1)) fun sm =>
      (installedTks sm.trace).getLast? = some (replicate 16 0) ∧
        ¬ InstalledOnce Conf.sample sm := by
  decide +kernel

end Hostapd.RsnSupp
