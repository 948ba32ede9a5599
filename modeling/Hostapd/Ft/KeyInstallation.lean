import Hostapd.Ft.Station

/-!
# Fast transition: how often a pairwise key is installed

A pairwise key that is installed again starts its packet numbers again. An access point hands the
key of a fast transition to the driver when it derives it, which may be too early for the driver,
and again at every association event. `InstalledOnce` says that no key was handed over by
`wpa_ft_install_ptk` after it had been installed for the associated station and before another was
derived. It is kept by every step but an association event that comes when the key is already in
use; a repeated Reassociation Request leads to one.
-/

namespace Hostapd.Ft

open Wire Wpa Machine List

/-! ## Histories -/

/-- A pairwise key is derived with a fresh ANonce. -/
def Entry.isDerived (e : Entry) : Bool :=
  match e.effect with
  | .derived _ _ => true
  | .setKey _ _ _ => false

/-- The pairwise key that was derived last was installed for the associated station. -/
def inUse : List Entry → Bool
  | [] => false
  | e :: log =>
    match e.effect with
    | .derived _ _ => false
    | .setKey _ _ ok => (ok && e.assoc) || inUse log

/-- A temporal key that was installed for the associated station is not handed to the driver again
before another key is derived. -/
def InstalledOnce (log : List Entry) : Prop :=
  ∀ later between older alg alg' tk ok assoc,
    log = later ++ ⟨.setKey alg' tk ok, assoc⟩ ::
        (between ++ ⟨.setKey alg tk true, true⟩ :: older) →
      ∃ e ∈ between, e.isDerived

lemma inUse_append {between older : List Entry} {alg : Option Alg} {tk : Bytes}
    (h : ∀ e ∈ between, ¬ e.isDerived) :
    inUse (between ++ ⟨.setKey alg tk true, true⟩ :: older) := by
  induction between with
  | nil => rfl
  | cons e between ih =>
    have hrest := ih fun e' he' => h e' (mem_cons_of_mem e he')
    have he := h e mem_cons_self
    unfold Entry.isDerived at he
    rw [cons_append, inUse]
    split
    · next heq => simp [heq] at he
    · simp [hrest]

lemma installedOnce_nil : InstalledOnce [] := by
  intro later between older alg alg' tk ok assoc h
  simp at h

/-- An entry that derives a key, or comes while none is in use. -/
lemma InstalledOnce.cons {e : Entry} {log : List Entry} (h : InstalledOnce log)
    (he : e.isDerived ∨ inUse log = false) : InstalledOnce (e :: log) := by
  intro later between older alg alg' tk ok assoc heq
  cases later with
  | cons e' later =>
    obtain ⟨-, hlog⟩ := cons.inj heq
    exact h later between older alg alg' tk ok assoc hlog
  | nil =>
    obtain ⟨rfl, hlog⟩ := cons.inj heq
    have hused : inUse log = false := he.resolve_left (by simp [Entry.isDerived])
    by_contra hnone
    have hinUse : inUse (between ++ ⟨.setKey alg tk true, true⟩ :: older) :=
      inUse_append fun e he hd => hnone ⟨e, he, hd⟩
    rw [hlog, hinUse] at hused
    cases hused

/-! ## What a step adds -/

/-- What a step other than an association event adds to the history: nothing, a key that is
derived, or one that is derived and then handed to the driver. -/
inductive Grows (log : List Entry) : List Entry → Prop
  | same : Grows log log
  | derived {e : Entry} (h : e.isDerived) : Grows log (e :: log)
  | installed {e k : Entry} (h : e.isDerived) : Grows log (k :: e :: log)

lemma Grows.installedOnce {log log' : List Entry} (h : Grows log log') (ho : InstalledOnce log) :
    InstalledOnce log' := by
  cases h with
  | same => exact ho
  | derived hd => exact ho.cons (.inl hd)
  | @installed e k hd =>
    have hfresh : inUse (e :: log) = false := by
      unfold Entry.isDerived at hd
      rw [inUse]
      split at hd
      · simp
      · cases hd
    exact (ho.cons (.inl hd)).cons (.inr hfresh)

lemma installPtk_effects (setKeyOk : Bool) (sm : Sm) :
    (installPtk setKeyOk sm).2 = [] ∨
      ∃ alg tk, (installPtk setKeyOk sm).2 = [.setKey alg tk setKeyOk] := by
  unfold installPtk
  split
  · exact .inl rfl
  · exact .inr ⟨_, _, rfl⟩

/-- A request leaves the pairwise key alone, or a key is derived and perhaps handed to the
driver. -/
lemma processAuthReq_effects (prims : Prims) (conf : Conf) (cache : List PmkR1Sa) (ans : Answers)
    (ies : Bytes) (sm : Sm) :
    (processAuthReq prims conf cache ans ies sm).effects = [] ∨
      ∃ aNonce ptk rest, (processAuthReq prims conf cache ans ies sm).effects =
        .derived aNonce ptk :: rest ∧ rest.length ≤ 1 := by
  have haccept (r1 : PmkR1Sa) (name : KeyName) (sm : Sm) :
      (acceptAuthReq prims conf ans r1 name sm).effects = [] ∨
        ∃ aNonce ptk rest, (acceptAuthReq prims conf ans r1 name sm).effects =
          .derived aNonce ptk :: rest ∧ rest.length ≤ 1 := by
    unfold acceptAuthReq
    split
    · exact .inl rfl
    refine .inr ⟨_, _, _, rfl, ?_⟩
    obtain hnone | ⟨alg, tk, hone⟩ := installPtk_effects ans.setKeyOk _
    · rw [hnone]
      exact Nat.zero_le 1
    · rw [hone]
      exact Nat.le_refl 1
  have hpull (name : KeyName) (sm : Sm) : (pullPmkR1 conf ans ies name sm).effects = [] := by
    unfold pullPmkR1
    split <;> rfl
  unfold processAuthReq
  dsimp only
  repeat' split
  all_goals first | exact .inl rfl | exact .inl (hpull _ _) | exact haccept _ _ _

namespace Sta

section Steps

variable {prims : Prims} {conf : Conf} {sta sta' : Sta}

lemma grows_authReq (ans : Answers) (ies : Bytes) (sta : Sta) :
    Grows sta.log (sta.authReq prims conf ans ies).1.log := by
  unfold authReq
  dsimp only [note]
  obtain hnone | ⟨aNonce, ptk, rest, hsome, hlen⟩ :=
    processAuthReq_effects prims conf sta.cache ans ies sta.sm
  · rw [hnone]
    exact .same
  rw [hsome]
  match rest, hlen with
  | [], _ => exact .derived rfl
  | [_], _ => exact .installed rfl

lemma event_log (sta : Sta) (setKeyOk : Bool) (e : WpaEvent) :
    (sta.event setKeyOk e).log =
      ((smEvent setKeyOk e sta.sm).2.map (⟨·, sta.assoc⟩)).reverse ++ sta.log := rfl

lemma event_log_of_ne {setKeyOk : Bool} {e : WpaEvent} (h : e ≠ .assocFt) :
    (sta.event setKeyOk e).log = sta.log := by
  have hnone : (smEvent setKeyOk e sta.sm).2 = [] := by
    unfold smEvent
    rw [if_neg h]
    dsimp only
    split <;> rfl
  rw [event_log, hnone]
  rfl

lemma event_assocFt_log (sta : Sta) (setKeyOk : Bool) :
    (sta.event setKeyOk .assocFt).log = sta.log ∨
      ∃ k, (sta.event setKeyOk .assocFt).log = k :: sta.log := by
  have heffects : (smEvent setKeyOk .assocFt sta.sm).2 = (installPtk setKeyOk sta.sm).2 := rfl
  rw [event_log, heffects]
  obtain hnone | ⟨alg, tk, hone⟩ := installPtk_effects setKeyOk sta.sm
  · rw [hnone]
    exact .inl rfl
  · rw [hone]
    exact .inr ⟨_, rfl⟩

lemma authFtFinish_log (status : ℕ) (sta : Sta) : (sta.authFtFinish status).log = sta.log := by
  unfold authFtFinish
  split <;> rfl

lemma addUnassoc_log {fullState addOk : Bool} (h : sta.addUnassoc fullState addOk = some sta') :
    sta'.log = sta.log := by
  unfold addUnassoc at h
  split at h
  · split at h <;> cases h
    rfl
  · cases h
    rfl

/-- An Authentication frame. -/
lemma grows_handleAuth (alg : AuthAlg) (retry : Bool) (seqCtrl : ℕ) (fullState addOk : Bool)
    (ans : Answers) (ies : Bytes) (sta : Sta) :
    Grows sta.log (sta.handleAuth prims conf alg retry seqCtrl fullState addOk ans ies).log := by
  unfold handleAuth
  split
  · exact .same
  dsimp only
  split
  · exact .same
  next sta' hadd =>
  have hlog : sta'.log = sta.log := by rw [addUnassoc_log hadd]
  rw [← hlog]
  cases alg with
  | openSystem =>
    rw [event_log_of_ne (by decide)]
    exact .same
  | ft =>
    dsimp only
    split
    · exact grows_authReq ans ies (sta'.beginAuthFt .authFtFinish)
    · rw [authFtFinish_log]
      exact grows_authReq ans ies (sta'.beginAuthFt .authFtFinish)

lemma grows_pullRespFinish (ans : Answers) (sta : Sta) :
    Grows sta.log (sta.pullRespFinish prims conf ans).log := by
  unfold pullRespFinish
  split
  · exact .same
  dsimp only
  split
  · rw [authFtFinish_log]
    exact grows_authReq ans _ sta
  · exact grows_authReq ans _ sta

/-- A request of association notes nothing. -/
lemma handleAssoc_log (reassoc retry : Bool) (seqCtrl : ℕ) (choice : Option RsnChoice)
    (othersOk : Bool) (ies : Bytes) (sta : Sta) :
    (sta.handleAssoc prims conf reassoc retry seqCtrl choice othersOk ies).log = sta.log := by
  have hcheck (sta : Sta) :
      (sta.checkAssocIes prims conf reassoc choice othersOk ies).1.log = sta.log := by
    unfold checkAssocIes
    split <;> rfl
  have hanswer (checked : Sta × Bool) : (answerAssoc checked).log = checked.1.log := by
    unfold answerAssoc
    dsimp only
    split <;> rfl
  unfold handleAssoc
  dsimp only
  split
  · rfl
  split
  · rfl
  rw [hanswer, hcheck]

lemma handshake_log (h : Handshake) (sta : Sta) : (sta.handshake h).log = sta.log := by
  cases h <;> rfl

/-! ## Every key is installed once -/

/-- The association event of a station that authenticated by fast transition comes before its
current key has been installed for it as an associated station. -/
def AssociatesOnce (sta : Sta) : Event → Prop
  | .assocCb _ _ _ => sta.authAlg = .ft → inUse sta.log = false
  | _ => True

instance (sta : Sta) : (e : Event) → Decidable (AssociatesOnce sta e)
  | .assocCb _ _ _ => inferInstanceAs (Decidable (_ → _))
  | .auth .. | .rrbRequest .. | .store _ | .pullRespFinish _ | .assoc .. | .disassoc | .deauth
  | .reauth _ | .handshake _ => isTrue trivial

/-- The acknowledgement of a response. -/
lemma installedOnce_handleAssocCb (ok bindOk setKeyOk : Bool) (h : InstalledOnce sta.log)
    (hfresh : sta.authAlg = .ft → inUse sta.log = false) :
    InstalledOnce (sta.handleAssocCb ok bindOk setKeyOk).log := by
  unfold handleAssocCb
  dsimp only
  split
  · exact h
  split
  · exact h
  split
  · exact h
  split
  · next hft =>
    obtain hsame | ⟨k, hone⟩ := event_assocFt_log
      { sta with awaitingAck := sta.awaitingAck - 1, assoc := true } setKeyOk
    · rw [hsame]
      exact h
    · rw [hone]
      exact h.cons (.inr (hfresh hft))
  · rw [event_log_of_ne (by decide)]
    exact h

/-- A step whose association event is in time keeps the property. -/
lemma installedOnce_step {e : Event} (h : InstalledOnce sta.log) (hcond : AssociatesOnce sta e)
    (hstep : step prims conf sta e = .ok sta') : InstalledOnce sta'.log := by
  cases e with
  | auth alg retry seqCtrl fullState addOk ans ies =>
    cases hstep
    exact (grows_handleAuth alg retry seqCtrl fullState addOk ans ies sta).installedOnce h
  | rrbRequest ans ies =>
    cases hstep
    exact (grows_authReq ans ies (sta.beginAuthFt .rrbRxRequestCb)).installedOnce h
  | store r1 =>
    cases hstep
    exact h
  | pullRespFinish ans =>
    cases hstep
    exact (grows_pullRespFinish ans sta).installedOnce h
  | assoc reassoc retry seqCtrl choice othersOk ies =>
    cases hstep
    rw [handleAssoc_log]
    exact h
  | assocCb ok bindOk setKeyOk =>
    cases hstep
    exact installedOnce_handleAssocCb ok bindOk setKeyOk h hcond
  | disassoc =>
    cases hstep
    unfold handleDisassoc
    rw [event_log_of_ne (by decide)]
    exact h
  | deauth =>
    cases hstep
    exact h
  | reauth eapol =>
    cases hstep
    rw [event_log_of_ne (by cases eapol <;> decide)]
    exact h
  | handshake hs =>
    cases hstep
    rw [handshake_log]
    exact h

end Steps

/-- In every run from a station without a history, in which the association events of fast
transition come before the current key is installed for the associated station, no temporal key that
was installed is handed to the driver again before another key is derived. -/
theorem ft_key_installed_once (prims : Prims) (conf : Conf) {sta sta' : Sta} {es : List Event}
    (hnew : sta.log = []) (hcond : Along (step prims conf) AssociatesOnce sta es)
    (hrun : run (step prims conf) sta es = .ok sta') : InstalledOnce sta'.log := by
  have hstart : InstalledOnce sta.log := hnew ▸ installedOnce_nil
  exact run_along_induction (P := fun sta => InstalledOnce sta.log)
    (fun s e s' h hc hs => installedOnce_step h hc hs) hstart hcond hrun

/-! ## A repeated Reassociation Request -/

namespace Sample

/-- An access point. -/
def conf : Conf where
  addr := Octets.ofList 6 [2, 0, 0, 0, 0, 1]
  ssid := [0x66, 0x74]
  mobilityDomain := Octets.ofList 2 [0xa1, 0xb2]
  r0KeyHolder := [0x72, 0x30]
  r1KeyHolder := Octets.ofList 6 [2, 0, 0, 0, 0, 1]

def addr : Mac := Octets.ofList 6 [2, 0, 0, 0, 0, 9]

def pmkR0Name : KeyName := Octets.ofList 16 (replicate 16 9)

def r1 : PmkR1Sa where
  pmkR1 := Octets.ofList 32 [5]
  pmkR1Name := Prims.sample.derivePmkR1Name pmkR0Name conf.r1KeyHolder addr
  spa := addr
  pairwise := 0x0010

def sNonce : Nonce := Octets.ofList 32 [7]

def aNonce : Nonce := Octets.ofList 32 [11]

def rsn (pmkid : KeyName) : Bytes :=
  element 48 ([1, 0, 0x00, 0x0f, 0xac, 4, 1, 0, 0x00, 0x0f, 0xac, 4, 1, 0, 0x00, 0x0f, 0xac, 3,
    0, 0, 1, 0] ++ pmkid.val)

def authIes : Bytes :=
  rsn pmkR0Name ++ writeMdie conf.mobilityDomain true ++
    element 55 (replicate 50 0 ++ sNonce.val ++ element 3 conf.r0KeyHolder)

/-- The elements of a Reassociation Request. -/
def reassocIes : Bytes :=
  rsn r1.pmkR1Name ++ writeMdie conf.mobilityDomain true ++
    element 55 ([0, 3] ++ replicate 16 45 ++ aNonce.val ++ sNonce.val ++
      element 1 conf.r1KeyHolder.val ++ element 3 conf.r0KeyHolder)

def sta : Sta := { sm := { addr }, cache := [r1] }

/-- The authentication; the driver does not know the station yet and refuses the key. -/
def auth : Event :=
  .auth .ft false 16 false true { aNonce := some aNonce, setKeyOk := false } authIes

/-- The Reassociation Request, or a retransmission of it. -/
def reassoc (retry : Bool) : Event := .assoc true retry 32 (some ⟨0x0010, .ieee8021x, false⟩) true
  reassocIes

def associated : Event := .assocCb true true true

def twice : List Event :=
  [auth, reassoc false, associated, .disassoc, auth, reassoc false, associated]

def tk : Bytes := replicate 16 45

def ptk : Ptk := ⟨tk, tk, tk⟩

end Sample

/-- The hypotheses are met by a station that authenticates and associates, and after a
disassociation authenticates and associates again. -/
theorem ft_key_installed_once_sample : ∃ sta',
    run (step Prims.sample Sample.conf) Sample.sta Sample.twice = .ok sta' ∧
      inUse sta'.log ∧ sta'.log.length = 6 ∧ InstalledOnce sta'.log := by
  have hcond : Along (step Prims.sample Sample.conf) AssociatesOnce Sample.sta Sample.twice := by
    decide +kernel
  refine returns_of (fun sta' => inUse sta'.log ∧ sta'.log.length = 6) (by decide +kernel)
    fun sta' hrun ⟨huse, hlen⟩ => ⟨huse, hlen, ?_⟩
  exact ft_key_installed_once Prims.sample Sample.conf rfl hcond hrun

/-- The station authenticates and associates.  Then the Reassociation Request is retransmitted: it
is not taken for a repetition, its MIC is as valid as before, and the access point hands the same
temporal key to the driver again.  No key is derived in between. -/
theorem ft_key_reinstalled : ∃ sta',
    run (step Prims.sample Sample.conf) Sample.sta [Sample.auth, Sample.reassoc false,
      Sample.associated, Sample.reassoc true, Sample.associated] = .ok sta' ∧
      sta'.log = [⟨.setKey (some .ccmp) Sample.tk true, true⟩,
        ⟨.setKey (some .ccmp) Sample.tk true, true⟩, ⟨.setKey (some .ccmp) Sample.tk false, false⟩,
        ⟨.derived Sample.aNonce Sample.ptk, false⟩] ∧
      ¬ InstalledOnce sta'.log := by
  refine exists_ok (by decide +kernel) fun sta' _ hlog honce => ?_
  obtain ⟨e, he, -⟩ := honce [] [] _ _ _ _ _ _ hlog
  exact not_mem_nil he

end Sta

end Hostapd.Ft
