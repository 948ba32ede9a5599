import Hostapd.Wps.Evidence
import Hostapd.Wps.Enrollee

/-!
# Wi-Fi Protected Setup: what an Enrollee has seen before it gives secrets away

An Enrollee session as a machine: messages come in and messages are built, with any state of the
lock of the access point and any answer of `cred_cb`.
-/

namespace Hostapd.Wps.Enrollee

open Wire History Machine

abbrev Session := Wps.Session Unit

/-- What happens to a session. -/
inductive Event where
  /-- A message comes in, with the lock of the access point and the answer of `cred_cb`. -/
  | receive (op : OpCode) (msg : Bytes) (lock : ℕ) (accept : Credential → Bool)
  | build (ans : Answers)

variable (prims : Prims) (ctx : Context) (s : Session)

/-- One event. -/
def step : Event → Except Empty Session
  | .receive op msg lock accept =>
    .ok (s.after (processMsg prims ctx s.enter lock op msg accept).1)
  | .build ans => .ok (s.after (getMsg prims ctx s.enter ans).1)

/-! ## Reasons and evidence -/

/-- What has to precede an entry in the history of an Enrollee session. -/
def Reason (e : Entry) (older : List Entry) : Prop :=
  match e with
  | .sent .m5 _ _ d =>
    ProvedR1 prims d.keys (d.devPassword.getD []) d.peerHash1 d.peerHash2 older
  | .sent .m7 _ _ d =>
    ProvedR2 prims d.keys (d.devPassword.getD []) d.peerHash1 d.peerHash2 older
  | .credCb c d => FromSettings prims d c older
  | _ => True

/-- What the history holds in each state of an Enrollee session. -/
def Evidence (d : Data) (log : List Entry) : Prop :=
  match d.state with
  | .recvM2 => d.lastMsg = lastSent log
  | .receivedM2d => d.lastMsg = lastSent log
  | .recvM4 => d.lastMsg = lastSent log ∧ HasPsks prims d
  | .sendM5 => HasPsks prims d ∧
      ProvedR1 prims d.keys (d.devPassword.getD []) d.peerHash1 d.peerHash2 log
  | .recvM6 => d.lastMsg = lastSent log ∧ HasPsks prims d ∧
      ProvedR1 prims d.keys (d.devPassword.getD []) d.peerHash1 d.peerHash2 log
  | .sendM7 => ProvedR2 prims d.keys (d.devPassword.getD []) d.peerHash1 d.peerHash2 log
  | .recvM8 => d.lastMsg = lastSent log
  | _ => True

variable {prims : Prims} {ctx : Context} {s : Session} {op : OpCode} {msg : Bytes}
  {attrs : Attrs} {log : List Entry} {t : St}

lemma Evidence.cons {d : Data} (h : Evidence prims d log) {e : Entry}
    (he : lastSent (e :: log) = lastSent log) : Evidence prims d (e :: log) := by
  unfold Evidence at *
  split at h
  · rw [he]; exact h
  · rw [he]; exact h
  · exact ⟨he ▸ h.1, h.2⟩
  · exact ⟨h.1, .cons h.2 e⟩
  · exact ⟨he ▸ h.1, h.2.1, .cons h.2.2 e⟩
  · exact .cons h e
  · rw [he]; exact h
  · trivial

/-- The Enrollee's reasons and evidence. -/
def role (prims : Prims) : Role where
  Reason := Reason prims
  Evidence := Evidence prims
  received _ _ _ _ := trivial
  nack d log h := by simp [Evidence, h]
  cons _ _ _ he h := h.cons he
  awaiting := [.recvM2, .receivedM2d, .recvM4, .recvM6, .recvM8]
  keep d log msg hstate h := by
    unfold Evidence at *
    split at h <;> simp_all [HasPsks, Data.keys]

/-! ## Credentials -/

/-- While the settings of a message are read: the message is authenticated and the keys are those it
was opened with. -/
structure Reading (prims : Prims) (k : Keys) (type : MsgType) (attrs : Attrs) (log : List Entry)
    (t : St) : Prop where
  reasons : Justified (Reason prims) (t.out ++ log)
  keys : t.wps.keys = k
  arrived : Occurs (Authenticated prims k.authkey type attrs) (t.out ++ log)

section Reading

variable {k : Keys} {type : MsgType} {plain : Bytes} {eattrs : Attrs}

lemma Reading.reason (h : Reading prims k type attrs log t)
    (hopen : Opens prims k attrs plain eattrs) {c : Credential} (hread : ReadFrom plain eattrs c) :
    Reason prims (.credCb c t.wps) (t.out ++ log) := by
  refine ⟨type, attrs, plain, eattrs, ?_, by rw [h.keys]; exact hopen, hread⟩
  have harrived := h.arrived
  rw [← h.keys] at harrived
  exact harrived

/-- What is kept while settings are read. -/
structure KeptByReading (plain : Bytes) (eattrs : Attrs) (P : St → Prop) : Prop where
  store : ∀ t c, P t → P (t.upd fun d => { d with cred := c })
  tell : ∀ t c, ReadFrom plain eattrs c → P t → P (t.tell (.credCb c t.wps))

variable {stopped P : St → Prop}

section

variable (hP : KeptByReading plain eattrs P)

include hP

lemma KeptByReading.processCredE (accept : Credential → Bool) (ht : P t) {cred : Bytes}
    (hmem : cred ∈ eattrs.values .cred) : P (processCredE t cred accept).1 := by
  unfold Enrollee.processCredE
  split
  · exact ht
  rename_i c hread
  split
  · exact hP.store t c ht
  · exact hP.tell _ _ (.credential hmem hread) (hP.store t c ht)

variable (hstop : ∀ u, P u → stopped u) (accept : Credential → Bool)

include hstop

/-- The loop over the Credential attributes: the induction is on the attributes that are left. -/
lemma KeptByReading.processCredLoop {creds : List Bytes}
    (hsub : ∀ c ∈ creds, c ∈ eattrs.values .cred) (ok : ℕ) (ht : P t) :
    Meets stopped P (processCredLoop t accept creds ok) := by
  induction creds generalizing t ok with
  | nil =>
    unfold Enrollee.processCredLoop
    split
    · exact hstop t ht
    · exact ht
  | cons cred creds ih =>
    have hone := hP.processCredE accept ht (hsub cred List.mem_cons_self)
    unfold Enrollee.processCredLoop
    split
    · rename_i hres
      rw [hres] at hone
      exact hstop _ hone
    · rename_i hres
      rw [hres] at hone
      exact ih (fun c hc => hsub c (List.mem_cons_of_mem _ hc)) _ hone

lemma KeptByReading.processCreds (ht : P t) :
    Meets stopped P (processCreds ctx t eattrs accept) := by
  unfold Enrollee.processCreds
  split
  · exact ht
  · exact hP.processCredLoop hstop accept (fun _ hc => hc) 0 ht

lemma KeptByReading.processApSettingsE (ht : P t) :
    Meets stopped P (processApSettingsE ctx t plain eattrs accept) := by
  unfold Enrollee.processApSettingsE
  split
  · exact ht
  refine meets_need (hstop t ht) fun c hread => meets_check (hstop t ht) fun _ => ?_
  have htold :=
    hP.tell t { upgradeTypes c with credAttr := plain } (.apSettings hread rfl rfl rfl) ht
  exact meets_check (hstop _ htold) fun _ => htold

end

end Reading

/-! ## Messages that come in -/

variable {stopped P Q : St → Prop} {due : State} {body : St → Except St St}

/-- The frame of all handlers: what is left is to follow the body of a message that is due. -/
lemma processMsgIn_induction (hnack : Q (t.goto .sendWscNack))
    (hbody : t.wps.state = due → Meets (fun u => Q (u.goto .sendWscNack)) Q (body t)) :
    Q (processMsgIn due body t) := by
  unfold processMsgIn
  split
  · exact hnack
  · rename_i hdue
    exact (hbody (not_not.mp hdue)).settle (fun _ => id) fun _ => id

/-- Nothing is told, and the message before stays. -/
structure SameLink (t t' : St) : Prop where
  out : t'.out = t.out
  lastMsg : t'.wps.lastMsg = t.wps.lastMsg

lemma SameLink.rfl (t : St) : SameLink t t := ⟨.refl _, .refl _⟩

lemma SameLink.trans {t t' t'' : St} (h : SameLink t t') (h' : SameLink t' t'') :
    SameLink t t'' := ⟨h'.out.trans h.out, h'.lastMsg.trans h.lastMsg⟩

lemma meets_processDevPwId (t : St) : Meets (SameLink t) (SameLink t) (processDevPwId t attrs) := by
  refine meets_need (.rfl t) fun id _ => ?_
  dsimp only
  split
  · exact .rfl t
  split
  · exact .rfl t
  split
  · exact .rfl t
  split
  · change SameLink t _
    constructor <;> simp
  · exact .rfl t

/-- The public key of the Registrar. -/
lemma meets_processPubkey (t : St) :
    Meets (SameLink t) (SameLink t) (processPubkey prims t attrs) := by
  refine meets_need (.rfl t) fun pubkey _ => ?_
  refine meets_check (by constructor <;> simp [St.refuse]) fun _ => ?_
  have hlink : ∀ d' : Data, d'.lastMsg = t.wps.lastMsg →
      SameLink t ((t.upd fun d => { d with dhPubkeyR := some pubkey }).upd fun _ => d') :=
    fun d' hd' => ⟨by simp, hd'⟩
  dsimp only
  split
  · rename_i d hres
    obtain rfl := (meets_deriveKeys _ _).of_error hres
    exact hlink _ rfl
  · rename_i d hres
    obtain ⟨authkey, keywrapkey, rfl⟩ := (meets_deriveKeys _ _).of_ok hres
    exact hlink _ rfl

lemma meets_processDeviceAttrs (t : St) :
    Meets (SameLink t) (fun t' => SameLink t t' ∧ t'.wps.keys = t.wps.keys)
      (processDeviceAttrs t attrs) := by
  iterate 6 refine meets_need (by constructor <;> simp) fun _ _ => ?_
  change SameLink t _ ∧ _
  exact ⟨by constructor <;> simp, by simp [Data.keys]⟩

/-- The body of M2 up to the settings: an access point goes on only while its setup is not locked,
and the Authenticator is checked. -/
lemma meets_m2Body {lock : ℕ} {accept : Credential → Bool}
    (hstop : ∀ u, SameLink t u → stopped u)
    (hsettings : ∀ u w : St, SameLink t w → setupLocked ctx u.wps lock = false →
      authenticatorValid prims w.wps.authkey t.wps.lastMsg attrs msg →
      Meets stopped P (m2Settings prims ctx w attrs accept)) :
    Meets stopped P (m2Body prims ctx lock attrs msg accept t) := by
  have hbind : ∀ {u : St} {x : Except St St} {f : St → Except St St}, SameLink t u →
      Meets (SameLink u) (SameLink u) x → (∀ v, SameLink t v → Meets stopped P (f v)) →
      Meets stopped P (x >>= f) := fun hu hx hf =>
    (hx.weaken (fun v hv => hstop v (hu.trans hv)) fun v hv => hu.trans hv).bind hf
  refine meets_need (hstop t (.rfl t)) fun nonceR _ => ?_
  refine meets_check (hstop _ ⟨rfl, rfl⟩) fun _ => meets_need (hstop _ ⟨rfl, rfl⟩) fun uuidR _ => ?_
  refine hbind (u := (t.upd _).upd _) ⟨rfl, rfl⟩ (meets_processDevPwId _) fun u hu => ?_
  refine meets_check (hstop _ (hu.trans ⟨rfl, rfl⟩)) fun hopen => ?_
  refine hbind hu (meets_processPubkey _) fun v hv => meets_check (hstop v hv) fun hvalid => ?_
  refine ((meets_processDeviceAttrs v).weaken (fun w hw => hstop w (hv.trans hw)) fun _ => id).bind
    fun w hw => hsettings u w (hv.trans hw.1) (of_decide_eq_true hopen) ?_
  rw [← hv.lastMsg, show w.wps.authkey = v.wps.authkey from congrArg Keys.authkey hw.2]
  exact hvalid

section

variable (h : s.Good (role prims)) (hparse : parseMsg msg = some attrs)

include h hparse

end

/-- Nothing is told, and the session stays in its state. -/
def SameState (t u : St) : Prop := u.out = t.out ∧ u.wps.state = t.wps.state

lemma meets_buildM1 (t : St) (ans : Answers) :
    Meets (SameState t) (fun r => ∃ u m, r = send u .m1 m none .recvM2 ∧ SameState t u)
      (buildM1 ctx t ans) :=
  meets_need ⟨rfl, rfl⟩ fun _ _ => meets_need ⟨rfl, rfl⟩ fun _ _ => ⟨_, _, rfl, rfl, rfl⟩

/-- M3 commits to both halves. -/
lemma meets_buildM3 (t : St) (ans : Answers) :
    Meets (SameState t)
      (fun r => ∃ u m, r = send u .m3 m none .recvM4 ∧ SameState t u ∧ HasPsks prims u.wps)
      (buildM3 prims ctx t ans) := by
  refine meets_need ⟨rfl, rfl⟩ fun password hpassword => meets_check ⟨rfl, rfl⟩ fun _ => ?_
  refine meets_need ⟨rfl, rfl⟩ fun snonce _ => meets_check ⟨rfl, rfl⟩ fun _ => ?_
  refine meets_need ⟨rfl, rfl⟩ fun m _ => ⟨_, m, rfl, ⟨rfl, rfl⟩, ?_, ?_⟩
  · exact congrArg (fun o => psk1Of prims t.wps.authkey (o.getD [])) hpassword.symm
  · exact congrArg (fun o => psk2Of prims t.wps.authkey (o.getD [])) hpassword.symm

lemma meets_buildM5 (t : St) (ans : Answers) :
    Meets (Eq t) (fun r => ∃ m settings, r = send t .m5 m (some settings) .recvM6)
      (buildM5 prims t ans) :=
  (meets_sealSettings (.refl t) ans.iv _).bind fun settings _ =>
    meets_need (.refl t) fun m _ => ⟨m, settings.1, rfl⟩

lemma meets_shownKey (ht : stopped t) (ans : Answers) :
    Meets stopped (fun _ => True) (shownKey ctx t ans) := by
  unfold shownKey
  split
  · exact meets_need ht fun _ _ => trivial
  · trivial

lemma meets_m7Settings (ht : stopped t) (ans : Answers) :
    Meets stopped (fun _ => True) (m7Settings ctx t ans) := by
  have hsettings : Meets stopped (fun _ => True) (buildApSettings ctx t ans) := by
    unfold buildApSettings
    split
    · trivial
    · exact (meets_shownKey ht ans).bind fun _ _ => trivial
  unfold m7Settings
  split
  · exact hsettings.bind fun _ _ => trivial
  · trivial

lemma meets_buildM7 (t : St) (ans : Answers) :
    Meets (Eq t) (fun r => ∃ m settings, r = send t .m7 m (some settings) .recvM8)
      (buildM7 prims ctx t ans) := by
  refine (meets_m7Settings (.refl t) ans).bind fun plain _ => ?_
  exact (meets_sealSettings (.refl t) ans.iv _).bind fun settings _ =>
    meets_need (.refl t) fun m _ => ⟨m, settings.1, rfl⟩

section

variable (h : Good (role prims) log t)

include h

end

end Hostapd.Wps.Enrollee
