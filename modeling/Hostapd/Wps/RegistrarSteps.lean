import Hostapd.Wps.Evidence
import Hostapd.Wps.Registrar

/-!
# Wi-Fi Protected Setup: what the handlers of a Registrar session can do

One lemma for each handler says in which states it may stop and in which it may end.  What a
session has seen (`RegistrarEvidence`) and what happens to the PINs (`PinSteps`) follow from these
lemmas without going through the handlers again.
-/

namespace Hostapd.Wps.Registrar

open Wire Machine

variable {prims : Prims} {ctx : Context} {t u t' : St} {attrs : Attrs} {msg : Bytes}
  {stopped P Q : St → Prop}

/-! ## M1 -/

/-- The history, the PINs and what is known of the PIN of the session are kept. -/
structure SameRun (t t' : St) : Prop where
  out : t'.out = t.out
  pins : t'.reg.pins = t.reg.pins
  nextId : t'.reg.nextId = t.reg.nextId
  revealed : t'.wps.pinRevealed = t.wps.pinRevealed

lemma SameRun.trans (h : SameRun t u) (h' : SameRun u t') : SameRun t t' :=
  ⟨h'.out.trans h.out, h'.pins.trans h.pins, h'.nextId.trans h.nextId, h'.revealed.trans h.revealed⟩

/-- Attributes of M1 were read: the session keeps its state and its token. -/
structure M1Read (t t' : St) : Prop extends SameRun t t' where
  state : t'.wps.state = t.wps.state
  token : t'.wps.nfcPwToken = t.wps.nfcPwToken

lemma M1Read.rfl (t : St) : M1Read t t := ⟨⟨.refl _, .refl _, .refl _, .refl _⟩, .refl _, .refl _⟩

lemma M1Read.upd (h : M1Read t u) {f : Data → Data} (hf : ∀ d, (f d).pinRevealed = d.pinRevealed ∧
    (f d).state = d.state ∧ (f d).nfcPwToken = d.nfcPwToken) : M1Read t (u.upd f) where
  out := h.out
  pins := h.pins
  nextId := h.nextId
  revealed := (hf _).1.trans h.revealed
  state := (hf _).2.1.trans h.state
  token := (hf _).2.2.trans h.token

section

variable (h : M1Read t u)

include h

/-- The identity of the Enrollee. -/
lemma M1Read.identity : Meets (M1Read t) (M1Read t) (m1Identity u attrs) := by
  refine meets_need h fun uuidE _ => ?_
  replace h := h.upd (f := fun d => { d with uuidE := uuidE }) fun _ => ⟨.refl _, .refl _, .refl _⟩
  refine meets_need h fun macAddr _ => ?_
  replace h := h.upd (f := fun d => { d with macAddrE := macAddr }) fun _ =>
    ⟨.refl _, .refl _, .refl _⟩
  refine meets_need h fun nonceE _ => ?_
  replace h := h.upd (f := fun d => { d with nonceE := nonceE }) fun _ =>
    ⟨.refl _, .refl _, .refl _⟩
  exact meets_need h fun _ _ => h.upd fun _ => ⟨.refl _, .refl _, .refl _⟩

/-- What the Enrollee can do. -/
lemma M1Read.capabilities : Meets (M1Read t) (M1Read t) (m1Capabilities ctx u attrs) := by
  refine meets_need h fun auth _ => ?_
  replace h := h.upd (f := fun d => { d with authType := commonAuthTypes ctx (ofBe16 auth) })
    fun _ => ⟨.refl _, .refl _, .refl _⟩
  refine meets_need h fun encr _ => ?_
  replace h := h.upd (f := fun d => { d with encrType := commonEncrTypes ctx (ofBe16 encr) })
    fun _ => ⟨.refl _, .refl _, .refl _⟩
  refine meets_check h fun _ => meets_need h fun methods _ => ?_
  replace h := h.upd (f := fun d =>
    { d with usePskKey := d.usePskKey ∨ hasFlag (ofBe16 methods) 0x08 = false })
    fun _ => ⟨.refl _, .refl _, .refl _⟩
  exact meets_check h fun _ => h

/-- What the Enrollee is. -/
lemma M1Read.device : Meets (M1Read t) (M1Read t) (m1Device u attrs) := by
  refine meets_need h fun manufacturer _ => ?_
  replace h := h.upd (f := fun d => { d with manufacturer := some manufacturer })
    fun _ => ⟨.refl _, .refl _, .refl _⟩
  refine meets_need h fun modelName _ => ?_
  replace h := h.upd (f := fun d => { d with modelName := some modelName })
    fun _ => ⟨.refl _, .refl _, .refl _⟩
  refine meets_check h fun _ => meets_need h fun devPwId _ => ?_
  replace h := h.upd (f := fun d => { d with devPwId := ofBe16 devPwId })
    fun _ => ⟨.refl _, .refl _, .refl _⟩
  exact meets_check h fun _ => h

end

lemma meets_processM1Attrs (t : St) : Meets (M1Read t) (M1Read t) (processM1Attrs ctx t attrs) :=
  (M1Read.rfl t).identity.bind fun _ h => h.capabilities.bind fun _ h => h.device

lemma keyBound_congr {d d' : Data} (h : KeyBound prims d) (htoken : d'.nfcPwToken = d.nfcPwToken)
    (hkey : d'.dhPubkeyE = d.dhPubkeyE) : KeyBound prims d' := by
  obtain ⟨token, hash, h1, h2, h3, h4⟩ := h
  refine ⟨token, hash, htoken.trans h1, h2, h3, ?_⟩
  rw [← h4]
  simp only [Data.keys, hkey]

/-- The token is that of the public key. -/
def HandoverBound (prims : Prims) (d : Data) : Prop :=
  ∀ token, d.nfcPwToken = some token → token.pwId = 7 → KeyBound prims d

lemma HandoverBound.congr {d d' : Data} (h : HandoverBound prims d)
    (htoken : d'.nfcPwToken = d.nfcPwToken) (hkey : d'.dhPubkeyE = d.dhPubkeyE) :
    HandoverBound prims d' :=
  fun token hsome hid => keyBound_congr (h token (htoken ▸ hsome) hid) htoken hkey

/-- A token binds the public key of the Enrollee. -/
lemma meets_matchToken (t : St) :
    Meets (fun t' => SameRun t t' ∧ t'.wps.state = .sendM2d)
      (fun t' => SameRun t t' ∧ (t.wps.nfcPwToken = none → HandoverBound prims t'.wps))
      (matchToken prims t) := by
  have hfresh : t.wps.nfcPwToken = none → HandoverBound prims t.wps :=
    fun hnone token htoken => absurd (hnone ▸ htoken) (by simp)
  unfold matchToken
  split
  · split
    · exact ⟨⟨rfl, rfl, rfl, rfl⟩, hfresh⟩
    rename_i token _
    split
    · rename_i hunknown
      refine ⟨⟨rfl, rfl, rfl, rfl⟩, fun _ token' htoken' hid => ?_⟩
      obtain rfl : token = token' := Option.some.inj htoken'
      exact absurd hunknown (token.handover_known hid).1
    rename_i hash hhash
    simp only
    split
    · rename_i hmatch
      refine ⟨⟨rfl, rfl, rfl, rfl⟩, fun _ token' htoken' hid => ?_⟩
      obtain rfl : token = token' := Option.some.inj htoken'
      exact ⟨token, hash, rfl, hid, hhash, hmatch⟩
    · exact ⟨⟨rfl, rfl, rfl, rfl⟩, rfl⟩
  · exact ⟨⟨rfl, rfl, rfl, rfl⟩, hfresh⟩

lemma meets_matchPbc (t : St) (pbcOverlap : Bool) :
    Meets (fun t' => SameRun t t' ∧ t'.wps.state = .sendM2d)
      (fun t' => SameRun t t' ∧ t'.wps.nfcPwToken = t.wps.nfcPwToken ∧
        t'.wps.dhPubkeyE = t.wps.dhPubkeyE)
      (matchPbc t pbcOverlap) := by
  unfold matchPbc
  split
  · split
    · exact ⟨⟨rfl, rfl, rfl, rfl⟩, rfl⟩
    · exact ⟨⟨rfl, rfl, rfl, rfl⟩, rfl, rfl⟩
  · exact ⟨⟨rfl, rfl, rfl, rfl⟩, rfl, rfl⟩

/-- The token and the push button: a token for connection handover fits the Enrollee's key, or M2D
follows. -/
lemma meets_match (t : St) (pbcOverlap : Bool) :
    Meets (fun t' => SameRun t t' ∧ t'.wps.state = .sendM2d)
      (fun t' => SameRun t t' ∧ (t.wps.nfcPwToken = none → HandoverBound prims t'.wps))
      (matchToken prims t >>= (matchPbc · pbcOverlap)) := by
  refine .bind (meets_matchToken t) fun u hu => ?_
  refine (meets_matchPbc u pbcOverlap).weaken (fun v hv => ⟨hu.1.trans hv.1, hv.2⟩) fun v hv => ?_
  exact ⟨hu.1.trans hv.1, fun hnone => (hu.2 hnone).congr hv.2.1 hv.2.2⟩

/-- What M1 leads to: it is not due, an attribute is missing, or M2D or M2 follows, and with M2 a
token for connection handover fits the Enrollee's key. -/
inductive M1Done (prims : Prims) (t : St) : St × ProcessRes → Prop
  | untimely (h : t.wps.state ≠ .recvM1) : M1Done prims t (t, .failure)
  | missing (hdue : t.wps.state = .recvM1) {t' : St} (h : M1Read t t') :
      M1Done prims t (t', .failure)
  | m2d (hdue : t.wps.state = .recvM1) {t' : St} (h : SameRun t t')
      (hstate : t'.wps.state = .sendM2d) : M1Done prims t (t', .continue)
  | m2 (hdue : t.wps.state = .recvM1) {t' : St} (h : SameRun t t')
      (hstate : t'.wps.state = .sendM2)
      (hbound : t.wps.nfcPwToken = none → HandoverBound prims t'.wps) :
      M1Done prims t (t', .continue)

/-- What M1 can do. -/
lemma m1Done (t : St) (attrs : Attrs) (pbcOverlap : Bool) :
    M1Done prims t (processM1 prims ctx t attrs pbcOverlap) := by
  unfold processM1
  split
  · rename_i hstate
    exact .untimely hstate
  rename_i hstate
  have hdue := not_not.mp hstate
  have hattrs : Meets (M1Read t) (M1Read t) (processM1Attrs ctx t attrs) := meets_processM1Attrs t
  cases hres : processM1Attrs ctx t attrs with
  | error u => exact .missing hdue (hattrs.of_error hres)
  | ok u =>
    have hu := hattrs.of_ok hres
    have hmatch : Meets _ _ (matchToken prims u >>= (matchPbc · pbcOverlap)) :=
      meets_match u pbcOverlap
    simp only
    split
    · exact .m2d hdue ⟨hu.out, hu.pins, hu.nextId, hu.revealed⟩ rfl
    cases hres' : matchToken prims u >>= (matchPbc · pbcOverlap) with
    | error v =>
      obtain ⟨hv, hstate'⟩ := hmatch.of_error hres'
      exact .m2d hdue (hu.toSameRun.trans hv) hstate'
    | ok v =>
      obtain ⟨hv, hbound⟩ := hmatch.of_ok hres'
      obtain ⟨htoken, hkey, hrevealed⟩ : (preferPsk v.wps).nfcPwToken = v.wps.nfcPwToken ∧
          (preferPsk v.wps).dhPubkeyE = v.wps.dhPubkeyE ∧
          (preferPsk v.wps).pinRevealed = v.wps.pinRevealed := by
        unfold preferPsk
        split <;> exact ⟨rfl, rfl, rfl⟩
      refine .m2 hdue (hu.toSameRun.trans (hv.trans ⟨rfl, rfl, rfl, hrevealed⟩)) rfl fun hnone => ?_
      exact (hbound (hu.token.trans hnone)).congr htoken hkey

/-! ## M3, M5 and M7 -/

/-- The frame of M3, M5 and M7: what is left is to follow the body of a message that is due. -/
lemma processMsgIn_induction {due next : State} {body : St → Except St St}
    (hnack : Q (t.goto .sendWscNack)) (hrefuse : Q (t.refuse 12))
    (hbody : t.wps.state = due →
      Meets (fun u => Q (u.goto .sendWscNack)) (fun u => Q (u.goto next)) (body t)) :
    Q (processMsgIn due next body t) := by
  unfold processMsgIn
  split
  · exact hnack
  split
  · exact hrefuse
  · rename_i hdue _
    exact (hbody (not_not.mp hdue)).settle (fun _ => id) fun _ => id

/-! ## Building messages -/

/-- Making a credential changes the types, the credential and the generated key. -/
def CredOnly (t t' : St) : Prop :=
  ∃ authType encrType cred newPsk, t' = t.upd fun d =>
    { d with authType := authType, encrType := encrType, cred := cred, newPsk := newPsk }

lemma CredOnly.rfl (t : St) : CredOnly t t :=
  ⟨t.wps.authType, t.wps.encrType, t.wps.cred, t.wps.newPsk, .refl _⟩

/-- A new credential. -/
lemma meets_makeCred (t : St) (ans : Answers) :
    Meets (CredOnly t) (CredOnly t) (makeCred prims ctx t ans) := by
  unfold makeCred
  split
  · exact ⟨t.wps.authType, t.wps.encrType, _, t.wps.newPsk, .refl _⟩
  refine meets_need (.rfl t) fun a _ => ?_
  refine meets_need ⟨a, t.wps.encrType, t.wps.cred, t.wps.newPsk, .refl _⟩ fun e _ => ?_
  have hkey : Meets (CredOnly t) (fun _ => True)
      (credKey prims ctx ((t.upd fun d => { d with authType := a }).upd fun d =>
        { d with encrType := e }) ans) := by
    unfold credKey
    split
    · exact meets_need ⟨a, e, t.wps.cred, t.wps.newPsk, .refl _⟩ fun _ _ => trivial
    split
    · trivial
    · trivial
    · split
      · exact meets_need ⟨a, e, t.wps.cred, none, .refl _⟩ fun _ _ => trivial
      · trivial
  exact hkey.bind fun key _ => ⟨a, e, _, key.1, .refl _⟩

lemma meets_buildCred (t : St) (ans : Answers) :
    Meets (CredOnly t) (fun r => CredOnly t r.1) (buildCred prims ctx t ans) := by
  unfold buildCred
  split
  · exact .rfl t
  · exact (meets_makeCred t ans).bind fun t' ht' => ht'

/-- Building M2 changes nothing that the PINs or the binding of the Enrollee's key depend on. -/
structure M2Only (t t' : St) : Prop where
  reg : t'.reg = t.reg
  out : t'.out = t.out
  state : t'.wps.state = t.wps.state
  token : t'.wps.nfcPwToken = t.wps.nfcPwToken
  key : t'.wps.dhPubkeyE = t.wps.dhPubkeyE
  uuidE : t'.wps.uuidE = t.wps.uuidE
  revealed : t'.wps.pinRevealed = t.wps.pinRevealed

lemma M2Only.credOnly (h : M2Only t u) (h' : CredOnly u t') : M2Only t t' := by
  obtain ⟨a, e, c, n, rfl⟩ := h'
  exact ⟨h.reg, h.out, h.state, h.token, h.key, h.uuidE, h.revealed⟩

/-- The keys of M2. -/
lemma meets_deriveM2Keys (h : M2Only t u) (ans : Answers) :
    Meets (M2Only t) (fun r => M2Only t r.1) (deriveM2Keys prims u ans) := by
  have hkept : ∀ d : Data, d.state = u.wps.state → d.nfcPwToken = u.wps.nfcPwToken →
      d.dhPubkeyE = u.wps.dhPubkeyE → d.uuidE = u.wps.uuidE →
      d.pinRevealed = u.wps.pinRevealed → M2Only t (u.upd fun _ => d) :=
    fun d h1 h2 h3 h4 h5 => ⟨h.reg, h.out, h1.trans h.state, h2.trans h.token, h3.trans h.key,
      h4.trans h.uuidE, h5.trans h.revealed⟩
  refine meets_need (hkept _ rfl rfl rfl rfl rfl) fun keys _ => ?_
  dsimp only
  split
  · rename_i d hres
    obtain rfl := (meets_deriveKeys _ _).of_error hres
    exact hkept _ rfl rfl rfl rfl rfl
  · rename_i d hres
    obtain ⟨authkey, keywrapkey, rfl⟩ := (meets_deriveKeys _ _).of_ok hres
    exact hkept _ rfl rfl rfl rfl rfl

/-- The settings of M2. -/
lemma meets_m2Settings (h : M2Only t u) (ans : Answers) :
    Meets (M2Only t) (fun r => M2Only t r.1 ∧ (r.2 ≠ none → abbreviated t.wps))
      (m2Settings prims ctx u ans) := by
  unfold m2Settings
  split
  · rename_i habbr
    have hcred : Meets (M2Only t) (fun r => M2Only t r.1) (buildCred prims ctx u ans) :=
      (meets_buildCred u ans).weaken (fun _ => h.credOnly) fun _ => h.credOnly
    refine hcred.bind fun r hr =>
      (meets_sealSettings hr ans.iv r.2).bind fun _ _ => ⟨hr, fun _ => ?_⟩
    rwa [abbreviated, h.token] at habbr
  · exact ⟨h, absurd rfl⟩

/-- What building M2 can do. -/
lemma meets_buildM2 (t : St) (ans : Answers) :
    Meets (M2Only t)
      (fun r => ∃ u msg settings, M2Only t u ∧ (settings ≠ none → abbreviated t.wps) ∧
        r = send u .m2 msg settings (if settings = none then .recvM3 else .recvDone))
      (buildM2 prims ctx t ans) := by
  refine meets_need ⟨rfl, rfl, rfl, rfl, rfl, rfl, rfl⟩ fun nonceR _ => ?_
  have hnonce : M2Only t (t.upd fun d => { d with nonceR := nonceR }) :=
    ⟨rfl, rfl, rfl, rfl, rfl, rfl, rfl⟩
  refine (meets_deriveM2Keys hnonce ans).bind fun r hr => ?_
  refine (meets_m2Settings hr ans).bind fun r' hr' => meets_need hr'.1 fun m _ => ?_
  refine ⟨r'.1, m, r'.2.map Prod.fst, hr'.1, fun hsome => hr'.2 ?_, ?_⟩
  · intro hnone
    simp [hnone] at hsome
  · simp only [Option.map_eq_none_iff]

/-- The PSKs of the device password, and secret nonces. -/
def withPsks (prims : Prims) (snonce : Bytes × Bytes) (d : Data) : Data :=
  { derivePsk prims d (d.devPassword.getD []) with snonce1 := snonce.1, snonce2 := snonce.2 }

/-- What building M4 can do. -/
lemma meets_buildM4 (t : St) (ans : Answers) :
    Meets (fun u => ∃ snonce, u = t.upd (withPsks prims snonce))
      (fun r => ∃ snonce msg settings,
        r = send (t.upd (withPsks prims snonce)) .m4 msg (some settings) .recvM5)
      (buildM4 prims t ans) := by
  refine meets_need ⟨(t.wps.snonce1, t.wps.snonce2), rfl⟩ fun snonce _ => ?_
  have hstop : ∃ snonce', t.upd (withPsks prims snonce) = t.upd (withPsks prims snonce') :=
    ⟨snonce, rfl⟩
  refine meets_check hstop fun _ => (meets_sealSettings hstop ans.iv _).bind fun settings _ => ?_
  exact meets_need hstop fun m _ => ⟨snonce, m, settings.1, rfl⟩

lemma meets_buildM6 (t : St) (ans : Answers) :
    Meets (Eq t)
      (fun r => ∃ msg settings, r = send (t.upd fun d => { d with pinRevealed := true }) .m6 msg
        (some settings) .recvM7)
      (buildM6 prims t ans) := by
  refine (meets_sealSettings (.refl t) ans.iv _).bind fun settings _ => ?_
  exact meets_need (.refl t) fun m _ => ⟨m, settings.1, rfl⟩

lemma meets_buildM8 (t : St) (ans : Answers) :
    Meets (CredOnly t)
      (fun r => ∃ u msg settings, CredOnly t u ∧ r = send u .m8 msg (some settings) .recvDone)
      (buildM8 prims ctx t ans) := by
  have hsettings : Meets (CredOnly t) (fun r => CredOnly t r.1) (m8Settings prims ctx t ans) := by
    unfold m8Settings
    split
    · exact meets_buildCred t ans
    · exact .rfl t
  refine hsettings.bind fun r hr => (meets_sealSettings hr ans.iv _).bind fun settings _ => ?_
  exact meets_need hr fun m _ => ⟨r.1, m, settings.1, hr, rfl⟩

/-- Whether building the next message of a session calls `wps_registrar_get_pin`. -/
def asks (ctx : Context) (d : Data) : Bool :=
  d.state = .sendM2 ∧ d.pbc = false ∧ d.nfcPwToken = none ∧
    ¬ (0x10 ≤ d.devPwId ∧ ctx.apNfcDevPwId = d.devPwId ∧ ctx.apNfcDevPw ≠ none)

/-- The state after `wps_registrar_get_pin`. -/
def askPin (s : St) (now : ℕ) : St :=
  { s with
    reg := (s.reg.getPin s.wps.uuidE now).1
    out := ((s.reg.getPin s.wps.uuidE now).2.map fun p => Entry.gotPin p.id).toList ++ s.out }

/-- The device password is got without the PINs, or `wps_registrar_get_pin` is called. -/
lemma meets_getDevPassword (hstate : t.wps.state = .sendM2) {now : ℕ}
    (hyes : asks ctx t.wps → u = askPin t now) (hno : asks ctx t.wps = false → u = t) :
    Meets (M2Only u) (M2Only u) (getDevPassword ctx t now) := by
  have hupd : ∀ password, u = t → M2Only u (t.upd fun d => { d with devPassword := password })
    | password, rfl => ⟨rfl, rfl, rfl, rfl, rfl, rfl, rfl⟩
  unfold getDevPassword
  simp only
  split
  · rename_i hpbc
    exact hupd _ (hno (by simp [asks, show t.wps.pbc from hpbc]))
  rename_i hpbc
  split
  · rename_i token htoken
    have hu := hno (by simp [asks, show t.wps.nfcPwToken = some token from htoken])
    split
    · exact hupd none hu
    · exact hupd _ hu
  rename_i htoken
  split
  · rename_i hnfc
    exact hupd _ (hno (decide_eq_false fun hasks => hasks.2.2.2 hnfc))
  rename_i hnfc
  obtain rfl := hyes (decide_eq_true ⟨hstate, Bool.eq_false_of_not_eq_true hpbc, htoken, hnfc⟩)
  split
  · rename_i hfound
    rw [askPin, show (t.reg.getPin t.wps.uuidE now).2 = none from hfound]
    exact ⟨rfl, rfl, rfl, rfl, rfl, rfl, rfl⟩
  · rename_i pin hfound
    rw [askPin, show (t.reg.getPin t.wps.uuidE now).2 = some pin from hfound]
    exact ⟨rfl, rfl, rfl, rfl, rfl, rfl, rfl⟩

end Hostapd.Wps.Registrar
