import Hostapd.Wps.RegistrarEvidence
import Hostapd.Wps.PinTable

/-!
# Wi-Fi Protected Setup: what a step of a Registrar session does to the PINs

Of all that a step does three things concern the PINs: a PIN is obtained when M2 is due, R-S2 is
sent in M6, and the Enrollee's E-S2 is compared when M7 comes.  `Quiet` says that none of this
happened and that the session keeps what it relies on; `built` and `processed` say of every step
that it is quiet or does one of the three.
-/

namespace Hostapd.Wps.Registrar

open Machine Wire

/-- The entry is about a PIN. -/
def tellsPin : Entry → Bool
  | .gotPin _ => true
  | .sent .m6 _ _ _ => true
  | .compared true _ => true
  | _ => false

/-- Nothing happened that concerns the PINs.  The UUID-E only changes while M1 is awaited. -/
structure Quiet (s t : St) : Prop where
  pins : t.reg.pins = s.reg.pins
  nextId : t.reg.nextId = s.reg.nextId
  silent : t.out.filter tellsPin = s.out.filter tellsPin
  revealed : t.wps.pinRevealed = s.wps.pinRevealed
  begun : s.wps.state ≠ .recvM1 → t.wps.uuidE = s.wps.uuidE ∧ t.wps.state ≠ .recvM1

variable {prims : Prims} {ctx : Context} {s t u : St}

lemma Quiet.refl (s : St) : Quiet s s :=
  ⟨.refl _, .refl _, .refl _, .refl _, fun h => ⟨.refl _, h⟩⟩

section

variable (h : Quiet s t)

include h

lemma Quiet.trans (h' : Quiet t u) : Quiet s u where
  pins := h'.pins.trans h.pins
  nextId := h'.nextId.trans h.nextId
  silent := h'.silent.trans h.silent
  revealed := h'.revealed.trans h.revealed
  begun hs := ⟨(h'.begun (h.begun hs).2).1.trans (h.begun hs).1, (h'.begun (h.begun hs).2).2⟩

lemma Quiet.upd {f : Data → Data}
    (hf : ∀ d, (f d).state = d.state ∧ (f d).uuidE = d.uuidE ∧ (f d).pinRevealed = d.pinRevealed) :
    Quiet s (t.upd f) := by
  obtain ⟨hstate, huuid, hrevealed⟩ := hf t.wps
  refine h.trans ⟨.refl _, .refl _, .refl _, hrevealed, fun ht => ⟨huuid, ?_⟩⟩
  exact hstate ▸ ht

lemma Quiet.goto {state : State} (hstate : state ≠ .recvM1) : Quiet s (t.goto state) :=
  h.trans ⟨.refl _, .refl _, .refl _, .refl _, fun _ => ⟨.refl _, hstate⟩⟩

lemma Quiet.tell {e : Entry} (he : tellsPin e = false) : Quiet s (t.tell e) :=
  h.trans ⟨Eq.refl _, Eq.refl _, List.filter_cons_of_neg (by simp [he]), Eq.refl _,
    fun ht => ⟨.refl _, ht⟩⟩

/-! ## Building messages -/

lemma Quiet.send {type : MsgType} (htype : type ≠ .m6) (msg : Bytes)
    (settings : Option Bytes) {next : State} (hnext : next ≠ .recvM1) :
    Quiet s (send t type msg settings next).1 := by
  have htells : ∀ d, tellsPin (.sent type msg settings d) = false := by
    intro d
    cases type <;> first | rfl | exact absurd rfl htype
  refine .tell (h.trans ?_) (htells _)
  exact ⟨.refl _, .refl _, .refl _, .refl _, fun _ => ⟨.refl _, hnext⟩⟩

lemma Quiet.m2Only (hu : M2Only t u) : Quiet s u :=
  h.trans ⟨congrArg Registrar.pins hu.reg, congrArg Registrar.nextId hu.reg,
    congrArg (List.filter tellsPin) hu.out, hu.revealed, fun ht => ⟨hu.uuidE, hu.state ▸ ht⟩⟩

lemma quiet_buildM2 (ans : Answers) : Quiet s (orNone (buildM2 prims ctx t ans)).1 := by
  refine orNone_of_meets (meets_buildM2 t ans) (fun _ => h.m2Only) ?_
  rintro - ⟨u, msg, settings, hu, -, rfl⟩
  refine (h.m2Only hu).send (by decide) msg _ ?_
  split
  · decide
  · decide

lemma quiet_buildM2d (locked : Bool) : Quiet s (buildM2d ctx t locked).1 :=
  h.send (by decide) _ _ (by decide)

end

lemma quiet_buildM4 (s : St) (ans : Answers) : Quiet s (orNone (buildM4 prims s ans)).1 := by
  have hpsks : ∀ snonce, Quiet s (s.upd (withPsks prims snonce)) :=
    fun _ => (Quiet.refl s).upd fun _ => ⟨rfl, rfl, rfl⟩
  refine orNone_of_meets (meets_buildM4 s ans) ?_ ?_
  · rintro - ⟨snonce, rfl⟩
    exact hpsks snonce
  · rintro - ⟨snonce, msg, settings, rfl⟩
    exact (hpsks snonce).send (by decide) _ _ (by decide)

lemma quiet_buildM8 (s : St) (ans : Answers) : Quiet s (orNone (buildM8 prims ctx s ans)).1 := by
  have hcred : ∀ t, CredOnly s t → Quiet s t := by
    rintro - ⟨cred, newPsk, authType, encrType, rfl⟩
    exact (Quiet.refl s).upd fun _ => ⟨rfl, rfl, rfl⟩
  refine orNone_of_meets (meets_buildM8 s ans) hcred ?_
  rintro - ⟨u, msg, settings, hu, rfl⟩
  exact (hcred u hu).send (by decide) _ _ (by decide)

/-- The state after R-S2 has gone out in a message. -/
def reveal (s : St) (msg : Bytes) (settings : Option Bytes) (d : Data) : St :=
  (s.upd fun d => { d with pinRevealed := true }).tell (.sent .m6 msg settings d)

/-- What building a message does as far as the PINs are concerned. -/
inductive Built (ctx : Context) (s t : St) : Prop
  | quiet (hasks : asks ctx s.wps = false) (h : Quiet s t)
  | asked (hasks : asks ctx s.wps) (now : ℕ) (h : Quiet (askPin s now) t)
  | revealed (hasks : asks ctx s.wps = false) (msg : Bytes)
      (settings : Option Bytes) (d : Data) (h : Quiet (reveal s msg settings d) t)

/-- Building a message is quiet, asks for a PIN or reveals one. -/
lemma built (s : St) (ans : Answers) (locked : Bool) :
    Built ctx s (getMsg prims ctx s ans locked).1 := by
  have hrefl := Quiet.refl s
  have hasks : s.wps.state ≠ .sendM2 → asks ctx s.wps = false := fun hne => by simp [asks, hne]
  have hm2 : ∀ u, Meets (M2Only u) (M2Only u) (getDevPassword ctx s ans.now) →
      Quiet u (sendM2 prims ctx s ans locked).1 := by
    intro u hu
    unfold sendM2
    split
    · rename_i hres
      exact quiet_buildM2d ((Quiet.refl u).m2Only (hu.of_error hres)) locked
    · rename_i hres
      exact quiet_buildM2 ((Quiet.refl u).m2Only (hu.of_ok hres)) ans
  unfold getMsg
  split
  · rename_i hstate
    cases ha : asks ctx s.wps with
    | false => exact .quiet ha (hm2 s (meets_getDevPassword hstate (by simp [ha]) fun _ => rfl))
    | true =>
      exact .asked ha ans.now (hm2 _ (meets_getDevPassword hstate (fun _ => rfl) (by simp [ha])))
  · rename_i hstate
    exact .quiet (hasks (by rw [hstate]; decide)) (quiet_buildM2d hrefl locked)
  · rename_i hstate
    exact .quiet (hasks (by rw [hstate]; decide)) (quiet_buildM4 s ans)
  · rename_i hstate
    have hno := hasks (by rw [hstate]; decide)
    refine orNone_of_meets (meets_buildM6 s ans) (fun u hu => .quiet hno (hu ▸ hrefl)) ?_
    rintro - ⟨msg, settings, rfl⟩
    refine .revealed hno msg (some settings)
      { s.wps with pinRevealed := true, state := .recvM7, lastMsg := some msg } ?_
    exact ⟨rfl, rfl, rfl, rfl, fun _ => ⟨rfl, by simp [send, St.upd, St.tell]⟩⟩
  · rename_i hstate
    exact .quiet (hasks (by rw [hstate]; decide)) (quiet_buildM8 s ans)
  · rename_i hstate
    exact .quiet (hasks (by rw [hstate]; decide)) hrefl
  · rename_i hstate
    exact .quiet (hasks (by rw [hstate]; decide)) hrefl
  · rename_i hne _ _ _ _ _ _
    exact .quiet (hasks hne) hrefl

/-! ## Processing messages -/

/-- The state after E-S2 was compared: the PIN of the session is used up. -/
def useUp (s : St) (reg : Registrar) (revealed matched : Bool) : St :=
  { reg := reg, wps := { s.wps with pinRevealed := revealed }
    out := .compared true matched :: s.out }

/-- What processing a message does as far as the PINs are concerned. -/
inductive Processed (op : OpCode) (s t : St) : Prop
  | quiet (h : Quiet s t)
  /-- E-S2 was compared, and the PIN that carries the UUID-E is removed at least. -/
  | compared (hop : op = .msg) (hstate : s.wps.state = .recvM7) (reg : Registrar)
      (hpins : reg.pins.Sublist (s.reg.pins.eraseP (carries s.wps.uuidE)))
      (hnext : reg.nextId = s.reg.nextId) (revealed matched : Bool)
      (h : Quiet (useUp s reg revealed matched) t)

lemma Processed.before {op : OpCode} (h : Processed op s t) (hu : Quiet t u) :
    Processed op s u := by
  cases h with
  | quiet h => exact .quiet (h.trans hu)
  | compared hop hst reg hpins hnext revealed matched h =>
    exact .compared hop hst reg hpins hnext revealed matched (h.trans hu)

lemma quiet_checkMsg {attrs : Attrs} {msg : Bytes} {P : St → Prop}
    {f : Unit → Except St St} (hs : Quiet s t) (hf : Meets (Quiet s) P (f ())) :
    Meets (Quiet s) P (checkMsg prims t attrs msg >>= f) := meets_checkOwn hs fun _ => hf

lemma quiet_processMsgIn {due next : State} (hnext : next ≠ .recvM1) {body : St → Except St St}
    (h : Meets (Quiet s) (Quiet s) (body s)) : Quiet s (processMsgIn due next body s) :=
  processMsgIn_induction ((Quiet.refl s).goto (by decide))
    ⟨rfl, rfl, rfl, rfl, fun _ => ⟨rfl, by simp [St.refuse]⟩⟩ fun _ =>
    h.weaken (fun _ ht => ht.goto (by decide)) fun _ ht => ht.goto hnext

lemma quiet_m3Body (attrs : Attrs) (msg : Bytes) :
    Meets (Quiet s) (Quiet s) (m3Body prims attrs msg s) := by
  have hrefl := Quiet.refl s
  refine quiet_checkMsg hrefl (meets_need hrefl fun hash1 _ => ?_)
  have hhash : Quiet s (s.upd fun d => { d with peerHash1 := hash1 }) :=
    hrefl.upd fun _ => ⟨rfl, rfl, rfl⟩
  exact meets_need hhash fun hash2 _ => hhash.upd fun _ => ⟨rfl, rfl, rfl⟩

lemma quiet_m5Body (attrs : Attrs) (msg : Bytes) :
    Meets (Quiet s) (Quiet s) (m5Body prims attrs msg s) := by
  have hrefl := Quiet.refl s
  refine quiet_checkMsg hrefl (meets_need hrefl fun settings _ => ?_)
  refine meets_need hrefl fun snonce _ => ?_
  unfold compareHash
  split
  · exact hrefl.tell rfl
  · exact (hrefl.tell rfl).upd fun _ => ⟨rfl, rfl, rfl⟩

lemma quiet_processApSettingsR (eattrs : Attrs) :
    Meets (Quiet s) (Quiet s) (processApSettingsR ctx s eattrs) := by
  have hrefl := Quiet.refl s
  unfold processApSettingsR
  split
  · exact hrefl
  refine meets_need hrefl fun cred _ => ?_
  split
  · exact hrefl.upd fun _ => ⟨rfl, rfl, rfl⟩
  split
  · exact hrefl.upd fun _ => ⟨rfl, rfl, rfl⟩
  · refine .tell ?_ rfl
    exact hrefl.upd fun _ => ⟨rfl, rfl, rfl⟩

/-- M7 compares E-S2. -/
lemma processed_m7Body (hstate : s.wps.state = .recvM7) (attrs : Attrs) (msg : Bytes) :
    Meets (Processed .msg s) (Processed .msg s) (m7Body prims ctx attrs msg s) := by
  have hrefl : Processed .msg s s := .quiet (.refl s)
  refine meets_checkOwn hrefl fun _ => meets_need hrefl fun settings _ => ?_
  unfold processESnonce2
  rw [bind_assoc]
  refine meets_need hrefl fun snonce _ => ?_
  split
  · -- Unlocking and invalidating removes what invalidating alone removes.
    have hused : ∀ t, Quiet (useUp s ((s.reg.unlockPin s.wps.uuidE).invalidatePin s.wps.uuidE)
        false true) t → Processed .msg s t := by
      refine fun t ht => .compared rfl hstate _ ?_ ?_ false true ht
      · exact PinTable.unlock_invalidate_sublist s.reg s.wps.uuidE
      · exact PinTable.nextId_unlockPin s.reg s.wps.uuidE
    exact .weaken (quiet_processApSettingsR settings.2) hused hused
  · refine .compared rfl hstate (s.reg.invalidatePin s.wps.uuidE) (.refl _) rfl
      s.wps.pinRevealed false ?_
    exact ⟨rfl, rfl, rfl, rfl, fun hs => ⟨rfl, hs⟩⟩

/-- M1 is quiet. -/
lemma quiet_processM1 (s : St) (attrs : Attrs) (pbcOverlap : Bool) :
    Quiet s (processM1 prims ctx s attrs pbcOverlap).1 := by
  have hsame : ∀ {t}, s.wps.state = .recvM1 → SameRun s t → Quiet s t := fun hdue h =>
    ⟨h.pins, h.nextId, congrArg _ h.out, h.revealed, absurd hdue⟩
  have hdone : M1Done prims s (processM1 prims ctx s attrs pbcOverlap) := m1Done s attrs pbcOverlap
  generalize processM1 prims ctx s attrs pbcOverlap = r at hdone
  cases hdone with
  | untimely => exact .refl s
  | missing hdue h => exact hsame hdue h.toSameRun
  | m2d hdue h => exact hsame hdue h
  | m2 hdue h => exact hsame hdue h

/-- The end of a session is quiet. -/
lemma quiet_completed : Quiet s (completed ctx s) := by
  have hauto : Quiet s (autoConf ctx s) := by
    unfold autoConf
    split
    · split
      · exact ⟨rfl, rfl, rfl, rfl, fun hs => ⟨rfl, hs⟩⟩
      · exact .refl s
    · exact .refl s
  have hsta : Quiet s (staCred ctx (autoConf ctx s)) := by
    unfold staCred
    split
    · exact hauto
    · refine .tell ?_ rfl
      exact hauto.upd fun _ => ⟨rfl, rfl, rfl⟩
  unfold completed
  refine hsta.trans ⟨?_, ?_, rfl, rfl, fun hs => ⟨rfl, hs⟩⟩
  · simp only
    split
    · rfl
    · rfl
  · simp only
    split
    · rfl
    · rfl

/-- Every message. -/
lemma processed (s : St) (op : OpCode) (msg : Bytes) (pbcOverlap : Bool) :
    Processed op (s.tell (.received op s.wps.lastMsg msg))
      (processMsg prims ctx s op msg pbcOverlap).1 := by
  unfold processMsg
  generalize s.tell (.received op s.wps.lastMsg msg) = t
  have hrefl := Quiet.refl t
  cases op with
  | ack => exact .quiet hrefl
  | nack => exact .quiet (hrefl.goto (by decide))
  | done =>
    unfold processWscDone
    simp only
    split
    · exact .quiet quiet_completed
    · exact .quiet (hrefl.goto (by decide))
  | msg =>
    have hkeep : ∀ r : St × ProcessRes, Processed .msg t r.1 →
        Processed .msg t (keepMsg msg r).1 := by
      intro r hr
      unfold keepMsg
      split
      · exact hr.before ⟨rfl, rfl, rfl, rfl, fun hs => ⟨rfl, hs⟩⟩
      · exact hr
    have hm7 : ∀ attrs, Processed .msg t (processM7 prims ctx t attrs msg) := by
      intro attrs
      refine processMsgIn_induction (.quiet (hrefl.goto (by decide)))
        (.quiet ⟨rfl, rfl, rfl, rfl, fun _ => ⟨rfl, by simp [St.refuse]⟩⟩) fun hdue => ?_
      exact (processed_m7Body hdue attrs msg).weaken
        (fun u hu => hu.before ((Quiet.refl u).goto (by decide)))
        fun u hu => hu.before ((Quiet.refl u).goto (by decide))
    simp only
    unfold processWscMsg
    split
    · exact .quiet hrefl
    split
    · exact .quiet (hrefl.goto (by decide))
    split
    · exact .quiet hrefl
    refine hkeep _ ?_
    unfold dispatch
    split
    · exact .quiet (quiet_processM1 _ _ pbcOverlap)
    split
    · exact .quiet (quiet_processMsgIn (by decide) (quiet_m3Body _ msg))
    split
    · exact .quiet (quiet_processMsgIn (by decide) (quiet_m5Body _ msg))
    split
    · exact hm7 _
    · exact .quiet hrefl

end Hostapd.Wps.Registrar
