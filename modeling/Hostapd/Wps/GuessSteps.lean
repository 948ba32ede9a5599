import Hostapd.Wps.EnrolleeEvidence

/-!
# Wi-Fi Protected Setup: guesses at the AP PIN in one session

An access point is the Enrollee of external Registrars that know, or guess, its AP PIN. A guess is
evaluated when R-S1 is compared with R-Hash1 in M4 and R-S2 with R-Hash2 in M6. A session that has
passed M2 and may still evaluate a guess is under way (`underWay`); it comes under way only with an
M2 that finds the setup unlocked.
-/

namespace Hostapd.Wps.Enrollee

open Wire Machine

def tellsGuess : Entry → Bool
  | .compared _ _ => true
  | .apPinSuccess => true
  | _ => false

/-- The states of a session that has passed M2 and in which a guess may still be evaluated. -/
def underWay (d : Data) : Bool := d.state ∈ [.sendM3, .recvM4, .sendM5, .recvM6]

/-- Nothing is told about a guess. -/
def Silent (s t : St) : Prop := t.out.filter tellsGuess = s.out.filter tellsGuess

variable {prims : Prims} {ctx : Context} {s t u : St} {msg : Bytes} {attrs : Attrs} {lock : ℕ}

lemma Silent.refl (s : St) : Silent s s := rfl

lemma Silent.upd (h : Silent s t) (f : Data → Data) : Silent s (t.upd f) := h

lemma Silent.of_out (h : Silent s t) (hout : u.out = t.out) : Silent s u := by
  unfold Silent
  rw [hout]
  exact h

lemma Silent.tell (h : Silent s t) {e : Entry} (he : tellsGuess e = false) :
    Silent s (t.tell e) := (List.filter_cons_of_neg (by simp [he])).trans h

/-! ## Building messages -/

/-- Building a message evaluates no guess. -/
structure Built (s t : St) : Prop where
  silent : Silent s t
  underWay : underWay t.wps → Enrollee.underWay s.wps

lemma Built.refl (s : St) : Built s s := ⟨rfl, id⟩

lemma Built.send (h : Built s t) (type : MsgType) (m : Bytes)
    (settings : Option Bytes) {next : State}
    (hnext : next ∈ [State.sendM3, .recvM4, .sendM5, .recvM6] → Enrollee.underWay s.wps) :
    Built s (send t type m settings next).1 :=
  ⟨(h.silent.upd _).tell rfl, fun hu => hnext (of_decide_eq_true hu)⟩

/-- Building a message evaluates no guess. -/
lemma built (s : St) (ans : Answers) : Built s (getMsg prims ctx s ans).1 := by
  have hrefl := Built.refl s
  have hsame : ∀ u, SameState s u → Built s u := fun u hu =>
    ⟨congrArg _ hu.1, fun hw => by rwa [Enrollee.underWay, hu.2] at hw⟩
  unfold getMsg
  split
  · refine orNone_of_meets (meets_buildM1 s ans) hsame ?_
    rintro - ⟨u, m, rfl, hu⟩
    exact (hsame u hu).send _ _ _ fun hnext => absurd hnext (by decide)
  · rename_i hstate
    refine orNone_of_meets (meets_buildM3 s ans) hsame ?_
    rintro - ⟨u, m, rfl, hu, -⟩
    exact (hsame u hu).send _ _ _ fun _ => by simp [underWay, hstate]
  · rename_i hstate
    refine orNone_of_meets (meets_buildM5 s ans) (fun u hu => hu ▸ hrefl) ?_
    rintro - ⟨m, settings, rfl⟩
    exact hrefl.send _ _ _ fun _ => by simp [underWay, hstate]
  · refine orNone_of_meets (meets_buildM7 s ans) (fun u hu => hu ▸ hrefl) ?_
    rintro - ⟨m, settings, rfl⟩
    exact hrefl.send _ _ _ fun hnext => absurd hnext (by decide)
  · split
    · exact hrefl
    · exact ⟨rfl, fun hu => absurd hu (by simp [St.goto, underWay])⟩
  · exact hrefl
  · refine ⟨rfl, fun hu => absurd hu ?_⟩
    simp only [St.goto, underWay]
    split
    · simp
    · simp
  · exact hrefl

/-! ## Processing messages -/

/-- The state in which a half of the AP PIN is compared. -/
def compares (second : Bool) : State := if second then .recvM6 else .recvM4

/-- What processing a message does as far as guesses are concerned. -/
inductive Heard (lock : ℕ) (op : OpCode) (s t : St) : Prop
  /-- No guess is evaluated.  A session comes under way only if the setup is not locked. -/
  | silent (h : Silent s t) (hunderWay : underWay t.wps → underWay s.wps ∨
      op = .msg ∧ s.wps.state = .recvM2 ∧ (lock = 0 ∨ lock = 2))
  /-- A guess at one half was right.  With the second half the AP PIN is proved. -/
  | matched (hop : op = .msg) (second : Bool) (hstate : s.wps.state = compares second)
      (h : t.out.filter tellsGuess = (if second then [Entry.apPinSuccess] else []) ++
        .compared second true :: s.out.filter tellsGuess)
      (hunderWay : underWay t.wps → second = false)
  | failed (hop : op = .msg) (second : Bool) (hstate : s.wps.state = compares second)
      (h : t.out.filter tellsGuess = .compared second false :: s.out.filter tellsGuess)
      (hunderWay : underWay t.wps = false)

lemma underWay_of_compares {second : Bool} (h : s.wps.state = compares second) :
    underWay s.wps := by
  cases second <;> simp [underWay, h, compares]

lemma silent_keptByReading {plain : Bytes} {eattrs : Attrs} :
    KeptByReading plain eattrs (Silent s) where
  store _ _ h := h.upd _
  tell _ _ _ h := h.tell rfl

/-- M2 evaluates no guess. -/
lemma silent_m2Body (hap : ctx.ap) (lock : ℕ) (accept : Credential → Bool)
    (h : Silent s t) : Meets (Silent s) (fun u => Silent s u ∧ (lock = 0 ∨ lock = 2))
      (m2Body prims ctx lock attrs msg accept t) := by
  refine meets_m2Body (fun u hu => h.of_out hu.out) fun u w hw hno _ => ?_
  have hlock : lock = 0 ∨ lock = 2 := by
    simp only [setupLocked, hap, true_and, decide_eq_false_iff_not, not_or, not_and_or,
      not_not] at hno
    exact hno.1
  have hsilent := h.of_out hw.out
  unfold m2Settings
  split
  · exact ⟨hsilent, hlock⟩
  · refine meets_need hsilent fun settings _ => ?_
    have hkept : KeptByReading settings.1 settings.2 (Silent s) := silent_keptByReading
    exact (hkept.processCreds (fun _ => id) accept hsilent).bind fun _ hx => ⟨hx, hlock⟩

/-- A comparison evaluates a guess. -/
lemma heard_compareHash (second : Bool) {hash psk : Bytes}
    (hstate : s.wps.state = compares second) (ht : Silent s t) (snonce : Bytes)
    {f : St → Except St St}
    (hf : Meets (fun u => Heard lock .msg s (u.goto .sendWscNack)) (Heard lock .msg s)
      (f (t.tell (.compared second true)))) :
    Meets (fun u => Heard lock .msg s (u.goto .sendWscNack)) (Heard lock .msg s)
      (compareHash prims t second hash psk snonce >>= f) := by
  unfold compareHash
  split
  · exact hf
  · refine .failed rfl second hstate ?_ (by simp [St.goto, underWay])
    exact congrArg (.compared second false :: ·) ht

/-- M4 evaluates the first half. -/
lemma heard_m4Body (hstate : s.wps.state = .recvM4) (lock : ℕ) (ht : Silent s t) :
    Meets (fun u => Heard lock .msg s (u.goto .sendWscNack)) (Heard lock .msg s)
      (m4Body prims attrs msg t) := by
  have hstop : ∀ {u}, Silent s u → Heard lock .msg s (u.goto .sendWscNack) := fun hu =>
    .silent hu fun hw => absurd hw (by simp [St.goto, underWay])
  refine meets_checkOwn (hstop ht) fun _ => meets_need (hstop ht) fun hash1 _ => ?_
  have h1 := ht.upd fun d => { d with peerHash1 := hash1 }
  refine meets_need (hstop h1) fun hash2 _ => ?_
  have h2 := h1.upd fun d => { d with peerHash2 := hash2 }
  refine meets_need (hstop h2) fun settings _ => meets_need (hstop h2) fun snonce _ => ?_
  refine heard_compareHash false hstate h2 snonce ?_
  exact .matched rfl false hstate (congrArg (Entry.compared false true :: ·) ht) fun _ => rfl

/-- M6 evaluates the second half. -/
lemma heard_m6Body (hap : ctx.ap) (hstate : s.wps.state = .recvM6) (lock : ℕ)
    (ht : Silent s t) :
    Meets (fun u => Heard lock .msg s (u.goto .sendWscNack)) (Heard lock .msg s)
      (m6Body prims ctx attrs msg t) := by
  have hstop : Heard lock .msg s (t.goto .sendWscNack) :=
    .silent ht fun hw => absurd hw (by simp [St.goto, underWay])
  refine meets_checkOwn hstop fun _ => meets_need hstop fun settings _ => ?_
  refine meets_need hstop fun snonce _ => heard_compareHash true hstate ht snonce ?_
  change Heard lock .msg s (.goto (if ctx.ap then _ else _) .sendM7)
  rw [if_pos hap]
  refine .matched rfl true hstate ?_ fun hw => absurd hw (by simp [St.goto, underWay])
  exact congrArg (fun l => .apPinSuccess :: Entry.compared true true :: l) ht

/-- M8 evaluates no guess. -/
lemma silent_m8Body (lock : ℕ) (accept : Credential → Bool) (h : Silent s t) :
    Meets (Silent s) (fun u => Silent s u ∧ u.wps.state = .msgDone)
      (m8Body prims ctx lock attrs msg accept t) := by
  refine meets_checkOwn h fun _ => meets_check (h.of_out rfl) fun _ => ?_
  refine meets_need h fun settings _ => ?_
  have hkept : KeptByReading settings.1 settings.2 (Silent s) := silent_keptByReading
  refine (hkept.processCreds (fun _ => id) accept h).bind fun u hu => ?_
  exact (hkept.processApSettingsE (fun _ => id) accept hu).bind fun v hv => ⟨hv, rfl⟩

lemma Heard.keep {op : OpCode} (h : Heard lock op s t) (m : Bytes) :
    Heard lock op s (t.upd fun d => { d with lastMsg := some m }) := by
  cases h with
  | silent h hunderWay => exact .silent h hunderWay
  | matched hop second hstate h hunderWay => exact .matched hop second hstate h hunderWay
  | failed hop second hstate h hunderWay => exact .failed hop second hstate h hunderWay

/-- Every message is silent, or a guess is evaluated in it. -/
lemma heard (hap : ctx.ap) (s : St) (lock : ℕ) (op : OpCode) (msg : Bytes)
    (accept : Credential → Bool) :
    Heard lock op (s.tell (.received op s.wps.lastMsg msg))
      (processMsg prims ctx s lock op msg accept).1 := by
  unfold processMsg
  generalize s.tell (.received op s.wps.lastMsg msg) = t
  have hrefl : Heard lock op t t := .silent (.refl t) .inl
  have hnack : ∀ {u}, Silent t u → Heard lock op t (u.goto .sendWscNack) := fun hu =>
    .silent hu fun hw => absurd hw (by simp [St.goto, underWay])
  cases op with
  | done => exact hrefl
  | ack =>
    simp only
    unfold processWscAck
    split
    · exact .silent (.refl t) fun hw => absurd hw (by simp [St.goto, underWay])
    · exact hrefl
  | nack =>
    simp only
    unfold processWscNack
    split
    · exact hnack (.refl t)
    · exact hrefl
  | msg =>
    have hsilent : ∀ {due : State} {body : St → Except St St},
        (t.wps.state = due → Meets (fun u => Heard lock .msg t (u.goto .sendWscNack))
          (Heard lock .msg t) (body t)) → Heard lock .msg t (processMsgIn due body t) :=
      processMsgIn_induction (hnack (.refl t))
    have hkeep : ∀ (type : UInt8) (r : St × ProcessRes), Heard lock .msg t r.1 →
        Heard lock .msg t (keepMsg type msg r).1 := by
      intro type r hr
      unfold keepMsg
      split
      · exact hr.keep msg
      · exact hr
    simp only
    unfold processWscMsg
    split
    · exact hrefl
    split
    · exact hrefl
    split
    · exact hnack (.refl t)
    refine hkeep _ _ ?_
    unfold dispatch
    split
    · refine hsilent fun hstate => .weaken (silent_m2Body hap lock accept (.refl t))
        (fun _ hu => hnack hu) fun _ hu => .silent hu.1 fun _ => .inr ⟨rfl, hstate, hu.2⟩
    split
    · refine hsilent fun _ => ?_
      exact .silent (.refl t) fun hw => absurd hw (by simp [St.goto, underWay])
    split
    · exact hsilent fun hstate => heard_m4Body hstate lock (.refl t)
    split
    · exact hsilent fun hstate => heard_m6Body hap hstate lock (.refl t)
    split
    · refine hsilent fun _ => .weaken (silent_m8Body lock accept (.refl t))
        (fun _ hu => hnack hu) fun u hu => .silent hu.1 fun hw => ?_
      exact absurd hw (by simp [underWay, hu.2])
    · exact hrefl

end Hostapd.Wps.Enrollee
