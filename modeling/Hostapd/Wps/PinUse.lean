import Hostapd.Foundation.Slots
import Hostapd.Wps.PinSteps
import Hostapd.Wps.SecretRelease

/-!
# Wi-Fi Protected Setup: who uses a PIN

A Registrar with any number of concurrent sessions while PINs are configured, cancelled and expire.
Each session is followed with the PIN it has obtained and not yet released.

The session that unlocks or invalidates a PIN is not the one that locked it: the entry is found by
the UUID-E. As long as the UUID-E tells the sessions that ask for a PIN apart (`Distinct`), each PIN
is in one session's hands and is used up with its second half. A second session with the UUID-E of
the first takes its lock away (`pin_shared_after_second_session`).
-/

namespace Hostapd.Wps.PinUse

open Wire History Machine PinTable Slots List Option

/-- An entry of the log. -/
inductive Use where
  | obtained (session pin : ℕ)
  | revealed (session pin : ℕ)
  deriving DecidableEq

/-- A session with what it has to do with PINs. -/
structure Slot where
  wps : Data
  /-- Whether it has called `wps_registrar_get_pin`. -/
  asked : Bool := false
  pin : Option ℕ := none

/-- A Registrar and its sessions. -/
structure System where
  reg : Registrar := {}
  sessions : List (Option Slot) := []
  log : List Use := []

/-- What happens to the Registrar. -/
inductive Event where
  /-- `wps_init` of a Registrar session. -/
  | start (cfg : Config)
  | receive (session : ℕ) (op : OpCode) (msg : Bytes) (pbcOverlap : Bool)
  | build (session : ℕ) (ans : Registrar.Answers) (locked : Bool)
  | deinit (session : ℕ)
  | addPin (uuid : Option Bytes) (pin : Bytes) (now timeout : ℕ)
  | addNfcPwToken (pubkeyHash : Option Bytes) (pwId : UInt16) (devPw : Option Bytes)
      (pkHashProvidedOob alloc : Bool)
  /-- `wps_registrar_complete` or `wps_registrar_wps_cancel`. -/
  | cancel (devPw : Option Bytes)
  | flush
  | others (reg : Registrar)

/-- What an entry says about the PIN. -/
def note (session : ℕ) (e : Entry) (r : Option ℕ × List Use) : Option ℕ × List Use :=
  match e with
  | .gotPin p => (some p, .obtained session p :: r.2)
  | .sent .m6 _ _ _ => (r.1, (r.1.map (Use.revealed session)).toList ++ r.2)
  | .compared true _ => (none, r.2)
  | _ => r

/-- A session after a step. -/
def System.put (s : System) (i : ℕ) (slot : Slot) (asked : Bool) (t : Registrar.St) : System :=
  let r := t.out.foldr (note i) (slot.pin, s.log)
  { reg := t.reg
    sessions := s.sessions.set i (some { wps := t.wps, asked := asked, pin := r.1 })
    log := r.2 }

variable (prims : Prims) (ctx : Context)

/-- One step.  What is meant for a session that is not there does nothing. -/
def step (s : System) : Event → Except Empty System
  | .start cfg =>
    let wps := initSession ctx { cfg with registrar := true }
    .ok { s with sessions := s.sessions ++ [some { wps }] }
  | .receive i op msg pbcOverlap =>
    match live s.sessions i with
    | none => .ok s
    | some slot =>
      let st : Registrar.St := { reg := s.reg, wps := slot.wps }
      .ok (s.put i slot slot.asked (Registrar.processMsg prims ctx st op msg pbcOverlap).1)
  | .build i ans locked =>
    match live s.sessions i with
    | none => .ok s
    | some slot =>
      let st : Registrar.St := { reg := s.reg, wps := slot.wps }
      .ok (s.put i slot (slot.asked || Registrar.asks ctx slot.wps)
        (Registrar.getMsg prims ctx st ans locked).1)
  | .deinit i =>
    match live s.sessions i with
    | none => .ok s
    | some slot =>
      .ok { s with reg := Registrar.deinit s.reg slot.wps, sessions := s.sessions.set i none }
  | .addPin uuid pin now timeout => .ok { s with reg := s.reg.addPin uuid pin now timeout }
  | .addNfcPwToken hash pwId devPw oob alloc =>
    .ok { s with reg := s.reg.addNfcPwToken hash pwId devPw oob alloc }
  | .cancel devPw => .ok { s with reg := s.reg.invalidateWildcardPin devPw }
  | .flush => .ok { s with reg := { s.reg with pins := [], nfcPwTokens := [] } }
  | .others reg => .ok { s with reg := { reg with pins := s.reg.pins, nextId := s.reg.nextId } }

def askedAs (uuid : Bytes) (slot : Slot) : Bool := slot.asked ∧ slot.wps.uuidE = uuid

/-- The UUID-E tells sessions apart: a session asks for a PIN only with a UUID-E that no session has
asked with, it processes M7 and ends while no other session that has asked has its UUID-E, and a new
PIN is not for the UUID-E of a session that has asked. -/
def Distinct (s : System) : Event → Prop
  | .build i _ _ => ∀ slot ∈ live s.sessions i, Registrar.asks ctx slot.wps →
      ¬ Any s.sessions (askedAs slot.wps.uuidE)
  | .receive i op _ _ => ∀ slot ∈ live s.sessions i, op = .msg → slot.wps.state = .recvM7 →
      ¬ AnyOther s.sessions i (askedAs slot.wps.uuidE)
  | .deinit i => ∀ slot ∈ live s.sessions i, ¬ AnyOther s.sessions i (askedAs slot.wps.uuidE)
  | .addPin uuid _ _ _ =>
    ¬ Any s.sessions (askedAs (uuid.getD (replicate 16 0))) ∧ uuid ≠ some (replicate 16 0)
  | _ => True

instance (s : System) : (e : Event) → Decidable (Distinct ctx s e)
  | .build i _ _ => inferInstanceAs (Decidable (∀ slot ∈ live s.sessions i, _ → ¬ Any _ _))
  | .receive i op _ _ =>
    inferInstanceAs (Decidable (∀ slot ∈ live s.sessions i, op = .msg → _ → ¬ AnyOther _ _ _))
  | .deinit i => inferInstanceAs (Decidable (∀ slot ∈ live s.sessions i, ¬ AnyOther _ _ _))
  | .addPin _ _ _ _ => inferInstanceAs (Decidable (¬ Any _ _ ∧ _ ≠ _))
  | .start _ | .addNfcPwToken .. | .cancel _ | .flush | .others _ => isTrue trivial

/-! ## The invariant -/

def Asked (l : List (Option Slot)) (uuid : Bytes) : Prop := Any l (askedAs uuid)

/-- A session holds the PIN. -/
def Holds (l : List (Option Slot)) (p : ℕ) (uuid : Bytes) : Prop :=
  Any l fun slot => slot.pin = some p ∧ slot.wps.uuidE = uuid

/-- A PIN is obtained only if no session has sent M6 for it before. -/
def Reason (e : Use) (older : List Use) : Prop :=
  match e with
  | .obtained _ p => ∀ j, Use.revealed j p ∉ older
  | .revealed _ _ => True

/-- What holds as long as the UUID-E tells sessions apart. -/
structure Inv (s : System) : Prop where
  ok : Ok s.reg.pins s.reg.nextId (Asked s.sessions) (Holds s.sessions)
  begun : Each s.sessions fun slot => slot.asked → slot.wps.state ≠ .recvM1
  asked : Each s.sessions fun slot => ∀ p, slot.pin = some p → slot.asked
  one : ∀ p, AtMostOne s.sessions fun slot => slot.pin = some p
  /-- A PIN that was revealed is used up or with the session that will use it up. -/
  spent : ∀ j p, Use.revealed j p ∈ s.log → p < s.reg.nextId ∧ (Dead s.reg.pins p ∨
    Any s.sessions fun slot => slot.pin = some p ∧ slot.wps.pinRevealed)
  once : Justified Reason s.log

variable {prims : Prims} {ctx : Context} {s : System} {i : ℕ} {slot : Slot} {reg : Registrar}

/-! ## Steps of a session -/

lemma note_of_silent {i : ℕ} (e : Entry) (r : Option ℕ × List Use)
    (he : Registrar.tellsPin e = false) : note i e r = r := by
  unfold note
  split
  · exact absurd he (by simp [Registrar.tellsPin])
  · exact absurd he (by simp [Registrar.tellsPin])
  · exact absurd he (by simp [Registrar.tellsPin])
  · rfl

lemma System.put_eq (s : System) (i : ℕ) (slot : Slot) (asked : Bool) {t : Registrar.St}
    {told : List Entry} (htold : t.out.filter Registrar.tellsPin = told) :
    s.put i slot asked t =
      { reg := t.reg
        sessions := s.sessions.set i (some
          { wps := t.wps, asked := asked, pin := (told.foldr (note i) (slot.pin, s.log)).1 })
        log := (told.foldr (note i) (slot.pin, s.log)).2 } := by
  unfold System.put
  rw [foldr_filter note_of_silent, htold]

variable (h : Inv s)

include h

section

variable (hi : live s.sessions i = some slot) {t : Registrar.St}

include hi

/-- A step that is quiet. -/
lemma Inv.keep {slot' : Slot} {log : List Use}
    (hpins : reg.pins = s.reg.pins) (hnext : reg.nextId = s.reg.nextId)
    (hasked : slot'.asked = slot.asked) (hpin : slot'.pin = slot.pin)
    (hbegun : slot.wps.state ≠ .recvM1 →
      slot'.wps.uuidE = slot.wps.uuidE ∧ slot'.wps.state ≠ .recvM1)
    (hrevealed : slot.wps.pinRevealed → slot'.wps.pinRevealed)
    (hlog : log = s.log ∨ ∃ p, slot.pin = some p ∧ slot'.wps.pinRevealed ∧
      log = .revealed i p :: s.log) : Inv ⟨reg, s.sessions.set i (some slot'), log⟩ := by
  have huuid : slot.asked → slot'.wps.uuidE = slot.wps.uuidE := fun ha =>
    (hbegun (h.begun i slot hi ha)).1
  refine ⟨?_, h.begun.set ?_, h.asked.set ?_, fun p => (h.one p).set hi ?_, fun j p hj => ?_, ?_⟩
  · rw [hpins, hnext]
    refine h.ok.mono (fun u hu => ?_) fun p u hu => ?_
    · refine (any_set hi).mpr (((any_of_live hi).mp hu).imp_left fun hself => ⟨slot', rfl, ?_⟩)
      obtain ⟨ha, hu'⟩ : slot.asked ∧ slot.wps.uuidE = u := of_decide_eq_true hself
      exact decide_eq_true ⟨hasked.trans ha, (huuid ha).trans hu'⟩
    refine (any_of_live hi).mpr (((any_set hi).mp hu).imp_left ?_)
    rintro ⟨_, ⟨⟩, hself⟩
    obtain ⟨hp, hu'⟩ := of_decide_eq_true hself
    have hp' : slot.pin = some p := hpin ▸ hp
    exact decide_eq_true ⟨hp', (huuid (h.asked i slot hi p hp')).symm.trans hu'⟩
  · rintro _ ⟨⟩ ha
    exact (hbegun (h.begun i slot hi (hasked ▸ ha))).2
  · rintro _ ⟨⟩ p hp
    exact hasked.trans (h.asked i slot hi p (hpin ▸ hp))
  · rintro _ ⟨⟩ hp
    exact .inl (hpin ▸ hp)
  · have hold : Use.revealed j p ∈ s.log → p < reg.nextId ∧ (Dead reg.pins p ∨
        Any (s.sessions.set i (some slot')) fun b => b.pin = some p ∧ b.wps.pinRevealed) := by
      intro hj
      rw [hpins, hnext]
      refine (h.spent j p hj).imp_right (.imp_right fun hany => ?_)
      refine (any_set hi).mpr (((any_of_live hi).mp hany).imp_left fun hself => ⟨slot', rfl, ?_⟩)
      obtain ⟨hp, hrev⟩ := of_decide_eq_true hself
      exact decide_eq_true ⟨hpin.trans hp, hrevealed hrev⟩
    rcases hlog with rfl | ⟨q, hq, hrev, rfl⟩
    · exact hold hj
    rcases mem_cons.mp hj with heq | hj
    · cases heq
      refine ⟨hnext ▸ h.ok.known p _ ⟨i, slot, hi, decide_eq_true ⟨hq, rfl⟩⟩, .inr ?_⟩
      exact (any_set hi).mpr (.inl ⟨slot', rfl, decide_eq_true ⟨hpin.trans hq, hrev⟩⟩)
    · exact hold hj
  · rcases hlog with rfl | ⟨q, hq, hrev, rfl⟩
    · exact h.once
    · exact ⟨trivial, h.once⟩

/-- A session asks for a PIN. -/
lemma Inv.ask (now : ℕ) (hasks : slot.wps.state ≠ .recvM1)
    (hnone : ¬ Asked s.sessions slot.wps.uuidE)
    (ht : Registrar.Quiet (Registrar.askPin { reg := s.reg, wps := slot.wps } now) t) :
    Inv (s.put i slot true t) := by
  obtain ⟨huuid, hstate⟩ : t.wps.uuidE = slot.wps.uuidE ∧ t.wps.state ≠ .recvM1 := ht.begun hasks
  have hfresh : slot.asked ≠ true := fun ha => hnone ⟨i, slot, hi, decide_eq_true ⟨ha, rfl⟩⟩
  have hno : slot.pin = none :=
    eq_none_iff_forall_ne_some.mpr fun p hp => hfresh (h.asked i slot hi p hp)
  set pins := (s.reg.expirePins now).pins with hpinsdef
  have hsub : pins.Sublist s.reg.pins := filter_sublist
  have hexpired := h.ok.sublist hsub
  have hpins : t.reg.pins = (Registrar.lookUp pins slot.wps.uuidE).1 := ht.pins
  have hnext : t.reg.nextId = s.reg.nextId := ht.nextId
  set found := (s.reg.getPin slot.wps.uuidE now).2 with hfounddef
  -- The PIN that is obtained is unlocked, so no session has it and it is not used up.
  have hfree : ∀ a, found = some a →
      (Registrar.lookUp pins slot.wps.uuidE).2 = some a ∧ a.locked = false := by
    intro a ha
    obtain ⟨hlook, hlocked⟩ := filter_eq_some_iff.mp (hfounddef ▸ ha)
    exact ⟨hlook, of_decide_eq_true hlocked⟩
  have hnobody : ∀ a, found = some a → ∀ j b, live s.sessions j = some b → b.pin ≠ some a.id := by
    intro a ha j b hb hp
    obtain ⟨hlook, hlocked⟩ := hfree a ha
    obtain ⟨hmem, hthree⟩ := mem_of_lookUp hlook
    have hholds : Holds s.sessions a.id b.wps.uuidE := ⟨j, b, hb, decide_eq_true ⟨hp, rfl⟩⟩
    exact absurd ((hexpired.kept a hmem).held _ hholds hthree).1 (by simp [hlocked])
  have halive : ∀ a, found = some a → ¬ Dead s.reg.pins a.id := by
    intro a ha hdead
    obtain ⟨hmem, hthree⟩ := mem_of_lookUp (hfree a ha).1
    exact hthree (hdead a (hsub.subset hmem) rfl)
  have hout : t.out.filter Registrar.tellsPin = (found.map fun p : Pin => .gotPin p.id).toList := by
    refine ht.silent.trans ?_
    change ((found.map fun p : Pin => Entry.gotPin p.id).toList ++ []).filter _ = _
    cases found <;> rfl
  have hput : s.put i slot true t =
      { reg := t.reg
        sessions := s.sessions.set i (some { wps := t.wps, asked := true, pin := found.map Pin.id })
        log := (found.map fun a => .obtained i a.id).toList ++ s.log } := by
    rw [s.put_eq i slot true hout]
    cases found with
    | none => rw [hno]; rfl
    | some a => rfl
  rw [hput]
  refine ⟨?_, h.begun.set ?_, h.asked.set ?_, fun p => (h.one p).set hi ?_, fun j p hj => ?_, ?_⟩
  · change Ok t.reg.pins t.reg.nextId _ _
    rw [hpins, hnext]
    refine (hexpired.lookUp hnone).mono ?_ ?_
    · rintro u (hu | rfl)
      · refine (any_set hi).mpr (((any_of_live hi).mp hu).imp_left fun hself => ?_)
        exact absurd (of_decide_eq_true hself).1 hfresh
      · exact (any_set hi).mpr (.inl ⟨_, rfl, decide_eq_true ⟨rfl, huuid⟩⟩)
    intro p u hu
    rcases (any_set hi).mp hu with ⟨_, ⟨⟩, hself⟩ | hother
    · obtain ⟨hp, hu'⟩ := of_decide_eq_true hself
      obtain ⟨a, ha, rfl⟩ := map_eq_some_iff.mp hp
      exact .inr ⟨hu'.symm.trans huuid, a, (hfree a ha).1, (hfree a ha).2, rfl⟩
    · exact .inl ((any_of_live hi).mpr (.inr hother))
  · rintro _ ⟨⟩ -
    exact hstate
  · rintro _ ⟨⟩ p -
    rfl
  · rintro _ ⟨⟩ hp
    obtain ⟨a, ha, rfl⟩ := map_eq_some_iff.mp (of_decide_eq_true hp)
    refine .inr fun hother => ?_
    obtain ⟨j, b, -, hb, hp'⟩ := (anyOther_iff hi).mp hother
    exact hnobody a ha j b hb (of_decide_eq_true hp')
  · have hold : Use.revealed j p ∈ s.log := by
      cases hfound : found with
      | none => simpa [hfound] using hj
      | some a => simpa [hfound] using hj
    change p < t.reg.nextId ∧ (Dead t.reg.pins p ∨ _)
    rw [hpins, hnext]
    refine (h.spent j p hold).imp_right (.imp (fun hd => (hd.subset hsub.subset).lookUp) ?_)
    intro hany
    refine (any_set hi).mpr (((any_of_live hi).mp hany).imp_left fun hself => ?_)
    exact absurd (of_decide_eq_true hself).1 (by simp [hno])
  · cases hfound : found with
    | none => exact h.once
    | some a =>
      refine ⟨fun j hj => ?_, h.once⟩
      obtain ⟨-, hdead | ⟨k, b, hb, hself⟩⟩ := h.spent j a.id hj
      · exact halive a hfound hdead
      · exact hnobody a hfound k b hb (of_decide_eq_true hself).1

/-- A session that is the only one to have asked with its UUID-E releases its PIN, which is used up,
and goes on or ends. -/
lemma Inv.release (halone : ¬ AnyOther s.sessions i (askedAs slot.wps.uuidE)) {x : Option Slot}
    (hnext : reg.nextId = s.reg.nextId)
    (hok : Ok reg.pins s.reg.nextId
      (fun u => Asked s.sessions u ∧ u ≠ slot.wps.uuidE)
      (fun p u => Holds s.sessions p u ∧ u ≠ slot.wps.uuidE))
    (hx : ∀ slot', x = some slot' → slot'.pin = none ∧ (slot'.asked → slot'.wps.state ≠ .recvM1))
    (hdead : ∀ p, Dead s.reg.pins p → Dead reg.pins p)
    (hspent : ∀ p, slot.pin = some p → slot.wps.pinRevealed → Dead reg.pins p) :
    Inv ⟨reg, s.sessions.set i x, s.log⟩ := by
  have hno : ∀ slot' p, x = some slot' → slot'.pin ≠ some p := by
    intro slot' p heq
    simp [(hx slot' heq).1]
  refine ⟨?_, h.begun.set fun slot' heq => (hx slot' heq).2, h.asked.set ?_,
    fun p => (h.one p).set hi ?_, fun j p hj => ?_, h.once⟩
  · rw [hnext]
    refine hok.mono ?_ ?_
    · rintro u ⟨hu, hne⟩
      refine (any_set hi).mpr (((any_of_live hi).mp hu).imp_left fun hself => ?_)
      exact absurd (of_decide_eq_true hself).2.symm hne
    intro p u hu
    rcases (any_set hi).mp hu with ⟨slot', heq, hself⟩ | hother
    · exact absurd (of_decide_eq_true hself).1 (hno slot' p heq)
    refine ⟨(any_of_live hi).mpr (.inr hother), fun heq => halone ?_⟩
    obtain ⟨j, b, hj, hb, hself⟩ := (anyOther_iff hi).mp hother
    obtain ⟨hp, hu'⟩ := of_decide_eq_true hself
    have hasked := h.asked j b hb p hp
    exact (anyOther_iff hi).mpr ⟨j, b, hj, hb, decide_eq_true ⟨hasked, hu'.trans heq⟩⟩
  · exact fun slot' heq p hp => absurd hp (hno slot' p heq)
  · exact fun slot' heq hp => absurd (of_decide_eq_true hp) (hno slot' p heq)
  · rw [hnext]
    obtain ⟨hlt, hd | hany⟩ := h.spent j p hj
    · exact ⟨hlt, .inl (hdead p hd)⟩
    rcases (any_of_live hi).mp hany with hself | hother
    · obtain ⟨hp, hrev⟩ := of_decide_eq_true hself
      exact ⟨hlt, .inl (hspent p hp hrev)⟩
    · exact ⟨hlt, .inr ((any_set hi).mpr (.inr hother))⟩

/-! ## All steps -/

/-- A session builds a message. -/
lemma Inv.build
    (hdistinct : Registrar.asks ctx slot.wps → ¬ Any s.sessions (askedAs slot.wps.uuidE))
    (ht : Registrar.Built ctx { reg := s.reg, wps := slot.wps } t) :
    Inv (s.put i slot (slot.asked || Registrar.asks ctx slot.wps) t) := by
  cases ht with
  | quiet hasks ht =>
    rw [show Registrar.asks ctx slot.wps = false from hasks, Bool.or_false,
      s.put_eq i slot _ ht.silent]
    exact h.keep hi ht.pins ht.nextId rfl rfl ht.begun (ht.revealed.trans) (.inl rfl)
  | asked hasks now ht =>
    have hstate : slot.wps.state = .sendM2 := by
      exact (of_decide_eq_true hasks).1
    have hask := h.ask hi now (by simp [hstate]) (hdistinct hasks) ht
    rw [show Registrar.asks ctx slot.wps from hasks, Bool.or_true]
    exact hask
  | revealed hasks msg settings d ht =>
    rw [show Registrar.asks ctx slot.wps = false from hasks, Bool.or_false,
      s.put_eq i slot _ ht.silent]
    refine h.keep hi ht.pins ht.nextId rfl rfl ht.begun (fun _ => ht.revealed) ?_
    change (slot.pin.map (.revealed i)).toList ++ s.log = s.log ∨ _
    cases hp : slot.pin with
    | none => exact .inl rfl
    | some p => exact .inr ⟨p, rfl, ht.revealed, rfl⟩

/-- A session receives a message. -/
lemma Inv.receive {op : OpCode} (hdistinct : op = .msg → slot.wps.state = .recvM7 →
      ¬ AnyOther s.sessions i (askedAs slot.wps.uuidE))
    {prev : Option Bytes} {msg : Bytes}
    (ht : Registrar.Processed op
      (St.tell { reg := s.reg, wps := slot.wps } (.received op prev msg)) t) :
    Inv (s.put i slot slot.asked t) := by
  cases ht with
  | quiet ht =>
    rw [s.put_eq i slot _ ht.silent]
    exact h.keep hi ht.pins ht.nextId rfl rfl ht.begun (ht.revealed.trans) (.inl rfl)
  | compared hop hstate reg hpins hnext revealed matched ht =>
    have htpins : t.reg.pins = reg.pins := ht.pins
    have hm7 : slot.wps.state = .recvM7 := hstate
    have hsub : t.reg.pins.Sublist (s.reg.pins.eraseP (Registrar.carries slot.wps.uuidE)) :=
      htpins ▸ hpins
    rw [s.put_eq i slot _ ht.silent]
    refine h.release hi (hdistinct hop hm7) (ht.nextId.trans hnext) (h.ok.invalidate.sublist hsub)
      ?_ ?_ ?_
    · rintro _ ⟨⟩
      refine ⟨rfl, fun _ => (ht.begun ?_).2⟩
      change slot.wps.state ≠ .recvM1
      simp [hm7]
    · exact fun p hp => hp.subset fun x hx => mem_of_mem_eraseP (hsub.subset hx)
    · exact fun p hp _ =>
        (h.ok.dead ⟨i, slot, hi, decide_eq_true ⟨hp, rfl⟩⟩).subset hsub.subset

/-- A session ends. -/
lemma Inv.deinit (halone : ¬ AnyOther s.sessions i (askedAs slot.wps.uuidE)) :
    Inv { s with reg := .deinit s.reg slot.wps, sessions := s.sessions.set i none } := by
  unfold Registrar.deinit
  split
  · refine h.release hi halone rfl h.ok.invalidate (by simp) ?_ ?_
    · exact fun p hp => hp.subset eraseP_subset
    · exact fun p hp _ => h.ok.dead ⟨i, slot, hi, decide_eq_true ⟨hp, rfl⟩⟩
  · rename_i hrev
    refine h.release hi halone (nextId_unlockPin s.reg _) h.ok.unlock (by simp) ?_ ?_
    · exact fun p hp => hp.unlockPin
    · exact fun p _ hr => absurd hr hrev

end

lemma Inv.table (hok : Ok reg.pins reg.nextId (Asked s.sessions) (Holds s.sessions))
    (hnext : s.reg.nextId ≤ reg.nextId)
    (hdead : ∀ p, p < s.reg.nextId → Dead s.reg.pins p → Dead reg.pins p) :
    Inv { s with reg := reg } := by
  refine ⟨hok, h.begun, h.asked, h.one, fun j p hj => ?_, h.once⟩
  obtain ⟨hlt, hd | hholder⟩ := h.spent j p hj
  · exact ⟨hlt.trans_le hnext, .inl (hdead p hlt hd)⟩
  · exact ⟨hlt.trans_le hnext, .inr hholder⟩

lemma Inv.remove (hsub : reg.pins.Sublist s.reg.pins)
    (hnext : reg.nextId = s.reg.nextId) : Inv { s with reg := reg } :=
  h.table (hnext ▸ h.ok.sublist hsub) hnext.ge fun _ _ hp => hp.subset hsub.subset

lemma Inv.start (d : Data) : Inv { s with sessions := s.sessions ++ [some { wps := d }] } where
  ok := h.ok.mono (fun _ hu => (any_append rfl).mpr hu) fun _ _ hu => (any_append rfl).mp hu
  begun := h.begun.append (by simp)
  asked := h.asked.append (by simp)
  one p := (h.one p).append rfl
  spent j p hj := (h.spent j p hj).imp_right (.imp_right (any_append rfl).mpr)
  once := h.once

/-- Every event keeps the invariant. -/
lemma Inv.step {s' : System} {e : Event} (hdistinct : Distinct ctx s e)
    (hstep : step prims ctx s e = .ok s') : Inv s' := by
  cases e with
  | start cfg =>
    cases hstep
    exact h.start _
  | receive i op msg pbcOverlap =>
    simp only [PinUse.step] at hstep
    split at hstep
    · cases hstep
      exact h
    · rename_i slot hi
      cases hstep
      exact h.receive hi (hdistinct slot hi) (Registrar.processed _ op msg pbcOverlap)
  | build i ans locked =>
    simp only [PinUse.step] at hstep
    split at hstep
    · cases hstep
      exact h
    · rename_i slot hi
      cases hstep
      exact h.build hi (hdistinct slot hi) (Registrar.built _ ans locked)
  | deinit i =>
    simp only [PinUse.step] at hstep
    split at hstep
    · cases hstep
      exact h
    · rename_i slot hi
      cases hstep
      exact h.deinit hi (hdistinct slot hi)
  | addPin uuid pin now timeout =>
    cases hstep
    refine h.table (h.ok.addPin pin now timeout hdistinct.1 hdistinct.2) ?_ ?_
    · rw [nextId_addPin]
      exact Nat.le_succ _
    · exact fun p hlt hp => hp.addPin hlt uuid pin now timeout
  | addNfcPwToken hash pwId devPw oob alloc =>
    cases hstep
    unfold Registrar.addNfcPwToken
    dsimp only
    split_ifs <;> exact h.remove (.refl _) rfl
  | cancel devPw =>
    cases hstep
    exact h.remove eraseP_sublist rfl
  | flush =>
    cases hstep
    exact h.remove (nil_sublist _) rfl
  | others reg =>
    cases hstep
    exact h.remove (.refl _) rfl

omit h

lemma inv_initial : Inv {} := by
  refine ⟨?_, by simp [Each], by simp [Each], by simp [AtMostOne], by simp, trivial⟩
  constructor <;> simp [Asked, Holds, Any]

def System.Has (s : System) (i p : ℕ) : Prop :=
  ∃ slot, live s.sessions i = some slot ∧ slot.pin = some p

/-- A PIN is used by one session at a time and is used up with its second half: in every run in
which the UUID-E tells sessions apart, no two sessions have the same PIN at a time, and no session
obtains a PIN for which a session has sent M6 before. -/
theorem pin_used_by_one_session {es : List Event}
    (hdistinct : Along (step prims ctx) (Distinct ctx) {} es)
    (hrun : run (step prims ctx) {} es = .ok s) :
    (∀ i j p, s.Has i p → s.Has j p → i = j) ∧
      ∀ newer i p older, s.log = newer ++ .obtained i p :: older → ∀ j, .revealed j p ∉ older := by
  have hinv : Inv s :=
    run_along_induction (fun _ _ _ h hd hs => h.step hd hs) inv_initial hdistinct hrun
  constructor
  · rintro i j p ⟨slot, hi, hp⟩ ⟨slot', hj, hp'⟩
    exact hinv.one p i j slot slot' hi hj (decide_eq_true hp) (decide_eq_true hp')
  · intro newer i p older hlog
    exact justified_iff.mp hinv.once newer (.obtained i p) older hlog

def sampleUuid : Bytes := replicate 16 1

/-- A session starts, and its number is `i`: M1 comes and the next message is built. -/
def opening (i : ℕ) : List Event :=
  [.start { registrar := true }, .receive i .msg (sampleM1 sampleUuid 0) false,
   .build i registrarAnswers false]

/-- A PIN is configured for one UUID-E, and a session takes it up to M6 and ends. -/
def revealEvents : List Event :=
  .addPin (some sampleUuid) [] 0 0 :: opening 0 ++
    [.receive 0 .msg (sampleMsg .m3 (sampleHashes .eHash1 .eHash2)) false,
     .build 0 registrarAnswers false,
     .receive 0 .msg (sampleMsg .m5 (sampleSettings (attr .eSnonce1 zeroNonce))) false,
     .build 0 registrarAnswers false, .deinit 0] ++ opening 1

/-- After a session has sent M6 the next one with the same UUID-E gets no PIN. -/
theorem pin_used_by_one_session_once :
    ∃ s, run (step flatPrims sampleAp) {} revealEvents = .ok s ∧
      s.log = [.revealed 0 0, .obtained 0 0] ∧
      (∀ i j p, s.Has i p → s.Has j p → i = j) ∧
      ∀ newer i p older, s.log = newer ++ .obtained i p :: older → ∀ j, .revealed j p ∉ older := by
  have hdistinct : Along (step flatPrims sampleAp) (Distinct sampleAp) {} revealEvents := by
    decide +kernel
  exact exists_ok (by decide +kernel) fun s hrun _ => pin_used_by_one_session hdistinct hrun

/-- Three sessions with one UUID-E: the second one gets no PIN, ends, and unlocks the PIN of the
first. -/
def sharedEvents : List Event :=
  .addPin (some sampleUuid) [] 0 0 :: opening 0 ++ opening 1 ++ [.deinit 1] ++ opening 2

/-- Two sessions have the same PIN at once. -/
theorem pin_shared_after_second_session :
    ∃ s, run (step flatPrims sampleAp) {} sharedEvents = .ok s ∧ s.Has 0 0 ∧ s.Has 2 0 := by
  exact returns_of (fun s => (live s.sessions 0).bind Slot.pin = some 0 ∧
    (live s.sessions 2).bind Slot.pin = some 0) (by decide +kernel) fun s _ ⟨hfirst, hthird⟩ =>
    ⟨bind_eq_some_iff.mp hfirst, bind_eq_some_iff.mp hthird⟩

end Hostapd.Wps.PinUse
