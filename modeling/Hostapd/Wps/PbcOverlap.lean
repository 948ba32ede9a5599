import Hostapd.Utils.Time
import Hostapd.Wpa.Common

/-!
# Wi-Fi Protected Setup: overlapping push button sessions

A Registrar remembers which Enrollees have asked for push button configuration within the walk time,
with a Probe Request or with M1 (`wps_registrar_add_pbc_session`), and refuses to go on when there
is more than one of them. `pbc_overlap_exact` compares the list, which has the session seen last in
front, with all that was ever recorded and not removed since.
-/

namespace Hostapd.Wps

open Wire Wpa List Option

def wpsPbcWalkTime : ℤ := 120

/-- A push button session (`struct wps_pbc_session`). -/
structure PbcSession where
  addr : Mac
  uuidE : Octets 16
  timestamp : OsReltime

/-- The part of `struct wps_registrar` about push button configuration, and the clock. -/
structure PbcRegistrar where
  pbcSessions : List PbcSession := []
  pbc : Bool := false
  forcePbcOverlap : Bool := false
  pbcIgnoreUuid : Octets 16 := .zero 16
  pbcIgnoreStart : OsReltime := .ofSec 0
  clock : ℕ := 0
  /-- All sessions that were recorded and not removed since. -/
  recorded : List PbcSession := []

/-- What is read of a Probe Request. -/
structure ProbeReq where
  configMethods : Bool := true
  devPasswordId : Option ℕ := some 4
  uuidE : Option (Octets 16) := none

variable (uuidE : Octets 16)

namespace PbcRegistrar

variable (reg : PbcRegistrar)

/-- The session has not been seen for longer than the walk time. -/
def expired (p : PbcSession) : Bool :=
  osReltimeExpired (osGetReltime reg.clock) p.timestamp wpsPbcWalkTime

/-- Record a session: put it in front and free everything from the first one that is too old on
(`wps_registrar_add_pbc_session`).  There may be no memory for a new one. -/
def addPbcSession (addr : Mac) (uuidE : Octets 16) (alloc : Bool) : PbcRegistrar :=
  let same (p : PbcSession) : Bool := p.addr = addr ∧ p.uuidE = uuidE
  if reg.pbcSessions.any same || alloc then
    let pbc : PbcSession := ⟨addr, uuidE, osGetReltime reg.clock⟩
    { reg with
      pbcSessions := pbc :: (reg.pbcSessions.eraseP same).takeWhile (!reg.expired ·)
      recorded := pbc :: reg.recorded }
  else reg

/-- Remove the sessions of an Enrollee (`wps_registrar_remove_pbc_session` without a P2P device). -/
def removePbcSession : PbcRegistrar :=
  { reg with
    pbcSessions := reg.pbcSessions.filter (·.uuidE ≠ uuidE)
    recorded := reg.recorded.filter (·.uuidE ≠ uuidE) }

/-- The loop of `wps_registrar_pbc_overlap`, which compares a session with the first one only. -/
def countSessions (uuidE : Option (Octets 16)) : List PbcSession → Option PbcSession → ℕ → ℕ
  | [], _, count => count
  | pbc :: l, first, count =>
    if reg.expired pbc then count
    else if first.any (·.uuidE = pbc.uuidE) then countSessions uuidE l first count
    else
      countSessions uuidE l (first.or (some pbc))
        (if uuidE = some pbc.uuidE then count else count + 1)

/-- `wps_registrar_pbc_overlap`. -/
def pbcOverlap (uuidE : Option (Octets 16)) : Bool :=
  1 < reg.countSessions uuidE reg.pbcSessions none (if uuidE.isSome then 1 else 0)

/-- The Enrollee has just completed push button configuration. -/
def ignores : Bool :=
  let dur := osReltimeSub (osGetReltime reg.clock) reg.pbcIgnoreStart
  reg.pbcIgnoreStart.sec ≠ 0 ∧ uuidE = reg.pbcIgnoreUuid ∧ 0 ≤ dur.1 ∧ dur.1 < 5

def clearIgnore : PbcRegistrar :=
  if uuidE = reg.pbcIgnoreUuid then { reg with pbcIgnoreStart.sec := 0 } else reg

/-- The part of `wps_registrar_probe_req_rx` about push button configuration. -/
def probeReqRx (addr : Mac) (attr : ProbeReq) (alloc : Bool) : PbcRegistrar :=
  match attr.uuidE with
  | none => reg
  | some uuidE =>
    if attr.configMethods = false ∨ attr.devPasswordId ≠ some 4 then reg
    else
      let reg :=
        if reg.ignores uuidE then reg else (reg.clearIgnore uuidE).addPbcSession addr uuidE alloc
      { reg with forcePbcOverlap := reg.forcePbcOverlap || reg.pbcOverlap (some uuidE) }

/-- The part of `wps_process_m1` about push button configuration. -/
def processM1Pbc (addr : Mac) (uuidE : Octets 16) (alloc : Bool) : PbcRegistrar :=
  if reg.pbc = false then reg
  else if reg.forcePbcOverlap || reg.pbcOverlap (some uuidE) then
    { reg with forcePbcOverlap := true }
  else reg.addPbcSession addr uuidE alloc

/-- `wps_registrar_button_pushed`. -/
def buttonPushed (p2p : Bool) : PbcRegistrar :=
  if p2p = false ∧ reg.pbcOverlap none then reg
  else { reg with forcePbcOverlap := false, pbc := true }

/-- The part of `wps_process_wsc_done` about push button configuration: the protocol run of an
Enrollee that began with push button configuration has succeeded, whether or not it is still
active. -/
def processWscDone : PbcRegistrar :=
  { reg.removePbcSession uuidE with
    pbc := false, pbcIgnoreStart := osGetReltime reg.clock, pbcIgnoreUuid := uuidE }

/-- `wps_registrar_complete`: the protocol run with another Registrar has succeeded. -/
def complete : PbcRegistrar := if reg.pbc then reg.processWscDone uuidE else reg

/-- What happens to the Registrar. -/
inductive Event
  | elapse (micros : ℕ)
  | probeReq (addr : Mac) (attr : ProbeReq) (alloc : Bool)
  | m1 (addr : Mac) (uuidE : Octets 16) (alloc : Bool)
  | buttonPushed (p2p : Bool)
  | wscDone (uuidE : Octets 16)
  | complete (uuidE : Octets 16)
  /-- The walk time is over, push button configuration is cancelled or a PIN is configured. -/
  | stopPbc
  /-- `wps_registrar_flush`. -/
  | flush

/-- One event. -/
def step : Event → PbcRegistrar
  | .elapse micros => { reg with clock := reg.clock + micros }
  | .probeReq addr attr alloc => reg.probeReqRx addr attr alloc
  | .m1 addr uuidE alloc => reg.processM1Pbc addr uuidE alloc
  | .buttonPushed p2p => reg.buttonPushed p2p
  | .wscDone uuidE => reg.processWscDone uuidE
  | .complete uuidE => reg.complete uuidE
  | .stopPbc => { reg with pbc := false }
  | .flush => { reg with pbcSessions := [], recorded := [], pbcIgnoreStart.sec := 0 }

def run (es : List Event) : PbcRegistrar := es.foldl step {}

/-! ## What the list has -/

/-- The list is in the order of time, and it has what was recorded last of each Enrollee, except for
what is too old. -/
structure Kept : Prop where
  sorted : reg.pbcSessions.Pairwise fun p q => q.timestamp.micros ≤ p.timestamp.micros
  past : ∀ p ∈ reg.pbcSessions, p.timestamp.micros ≤ reg.clock
  recorded : reg.pbcSessions ⊆ reg.recorded
  kept : ∀ r ∈ reg.recorded, reg.expired r ∨
    ∃ p ∈ reg.pbcSessions, p.uuidE = r.uuidE ∧ r.timestamp.micros ≤ p.timestamp.micros

variable {reg} {uuidE : Option (Octets 16)} {p q : PbcSession} {l : List PbcSession}

lemma expired_iff : reg.expired p ↔ wpsPbcWalkTime * 1000000 < reg.clock - p.timestamp.micros := by
  rw [expired, osReltimeExpired_iff, micros_osGetReltime]

lemma expired_of_le (h : reg.expired q) (hle : p.timestamp.micros ≤ q.timestamp.micros) :
    reg.expired p := by
  rw [expired_iff] at h ⊢
  omega

lemma takeWhile_eq_filter (h : l.Pairwise fun p q => q.timestamp.micros ≤ p.timestamp.micros) :
    l.takeWhile (!reg.expired ·) = l.filter (!reg.expired ·) := by
  induction l with
  | nil => rfl
  | cons p l ih =>
    obtain ⟨hle, hl⟩ := pairwise_cons.mp h
    cases hp : reg.expired p with
    | false => simp [hp, ih hl]
    | true =>
      have hall : ∀ q ∈ l, reg.expired q := fun q hq => expired_of_le hp (hle q hq)
      simpa [hp] using hall

section

variable (h : reg.Kept)

include h

/-- A new session is in front. -/
lemma Kept.add (addr : Mac) (uuidE : Octets 16) (alloc : Bool) :
    (reg.addPbcSession addr uuidE alloc).Kept := by
  unfold addPbcSession
  extract_lets same pbc
  split_ifs
  · have hsub : (reg.pbcSessions.eraseP same).Sublist reg.pbcSessions := eraseP_sublist
    have hsorted := h.sorted.sublist hsub
    rw [takeWhile_eq_filter hsorted]
    have hpast : ∀ p ∈ reg.pbcSessions, p.timestamp.micros ≤ pbc.timestamp.micros := by
      simpa [pbc] using h.past
    have hmem : ∀ p ∈ (reg.pbcSessions.eraseP same).filter (!reg.expired ·),
        p ∈ reg.pbcSessions := fun p hp => hsub.subset (mem_of_mem_filter hp)
    refine ⟨?_, ?_, ?_, ?_⟩
    · exact pairwise_cons.mpr ⟨fun p hp => hpast p (hmem p hp), hsorted.filter _⟩
    · exact forall_mem_cons.mpr ⟨by simp [pbc], fun p hp => h.past p (hmem p hp)⟩
    · exact cons_subset_cons _ fun p hp => h.recorded (hmem p hp)
    refine forall_mem_cons.mpr ⟨.inr ⟨pbc, mem_cons_self, rfl, le_rfl⟩, fun r hr => ?_⟩
    obtain hexp | ⟨p, hp, huuid, hle⟩ := h.kept r hr
    · exact .inl hexp
    by_cases hsame : same p
    · have huuid' : p.uuidE = uuidE := (of_decide_eq_true hsame).2
      exact .inr ⟨pbc, mem_cons_self, huuid'.symm.trans huuid, hle.trans (hpast p hp)⟩
    cases hexp : reg.expired p with
    | true => exact .inl (expired_of_le hexp hle)
    | false =>
      have hp' : p ∈ (reg.pbcSessions.eraseP same).filter (!reg.expired ·) :=
        mem_filter.mpr ⟨(mem_eraseP_of_neg hsame).mpr hp, by simp [hexp]⟩
      exact .inr ⟨p, mem_cons_of_mem _ hp', huuid, hle⟩
  · exact h

lemma Kept.remove (uuidE : Octets 16) : (reg.removePbcSession uuidE).Kept where
  sorted := h.sorted.filter _
  past p hp := h.past p (mem_of_mem_filter hp)
  recorded p hp := mem_filter.mpr ((mem_filter.mp hp).imp_left (h.recorded ·))
  kept r hr := by
    obtain ⟨hr, hne⟩ := mem_filter.mp hr
    refine (h.kept r hr).imp_right ?_
    rintro ⟨p, hp, huuid, hrest⟩
    exact ⟨p, mem_filter.mpr ⟨hp, by rwa [huuid]⟩, huuid, hrest⟩

/-- Every event keeps what was recorded. -/
lemma Kept.step (e : Event) : (reg.step e).Kept := by
  cases e with
  | elapse micros =>
    refine ⟨h.sorted, fun p hp => ?_, h.recorded, fun r hr => ?_⟩
    · exact (h.past p hp).trans (Int.ofNat_le.mpr (Nat.le_add_right ..))
    refine (h.kept r hr).imp_left fun hexp => ?_
    rw [expired_iff] at hexp ⊢
    simp only [PbcRegistrar.step]
    omega
  | probeReq addr attr alloc =>
    rw [PbcRegistrar.step, probeReqRx]
    split
    · exact h
    split_ifs
    · exact h
    · exact { h with }
    next uuidE _ _ _ =>
    have hclear : (reg.clearIgnore uuidE).Kept := by
      rw [clearIgnore]
      split_ifs
      · exact { h with }
      · exact h
    exact { hclear.add addr uuidE alloc with }
  | m1 addr uuidE alloc =>
    rw [PbcRegistrar.step, processM1Pbc]
    split_ifs
    · exact h
    · exact { h with }
    · exact h.add addr uuidE alloc
  | buttonPushed p2p =>
    rw [PbcRegistrar.step, PbcRegistrar.buttonPushed]
    split_ifs
    · exact h
    · exact { h with }
  | wscDone uuidE => exact { h.remove uuidE with }
  | complete uuidE =>
    rw [PbcRegistrar.step, PbcRegistrar.complete]
    split_ifs
    · exact { h.remove uuidE with }
    · exact h
  | stopPbc => exact { h with }
  | flush => exact ⟨.nil, nofun, nofun, nofun⟩

end

lemma kept_run (es : List Event) : (run es).Kept :=
  foldlRecOn (motive := Kept) es _ ⟨.nil, nofun, nofun, nofun⟩ fun _ h e _ => h.step e

/-! ## Counting -/

/-- Once there is a first session, those of another Enrollee than it and `uuidE` are counted. -/
lemma countSessions_first (count : ℕ) :
    reg.countSessions uuidE l (some q) count =
      count + (l.takeWhile (!reg.expired ·)).countP fun p =>
        p.uuidE ≠ q.uuidE ∧ uuidE ≠ some p.uuidE := by
  induction l generalizing count with
  | nil => rfl
  | cons p l ih =>
    rw [countSessions]
    split_ifs with hexp hsame huuid
    · simp [hexp]
    · have heq : q.uuidE = p.uuidE := by simpa using hsame
      simp [hexp, ih, heq]
    · rw [some_or, ih]
      simp [hexp, huuid]
    · have hne : q.uuidE ≠ p.uuidE := by simpa using hsame
      rw [some_or, ih, takeWhile_cons_of_pos (by simpa using hexp),
        countP_cons_of_pos (by simpa using ⟨hne.symm, huuid⟩)]
      omega

/-- Counting stops at the first old session. -/
lemma countSessions_none (count : ℕ) :
    reg.countSessions uuidE l none count =
      match l.takeWhile (!reg.expired ·) with
      | [] => count
      | q :: l => count + (if uuidE = some q.uuidE then 0 else 1) +
          l.countP fun p => p.uuidE ≠ q.uuidE ∧ uuidE ≠ some p.uuidE := by
  cases l with
  | nil => rfl
  | cons q l =>
    cases hexp : reg.expired q with
    | true => simp [countSessions, hexp]
    | false =>
      rw [countSessions, takeWhile_cons_of_pos (by simp [hexp]), hexp]
      simp only [Bool.false_eq_true, if_false, any_none, none_or, countSessions_first]
      split_ifs <;> rfl

/-- The Enrollee is `uuidE`, or one of the sessions `l` is of it and not too old. -/
def Counts (reg : PbcRegistrar) (l : List PbcSession) (uuidE : Option (Octets 16))
    (u : Octets 16) : Prop :=
  uuidE = some u ∨ ∃ p ∈ l, reg.expired p = false ∧ p.uuidE = u

/-- The count stops at the first old session. -/
lemma Kept.pbcOverlap_iff (h : reg.Kept) :
    reg.pbcOverlap uuidE ↔ {u | reg.Counts reg.pbcSessions uuidE u}.Nontrivial := by
  set young := reg.pbcSessions.takeWhile (!reg.expired ·) with hyoung
  have hcounts : ∀ u, reg.Counts reg.pbcSessions uuidE u ↔
      uuidE = some u ∨ ∃ p ∈ young, p.uuidE = u := by
    intro u
    simp [Counts, hyoung, takeWhile_eq_filter h.sorted, and_assoc]
  simp only [hcounts]
  rw [pbcOverlap, decide_eq_true_iff, countSessions_none, ← hyoung]
  clear_value young
  cases young with
  | nil =>
    have hle : (if uuidE.isSome then 1 else 0) ≤ 1 := by split_ifs <;> decide
    refine iff_of_false (not_lt.mpr hle) (Set.not_nontrivial_iff.mpr fun u hu v hv => ?_)
    simp only [not_mem_nil, false_and, exists_false, or_false, Set.mem_ofPred_eq] at hu hv
    exact some.inj (hu.symm.trans hv)
  | cons q l =>
    rw [Set.nontrivial_iff_exists_ne (.inr ⟨q, mem_cons_self, rfl⟩)]
    have hpos : 0 < (l.countP fun p => p.uuidE ≠ q.uuidE ∧ uuidE ≠ some p.uuidE) ↔
        ∃ p ∈ l, p.uuidE ≠ q.uuidE ∧ uuidE ≠ some p.uuidE := by
      simp [countP_pos_iff]
    simp only
    generalize (l.countP fun p => p.uuidE ≠ q.uuidE ∧ uuidE ≠ some p.uuidE) = n at hpos ⊢
    cases uuidE with
    | none => simp [hpos]
    | some w =>
      by_cases hw : w = q.uuidE
      · subst hw
        simp [hpos, eq_comm]
      · refine iff_of_true ?_ ⟨w, .inl rfl, hw⟩
        simp [hw]
        omega

end PbcRegistrar

/-- The overlap of push button sessions is exact: after any sequence of events, whatever UUID-E is
asked for, there is one exactly if two different UUID-Es are among it and the sessions that were
recorded within the walk time and not removed since. -/
theorem pbc_overlap_exact (es : List PbcRegistrar.Event) (uuidE : Option (Octets 16)) :
    let reg := PbcRegistrar.run es
    (reg.pbcOverlap uuidE ↔ {u | reg.Counts reg.recorded uuidE u}.Nontrivial) ∧
    ∀ p, reg.expired p ↔ wpsPbcWalkTime * 1000000 < reg.clock - p.timestamp.micros := by
  intro reg
  have h : reg.Kept := PbcRegistrar.kept_run es
  have hcounts : ∀ u, reg.Counts reg.recorded uuidE u ↔ reg.Counts reg.pbcSessions uuidE u := by
    refine fun u => or_congr_right ⟨?_, ?_⟩
    · rintro ⟨r, hr, hyoung, hu⟩
      obtain hexp | ⟨p, hp, huuid, hle⟩ := h.kept r hr
      · exact absurd hexp (by simp [hyoung])
      · refine ⟨p, hp, ?_, huuid.trans hu⟩
        rw [Bool.eq_false_iff] at hyoung ⊢
        exact fun hexp => hyoung (PbcRegistrar.expired_of_le hexp hle)
    · rintro ⟨p, hp, hyoung⟩
      exact ⟨p, h.recorded hp, hyoung⟩
  refine ⟨?_, fun p => PbcRegistrar.expired_iff⟩
  simp only [hcounts]
  exact h.pbcOverlap_iff

end Hostapd.Wps
