import Hostapd.Pae.Changes

/-!
# One step of the system

A received frame and a timer change one participant, the CP the principal one; the others are left
alone, and the trace grows by events about the one that is changed (`Mka.Follows`).

An invariant of the KaY and each of its participants is kept by every step if it is kept by what can
change a participant (`Invariant`); `Invariant.run` is the rule for whole runs.
-/

namespace Hostapd.Pae

open Wire Checked FirstMatch Machine List Except

/-! ## Following a participant -/

/-- The participant that an event is about; a frame that was sent is about none. -/
def KayEvent.about : KayEvent → Option ℕ
  | .sent _ => none
  | .generatedSak i _ => some i
  | .acceptedMkpdu i _ => some i
  | .reportedSak i _ _ _ => some i
  | .endedDistribution i _ => some i

/-- The trace grows by events about a participant, and the addresses go on. -/
structure Kay.TraceBy (i : ℕ) (k k' : Kay) : Prop where
  nextId_le : k.nextId ≤ k'.nextId
  trace : ∃ new, k'.trace = new ++ k.trace ∧ ∀ ev ∈ new, ev.about = none ∨ ev.about = some i

variable {i : ℕ} {k k' : Kay} {ev : KayEvent} {m' m : Mka} {mka : Bytes} {p : Participant}
  {ckn : MkaKeyName} {env : Env}

lemma Kay.TraceBy.of_eq (hid : k.nextId ≤ k'.nextId) (htrace : k'.trace = k.trace) :
    k.TraceBy i k' := ⟨hid, [], htrace, nofun⟩

lemma Kay.TraceBy.refl (i : ℕ) (k : Kay) : k.TraceBy i k := .of_eq le_rfl rfl

lemma Kay.TraceBy.trans {k'' : Kay} (h : k.TraceBy i k') (h' : k'.TraceBy i k'') :
    k.TraceBy i k'' := by
  obtain ⟨new, htrace, hnew⟩ := h.trace
  obtain ⟨new', htrace', hnew'⟩ := h'.trace
  refine ⟨h.nextId_le.trans h'.nextId_le, new' ++ new, by simp [htrace', htrace], ?_⟩
  intro ev hev
  rcases mem_append.mp hev with hev | hev
  · exact hnew' ev hev
  · exact hnew ev hev

/-- A function on a participant and its KaY keeps the address and logs events about it only. -/
structure Mka.Follows (m m' : Mka) : Prop where
  id : m'.self.id = m.self.id
  trace : m.kay.TraceBy m.self.id m'.kay

lemma Mka.Follows.of_eq (hid : m'.self.id = m.self.id) (hnext : m.kay.nextId ≤ m'.kay.nextId)
    (htrace : m'.kay.trace = m.kay.trace) : m.Follows m' :=
  ⟨hid, .of_eq hnext htrace⟩

lemma Mka.Follows.refl (m : Mka) : m.Follows m := .of_eq rfl le_rfl rfl

lemma Mka.Follows.trans {m'' : Mka} (h : m.Follows m') (h' : m'.Follows m'') : m.Follows m'' :=
  ⟨h'.id.trans h.id, h.trace.trans (h.id ▸ h'.trace)⟩

/-! ## Receiving -/

/-- What the decoding of the parameter sets behind the basic one notes about a participant. -/
def KayEvent.Reported (i : ℕ) : KayEvent → Prop
  | .reportedSak j _ _ _ => j = i
  | .endedDistribution j _ => j = i
  | _ => False

/-- What the decoding of an MKPDU notes about a participant. -/
def KayEvent.Heard (i : ℕ) : KayEvent → Prop
  | .acceptedMkpdu j _ => j = i
  | ev => ev.Reported i

/-- The participant without what an MKPDU or the expiry of peers can change in it. -/
def Participant.unheard (p : Participant) : Participant :=
  { p with
    principal := false
    livePeers := []
    potentialPeers := []
    isKeyServer := false
    isElected := false
    sakList := []
    rxscList := []
    txsc := ⟨Sci.zero, []⟩
    mi := Octets.zero 12
    mn := 0
    currentPeerId := ⟨Octets.zero 12, 0⟩
    currentPeerSci := Sci.zero
    toDistSak := false
    toUseSak := false
    newSak := false
    advisedDesired := false
    retryCount := 0 }

/-- The KaY without what an MKPDU or the expiry of peers can change in it. -/
def Kay.unheard (k : Kay) : Kay :=
  { k with
    macsecCsindex := defaultCsIndex
    keyServerSci := Sci.zero
    keyServerPriority := 0
    authenticated := false
    secured := false
    failed := false
    keyUsers := fun _ => 0
    nextId := 0
    trace := [] }

/-- A part of an MKPDU is decoded, or peers expire: no distribution begins, something is noted, and
a SAK is perhaps installed. -/
structure Mka.Hears (noted : KayEvent → Prop) (installs : Prop) (m m' : Mka) : Prop where
  self : m'.self.unheard = m.self.unheard
  kay : m'.kay.unheard = m.kay.unheard
  saks : installs ∨ m'.self.sakList = m.self.sakList
  toDistSak : m'.self.toDistSak → m.self.toDistSak
  nextId_le : m.kay.nextId ≤ m'.kay.nextId
  trace : ∃ new, m'.kay.trace = new ++ m.kay.trace ∧ ∀ ev ∈ new, noted ev

section Receive

variable {crypto : Crypto} {env : Env} {m m' m'' : Mka} {noted : KayEvent → Prop} {installs : Prop}
  {rest : Bytes}

lemma Mka.Hears.refl (m : Mka) : m.Hears noted installs m :=
  ⟨rfl, rfl, .inr rfl, id, le_rfl, [], rfl, nofun⟩

section

variable (h : m.Hears noted installs m')

include h

/-- Two parts after each other. -/
lemma Mka.Hears.trans (h' : m'.Hears noted installs m'') : m.Hears noted installs m'' := by
  obtain ⟨new, htrace, hnew⟩ := h.trace
  obtain ⟨new', htrace', hnew'⟩ := h'.trace
  refine ⟨h'.self.trans h.self, h'.kay.trans h.kay, ?_, fun hd => h.toDistSak (h'.toDistSak hd),
    h.nextId_le.trans h'.nextId_le, new' ++ new, by simp [htrace', htrace], ?_⟩
  · rcases h.saks with hi | hsaks
    · exact .inl hi
    · exact h'.saks.imp_right fun hsaks' => hsaks'.trans hsaks
  · intro ev hev
    rcases mem_append.mp hev with hev | hev
    · exact hnew' ev hev
    · exact hnew ev hev

lemma Mka.Hears.mono {noted' : KayEvent → Prop} {installs' : Prop}
    (hnoted : ∀ ev, noted ev → noted' ev)
    (hinstalls : installs → installs') : m.Hears noted' installs' m' := by
  obtain ⟨new, htrace, hnew⟩ := h.trace
  exact ⟨h.self, h.kay, h.saks.imp_left hinstalls, h.toDistSak, h.nextId_le, new, htrace,
    fun ev hev => hnoted ev (hnew ev hev)⟩

lemma Mka.Hears.filterMap_trace {β : Type} {f : KayEvent → Option β}
    (hf : ∀ ev, noted ev → f ev = none) : m'.kay.trace.filterMap f = m.kay.trace.filterMap f := by
  obtain ⟨new, htrace, hnew⟩ := h.trace
  rw [htrace, filterMap_append, filterMap_eq_nil_iff.mpr fun ev hev => hf ev (hnew ev hev)]
  rfl

lemma Mka.Hears.id : m'.self.id = m.self.id := by
  have hid : m'.self.unheard.id = m.self.unheard.id := congrArg Participant.id h.self
  exact hid

lemma Mka.Hears.follows (hnoted : ∀ ev, noted ev → ev.about = some m.self.id) : m.Follows m' := by
  obtain ⟨new, htrace, hnew⟩ := h.trace
  exact ⟨h.id, h.nextId_le, new, htrace, fun ev hev => .inr (hnoted ev (hnew ev hev))⟩

end

lemma KayEvent.Reported.heard (h : ev.Reported i) : ev.Heard i := by
  cases ev with
  | acceptedMkpdu => exact h.elim
  | _ => exact h

lemma KayEvent.Heard.about (h : ev.Heard i) : ev.about = some i := by
  cases ev with
  | sent => exact h.elim
  | generatedSak => exact h.elim
  | _ => exact congrArg some h

/-- The basic parameter set. -/
lemma BasicDecoded.hears {body : BasicBody} {b : Bool} (h : BasicDecoded env m body m' b) :
    m.Hears (KayEvent.Heard m.self.id) False m' := by
  cases h with
  | noIdentifier => exact .refl m
  | stale mi mn => exact ⟨rfl, rfl, .inr rfl, id, le_rfl, [], rfl, nofun⟩
  | noMemory mi mn hpeer =>
    rw [Participant.deletePeerSci_eq]
    exact ⟨rfl, rfl, .inr rfl, id, le_rfl, [], rfl, nofun⟩
  | created mi mn p hpeer hcreate =>
    obtain ⟨peer, -, rfl⟩ := Option.map_eq_some_iff.mp hcreate
    rw [Participant.deletePeerSci_eq]
    exact ⟨rfl, rfl, .inr rfl, id, le_rfl, [_], rfl, by simp [KayEvent.Heard]⟩
  | refreshed mi mn peer hpeer hmn =>
    rw [Participant.updatePeer_eq]
    exact ⟨rfl, rfl, .inr rfl, id, le_rfl, [_], rfl, by simp [KayEvent.Heard]⟩

lemma Reelected.hears (h : Reelected m m') : m.Hears noted False m' := by
  obtain ⟨_, _, _, _, _, _, _, hself⟩ := h.self
  obtain ⟨_, _, _, _, _, hkay⟩ := h.kay
  exact ⟨by rw [hself]; rfl, by rw [hkay]; rfl, .inr (by rw [hself]), h.toDistSak, by rw [hkay],
    [], by rw [hkay]; rfl, nofun⟩

lemma LiveAccepted.hears (h : LiveAccepted env m m') : m.Hears noted False m' := by
  cases h with
  | same => exact .refl m
  | _ =>
    refine .trans ?_ (reelected_reelect _).hears
    exact ⟨rfl, rfl, .inr rfl, id, le_rfl, [], rfl, nofun⟩

/-- A handler. -/
lemma RxOp.hears (h : RxOp env rest m m') :
    m.Hears (KayEvent.Reported m.self.id) (paramBodyType rest = mkaDistributedSak) m' := by
  cases h with
  | refreshed e h he =>
    rw [Participant.updatePeer_eq]
    exact ⟨rfl, rfl, .inr rfl, id, le_rfl, [], rfl, nofun⟩
  | listed e i p h he hnone hcreate =>
    obtain ⟨peer, -, rfl⟩ := Option.map_eq_some_iff.mp hcreate
    exact ⟨rfl, rfl, .inr rfl, id, le_rfl, [], rfl, nofun⟩
  | reported body cp live h hbody huse hlive =>
    exact ⟨rfl, rfl, .inr rfl, id, le_rfl, [_], rfl, by simp [KayEvent.Reported]⟩
  | ended cp hall =>
    split_ifs
    · exact ⟨rfl, rfl, .inr rfl, nofun, le_rfl, [_], rfl, by simp [KayEvent.Reported]⟩
    · exact ⟨rfl, rfl, .inr rfl, nofun, le_rfl, [], rfl, nofun⟩
  | installed cs sak h => exact ⟨rfl, rfl, .inl h, id, Nat.le_succ _, [], rfl, nofun⟩
  | _ => exact ⟨rfl, rfl, .inr rfl, id, le_rfl, [], rfl, nofun⟩

/-- The stages of a received MKPDU. -/
lemma decodeMkpduFor_cases (h : decodeMkpduFor crypto env m mka = .ok m') :
    ∃ m₁ b, BasicDecoded env m (BasicBody.ofOctets mka) m₁ b ∧
      (m' = m₁ ∨ b ∧ ∃ m₂ m₃ n, LiveAccepted env m₁ m₂ ∧
        (handledSets (mka.drop (paramSetLen mka))).foldlM (handOver (bodyRx crypto env)) m₂ =
          .ok m₃ ∧ m' = { m₃ with self.retryCount := n }) := by
  refine ⟨_, _, basicDecoded env m (.ofOctets mka), ?_⟩
  simp only [decodeMkpduFor] at h
  split_ifs at h with hb
  · obtain ⟨rest, hrest, h⟩ := bind_eq_ok.mp h
    obtain ⟨-, rfl⟩ := advance_eq_ok.mp hrest
    obtain ⟨included, -, h⟩ := bind_eq_ok.mp h
    obtain ⟨m?, hm, h⟩ := bind_eq_ok.mp h
    cases m? with
    | none =>
      cases h
      exact .inl rfl
    | some m₂ =>
      obtain ⟨r, hr, h⟩ := bind_eq_ok.mp h
      cases h
      refine .inr ⟨hb, m₂, r.1, (resetRetryCount r).self.retryCount, liveAccepted hm,
        foldlM_of_dispatchSets hr, ?_⟩
      rw [resetRetryCount]
      split_ifs <;> rfl
  · cases h
    exact .inl rfl

lemma bodyRx_hears (h : bodyRx crypto env m (paramBodyType rest) rest = .ok m') :
    m.Hears (KayEvent.Reported m.self.id) (paramBodyType rest = mkaDistributedSak) m' :=
  bodyRx_induction (P := fun q => m.Hears (KayEvent.Reported m.self.id) _ q)
    (fun _ _ hop hm => hm.trans (hm.id ▸ hop.hears)) h (.refl m)

/-- What the stages of a received MKPDU keep holds after it. -/
lemma decodeMkpduFor_induction {P : Mka → Prop}
    (hbasic : ∀ m₁ b, BasicDecoded env m (BasicBody.ofOctets mka) m₁ b → P m₁)
    (hlive : ∀ m₁ m₂, BasicDecoded env m (BasicBody.ofOctets mka) m₁ true →
      LiveAccepted env m₁ m₂ → P m₁ → P m₂)
    (hop : ∀ rest ∈ handledSets (mka.drop (paramSetLen mka)), ∀ m₁ m₂, RxOp env rest m₁ m₂ →
      P m₁ → P m₂) (hretry : ∀ m₁ n, P m₁ → P { m₁ with self.retryCount := n })
    (h : decodeMkpduFor crypto env m mka = .ok m') : P m' := by
  obtain ⟨m₁, b, hm₁, rfl | ⟨rfl, m₂, m₃, n, hm₂, hfold, rfl⟩⟩ := decodeMkpduFor_cases h
  · exact hbasic _ _ hm₁
  · refine hretry m₃ n (foldlM_induction (P := P) ?_ (hlive m₁ m₂ hm₁ hm₂ (hbasic _ _ hm₁)) hfold)
    exact fun _ rest _ hrest hm hstep => bodyRx_induction (hop rest hrest) hstep hm

/-- A whole MKPDU. -/
lemma decodeMkpduFor_hears (h : decodeMkpduFor crypto env m mka = .ok m') :
    m.Hears (KayEvent.Heard m.self.id) True m' := by
  refine decodeMkpduFor_induction (P := fun q => m.Hears (KayEvent.Heard m.self.id) True q)
    (fun _ _ hm₁ => hm₁.hears.mono (fun _ => id) False.elim)
    (fun _ _ _ hm₂ hm => hm.trans (hm₂.hears.mono (fun _ => id) False.elim)) ?_ ?_ h
  · intro rest _ m₁ m₂ hop hm
    exact hm.trans (hop.hears.mono (fun _ hev => hm.id ▸ hev.heard) fun _ => trivial)
  · exact fun _ _ hm => hm.trans ⟨rfl, rfl, .inr rfl, id, le_rfl, [], rfl, nofun⟩

lemma follows_decodeMkpduFor (h : decodeMkpduFor crypto env m mka = .ok m') : m.Follows m' :=
  (decodeMkpduFor_hears h).follows fun _ hev => hev.about

end Receive

/-! ## Timers and the CP -/

variable {crypto : Crypto} {env : Env} {m m' : Mka} {k k' : Kay} {p p' : Participant}

lemma PeersTimed.hears {noted : KayEvent → Prop} (h : PeersTimed env m m') :
    m.Hears noted False m' := by
  cases h with
  | quiet kay hkay =>
    obtain ⟨users, rfl⟩ := hkay
    exact ⟨rfl, rfl, .inr rfl, id, le_rfl, [], rfl, nofun⟩
  | alone kay hkay txsc hnone =>
    obtain ⟨users, rfl⟩ := hkay
    exact ⟨rfl, rfl, .inr rfl, id, le_rfl, [], rfl, nofun⟩
  | reelected kay hkay m' h =>
    obtain ⟨users, rfl⟩ := hkay
    refine .trans ?_ h.hears
    exact ⟨rfl, rfl, .inr rfl, id, le_rfl, [], rfl, nofun⟩

lemma PeersTimed.trace_eq (h : PeersTimed env m m') : m'.kay.trace = m.kay.trace := by
  obtain ⟨new, htrace, hnew⟩ := (PeersTimed.hears h : m.Hears (fun _ => False) False m').trace
  rw [htrace, eq_nil_iff_forall_not_mem.mpr hnew, nil_append]

lemma SakTimed.follows (h : SakTimed crypto env m m') : m.Follows m' := by
  cases h with
  | idle hnew => exact .refl m
  | refused hnew hcan => exact .of_eq rfl le_rfl rfl
  | generated hnew hcan nonce cp users =>
    exact ⟨rfl, Nat.le_succ _, [_], rfl, by simp [KayEvent.about]⟩

lemma CpTouched.id (h : CpTouched k p k' p') : p'.id = p.id := by
  have huntouched : p'.untouched.id = p.untouched.id := congrArg Participant.id h.self
  exact huntouched

lemma CpTouched.traceBy (h : CpTouched k p k' p') (i : ℕ) : k.TraceBy i k' := by
  obtain ⟨users, tr, rfl⟩ := h.kay
  refine ⟨le_rfl, ?_⟩
  rcases h.trace with htrace | ⟨frame, htrace⟩
  · exact ⟨[], htrace, nofun⟩
  · exact ⟨[.sent frame], htrace, by simp [KayEvent.about]⟩

lemma follows_participantTimerFor (h : participantTimerFor crypto env m = .ok m') :
    m.Follows m' := by
  obtain ⟨life, m₂, k, p, htimed, hsak, hsend, rfl⟩ := participantTimerFor_cases h
  have hpeers := htimed.hears.follows (fun _ => KayEvent.Heard.about)
  have hlife : m.Follows { m with self.mkaLife := life } := .of_eq rfl le_rfl rfl
  refine (hlife.trans (hpeers.trans hsak.follows)).trans ?_
  exact ⟨(retried hsend).touched.id, (retried hsend).touched.traceBy _⟩

/-! ## Events -/

/-- The participant that a received frame is handed to. -/
def System.addressee (crypto : Crypto) (env : Env) (s : System) (buf : Bytes) :
    Option Participant :=
  if l2Accepts buf && !s.participants.isEmpty then
    match mkpduSanityCheck crypto env s.participants buf,
        getParticipant s.participants ((mkaOf buf).drop sizeofBasicBody) with
    | .ok true, .ok p =>
      if s.kay.isObligedKeyServer && (BasicBody.ofOctets (mkaOf buf)).keyServer then none else p
    | _, _ => none
  else none

/-- If the event is a frame that is handed to a participant, the participant and the octets behind
the headers meet `P`. -/
def Event.Received (crypto : Crypto) (P : Participant → Bytes → Prop) (s : System) :
    Event → Prop
  | .receive env buf => ∀ p ∈ s.addressee crypto env buf, P p (mkaOf buf)
  | _ => True

instance Event.Received.decidable (crypto : Crypto) (P : Participant → Bytes → Prop)
    [∀ p mka, Decidable (P p mka)] (s : System) :
    (e : Event) → Decidable (Event.Received crypto P s e)
  | .receive env buf =>
    inferInstanceAs (Decidable (∀ p ∈ s.addressee crypto env buf, P p (mkaOf buf)))
  | .tick _ _ | .cpStep _ | .transmitWhen _ | .retireWhen _ | .createMka .. | .deleteMka _
  | .hotSwap .. | .newSak => isTrue trivial

/-- Who is found is on the list, and its CKN begins the octets. -/
lemma FoundByCkn.mem {ps : List Participant} {octets : Bytes} (h : FoundByCkn ps octets p) :
    p ∈ ps ∧ p.ckn.octets <+: octets := by
  obtain ⟨pre, post, rfl, hp, -⟩ := h
  exact ⟨mem_append_right pre mem_cons_self, hp⟩

variable {crypto : Crypto} {env : Env} {s s' : System}

/-- A frame is ignored or decoded for its addressee. -/
lemma kayL2Receive_cases {buf : Bytes} (h : kayL2Receive crypto env s buf = .ok s') :
    s' = s ∨ ∃ p m', s.addressee crypto env buf = some p ∧ p ∈ s.participants ∧
      decodeMkpduFor crypto env ⟨s.kay, s.cp, p⟩ (mkaOf buf) = .ok m' ∧ s' = s.writeBack m' := by
  rw [kayL2Receive] at h
  split_ifs at h with haccepts
  swap
  · exact .inl (ok.inj h).symm
  obtain ⟨sane, hsane, h⟩ := bind_eq_ok.mp h
  split_ifs at h with hok hserver
  · exact .inl (ok.inj h).symm
  · obtain ⟨p?, hp, h⟩ := bind_eq_ok.mp h
    cases p? with
    | none => exact .inl (ok.inj h).symm
    | some p =>
      obtain ⟨m', hm', h⟩ := bind_eq_ok.mp h
      subst hok
      refine .inr ⟨p, m', ?_, (getParticipant_eq_some.mp hp).mem.1, hm', (ok.inj h).symm⟩
      simp only [System.addressee, if_pos haccepts, hsane, hp, if_neg hserver]
  · exact .inl (ok.inj h).symm

/-! ## Invariants -/

/-- The event creates an MKA instance with this CKN and CAK. -/
def Event.Creates (ckn : MkaKeyName) (cak : Octets 16) : Event → Prop
  | .createMka _ ckn' cak' _ _ _ => ckn' = ckn ∧ cak' = cak
  | .hotSwap _ ckn' cak' _ => ckn' = ckn ∧ cak' = cak
  | _ => False

/-- The KaY changes without noting anything. -/
def Kay.Quiet (k k' : Kay) : Prop :=
  k.nextId ≤ k'.nextId ∧ k'.keyServerSci ∈ [k.actorSci, k.keyServerSci] ∧
  ∃ users sci priority authenticated secured failed n, k' = { k with
    keyUsers := users
    keyServerSci := sci
    keyServerPriority := priority
    authenticated := authenticated
    secured := secured
    failed := failed
    nextId := n }

lemma Kay.Quiet.trace_eq (h : k.Quiet k') : k'.trace = k.trace := by
  obtain ⟨-, -, _, _, _, _, _, _, _, rfl⟩ := h
  rfl

lemma Kay.Quiet.traceBy (h : k.Quiet k') (i : ℕ) : k.TraceBy i k' :=
  .of_eq h.1 h.trace_eq

lemma Kay.Recounted.quiet (h : k.Recounted k') : k.Quiet k' := by
  obtain ⟨users, rfl⟩ := h
  exact ⟨le_rfl, by simp, users, _, _, _, _, _, _, rfl⟩

lemma deleteParticipant_recounted (s : System) (p : Participant) :
    s.kay.Recounted (deleteParticipant s p).kay := by
  have hsaks := s.kay.recounted_deinitDataKeys p.sakList
  have hrx := hsaks.trans (Kay.recounted_deinitDataKeys _
    ((p.rxscList.filter fun _ => true).flatMap fun rxsc => rxsc.saList.map ReceiveSa.pkey))
  exact hrx.trans (Kay.recounted_deinitDataKeys _
    ((p.txsc.saList.filter fun _ => true).map TransmitSa.pkey))

/-- Something holds of the KaY, and something of each participant. -/
structure System.Holds (K : Kay → Prop) (J : Kay → Participant → Prop) (s : System) : Prop where
  nodup : (s.participants.map Participant.id).Nodup
  lt : ∀ p ∈ s.participants, p.id < s.kay.nextId
  kay : K s.kay
  all : ∀ p ∈ s.participants, J s.kay p

/-- What holds of the KaY and of each participant is kept by every step that meets `cond`. -/
structure Invariant (crypto : Crypto) (cond : System → Event → Prop) (K : Kay → Prop)
    (J : Kay → Participant → Prop) : Prop where
  receive : ∀ {s env buf p m'}, cond s (.receive env buf) → s.addressee crypto env buf = some p →
    p ∈ s.participants → K s.kay → J s.kay p →
    decodeMkpduFor crypto env ⟨s.kay, s.cp, p⟩ (mkaOf buf) = .ok m' → K m'.kay ∧ J m'.kay m'.self
  tick : ∀ {s env p m'}, cond s (.tick env p.id) → p ∈ s.participants → K s.kay → J s.kay p →
    participantTimerFor crypto env ⟨s.kay, s.cp, p⟩ = .ok m' → K m'.kay ∧ J m'.kay m'.self
  /-- What the CP does to a participant, which at the event was `p₀`. -/
  cp : ∀ {s e p₀ k p k' p'}, cond s e → p₀ ∈ s.participants → p.untouched = p₀.untouched → K k →
    J k p → CpOp crypto k p k' p' → K k' ∧ J k' p'
  request : ∀ {k p}, J k p → J k { p with newSak := true }
  create : ∀ {s e s₁ k env ckn cak life mode isAuthenticator mi}, cond s e → e.Creates ckn cak →
    K s₁.kay → s₁.kay.Quiet k →
    J k (newParticipant crypto env s₁ ckn cak life mode isAuthenticator mi)
  quiet : ∀ {k k'}, K k → k.Quiet k' → K k'
  other : ∀ {k k' i q}, J k q → k.TraceBy i k' → q.id ≠ i → J k' q

section Invariant

variable {crypto : Crypto} {cond : System → Event → Prop} {K : Kay → Prop}
  {J : Kay → Participant → Prop} {s s' : System} {params : KayParams} {secy : Secy}

section

variable (h : Invariant crypto cond K J) {cp : CpPort} {e : Event} {t t' : System}

include h

lemma Invariant.quiet_all {q : Participant} (hq : J k q) (hk : k.Quiet k') : J k' q :=
  h.other hq (hk.traceBy (q.id + 1)) (Nat.ne_of_lt (Nat.lt_succ_self _))

lemma Invariant.holds_quiet (hs : s.Holds K J) {ps : List Participant} (hk : s.kay.Quiet k)
    (hps : ps.Sublist s.participants) : System.Holds K J ⟨k, cp, ps⟩ where
  nodup := hs.nodup.sublist (hps.map Participant.id)
  lt p hp := (hs.lt p (hps.subset hp)).trans_le hk.1
  kay := h.quiet hs.kay hk
  all p hp := h.quiet_all (hs.all p (hps.subset hp)) hk

/-- A participant takes the place of its former self. -/
lemma Invariant.holds_replace (hs : s.Holds K J) {sel : Participant → Bool} {p' : Participant}
    (hfind : s.participants.find? sel = some p) (hid : p'.id = p.id) (htrace : s.kay.TraceBy p.id k)
    (hK : K k) (hJ : J k p') :
    System.Holds K J ⟨k, cp, updateFirst sel (fun _ => p') s.participants⟩ := by
  have hp : p ∈ s.participants := mem_of_find?_eq_some hfind
  have hmem : ∀ q ∈ updateFirst sel (fun _ => p') s.participants,
      q = p' ∨ q ∈ s.participants ∧ q.id ≠ p.id :=
    fun q hq => mem_updateFirst_of_find? hfind hs.nodup hq
  refine ⟨?_, ?_, hK, ?_⟩
  · rw [map_updateFirst_of_find? hfind hid]
    exact hs.nodup
  · intro q hq
    rcases hmem q hq with rfl | ⟨hq, -⟩
    · exact (hid.trans_lt (hs.lt p hp)).trans_le htrace.nextId_le
    · exact (hs.lt q hq).trans_le htrace.nextId_le
  · intro q hq
    rcases hmem q hq with rfl | ⟨hq, hne⟩
    · exact hJ
    · exact h.other (hs.all q hq) htrace hne

lemma Invariant.holds_writeBack (hs : s.Holds K J)
    (hp : p ∈ s.participants) (hfollows : Mka.Follows ⟨s.kay, s.cp, p⟩ m')
    (hm' : K m'.kay ∧ J m'.kay m'.self) : (s.writeBack m').Holds K J := by
  have hfind : s.participants.find? (fun q => q.id == m'.self.id) = some p := by
    rw [hfollows.id]
    exact find?_key hp hs.nodup
  exact h.holds_replace hs hfind hfollows.id hfollows.trace hm'.1 hm'.2

lemma Invariant.holds_deleteMka (ht : t.Holds K J) (hd : deleteMka t ckn = .ok t') :
    t'.Holds K J := by
  obtain ⟨p?, -, hd⟩ := bind_eq_ok.mp hd
  cases p? with
  | none =>
    cases hd
    exact ht
  | some p =>
    cases hd
    exact h.holds_quiet ht (deleteParticipant_recounted t p).quiet eraseP_sublist

lemma Invariant.holds_deleteAllMka {n : ℕ} (ht : t.Holds K J) (hd : deleteAllMka n t = .ok t') :
    t'.Holds K J := by
  induction n generalizing t with
  | zero =>
    cases hd
    exact ht
  | succ n ih =>
    rw [deleteAllMka] at hd
    split at hd
    · cases hd
      exact ht
    · obtain ⟨u, hu, hd⟩ := bind_eq_ok.mp hd
      exact ih (h.holds_deleteMka ht hu) hd

variable (hcond : cond s e)

include hcond

section

variable {cak : Octets 16} (he : e.Creates ckn cak) (ht : t.Holds K J) {life : ℕ}
  {mode : MkaCreatedMode} {isAuthenticator : Bool}

include he ht

/-- A new participant. -/
lemma Invariant.holds_cons {mi : Mi} : System.Holds K J
    ⟨{ t.kay with nextId := t.kay.nextId + 1 }, cp,
      newParticipant crypto env t ckn cak life mode isAuthenticator mi :: t.participants⟩ := by
  have hquiet : t.kay.Quiet { t.kay with nextId := t.kay.nextId + 1 } :=
    ⟨Nat.le_succ _, by simp, _, _, _, _, _, _, _, rfl⟩
  refine ⟨?_, ?_, h.quiet ht.kay hquiet, ?_⟩
  · refine nodup_cons.mpr ⟨fun hmem => ?_, ht.nodup⟩
    obtain ⟨p, hp, hid⟩ := mem_map.mp hmem
    exact absurd (ht.lt p hp) (hid ▸ Nat.lt_irrefl t.kay.nextId)
  · intro p hp
    rcases mem_cons.mp hp with rfl | hp
    · exact Nat.lt_succ_self _
    · exact (ht.lt p hp).trans (Nat.lt_succ_self _)
  · intro p hp
    rcases mem_cons.mp hp with rfl | hp
    · exact h.create hcond he ht.kay hquiet
    · exact h.quiet_all (ht.all p hp) hquiet

/-- An MKA instance is not created, or it is added to the list; in any case the KaY may take itself
for the key server. -/
lemma Invariant.holds_createMka
    (hc : createMka crypto env t ckn cak life mode isAuthenticator = .ok t') : t'.Holds K J := by
  obtain ⟨t₁, ht₁, hserver⟩ : ∃ t₁, System.Holds K J t₁ ∧
      (if mode == .eapExchange && isAuthenticator then
        { t with kay.keyServerSci := t.kay.actorSci, kay.keyServerPriority := t.kay.actorPriority }
      else t) = t₁ := by
    split_ifs
    · refine ⟨_, ?_, rfl⟩
      exact h.holds_quiet ht ⟨le_rfl, by simp, _, _, _, _, _, _, _, rfl⟩ (.refl _)
    · exact ⟨t, ht, rfl⟩
  simp only [createMka, hserver] at hc
  by_cases halloc : (!env.alloc .participant)
  · rw [if_pos halloc] at hc
    exact ok.inj hc ▸ ht
  rw [if_neg halloc] at hc
  cases hmi : env.randomMi .createMka with
  | none =>
    simp only [hmi] at hc
    exact ok.inj hc ▸ ht₁
  | some mi =>
    simp only [hmi] at hc
    split_ifs at hc
    exact ok.inj hc ▸ h.holds_cons hcond he ht₁

end

variable (hs : s.Holds K J)

include hs

/-- A callback of the CP keeps an invariant. -/
lemma Invariant.holds_onCp {f : CpWorld KayState → Checked (CpWorld KayState)}
    (hf : CpWorld.IsCallback s.kay.conf (kayOps crypto) f) (hr : s.onCp f = .ok s') :
    s'.Holds K J := by
  -- during the callback each participant is one of those at the event, but for what the CP touches
  let Q : KayState → Prop := fun t => System.Holds K J ⟨t.kay, s.cp, t.participants⟩ ∧
    ∀ p ∈ t.participants, ∃ p₀ ∈ s.participants, p.untouched = p₀.untouched
  have hkeeps : (kayOps crypto).Keeps Q := by
    refine kayOps_keeps ?_
    rintro t t' ⟨ht, horigin⟩ (rfl | ⟨p, k', p', hp, hop, rfl⟩)
    · exact ⟨ht, horigin⟩
    obtain ⟨p₀, hp₀, hp₀'⟩ := horigin p (mem_of_find?_eq_some hp)
    obtain ⟨hK, hJ⟩ := h.cp hcond hp₀ hp₀' ht.kay (ht.all p (mem_of_find?_eq_some hp)) hop
    refine ⟨h.holds_replace ht hp hop.touched.id (hop.touched.traceBy _) hK hJ, ?_⟩
    intro q hq
    rcases mem_updateFirst hq with hq | ⟨_, -, -, rfl⟩
    · exact horigin q hq
    · exact ⟨p₀, hp₀, hop.touched.self.trans hp₀'⟩
  obtain ⟨w, hw, hr⟩ := bind_eq_ok.mp hr
  cases hr
  exact h.holds_quiet (hf.keeps hkeeps ⟨hs, fun p hp => ⟨p, hp, rfl⟩⟩ hw).1
    ⟨le_rfl, by simp, _, _, _, _, _, _, _, rfl⟩ (.refl _)

/-- Every event keeps an invariant. -/
lemma Invariant.step (hstep : s.step crypto e = .ok s') : s'.Holds K J := by
  cases e with
  | receive env buf =>
    rcases kayL2Receive_cases hstep with rfl | ⟨p, m', hto, hp, hm', rfl⟩
    · exact hs
    · exact h.holds_writeBack hs hp (follows_decodeMkpduFor hm')
        (h.receive hcond hto hp hs.kay (hs.all p hp) hm')
  | tick env i =>
    rw [System.step, participantTimer] at hstep
    cases hp : s.participants.find? fun p => p.id == i with
    | none =>
      simp only [hp] at hstep
      exact ok.inj hstep ▸ hs
    | some p =>
      simp only [hp] at hstep
      obtain rfl : p.id = i := by simpa using find?_some hp
      have hp := mem_of_find?_eq_some hp
      split_ifs at hstep with hdelete
      · refine h.holds_deleteMka ?_ hstep
        exact h.holds_quiet hs ⟨le_rfl, by simp, _, _, _, _, _, _, _, rfl⟩ (.refl _)
      obtain ⟨m', hm', hstep⟩ := bind_eq_ok.mp hstep
      cases hstep
      exact h.holds_writeBack hs hp (follows_participantTimerFor hm')
        (h.tick hcond hp hs.kay (hs.all p hp) hm')
  | cpStep envs => exact h.holds_onCp hcond hs (.step envs) hstep
  | transmitWhen envs => exact h.holds_onCp hcond hs (.transmitWhen envs) hstep
  | retireWhen envs => exact h.holds_onCp hcond hs (.retireWhen envs) hstep
  | createMka env ckn cak life mode isAuthenticator =>
    exact h.holds_createMka hcond ⟨rfl, rfl⟩ hs hstep
  | deleteMka ckn => exact h.holds_deleteMka hs hstep
  | hotSwap env ckn cak isAuthenticator =>
    obtain ⟨t, ht, hc⟩ := bind_eq_ok.mp hstep
    exact h.holds_createMka hcond ⟨rfl, rfl⟩ (h.holds_deleteAllMka
      (h.holds_quiet hs ⟨le_rfl, by simp, _, _, _, _, _, _, _, rfl⟩ (.refl _)) ht) hc
  | newSak =>
    cases hstep
    rw [kayNewSak]
    cases hp : getPrincipalParticipant s.participants with
    | none =>
      rw [updatePrincipalParticipant, updateFirst_of_not_any (find?_eq_none.mp hp)]
      exact hs
    | some p =>
      rw [updatePrincipalParticipant, updateFirst_eq_of_find? hp]
      exact h.holds_replace hs hp rfl (.refl _ _) hs.kay
        (h.request (hs.all p (mem_of_find?_eq_some hp)))

omit hcond hs

lemma Invariant.run {es : List Event} (hs : s.Holds K J)
    (halong : Along (System.step crypto) cond s es)
    (hrun : Machine.run (System.step crypto) s es = .ok s') : s'.Holds K J :=
  run_along_induction (fun _ _ _ ht hc hstep => h.step hc ht hstep) hs halong hrun

end

lemma kayInit_eq_ok (h : kayInit crypto params env secy = .ok s) :
    s.kay = Kay.initial params ∧ s.participants = [] := by
  obtain ⟨w, hw, h⟩ := bind_eq_ok.mp h
  cases hw
  cases h
  split_ifs <;> exact ⟨rfl, rfl⟩

lemma kayInit_holds (hK : K (Kay.initial params)) (h : kayInit crypto params env secy = .ok s) :
    s.Holds K J := by
  obtain ⟨hkay, hps⟩ := kayInit_eq_ok h
  exact ⟨by simp [hps], by simp [hps], hkay ▸ hK, by simp [hps]⟩

end Invariant

end Hostapd.Pae
