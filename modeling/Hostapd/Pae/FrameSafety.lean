import Hostapd.Pae.Handlers
import Hostapd.Pae.ParamSets
import Hostapd.Pae.System

/-!
# Where parsing leaves the frame

For each function that parses a received frame, the frames on which it reads past the end or lets
`left_len` go below zero. The search for the ICV and the `body_rx` functions of peer lists and
distributed SAKs never do; the dump of the basic parameter set, the comparison of the CKN, the
search in the peer lists, the dispatch loop and the dump of the SAK use do so on frames that their
checks let through. `FrameInside` puts the conditions together.
-/

namespace Hostapd.Pae

open Wire Checked List

/-! ## Sanity check -/

/-- The comparison of CKNs stays inside the octets that follow the basic parameter set. -/
def CknsInside : List Participant → Bytes → Prop
  | [], _ => True
  | p :: ps, ckn =>
    p.ckn.len ≤ ckn.length ∧ (ckn.take p.ckn.len ≠ p.ckn.octets → CknsInside ps ckn)

instance CknsInside.decidable : ∀ ps ckn, Decidable (CknsInside ps ckn)
  | [], _ => isTrue trivial
  | _ :: ps, ckn =>
    have : Decidable (CknsInside ps ckn) := CknsInside.decidable ps ckn
    inferInstanceAs (Decidable (_ ∧ (_ → _)))

variable {ps : List Participant} {env : Env} {buf mka rest : Bytes} {crypto : Crypto}
  {p : Participant} {m : Mka} {n : ℕ}

lemma inside_getParticipant {ckn : Bytes} :
    (getParticipant ps ckn).Inside ↔ CknsInside ps ckn := by
  induction ps with
  | nil => simp [getParticipant, CknsInside]
  | cons p ps ih =>
    rw [getParticipant, inside_bind, inside_readAt, Nat.zero_add, CknsInside]
    refine and_congr_right fun hlen => ?_
    have hread : readAt ckn 0 p.ckn.len = .ok (ckn.take p.ckn.len) :=
      readAt_of_le (by rwa [Nat.zero_add])
    by_cases heq : ckn.take p.ckn.len = p.ckn.octets
    · simp [hread, heq]
    · simp [hread, heq, ih]

/-- When the dump of the basic parameter set stays inside. -/
lemma inside_dumpBasicBody (hlong : 32 ≤ mka.length) (hshort : mka.length < 65536) :
    (dumpBasicBody env mka).Inside ↔
      (env.debug → 28 ≤ paramBodyLen mka ∧ paramSetLen mka ≤ mka.length) := by
  have hlt := paramBodyLen_lt mka
  have hhead : readAt mka 0 sizeofBasicBody = .ok ((mka.drop 0).take sizeofBasicBody) :=
    readAt_of_le (by simpa [sizeofBasicBody] using hlong)
  rw [dumpBasicBody, hhead, ok_bind]
  cases env.debug with
  | false => simp
  | true =>
    simp only [if_true, forall_const, inside_bind, inside_readAt]
    simp only [sizeSub, sizeofBasicBody, mkaHdrLen, paramSetLen]
    refine ⟨fun h => ?_, fun h => ⟨?_, fun _ _ => inside_ok _⟩⟩
    · omega
    · omega

lemma dumpBasicBody_eq_ok_of_inside (h : (dumpBasicBody env mka).Inside) :
    dumpBasicBody env mka = .ok () := by
  revert h
  unfold dumpBasicBody readAt
  cases env.debug <;> split_ifs <;> simp [Checked.Inside]

/-- The search for the ICV returns, with room for an ICV. -/
lemma decodeIcvBody_eq_ok (hlong : defaultIcvLen ≤ mka.length) :
    ∃ icv, decodeIcvBody mka = .ok icv ∧ ∀ pos, icv = some pos → defaultIcvLen ≤ pos.length := by
  have hend : defaultIcvLen ≤ (mka.drop (mka.length - defaultIcvLen)).length := by
    rw [length_drop]
    omega
  have hwalk : ∀ (n : ℕ) (rest : Bytes),
      ∃ r, walk minSetLeft paramSetLen (visitIcv mka) n () rest = .ok r ∧
        ∀ pos, r = .inr (some pos) → defaultIcvLen ≤ pos.length := by
    intro n
    induction n with
    | zero => exact fun rest => ⟨.inl (), rfl, by simp⟩
    | succ n ih =>
      intro rest
      by_cases hleft : minSetLeft < rest.length
      · have hread : readAt rest 0 mkaHdrLen = .ok ((rest.drop 0).take mkaHdrLen) :=
          readAt_of_le (by simp only [minSetLeft] at hleft; omega)
        rw [walk_succ _ _ _ hleft]
        simp only [visitIcv, hread, ok_bind]
        split_ifs with hout htype hicv
        · exact ⟨_, rfl, fun pos hpos => by cases hpos; exact hend⟩
        · -- the element is skipped only after it is found to end inside
          have hadv : advance rest (paramSetLen rest) = .ok (rest.drop (paramSetLen rest)) :=
            advance_eq_ok.mpr ⟨by omega, rfl⟩
          obtain ⟨r, hr, hpos⟩ := ih (rest.drop (paramSetLen rest))
          refine ⟨r, ?_, hpos⟩
          simp only [pure_eq_ok, ok_bind, hadv, hr]
        · exact ⟨_, rfl, by simp⟩
        · refine ⟨_, rfl, fun pos hpos => ?_⟩
          cases hpos
          rw [length_drop]
          simp only [paramSetLen] at hout
          omega
      · exact ⟨.inl (), walk_of_le _ _ _ (by omega), by simp⟩
  obtain ⟨r, hr, hpos⟩ := hwalk mka.length mka
  rw [decodeIcvBody, walkSets, hr]
  cases r with
  | inl u => exact ⟨_, rfl, fun pos h => by cases h; exact hend⟩
  | inr icv => exact ⟨icv, rfl, fun pos h => hpos pos (by rw [h])⟩

/-- The checks that come before the basic parameter set is looked at: destination address and
length. -/
def HeadAccepted (buf : Bytes) : Prop :=
  buf.take 6 = paeGroupAddr.val ∧ 32 ≤ (mkaOf buf).length ∧ (mkaOf buf).length % 4 = 0

instance (buf : Bytes) : Decidable (HeadAccepted buf) :=
  inferInstanceAs (Decidable (_ ∧ _ ∧ _))

/-- The sanity check stays inside the frame. -/
structure SanityInside (env : Env) (ps : List Participant) (mka : Bytes) : Prop where
  dump : env.debug → 28 ≤ paramBodyLen mka ∧ paramSetLen mka ≤ mka.length
  ckn : paramSetLen mka + defaultIcvLen ≤ mka.length → CknsInside ps (mka.drop sizeofBasicBody)

/-- When the comparison of CKNs stays inside. -/
lemma inside_checkCkn (hlong : 32 ≤ (mkaOf buf).length) : (checkCkn crypto ps buf).Inside ↔
      CknsInside ps ((mkaOf buf).drop sizeofBasicBody) := by
  rw [checkCkn, inside_bind, inside_getParticipant]
  refine and_iff_left fun p? _ => ?_
  cases p? with
  | none => exact inside_ok _
  | some p =>
    split_ifs
    · exact inside_ok _
    · have hicvlen : defaultIcvLen ≤ (mkaOf buf).length := by
        simp only [defaultIcvLen]
        omega
      obtain ⟨icv, hicv, hpos⟩ := decodeIcvBody_eq_ok hicvlen
      simp only [checkIcv, hicv, ok_bind]
      cases icv with
      | none => exact inside_ok _
      | some pos =>
        have hle : 0 + defaultIcvLen ≤ pos.length := by
          exact hpos pos rfl
        simp [readAt_of_le hle]

/-- When the sanity check stays inside. -/
lemma inside_mkpduSanityCheck (hlen : eapolLength buf = (mkaOf buf).length)
    (hshort : (mkaOf buf).length < 65536) : (mkpduSanityCheck crypto env ps buf).Inside ↔
      (HeadAccepted buf → SanityInside env ps (mkaOf buf)) := by
  simp only [mkpduSanityCheck, hlen]
  by_cases hdest : buf.take 6 = paeGroupAddr.val
  swap
  · simp [HeadAccepted, hdest]
  by_cases hlong : 32 ≤ (mkaOf buf).length
  swap
  · simp [HeadAccepted, hdest, hlong, Nat.lt_of_not_le hlong]
  by_cases haligned : (mkaOf buf).length % 4 = 0
  swap
  · simp [HeadAccepted, hdest, hlong, haligned]
  rw [if_neg (not_not.mpr hdest), if_neg (Nat.not_lt.mpr hlong), if_neg (not_not.mpr haligned),
    inside_bind]
  have hset : paramSetLen (mkaOf buf) + defaultIcvLen =
      mkaHdrLen + paramBodyLen (mkaOf buf) + defaultIcvLen := rfl
  constructor
  · rintro ⟨hdump, hrest⟩ -
    refine ⟨(inside_dumpBasicBody hlong hshort).mp hdump, fun hfits => ?_⟩
    have hckn := hrest () (dumpBasicBody_eq_ok_of_inside hdump)
    rw [if_neg (by omega)] at hckn
    exact (inside_checkCkn hlong).mp hckn
  · intro h
    obtain ⟨hdump, hckn⟩ := h ⟨hdest, hlong, haligned⟩
    refine ⟨(inside_dumpBasicBody hlong hshort).mpr hdump, fun _ _ => ?_⟩
    split_ifs with hfits
    · exact inside_ok _
    · exact (inside_checkCkn hlong).mpr (hckn (by omega))

/-! ## The search for this participant -/

/-- The search stays inside exactly when the parameter sets before the first peer list that names
this participant end inside, with the entries of the peer lists among them; then it finds such a
list exactly if there is one. -/
lemma walk_peerlist (env : Env) (n : ℕ) (rest : Bytes) :
    ((walk minSetLeft paramSetLen (visitPeerlist env p) n () rest).Inside ↔
      ∀ r ∈ (positions minSetLeft paramSetLen n rest).takeWhile fun r => !listsSelf p r,
        paramSetLen r ≤ r.length ∧ EntriesInside r) ∧
    ((walk minSetLeft paramSetLen (visitPeerlist env p) n () rest).Inside →
      walk minSetLeft paramSetLen (visitPeerlist env p) n () rest =
        .ok (if (positions minSetLeft paramSetLen n rest).any (listsSelf p) then .inr ()
          else .inl ())) := by
  induction n generalizing rest with
  | zero => simp [walk, positions]
  | succ n ih =>
    by_cases hleft : minSetLeft < rest.length
    swap
    · simp [walk, positions, hleft]
    rw [inside_walk_succ _ _ _ hleft, walk_succ _ _ _ hleft, visitPeerlist_eq hleft, positions,
      if_pos hleft, takeWhile_cons]
    by_cases hlists : listsSelf p rest
    · -- the search ends here
      simp [hlists, inside_of_listsSelf hlists]
    by_cases hin : EntriesInside rest
    · by_cases hsize : paramSetLen rest ≤ rest.length
      · have hadv : advance rest (paramSetLen rest) = .ok (rest.drop (paramSetLen rest)) :=
          advance_eq_ok.mpr ⟨hsize, rfl⟩
        refine ⟨by simp [hlists, hin, hsize, ih], fun h => ?_⟩
        have hnext := (h.2 () (by simp [hin, hlists])).2
        simp [hlists, hin, hsize, hadv, (ih _).2 hnext]
      · simp [hlists, hsize, hin]
    · simp [hlists, hin, Checked.Inside]

lemma inside_iInPeerlist :
    (iInPeerlist env p rest).Inside ↔
      ∀ r ∈ (setPositions rest).takeWhile fun r => !listsSelf p r,
        paramSetLen r ≤ r.length ∧ EntriesInside r := by
  rw [setPositions, ← (walk_peerlist env _ rest).1, iInPeerlist, inside_bind]
  refine and_iff_left fun r _ => ?_
  cases r <;> exact inside_ok _

lemma iInPeerlist_of_inside (h : (iInPeerlist env p rest).Inside) :
    iInPeerlist env p rest = .ok ((setPositions rest).any (listsSelf p)) := by
  rw [iInPeerlist, inside_bind] at h
  rw [iInPeerlist, walkSets, (walk_peerlist env _ rest).2 h.1, ok_bind, setPositions]
  cases (positions minSetLeft paramSetLen rest.length rest).any (listsSelf p) <;> rfl

/-! ## The handlers -/

/-- A SAK use that is looked at has room for the fixed part that is dumped. -/
def SakUseInside (p : Participant) (rest : Bytes) : Prop :=
  p.principal → p.isInLivePeer p.currentPeerId.mi → paramBodyLen rest ≠ 0 →
    sizeofSakUseBody ≤ rest.length

instance (p : Participant) (rest : Bytes) : Decidable (SakUseInside p rest) :=
  inferInstanceAs (Decidable (_ → _ → _ → _))

/-- The condition depends on what handlers keep. -/
lemma sakUseInside_congr {q : Participant} (h : q.kept = p.kept) :
    SakUseInside q rest ↔ SakUseInside p rest := by
  have hprincipal : q.principal = p.principal := congrArg Participant.Kept.principal h
  have hpeer : q.currentPeerId = p.currentPeerId := congrArg Participant.Kept.currentPeerId h
  have hlive : q.isInLivePeer q.currentPeerId.mi = p.isInLivePeer p.currentPeerId.mi := by
    rw [Bool.eq_iff_iff, Participant.isInLivePeer, Participant.isInLivePeer, isInPeers_iff,
      isInPeers_iff, map_mi_of_map_key (congrArg Participant.Kept.livePeers h), hpeer]
  rw [SakUseInside, SakUseInside, hprincipal, hlive]

@[simp] lemma onlyLeaves_dumpSakUseBody (rest : Bytes) : (dumpSakUseBody rest).OnlyLeaves := by
  rw [dumpSakUseBody]
  split_ifs <;> simp

@[simp] lemma onlyLeaves_dumpDistSakBody (rest : Bytes) :
    (dumpDistSakBody rest).OnlyLeaves := by
  rw [dumpDistSakBody]
  split_ifs <;> simp

@[simp] lemma onlyLeaves_wrappedSak (rest : Bytes) : (wrappedSak rest).OnlyLeaves := by
  rw [wrappedSak]
  split_ifs
  · simp
  · refine (onlyLeaves_readAt _ _ _).bind fun cs => ?_
    cases getCipherSuite (ofBe64 cs) <;> simp

@[simp] lemma onlyLeaves_decodeWrappedSak (crypto : Crypto) (env : Env) (m : Mka)
    (rest : Bytes) : (decodeWrappedSak crypto env m rest).OnlyLeaves := by
  refine (onlyLeaves_dumpDistSakBody rest).bind fun _ => ?_
  split_ifs
  · simp
  · refine (onlyLeaves_wrappedSak rest).bind fun w? => ?_
    cases w? <;> simp

lemma onlyLeaves_handOver (crypto : Crypto) (env : Env) (m : Mka) (rest : Bytes) :
    (handOver (bodyRx crypto env) m rest).OnlyLeaves := by
  rw [handOver, bodyRx]
  split_ifs
  · rw [decodeLivePeerBody]
    split_ifs <;> simp
  · rw [decodePotentialPeerBody]
    split_ifs <;> simp
  · rw [decodeSakUseBody]
    split_ifs
    · simp
    · split <;> simp
  · refine OnlyLeaves.bind ?_ fun _ => by simp
    rw [decodeDistSakBody]
    split_ifs <;> simp
  · simp

/-- When the handler of the SAK use stays inside. -/
lemma inside_decodeSakUseBody : (decodeSakUseBody m rest).Inside ↔ SakUseInside m.self rest := by
  rw [decodeSakUseBody, SakUseInside]
  cases m.self.principal with
  | false => simp
  | true =>
    have hlive : m.self.isInLivePeer m.self.currentPeerId.mi =
        (m.self.getLivePeer m.self.currentPeerId.mi).isSome := rfl
    rw [hlive]
    cases m.self.getLivePeer m.self.currentPeerId.mi with
    | none => simp
    | some peer =>
      by_cases hlen : paramBodyLen rest = 0
      · simp [dumpSakUseBody, hlen]
      · simp [dumpSakUseBody, hlen, inside_bind, inside_readAt, mkaHdrLen, sizeofSakUseBody]

/-- A distributed SAK of an accepted length is read inside. -/
lemma inside_decodeWrappedSak (hlen : paramBodyLen rest = 28 ∨ 36 ≤ paramBodyLen rest)
    (hfits : 4 + paramBodyLen rest ≤ rest.length) :
    (decodeWrappedSak crypto env m rest).Inside := by
  have hdump : (dumpDistSakBody rest).Inside := by
    rw [dumpDistSakBody, if_pos (by omega), inside_bind, inside_readAt, mkaHdrLen]
    exact ⟨by omega, fun _ _ => inside_ok _⟩
  have hwrapped : (wrappedSak rest).Inside := by
    rw [wrappedSak]
    split_ifs with h28
    · rw [inside_bind, inside_readAt, sizeofDistSakBody]
      exact ⟨by omega, fun _ _ => inside_ok _⟩
    rw [inside_bind, inside_readAt, sizeofDistSakBody]
    refine ⟨by omega, fun cs _ => ?_⟩
    cases getCipherSuite (ofBe64 cs) with
    | none => exact inside_ok _
    | some i =>
      rw [inside_bind, inside_readAt]
      exact ⟨by omega, fun _ _ => inside_ok _⟩
  refine inside_bind.mpr ⟨hdump, fun _ _ => ?_⟩
  split_ifs
  · exact inside_ok _
  · refine inside_bind.mpr ⟨hwrapped, fun w? _ => ?_⟩
    cases w? <;> exact inside_ok _

/-- When a handler stays inside: only a SAK use may not. -/
lemma inside_handOver (hfits : fitsWithIcv rest) :
    (handOver (bodyRx crypto env) m rest).Inside ↔
      (paramBodyType rest = mkaSakUse → SakUseInside m.self rest) := by
  have hlen := fitsWithIcv_iff.mp hfits
  simp only [paramSetLen, mkaHdrLen, defaultIcvLen] at hlen
  have hbody : (readAt rest mkaHdrLen (paramBodyLen rest)).Inside :=
    inside_readAt.mpr (by simp only [mkaHdrLen]; omega)
  rw [handOver, bodyRx]
  by_cases huse : paramBodyType rest = mkaSakUse
  · simp only [huse, forall_const]
    exact inside_decodeSakUseBody
  refine iff_of_true ?_ fun h => absurd h huse
  split_ifs with hlive hpotential hdist
  · rw [decodeLivePeerBody]
    split_ifs <;> simp [inside_bind, hbody]
  · rw [decodePotentialPeerBody]
    split_ifs <;> simp [inside_bind, hbody]
  · refine inside_bind.mpr ⟨?_, fun _ _ => inside_ok _⟩
    rw [decodeDistSakBody]
    split_ifs with hshort haccept hzero
    · exact inside_ok _
    · exact inside_ok _
    · exact inside_ok _
    · exact inside_decodeWrappedSak (by omega) (by omega)
  · exact inside_ok _

/-- When all handlers stay inside. -/
lemma inside_foldlM_handOver {rests : List Bytes}
    (hfits : ∀ r ∈ rests, fitsWithIcv r) :
    (rests.foldlM (handOver (bodyRx crypto env)) m).Inside ↔
      ∀ r ∈ rests, paramBodyType r = mkaSakUse → SakUseInside m.self r := by
  induction rests generalizing m with
  | nil => simp
  | cons r rests ih =>
    rw [foldlM_cons, inside_bind, inside_handOver (hfits r (by simp)), forall_mem_cons]
    refine and_congr_right fun hr => ?_
    have hin : (handOver (bodyRx crypto env) m r).Inside :=
      (inside_handOver (hfits r (by simp))).mpr hr
    obtain ⟨m', hm'⟩ := onlyLeaves_handOver crypto env m r hin
    have hkept := kept_bodyRx hm'
    simp only [hm', Except.ok.injEq, forall_eq']
    rw [ih fun r' hr' => hfits r' (mem_cons_of_mem r hr')]
    exact forall₂_congr fun r' _ => imp_congr_right fun _ => sakUseInside_congr hkept

/-! ## The frame -/

/-- The loops over the parameter sets behind the basic one stay inside the frame, for a participant
that has accepted the basic parameter set. -/
structure SetsInside (env : Env) (m : Mka) (rest : Bytes) : Prop where
  /-- The search for this participant: the parameter sets before the first peer list that names it
  end inside, with the entries of peer lists. -/
  search : ∀ r ∈ (setPositions rest).takeWhile fun r => !listsSelf m.self r,
    paramSetLen r ≤ r.length ∧ EntriesInside r
  /-- The dispatch: the parameter sets before an ICV indicator end inside. -/
  dispatch : ∀ m', acceptLivePeer env m ((setPositions rest).any (listsSelf m.self)) =
      .ok (some m') →
    ∀ r ∈ (setPositions rest).takeWhile fun r => paramBodyType r != mkaIcvIndicator,
      paramSetLen r ≤ r.length
  sakUse : ∀ m', acceptLivePeer env m ((setPositions rest).any (listsSelf m.self)) = .ok (some m') →
    ∀ r ∈ handledSets rest, paramBodyType r = mkaSakUse → SakUseInside m'.self r

/-- Accepting a live peer reads no frame. -/
lemma inside_acceptLivePeer (env : Env) (m : Mka) (b : Bool) : (acceptLivePeer env m b).Inside := by
  have hmove : ∀ (p : Participant) (mi : Mi) (mn : UInt32), (p.moveLivePeer env mi mn).Inside := by
    intro p mi mn
    rw [Participant.moveLivePeer]
    split <;> simp [Checked.Inside]
  have hcreate : ∀ (p : Participant) (mi : Mi) (mn : UInt32),
      (p.createLivePeer env mi mn).Inside := by
    intro p mi mn
    rw [Participant.createLivePeer]
    split <;> simp [Checked.Inside]
  simp only [acceptLivePeer]
  split_ifs
  · exact inside_bind.mpr ⟨hmove _ _ _, fun _ _ => inside_ok _⟩
  · exact inside_bind.mpr ⟨hcreate _ _ _, fun _ _ => inside_ok _⟩
  · exact inside_ok _

lemma inside_dispatchSets_bodyRx :
    (dispatchSets (bodyRx crypto env) m rest).Inside ↔
      (∀ r ∈ (setPositions rest).takeWhile fun r => paramBodyType r != mkaIcvIndicator,
        paramSetLen r ≤ r.length) ∧
      ∀ r ∈ handledSets rest, paramBodyType r = mkaSakUse → SakUseInside m.self r := by
  rw [inside_dispatchSets (onlyLeaves_handOver crypto env),
    inside_foldlM_handOver fun r hr => fits_of_mem_handledSets hr]

/-- When the loops over the parameter sets stay inside. -/
lemma inside_decodeParamSets (hfits : paramSetLen mka ≤ mka.length) :
    (decodeParamSets crypto env m mka).Inside ↔ SetsInside env m (mka.drop (paramSetLen mka)) := by
  have hadv : advance mka (paramSetLen mka) = .ok (mka.drop (paramSetLen mka)) :=
    advance_eq_ok.mpr ⟨hfits, rfl⟩
  rw [decodeParamSets, hadv, ok_bind, inside_bind]
  generalize mka.drop (paramSetLen mka) = rest
  constructor
  · rintro ⟨hsearch, hrest⟩
    have hmine := hrest _ (iInPeerlist_of_inside hsearch)
    have hdispatch : ∀ m', acceptLivePeer env m ((setPositions rest).any (listsSelf m.self)) =
        .ok (some m') → (dispatchSets (bodyRx crypto env) m' rest).Inside := by
      intro m' hm'
      exact (inside_bind.mp ((inside_bind.mp hmine).2 _ hm')).1
    exact ⟨inside_iInPeerlist.mp hsearch,
      fun m' hm' => (inside_dispatchSets_bodyRx.mp (hdispatch m' hm')).1,
      fun m' hm' => (inside_dispatchSets_bodyRx.mp (hdispatch m' hm')).2⟩
  · rintro ⟨hsearch, hdispatch, huse⟩
    refine ⟨inside_iInPeerlist.mpr hsearch, fun b hb => ?_⟩
    rw [iInPeerlist_of_inside (inside_iInPeerlist.mpr hsearch)] at hb
    cases hb
    refine inside_bind.mpr ⟨inside_acceptLivePeer env m _, fun m? hm => ?_⟩
    cases m? with
    | none => exact inside_ok _
    | some m' =>
      refine inside_bind.mpr ⟨?_, fun _ _ => inside_ok _⟩
      exact inside_dispatchSets_bodyRx.mpr ⟨hdispatch m' hm, huse m' hm⟩

/-- When parsing stays inside a frame. -/
def FrameInside (crypto : Crypto) (env : Env) (s : System) (buf : Bytes) : Prop :=
  HeadAccepted buf → SanityInside env s.participants (mkaOf buf) ∧
    ∀ p, mkpduSanityCheck crypto env s.participants buf = .ok true →
      (s.kay.isObligedKeyServer && (BasicBody.ofOctets (mkaOf buf)).keyServer) = false →
      getParticipant s.participants ((mkaOf buf).drop sizeofBasicBody) = .ok (some p) →
      ∀ m, decodeBasicBody env ⟨s.kay, s.cp, p⟩ (BasicBody.ofOctets (mkaOf buf)) = (m, true) →
        SetsInside env m ((mkaOf buf).drop (paramSetLen (mkaOf buf)))

lemma paramSetLen_le_of_mkpduSanityCheck (hlen : eapolLength buf = (mkaOf buf).length)
    (h : mkpduSanityCheck crypto env ps buf = .ok true) :
    HeadAccepted buf ∧ paramSetLen (mkaOf buf) + defaultIcvLen ≤ (mkaOf buf).length := by
  simp only [mkpduSanityCheck, hlen] at h
  split_ifs at h with hdest hlong haligned hfits
  · cases h
  · cases h
  · cases h
  · obtain ⟨-, -, h⟩ := bind_eq_ok.mp h
    cases h
  · exact ⟨⟨not_not.mp hdest, Nat.le_of_not_lt hlong, not_not.mp haligned⟩, Nat.le_of_not_lt hfits⟩

/-- Parsing a frame that `kay_l2_receive` accepts stays inside the frame exactly in the cases that
`FrameInside` describes, for every ICV function. -/
theorem parsing_inside_iff {crypto : Crypto} {env : Env} {s : System} {buf : Bytes}
    (haccepts : l2Accepts buf) (hps : s.participants ≠ []) :
    (kayL2Receive crypto env s buf).Inside ↔ FrameInside crypto env s buf := by
  have hlen : eapolLength buf = (mkaOf buf).length := by
    simp only [l2Accepts, Bool.and_eq_true, decide_eq_true_eq] at haccepts
    simp only [mkaOf, length_drop]
    omega
  have hshort : (mkaOf buf).length < 65536 := hlen ▸ UInt16.toNat_lt _
  have hdecode : kayL2Receive crypto env s buf = decodeMkpdu crypto env s buf := by
    rw [kayL2Receive, haccepts]
    simp [hps]
  rw [hdecode, decodeMkpdu, inside_bind, inside_mkpduSanityCheck hlen hshort]
  constructor
  · rintro ⟨hsanity, hrest⟩ hhead
    refine ⟨hsanity hhead, fun p hpass hobliged hp m hm => ?_⟩
    have hfits := (paramSetLen_le_of_mkpduSanityCheck hlen hpass).2
    have h := hrest true hpass
    simp only [if_true, hobliged, Bool.false_eq_true, if_false, hp, ok_bind] at h
    have hfor := (inside_bind.mp h).1
    rw [decodeMkpduFor, hm] at hfor
    exact (inside_decodeParamSets (by omega)).mp hfor
  intro h
  refine ⟨fun hhead => (h hhead).1, fun passes hpass => ?_⟩
  cases passes with
  | false => exact inside_ok _
  | true =>
    obtain ⟨hhead, hfits⟩ := paramSetLen_le_of_mkpduSanityCheck hlen hpass
    obtain ⟨hsanity, hsets⟩ := h hhead
    rw [if_pos rfl]
    split_ifs with hobliged
    · exact inside_ok _
    refine inside_bind.mpr ⟨inside_getParticipant.mpr (hsanity.ckn hfits), fun p? hp => ?_⟩
    cases p? with
    | none => exact inside_ok _
    | some p =>
      refine inside_bind.mpr ⟨?_, fun _ _ => inside_ok _⟩
      rw [decodeMkpduFor]
      generalize hr : decodeBasicBody env ⟨s.kay, s.cp, p⟩ (.ofOctets (mkaOf buf)) = r
      obtain ⟨m, accepted⟩ := r
      cases accepted with
      | false => exact inside_ok _
      | true =>
        exact (inside_decodeParamSets (by omega)).mpr
          (hsets p hpass (by simpa using hobliged) hp m hr)

def sampleSystem : System :=
  let m := sampleMember (sampleAddr 1) (sampleMi 1)
  ⟨m.kay, m.cp, [m.self]⟩

/-- A basic parameter set of another member for the CKN of `sampleSystem`, in which the length of
the body is `len`. -/
def sampleBasicSet (len : ℕ) : Bytes :=
  BasicBody.octets ⟨1, 16, true, true, .integAndConf0_30_50, ⟨sampleAddr 2, 1⟩,
    sampleMi 2, 1, mkaAlgoAgility⟩ len

def sampleFrame (mka : Bytes) : Bytes :=
  frameHead (sampleAddr 2) mka.length ++ mka

/-- A basic parameter set with its CKN and the ICV is parsed inside the frame. -/
theorem sampleFrame_inside :
    FrameInside default (Env.benign 1) sampleSystem
      (sampleFrame (sampleBasicSet 32 ++ replicate 20 0)) := by
  obtain ⟨s, hs⟩ : ∃ s, kayL2Receive default (.benign 1) sampleSystem
      (sampleFrame (sampleBasicSet 32 ++ replicate 20 0)) = .ok s := ⟨_, rfl⟩
  refine (parsing_inside_iff (by decide) (by decide)).mp ?_
  rw [hs]
  exact inside_ok s

/-- Two frames that `kay_l2_receive` accepts.  The first ends with the fixed part of its basic
parameter set, and the CKN is compared behind its end, before any ICV is checked.  The second passes
the sanity check and ends with a parameter set that claims 4095 octets, which are taken off
`left_len`. -/
theorem parsing_leaves_frame :
    (l2Accepts (sampleFrame (sampleBasicSet 12)) ∧
      kayL2Receive default (Env.benign 1) sampleSystem (sampleFrame (sampleBasicSet 12)) =
        .error .overread) ∧
    l2Accepts (sampleFrame (sampleBasicSet 32 ++ (replicate 4 0 ++
      (paramHdr 9 0 0 4095 ++ replicate 20 0)))) ∧
    kayL2Receive default (Env.benign 1) sampleSystem
      (sampleFrame (sampleBasicSet 32 ++ (replicate 4 0 ++
        (paramHdr 9 0 0 4095 ++ replicate 20 0)))) = .error .underflow :=
  ⟨⟨by decide, rfl⟩, by decide, rfl⟩

end Hostapd.Pae
