import Hostapd.Pae.Dispatch

/-!
# MKPDUs as lists of parameter sets

A `Message` is a basic parameter set followed by other parameter sets; its frame has the headers in
front and the ICV indicator with the ICV at the end. The loops of the receiver over the frame are
rewritten as recursions over the list of parameter sets; the dispatch calls the handler once for
each set in the order of the list (`dispatchSets_eq`).
-/

namespace Hostapd.Pae

open Wire Checked List

/-! ## Parameter sets -/

/-- A parameter set: its type, its second octet, the four bits beside the body length, its body. -/
structure ParamSet where
  type : UInt8
  second : UInt8
  high : ℕ
  body : Bytes

variable (set : ParamSet)

namespace ParamSet

def octets (set : ParamSet) : Bytes :=
  paramHdr set.type set.second set.high set.body.length ++ set.body

/-- The bits and the length of the body fit into their fields. -/
structure Wf (set : ParamSet) : Prop where
  high_lt : set.high < 16
  body_lt : set.body.length < 4096

variable {set : ParamSet} (t : Bytes)

@[simp] lemma length_octets : set.octets.length = 4 + set.body.length := by
  simp [octets]

@[simp] lemma paramBodyType_octets : paramBodyType (set.octets ++ t) = set.type := by
  simp [octets]

lemma paramBodyLen_octets (h : set.Wf) : paramBodyLen (set.octets ++ t) = set.body.length := by
  exact paramBodyLen_paramHdr _ _ _ h.body_lt

lemma paramSetLen_octets (h : set.Wf) : paramSetLen (set.octets ++ t) = set.octets.length := by
  rw [paramSetLen, paramBodyLen_octets t h, length_octets, mkaHdrLen]

lemma readAt_hdr (t : Bytes) : ∃ l, readAt (set.octets ++ t) 0 mkaHdrLen = .ok l :=
  ⟨_, readAt_of_le (by simp [mkaHdrLen]; omega)⟩

lemma take_drop_octets (t : Bytes) :
    ((set.octets ++ t).drop mkaHdrLen).take set.body.length = set.body := by
  have h := drop_paramHdr_append set.type set.second set.high set.body.length (set.body ++ t) 0
  rw [Nat.zero_add, drop_zero] at h
  rw [octets, append_assoc, mkaHdrLen, h, take_left]

/-- The parameter set at the beginning of an octet string. -/
def ofOctets (l : Bytes) : ParamSet where
  type := paramBodyType l
  second := octetAt l 1
  high := paramHigh l
  body := (l.drop mkaHdrLen).take (paramBodyLen l)

lemma ofOctets_octets (h : set.Wf) (t : Bytes) : ofOctets (set.octets ++ t) = set := by
  rw [ofOctets, paramBodyType_octets, paramBodyLen_octets t h, take_drop_octets, octets,
    append_assoc, paramHigh_paramHdr _ _ _ h.high_lt]
  simp

lemma fitsWithIcv_octets (h : set.Wf) {t : Bytes} (ht : defaultIcvLen ≤ t.length) :
    fitsWithIcv (set.octets ++ t) := by
  rw [fitsWithIcv, decide_eq_true_eq, paramSetLen_octets t h, length_append]
  omega

end ParamSet

def setsOctets (sets : List ParamSet) : Bytes := (sets.map ParamSet.octets).flatten

@[simp] lemma setsOctets_nil : setsOctets [] = [] := rfl

@[simp] lemma setsOctets_cons (sets : List ParamSet) :
    setsOctets (set :: sets) = set.octets ++ setsOctets sets := rfl

lemma setsOctets_append (as bs : List ParamSet) :
    setsOctets (as ++ bs) = setsOctets as ++ setsOctets bs := by
  simp [setsOctets]

variable {env : Env} {sets : List ParamSet} {rest : Bytes}

/-! ## Dumps -/

/-- The dump of a peer list reads whole entries: the last one may stick out of the body. -/
lemma dumpPeers_eq_ok {n off : ℕ} :
    dumpPeers env rest n off = .ok () ↔ n = 0 ∨ off + n * 16 ≤ rest.length := by
  induction n generalizing off with
  | zero => simp [dumpPeers]
  | succ n ih =>
    have hstep : dumpPeers env rest (n + 1) off = .ok () ↔
        off + 16 ≤ rest.length ∧ dumpPeers env rest n (off + 16) = .ok () := by
      rw [dumpPeers]
      by_cases h : off + 16 ≤ rest.length
      · rw [readAt_of_le (by omega : off + 12 + 4 ≤ rest.length),
          readAt_of_le (by omega : off + 12 ≤ rest.length)]
        cases env.debug <;> simp [h, sizeofPeerId]
      · have hread : readAt rest (off + 12) 4 = .error .overread := if_neg (by omega)
        simp [hread, h]
    rw [hstep, ih]
    omega

lemma dumpPeerBody_eq_ok :
    dumpPeerBody env rest = .ok () ↔
      paramBodyLen rest = 0 ∨ mkaHdrLen + (paramBodyLen rest + 15) / 16 * 16 ≤ rest.length := by
  rw [dumpPeerBody, dumpPeers_eq_ok]
  omega

/-! ## The search for a participant -/

variable {p : Participant}

/-- The set is a peer list. -/
def isPeerList (rest : Bytes) : Bool :=
  paramBodyType rest == mkaLivePeerList || paramBodyType rest == mkaPotentialPeerList

/-- The parameter set is a peer list that names the participant with its message number. -/
def listsSelf (p : Participant) (rest : Bytes) : Bool :=
  isPeerList rest && fitsWithIcv rest && paramBodyLen rest % 16 == 0 &&
    (peerEntries ((rest.drop mkaHdrLen).take (paramBodyLen rest)) (paramBodyLen rest)).any fun e =>
      e.mi == p.mi && e.mn == p.mn

/-- If the parameter set at a position is a peer list, its last entry, which is dumped whole even if
the body ends before it, ends inside the frame. -/
def EntriesInside (rest : Bytes) : Prop :=
  isPeerList rest →
    paramBodyLen rest = 0 ∨ mkaHdrLen + (paramBodyLen rest + 15) / 16 * 16 ≤ rest.length

instance (rest : Bytes) : Decidable (EntriesInside rest) :=
  inferInstanceAs (Decidable (_ → _ ∨ _))

lemma inside_of_listsSelf (h : listsSelf p rest) : EntriesInside rest := by
  simp only [listsSelf, Bool.and_eq_true, fitsWithIcv_iff, beq_iff_eq] at h
  obtain ⟨⟨⟨-, hfits⟩, hwhole⟩, -⟩ := h
  simp only [paramSetLen, mkaHdrLen, defaultIcvLen] at hfits
  intro _
  simp only [mkaHdrLen]
  omega

lemma dumpPeers_cases (env : Env) (rest : Bytes) (n off : ℕ) :
    dumpPeers env rest n off = .ok () ∨ dumpPeers env rest n off = .error .overread := by
  induction n generalizing off with
  | zero => exact .inl rfl
  | succ n ih =>
    rw [dumpPeers]
    unfold readAt
    cases env.debug <;> split_ifs <;> simp [ih]

/-- One round of the search in the peer lists. -/
lemma visitPeerlist_eq (hleft : minSetLeft < rest.length) :
    visitPeerlist env p () rest =
      if EntriesInside rest then (if listsSelf p rest then .ok (.inr ()) else .ok (.inl ()))
      else .error .overread := by
  have hread : readAt rest 0 mkaHdrLen = .ok ((rest.drop 0).take mkaHdrLen) :=
    readAt_of_le (by simp only [minSetLeft] at hleft; omega)
  simp only [visitPeerlist, hread, ok_bind, pure_eq_ok]
  cases hlist : isPeerList rest with
  | false =>
    have htype : paramBodyType rest ≠ mkaLivePeerList ∧
        paramBodyType rest ≠ mkaPotentialPeerList := by
      simpa [isPeerList] using hlist
    have hin : EntriesInside rest := fun h => absurd (hlist.symm.trans h) (by decide)
    rw [if_pos htype, if_pos hin, listsSelf, hlist]
    rfl
  | true =>
    have htype : ¬ (paramBodyType rest ≠ mkaLivePeerList ∧
        paramBodyType rest ≠ mkaPotentialPeerList) := by
      simp only [isPeerList, Bool.or_eq_true, beq_iff_eq] at hlist
      tauto
    have hiff : EntriesInside rest ↔ dumpPeerBody env rest = .ok () := by
      rw [dumpPeerBody_eq_ok]
      exact ⟨fun h => h hlist, fun h _ => h⟩
    rw [if_neg htype]
    rcases dumpPeers_cases env rest ((paramBodyLen rest + 15) / 16) mkaHdrLen with hdump | hdump
    · rw [← dumpPeerBody] at hdump
      rw [if_pos (hiff.mpr hdump), hdump, ok_bind, listsSelf, hlist, Bool.true_and]
      cases hfits : fitsWithIcv rest with
      | false => rfl
      | true =>
        have hbody : readAt rest mkaHdrLen (paramBodyLen rest) =
            .ok ((rest.drop mkaHdrLen).take (paramBodyLen rest)) :=
          readAt_of_le (by have h := fitsWithIcv_iff.mp hfits; simp only [paramSetLen] at h; omega)
        by_cases hwhole : paramBodyLen rest % 16 = 0
        · simp [hbody, hwhole]
        · simp [hwhole]
    · rw [← dumpPeerBody] at hdump
      have hout : ¬ EntriesInside rest := by
        rw [hiff, hdump]
        simp
      rw [if_neg hout, hdump]
      rfl

/-! ## Loops over parameter sets -/

/-- The set is a peer list that names the participant with its current message number. -/
def ParamSet.lists (p : Participant) : Bool :=
  (set.type == mkaLivePeerList || set.type == mkaPotentialPeerList) && set.body.length % 16 == 0 &&
    (peerEntries set.body set.body.length).any fun e => e.mi == p.mi && e.mn == p.mn

/-- Hand the sets to a handler one by one. -/
def handleSets {τ : Type} (handler : τ → UInt8 → Bytes → Checked τ) (tail : Bytes) :
    τ → List ParamSet → Checked τ
  | t, [] => .ok t
  | t, set :: sets =>
    handler t set.type (set.octets ++ (setsOctets sets ++ tail)) >>= fun t' =>
      handleSets handler tail t' sets

section Loops

variable {tail : Bytes} (htail : tail.length = 20)

include htail

/-- A loop over well-formed sets visits each of them. -/
lemma walkSets_eq_visitAll {σ ρ : Type} {visit : σ → Bytes → Checked (σ ⊕ ρ)} {s : σ}
    (hwf : ∀ set ∈ sets, set.Wf) :
    walkSets visit s (setsOctets sets ++ tail) =
      visitAll visit tail s (sets.map ParamSet.octets) := by
  refine walk_flatten _ _ _ ?_ ?_ ?_ ?_ s
  · simp [htail, minSetLeft, mkaHdrLen, defaultIcvLen]
  · intro el hel t
    obtain ⟨set, hset, rfl⟩ := mem_map.mp hel
    exact ParamSet.paramSetLen_octets t (hwf set hset)
  · intro el hel
    obtain ⟨set, -, rfl⟩ := mem_map.mp hel
    simp only [ParamSet.length_octets, htail, minSetLeft, mkaHdrLen, defaultIcvLen]
    omega
  · rw [length_map, length_append, setsOctets, length_flatten]
    have hle : sets.length ≤ ((sets.map ParamSet.octets).map length).sum := by
      rw [map_map]
      refine (length_le_sum_of_one_le _ ?_).trans' (by simp)
      intro n hn
      obtain ⟨set, -, rfl⟩ := mem_map.mp hn
      simp only [Function.comp_apply, ParamSet.length_octets]
      omega
    omega

/-- The search finds the participant if a set lists it. -/
lemma iInPeerlist_eq (env : Env) (p : Participant) (hwf : ∀ set ∈ sets, set.Wf) :
    iInPeerlist env p (setsOctets sets ++ tail) = .ok (sets.any fun set => set.lists p) := by
  have hvisit : ∀ set ∈ sets, ∀ t, tail.length ≤ t.length →
      visitPeerlist env p () (set.octets ++ t) =
        .ok (if set.lists p then .inr () else .inl ()) := by
    intro set hset t ht
    have hlen := ParamSet.paramBodyLen_octets t (hwf set hset)
    have hlong : (set.octets ++ t).length = 4 + set.body.length + t.length := by simp
    have hfit : fitsWithIcv (set.octets ++ t) :=
      ParamSet.fitsWithIcv_octets (hwf set hset) (by rw [defaultIcvLen]; omega)
    have hin : EntriesInside (set.octets ++ t) := by
      intro _
      rw [hlen, hlong, mkaHdrLen]
      omega
    have hlists : listsSelf p (set.octets ++ t) = set.lists p := by
      rw [listsSelf, isPeerList, hfit, hlen, set.take_drop_octets, ParamSet.paramBodyType_octets,
        Bool.and_true, ParamSet.lists]
    have hleft : minSetLeft < (set.octets ++ t).length := by
      rw [hlong, minSetLeft, mkaHdrLen, defaultIcvLen]
      omega
    rw [visitPeerlist_eq hleft, if_pos hin, hlists]
    cases set.lists p <;> rfl
  rw [iInPeerlist, walkSets_eq_visitAll htail hwf, visitAll_any _ hvisit]
  cases sets.any fun set => set.lists p <;> rfl

/-- The dispatch calls the handler once for each set, in order, whatever the handler does. -/
lemma dispatchSets_eq {τ : Type} (handler : τ → UInt8 → Bytes → Checked τ) (t : τ)
    (hwf : ∀ set ∈ sets, set.Wf) (htype : ∀ set ∈ sets, set.type ≠ mkaIcvIndicator)
    (hzero : ∀ set ∈ sets, set.type ≠ 0) (hnodup : (sets.map ParamSet.type).Nodup) :
    dispatchSets handler t (setsOctets sets ++ tail) =
      handleSets handler tail t sets >>= fun t' => .ok (t', true) := by
  have hvisit : ∀ (t : τ) (handled : Bytes), (∀ set ∈ sets, set.type ∉ handled) →
      (visitAll (visitSet handler) tail (t, handled) (sets.map ParamSet.octets) >>=
          Sum.elim (fun s => .ok (s.1, true)) fun t => .ok (t, false)) =
        handleSets handler tail t sets >>= fun t' => .ok (t', true) := by
    clear hzero
    induction sets with
    | nil => exact fun _ _ _ => rfl
    | cons set sets ih =>
      intro t handled hnew
      have hfit : fitsWithIcv (set.octets ++ (setsOctets sets ++ tail)) :=
        ParamSet.fitsWithIcv_octets (hwf set (by simp)) (by simp [htail, defaultIcvLen])
      obtain ⟨l, hl⟩ := set.readAt_hdr (setsOctets sets ++ tail)
      have hstep : visitSet handler (t, handled) (set.octets ++ (setsOctets sets ++ tail)) =
          handler t set.type (set.octets ++ (setsOctets sets ++ tail)) >>= fun t' =>
            .ok (.inl (t', set.type :: handled)) := by
        simp only [visitSet, hl, ok_bind, ParamSet.paramBodyType_octets, hfit,
          if_neg (htype set (by simp)), if_neg (hnew set (by simp)), Bool.not_true,
          Bool.false_eq_true, if_false, pure_eq_ok]
      rw [map_cons, nodup_cons] at hnodup
      rw [map_cons, visitAll, handleSets]
      rw [setsOctets] at hstep ⊢
      rw [hstep]
      cases hh : handler t set.type
          (set.octets ++ ((sets.map ParamSet.octets).flatten ++ tail)) with
      | error f => rfl
      | ok t' =>
        refine ih (fun s h => hwf s (mem_cons_of_mem set h))
          (fun s h => htype s (mem_cons_of_mem set h)) hnodup.2 t' (set.type :: handled) ?_
        intro s hs hmem
        rcases mem_cons.mp hmem with heq | hmem
        · exact hnodup.1 (heq ▸ mem_map_of_mem hs)
        · exact hnew s (mem_cons_of_mem set hs) hmem
  rw [dispatchSets, walkSets_eq_visitAll htail hwf, ← hvisit t [0] (by simpa using hzero)]
  exact congrArg _ (funext fun r => by cases r <;> rfl)

end Loops

/-! ## Messages -/

/-- An MKPDU: the basic parameter set, the CKN with its padding, and the other parameter sets. -/
structure Message where
  basic : BasicBody
  ckn : Bytes
  sets : List ParamSet

/-- The Ethernet and EAPOL headers of an MKPDU of `len` octets. -/
def frameHead (src : Octets 6) (len : ℕ) : Bytes :=
  paeGroupAddr.val ++ (src.val ++ (be16 ethPPae ++ ([eapolVersion, eapolTypeMka] ++
    be16 (UInt16.ofNat len))))

def icvHdr : Bytes := paramHdr mkaIcvIndicator 0 0 defaultIcvLen

namespace Message

variable (msg : Message)

/-- The basic parameter set of a message. -/
def basicSet : ParamSet where
  type := msg.basic.version
  second := msg.basic.priority
  high := msg.basic.high
  body := msg.basic.actorSci.octets ++ (msg.basic.actorMi.val ++ (be32 msg.basic.actorMn ++
    msg.basic.algoAgility.val)) ++ msg.ckn

def allSets : List ParamSet := msg.basicSet :: msg.sets

/-- The octets that follow the EAPOL header, with the ICV. -/
def length (msg : Message) : ℕ := (setsOctets msg.allSets).length + minSetLeft

def unsigned (src : Octets 6) : Bytes :=
  frameHead src msg.length ++ (setsOctets msg.allSets ++ icvHdr)

/-- The ICV indicator and the ICV. -/
def icvSet (crypto : Crypto) (ick : Octets 16) (src : Octets 6) : Bytes :=
  icvHdr ++ (crypto.icvHash ick (msg.unsigned src)).val

/-- The octets of a frame. -/
def frame (crypto : Crypto) (ick : Octets 16) (src : Octets 6) : Bytes :=
  frameHead src msg.length ++ (setsOctets msg.allSets ++ msg.icvSet crypto ick src)

/-- Every field fits, the parameter sets are of distinct types other than that of the ICV indicator,
and the length is a multiple of four. -/
structure Wf (msg : Message) : Prop where
  sets_wf : ∀ set ∈ msg.allSets, set.Wf
  not_icv : ∀ set ∈ msg.allSets, set.type ≠ mkaIcvIndicator
  not_zero : ∀ set ∈ msg.sets, set.type ≠ 0
  nodup : (msg.sets.map ParamSet.type).Nodup
  aligned : msg.length % 4 = 0
  length_lt : msg.length < 65536

variable (msg : Message) {crypto : Crypto} {ick : Octets 16} {src : Octets 6}

lemma length_basicSet_body : msg.basicSet.body.length = 28 + msg.ckn.length := by
  simp [basicSet]
  omega

lemma basicSet_octets :
    msg.basicSet.octets = msg.basic.octets (28 + msg.ckn.length) ++ msg.ckn := by
  rw [ParamSet.octets, length_basicSet_body]
  simp [basicSet, BasicBody.octets, append_assoc]

@[simp] lemma length_icvSet (crypto : Crypto) (ick : Octets 16) (src : Octets 6) :
    (msg.icvSet crypto ick src).length = 20 := by
  simp [icvSet, icvHdr]

@[simp] lemma length_frameHead (src : Octets 6) (len : ℕ) : (frameHead src len).length = 18 := by
  simp [frameHead]

lemma mkaOf_frame :
    mkaOf (msg.frame crypto ick src) = setsOctets msg.allSets ++ msg.icvSet crypto ick src := by
  exact drop_left' (length_frameHead src msg.length)

lemma ofOctets_mka :
    BasicBody.ofOctets (setsOctets msg.allSets ++ msg.icvSet crypto ick src) = msg.basic := by
  rw [allSets, setsOctets_cons, basicSet_octets]
  simp only [append_assoc]
  exact BasicBody.ofOctets_octets msg.basic _ _

lemma advance_mka (h : msg.Wf) : advance (setsOctets msg.allSets ++ msg.icvSet crypto ick src)
    (paramSetLen (setsOctets msg.allSets ++ msg.icvSet crypto ick src)) =
      .ok (setsOctets msg.sets ++ msg.icvSet crypto ick src) := by
  rw [allSets, setsOctets_cons, append_assoc,
    ParamSet.paramSetLen_octets _ (h.sets_wf _ (by simp [allSets])), advance_eq_ok]
  simp

lemma sets_wf (h : msg.Wf) : ∀ set ∈ msg.sets, set.Wf :=
  fun set hset => h.sets_wf set (mem_cons_of_mem msg.basicSet hset)

lemma dispatchSets_mka (h : msg.Wf) {τ : Type} (handler : τ → UInt8 → Bytes → Checked τ)
    (t : τ) : dispatchSets handler t (setsOctets msg.sets ++ msg.icvSet crypto ick src) =
      handleSets handler (msg.icvSet crypto ick src) t msg.sets >>= fun t' => .ok (t', true) :=
  dispatchSets_eq (msg.length_icvSet crypto ick src) handler t (msg.sets_wf h)
    (fun set hset => h.not_icv set (mem_cons_of_mem msg.basicSet hset)) h.not_zero h.nodup

/-- What a participant does with an MKPDU whose basic parameter set it accepts: the sender may
become a live peer, and then each parameter set is handled once, in order. -/
lemma decodeParamSets_mka (h : msg.Wf) (env : Env) (m : Mka) :
    decodeParamSets crypto env m (setsOctets msg.allSets ++ msg.icvSet crypto ick src) =
      acceptLivePeer env m (msg.sets.any fun set => set.lists m.self) >>= fun
        | none => .ok m
        | some m =>
          handleSets (bodyRx crypto env) (msg.icvSet crypto ick src) m msg.sets >>= fun m =>
            .ok { m with self.retryCount := 0 } := by
  have hlist := iInPeerlist_eq (msg.length_icvSet crypto ick src) env m.self (msg.sets_wf h)
  simp only [decodeParamSets, msg.advance_mka h, ok_bind, hlist, pure_eq_ok]
  congr 1
  funext r
  cases r with
  | none => rfl
  | some m =>
    simp only [msg.dispatchSets_mka h]
    cases handleSets (bodyRx crypto env) (msg.icvSet crypto ick src) m msg.sets <;> rfl

end Message

end Hostapd.Pae
