import Hostapd.Pae.ParamSets
import Hostapd.Pae.System

/-!
# Encoding and decoding agree

What `ieee802_1x_participant_send_mkpdu` sends is the frame of a message: `emittedSets` are the
parameter sets that the `body_tx` functions write, and `sentMessage` has them behind the basic
parameter set.  The length summed up before is the number of octets written, and a receiver with the
same CKN and ICK takes the frame and handles exactly the emitted parameter sets.
-/

namespace Hostapd.Pae

open Wire Checked Machine List

/-! ## What is emitted -/

variable (type : UInt8) (peers : List Peer)

/-- A peer list that is written. -/
def peerSet : ParamSet where
  type := type
  second := 0
  high := 0
  body := (peers.map fun peer => peer.peerId.octets).flatten

/-- The SAK use that is written. -/
def sakUseSet (env : Env) (k : Kay) (p : Participant) : ParamSet :=
  let b := if sakUseLength k p = mkaHdrLen then plainSakUseBody else sakUseBodyOf env k p
  { type := mkaSakUse
    second := b.second
    high := b.high
    body := if sakUseLength k p = mkaHdrLen then []
      else b.lki.octets ++ (be32 b.llpn ++ (b.oki.octets ++ be32 b.olpn)) }

variable (crypto : Crypto)

/-- The distributed SAK that is written. -/
def distSakSet (k : Kay) (p : Participant) (sak : DataKey) : ParamSet :=
  let b : DistSakBody := ⟨sak.an, sak.confidentialityOffset, sak.keyIdentifier.kn⟩
  if distSakLength k p = mkaHdrLen then ⟨mkaDistributedSak, 0, 0, []⟩
  else ⟨mkaDistributedSak, b.second, 0,
    be32 b.kn ++ (csIdOctets k ++ (crypto.aesWrap p.kek sak.key).val)⟩

def peerSets : List ParamSet :=
  if peers.isEmpty then [] else [peerSet type peers]

def sakUseSets (env : Env) (k : Kay) (p : Participant) : List ParamSet :=
  if p.toUseSak then [sakUseSet env k p] else []

def distSakSets (k : Kay) (p : Participant) : List ParamSet :=
  match p.newKey with
  | some sak => if p.toDistSak then [distSakSet crypto k p sak] else []
  | none => []

/-- The parameter sets between the basic parameter set and the ICV. -/
def emittedSets (env : Env) (k : Kay) (p : Participant) : List ParamSet :=
  peerSets mkaLivePeerList p.livePeers ++ (peerSets mkaPotentialPeerList p.potentialPeers ++
    (sakUseSets env k p ++ distSakSets crypto k p))

variable (p : Participant) {env : Env} {q : Participant} {ick : Octets 16} {src : Octets 6}

/-- The CKN of a participant as it is sent, filled up to a multiple of four octets. -/
def paddedCkn : Bytes :=
  p.ckn.octets ++ replicate (basicBodyLength p - (sizeofBasicBody + p.ckn.len)) 0

/-- The message that is sent. -/
def sentMessage (env : Env) (k : Kay) (p : Participant) : Message where
  basic := basicBodyOf k p (p.mn + 1)
  ckn := paddedCkn p
  sets := emittedSets crypto env k p

/-- A participant that can send: its peer lists fit into a body length of twelve bits, and a SAK
that it is to distribute is not freed. -/
structure CanSend (k : Kay) (p : Participant) : Prop where
  live_lt : p.livePeers.length < 256
  potential_lt : p.potentialPeers.length < 256
  alive : p.toDistSak → ∀ sak, p.newKey = some sak → k.KeyAlive sak

/-! ## Lengths -/

@[simp] lemma length_peerSet_body : (peerSet type peers).body.length = peers.length * 16 := by
  simp [peerSet, List.length_flatten, Function.comp_def, sizeofPeerId]

lemma peerLength_eq : peerLength peers = (peerSet type peers).octets.length := by
  simp only [peerLength, mkaAlignLength, ParamSet.length_octets, length_peerSet_body, mkaHdrLen,
    sizeofPeerId]
  omega

lemma sakUseLength_eq (env : Env) (k : Kay) (p : Participant) :
    sakUseLength k p = (sakUseSet env k p).octets.length := by
  by_cases h : (k.macsecDesired && p.advisedDesired)
  · simp [sakUseSet, sakUseLength, h, mkaAlignLength, mkaHdrLen, sizeofSakUseBody]
  · simp [sakUseSet, sakUseLength, h, mkaAlignLength, mkaHdrLen]

lemma csIdOctets_eq (k : Kay) : csIdOctets k = [] := by
  have h : k.macsecCsindex = defaultCsIndex := Subsingleton.elim (α := Fin 1) _ _
  simp [csIdOctets, h]

lemma distSakLength_eq (k : Kay) (p : Participant) (sak : DataKey) :
    distSakLength k p = (distSakSet crypto k p sak).octets.length := by
  cases h : p.advisedDesired <;>
    simp [distSakSet, distSakLength, h, mkaAlignLength, mkaHdrLen, sizeofDistSakBody, csIdOctets_eq]

lemma length_paddedCkn : (paddedCkn p).length = basicBodyLength p - sizeofBasicBody := by
  simp only [paddedCkn, length_append, MkaKeyName.length_octets, length_replicate,
    basicBodyLength, mkaAlignLength, sizeofBasicBody]
  omega

lemma basicBodyLength_ge : sizeofBasicBody + p.ckn.len ≤ basicBodyLength p := by
  simp only [basicBodyLength, mkaAlignLength]
  omega

/-! ## Writing -/

variable {buf : Wpabuf}

/-- The entries of a peer list are written. -/
lemma putPeers_eq (hroom : buf.octets.length + peers.length * 16 ≤ buf.size) :
    putPeers peers buf = .ok (buf.append (peers.map fun peer => peer.peerId.octets).flatten) := by
  induction peers generalizing buf with
  | nil => simp [putPeers]
  | cons peer peers ih =>
    have hlen : peer.peerId.octets.length = 16 := PeerId.length_octets _
    rw [length_cons] at hroom
    have hput : buf.put sizeofPeerId peer.peerId.octets = .ok (buf.append peer.peerId.octets) :=
      Wpabuf.put_full hlen (by omega)
    rw [putPeers, hput, ok_bind,
      ih (by simp only [Wpabuf.octets_append, length_append, Wpabuf.size_append]; omega)]
    simp

/-- A peer list is written. -/
lemma encodePeerBody_eq
    (hroom : buf.octets.length + (peerSet type peers).octets.length ≤ buf.size) :
    encodePeerBody type peers buf = .ok (buf.append (peerSet type peers).octets) := by
  have hlen : peerLength peers - mkaHdrLen = (peerSet type peers).body.length := by
    rw [peerLength_eq type, ParamSet.length_octets, mkaHdrLen]
    omega
  rw [ParamSet.length_octets, length_peerSet_body] at hroom
  rw [encodePeerBody, hlen, Wpabuf.put_full (by simp [mkaHdrLen]) (by simp; omega),
    ok_bind, putPeers_eq]
  · rw [Wpabuf.append_append]
    rfl
  · simp only [Wpabuf.octets_append, length_append, Wpabuf.size_append, length_paramHdr]
    omega

/-- The ICV is written. -/
lemma encodeIcvBody_eq (hroom : buf.octets.length + 20 ≤ buf.size) :
    encodeIcvBody crypto p buf = .ok (p, buf.append
      (icvHdr ++ (crypto.icvHash p.ick (buf.octets ++ icvHdr)).val)) := by
  have hicv : icvLength - mkaHdrLen = defaultIcvLen := rfl
  have hhdr : icvHdr.length = mkaHdrLen := rfl
  have hput : buf.put mkaHdrLen icvHdr = .ok (buf.append icvHdr) :=
    Wpabuf.put_full hhdr (by rw [hhdr, mkaHdrLen]; omega)
  have hput' : ∀ icv : Octets 16, (buf.append icvHdr).put defaultIcvLen icv.val =
      .ok ((buf.append icvHdr).append icv.val) := by
    intro icv
    refine Wpabuf.put_full icv.length_eq ?_
    simp only [Wpabuf.octets_append, length_append, hhdr, icv.length_eq, mkaHdrLen,
      Wpabuf.size_append]
    omega
  rw [encodeIcvBody, if_neg (by decide), hicv, ← icvHdr, hput, ok_bind, hput',
    ok_bind, Wpabuf.append_append]
  rfl

/-! ## Handlers -/

/-- A handler appends octets to a buffer that has room for them, and leaves a participant. -/
def BodyTxHandler.Writes (h : BodyTxHandler) (crypto : Crypto) (env : Env) (k : Kay)
    (p p' : Participant) (octets : Bytes) : Prop :=
  ∀ (hs : List BodyTxHandler) (buf : Wpabuf), buf.octets.length + octets.length ≤ buf.size →
    encodeBodies crypto env k (h :: hs) p buf = encodeBodies crypto env k hs p' (buf.append octets)

/-- A handler writes its set if it is present. -/
lemma BodyTxHandler.writes_ite {h : BodyTxHandler} {crypto : Crypto} {k : Kay}
    {p p' : Participant} {octets : Bytes}
    (hpresent : h.bodyPresent p → ∀ buf : Wpabuf,
      buf.octets.length + octets.length ≤ buf.size →
        h.bodyTx crypto env k p buf = .ok (p', buf.append octets))
    (habsent : h.bodyPresent p = false → p' = p ∧ octets = []) :
    h.Writes crypto env k p p' octets := by
  intro hs buf hroom
  rw [encodeBodies]
  cases hp : h.bodyPresent p with
  | true => rw [if_pos rfl, hpresent hp buf hroom, ok_bind]
  | false =>
    obtain ⟨rfl, rfl⟩ := habsent hp
    rw [if_neg (by decide), Wpabuf.append_nil]

variable (crypto : Crypto) (env : Env) (k : Kay) (p : Participant)

lemma length_basicSet_octets :
    (sentMessage crypto env k p).basicSet.octets.length = basicBodyLength p := by
  have hge := basicBodyLength_ge p
  rw [ParamSet.length_octets, Message.length_basicSet_body]
  simp only [sentMessage, length_paddedCkn, sizeofBasicBody] at hge ⊢
  omega

/-- What the handler of the basic parameter set writes. -/
lemma basicBodyHandler_writes : basicBodyHandler.Writes crypto env k p { p with mn := p.mn + 1 }
    (sentMessage crypto env k p).basicSet.octets := by
  refine BodyTxHandler.writes_ite (fun _ buf hroom => ?_)
    (fun hp => by simp [basicBodyHandler] at hp)
  rw [length_basicSet_octets] at hroom
  have hge := basicBodyLength_ge p
  have hlen : basicBodyLength p - mkaHdrLen = 28 + (sentMessage crypto env k p).ckn.length := by
    simp only [sentMessage, length_paddedCkn, sizeofBasicBody, mkaHdrLen] at hge ⊢
    omega
  have hput : buf.put (basicBodyLength p)
      ((basicBodyOf k p (p.mn + 1)).octets (basicBodyLength p - mkaHdrLen) ++ p.ckn.octets) =
        .ok (buf.append (sentMessage crypto env k p).basicSet.octets) := by
    rw [Wpabuf.put, if_pos ⟨by simpa using hge, hroom⟩, Message.basicSet_octets, ← hlen]
    simp [Wpabuf.append, sentMessage, paddedCkn, append_assoc]
  simp only [basicBodyHandler, encodeBasicBody, hput, ok_bind, pure_eq_ok]

/-- What the handlers of peer lists write. -/
lemma peerHandler_writes {h : BodyTxHandler} {type : UInt8} {peers : List Peer}
    (hpresent : h.bodyPresent p = !peers.isEmpty)
    (htx : ∀ buf, h.bodyTx crypto env k p buf =
      encodePeerBody type peers buf >>= fun buf => .ok (p, buf)) :
    h.Writes crypto env k p p (setsOctets (peerSets type peers)) := by
  refine BodyTxHandler.writes_ite (fun hp buf hroom => ?_) (fun hp => ?_)
  · have hempty : peers.isEmpty = false := by simpa [hpresent] using hp
    simp only [peerSets, hempty, Bool.false_eq_true, if_false, setsOctets_cons, setsOctets_nil,
      append_nil] at hroom ⊢
    rw [htx, encodePeerBody_eq _ _ hroom, ok_bind]
  · have hempty : peers.isEmpty := by simpa [hpresent] using hp
    simp [peerSets, hempty]

/-- What the handler of the SAK use writes. -/
lemma sakUseHandler_writes : sakUseHandler.Writes crypto env k p
    { p with newSak := p.newSak || reportsExhaustion env k p }
    (setsOctets (sakUseSets env k p)) := by
  refine BodyTxHandler.writes_ite (fun hp buf hroom => ?_) (fun hp => ?_)
  · have hu : p.toUseSak := hp
    have hset : setsOctets (sakUseSets env k p) = (sakUseSet env k p).octets := by
      simp [sakUseSets, hu]
    have hlen := sakUseLength_eq env k p
    rw [hset] at hroom ⊢
    simp only [sakUseHandler, encodeSakUseBody]
    by_cases h : sakUseLength k p = mkaHdrLen
    · have hoctets : (sakUseSet env k p).octets = plainSakUseBody.hdr 0 := by
        simp [sakUseSet, h, ParamSet.octets, SakUseBody.hdr]
      have hexh : reportsExhaustion env k p = false := by simp [reportsExhaustion, h]
      rw [hoctets] at hlen hroom ⊢
      simp only [if_pos h, Wpabuf.put_full hlen.symm hroom, ok_bind, pure_eq_ok, hexh,
        Bool.or_false]
    have hoctets : (sakUseSet env k p).octets =
        (sakUseBodyOf env k p).octets (sakUseLength k p - mkaHdrLen) := by
      rw [hlen, ParamSet.length_octets, mkaHdrLen, Nat.add_sub_cancel_left]
      simp [sakUseSet, h, ParamSet.octets, SakUseBody.octets, SakUseBody.hdr]
    have hexh : reportsExhaustion env k p =
        (decide (getLpn env p p.lki > k.pnExhaustion) && p.isKeyServer) := by
      simp [reportsExhaustion, hu, h]
    rw [hoctets] at hroom ⊢
    rw [hoctets] at hlen
    simp only [if_neg h, Wpabuf.put_full hlen.symm hroom, ok_bind, pure_eq_ok, hexh]
  · have hu : p.toUseSak = false := hp
    have hexh : reportsExhaustion env k p = false := by
      simp only [reportsExhaustion, hu, Bool.false_and]
    rw [hexh, Bool.or_false]
    exact ⟨rfl, by simp [sakUseSets, hu]⟩

/-- What the handler of the distributed SAK writes. -/
lemma distSakHandler_writes (halive : p.toDistSak → ∀ sak, p.newKey = some sak → k.KeyAlive sak) :
    distSakHandler.Writes crypto env k p p (setsOctets (distSakSets crypto k p)) := by
  refine BodyTxHandler.writes_ite (fun hp buf hroom => ?_) (fun hp => ?_)
  · obtain ⟨htd, hkey⟩ : p.toDistSak ∧ p.newKey.isSome := by
      simpa [distSakHandler] using hp
    obtain ⟨sak, hsak⟩ := Option.isSome_iff_exists.mp hkey
    simp only [distSakSets, hsak, htd, if_true, setsOctets_cons, setsOctets_nil, append_nil]
      at hroom ⊢
    have hlen := distSakLength_eq crypto k p sak
    by_cases h : distSakLength k p = mkaHdrLen
    · have hset : (distSakSet crypto k p sak).octets = paramHdr mkaDistributedSak 0 0 0 := by
        simp [distSakSet, h, ParamSet.octets]
      rw [hset] at hlen hroom ⊢
      simp only [distSakHandler, encodeDistSakBody, if_pos h, Wpabuf.put_full hlen.symm hroom,
        ok_bind, pure_eq_ok]
    have hset : (distSakSet crypto k p sak).octets =
        DistSakBody.octets ⟨sak.an, sak.confidentialityOffset, sak.keyIdentifier.kn⟩
          (distSakLength k p - mkaHdrLen) ++
            (csIdOctets k ++ (crypto.aesWrap p.kek sak.key).val) := by
      rw [hlen, ParamSet.length_octets, mkaHdrLen, Nat.add_sub_cancel_left]
      simp [distSakSet, h, ParamSet.octets, DistSakBody.octets]
    rw [hset] at hlen hroom ⊢
    simp only [distSakHandler, encodeDistSakBody, if_neg h, hsak, if_pos (halive htd sak hsak),
      Wpabuf.put_full hlen.symm hroom, ok_bind, pure_eq_ok]
  · refine ⟨rfl, ?_⟩
    cases hsak : p.newKey with
    | none => simp [distSakSets, hsak]
    | some sak =>
      have htd : p.toDistSak = false := by simpa [distSakHandler, hsak] using hp
      simp [distSakSets, hsak, htd]

/-! ## The frame -/

variable (crypto : Crypto) (env : Env) (k : Kay) (p : Participant) {set : ParamSet}
  {sets : List ParamSet}

lemma length_distSakSets : (setsOctets (distSakSets crypto k p)).length =
    if p.toDistSak && p.newKey.isSome then distSakLength k p else 0 := by
  cases hkey : p.newKey with
  | none => simp [distSakSets, hkey]
  | some sak =>
    have hlen := distSakLength_eq crypto k p sak
    cases htd : p.toDistSak <;> simp [distSakSets, hkey, htd, hlen]

/-- The octets of all sets of a message. -/
lemma setsOctets_sentMessage : setsOctets (sentMessage crypto env k p).allSets =
    (sentMessage crypto env k p).basicSet.octets ++
      (setsOctets (peerSets mkaLivePeerList p.livePeers) ++
        (setsOctets (peerSets mkaPotentialPeerList p.potentialPeers) ++
          (setsOctets (sakUseSets env k p) ++ setsOctets (distSakSets crypto k p)))) := by
  have hsets : (sentMessage crypto env k p).sets = emittedSets crypto env k p := rfl
  rw [Message.allSets, setsOctets_cons, hsets, emittedSets, setsOctets_append, setsOctets_append,
    setsOctets_append]

/-- The length that is summed up is that of the frame. -/
lemma mkpduLength_eq : mkpduLength k p = 18 + (sentMessage crypto env k p).length := by
  have hbasic := length_basicSet_octets crypto env k p
  have hlive := peerLength_eq mkaLivePeerList p.livePeers
  have hpot := peerLength_eq mkaPotentialPeerList p.potentialPeers
  have huse := sakUseLength_eq env k p
  have hdist := length_distSakSets crypto k p
  rw [Message.length, setsOctets_sentMessage]
  simp only [length_append, hdist, hbasic]
  cases hl : p.livePeers.isEmpty <;> cases hp : p.potentialPeers.isEmpty <;>
    cases hu : p.toUseSak <;> cases hd : (p.toDistSak && p.newKey.isSome) <;>
    simp [mkpduLength, mkaBodyTxHandlers, basicBodyHandler, livePeerHandler, potentialPeerHandler,
      sakUseHandler, distSakHandler, icvHandler, peerSets, sakUseSets, hl, hp, hu, hd,
      ← hlive, ← hpot, ← huse, sizeofEthHdr, sizeofEapolHdr, icvLength, mkaAlignLength,
      minSetLeft, mkaHdrLen, defaultIcvLen] <;>
    omega

/-- The loop over the handlers writes the parameter sets of the message and the ICV. -/
lemma encodeBodies_eq (h : CanSend k p) {buf : Wpabuf}
    (hroom : buf.octets.length + (sentMessage crypto env k p).length ≤ buf.size) :
    encodeBodies crypto env k mkaBodyTxHandlers p buf =
      .ok (afterSending env k p, buf.append (setsOctets (sentMessage crypto env k p).allSets ++
        (icvHdr ++ (crypto.icvHash p.ick (buf.octets ++
          (setsOctets (sentMessage crypto env k p).allSets ++ icvHdr))).val))) := by
  -- what the first handlers do to the participant leaves all that the later ones read
  obtain ⟨p₁, h0, h1, h2, h3⟩ : ∃ p₁ : Participant,
      basicBodyHandler.Writes crypto env k p p₁ (sentMessage crypto env k p).basicSet.octets ∧
      livePeerHandler.Writes crypto env k p₁ p₁
        (setsOctets (peerSets mkaLivePeerList p.livePeers)) ∧
      potentialPeerHandler.Writes crypto env k p₁ p₁
        (setsOctets (peerSets mkaPotentialPeerList p.potentialPeers)) ∧
      sakUseHandler.Writes crypto env k p₁ (afterSending env k p)
        (setsOctets (sakUseSets env k p)) :=
    ⟨{ p with mn := p.mn + 1 }, basicBodyHandler_writes crypto env k p,
      peerHandler_writes crypto env k { p with mn := p.mn + 1 } rfl fun _ => rfl,
      peerHandler_writes crypto env k { p with mn := p.mn + 1 } rfl fun _ => rfl,
      sakUseHandler_writes crypto env k { p with mn := p.mn + 1 }⟩
  have h4 : distSakHandler.Writes crypto env k (afterSending env k p) (afterSending env k p)
      (setsOctets (distSakSets crypto k p)) :=
    distSakHandler_writes crypto env k (afterSending env k p) h.alive
  have h5 : ∀ buf : Wpabuf, buf.octets.length + 20 ≤ buf.size →
      encodeBodies crypto env k [icvHandler] (afterSending env k p) buf =
        .ok (afterSending env k p,
          buf.append (icvHdr ++ (crypto.icvHash p.ick (buf.octets ++ icvHdr)).val)) := by
    intro buf hroom
    have hicv := encodeIcvBody_eq crypto (afterSending env k p) hroom
    simp only [encodeBodies, icvHandler, if_true, hicv, ok_bind]
    rfl
  rw [Message.length] at hroom
  rw [setsOctets_sentMessage] at hroom ⊢
  simp only [length_append, minSetLeft, mkaHdrLen, defaultIcvLen] at hroom
  rw [mkaBodyTxHandlers, h0 _ _ (by omega), h1, h2, h3, h4, h5]
  · simp only [Wpabuf.append_append, Wpabuf.octets_append, append_assoc]
  all_goals
    simp only [Wpabuf.octets_append, length_append, Wpabuf.size_append]
    omega

/-- Encoding fills the buffer with the frame of the message. -/
lemma encodeMkpdu_eq (h : CanSend k p) :
    encodeMkpdu crypto env k p ⟨mkpduLength k p, []⟩ = .ok (afterSending env k p,
      ⟨mkpduLength k p, (sentMessage crypto env k p).frame crypto p.ick k.actorSci.addr⟩) := by
  have hlen := mkpduLength_eq crypto env k p
  generalize hmsg : sentMessage crypto env k p = msg at hlen
  have heth : (paeGroupAddr.val ++ (k.actorSci.addr.val ++ be16 ethPPae)).length =
      sizeofEthHdr := by
    simp [sizeofEthHdr]
  have heapol : ([eapolVersion, eapolTypeMka] ++ be16 (.ofNat msg.length)).length =
      sizeofEapolHdr := by
    simp [sizeofEapolHdr]
  have hleft : mkpduLength k p - (sizeofEthHdr + sizeofEapolHdr) = msg.length := by
    simp only [hlen, sizeofEthHdr, sizeofEapolHdr]
    omega
  rw [encodeMkpdu, Wpabuf.put_full heth]
  · rw [ok_bind]
    simp only [Wpabuf.size_append, Wpabuf.octets_append, nil_append, heth, hleft]
    rw [Wpabuf.put_full heapol, ok_bind, encodeBodies_eq crypto env k p h, hmsg]
    · simp [Wpabuf.append, Message.frame, Message.icvSet, Message.unsigned, frameHead, append_assoc]
    · simp only [Wpabuf.octets_append, Wpabuf.size_append, nil_append, hmsg]
      rw [length_append, heth, heapol, hlen, sizeofEthHdr, sizeofEapolHdr]
    · simp only [Wpabuf.octets_append, Wpabuf.size_append, nil_append]
      rw [heth, heapol, hlen, sizeofEthHdr, sizeofEapolHdr]
      omega
  · simp only [heth, hlen, sizeofEthHdr, length_nil]
    omega

/-- The types of the emitted sets are distinct and in order. -/
lemma map_type_emittedSets_sublist : ((emittedSets crypto env k p).map ParamSet.type).Sublist
    [mkaLivePeerList, mkaPotentialPeerList, mkaSakUse, mkaDistributedSak] := by
  have hpeers : ∀ (type : UInt8) (peers : List Peer),
      ((peerSets type peers).map ParamSet.type).Sublist [type] := by
    intro type peers
    cases h : peers.isEmpty <;> simp [peerSets, h, peerSet]
  have huse : ((sakUseSets env k p).map ParamSet.type).Sublist [mkaSakUse] := by
    cases h : p.toUseSak <;> simp [sakUseSets, h, sakUseSet]
  have hdist : ((distSakSets crypto k p).map ParamSet.type).Sublist [mkaDistributedSak] := by
    rw [distSakSets]
    cases p.newKey with
    | none => simp
    | some sak =>
      by_cases hd : distSakLength k p = mkaHdrLen <;> cases p.toDistSak <;> simp [distSakSet, hd]
  simp only [emittedSets, map_append]
  exact (hpeers _ _).append ((hpeers _ _).append (huse.append hdist))

lemma peerSet_wf {peers : List Peer} (h : peers.length < 256) :
    (peerSet type peers).Wf ∧ (peerSet type peers).body.length % 4 = 0 := by
  have hlen := length_peerSet_body type peers
  exact ⟨⟨by simp [peerSet], by omega⟩, by omega⟩

/-- The emitted sets are well formed. -/
lemma emittedSets_wf (h : CanSend k p) (hset : set ∈ emittedSets crypto env k p) :
    set.Wf ∧ set.body.length % 4 = 0 := by
  simp only [emittedSets, peerSets, sakUseSets, mem_append, mem_ite_nil_left,
    mem_ite_nil_right, mem_singleton] at hset
  rcases hset with ⟨-, rfl⟩ | ⟨-, rfl⟩ | ⟨-, rfl⟩ | hset
  · exact peerSet_wf _ h.live_lt
  · exact peerSet_wf _ h.potential_lt
  · by_cases h : sakUseLength k p = mkaHdrLen <;>
      refine ⟨⟨?_, ?_⟩, ?_⟩ <;> simp [sakUseSet, h, SakUseBody.high_lt]
  rw [distSakSets] at hset
  split at hset
  · obtain ⟨-, hset⟩ := mem_ite_nil_right.mp hset
    rw [mem_singleton.mp hset]
    by_cases h : distSakLength k p = mkaHdrLen <;>
      refine ⟨⟨?_, ?_⟩, ?_⟩ <;> simp [distSakSet, h, csIdOctets_eq]
  · cases hset

lemma length_setsOctets (h : ∀ set ∈ sets, set.Wf ∧ set.body.length % 4 = 0) :
    (setsOctets sets).length ≤ sets.length * 4099 ∧ (setsOctets sets).length % 4 = 0 := by
  induction sets with
  | nil => simp
  | cons set sets ih =>
    obtain ⟨hwf, hmod⟩ := h set (by simp)
    have hlt := hwf.body_lt
    have hrest := ih fun set' hset' => h set' (mem_cons_of_mem set hset')
    simp only [setsOctets_cons, length_append, ParamSet.length_octets, length_cons]
    omega

/-- What is sent is a well-formed message. -/
lemma sentMessage_wf (h : CanSend k p) (hversion : k.mkaVersion ≠ mkaIcvIndicator) :
    (sentMessage crypto env k p).Wf := by
  have hckn : (paddedCkn p).length ≤ 32 ∧ (paddedCkn p).length % 4 = 0 := by
    have hlen := p.ckn.len_le
    simp only [length_paddedCkn, basicBodyLength, mkaAlignLength, sizeofBasicBody]
    omega
  have hbasic : (sentMessage crypto env k p).basicSet.Wf ∧
      (sentMessage crypto env k p).basicSet.body.length % 4 = 0 := by
    have hlen : (sentMessage crypto env k p).basicSet.body.length = 28 + (paddedCkn p).length :=
      Message.length_basicSet_body _
    exact ⟨⟨BasicBody.high_lt _, by omega⟩, by omega⟩
  have hall : ∀ set ∈ (sentMessage crypto env k p).allSets, set.Wf ∧ set.body.length % 4 = 0 := by
    intro set hset
    rcases mem_cons.mp hset with rfl | hset
    · exact hbasic
    · exact emittedSets_wf crypto env k p h hset
  have hsub := map_type_emittedSets_sublist crypto env k p
  have hcount : (sentMessage crypto env k p).allSets.length ≤ 5 := by
    have hle := hsub.length_le
    simp only [length_map, length_cons, length_nil] at hle
    exact Nat.succ_le_succ hle
  have htypes : ∀ set ∈ (sentMessage crypto env k p).sets,
      set.type ≠ mkaIcvIndicator ∧ set.type ≠ 0 := by
    intro set hset
    have htype := hsub.subset (mem_map_of_mem hset)
    simp only [mem_cons, not_mem_nil, or_false] at htype
    rcases htype with htype | htype | htype | htype <;> rw [htype] <;> decide
  obtain ⟨hlong, haligned⟩ := length_setsOctets hall
  refine ⟨fun set hset => (hall set hset).1, ?_, fun set hset => (htypes set hset).2,
    hsub.nodup (by decide), ?_, ?_⟩
  · intro set hset
    rcases mem_cons.mp hset with rfl | hset
    · exact hversion
    · exact (htypes set hset).1
  · simp only [Message.length, minSetLeft, mkaHdrLen, defaultIcvLen]
    omega
  · simp only [Message.length, minSetLeft, mkaHdrLen, defaultIcvLen]
    omega

/-! ## The receiver -/

/-- What a participant does with an MKPDU that has these parameter sets behind the basic one. -/
def receiveSets (env : Env) (m : Mka) (basic : BasicBody) (sets : List ParamSet) (tail : Bytes) :
    Checked Mka :=
  let r := decodeBasicBody env m basic
  if r.2 then
    acceptLivePeer env r.1 (sets.any fun set => set.lists r.1.self) >>= fun
      | none => .ok r.1
      | some m => handleSets (bodyRx crypto env) tail m sets >>= fun m =>
        .ok { m with self.retryCount := 0 }
  else .ok r.1

lemma Message.decodeMkpduFor_mka (msg : Message) {crypto : Crypto} (h : msg.Wf) (env : Env)
    (m : Mka) :
    decodeMkpduFor crypto env m (setsOctets msg.allSets ++ msg.icvSet crypto ick src) =
      receiveSets crypto env m msg.basic msg.sets (msg.icvSet crypto ick src) := by
  simp only [decodeMkpduFor, msg.ofOctets_mka, msg.decodeParamSets_mka h]
  rfl

end Hostapd.Pae
