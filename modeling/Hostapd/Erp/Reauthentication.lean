import Hostapd.Erp.PacketSafety
import Hostapd.Foundation.History
import Mathlib.Data.List.TakeWhile

/-!
# A re-authentication is fresh and both ends have its key

The server accepts the SEQ values of a key in increasing order, so that the rMSK of a SEQ is
delivered once.  The peer installs an rMSK only for an EAP-Finish/Re-auth that carries a tag under
the key it has looked up by the name in the packet; if no tag was forged, the server has calculated
it, and has derived its rMSK for the same key and the same SEQ.
-/

namespace Hostapd.Erp

open Wire Checked Machine FirstMatch List Option
open History (Justified justified_iff)

/-! ## The packet of the server as the peer reads it -/

lemma cString_octets (nai : KeyName) : cString nai.octets = nai.octets := by
  refine takeWhile_eq_self_iff.mpr fun x hx => decide_eq_true ?_
  rintro rfl
  exact nai.zero_notMem hx

lemma KeyName.ext_octets {a b : KeyName} (h : a.octets = b.octets) : a = b := by
  cases a
  cases b
  congr

/-- The key name in front is found. -/
lemma erpParseTlvs_keyname (nai : KeyName) (rest : Bytes) :
    erpParseTlvs (tlvKeynameNai :: UInt8.ofNat nai.octets.length :: (nai.octets ++ rest)) true =
      .ok (some ⟨some (nai.octets, rest.length), none⟩) := by
  have hlen : (UInt8.ofNat nai.octets.length).toNat = nai.octets.length := by
    have hle := nai.length_le
    rw [UInt8.toNat_ofNat']
    omega
  have hvisit : visitTlv true {}
      (tlvKeynameNai :: UInt8.ofNat nai.octets.length :: (nai.octets ++ rest)) =
        .ok (.inr (some ⟨some (nai.octets, rest.length), none⟩)) := by
    rw [visitTlv, octet_of_lt (by simp), ok_bind]
    simp only [getD_cons_zero]
    rw [if_neg (by decide), if_pos (by decide), if_neg (by simp), octet_of_lt (by simp), ok_bind]
    simp only [getD_cons_succ, getD_cons_zero, hlen]
    rw [if_neg (by simp), readAt_of_le (by simp; omega), ok_bind]
    simp [storeTlv]
  rw [erpParseTlvs, length_cons, walk_succ 0 tlvSize _ (by simp), hvisit, ok_bind]
  rfl

lemma drop_finishBody (id flags : UInt8) (seq : UInt16) (nai : Bytes) (cs : UInt8) (n : ℕ)
    (t : Bytes) :
    (finishBody id flags seq nai cs n ++ t).drop 6 =
      be16 seq ++ (tlvKeynameNai :: UInt8.ofNat nai.length :: (nai ++ (cs :: t))) := by
  have htwo : ∀ x : UInt16, ∃ a b, be16 x = [a, b] := fun x => ⟨_, _, rfl⟩
  obtain ⟨a, b, hab⟩ := htwo (.ofNat (5 + (5 + nai.length + (1 + n))))
  rw [finishBody, reauthBody, hab]
  simp only [cons_append, nil_append, append_assoc, drop_succ_cons, drop_zero]

variable {packet msg nai : Bytes} {s s' : System} {c : Crypto} {f : ServerKey → ServerKey}
  {seq : UInt16}

lemma four_le_of_eapPacket (h : eapPacket msg = some packet) : 4 ≤ msg.length := by
  rw [eapPacket] at h
  split_ifs at h
  · rename_i hlen
    rw [not_or] at hlen
    exact Nat.le_of_not_lt hlen.1

lemma headD_eapPacket (h : eapPacket msg = some packet) (hcode : msg.getD 0 0 = codeFinish) :
    packet.headD 0 = codeFinish ∨ packet = [] := by
  rw [eapPacket] at h
  split_ifs at h
  obtain rfl := some.inj h
  cases msg with
  | nil => exact .inr (by simp)
  | cons a l =>
    cases (ofBe16 (.drop 2 (a :: l))).toNat with
    | zero => exact .inr rfl
    | succ n => exact .inl hcode

/-! ## Invariant -/

/-- The SEQ values that were accepted for a key, the latest first. -/
def deliveredSeqs (nai : KeyName) (log : List Entry) : List UInt16 :=
  log.filterMap fun
    | .delivered nai' seq _ => if nai' = nai then some seq else none
    | .installed .. => none

/-- Every rMSK that the peer has installed is one that the server had delivered before, for the same
key and SEQ. -/
def Agreed (log : List Entry) : Prop :=
  ∀ later earlier nai seq rmsk, log = later ++ .installed nai seq rmsk :: earlier →
    .delivered nai seq rmsk ∈ earlier

/-- An rMSK that the peer installs was delivered by the server before. -/
def DeliveredBefore (entry : Entry) (earlier : List Entry) : Prop :=
  ∀ nai seq rmsk, entry = .installed nai seq rmsk → .delivered nai seq rmsk ∈ earlier

/-- What a key of the server is known by, and what is derived from it. -/
def ServerKey.ident (key : ServerKey) : KeyName × Bytes × Bytes :=
  (key.nai, key.rRK, key.rIK)

def PeerKey.ident (key : PeerKey) : KeyName × Bytes × Bytes := (key.nai, key.rRK, key.rIK)

/-- The octets were authenticated by the peer as an EAP-Initiate, or by the server for a SEQ that it
has accepted. -/
def Signed (c : Crypto) (s : System) (rIK body : Bytes) : Prop :=
  body.headD 0 = codeInitiate ∨
    ∃ nai rRK, (nai, rRK, rIK) ∈ s.serverKeys.map ServerKey.ident ∧
      ∃ id seq cs n, body = finishBody id 0 seq nai.octets cs n ∧
        .delivered nai seq (rMSK c rRK seq) ∈ s.log

/-- The peer and the server have the same key under the same name. -/
def SharedKeys (s : System) : Prop :=
  ∀ kp ∈ s.peer.keys, ∀ ks ∈ s.serverKeys, kp.nai = ks.nai → kp.rRK = ks.rRK ∧ kp.rIK = ks.rIK

/-- What holds whatever the network does. -/
structure Fresh (s : System) : Prop where
  increasing : ∀ nai, (deliveredSeqs nai s.log).Pairwise (fun later earlier => earlier < later)
  bounded : ∀ key, s.serverKeys.find? (ServerKey.named key.nai.octets) = some key →
    ∀ seq ∈ deliveredSeqs key.nai s.log, ∃ last, key.recvSeq = some last ∧ seq ≤ last

/-- What holds while no tag is forged. -/
structure Authentic (c : Crypto) (s : System) : Prop where
  shared : SharedKeys s
  signed : ∀ x ∈ s.signed, Signed c s x.1 x.2
  agreed : Justified DeliveredBefore s.log

/-- No tag of a packet that is given to the peer is forged: the octets before it were authenticated
with the same key. -/
def NoForgery (c : Crypto) (s : System) : Event → Prop
  | .toPeer msg => ∀ packet, eapPacket msg = some packet → ∀ key ∈ s.peer.keys,
      tagMatches c key.rIK packet 16 = .ok true →
        (key.rIK, packet.take (packet.length - 16)) ∈ s.signed
  | _ => True

/-! ## Freshness -/

lemma find?_updateKey_of_ne (hf : ∀ k, (f k).nai = k.nai) {nai' : Bytes} (hne : nai ≠ nai')
    (keys : List ServerKey) :
    (updateFirst (ServerKey.named nai) f keys).find? (ServerKey.named nai') =
      keys.find? (ServerKey.named nai') := by
  refine find?_updateFirst_of_disjoint (fun a ha => ?_) keys
  have hother : ¬ ServerKey.named nai' a := fun hb =>
    hne ((of_decide_eq_true ha).symm.trans (of_decide_eq_true hb))
  exact ⟨hother, by rw [ServerKey.named, hf]; exact hother⟩

/-- A key changes, but not its name and SEQ. -/
lemma Fresh.updateKey (h : Fresh s) (hf : ∀ k, (f k).nai = k.nai ∧ (f k).recvSeq = k.recvSeq) :
    Fresh { s with serverKeys := updateFirst (ServerKey.named nai) f s.serverKeys } := by
  refine ⟨h.increasing, ?_⟩
  intro key hkey seq hseq
  by_cases hname : nai = key.nai.octets
  · subst hname
    rw [find?_updateFirst_self fun a ha => by rw [ServerKey.named, (hf a).1]; exact ha] at hkey
    obtain ⟨k, hk, rfl⟩ := map_eq_some_iff.mp hkey
    rw [(hf k).1] at hk hseq
    rw [(hf k).2]
    exact h.bounded k hk seq hseq
  · rw [find?_updateKey_of_ne (fun k => (hf k).1) hname] at hkey
    exact h.bounded key hkey seq hseq

/-- Accepting a larger SEQ keeps the order. -/
lemma Fresh.accept (h : Fresh s) {key : ServerKey} (cs : UInt8) (rmsk : Bytes)
    (signed : List (Bytes × Bytes))
    (hkey : s.serverKeys.find? (ServerKey.named key.nai.octets) = some key)
    (hseq : ∀ last, key.recvSeq = some last → last < seq) :
    Fresh { s with
      serverKeys := updateFirst (ServerKey.named key.nai.octets)
        (fun k => { k with cryptosuite := cs, recvSeq := some seq }) s.serverKeys
      signed := signed
      log := .delivered key.nai seq rmsk :: s.log } := by
  have hbelow : ∀ seq' ∈ deliveredSeqs key.nai s.log, seq' < seq := by
    intro seq' hmem
    obtain ⟨last, hlast, hle⟩ := h.bounded key hkey seq' hmem
    exact UInt16.lt_of_le_of_lt hle (hseq last hlast)
  have hsame : deliveredSeqs key.nai (.delivered key.nai seq rmsk :: s.log) =
      seq :: deliveredSeqs key.nai s.log := by
    simp [deliveredSeqs]
  have hother : ∀ nai, nai ≠ key.nai →
      deliveredSeqs nai (.delivered key.nai seq rmsk :: s.log) = deliveredSeqs nai s.log := by
    intro nai hne
    simp [deliveredSeqs, hne.symm]
  constructor
  · intro nai
    by_cases hnai : nai = key.nai
    · subst hnai
      rw [hsame]
      exact pairwise_cons.mpr ⟨hbelow, h.increasing key.nai⟩
    · rw [hother nai hnai]
      exact h.increasing nai
  intro key' hkey' seq' hmem
  by_cases hnai : key'.nai = key.nai
  · have hfound := find?_updateFirst_self (p := ServerKey.named key.nai.octets)
      (f := fun k => { k with cryptosuite := cs, recvSeq := some seq }) (fun a ha => ha)
      s.serverKeys
    rw [hnai, hfound, hkey] at hkey'
    obtain rfl := some.inj hkey'
    rw [hsame] at hmem
    refine ⟨seq, rfl, ?_⟩
    rcases mem_cons.mp hmem with rfl | hmem
    · exact UInt16.le_refl _
    · exact UInt16.le_of_lt (hbelow seq' hmem)
  · have hne : key.nai.octets ≠ key'.nai.octets := fun heq => hnai (KeyName.ext_octets heq.symm)
    rw [find?_updateKey_of_ne ?_ hne] at hkey'
    · rw [hother key'.nai hnai] at hmem
      exact h.bounded key' hkey' seq' hmem
    · exact fun _ => rfl

lemma Fresh.answered (h : Fresh s) {r : InitiateResult}
    (hr : AcceptedFrom c s.serverKeys packet r) (id : UInt8) : Fresh (s.answered c id r) := by
  cases r with
  | ignored => exact h
  | unknownKey packet => exact h
  | malformed key cs => exact h.updateKey fun k => ⟨rfl, rfl⟩
  | accepted key seq cs n =>
    obtain ⟨hkey, hseq, -⟩ := hr key seq cs n rfl
    exact h.accept cs _ _ hkey hseq

/-! ## Agreement -/

lemma sharedKeys_iff : SharedKeys s ↔ ∀ a ∈ s.peer.keys.map PeerKey.ident,
    ∀ b ∈ s.serverKeys.map ServerKey.ident, a.1 = b.1 → a.2 = b.2 := by
  simp [SharedKeys, PeerKey.ident, ServerKey.ident]

/-- What the two parties agree on stays when the history grows. -/
lemma Authentic.mono (h : Authentic c s)
    (hpeer : s'.peer.keys.map PeerKey.ident ⊆ s.peer.keys.map PeerKey.ident)
    (hserver : s'.serverKeys.map ServerKey.ident = s.serverKeys.map ServerKey.ident)
    (hsigned : ∀ x ∈ s'.signed, x ∈ s.signed ∨ Signed c s' x.1 x.2) (hlog : s.log ⊆ s'.log)
    (hagreed : Justified DeliveredBefore s'.log) : Authentic c s' := by
  refine ⟨sharedKeys_iff.mpr fun a ha b hb => ?_, fun x hx => ?_, hagreed⟩
  · exact sharedKeys_iff.mp h.shared a (hpeer ha) b (hserver ▸ hb)
  rcases hsigned x hx with hold | hnew
  · refine (h.signed x hold).imp id ?_
    rintro ⟨nai, rRK, hkey, id, seq, cs, n, hbody, hmem⟩
    exact ⟨nai, rRK, hserver ▸ hkey, id, seq, cs, n, hbody, hlog hmem⟩
  · exact hnew

/-- The answer of the server keeps what the parties agree on. -/
lemma Authentic.answered (h : Authentic c s) {r : InitiateResult}
    (hr : AcceptedFrom c s.serverKeys packet r) (id : UInt8) : Authentic c (s.answered c id r) := by
  cases r with
  | ignored => exact h
  | unknownKey packet => exact h
  | malformed key cs =>
    refine h.mono (.refl _) (map_updateFirst (fun _ _ => ?_) _) (fun _ => .inl) (.refl _) h.agreed
    rfl
  | accepted key seq cs n =>
    have hserver : (s.answered c id (.accepted key seq cs n)).serverKeys.map ServerKey.ident =
        s.serverKeys.map ServerKey.ident := by
      refine map_updateFirst (fun _ _ => ?_) _
      rfl
    refine h.mono (.refl _) hserver (fun x hx => ?_) (subset_cons_self _ _) ⟨nofun, h.agreed⟩
    rcases mem_cons.mp hx with rfl | hold
    · have hkey : key.ident ∈ s.serverKeys.map ServerKey.ident :=
        mem_map_of_mem (mem_of_find?_eq_some (hr key seq cs n rfl).1)
      exact .inr (.inr ⟨key.nai, key.rRK, hserver ▸ hkey, id, seq, cs, n, rfl, mem_cons_self⟩)
    · exact .inl hold

/-- The peer starts a re-authentication. -/
lemma Authentic.started (h : Authentic c s) {id : UInt8} {r : Option (Peer × PeerKey × UInt16)}
    (hr : r = none ∨ r = eapPeerErpReauthStart s.peer) : Authentic c (s.started id r) := by
  match r, hr with
  | none, _ => exact h
  | some (peer, key, seq), hr =>
    have hstart : eapPeerErpReauthStart s.peer = some (peer, key, seq) :=
      (hr.resolve_left nofun).symm
    have hpeer : peer.keys.map PeerKey.ident = s.peer.keys.map PeerKey.ident := by
      simp only [eapPeerErpReauthStart, bind_eq_bind, bind_eq_some_iff] at hstart
      obtain ⟨realm, -, found, -, hrest⟩ := hstart
      split_ifs at hrest
      · obtain ⟨rfl, -⟩ := Prod.mk.inj (some.inj hrest)
        refine map_updateFirst (fun _ _ => ?_) _
        rfl
    refine h.mono (hpeer ▸ .refl _) rfl (fun x hx => ?_) (.refl _) h.agreed
    rcases mem_cons.mp hx with rfl | hold
    · exact .inr (.inl rfl)
    · exact .inl hold

/-- The packet that makes the peer install a key is the server's, for the same key and SEQ. -/
lemma Authentic.delivered (h : Authentic c s) (hcode : packet.headD 0 = codeFinish ∨ packet = [])
    {key : PeerKey} (hr : SucceededBy c s.peer packet (.succeeded key seq))
    (hforgery : tagMatches c key.rIK packet 16 = .ok true →
      (key.rIK, packet.take (packet.length - 16)) ∈ s.signed) :
    .delivered key.nai seq (rMSK c key.rRK seq) ∈ s.log := by
  obtain ⟨hkey, -, hseq, htag, keyname, after, domain, hparsed, hname⟩ := hr key seq rfl
  have hsplit := (take_append_drop (packet.length - 16) packet).symm
  generalize packet.drop (packet.length - 16) = t at hsplit
  rcases h.signed _ (hforgery htag) with hinitiate | ⟨nai, rRK, hks, id, seq', cs, n, hbody, hmem⟩
  · -- A packet that the peer has authenticated is no EAP-Finish.
    have hhead : (packet.take (packet.length - 16)).headD 0 = codeFinish := by
      cases htake : packet.take (packet.length - 16) with
      | nil =>
        rw [htake] at hinitiate
        cases hinitiate
      | cons a l =>
        rw [hsplit, htake] at hcode
        rcases hcode with hcode | hnil
        · exact hcode
        · cases hnil
    exact absurd (hhead.symm.trans hinitiate) (by decide)
  rw [show packet.take _ = _ from hbody] at hsplit
  have hdrop := drop_finishBody id 0 seq' nai.octets cs n t
  rw [← hsplit] at hdrop
  have hseq' : seq = seq' := by
    rw [hseq, hdrop, take_left' (length_be16 seq'), ← append_nil (be16 seq'), ofBe16_be16]
  have htlvs : packet.drop 8 = tlvKeynameNai :: UInt8.ofNat nai.octets.length ::
      (nai.octets ++ (cs :: t)) := by
    rw [show 8 = 6 + 2 from rfl, ← drop_drop, hdrop, drop_left' (length_be16 seq')]
  rw [htlvs, erpParseTlvs_keyname] at hparsed
  have hkeyname : nai.octets = keyname := by
    have heq := some.inj (Except.ok.inj hparsed)
    rw [ErpTlvs.mk.injEq, some.injEq, Prod.mk.injEq] at heq
    exact heq.1.1
  have hnai : key.nai = nai := by
    apply KeyName.ext_octets
    rw [← hname, ← hkeyname, cString_octets]
  have hkeys := sharedKeys_iff.mp h.shared key.ident (mem_map_of_mem hkey) _ hks hnai
  rw [hnai, show key.rRK = rRK from congrArg Prod.fst hkeys, hseq']
  exact hmem

/-- The peer finishes one with a tag that was not forged. -/
lemma Authentic.finished (h : Authentic c s) {r : FinishResult}
    (hpacket : eapPacket msg = some packet) (hcode : msg.getD 0 0 = codeFinish)
    (hr : SucceededBy c s.peer packet r) (hforgery : NoForgery c s (.toPeer msg)) :
    Authentic c (s.finished c r) := by
  cases r with
  | ignored => exact h
  | failed key =>
    exact h.mono (map_subset _ eraseP_subset) rfl (fun _ => .inl) (.refl _) h.agreed
  | succeeded key seq =>
    refine h.mono (.refl _) rfl (fun _ => .inl) (subset_cons_self _ _) ⟨?_, h.agreed⟩
    rintro nai seq' rmsk hentry
    cases hentry
    refine h.delivered (headD_eapPacket hpacket hcode) hr ?_
    exact hforgery packet hpacket key (hr key seq rfl).1

/-! ## Steps -/

/-- An event never faults and keeps the SEQ values in order; without a forged tag it keeps what the
two parties agree on. -/
lemma step_safe (c : Crypto) (s : System) (e : Event) : ∃ s', step c s e = .ok s' ∧
    (Fresh s → Fresh s') ∧ (NoForgery c s e → Authentic c s → Authentic c s') := by
  cases e with
  | initialise realm =>
    exact ⟨_, rfl, fun h => ⟨h.increasing, h.bounded⟩, fun _ h =>
      h.mono (.refl _) rfl (fun _ => .inl) (.refl _) h.agreed⟩
  | toServer msg =>
    rw [step, System.toServer]
    cases hpacket : eapPacket msg with
    | none => exact ⟨s, rfl, id, fun _ => id⟩
    | some packet =>
      have hfour : 4 ≤ msg.length := four_le_of_eapPacket hpacket
      dsimp only
      rw [octet_of_lt (by omega), ok_bind, octet_of_lt (by omega), ok_bind]
      split
      · obtain ⟨r, hr, haccepted⟩ := initiateReceived_safe c s.serverKeys msg
        rw [hr, ok_bind]
        exact ⟨_, rfl, fun h => h.answered haccepted _, fun _ h => h.answered haccepted _⟩
      · exact ⟨s, rfl, id, fun _ => id⟩
  | toPeer msg =>
    rw [step, System.toPeer]
    cases hpacket : eapPacket msg with
    | none => exact ⟨s, rfl, id, fun _ => id⟩
    | some packet =>
      have hfour : 4 ≤ msg.length := four_le_of_eapPacket hpacket
      dsimp only
      rw [octet_of_lt (by omega), ok_bind, octet_of_lt (by omega), ok_bind]
      split_ifs with _ hcode
      · obtain ⟨r, hr, hstarted⟩ := eapPeerInitiate_safe s.peer packet
        rw [hr, ok_bind]
        refine ⟨_, rfl, fun h => ?_, fun _ h => h.started hstarted⟩
        cases r <;> exact ⟨h.increasing, h.bounded⟩
      · obtain ⟨r, hr, hsucceeded⟩ := eapPeerFinish_safe c s.peer packet
        rw [hr, ok_bind]
        refine ⟨_, rfl, fun h => ?_, fun hforgery h => h.finished hpacket hcode hsucceeded hforgery⟩
        cases r <;> exact ⟨h.increasing, h.bounded⟩
      · exact ⟨s, rfl, id, fun _ => id⟩

/-- Runs in which the peer and the server have the same keys: no read leaves a packet, the SEQ
values of a key are accepted in increasing order, and while no tag is forged, every rMSK that the
peer installs was delivered by the server for the same key and SEQ. -/
theorem reauthentication_fresh_and_agreed (c : Crypto) (serverKeys : List ServerKey) (peer : Peer)
    (hshared : SharedKeys { serverKeys := serverKeys, peer := peer }) (events : List Event) :
    ∃ s, run (step c) { serverKeys := serverKeys, peer := peer } events = .ok s ∧
      (∀ nai, (deliveredSeqs nai s.log).Pairwise (fun later earlier => earlier < later)) ∧
      (Along (step c) (NoForgery c) { serverKeys := serverKeys, peer := peer } events →
        Agreed s.log) := by
  have hfresh : Fresh { serverKeys := serverKeys, peer := peer } :=
    ⟨fun _ => .nil, fun _ _ _ h => nomatch h⟩
  obtain ⟨s, hrun, hs⟩ := run_returns (fun s e h =>
    (step_safe c s e).imp fun s' hs' => ⟨hs'.1, hs'.2.1 h⟩) events hfresh
  refine ⟨s, hrun, hs.increasing, fun halong later earlier nai seq rmsk hlog => ?_⟩
  have hstep : ∀ s e s', Authentic c s → NoForgery c s e → step c s e = .ok s' →
      Authentic c s' := by
    intro s e s' h hforgery hstep
    obtain ⟨t, ht, -, hauthentic⟩ := step_safe c s e
    obtain rfl : s' = t := Except.ok.inj (hstep.symm.trans ht)
    exact hauthentic hforgery h
  have hinv := run_along_induction hstep ⟨hshared, nofun, trivial⟩ halong hrun
  exact justified_iff.mp hinv.agreed later _ earlier hlog nai seq rmsk rfl

/-- Whether a packet carries a forged tag can be decided. -/
instance NoForgery.decidable (c : Crypto) (s : System) : (e : Event) → Decidable (NoForgery c s e)
  | .toPeer msg =>
    match h : eapPacket msg with
    | none => isTrue fun _ hp => nomatch h.symm.trans hp
    | some packet =>
      decidable_of_iff (∀ key ∈ s.peer.keys, tagMatches c key.rIK packet 16 = .ok true →
          (key.rIK, packet.take (packet.length - 16)) ∈ s.signed)
        ⟨fun hall _ hp => some.inj (h.symm.trans hp) ▸ hall, fun hall => hall packet h⟩
  | .toServer _ => isTrue trivial
  | .initialise _ => isTrue trivial

/-- Hash functions that show their key. -/
def sampleCrypto : Crypto where
  hmacSha256 key data := .ofList 32 (key ++ data)
  hmacSha256Kdf key _ seed n := (key ++ seed).take n

/-- The name `a@b`. -/
def sampleName : KeyName := ⟨[97, 64, 98], by decide, by decide⟩

def sampleServerKey : ServerKey := { nai := sampleName, rRK := [1, 2, 3, 4], rIK := [5, 6] }

/-- A peer with one key. -/
def samplePeer : Peer :=
  { keys := [{ nai := sampleName, rRK := [1, 2, 3, 4], rIK := [5, 6] }], homeRealm := some [98] }

def sampleTagged (body : Bytes) : Bytes := body ++ tag sampleCrypto [5, 6] body 16

/-- The peer is asked to start, the server gets its packet twice, and the peer gets the answer. -/
def sampleEvents : List Event :=
  [.toPeer [codeInitiate, 9, 0, 6, typeReauthStart, 0],
    .toServer (sampleTagged (initiateBody 9 0 sampleName.octets)),
    .toServer (sampleTagged (initiateBody 9 0 sampleName.octets)),
    .toPeer (sampleTagged (finishBody 9 0 0 sampleName.octets csHmacSha256x128 16))]

/-- A re-authentication from start to end. -/
theorem reauthentication_of_sampleEvents :
    ∃ s, run (step sampleCrypto) { serverKeys := [sampleServerKey], peer := samplePeer }
        sampleEvents = .ok s ∧
      s.log = [.installed sampleName 0 [1, 2, 3, 4], .delivered sampleName 0 [1, 2, 3, 4]] ∧
      Agreed s.log := by
  have hshared : SharedKeys { serverKeys := [sampleServerKey], peer := samplePeer } := by
    intro kp hkp ks hks _
    obtain rfl := mem_singleton.mp hkp
    obtain rfl := mem_singleton.mp hks
    exact ⟨rfl, rfl⟩
  have halong : Along (step sampleCrypto) (NoForgery sampleCrypto)
      { serverKeys := [sampleServerKey], peer := samplePeer } sampleEvents := by decide +kernel
  refine exists_ok (by decide +kernel) fun s hrun _ => ?_
  obtain ⟨s', hrun', -, hagreed⟩ :=
    reauthentication_fresh_and_agreed sampleCrypto [sampleServerKey] samplePeer hshared sampleEvents
  obtain rfl : s' = s := Except.ok.inj (hrun'.symm.trans hrun)
  exact hagreed halong

end Hostapd.Erp
