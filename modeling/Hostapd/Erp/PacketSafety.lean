import Hostapd.Erp.Parties

/-!
# The parsers of re-authentication packets stay inside the packet

Whatever a packet is, `erp_parse_tlvs`, `INITIATE_RECEIVED`, `eap_peer_initiate` and
`eap_peer_finish` return. What indexes backwards from the end is safe because the key name that was
found before lies inside and there is room for a tag behind it. A SEQ that the server accepts is
above the last one of the key, and a packet by which a re-authentication succeeds carries a tag
under the key that it names.
-/

namespace Hostapd.Erp

open Wire Checked Machine List

/-! ## Reads stay inside -/

variable {rest : Bytes}

lemma octet_of_lt {off : ℕ} (h : off < rest.length) : octet rest off = .ok (rest.getD off 0) := by
  rw [octet, readAt_of_le h, ok_bind, drop_eq_getElem_cons h,
    getD_eq_getElem?_getD, getElem?_eq_getElem h]
  rfl

variable {maxLen n : ℕ} {packet l : Bytes} {key : ServerKey}

lemma octetBack_of_le (hpos : 0 < n) (h : n ≤ l.length) :
    octetBack l n = .ok (l.getD (l.length - n) 0) := by
  rw [octetBack, if_pos h, octet_of_lt (by omega)]

lemma dropBack_of_le (h : n ≤ l.length) : dropBack l n = .ok (l.take (l.length - n)) := if_pos h

variable (c : Crypto) {t : ErpTlvs}

lemma tagMatches_of_le (rIK : Bytes) (h : n ≤ packet.length) :
    tagMatches c rIK packet n = .ok (decide (packet.drop (packet.length - n) =
      tag c rIK (packet.take (packet.length - n)) n)) := by
  have hlen : (packet.take (packet.length - n)).length = packet.length - n := by
    rw [length_take]
    omega
  have htake : (packet.drop (packet.length - n)).take n = packet.drop (packet.length - n) :=
    take_of_length_le (by rw [length_drop]; omega)
  rw [tagMatches, dropBack_of_le h, ok_bind, readAt_of_le (by omega), ok_bind, hlen, htake]

/-- The key name that was found lies inside what is parsed. -/
def Fits (n : ℕ) (t : ErpTlvs) : Prop :=
  ∀ keyname after, t.keyname = some (keyname, after) → keyname.length + after ≤ n

def ResultFits (n : ℕ) : ErpTlvs ⊕ Option ErpTlvs → Prop
  | .inl t => Fits n t
  | .inr (some t) => Fits n t
  | .inr none => True

lemma storeTlv_fits {stop : Bool} {type : UInt8} {value : Bytes} {after : ℕ} (ht : Fits n t)
    (hvalue : value.length + after ≤ n) : ResultFits n (storeTlv stop t type value after) := by
  have hnew : Fits n { t with keyname := some (value, after) } := by
    intro keyname after' h
    cases h
    exact hvalue
  rw [storeTlv]
  split
  · split
    · trivial
    · split <;> exact hnew
  · split <;> exact ht

/-- One round of `erp_parse_tlvs` stays inside. -/
lemma visitTlv_safe (stop : Bool) (ht : Fits n t) (hpos : 0 < rest.length)
    (hn : rest.length ≤ n) :
    ∃ r, visitTlv stop t rest = .ok r ∧ ResultFits n r ∧
      ∀ t', r = .inl t' → tlvSize rest ≤ rest.length := by
  have hhead : rest.getD 0 0 = rest.headD 0 := by
    cases rest with
    | nil => cases hpos
    | cons a l => rfl
  rw [visitTlv, octet_of_lt hpos, ok_bind, hhead, tlvSize]
  by_cases htv : isTv (rest.headD 0)
  · rw [if_pos htv, if_pos htv]
    exact returns_guard ⟨trivial, nofun⟩ fun hshort => ⟨_, rfl, ht, fun _ _ => by omega⟩
  rw [if_neg htv, if_neg htv]
  by_cases htlv : isTlv (rest.headD 0)
  · rw [if_pos htlv, if_pos htlv]
    refine returns_guard ⟨trivial, nofun⟩ fun hone => ?_
    rw [octet_of_lt (by omega), ok_bind]
    refine returns_guard ⟨trivial, nofun⟩ fun hlen => ?_
    rw [readAt_of_le (by omega), ok_bind]
    have hvalue : ((rest.drop 2).take (rest.getD 1 0).toNat).length +
        (rest.length - 2 - (rest.getD 1 0).toNat) ≤ n := by
      rw [length_take, length_drop]
      omega
    exact ⟨_, rfl, storeTlv_fits ht hvalue, fun _ _ => by omega⟩
  · rw [if_neg htlv, if_neg htlv]
    exact ⟨_, rfl, ht, fun _ _ => le_refl _⟩

/-- The loop over the attributes stays inside. -/
lemma walkTlvs_safe (stop : Bool) (fuel : ℕ) (t : ErpTlvs) (rest : Bytes) (ht : Fits n t)
    (hn : rest.length ≤ n) :
    ∃ r, walk 0 tlvSize (visitTlv stop) fuel t rest = .ok r ∧ ResultFits n r := by
  induction fuel generalizing t rest with
  | zero => exact ⟨_, rfl, ht⟩
  | succ fuel ih =>
    by_cases hpos : 0 < rest.length
    · obtain ⟨r, hr, hfits, hsize⟩ := visitTlv_safe stop ht hpos hn
      rw [walk_succ 0 tlvSize (visitTlv stop) hpos, hr, ok_bind]
      cases r with
      | inr r => exact ⟨_, rfl, hfits⟩
      | inl t' =>
        have hadvance : advance rest (tlvSize rest) = .ok (rest.drop (tlvSize rest)) :=
          advance_eq_ok.mpr ⟨hsize t' rfl, rfl⟩
        dsimp only
        rw [hadvance, ok_bind]
        refine ih t' _ hfits ?_
        rw [length_drop]
        omega
    · rw [walk_of_le 0 tlvSize (visitTlv stop) (Nat.le_of_not_lt hpos)]
      exact ⟨_, rfl, ht⟩

/-- `erp_parse_tlvs` returns for every packet, and a key name that it finds lies inside. -/
lemma erpParseTlvs_safe (rest : Bytes) (stop : Bool) :
    ∃ r, erpParseTlvs rest stop = .ok r ∧ ∀ t, r = some t → Fits rest.length t := by
  obtain ⟨r, hr, hfits⟩ := walkTlvs_safe stop rest.length {} rest nofun (le_refl _)
  rw [erpParseTlvs, hr, ok_bind]
  cases r with
  | inl t => exact ⟨_, rfl, fun t' h => Option.some.inj h ▸ hfits⟩
  | inr r =>
    refine ⟨_, rfl, ?_⟩
    rintro t' rfl
    exact hfits

/-! ## The server -/

lemma tagOf_safe (rIK packet : Bytes) (cryptosuite : UInt8) (h : n + 1 ≤ packet.length) :
    ∃ ok, tagOf c rIK packet cryptosuite n = .ok ok ∧
      (ok → tagMatches c rIK packet n = .ok true) := by
  have htag := tagMatches_of_le c rIK (show n ≤ packet.length by omega)
  rw [tagOf, octetBack_of_le (Nat.succ_pos n) h, ok_bind]
  split
  · exact ⟨_, htag, fun hok => hok ▸ htag⟩
  · exact ⟨_, rfl, nofun⟩

/-- The tag that the server checks lies in the packet. -/
lemma serverTag_safe (key : ServerKey) (hroom : 1 + minTagLen key ≤ maxLen)
    (hlen : maxLen ≤ packet.length) :
    ∃ r, serverTag c key packet maxLen = .ok r ∧
      ∀ hashLen cryptosuite, r = some (hashLen, cryptosuite) →
        1 + hashLen ≤ maxLen ∧ tagMatches c key.rIK packet hashLen = .ok true := by
  rw [serverTag]
  rw [minTagLen] at hroom
  have hpick : ∀ (b : Bool) (n : ℕ) (cs : UInt8), 1 + n ≤ maxLen →
      (b → tagMatches c key.rIK packet n = .ok true) →
      ∀ hashLen cryptosuite, (if b then some (n, cs) else none) = some (hashLen, cryptosuite) →
        1 + hashLen ≤ maxLen ∧ tagMatches c key.rIK packet hashLen = .ok true := by
    rintro b n cs hn hb hashLen cryptosuite h
    split at h <;> cases h
    exact ⟨hn, hb ‹_›⟩
  split
  · rename_i hlong
    rw [if_pos hlong] at hroom
    obtain ⟨ok, hok, htag⟩ := tagOf_safe c key.rIK packet csHmacSha256x256 (n := 32) (by omega)
    rw [hok, ok_bind]
    exact ⟨_, rfl, hpick ok 32 _ hroom htag⟩
  rename_i hlong
  rw [if_neg hlong] at hroom
  obtain ⟨short, hshort, htag⟩ := tagOf_safe c key.rIK packet csHmacSha256x128 (n := 16) (by omega)
  split
  · rw [hshort, ok_bind]
    exact ⟨_, rfl, hpick short 16 _ hroom htag⟩
  by_cases hmax : 1 + 32 ≤ maxLen
  · obtain ⟨long, hlong', htag'⟩ :=
      tagOf_safe c key.rIK packet csHmacSha256x256 (n := 32) (by omega)
    rw [if_pos hmax, hlong', ok_bind]
    cases long with
    | true =>
      refine ⟨_, rfl, ?_⟩
      rintro hashLen cryptosuite h
      cases h
      exact ⟨hmax, htag' rfl⟩
    | false =>
      dsimp only
      rw [if_neg Bool.false_ne_true, hshort, ok_bind]
      exact ⟨_, rfl, hpick short 16 _ hroom htag⟩
  · rw [if_neg hmax, ok_bind]
    dsimp only
    rw [if_neg Bool.false_ne_true, hshort, ok_bind]
    exact ⟨_, rfl, hpick short 16 _ hroom htag⟩

/-- What the server's key has to do with a packet that is accepted. -/
def AcceptedFrom (keys : List ServerKey) (packet : Bytes) (r : InitiateResult) : Prop :=
  ∀ key seq cryptosuite hashLen, r = .accepted key seq cryptosuite hashLen →
    keys.find? (ServerKey.named key.nai.octets) = some key ∧
      (∀ last, key.recvSeq = some last → last < seq) ∧
      tagMatches c key.rIK packet hashLen = .ok true

/-- The server reads inside and accepts only with a right tag. -/
lemma authenticateInitiate_safe {keys : List ServerKey} {tlvs : Bytes} {seq : UInt16}
    (hkey : keys.find? (ServerKey.named key.nai.octets) = some key) (htlvs : maxLen ≤ tlvs.length)
    (hpacket : tlvs.length ≤ packet.length) :
    ∃ r, authenticateInitiate c key packet tlvs seq maxLen = .ok r ∧
      AcceptedFrom c keys packet r := by
  refine returns_guard nofun fun hseq => returns_guard nofun fun hroom => ?_
  obtain ⟨r, hr, hhash⟩ := serverTag_safe c key (Nat.le_of_not_lt hroom) (htlvs.trans hpacket)
  rw [hr, ok_bind]
  cases r with
  | none => exact ⟨_, rfl, nofun⟩
  | some checked =>
    obtain ⟨hashLen, cryptosuite⟩ := checked
    obtain ⟨hfits, htag⟩ := hhash hashLen cryptosuite rfl
    obtain ⟨parsed, hparsed, -⟩ := erpParseTlvs_safe (tlvs.take (tlvs.length - (1 + hashLen))) false
    dsimp only
    rw [dropBack_of_le (hfits.trans htlvs), ok_bind, hparsed, ok_bind]
    refine ⟨_, rfl, ?_⟩
    intro key' seq' cs' hashLen' h
    split at h <;> cases h
    refine ⟨hkey, fun last hlast => ?_, htag⟩
    rw [hlast] at hseq
    simpa using hseq

/-- `INITIATE_RECEIVED` returns for every packet; what it accepts has a SEQ above the last one, and
a tag under the key. -/
lemma initiateReceived_safe (keys : List ServerKey) (msg : Bytes) :
    ∃ r, initiateReceived c keys msg = .ok r ∧
      AcceptedFrom c keys (msg.take (ofBe16 (msg.drop 2)).toNat) r := by
  rw [initiateReceived]
  cases hpayload : Eap.eapHdrValidate Eap.eapVendorIetf 2 msg with
  | none => exact ⟨_, rfl, nofun⟩
  | some payload =>
    obtain ⟨hhdr, hle⟩ := Eap.eapHdrValidate_bounds hpayload
    refine returns_guard nofun fun hfour => ?_
    have hadvance : advance payload 3 = .ok (payload.drop 3) :=
      advance_eq_ok.mpr ⟨by omega, rfl⟩
    obtain ⟨parsed, hparsed, hfits⟩ := erpParseTlvs_safe (payload.drop 3) true
    rw [readAt_of_le (by omega), ok_bind, hadvance, ok_bind,
      octet_of_lt (by omega), ok_bind, hparsed, ok_bind]
    rw [initiateParsed.eq_def]
    split
    · rename_i keyname after domain
      refine returns_guard nofun fun _ => ?_
      split
      · exact ⟨_, rfl, nofun⟩
      rename_i key hkey
      have hname : key.nai.octets = cString keyname :=
        of_decide_eq_true (@find?_some _ (ServerKey.named (cString keyname)) _ _ hkey)
      have hkn := hfits _ rfl keyname after rfl
      rw [← hname] at hkey
      refine authenticateInitiate_safe c hkey (by omega) ?_
      rw [length_drop]
      omega
    · exact ⟨_, rfl, nofun⟩

/-! ## The peer -/

/-- What the peer has to do with a packet by which a re-authentication succeeds: the SEQ is the one
that it waits for, and the key is one of its own. -/
def SucceededBy (peer : Peer) (packet : Bytes) (r : FinishResult) : Prop :=
  ∀ key seq, r = .succeeded key seq →
    key ∈ peer.keys ∧ peer.erpSeq = some (ofBe16 ((packet.drop 6).take 2)) ∧
      seq = ofBe16 ((packet.drop 6).take 2) ∧ tagMatches c key.rIK packet 16 = .ok true ∧
      ∃ keyname after domain,
        erpParseTlvs (packet.drop 8) true = .ok (some ⟨some (keyname, after), domain⟩) ∧
          cString keyname = key.nai.octets

/-- The second parse by the peer. -/
lemma finishAttributes_safe (key : PeerKey) (flags : UInt8) (seq : UInt16) (authTagOk : Bool)
    (attributes : Bytes) :
    ∃ r, finishAttributes key flags seq authTagOk attributes = .ok r ∧
      ∀ key' seq', r = .succeeded key' seq' → key' = key ∧ seq' = seq ∧ authTagOk := by
  obtain ⟨parsed, hparsed, -⟩ := erpParseTlvs_safe attributes false
  rw [finishAttributes, hparsed, ok_bind]
  refine ⟨_, rfl, ?_⟩
  intro key' seq' h
  split_ifs at h with _ hflags
  cases h
  refine ⟨rfl, rfl, ?_⟩
  cases authTagOk with
  | true => rfl
  | false => exact absurd (.inr rfl) hflags

/-- The peer reads inside and accepts only with a right tag. -/
lemma authenticateFinish_safe (key : PeerKey) (packet tlvs : Bytes) (flags : UInt8)
    (seq : UInt16) (maxLen : ℕ) (htlvs : maxLen ≤ tlvs.length)
    (hpacket : tlvs.length ≤ packet.length) :
    ∃ r, authenticateFinish c key packet tlvs flags seq maxLen = .ok r ∧
      ∀ key' seq', r = .succeeded key' seq' →
        key' = key ∧ seq' = seq ∧ tagMatches c key.rIK packet 16 = .ok true := by
  rw [authenticateFinish]
  -- Without a tag the packet can only report a failure.
  have hnoTag : ∃ r, (if flags &&& 0x80 ≠ 0 then finishAttributes key flags seq false tlvs
      else (.ok .ignored : Checked FinishResult)) = .ok r ∧ ∀ key' seq', r = .succeeded key' seq' →
        key' = key ∧ seq' = seq ∧ tagMatches c key.rIK packet 16 = .ok true := by
    split
    · obtain ⟨r, hr, hsucceeded⟩ := finishAttributes_safe key flags seq false tlvs
      exact ⟨r, hr, fun key' seq' h => nomatch (hsucceeded key' seq' h).2.2⟩
    · exact ⟨_, rfl, nofun⟩
  split
  · exact hnoTag
  rw [octetBack_of_le (by omega) (by omega), ok_bind]
  split
  · exact hnoTag
  rw [tagMatches_of_le c key.rIK (n := 16) (by omega), ok_bind]
  split
  · rename_i htag
    rw [dropBack_of_le (by omega), ok_bind]
    obtain ⟨r, hr, hsucceeded⟩ := finishAttributes_safe key flags seq true
      (tlvs.take (tlvs.length - 17))
    refine ⟨r, hr, fun key' seq' h => ?_⟩
    obtain ⟨hkey, hseq, -⟩ := hsucceeded key' seq' h
    exact ⟨hkey, hseq, by rw [htag]⟩
  · exact ⟨_, rfl, nofun⟩

/-- `eap_peer_finish` returns for every packet; what it accepts carries a tag under the key that the
packet names. -/
lemma eapPeerFinish_safe (peer : Peer) (packet : Bytes) :
    ∃ r, eapPeerFinish c peer packet = .ok r ∧ SucceededBy c peer packet r := by
  have hsize : Eap.sizeofEapHdr = 4 := rfl
  refine returns_guard nofun fun _ => ?_
  rw [octet_of_lt (by omega), ok_bind]
  refine returns_guard nofun fun htype => ?_
  have height : 8 ≤ packet.length := by omega
  rw [octet_of_lt (by omega), ok_bind, readAt_of_le (by omega), ok_bind]
  refine returns_guard nofun fun hwaited => ?_
  have hadvance : advance packet 8 = .ok (packet.drop 8) := advance_eq_ok.mpr ⟨height, rfl⟩
  obtain ⟨parsed, hparsed, hfits⟩ := erpParseTlvs_safe (packet.drop 8) true
  rw [hadvance, ok_bind, hparsed, ok_bind, finishParsed.eq_def]
  split
  · rename_i keyname after domain
    refine returns_guard nofun fun _ => ?_
    split
    · exact ⟨_, rfl, nofun⟩
    rename_i key hkey
    have hname : key.nai.octets = cString keyname :=
      of_decide_eq_true (@find?_some _ (PeerKey.named (cString keyname)) _ _ hkey)
    have hkn := hfits _ rfl keyname after rfl
    have hrest : (packet.drop 8).length ≤ packet.length := by
      rw [length_drop]
      omega
    obtain ⟨r, hr, hsucceeded⟩ := authenticateFinish_safe c key packet (packet.drop 8)
      (packet.getD 5 0) (ofBe16 ((packet.drop 6).take 2)) after (by omega) hrest
    refine ⟨r, hr, fun key' seq' h => ?_⟩
    obtain ⟨rfl, hseq, htag⟩ := hsucceeded key' seq' h
    exact ⟨mem_of_find?_eq_some hkey, not_not.mp hwaited, hseq, htag, keyname, after, domain,
      hparsed, hname.symm⟩
  · exact ⟨_, rfl, nofun⟩

/-- The peer's answer to EAP-Initiate/Re-auth-Start. -/
lemma eapPeerInitiate_safe (peer : Peer) (packet : Bytes) :
    ∃ r, eapPeerInitiate peer packet = .ok r ∧ (r = none ∨ r = eapPeerErpReauthStart peer) := by
  have hsize : Eap.sizeofEapHdr = 4 := rfl
  rw [eapPeerInitiate, hsize]
  refine returns_guard (.inl rfl) fun _ => ?_
  rw [octet_of_lt (by omega), ok_bind]
  refine returns_guard (.inl rfl) fun htype => ?_
  have hsix : 6 ≤ packet.length := by
    omega
  have hadvance : advance packet (4 + 2) = .ok (packet.drop (4 + 2)) :=
    advance_eq_ok.mpr ⟨hsix, rfl⟩
  obtain ⟨parsed, hparsed, -⟩ := erpParseTlvs_safe (packet.drop (4 + 2)) false
  rw [hadvance, ok_bind, hparsed, ok_bind]
  refine ⟨_, rfl, ?_⟩
  split
  · exact .inr rfl
  · exact .inl rfl

end Hostapd.Erp
