import Hostapd.Pae.Kay
import Hostapd.Utils.Wpabuf

/-!
# Sending MKPDUs

The transmit column of `mka_body_handler` in `ieee802_1x_kay.c`: for each parameter set whether it
is present, its length and the function that writes it, and on top of them
`ieee802_1x_kay_encode_mkpdu` and `ieee802_1x_participant_send_mkpdu`.

The frame is written into a `struct wpabuf` of the length that the length functions announce for the
parameter sets; writing past it is a fault.
-/

namespace Hostapd.Pae

open Wire Checked

def mkaAlignLength (len : ℕ) : ℕ := (len + 3) / 4 * 4

/-! ## Lengths -/

def basicBodyLength (p : Participant) : ℕ := mkaAlignLength (sizeofBasicBody + p.ckn.len)

/-- `ieee802_1x_mka_get_live_peer_length` and `ieee802_1x_mka_get_potential_peer_length`. -/
def peerLength (peers : List Peer) : ℕ := mkaAlignLength (mkaHdrLen + peers.length * sizeofPeerId)

variable (k : Kay) (p : Participant)

def sakUseLength : ℕ :=
  mkaAlignLength (if k.macsecDesired && p.advisedDesired then sizeofSakUseBody else mkaHdrLen)

/-- The octets of a cipher suite identifier in a distributed SAK: none for the default suite. -/
def csIdOctets : Bytes :=
  if k.macsecCsindex = defaultCsIndex then [] else be64 (cipherSuiteTbl.get k.macsecCsindex).id

/-- `ieee802_1x_mka_get_dist_sak_length`; every entry of `cipher_suite_tbl` has a SAK of 16
octets. -/
def distSakLength : ℕ :=
  mkaAlignLength
    (if p.advisedDesired then sizeofDistSakBody + (csIdOctets k).length + (16 + 8) else mkaHdrLen)

def icvLength : ℕ := mkaAlignLength (mkaHdrLen + defaultIcvLen)

/-! ## Bodies -/

/-- The basic parameter set of the next MKPDU, with the message number `mn`. -/
def basicBodyOf (mn : UInt32) : BasicBody where
  version := k.mkaVersion
  priority := k.actorPriority
  keyServer := if p.isElected then p.isKeyServer else p.canBeKeyServer
  macsecDesired := k.macsecDesired
  macsecCapability := k.macsecCapable
  actorSci := k.actorSci
  actorMi := p.mi
  actorMn := mn
  algoAgility := k.algoAgility

/-- `ieee802_1x_mka_encode_basic_body`: the message number is increased. -/
def encodeBasicBody (buf : Wpabuf) : Checked (Participant × Wpabuf) := do
  let length := basicBodyLength p
  let mn := p.mn + 1
  let buf ← buf.put length ((basicBodyOf k p mn).octets (length - mkaHdrLen) ++ p.ckn.octets)
  return ({ p with mn := mn }, buf)

def Peer.peerId (peer : Peer) : PeerId := ⟨peer.mi, peer.mn⟩

/-- The loop of `ieee802_1x_mka_encode_live_peer_body` and
`ieee802_1x_mka_encode_potential_peer_body`. -/
def putPeers : List Peer → Wpabuf → Checked Wpabuf
  | [], buf => .ok buf
  | peer :: peers, buf => buf.put sizeofPeerId peer.peerId.octets >>= putPeers peers

/-- What `ieee802_1x_mka_encode_live_peer_body` and `ieee802_1x_mka_encode_potential_peer_body` do
with a type and a list of peers. -/
def encodePeerBody (type : UInt8) (peers : List Peer) (buf : Wpabuf) : Checked Wpabuf := do
  let buf ← buf.put mkaHdrLen (paramHdr type 0 0 (peerLength peers - mkaHdrLen))
  putPeers peers buf

def encodeLivePeerBody (buf : Wpabuf) : Checked (Participant × Wpabuf) := do
  let buf ← encodePeerBody mkaLivePeerList p.livePeers buf
  return (p, buf)

def encodePotentialPeerBody (buf : Wpabuf) : Checked (Participant × Wpabuf) := do
  let buf ← encodePeerBody mkaPotentialPeerList p.potentialPeers buf
  return (p, buf)

variable (env : Env)

/-- The packet number that `ieee802_1x_mka_get_lpn` takes from one receive SC: that of its first
receive SA with the key. -/
def receiveScLpn (ki : Ki) (rxsc : ReceiveSc) : Option UInt32 :=
  (rxsc.saList.find? fun sa => isKiEqual sa.pkey.keyIdentifier ki).map fun sa =>
    env.lowestPn rxsc.sci sa.an

/-- The lowest packet number in use. -/
def getLpn (p : Participant) (ki : Ki) : UInt32 :=
  let lpn := (p.rxscList.filterMap (receiveScLpn env ki)).foldl max 0
  if lpn = 0 then 1 else lpn

/-- The SAK use parameter set that is sent without a body. -/
def plainSakUseBody : SakUseBody where
  lan := 0
  ltx := false
  lrx := false
  oan := 0
  otx := false
  orx := false
  ptx := true
  prx := true
  delayProtect := false
  lki := Ki.zero
  llpn := 0
  oki := Ki.zero
  olpn := 0

/-- The SAK use parameter set that is sent with a body; the old key is reported when it is another
one than the latest. -/
def sakUseBodyOf (k : Kay) (p : Participant) : SakUseBody :=
  let old := p.oki.kn != p.lki.kn && p.oki.kn != 0
  { lan := p.lan
    ltx := p.ltx
    lrx := p.lrx
    oan := p.oan
    otx := old
    orx := old
    ptx := !k.conf.macsecProtect
    prx := !(k.conf.macsecValidate == .strict)
    delayProtect := k.conf.macsecReplayProtect
    lki := p.lki
    llpn := getLpn env p p.lki
    oki := if old then p.oki else Ki.zero
    olpn := getLpn env p p.oki }

/-- `ieee802_1x_mka_encode_sak_use_body`: a key server whose own packet numbers run out asks itself
for a new SAK. -/
def encodeSakUseBody (k : Kay) (p : Participant) (buf : Wpabuf) :
    Checked (Participant × Wpabuf) := do
  let length := sakUseLength k p
  if length = mkaHdrLen then
    let buf ← buf.put length (plainSakUseBody.hdr 0)
    return (p, buf)
  else
    let buf ← buf.put length ((sakUseBodyOf env k p).octets (length - mkaHdrLen))
    let exhausted := getLpn env p p.lki > k.pnExhaustion
    return ({ p with newSak := p.newSak || (exhausted && p.isKeyServer) }, buf)

variable (crypto : Crypto)

/-- `ieee802_1x_mka_encode_dist_sak_body`; the SAK is read through `new_key`, which holds no
reference to it. -/
def encodeDistSakBody (k : Kay) (p : Participant) (buf : Wpabuf) :
    Checked (Participant × Wpabuf) := do
  let length := distSakLength k p
  if length = mkaHdrLen then
    let buf ← buf.put length (paramHdr mkaDistributedSak 0 0 0)
    return (p, buf)
  else
    match p.newKey with
    | none => .error .nullPointer
    | some sak =>
      if k.KeyAlive sak then
        let body : DistSakBody := ⟨sak.an, sak.confidentialityOffset, sak.keyIdentifier.kn⟩
        let buf ← buf.put length (body.octets (length - mkaHdrLen) ++
          (csIdOctets k ++ (crypto.aesWrap p.kek sak.key).val))
        return (p, buf)
      else .error .useAfterFree

/-- `ieee802_1x_mka_encode_icv_body`: as the length is not `DEFAULT_ICV_LEN`, an ICV indicator
precedes the ICV. -/
def encodeIcvBody (p : Participant) (buf : Wpabuf) : Checked (Participant × Wpabuf) := do
  if icvLength = defaultIcvLen then
    let buf ← buf.put icvLength (crypto.icvHash p.ick buf.octets).val
    return (p, buf)
  else
    let buf ← buf.put mkaHdrLen (paramHdr mkaIcvIndicator 0 0 (icvLength - mkaHdrLen))
    let buf ← buf.put (icvLength - mkaHdrLen) (crypto.icvHash p.ick buf.octets).val
    return (p, buf)

/-! ## MKPDUs -/

/-- The transmit functions of an entry of `mka_body_handler`. -/
structure BodyTxHandler where
  bodyPresent : Participant → Bool
  bodyLength : Kay → Participant → ℕ
  bodyTx : Crypto → Env → Kay → Participant → Wpabuf → Checked (Participant × Wpabuf)

/-- The entry of `mka_body_handler` for the basic parameter set. -/
def basicBodyHandler : BodyTxHandler where
  bodyPresent _ := true
  bodyLength _ p := basicBodyLength p
  bodyTx _ _ k p buf := encodeBasicBody k p buf

/-- The entry of `mka_body_handler` for the live peer list. -/
def livePeerHandler : BodyTxHandler where
  bodyPresent p := !p.livePeers.isEmpty
  bodyLength _ p := peerLength p.livePeers
  bodyTx _ _ _ p buf := encodeLivePeerBody p buf

/-- The entry of `mka_body_handler` for the potential peer list. -/
def potentialPeerHandler : BodyTxHandler where
  bodyPresent p := !p.potentialPeers.isEmpty
  bodyLength _ p := peerLength p.potentialPeers
  bodyTx _ _ _ p buf := encodePotentialPeerBody p buf

/-- The entry of `mka_body_handler` for the SAK use. -/
def sakUseHandler : BodyTxHandler where
  bodyPresent p := p.toUseSak
  bodyLength k p := sakUseLength k p
  bodyTx _ env k p buf := encodeSakUseBody env k p buf

/-- The entry of `mka_body_handler` for the distributed SAK. -/
def distSakHandler : BodyTxHandler where
  bodyPresent p := p.toDistSak && p.newKey.isSome
  bodyLength k p := distSakLength k p
  bodyTx crypto _ k p buf := encodeDistSakBody crypto k p buf

/-- The entry of `mka_body_handler` for the ICV. -/
def icvHandler : BodyTxHandler where
  bodyPresent _ := true
  bodyLength _ _ := icvLength
  bodyTx crypto _ _ p buf := encodeIcvBody crypto p buf

/-- The entries of `mka_body_handler` that have transmit functions, in the order of the table. -/
def mkaBodyTxHandlers : List BodyTxHandler :=
  [basicBodyHandler, livePeerHandler, potentialPeerHandler, sakUseHandler, distSakHandler,
    icvHandler]

/-- The loop of `ieee802_1x_kay_encode_mkpdu` over the handlers. -/
def encodeBodies (crypto : Crypto) (env : Env) (k : Kay) :
    List BodyTxHandler → Participant → Wpabuf → Checked (Participant × Wpabuf)
  | [], p, buf => .ok (p, buf)
  | h :: hs, p, buf =>
    if h.bodyPresent p then
      h.bodyTx crypto env k p buf >>= fun r => encodeBodies crypto env k hs r.1 r.2
    else encodeBodies crypto env k hs p buf

def paeGroupAddr : Octets 6 := ⟨[0x01, 0x80, 0xc2, 0x00, 0x00, 0x03], rfl⟩

/-- `ETH_P_EAPOL`, which is `ETH_P_PAE`. -/
def ethPPae : UInt16 := 0x888E

def eapolVersion : UInt8 := 3

/-- `IEEE802_1X_TYPE_EAPOL_MKA`. -/
def eapolTypeMka : UInt8 := 5

/-- `sizeof(struct ieee8023_hdr)`. -/
def sizeofEthHdr : ℕ := 14

/-- `sizeof(struct ieee802_1x_hdr)`. -/
def sizeofEapolHdr : ℕ := 4

/-- `ieee802_1x_kay_encode_mkpdu`. -/
def encodeMkpdu (env : Env) (k : Kay) (p : Participant) (buf : Wpabuf) :
    Checked (Participant × Wpabuf) := do
  let buf ← buf.put sizeofEthHdr (paeGroupAddr.val ++ (k.actorSci.addr.val ++ be16 ethPPae))
  let left := buf.size - (buf.octets.length + sizeofEapolHdr)
  let buf ← buf.put sizeofEapolHdr ([eapolVersion, eapolTypeMka] ++ be16 (UInt16.ofNat left))
  encodeBodies crypto env k mkaBodyTxHandlers p buf

/-- The length that `ieee802_1x_participant_send_mkpdu` sums up. -/
def mkpduLength : ℕ :=
  sizeofEapolHdr + sizeofEthHdr +
    ((mkaBodyTxHandlers.filter fun h => h.bodyPresent p).map fun h => h.bodyLength k p).sum

/-- `ieee802_1x_participant_send_mkpdu`. -/
def sendMkpdu (env : Env) (k : Kay) (p : Participant) : Checked (Kay × Participant) :=
  if env.alloc .mkpdu then do
    let (p', buf) ← encodeMkpdu crypto env k p ⟨mkpduLength k p, []⟩
    return (k.log (.sent buf.octets), p')
  else .ok (k, p)

/-! ## What sending does to the participant -/

/-- The SAK use parameter set shows a key server that its own packet numbers run out. -/
def reportsExhaustion (k : Kay) (p : Participant) : Bool :=
  p.toUseSak && decide (sakUseLength k p ≠ mkaHdrLen) &&
    (decide (getLpn env p p.lki > k.pnExhaustion) && p.isKeyServer)

/-- The participant after an MKPDU. -/
def afterSending (k : Kay) (p : Participant) : Participant :=
  { p with
    mn := p.mn + 1
    newSak := p.newSak || reportsExhaustion env k p }

variable {crypto : Crypto} {env : Env} {k : Kay} {p : Participant} {buf : Wpabuf}
  {r : Participant × Wpabuf}

lemma fst_of_bind {x : Checked Wpabuf} (h : (x >>= fun buf => pure (p, buf)) = .ok r) :
    r.1 = p := by
  obtain ⟨_, -, h⟩ := bind_eq_ok.mp h
  cases h
  rfl

lemma encodeSakUseBody_fst (huse : p.toUseSak) (h : encodeSakUseBody env k p buf = .ok r) :
    r.1 = { p with newSak := p.newSak || reportsExhaustion env k p } := by
  simp only [encodeSakUseBody] at h
  split_ifs at h with hlen
  · rw [fst_of_bind h]
    simp [reportsExhaustion, hlen]
  · rw [fst_of_bind h]
    simp only [reportsExhaustion, huse, hlen, ne_eq, not_false_eq_true, decide_true, Bool.true_and]

lemma encodeDistSakBody_fst (h : encodeDistSakBody crypto k p buf = .ok r) : r.1 = p := by
  simp only [encodeDistSakBody] at h
  split_ifs at h
  · exact fst_of_bind h
  split at h
  · cases h
  · split_ifs at h
    exact fst_of_bind h

lemma encodeIcvBody_fst (h : encodeIcvBody crypto p buf = .ok r) : r.1 = p := by
  rw [encodeIcvBody] at h
  split_ifs at h
  · exact fst_of_bind h
  · obtain ⟨_, -, h⟩ := bind_eq_ok.mp h
    exact fst_of_bind h

lemma encodeBodies_cons_fst {h : BodyTxHandler} {hs : List BodyTxHandler} (p' : Participant)
    (hpresent : ∀ r, h.bodyPresent p → h.bodyTx crypto env k p buf = .ok r → r.1 = p')
    (habsent : h.bodyPresent p = false → p' = p)
    (hr : encodeBodies crypto env k (h :: hs) p buf = .ok r) :
    ∃ buf', encodeBodies crypto env k hs p' buf' = .ok r := by
  rw [encodeBodies] at hr
  split_ifs at hr with hp
  · obtain ⟨r₁, hr₁, hrest⟩ := bind_eq_ok.mp hr
    exact ⟨r₁.2, hpresent r₁ hp hr₁ ▸ hrest⟩
  · exact ⟨buf, (habsent (by simpa using hp)).symm ▸ hr⟩

/-- Whatever an MKPDU is written to, the participant counts it, and a key server may ask itself for
a new SAK. -/
lemma encodeMkpdu_fst (h : encodeMkpdu crypto env k p buf = .ok r) :
    r.1 = afterSending env k p := by
  obtain ⟨_, -, h⟩ := bind_eq_ok.mp h
  obtain ⟨_, -, h⟩ := bind_eq_ok.mp h
  obtain ⟨_, h⟩ := encodeBodies_cons_fst { p with mn := p.mn + 1 }
    (fun _ _ hr => fst_of_bind hr) (fun hp => by simp [basicBodyHandler] at hp) h
  obtain ⟨_, h⟩ := encodeBodies_cons_fst _ (fun _ _ hr => fst_of_bind hr) (fun _ => rfl) h
  obtain ⟨_, h⟩ := encodeBodies_cons_fst _ (fun _ _ hr => fst_of_bind hr) (fun _ => rfl) h
  obtain ⟨_, h⟩ := encodeBodies_cons_fst (afterSending env k p)
    (fun _ hp hr => encodeSakUseBody_fst (p := { p with mn := p.mn + 1 }) hp hr)
    (fun hp => by
      have huse : p.toUseSak = false := hp
      simp only [afterSending, reportsExhaustion, huse, Bool.false_and, Bool.or_false]) h
  obtain ⟨_, h⟩ := encodeBodies_cons_fst _ (fun _ _ hr => encodeDistSakBody_fst hr) (fun _ => rfl) h
  obtain ⟨_, h⟩ := encodeBodies_cons_fst _ (fun _ _ hr => encodeIcvBody_fst hr) (fun _ => rfl) h
  cases h
  rfl

lemma sendMkpdu_cases {k' : Kay} {p' : Participant} (h : sendMkpdu crypto env k p = .ok (k', p')) :
    k' = k ∧ p' = p ∨ ∃ frame : Wpabuf, encodeMkpdu crypto env k p ⟨mkpduLength k p, []⟩ =
      .ok (afterSending env k p, frame) ∧ k' = k.log (.sent frame.octets) ∧
      p' = afterSending env k p := by
  rw [sendMkpdu] at h
  split_ifs at h
  · obtain ⟨r, hr, h⟩ := bind_eq_ok.mp h
    have hfst := encodeMkpdu_fst hr
    cases h
    exact .inr ⟨r.2, by rw [← hfst]; exact hr, rfl, hfst⟩
  · cases h
    exact .inl ⟨rfl, rfl⟩

end Hostapd.Pae
