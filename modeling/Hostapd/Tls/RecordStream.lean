import Hostapd.Tls.RecordDelivery

/-!
# Streams of records, and an adversary between the layers

`sendAll` is the stream a sender produces and `recordReader` the receiver as a reader of streams.

`step` is the system with an adversary: the sender sends, and the receiver is given any octets.
`Genuine` is the assumption that no message authentication code verifies for an input that the
sender did not calculate one for. The invariant `Inv` compares the inputs of the codes, and the
sequence number in them leaves only the next record.
-/

namespace Hostapd.Tls

open Wire Hostapd.Crypto Framing Machine List Nat

namespace RecordLayer

/-! ## The stream -/

/-- A call of `tlsv1_record_send`. -/
structure Send where
  contentType : UInt8
  payload : Bytes
  bufSize : ℕ
  random : Option Bytes := none

/-- The payloads a sender sends, with their content types, and the octets it produces.  A call that
fails sends nothing. -/
def sendAll (prims : Prims) : RecordLayer → List Send → List (UInt8 × Bytes) × Bytes
  | _, [] => ([], [])
  | rl, m :: ms =>
    match recordSend prims rl m.contentType m.bufSize m.random m.payload with
    | (rl', none) => sendAll prims rl' ms
    | (rl', some rec) =>
      ((m.contentType, m.payload) :: (sendAll prims rl' ms).1, rec ++ (sendAll prims rl' ms).2)

/-- The receiver as a reader of a stream, with the buffer its caller provides. -/
def recordReader (prims : Prims) (buffer : Bytes → Bytes) (rl : RecordLayer)
    (octets : Bytes) : Outcome RecordLayer (UInt8 × Bytes) RecordAlert :=
  match recordReceive prims rl octets (buffer octets) (buffer octets).length with
  | (_, .more, _) => .more
  | (rl', .failed alert, _) => .failed rl' alert
  | (rl', .record used outLen, out) => .item used rl' (octets.getD 0 0, out.take outLen)

variable {prims : Prims} {r rl s s' rl' : RecordLayer} {octets out payload out' : Bytes}
  {n outLen suite bufSize used : ℕ} {st st' : Session}

/-- The receiver expects the payloads of the stream. -/
lemma expects_sendAll (hciphers : prims.ciphers.Correct) (hhmac : prims.HmacLength)
    {buffer : Bytes → Bytes} (hbuffer : ∀ octets, octets.length ≤ (buffer octets).length)
    {sends : List Send}
    (hsends : ∀ m ∈ sends, knownContentType m.contentType ∧ m.payload.length ≤ maxPayload)
    (hsync : InSync s r) :
    Expects (recordReader prims buffer) r (sendAll prims s sends).2 (sendAll prims s sends).1 := by
  induction sends generalizing s r with
  | nil => exact .nil r
  | cons m ms ih =>
    have hrest : ∀ m' ∈ ms, knownContentType m'.contentType ∧ m'.payload.length ≤ maxPayload :=
      fun m' hm' => hsends m' (mem_cons_of_mem m hm')
    obtain ⟨hct, hlen⟩ := hsends m mem_cons_self
    rw [sendAll]
    rcases hsend : recordSend prims s m.contentType m.bufSize m.random m.payload with ⟨s', _ | rec⟩
    · cases sent_of_send hsend
      exact ih hrest hsync
    obtain ⟨r', hsync', hdel⟩ := recordReceive_of_send hciphers hhmac hsync hct hlen hsend
    have hne : rec ≠ [] := by
      rintro rfl
      exact absurd hdel.header (by decide)
    refine .cons hne (fun tail => ?_) (fun p _ hp hpne => ?_) (ih hrest hsync')
    · have hfirst : (rec ++ tail).getD 0 0 = m.contentType := by
        cases rec with
        | nil => exact absurd rfl hne
        | cons b bs => exact hdel.contentType
      have hroom : rec.length ≤ (buffer (rec ++ tail)).length := by
        have hle := hbuffer (rec ++ tail)
        rw [length_append] at hle
        omega
      obtain ⟨out', hwhole, htake⟩ := hdel.whole tail (buffer (rec ++ tail)) _ hroom
      rw [recordReader, hwhole, hfirst]
      dsimp only
      rw [htake]
    · rw [recordReader, hdel.part p hp hpne]

/-! ## The buffer -/

lemma drop_overwrite {data : Bytes} (h : data.length ≤ n) :
    (overwrite data out).drop n = out.drop n := by
  rw [overwrite, drop_append, drop_eq_nil_of_le h, nil_append, drop_drop]
  congr 1
  omega

/-- What becomes of a fragment: it is refused and not counted, or it is counted and, under a suite
with a cipher, has a code that verifies for the payload that is handed over.  In no case more than
the first `m` octets of the buffer are written. -/
inductive Handled (prims : Prims) (rl : RecordLayer) (header fragment out : Bytes) (m : ℕ) :
    RecordLayer × Receipt × Bytes → Prop
  | refused {rl' : RecordLayer} {receipt : Receipt} {out' : Bytes}
      (hreceipt : ∀ used n, receipt ≠ .record used n) (hseq : rl'.readSeqNum = rl.readSeqNum)
      (hsuite : rl'.readCipherSuite = rl.readCipherSuite)
      (hframe : prims.ciphers.Correct → out'.drop m = out.drop m) :
      Handled prims rl header fragment out m (rl', receipt, out')
  | accepted {rl' : RecordLayer} {used n : ℕ} {out' : Bytes}
      (hseq : rl'.readSeqNum = nextSeqNum rl.readSeqNum)
      (hsuite : rl'.readCipherSuite = rl.readCipherSuite)
      (hframe : prims.ciphers.Correct → out'.drop m = out.drop m) (hheader : 3 ≤ header.length)
      (hcode : rl.readCipherSuite ≠ tlsNullWithNullNull →
        let input := macInput rl.readSeqNum (header.getD 0 0) ((header.drop 1).take 2) n
          (out'.take n)
        ∃ tag, ((rl.readCbc.bind fun ctx => cryptoCipherDecrypt prims.ciphers ctx fragment).bind
          fun r => rl.presented header (rl.unwrapped r.2).1) = some (input, tag) ∧
          rl.macOk prims input tag) :
      Handled prims rl header fragment out m (rl', .record used n, out')

lemma presented_eq_some {header body input tag : Bytes}
    (h : rl.presented header body = some (input, tag)) :
    input = macInput rl.readSeqNum (header.getD 0 0) ((header.drop 1).take 2)
      (body.length - rl.hashSize) (body.take (body.length - rl.hashSize)) := by
  unfold presented at h
  split_ifs at h
  · cases h
    rfl

lemma drop_decryptedInto {plain : Bytes} (h : plain.length ≤ n) :
    (rl.decryptedInto plain out).drop n = out.drop n := by
  unfold decryptedInto
  split
  · rw [drop_overwrite (by rw [length_drop]; omega), drop_overwrite h]
  · rw [drop_overwrite h]

/-- What becomes of any fragment. -/
lemma handled_receiveFragment {header fragment : Bytes} (hheader : 3 ≤ header.length)
    (hlen : fragment.length ≤ n) :
    Handled prims rl header fragment out n (receiveFragment prims rl header fragment out) := by
  unfold receiveFragment finishRecord
  split
  · rename_i hnull
    split
    · exact .refused nofun rfl rfl fun _ => drop_overwrite hlen
    · exact .accepted rfl rfl (fun _ => drop_overwrite hlen) hheader (absurd hnull)
  split
  · exact .refused nofun rfl rfl fun _ => rfl
  rename_i ctx plain hbind
  obtain ⟨ctx₀, -, hdec⟩ := Option.bind_eq_some_iff.mp hbind
  have hframe : ∀ rl : RecordLayer, prims.ciphers.Correct →
      (rl.decryptedInto plain out).drop n = out.drop n :=
    fun _ hciphers => drop_decryptedInto ((length_cryptoCipherDecrypt_le hciphers hdec).trans hlen)
  dsimp only
  split
  · exact .refused nofun rfl rfl (hframe _)
  rename_i input tag hpresented
  split
  · exact .refused nofun rfl rfl (hframe _)
  rename_i hok
  split
  · exact .refused nofun rfl rfl (hframe _)
  rw [Bool.or_eq_true, not_or, Bool.not_eq_true, Bool.not_eq_true, Bool.not_eq_false'] at hok
  have htake := take_decryptedInto hok.2 out (sub_le _ (RecordLayer.hashSize
    { rl with readCbc := some ctx }))
  have hinput := presented_eq_some hpresented
  rw [← htake] at hinput
  rw [hinput] at hpresented hok
  refine .accepted rfl rfl (hframe _) hheader fun _ => ⟨tag, ?_, hok.1⟩
  rw [hbind]
  exact hpresented

variable (prims rl) in
lemma handled_recordReceive (octets out : Bytes) (outLen : ℕ) :
    Handled prims rl (octets.take tlsRecordHeaderLen)
        ((octets.drop tlsRecordHeaderLen).take (beNat ((octets.drop 3).take 2))) out octets.length
        (recordReceive prims rl octets out outLen) := by
  have hfive : tlsRecordHeaderLen = 5 := rfl
  unfold recordReceive
  dsimp only
  split_ifs
  iterate 6 exact .refused nofun rfl rfl fun _ => rfl
  exact handled_receiveFragment (by rw [length_take]; omega)
    (by rw [length_take, length_drop]; omega)

/-! ## An adversary between the layers -/

/-- The sending direction of one layer and the receiving direction of another, and what went
through them. -/
structure Session where
  sender : RecordLayer
  receiver : RecordLayer
  sent : List (UInt8 × Bytes) := []
  accepted : List (UInt8 × Bytes) := []
  authenticated : List Bytes := []

/-- What the adversary lets happen. -/
inductive Event
  | send (m : Send)
  /-- The receiver is given octets, with a buffer of which it may use some octets. -/
  | deliver (octets out : Bytes) (outLen : ℕ)

/-- One event. -/
def step (prims : Prims) (st : Session) : Event → Except Empty Session
  | .send m =>
    match recordSend prims st.sender m.contentType m.bufSize m.random m.payload with
    | (sender, none) => .ok { st with sender }
    | (sender, some _) =>
      .ok
        { st with
          sender
          sent := st.sent ++ [(m.contentType, m.payload)]
          authenticated := st.authenticated ++
            [macInput st.sender.writeSeqNum m.contentType (toBe 2 st.sender.tlsVersion)
              m.payload.length m.payload] }
  | .deliver octets out outLen =>
    let r := recordReceive prims st.receiver octets out outLen
    match r.2.1 with
    | .record _ n =>
      .ok
        { st with
          receiver := r.1
          accepted := st.accepted ++ [(octets.getD 0 0, r.2.2.take n)] }
    | _ => .ok { st with receiver := r.1 }

/-- The input and the code that the receiver finds in some octets, none if they have no code. -/
def found (prims : Prims) (rl : RecordLayer) (octets : Bytes) :
    Option (Bytes × Bytes) :=
  let fragment := (octets.drop tlsRecordHeaderLen).take (beNat ((octets.drop 3).take 2))
  (rl.readCbc.bind fun ctx => cryptoCipherDecrypt prims.ciphers ctx fragment).bind fun r =>
    rl.presented (octets.take tlsRecordHeaderLen) (rl.unwrapped r.2).1

/-- No code is forged: one that verifies was calculated by the sender. -/
def Genuine (prims : Prims) (st : Session) : Event → Prop
  | .send _ => True
  | .deliver octets _ _ =>
    ∀ code ∈ found prims st.receiver octets,
      st.receiver.macOk prims code.1 code.2 → code.1 ∈ st.authenticated

instance Genuine.decidable (prims : Prims) (st : Session) : (e : Event) →
    Decidable (Genuine prims st e)
  | .send _ => isTrue trivial
  | .deliver octets _ _ =>
    inferInstanceAs (Decidable (∀ code ∈ found prims st.receiver octets,
      st.receiver.macOk prims code.1 code.2 → code.1 ∈ st.authenticated))

/-- The input of a code tells its parts. -/
lemma macInput_inj {seq seq' : ℕ} {ct ct' : UInt8} {version version' : Bytes} {len len' : ℕ}
    {payload' : Bytes} (hversion : version.length = 2) (hversion' : version'.length = 2)
    (h : macInput seq ct version len payload = macInput seq' ct' version' len' payload') :
    seq % 256 ^ 8 = seq' % 256 ^ 8 ∧ ct = ct' ∧ payload = payload' := by
  obtain ⟨hseq, hrest⟩ := append_inj h (by rw [length_toBe, length_toBe])
  obtain ⟨hct, hrest⟩ := List.cons.inj hrest
  obtain ⟨-, hpayload⟩ := append_inj hrest (by simp [hversion, hversion'])
  refine ⟨?_, hct, hpayload⟩
  rw [← beNat_toBe, ← beNat_toBe, hseq]

/-- What a session keeps. -/
structure Inv (st : Session) : Prop where
  suite : st.receiver.readCipherSuite ≠ tlsNullWithNullNull
  writeSeqNum : st.sender.writeSeqNum = st.sent.length % 256 ^ 8
  readSeqNum : st.receiver.readSeqNum = st.accepted.length % 256 ^ 8
  authenticated : ∀ input ∈ st.authenticated, ∃ i item version, st.sent[i]? = some item ∧
    version.length = 2 ∧ input = macInput (i % 256 ^ 8) item.1 version item.2.length item.2
  accepted : st.accepted <+: st.sent

/-- Sending keeps the invariant. -/
lemma Inv.send {m : Send} (hinv : Inv st) (h : step prims st (.send m) = .ok st') : Inv st' := by
  rw [step] at h
  split at h
  · rename_i sender hsend
    cases h
    cases sent_of_send hsend
    exact hinv
  rename_i sender rec hsend
  cases h
  have hcount : sender.writeSeqNum = nextSeqNum st.sender.writeSeqNum := by
    cases sent_of_send hsend <;> rfl
  refine ⟨hinv.suite, ?_, hinv.readSeqNum, ?_, hinv.accepted.trans (prefix_append _ _)⟩
  · rw [hcount, nextSeqNum, hinv.writeSeqNum, length_append, length_singleton]
    exact mod_add_mod _ _ _
  intro input hinput
  rcases mem_append.mp hinput with hold | hnew
  · obtain ⟨i, item, version, hitem, hversion, heq⟩ := hinv.authenticated input hold
    have hlt : i < st.sent.length := (List.getElem?_eq_some_iff.mp hitem).1
    exact ⟨i, item, version, by rw [getElem?_append_left hlt, hitem], hversion, heq⟩
  · refine ⟨st.sent.length, (m.contentType, m.payload), toBe 2 st.sender.tlsVersion, by simp,
      length_toBe _ _, ?_⟩
    rw [mem_singleton.mp hnew, hinv.writeSeqNum]

/-- Accepting keeps the invariant: the record accepted is the next one that was sent. -/
lemma Inv.deliver (hinv : Inv st) (hsent : st.sent.length < 256 ^ 8)
    (hgenuine : Genuine prims st (.deliver octets out outLen))
    (h : step prims st (.deliver octets out outLen) = .ok st') : Inv st' := by
  have hhandled := handled_recordReceive prims st.receiver octets out outLen
  rw [step] at h
  generalize recordReceive prims st.receiver octets out outLen = x at h hhandled
  cases hhandled with
  | refused hreceipt hseq hsuite _ =>
    split at h
    · exact absurd ‹_› (hreceipt _ _)
    · cases h
      exact ⟨by rw [hsuite]; exact hinv.suite, hinv.writeSeqNum, hseq.trans hinv.readSeqNum,
        hinv.authenticated, hinv.accepted⟩
  | @accepted r used n out' hseq hsuite _ hheader hcode =>
    cases h
    obtain ⟨tag, hfound, hok⟩ := hcode hinv.suite
    obtain ⟨i, item, version, hitem, hversion, heq⟩ :=
      hinv.authenticated _ (hgenuine (_, tag) hfound hok)
    obtain ⟨hnum, hct, hpayload⟩ :=
      macInput_inj (by rw [length_take, length_drop]; omega) hversion heq
    have hi : i < st.sent.length := (List.getElem?_eq_some_iff.mp hitem).1
    have hle := hinv.accepted.length_le
    -- Fewer than 2^64 records were sent, so the numbers are not taken modulo anything.
    have hnext : i = st.accepted.length := by
      rw [hinv.readSeqNum, mod_mod, mod_mod, mod_eq_of_lt (by omega),
        mod_eq_of_lt (by omega)] at hnum
      exact hnum.symm
    subst hnext
    refine ⟨by rw [hsuite]; exact hinv.suite, hinv.writeSeqNum, ?_, hinv.authenticated, ?_⟩
    · rw [hseq, nextSeqNum, hinv.readSeqNum, length_append, length_singleton]
      exact mod_add_mod _ _ _
    obtain ⟨rest, hrest⟩ := hinv.accepted
    rw [← hrest, getElem?_append_right le_rfl, Nat.sub_self] at hitem
    cases rest with
    | nil => cases hitem
    | cons first rest =>
      obtain rfl : first = item := by simpa using hitem
      refine ⟨rest, ?_⟩
      have hfirst : (octets.take tlsRecordHeaderLen).getD 0 0 = octets.getD 0 0 := by
        cases octets with
        | nil => rfl
        | cons b bs => rfl
      rw [← hrest, ← hfirst, hct, hpayload, append_assoc]
      rfl

lemma length_sent_le {e : Event} (h : step prims st e = .ok st') :
    st.sent.length ≤ st'.sent.length := by
  cases e with
  | send m =>
    rw [step] at h
    split at h <;> cases h
    · exact le_rfl
    · simp
  | deliver octets out outLen =>
    rw [step] at h
    split at h <;> cases h <;> exact le_rfl

/-- In every run without a forged code in which fewer than 2^64 records are sent, the payloads
accepted are the first ones sent. -/
lemma inv_of_run {es : List Event} (hinv : Inv st)
    (hgenuine : Along (step prims) (Genuine prims) st es) (hrun : run (step prims) st es = .ok st')
    (hsent : st'.sent.length < 256 ^ 8) : Inv st' := by
  refine run_along_induction (P := fun st => st.sent.length < 256 ^ 8 → Inv st) ?_ (fun _ => hinv)
    hgenuine hrun hsent
  intro st e st' hst hgen hstep hlt
  have hinv := hst (lt_of_le_of_lt (length_sent_le hstep) hlt)
  cases e with
  | send m => exact hinv.send hstep
  | deliver octets out outLen =>
    exact hinv.deliver (lt_of_le_of_lt (length_sent_le hstep) hlt) hgen hstep

lemma useForWriting_seqNum (h : s.useForWriting suite = some s') : s'.writeSeqNum = 0 := by
  obtain ⟨s₁, -, h⟩ := Option.bind_eq_some_iff.mp h
  unfold changeWriteCipher at h
  dsimp only at h
  split at h
  · cases h
    rfl
  · obtain ⟨ctx, -, rfl⟩ := Option.map_eq_some_iff.mp h
    rfl

lemma useForReading_seqNum {r' : RecordLayer} (h : r.useForReading suite = some r') :
    r'.readSeqNum = 0 ∧ r'.readCipherSuite = suite := by
  obtain ⟨r₁, hr₁, h⟩ := Option.bind_eq_some_iff.mp h
  obtain ⟨t, -, rfl⟩ := setCipherSuite_eq_some hr₁
  unfold changeReadCipher at h
  dsimp only at h
  split at h
  · cases h
    exact ⟨rfl, rfl⟩
  · obtain ⟨ctx, -, rfl⟩ := Option.map_eq_some_iff.mp h
    exact ⟨rfl, rfl⟩

/-! ## The record layer -/

/-- For two record layers keyed alike, on any supported suite and TLS 1.0 to 1.2:

* the payloads sent, of at most 17403 octets and of the known content types, are delivered with
  their content types from the octets produced, however these are cut into chunks, and all octets
  are used, unless the cipher is DES;
* on any suite but the null suite the payloads accepted from any octets are the first ones sent, as
  long as no code is forged and fewer than 2^64 records are sent;
* no call writes behind the first `in_len` octets of the buffer of its caller. -/
theorem record_layer_delivers {prims : Prims} (hciphers : prims.ciphers.Correct)
    (hhmac : prims.HmacLength) {s r s' r' : RecordLayer} {suite : ℕ} (hkeyed : KeyedAlike s r)
    (hs : s.useForWriting suite = some s') (hr : r.useForReading suite = some r') :
    (usesDes suite = false → ∀ (sends : List Send) (buffer : Bytes → Bytes)
      (chunks : List Bytes),
      (∀ m ∈ sends, knownContentType m.contentType ∧ m.payload.length ≤ maxPayload) →
      (∀ octets, octets.length ≤ (buffer octets).length) →
      chunks.flatten = (sendAll prims s' sends).2 →
      (chunks.foldl (feed (recordReader prims buffer)) { state := r' }).items =
          (sendAll prims s' sends).1 ∧
        (chunks.foldl (feed (recordReader prims buffer)) { state := r' }).fault = none ∧
        (chunks.foldl (feed (recordReader prims buffer)) { state := r' }).pending = [] ∧
        (chunks.foldl (feed (recordReader prims buffer)) { state := r' }).used =
          (sendAll prims s' sends).2.length) ∧
    (suite ≠ tlsNullWithNullNull → ∀ (es : List Event) (st : Session),
      Along (step prims) (Genuine prims) { sender := s', receiver := r' } es →
      run (step prims) { sender := s', receiver := r' } es = .ok st →
      st.sent.length < 2 ^ 64 → st.accepted <+: st.sent) ∧
    ∀ (rl : RecordLayer) (inData out : Bytes) (outLen : ℕ),
      (recordReceive prims rl inData out outLen).2.2.drop inData.length =
        out.drop inData.length := by
  refine ⟨?_, ?_, ?_⟩
  · intro hdes sends buffer chunks hsends hbuffer hchunks
    have hsync := inSync_of_keyedAlike hkeyed hdes hs hr
    have hexp := expects_sendAll hciphers hhmac hbuffer hsends hsync
    rw [← hchunks] at hexp ⊢
    obtain ⟨hitems, hpending, hfault, hused⟩ :=
      feed_all (r := ⟨r', [], [], 0, none⟩) rfl hexp fun _ => rfl
    refine ⟨hitems, hfault, hpending, ?_⟩
    rw [hused]
    simp
  · intro hsuite es st hgenuine hrun hsent
    obtain ⟨hread, hused⟩ := useForReading_seqNum hr
    have hinv : Inv { sender := s', receiver := r' } :=
      ⟨by rwa [hused], useForWriting_seqNum hs, hread, fun input hin => absurd hin not_mem_nil,
        prefix_rfl⟩
    exact (inv_of_run hinv hgenuine hrun (by simpa using hsent)).accepted
  · intro rl inData out outLen
    have hhandled := handled_recordReceive prims rl inData out outLen
    generalize recordReceive prims rl inData out outLen = x at hhandled ⊢
    cases hhandled with
    | refused _ _ _ hframe => exact hframe hciphers
    | accepted _ _ hframe => exact hframe hciphers

/-- A record is sent if there is room for it. -/
lemma recordSend_succeeds (hciphers : prims.ciphers.Correct) (hhmac : prims.HmacLength)
    (hsync : InSync s r) (hsuite : s.writeCipherSuite ≠ tlsNullWithNullNull) (ct : UInt8)
    (random payload : Bytes) (hroom : payload.length + 69 ≤ bufSize) :
    ∃ s' rec, recordSend prims s ct bufSize (some random) payload = (s', some rec) ∧
      rec.length ≤ payload.length + 69 := by
  obtain ⟨ctx, hprot⟩ := hsync.keys hsuite
  obtain ⟨hmod, hmax⟩ := length_plainFragment hhmac hprot ct random payload
  obtain ⟨ctx', crypt, henc, -, hlen, -, -⟩ :=
    cryptoCipherDecrypt_encrypt hciphers hprot.wf hprot.fits.alg hmod
  have hfive : tlsRecordHeaderLen = 5 := rfl
  refine ⟨{ s with writeSeqNum := nextSeqNum s.writeSeqNum, writeCbc := some ctx' },
    recordHeader ct s.tlsVersion crypt.length ++ crypt, ?_, ?_⟩
  · have hbind : (s.writeCbc.bind fun ctx => cryptoCipherEncrypt prims.ciphers ctx
        (plainFragment prims s ct random payload)) = some (ctx', crypt) := by
      rw [hprot.write]
      exact henc
    rw [recordSend, if_neg hsuite, if_neg (by simp)]
    dsimp only [Option.getD_some]
    rw [if_neg (by omega), hbind]
    rfl
  · rw [length_append, length_recordHeader]
    omega

/-! ### A concrete session -/

/-- Primitives that can be evaluated. -/
def samplePrims : Prims where
  ciphers :=
    { aesEncrypt := fun _ b => b.map (· + 7), aesDecrypt := fun _ b => b.map (· - 7)
      des3Encrypt := fun _ b => b.map (· + 5), des3Decrypt := fun _ b => b.map (· - 5)
      desEncrypt := fun _ b => b.map (· + 3), desDecrypt := fun _ b => b.map (· - 3) }
  hmac alg key data := (data ++ key).takeD alg.size 0

lemma samplePrims_correct : samplePrims.ciphers.Correct := by
  have hinv : ∀ (n : ℕ) (c : UInt8), Inverse n (.map (· + c)) (.map (· - c)) := by
    intro n c
    refine ⟨fun b hb => by rw [length_map, hb], fun b hb => by rw [length_map, hb], ?_⟩
    intro b _
    rw [map_map]
    conv_rhs => rw [← map_id b]
    refine map_congr_left fun x _ => ?_
    simp
  exact ⟨fun _ => hinv 16 7, fun _ => hinv 8 5, fun _ => hinv 8 3⟩

lemma samplePrims_hmacLength : samplePrims.HmacLength :=
  fun _ _ _ _ => takeD_length _ _ _

/-- A record layer with AES. -/
def sampleLayer : RecordLayer where
  tlsVersion := tlsVersion12
  writeMacSecret := [1, 2, 3]
  readMacSecret := [1, 2, 3]
  writeKey := replicate 16 4
  readKey := replicate 16 4
  writeIv := replicate 16 5
  readIv := replicate 16 5

lemma sampleLayer_keyedAlike : KeyedAlike sampleLayer sampleLayer :=
  ⟨rfl, .inr (.inr rfl), rfl, rfl, rfl⟩

def sampleSender : RecordLayer := (sampleLayer.useForWriting 0x002f).getD {}

def sampleReceiver : RecordLayer := (sampleLayer.useForReading 0x002f).getD {}

def sampleSend : Send where
  contentType := 23
  payload := [1, 2, 3]
  bufSize := 100
  random := some (replicate 16 9)

/-- A payload is delivered by AES-128 with SHA-1, from a stream cut in the middle of its header, and
accepted in a session in which its record is replayed. -/
theorem record_layer_delivers_sample :
    ((([(sendAll samplePrims sampleSender [sampleSend]).2.take 3,
        (sendAll samplePrims sampleSender [sampleSend]).2.drop 3]).foldl
          (feed (recordReader samplePrims id)) { state := sampleReceiver }).items =
            [(23, [1, 2, 3])]) ∧
      ∃ st, run (step samplePrims) { sender := sampleSender, receiver := sampleReceiver }
          [.send sampleSend, .deliver (sendAll samplePrims sampleSender [sampleSend]).2 [] 100,
            .deliver (sendAll samplePrims sampleSender [sampleSend]).2 [] 100] = .ok st ∧
        st.accepted.length = 1 ∧ st.accepted <+: st.sent := by
  have hs : sampleLayer.useForWriting 0x002f = some sampleSender := by decide +kernel
  have hr : sampleLayer.useForReading 0x002f = some sampleReceiver := by decide +kernel
  obtain ⟨hstream, hsession, -⟩ := record_layer_delivers samplePrims_correct samplePrims_hmacLength
    sampleLayer_keyedAlike hs hr
  constructor
  · have hitems : (sendAll samplePrims sampleSender [sampleSend]).1 = [(23, [1, 2, 3])] := by
      decide +kernel
    refine (hstream (by decide) [sampleSend] id _ ?_ (fun _ => le_rfl) ?_).1.trans hitems
    · intro m hm
      rw [mem_singleton.mp hm]
      decide
    · simp
  · refine returns_of (fun st => st.accepted.length = 1 ∧ st.sent.length < 2 ^ 64)
      (by decide +kernel) fun st hrun ⟨hone, hfew⟩ => ⟨hone, ?_⟩
    exact hsession (by decide) _ st (by decide +kernel) hrun hfew

/-- A payload of 17404 octets is sent and its record refused. -/
theorem oversized_payload_refused :
    ∃ rec, (recordSend samplePrims sampleSender 23 20000 (some []) (replicate 17404 0)).2 =
        some rec ∧
      (recordReceive samplePrims sampleReceiver rec [] 20000).2.1 = .failed .recordOverflow := by
  have hs : sampleLayer.useForWriting 0x002f = some sampleSender := by decide +kernel
  have hr : sampleLayer.useForReading 0x002f = some sampleReceiver := by decide +kernel
  have hsync := inSync_of_keyedAlike sampleLayer_keyedAlike (by decide) hs hr
  have hsuite : sampleSender.writeCipherSuite ≠ tlsNullWithNullNull := by decide +kernel
  have hlen : (replicate 17404 (0 : UInt8)).length = 17404 := length_replicate
  have hlimit : maxPayload = 17403 := rfl
  obtain ⟨s', rec, hsend, hrec⟩ := recordSend_succeeds samplePrims_correct
    samplePrims_hmacLength hsync hsuite 23 [] (replicate 17404 0)
    (by omega : (replicate 17404 (0 : UInt8)).length + 69 ≤ 20000)
  refine ⟨rec, by rw [hsend], ?_⟩
  exact recordReceive_oversized samplePrims_correct samplePrims_hmacLength hsync (by decide)
    (by omega) (by omega) hsuite hsend [] (by omega)

end RecordLayer

end Hostapd.Tls
