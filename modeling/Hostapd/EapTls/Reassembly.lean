import Hostapd.EapTls.Common
import Hostapd.Foundation.Machine

/-!
# Reassembly of arbitrary packets

What the two sides make of packets that need not come from the other side of an exchange. The server
keeps the fragments of a message in a buffer of the announced length; the packet that ends a message
is known by a flag, not by the length. The peer notes an announced length before it has checked the
packet, and gives a reassembly up for a packet that does not fit.
-/

namespace Hostapd.EapTls

open Wire Checked Eap Machine List

/-! ## The server -/

/-- A message that arrives in fragments: the announced length, and the fragments since the first
one. -/
structure Gathering where
  announced : ℕ
  fragments : List Bytes

def Gathering.octets (g : Gathering) : Bytes := g.fragments.flatten

/-- No more octets have arrived than were announced, and these are not too many. -/
def Gathering.Bounded (g : Gathering) : Prop := g.octets.length ≤ g.announced ∧ g.announced ≤ 65536

/-- The server's side of the TLS data, and the message that is on its way to it. -/
structure Session where
  data : ServerSslData
  gathering : Option Gathering := none

/-- The part of a message in a packet: what stands behind the flags and the length. -/
def payload (flags : UInt8) (rest : Bytes) : Bytes :=
  if has flags flagLengthIncluded then rest.drop 4 else rest

/-- The length that a packet announces, zero if there is none. -/
def announcement (flags : UInt8) (rest : Bytes) : ℕ :=
  if has flags flagLengthIncluded then (ofBe32 rest).toNat else 0

namespace Session

variable (s : Session) (flags : UInt8) (rest : Bytes)

/-- The message with the part in a packet, which may be the first one. -/
def joined : Gathering :=
  match s.gathering with
  | none => ⟨announcement flags rest, [payload flags rest]⟩
  | some g => { g with fragments := g.fragments ++ [payload flags rest] }

/-- The message on its way after a packet.  An acknowledgement is not a part of it. -/
def gathered : Reassembly → Option Gathering
  | .wait => if s.data.state = .waitFragAck then s.gathering else some (s.joined flags rest)
  | _ => none

/-- What happens to the data of the server. -/
inductive Event
  /-- `eap_server_tls_process` of a packet. -/
  | receive (heap : Heap) (eapType : UInt8) (respData : Bytes)
  /-- Whatever else is done to the data, which leaves the input buffer alone. -/
  | other (data : ServerSslData)

/-- One event. -/
def step : Event → Checked Session
  | .receive heap eapType respData =>
    match eapTlsHdrValidate eapType respData with
    | some (flags :: rest) => do
      let (data, result) ← eapServerTlsReassemble heap s.data flags rest
      let (data, _) ← data.handOver result
      return ⟨data, s.gathered flags rest result⟩
    | _ => .ok s
  | .other data => .ok { s with data := { data with tlsIn := s.data.tlsIn } }

/-- The input buffer has the announced length and holds the fragments that have arrived; there is
none unless a message is on its way. -/
def Sound : Prop :=
  match s.gathering with
  | none => s.data.tlsIn = none
  | some g => s.data.tlsIn = some ⟨g.announced, g.octets⟩ ∧ g.Bounded

/-- What the result of a packet says about the input buffer: it holds what has arrived, and all of
the message once it is complete. -/
def Outcome (data : ServerSslData) : Reassembly → Prop
  | .error => True
  | .wait => Sound ⟨data, s.gathered flags rest .wait⟩
  | .complete => (∃ size, data.tlsIn = some ⟨size, (s.joined flags rest).octets⟩) ∧
      (s.gathering ≠ none → (s.joined flags rest).Bounded)

variable {s flags rest}

/-- A first packet makes room for the announced length, or is the whole message. -/
lemma reassembleRest_first (hg : s.gathering = none) (hs : s.Sound)
    (hstate : s.data.state ≠ .waitFragAck) (heap : Heap) :
    ∃ data result, eapServerTlsReassembleRest heap s.data flags (announcement flags rest)
        (payload flags rest) = .ok (data, result) ∧ s.Outcome flags rest data result := by
  have hnone : s.data.tlsIn = none := by rwa [Sound, hg] at hs
  have hjoined : s.joined flags rest = ⟨announcement flags rest, [payload flags rest]⟩ := by
    rw [joined, hg]
  unfold eapServerTlsReassembleRest
  rw [if_neg hstate, hnone]
  simp only [pure_eq_ok, ok_bind]
  by_cases hmore : has flags flagMoreFragments
  · rw [if_pos hmore, eapServerTlsProcessFragment, hnone]
    split_ifs with hincluded hbig hlong halloc
    · exact ⟨_, _, rfl, trivial⟩
    · exact ⟨_, _, rfl, trivial⟩
    · exact ⟨_, _, rfl, trivial⟩
    · exact ⟨_, _, rfl, trivial⟩
    · rw [Wpabuf.putData_of_le (by simpa using hlong)]
      refine ⟨_, _, rfl, ?_⟩
      simp only [Outcome, gathered, if_neg hstate, hjoined, Sound, Gathering.Bounded,
        Gathering.octets, flatten_singleton]
      exact ⟨rfl, Nat.not_lt.mp hlong, Nat.not_lt.mp hbig⟩
  · split_ifs with hack
    all_goals
      simp only [hnone]
      refine ⟨_, _, rfl, ⟨(payload flags rest).length, ?_⟩, absurd hg⟩
      simp [hjoined, Gathering.octets]

/-- A further fragment of a message that is on its way. -/
lemma reassembleRest_next {g : Gathering} (hg : s.gathering = some g) (hs : s.Sound)
    (hstate : s.data.state ≠ .waitFragAck) (heap : Heap) (tlsMsgLen : ℕ) :
    ∃ data result, eapServerTlsReassembleRest heap s.data flags tlsMsgLen (payload flags rest) =
        .ok (data, result) ∧ s.Outcome flags rest data result := by
  obtain ⟨htlsIn, hle, hmax⟩ :
      s.data.tlsIn = some ⟨g.announced, g.octets⟩ ∧ g.Bounded := by rwa [Sound, hg] at hs
  have hjoined : s.joined flags rest =
      { g with fragments := g.fragments ++ [payload flags rest] } := by rw [joined, hg]
  have hoctets : (s.joined flags rest).octets = g.octets ++ payload flags rest := by
    simp [hjoined, Gathering.octets]
  unfold eapServerTlsReassembleRest
  rw [if_neg hstate, htlsIn]
  unfold eapServerTlsProcessCont
  dsimp only
  by_cases hroom : g.announced - g.octets.length < (payload flags rest).length
  · rw [if_pos hroom]
    exact ⟨_, _, rfl, trivial⟩
  have hfits : g.octets.length + (payload flags rest).length ≤ g.announced := by omega
  have hbounded : (s.joined flags rest).Bounded := by
    rw [Gathering.Bounded, hoctets, length_append, hjoined]
    exact ⟨hfits, hmax⟩
  rw [if_neg hroom, Wpabuf.putData_of_le hfits]
  simp only [pure_eq_ok, ok_bind]
  by_cases hmore : has flags flagMoreFragments
  · rw [if_pos hmore]
    refine ⟨_, _, rfl, ?_⟩
    rw [Outcome, gathered, if_neg hstate]
    exact ⟨by rw [hoctets, hjoined]; rfl, hbounded⟩
  · rw [if_neg hmore]
    split_ifs with hack
    all_goals exact ⟨_, _, rfl, ⟨_, by rw [hoctets]; rfl⟩, fun _ => hbounded⟩

/-- Whatever the packet is, the buffer is as `Outcome` says. -/
lemma reassemble_outcome (hs : s.Sound) (heap : Heap) (flags : UInt8) (rest : Bytes) :
    ∃ data result, eapServerTlsReassemble heap s.data flags rest = .ok (data, result) ∧
      s.Outcome flags rest data result := by
  have hrest : ∃ data result, eapServerTlsReassembleRest heap s.data flags (announcement flags rest)
      (payload flags rest) = .ok (data, result) ∧ s.Outcome flags rest data result := by
    by_cases hstate : s.data.state = .waitFragAck
    · rw [eapServerTlsReassembleRest, if_pos hstate]
      refine ⟨_, _, rfl, ?_⟩
      split
      · trivial
      · rw [Outcome, gathered, if_pos hstate]
        exact hs
    · cases hg : s.gathering with
      | none => exact reassembleRest_first hg hs hstate heap
      | some g => exact reassembleRest_next hg hs hstate heap _
  unfold eapServerTlsReassemble
  by_cases hincluded : has flags flagLengthIncluded
  · dsimp only
    rw [payload, announcement, if_pos hincluded, if_pos hincluded] at hrest
    split_ifs
    · exact ⟨_, _, rfl, trivial⟩
    · exact ⟨_, _, rfl, trivial⟩
    · exact hrest
  · rw [if_neg hincluded]
    rwa [payload, announcement, if_neg hincluded, if_neg hincluded] at hrest

/-- Every event returns and keeps the buffer. -/
lemma step_sound (hs : s.Sound) (e : Event) : ∃ s', s.step e = .ok s' ∧ s'.Sound := by
  cases e with
  | other data => exact ⟨_, rfl, hs⟩
  | receive heap eapType respData =>
    rw [step]
    split
    · rename_i flags rest hvalid
      obtain ⟨data, result, hreassemble, houtcome⟩ := reassemble_outcome hs heap flags rest
      rw [hreassemble, ok_bind]
      cases result with
      | error => exact ⟨_, rfl, rfl⟩
      | wait => exact ⟨_, rfl, houtcome⟩
      | complete =>
        obtain ⟨⟨size, htlsIn⟩, -⟩ := houtcome
        simp only [ServerSslData.handOver, htlsIn]
        exact ⟨_, rfl, rfl⟩
    · exact ⟨s, rfl, hs⟩

/-- **The server passes only complete messages to TLS**, if the packet that ends a message has all
the octets that are missing.  Whatever has happened before, the input buffer holds the fragments
since the first one, within the announced length, and when the reassembly of a packet is complete it
holds them with the last part. -/
theorem complete_messages {data : ServerSslData} (hdata : data.tlsIn = none) (events : List Event) :
    ∃ s, run step ⟨data, none⟩ events = .ok s ∧ s.Sound ∧
      ∀ heap eapType respData flags rest data',
        eapTlsHdrValidate eapType respData = some (flags :: rest) →
        eapServerTlsReassemble heap s.data flags rest = .ok (data', .complete) →
        ∃ buf, data'.tlsIn = some buf ∧ buf.octets = (s.joined flags rest).octets ∧
          buf.octets.length ≤ 65536 ∧ ∀ g, s.gathering = some g →
            buf.octets.length ≤ g.announced ∧
            (g.octets.length + (payload flags rest).length = g.announced →
              buf.octets.length = g.announced) := by
  obtain ⟨s, hrun, hs⟩ := run_returns (fun s e hs => step_sound hs e) events
    (show Sound ⟨data, none⟩ from hdata)
  refine ⟨s, hrun, hs, fun heap eapType respData flags rest data' hvalid hcomplete => ?_⟩
  obtain ⟨_, _, hreassemble, houtcome⟩ := reassemble_outcome hs heap flags rest
  cases hreassemble.symm.trans hcomplete
  obtain ⟨⟨size, htlsIn⟩, hbounded⟩ := houtcome
  refine ⟨_, htlsIn, rfl, ?_, fun g hg => ?_⟩
  · cases hg : s.gathering with
    | some g =>
      obtain ⟨hle, hmax⟩ := hbounded (by rw [hg]; nofun)
      exact hle.trans hmax
    | none =>
      -- A message in one packet is no longer than the length field of the packet can say.
      have hlength := (eapHdrValidate_bounds hvalid).2
      have hfield := (ofBe16 (respData.drop 2)).toNat_lt
      have hpayload : (payload flags rest).length ≤ rest.length := by
        rw [payload]
        split <;> simp
      rw [length_cons, length_take] at hlength
      simp only [joined, hg, Gathering.octets, flatten_singleton]
      omega
  · have hle := (hbounded (by rw [hg]; nofun)).1
    simp only [joined, hg, Gathering.octets, flatten_append, flatten_singleton,
      length_append] at hle ⊢
    exact ⟨hle, id⟩

def idleServer : ServerSslData := ⟨none, 0, 1400, none, .msg⟩

def firstOfTen : Event := .receive .plenty 13 [2, 7, 0, 14, 13, 0xc0, 0, 0, 0, 10, 1, 2, 3, 4]

/-- The other six octets complete the message. -/
theorem complete_messages_of_ten :
    ∃ s, run step ⟨idleServer, none⟩ [firstOfTen] = .ok s ∧
      ∃ data' buf, eapServerTlsReassemble .plenty s.data 0 [5, 6, 7, 8, 9, 10] =
          .ok (data', .complete) ∧
        data'.tlsIn = some buf ∧ buf.octets.length = 10 := by
  obtain ⟨s, hrun, -, hcomplete⟩ :=
    complete_messages (show idleServer.tlsIn = none from rfl) [firstOfTen]
  cases hrun
  obtain ⟨buf, hbuf, -, -, hg⟩ := hcomplete .plenty 13
    [2, 8, 0, 12, 13, 0, 5, 6, 7, 8, 9, 10] 0 [5, 6, 7, 8, 9, 10] _ (by decide) rfl
  exact ⟨_, rfl, _, buf, rfl, hbuf, (hg ⟨10, [[1, 2, 3, 4]]⟩ rfl).2 rfl⟩

/-- Two octets complete it as well: TLS is handed six octets of the ten that were announced. -/
theorem short_message_complete :
    ∃ s data', run step ⟨idleServer, none⟩ [firstOfTen] = .ok s ∧
      s.gathering = some ⟨10, [[1, 2, 3, 4]]⟩ ∧
      eapTlsHdrValidate 13 [2, 8, 0, 8, 13, 0, 5, 6] = some [0, 5, 6] ∧
      eapServerTlsReassemble .plenty s.data 0 [5, 6] = .ok (data', .complete) ∧
      data'.tlsIn = some ⟨10, [1, 2, 3, 4, 5, 6]⟩ :=
  ⟨_, _, rfl, rfl, by decide, rfl, rfl⟩

end Session

/-! ## The peer -/

variable (heap : Heap) (env : PeerEnv) (data : PeerSslData) (eapType : UInt8)

def PeerSslData.SameInput (data' : PeerSslData) : Prop :=
  data'.tlsInLeft = data.tlsInLeft ∧ data'.tlsInTotal = data.tlsInTotal ∧ data'.tlsIn = data.tlsIn

/-- The request announces this number of octets and has more. -/
def Understates (reqData : Bytes) (announced : ℕ) : Prop :=
  ∃ flags rest, eapTlsHdrValidate eapType reqData = some (flags :: rest) ∧
    has flags flagLengthIncluded ∧ (ofBe32 rest).toNat = announced ∧
    announced < (rest.drop 4).length

lemma Understates.unique {reqData rest : Bytes} {flags : UInt8} {announced : ℕ}
    (h : Understates eapType reqData announced)
    (hvalid : eapTlsHdrValidate eapType reqData = some (flags :: rest)) :
    has flags flagLengthIncluded ∧ (ofBe32 rest).toNat = announced ∧
      announced < (rest.drop 4).length := by
  obtain ⟨flags', rest', hvalid', h⟩ := h
  cases hvalid.symm.trans hvalid'
  exact h

/-- **A request that the peer ignores leaves no trace**, except that one that understates its length
is noted first: it leaves none exactly if a message is on its way, or if it announces nothing and
the peer has nothing.  A rejected fragment leaves none exactly if no message is on its way, which is
given up with it. -/
theorem ignored_leaves_no_trace :
    (∀ reqData data', eapPeerTlsProcessInit env data eapType reqData = (data', none) →
      (data.SameInput data' ↔ (env.tlsErrors = false → ∀ announced,
        Understates eapType reqData announced → data.tlsInLeft = 0 →
          announced = 0 ∧ data.tlsInTotal = 0 ∧ data.tlsIn = none))) ∧
    ∀ inData data', eapPeerTlsDataReassemble heap data inData = .ok (data', .error) →
      (data.SameInput data' ↔ data.tlsInLeft = 0 ∧ data.tlsIn = none) := by
  constructor
  · intro reqData data' h
    have hsame : data.SameInput data := ⟨rfl, rfl, rfl⟩
    unfold eapPeerTlsProcessInit at h
    by_cases herrors : env.tlsErrors
    · rw [if_pos herrors] at h
      cases h
      exact iff_of_true hsame fun hno => absurd herrors (by simp [hno])
    rw [if_neg herrors] at h
    have hquiet : env.tlsErrors = false := by simpa using herrors
    -- A request that does not understate its length is ignored before anything is noted.
    have hnone : (∀ announced, ¬ Understates eapType reqData announced) → data' = data →
        (data.SameInput data' ↔ (env.tlsErrors = false → ∀ announced,
          Understates eapType reqData announced → data.tlsInLeft = 0 →
            announced = 0 ∧ data.tlsInTotal = 0 ∧ data.tlsIn = none)) := by
      rintro hnot rfl
      exact iff_of_true hsame fun _ announced h => absurd h (hnot announced)
    cases hvalid : eapTlsHdrValidate eapType reqData with
    | none =>
      rw [hvalid] at h
      cases h
      exact hnone (by rintro _ ⟨_, _, hvalid', -⟩; cases hvalid.symm.trans hvalid') rfl
    | some payload =>
      cases payload with
      | nil =>
        simp only [hvalid] at h
        split_ifs at h <;> cases h
        exact hnone (by rintro _ ⟨_, _, hvalid', -⟩; cases hvalid.symm.trans hvalid') rfl
      | cons flags rest =>
        simp only [hvalid] at h
        split_ifs at h with hincluded hshort hlen hleft <;> cases h
        · refine hnone (fun announced hu => ?_) rfl
          have hlt := (hu.unique eapType hvalid).2.2
          rw [length_drop] at hlt
          omega
        · have hthis : Understates eapType reqData (ofBe32 rest).toNat :=
            ⟨flags, rest, hvalid, hincluded, rfl, hlen⟩
          constructor
          · rintro ⟨hl, ht, hin⟩ - announced hu -
            obtain ⟨-, rfl, -⟩ := hu.unique eapType hvalid
            exact ⟨hl.trans hleft, ht.symm.trans (hl.trans hleft), hin.symm⟩
          · intro hcond
            obtain ⟨hzero, htotal, htlsIn⟩ := hcond hquiet _ hthis hleft
            exact ⟨hzero.trans hleft.symm, hzero.trans htotal.symm, htlsIn.symm⟩
        · exact iff_of_true hsame fun _ _ _ hzero => absurd hzero hleft
  · intro inData data' h
    unfold eapPeerTlsDataReassemble at h
    split_ifs at h with hfragment halloc
    · have hreset : data' = data.resetInput := by
        unfold eapPeerTlsReassembleFragment at h
        dsimp only at h
        -- The packet is refused in four ways.
        iterate 4
          split at h
          · cases h
            rfl
        obtain ⟨tlsIn, -, h⟩ := bind_eq_ok.mp h
        split at h <;> cases h
      rw [hreset]
      refine ⟨fun ⟨hleft, _, htlsIn⟩ => ⟨hleft.symm, htlsIn.symm⟩, fun ⟨hleft, htlsIn⟩ => ?_⟩
      simp [hleft, htlsIn] at hfragment
    · cases h
    · simp only [not_or, Option.not_isSome_iff_eq_none] at hfragment
      cases h
      exact ⟨fun ⟨hleft, _⟩ => ⟨hleft.symm, hfragment.2⟩,
        fun ⟨hleft, htlsIn⟩ => ⟨hleft.symm, rfl, htlsIn.symm⟩⟩

/-- The peer with the first four octets of a message of ten. -/
def partOfTen : PeerSslData := ⟨none, 0, 1400, some ⟨4, [1, 2, 3, 4]⟩, 6, 10, false⟩

/-- A request that has nothing behind its type is ignored without a trace. -/
theorem ignored_leaves_no_trace_of_empty :
    eapPeerTlsProcessInit ⟨false, false, false⟩ partOfTen 13 [1, 7, 0, 5, 13] = (partOfTen, none) ∧
      partOfTen.SameInput partOfTen := by
  have hinit : eapPeerTlsProcessInit ⟨false, false, false⟩ partOfTen 13 [1, 7, 0, 5, 13] =
      (partOfTen, none) := by decide
  exact ⟨hinit, ((ignored_leaves_no_trace .plenty ⟨false, false, false⟩ partOfTen 13).1 _ _
    hinit).mpr fun _ _ _ hzero => absurd hzero (by decide)⟩

/-- A request that understates its length is ignored and leaves the length behind, and one with more
octets than are missing ends the reassembly. -/
theorem ignored_leaves_trace :
    (∃ data', eapPeerTlsProcessInit ⟨false, false, false⟩ partOfTen.resetInput 13
        [1, 7, 0, 12, 13, 0x80, 0, 0, 0, 1, 5, 6] = (data', none) ∧ data'.tlsInLeft = 1) ∧
      ∃ data', eapPeerTlsDataReassemble .plenty partOfTen [5, 6, 7, 8, 9, 10, 11] =
        .ok (data', .error) ∧ data'.tlsIn = none ∧ data'.tlsInLeft = 0 :=
  ⟨⟨_, rfl, by decide⟩, ⟨_, rfl, rfl, rfl⟩⟩

end Hostapd.EapTls
