import Hostapd.RsnSupp.Sm
import Hostapd.WpaAuth.Eapol

/-!
# Key data from the authenticator to the supplicant

The key data of message 3/4 is assembled by the authenticator out of the RSN element of the beacon,
the GTK KDE and, with management frame protection, the IGTK KDE. It is padded with 0xdd and zeros up
to a multiple of eight octets and encrypted with AES key wrap. The supplicant finds the elements
that were put in, and nothing else, whatever the length modulo eight: the padding has a zero length
octet, or none at all, and both end the walk.
-/

namespace Hostapd.Wpa

open Wire RsnSupp WpaAuth List

/-! ## Elements of message 3/4 -/

variable {e : Element}

lemma rsn_gives (h : e.eid = eidRsn) (ie : EapolIeParse) :
    e.Gives ie { ie with rsnIe := some e.octets } := by
  refine ⟨?_, ?_⟩
  · rintro ⟨hdd, -⟩
    rw [h] at hdd
    exact absurd hdd (by decide)
  · intro left _
    have heid : e.octets.getD 0 0 = eidRsn := h
    simp only [parseElement, heid, if_true]

lemma parseElement_vendor {el : Bytes} (h : el.getD 0 0 = eidVendorSpecific) (left : ℕ)
    (ie : EapolIeParse) : parseElement el left ie =
      (parseGeneric el left ie).bind (parseVendorSpecific el) := by
  unfold parseElement
  simp only [h]
  cases parseGeneric el left ie <;> rfl

def kdeElement (kde data : Bytes) (h : (kde ++ data).length < 256) : Element where
  eid := eidVendorSpecific
  body := kde ++ data
  length_lt := h

variable {data gtk kde : Bytes} {sm : WpaAuth.Sm} {crypto : Crypto}

lemma octets_kdeElement (hkde : kde.length = 4) (h : (kde ++ data).length < 256) :
    (kdeElement kde data h).octets = addKde kde data := by
  simp [kdeElement, Element.octets, addKde, hkde]

/-- What the supplicant records for one of the two KDEs of message 3/4. -/
def recordKde (kde data : Bytes) (ie : EapolIeParse) : EapolIeParse :=
  if kde = rsnKeyDataGroupkey then { ie with gtk := some data }
  else { ie with igtk := some data }

section

variable (hkde : kde = rsnKeyDataGroupkey ∨ kde = rsnKeyDataIgtk)

include hkde

/-- A KDE is recorded. -/
lemma parseGeneric_kde (hdata : 2 < data.length) (h : (kde ++ data).length < 256) (left : ℕ)
    (ie : EapolIeParse) :
    parseGeneric (kdeElement kde data h).octets left ie = some (recordKde kde data ie) := by
  have hlen := (kdeElement kde data h).toNat_length
  simp only [kdeElement] at hlen
  rcases hkde with rfl | rfl <;>
  · have hshort : ¬ data.length < 3 := by omega
    simp only [parseGeneric, Element.octets, getD_cons_succ, getD_cons_zero,
      drop_succ_cons, drop_zero, kdeElement, hlen]
    simp [rsnKeyDataGroupkey, rsnKeyDataIgtk, wpaOuiType, rsnKeyDataPmkid, rsnKeyDataMacAddr,
      recordKde, hshort]

lemma parseVendorSpecific_kde (h : (kde ++ data).length < 256) (ie : EapolIeParse) :
    parseVendorSpecific (kdeElement kde data h).octets ie = some ie := by
  have hlen := (kdeElement kde data h).toNat_length
  simp only [kdeElement] at hlen
  rcases hkde with rfl | rfl <;>
  · simp only [parseVendorSpecific, Element.octets, getD_cons_succ, getD_cons_zero,
      drop_succ_cons, drop_zero, kdeElement, hlen]
    simp [rsnKeyDataGroupkey, rsnKeyDataIgtk, wmmOuiType]

lemma kde_gives (hdata : 2 < data.length) (h : (kde ++ data).length < 256) (ie : EapolIeParse) :
    (kdeElement kde data h).Gives ie (recordKde kde data ie) := by
  refine ⟨?_, ?_⟩
  · rintro ⟨-, hzero⟩
    simp only [kdeElement, length_append] at hzero
    omega
  · intro left _
    rw [parseElement_vendor rfl, parseGeneric_kde hkde hdata]
    exact parseVendorSpecific_kde hkde h _

end

/-! ## Padding -/

lemma padKeyData_eq (kde : Bytes) :
    ∃ pad, padKeyData kde = kde ++ pad ∧ Padding pad ∧ pad.length < 8 ∧
      (kde ++ pad).length % 8 = 0 := by
  unfold padKeyData
  by_cases h : kde.length % 8 = 0
  · exact ⟨[], by simp [h], .inl rfl, by simp, by simpa using h⟩
  have hpad : 8 - kde.length % 8 ≠ 0 := by omega
  refine ⟨0xdd :: replicate (8 - kde.length % 8 - 1) 0, ?_, .inr ⟨_, rfl⟩, ?_, ?_⟩
  · simp only [h, if_false, hpad]
  · simp only [length_cons, length_replicate]
    omega
  · simp only [length_append, length_cons, length_replicate]
    omega

/-- The elements of message 3/4 are found in front of any padding, and nothing else is. -/
lemma parseIes_keyData (he : e.eid = eidRsn) (hgtk : 2 < gtk.length) (hgtkMax : gtk.length ≤ 250)
    {igtk : Option Bytes} (higtk : ∀ body ∈ igtk, 2 < body.length ∧ body.length ≤ 250)
    {pad : Bytes} (hpad : Padding pad) :
    parseIes (e.octets ++ addKde rsnKeyDataGroupkey gtk ++ igtkKde igtk ++ pad) =
      some { rsnIe := some e.octets, gtk := some gtk, igtk := igtk } := by
  have hlenGtk : (rsnKeyDataGroupkey ++ gtk).length < 256 := by
    simp [rsnKeyDataGroupkey]
    omega
  have hoctets := octets_kdeElement rfl hlenGtk
  have hgivesGtk := kde_gives (.inl rfl) hgtk hlenGtk { rsnIe := some e.octets }
  -- Two elements need two rounds, and the length of the key data gives more than that.
  have hrounds : ∀ rest : Bytes, ∃ n, (e.octets ++ (addKde rsnKeyDataGroupkey gtk ++
      rest)).length = n + 1 + 1 + 1 := by
    intro rest
    refine ⟨(e.octets ++ (addKde rsnKeyDataGroupkey gtk ++ rest)).length - 3, ?_⟩
    simp only [Element.octets, addKde, length_append, length_cons]
    omega
  unfold parseIes
  rw [append_assoc, append_assoc]
  obtain ⟨n, hn⟩ := hrounds (igtkKde igtk ++ pad)
  rw [hn, parseLoop_element (rsn_gives he {}), ← hoctets, parseLoop_element hgivesGtk]
  cases igtk with
  | none => exact parseLoop_padding hpad _ _
  | some body =>
    obtain ⟨hbody, hbodyMax⟩ := higtk body rfl
    have hlen : (rsnKeyDataIgtk ++ body).length < 256 := by
      simp [rsnKeyDataIgtk]
      omega
    have hgives := kde_gives (.inr rfl) hbody hlen
      (recordKde rsnKeyDataGroupkey gtk { rsnIe := some e.octets })
    rw [igtkKde, ← octets_kdeElement rfl hlen, parseLoop_element hgives, parseLoop_padding hpad]
    rfl

/-! ## The trip -/

/-- AES key unwrap inverts AES key wrap on two or more blocks of eight octets. -/
def Crypto.UnwrapInvertsWrap (crypto : Crypto) : Prop :=
  ∀ kek plain : Bytes, plain.length % 8 = 0 → 16 ≤ plain.length →
    ∃ wrapped, crypto.aesWrap kek plain = some wrapped ∧ wrapped.length = plain.length + 8 ∧
      crypto.aesUnwrap kek wrapped = some plain

/-- Every supplicant with the KEK reads the key data of the message 3/4 as `ie`. -/
def Arrives (crypto : Crypto) (sm : WpaAuth.Sm) (result : WpaAuth.Sm × Group)
    (ie : EapolIeParse) : Prop :=
  ∃ frame, result.1.log = sm.log ++ [.sent .pairwise3 frame] ∧
    ∀ (conf : Conf) (ans : Answers) (supp : RsnSupp.Sm), conf.keyMgmt = sm.wpaKeyMgmt →
      ans.allocUnwrap → supp.ptkSet → supp.ptk.kek = sm.ptk.kek →
      ∃ plain, decryptKeyData conf crypto ans
          (EapolKey.decode conf.keyMgmt.micLen frame.encode) supp = some plain ∧
        parseIes plain = some ie

lemma keyVersion_ne_rc4 (h : usesAesWrap sm (keyVersion sm)) :
    keyVersion sm ≠ KeyInfo.hmacMd5Rc4 := by
  intro hver
  have hakm : sm.wpaKeyMgmt = .osen ∨ sm.wpaKeyMgmt.suiteB := by
    simp only [usesAesWrap, hver, Bool.or_eq_true, beq_iff_eq] at h
    rcases h with ((h | h) | h) | h
    · exact absurd h (by decide)
    · exact .inl h
    · exact .inr h
    · exact absurd h (by decide)
  rw [keyVersion, if_pos hakm] at hver
  exact absurd hver (by decide)

/-- The supplicant unwraps what was wrapped. -/
lemma decryptKeyData_of_wrap (haes : usesAesWrap sm (keyVersion sm)) {conf : Conf}
    (hakm : conf.keyMgmt = sm.wpaKeyMgmt) {ans : Answers} (halloc : ans.allocUnwrap)
    {supp : RsnSupp.Sm} (hset : supp.ptkSet) {key : EapolKey}
    (hver : key.keyInfo.ver = keyVersion sm) (hlen : 8 ≤ key.keyData.length)
    (hmod : key.keyData.length % 8 = 0) :
    decryptKeyData conf crypto ans key supp = crypto.aesUnwrap supp.ptk.kek key.keyData := by
  have hne := keyVersion_ne_rc4 haes
  have hcases : keyVersion sm = KeyInfo.hmacSha1Aes ∨ keyVersion sm = KeyInfo.aes128Cmac ∨
      sm.wpaKeyMgmt = .osen ∨ sm.wpaKeyMgmt.suiteB := by
    simp only [usesAesWrap, Bool.or_eq_true, beq_iff_eq] at haes
    tauto
  have hshort : ¬ (key.keyData.length < 8 ∨ key.keyData.length % 8 ≠ 0) := by omega
  simp only [decryptKeyData, hset, hver, hakm, hne, hcases, hshort, halloc, false_and, if_false,
    if_true, Bool.not_true, Bool.false_eq_true]

/-- The key data of a frame arrives with its padding. -/
lemma sendEapol_arrives (hwrap : crypto.UnwrapInvertsWrap) {conf : Config} {world : World}
    {gsm : Group} (haes : usesAesWrap sm (keyVersion sm)) (hvalid : sm.ptkValid)
    (halloc : world.alloc sm.addr sm.now)
    (hallocData : world.allocKeyData sm.addr sm.now) (hkde : 9 ≤ kde.length)
    (hkdeMax : kde.length ≤ 60000) {ie : EapolIeParse}
    (hparse : parseIes (padKeyData kde) = some ie) (info : KeyInfo) (hmic : info.mic)
    (rsc : Option (Octets 8)) (nonce : Nonce) (keyidx : ℕ) :
    Arrives crypto sm (sendEapol conf crypto world .pairwise3 sm gsm info rsc nonce (some kde)
      kde.length keyidx true) ie := by
  obtain ⟨pad, hpadEq, -, hpadLen, hmod⟩ := padKeyData_eq kde
  have hlenEq : (padKeyData kde).length = kde.length + pad.length := by
    rw [hpadEq, length_append]
  rw [← hpadEq] at hmod
  obtain ⟨wrapped, hwrapped, hlen, hunwrap⟩ :=
    hwrap sm.ptk.kek (padKeyData kde) hmod (by omega)
  have haes' : usesAesWrap (nextReplayCounter sm) (keyVersion sm) := haes
  have henc : encryptKeyData crypto (nextReplayCounter sm) gsm (keyVersion sm) kde =
      (some (wrapped, .zero 16), gsm) := by
    rw [encryptKeyData, if_pos haes']
    have hsome : crypto.aesWrap (nextReplayCounter sm).ptk.kek (padKeyData kde) = some wrapped :=
      hwrapped
    rw [hsome]
    rfl
  have hallocData' : world.allocKeyData (nextReplayCounter sm).addr (nextReplayCounter sm).now =
      true := hallocData
  have hvalid' : (nextReplayCounter sm).ptkValid := hvalid
  set hdr := frameHeader conf (nextReplayCounter sm) (keyVersion sm) info rsc nonce keyidx true
    with hhdr
  have hhdrMic : hdr.keyInfo.mic := hmic
  let frame₀ : EapolKey := { hdr with keyData := wrapped, keyIv := .zero 16 }
  let mic := crypto.micField sm.ptk.kck sm.wpaKeyMgmt (keyVersion sm) frame₀.encode
  have hmicLen : mic.length = sm.wpaKeyMgmt.micLen := Crypto.length_micField _ _ _ _ _
  refine ⟨{ frame₀ with keyMic := mic }, ?_, ?_⟩
  · simp only [sendEapol, halloc, Bool.not_true, Bool.false_eq_true, if_false, hallocData', henc,
      addMic, Option.bind_some, ← hhdr, hhdrMic, if_true, hvalid']
    rfl
  intro conf' ans supp hakm hunwrapAlloc hset hkek
  have hfits : EapolKey.Fits { frame₀ with keyMic := mic } := by
    refine ⟨Nat.mod_lt _ (by positivity), ?_⟩
    change wrapped.length < 256 ^ 2
    omega
  have hdecode : EapolKey.decode conf'.keyMgmt.micLen
      (EapolKey.encode { frame₀ with keyMic := mic }) = { frame₀ with keyMic := mic } := by
    have h := EapolKey.decode_encode hfits
    rwa [show EapolKey.keyMic { frame₀ with keyMic := mic } = mic from rfl, hmicLen, ← hakm] at h
  refine ⟨padKeyData kde, ?_, hparse⟩
  rw [hdecode, decryptKeyData_of_wrap haes hakm hunwrapAlloc hset rfl
    (by change 8 ≤ wrapped.length; omega) (by change wrapped.length % 8 = 0; omega), hkek]
  exact hunwrap

section Trip

variable {crypto : Crypto} (hwrap : crypto.UnwrapInvertsWrap) {conf : Config} {world : World}
  {sm : WpaAuth.Sm} {gsm : Group} (haes : usesAesWrap sm (keyVersion sm))
  (hvalid : sm.ptkValid) (halloc : world.alloc sm.addr sm.now)
  (hallocData : world.allocKeyData sm.addr sm.now) {e : Element} (he : e.eid = eidRsn)

include hwrap haes hvalid halloc hallocData he

/-- The elements of message 3/4 arrive. -/
lemma elements_arrive (keyidx : ℕ) (tx : Bool) {igtk : Option Bytes} {info : KeyInfo}
    (hmic : info.mic) (rsc : Option (Octets 8)) (hgtk : 5 ≤ gtk.length)
    (hgtkMax : gtk.length ≤ 32) (higtk : ∀ body ∈ igtk, 9 ≤ body.length ∧ body.length ≤ 40) :
    Arrives crypto sm
      (sendEapol conf crypto world .pairwise3 sm gsm info rsc sm.aNonce
        (some (e.octets ++ gtkKde keyidx tx gtk ++ igtkKde igtk))
        (e.octets ++ gtkKde keyidx tx gtk ++ igtkKde igtk).length keyidx true)
      { rsnIe := some e.octets
        gtk := some ([UInt8.ofNat (keyidx % 4 + 4 * tx.toNat), 0] ++ gtk)
        igtk := igtk } := by
  obtain ⟨pad, hpadEq, hpad, -⟩ :=
    padKeyData_eq (e.octets ++ gtkKde keyidx tx gtk ++ igtkKde igtk)
  have hbody := e.length_lt
  have hoctets : e.octets.length = 2 + e.body.length := by
    simp [Element.octets]
    omega
  have hgtkLen : (gtkKde keyidx tx gtk).length = 8 + gtk.length := by
    simp [gtkKde, addKde, rsnKeyDataGroupkey]
    omega
  have higtkLen : (igtkKde igtk).length ≤ 46 := by
    cases igtk with
    | none => simp [igtkKde]
    | some body =>
      have hmax := (higtk body rfl).2
      simp [igtkKde, addKde, rsnKeyDataIgtk]
      omega
  refine sendEapol_arrives hwrap haes hvalid halloc hallocData ?_ ?_ ?_ info hmic rsc _ keyidx
  · rw [length_append, length_append]
    omega
  · rw [length_append, length_append]
    omega
  rw [hpadEq]
  refine parseIes_keyData he ?_ ?_ (fun body hbody => ?_) hpad
  · simp
    omega
  · simp
    omega
  · obtain ⟨hmin, hmax⟩ := higtk body hbody
    omega

omit hwrap haes hvalid halloc hallocData he in
lemma length_gtkFor (h : gtkFor conf world sm gsm = some gtk) : gtk.length = gsm.gtkLen := by
  unfold gtkFor at h
  split at h
  · obtain ⟨dummy, -, rfl⟩ := Option.map_eq_some_iff.mp h
    exact takeD_length _ _ _
  · cases h
    exact takeD_length _ _ _

omit hwrap haes hvalid halloc hallocData he in
lemma length_igtkFor {body : Bytes} (h : body ∈ igtkFor conf world sm gsm) :
    body.length = 8 + conf.groupMgmtCipher.keyLen := by
  unfold igtkFor at h
  split at h
  · cases h
  · obtain ⟨igtk, -, rfl⟩ := Option.map_eq_some_iff.mp h
    simp only [igtkBody, length_append, length_cons, length_nil, takeD_length]

/-- The group keys survive the trip: for every RSN element, group key with its index and Tx bit and
management group key, the key data that is padded, wrapped and sent is unwrapped and parsed into
the same elements and no others; and the message 3/4 that the authenticator sends for a station is
one of these, with the elements of the beacon and the current keys of the group. -/
theorem keyData_survives :
    (∀ (keyidx : ℕ) (tx : Bool) (gtk : Bytes) (igtk : Option Bytes) (info : KeyInfo)
      (rsc : Option (Octets 8)), info.mic → 5 ≤ gtk.length → gtk.length ≤ 32 →
      (∀ body ∈ igtk, 9 ≤ body.length ∧ body.length ≤ 40) →
      Arrives crypto sm
        (sendEapol conf crypto world .pairwise3 sm gsm info rsc sm.aNonce
          (some (e.octets ++ gtkKde keyidx tx gtk ++ igtkKde igtk))
          (e.octets ++ gtkKde keyidx tx gtk ++ igtkKde igtk).length keyidx true)
        { rsnIe := some e.octets
          gtk := some ([UInt8.ofNat (keyidx % 4 + 4 * tx.toNat), 0] ++ gtk)
          igtk := igtk }) ∧
    (∀ gtk, sm.wpa = .wpa2 → world.allocKde sm.addr sm.now → conf.wpaIe = e.octets →
      5 ≤ gsm.gtkLen → gsm.gtkLen ≤ 32 → conf.groupMgmtCipher.validMgmtGroup →
      gtkFor conf world sm gsm = some gtk →
      Arrives crypto sm (sendPairwise3 conf crypto world sm gsm)
        { rsnIe := some e.octets
          gtk := some ([UInt8.ofNat (gsm.gn % 4), 0] ++ gtk)
          igtk := igtkFor conf world sm gsm }) := by
  refine ⟨?_, ?_⟩
  · intro keyidx tx gtk igtk info rsc hmic hgtk hgtkMax higtk
    exact elements_arrive hwrap haes hvalid halloc hallocData he keyidx tx hmic rsc hgtk hgtkMax
      higtk
  intro gtk hwpa2 hallocKde hie hmin hmax hmgmt hgtk
  have hgtkLen := length_gtkFor hgtk
  have hmgmtLen : 1 ≤ conf.groupMgmtCipher.keyLen ∧ conf.groupMgmtCipher.keyLen ≤ 32 := by
    revert hmgmt
    cases conf.groupMgmtCipher <;> decide
  have higtk : ∀ body ∈ igtkFor conf world sm gsm, 9 ≤ body.length ∧ body.length ≤ 40 := by
    intro body hbody
    have hlen := length_igtkFor hbody
    omega
  have hwpaIe : wpaIeFor conf sm = e.octets := by
    have hne : ¬ (sm.wpa = .wpa ∧ conf.protoRsn ∧
        (conf.wpaIe.getD 1 0).toNat + 2 < conf.wpaIe.length ∧ conf.wpaIe.getD 0 0 = eidRsn) := by
      rintro ⟨hwpa, -⟩
      rw [hwpa2] at hwpa
      exact absurd hwpa (by decide)
    unfold wpaIeFor
    rw [if_neg hne, hie]
  unfold sendPairwise3
  rw [if_pos hwpa2, hgtk]
  simp only [hallocKde, Bool.not_true, Bool.false_eq_true, if_false, hwpaIe]
  exact elements_arrive hwrap haes hvalid halloc hallocData he gsm.gn false rfl _ (by omega)
    (by omega) higtk

end Trip

/-- Key data of 58 octets, padded with six: an RSN element, a group key with the index 2 and a
management group key. -/
theorem keyData_survives_of_padding :
    Arrives Crypto.sample { ptkValid := true, mgmtFrameProt := true }
      (sendPairwise3 { wpaIe := [48, 2, 1, 0] } Crypto.sample World.sample
        { ptkValid := true, mgmtFrameProt := true } { gn := 2, gtk := [[], [1, 2, 3, 4, 5]] })
      { rsnIe := some [48, 2, 1, 0]
        gtk := some ([2, 0] ++ [1, 2, 3, 4, 5] ++ replicate 11 0)
        igtk := some ([4, 0] ++ replicate 22 0) } := by
  have hwrap : Crypto.sample.UnwrapInvertsWrap := by
    intro kek plain _ _
    exact ⟨plain ++ replicate 8 0, rfl, by simp, by simp [Crypto.sample]⟩
  let e : Element := { eid := eidRsn, body := [1, 0], length_lt := by decide }
  have htrip := @keyData_survives Crypto.sample hwrap { wpaIe := [48, 2, 1, 0] } World.sample
    { ptkValid := true, mgmtFrameProt := true } { gn := 2, gtk := [[], [1, 2, 3, 4, 5]] }
    (by decide) rfl rfl rfl e rfl
  exact htrip.2 ([1, 2, 3, 4, 5] ++ replicate 11 0) rfl rfl rfl (by decide) (by decide) rfl
    (by decide)

end Hostapd.Wpa
