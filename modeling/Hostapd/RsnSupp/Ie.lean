import Hostapd.Wpa.Common

/-!
# Parsing EAPOL-Key key data

The supplicant's parser of the information elements and key data encapsulations (KDEs) in the key
data of an EAPOL-Key frame (`rsn_supp/wpa_ie.c`), and what it makes of a sequence of complete
elements followed by padding.

A pointer into the key data together with its length is the list of octets it points to, and `none`
where the C pointer is null.
-/

namespace Hostapd.RsnSupp

open Wire Wpa

/-! ## The parser -/

/-- The elements found in key data (`struct wpa_eapol_ie_parse`). -/
structure EapolIeParse where
  wpaIe : Option Bytes := none
  rsnIe : Option Bytes := none
  pmkid : Option Bytes := none
  gtk : Option Bytes := none
  macAddr : Option Bytes := none
  igtk : Option Bytes := none
  mdie : Option Bytes := none
  ftie : Option Bytes := none
  reassocDeadline : Option Bytes := none
  keyLifetime : Option Bytes := none
  lnkid : Option Bytes := none
  extCapab : Option Bytes := none
  suppRates : Option Bytes := none
  extSuppRates : Option Bytes := none
  htCapabilities : Option Bytes := none
  vhtCapabilities : Option Bytes := none
  suppChannels : Option Bytes := none
  suppOperClasses : Option Bytes := none
  qosinfo : UInt8 := 0
  aid : UInt16 := 0
  wmm : Option Bytes := none

def eidVendorSpecific : UInt8 := 221

def eidRsn : UInt8 := 48

def rsnKeyDataGroupkey : Bytes := [0x00, 0x0f, 0xac, 1]

def rsnKeyDataMacAddr : Bytes := [0x00, 0x0f, 0xac, 3]

def rsnKeyDataPmkid : Bytes := [0x00, 0x0f, 0xac, 4]

def rsnKeyDataIgtk : Bytes := [0x00, 0x0f, 0xac, 9]

def wpaOuiType : Bytes := [0x00, 0x50, 0xf2, 1]

/-- `OUI_MICROSOFT` followed by `WMM_OUI_TYPE`. -/
def wmmOuiType : Bytes := [0x00, 0x50, 0xf2, 2]

/-- Look for the KDEs of RSN in a vendor specific element (`wpa_parse_generic`). -/
def parseGeneric (el : Bytes) (left : ℕ) (ie : EapolIeParse) : Option EapolIeParse :=
  let len := (el.getD 1 0).toNat
  let body := el.drop 2
  if len = 0 then none
  else if 6 ≤ len ∧ body.take 4 = wpaOuiType ∧ body.getD 4 0 = 1 ∧ body.getD 5 0 = 0 then
    some { ie with wpaIe := some el }
  else if 5 < left ∧ 20 ≤ len ∧ body.take 4 = rsnKeyDataPmkid then
    some { ie with pmkid := some ((body.drop 4).take 16) }
  else if 6 < len ∧ body.take 4 = rsnKeyDataGroupkey then some { ie with gtk := some (body.drop 4) }
  else if 6 < len ∧ body.take 4 = rsnKeyDataMacAddr then
    some { ie with macAddr := some (body.drop 4) }
  else if 6 < len ∧ body.take 4 = rsnKeyDataIgtk then some { ie with igtk := some (body.drop 4) }
  else some ie

/-- Look for a WMM element in a vendor specific element (`wpa_parse_vendor_specific`). -/
def parseVendorSpecific (el : Bytes) (ie : EapolIeParse) : Option EapolIeParse :=
  let len := (el.getD 1 0).toNat
  let body := el.drop 2
  if len < 4 then none
  else if body.take 4 = wmmOuiType ∧ 4 < len ∧ (body.getD 4 0 = 0 ∨ body.getD 4 0 = 1) then
    some { ie with wmm := some body }
  else some ie

/-- One element of the key data; none when the parsing ends here. -/
def parseElement (el : Bytes) (left : ℕ) (ie : EapolIeParse) : Option EapolIeParse :=
  let eid := el.getD 0 0
  let len := (el.getD 1 0).toNat
  let body := el.drop 2
  if eid = eidRsn then some { ie with rsnIe := some el }
  else if eid = 54 ∧ 3 ≤ len then some { ie with mdie := some el }
  else if eid = 55 ∧ 82 ≤ len then some { ie with ftie := some el }
  else if eid = 56 ∧ 5 ≤ len then
    if body.getD 0 0 = 1 then some { ie with reassocDeadline := some el }
    else if body.getD 0 0 = 2 then some { ie with keyLifetime := some el }
    else some ie
  else if eid = 101 then if 18 ≤ len then some { ie with lnkid := some el } else some ie
  else if eid = 127 then some { ie with extCapab := some el }
  else if eid = 1 then some { ie with suppRates := some el }
  else if eid = 50 then some { ie with extSuppRates := some el }
  else if eid = 45 ∧ 26 ≤ len then some { ie with htCapabilities := some body }
  else if eid = 197 then
    if 2 ≤ len then
      some { ie with aid := UInt16.ofNat (((body.getD 0 0).toNat + 256 * (body.getD 1 0).toNat) %
        16384) }
    else some ie
  else if eid = 191 ∧ 12 ≤ len then some { ie with vhtCapabilities := some body }
  else if eid = 46 ∧ 1 ≤ len then some { ie with qosinfo := body.getD 0 0 }
  else if eid = 36 then some { ie with suppChannels := some body }
  else if eid = 59 then
    if 2 ≤ len ∧ len ≤ 253 then some { ie with suppOperClasses := some body } else some ie
  else if eid = eidVendorSpecific then
    match parseGeneric el left ie with
    | none => none
    | some ie' => parseVendorSpecific el ie'
  else some ie

/-- The loop over the key data, with at most `n` elements; none if an element does not end inside
the key data. -/
def parseLoop : ℕ → EapolIeParse → Bytes → Option EapolIeParse
  | 0, ie, _ => some ie
  | n + 1, ie, rest =>
    if rest.length ≤ 1 then some ie
    else
      let len := (rest.getD 1 0).toNat
      -- Padding: the other test of the source, that 0xdd is the last octet, is the loop condition.
      if rest.getD 0 0 = 0xdd ∧ len = 0 then some ie
      else if rest.length < 2 + len then none
      else
        match parseElement (rest.take (2 + len)) rest.length ie with
        | none => some ie
        | some ie' => parseLoop n ie' (rest.drop (2 + len))

/-- Parse key data; none for an element that does not end inside it
(`wpa_supplicant_parse_ies`). -/
def parseIes (buf : Bytes) : Option EapolIeParse := parseLoop buf.length {} buf

/-! ## Complete elements -/

/-- A complete element: an identifier, a length and that many octets. -/
structure Element where
  eid : UInt8
  body : Bytes
  length_lt : body.length < 256

namespace Element

def octets (e : Element) : Bytes := e.eid :: UInt8.ofNat e.body.length :: e.body

lemma toNat_length (e : Element) : (UInt8.ofNat e.body.length).toNat = e.body.length := by
  simp [Nat.mod_eq_of_lt e.length_lt]

/-- An element is recorded as `ie'` wherever it stands: it is not taken for padding, and the parser
goes on behind it. -/
def Gives (e : Element) (ie ie' : EapolIeParse) : Prop :=
  ¬ (e.eid = 0xdd ∧ e.body.length = 0) ∧
    ∀ left, e.octets.length ≤ left → parseElement e.octets left ie = some ie'

end Element

/-- One round of the parser. -/
lemma parseLoop_element {e : Element} {ie ie' : EapolIeParse} (h : e.Gives ie ie') (n : ℕ)
    (rest : Bytes) : parseLoop (n + 1) ie (e.octets ++ rest) = parseLoop n ie' rest := by
  obtain ⟨hpad, hgives⟩ := h
  have hlen : (e.octets ++ rest).length = 2 + e.body.length + rest.length := by
    simp [Element.octets]
    omega
  have hlenOctet : ((e.octets ++ rest).getD 1 0).toNat = e.body.length := e.toNat_length
  have heid : (e.octets ++ rest).getD 0 0 = e.eid := rfl
  have hoctets : e.octets.length = 2 + e.body.length := by
    simp [Element.octets]
    omega
  have htake : (e.octets ++ rest).take (2 + e.body.length) = e.octets := by
    rw [← hoctets, List.take_left]
  have hdrop : (e.octets ++ rest).drop (2 + e.body.length) = rest := by
    rw [← hoctets, List.drop_left]
  rw [parseLoop, if_neg (by omega)]
  simp only [hlenOctet, heid, if_neg hpad, htake, hdrop]
  rw [if_neg (by omega), hgives _ (by rw [hlen, hoctets]; omega)]

/-- The padding of key data: nothing, or 0xdd followed by zero octets. -/
def Padding (pad : Bytes) : Prop := pad = [] ∨ ∃ k, pad = 0xdd :: List.replicate k 0

lemma parseLoop_padding {pad : Bytes} (h : Padding pad) (n : ℕ) (ie : EapolIeParse) :
    parseLoop n ie pad = some ie := by
  cases n with
  | zero => rfl
  | succ n =>
    rcases h with rfl | ⟨k, rfl⟩
    · rfl
    cases k with
    | zero => rfl
    | succ k =>
      rw [parseLoop, if_neg (by simp)]
      simp [List.replicate_succ]

end Hostapd.RsnSupp
