import Hostapd.Wpa.Common

/-!
# Fast transition: information elements

The parser of the elements in FT Authentication and Reassociation Request frames (`wpa_ft_parse_ies`
and `wpa_ft_parse_ftie` of `common/wpa_common.c`), with the part of `wpa_parse_wpa_ie_rsn` that it
calls.

A pointer into the frame with its length is the list of octets it points to, and `none` where it is
null. The GTK, IGTK and timeout interval elements, which the authenticator does not read, are not
recorded.
-/

namespace Hostapd.Ft

open Wire Wpa List

/-- `WPA_GET_LE16` of the first two octets. -/
def getLe16 (l : Bytes) : ℕ := (l.getD 0 0).toNat + 256 * (l.getD 1 0).toNat

def putLe16 (n : ℕ) : Bytes := [UInt8.ofNat n, UInt8.ofNat (n / 256)]

@[simp] lemma length_putLe16 (n : ℕ) : (putLe16 n).length = 2 := rfl

lemma getLe16_putLe16_append {n : ℕ} (h : n < 65536) (t : Bytes) :
    getLe16 (putLe16 n ++ t) = n := by
  simp only [getLe16, putLe16, cons_append, getD_cons_zero, getD_cons_succ, UInt8.toNat_ofNat']
  omega

/-- `WPA_GET_LE32` of the first four octets. -/
def getLe32 (l : Bytes) : ℕ := getLe16 l + 65536 * getLe16 (l.drop 2)

def putLe32 (n : ℕ) : Bytes := putLe16 n ++ putLe16 (n / 65536)

@[simp] lemma length_putLe32 (n : ℕ) : (putLe32 n).length = 4 := rfl

lemma getLe32_putLe32_append {n : ℕ} (h : n < 4294967296) (t : Bytes) :
    getLe32 (putLe32 n ++ t) = n := by
  simp only [getLe32, getLe16, putLe32, putLe16, cons_append, nil_append, drop_succ_cons,
    drop_zero, getD_cons_zero, getD_cons_succ, UInt8.toNat_ofNat']
  omega

/-! ## The RSN element -/

/-- The cipher suite of a selector, none for an unknown one (`rsn_selector_to_bitfield`). -/
def rsnSelectorToCipher (s : Bytes) : Option Cipher :=
  if s.take 3 ≠ [0x00, 0x0f, 0xac] then none
  else
    match (s.getD 3 0).toNat with
    | 0 => some .none
    | 2 => some .tkip
    | 4 => some .ccmp
    | 6 => some .aes128Cmac
    | 7 => some .gtkNotUsed
    | 8 => some .gcmp
    | 9 => some .gcmp256
    | 10 => some .ccmp256
    | 11 => some .bipGmac128
    | 12 => some .bipGmac256
    | 13 => some .bipCmac256
    | _ => none

/-- The suite can protect group traffic (`wpa_cipher_valid_group`). -/
def validGroup (c : Cipher) : Bool := c.validPairwise || c == .gtkNotUsed

variable (rest : Bytes)

/-- Skip the group cipher suite. -/
def skipGroupCipher : Option Bytes :=
  if 4 ≤ rest.length then
    if (rsnSelectorToCipher (rest.take 4)).any validGroup then some (rest.drop 4) else none
  else if 0 < rest.length then none
  else some rest

/-- A counted list of selectors at the front, none of which may satisfy `refused`. -/
def skipSelectors (refused : Bytes → Bool) (rest : Bytes) : Option Bytes :=
  if 2 ≤ rest.length then
    let count := getLe16 rest
    let rest := rest.drop 2
    if count = 0 ∨ rest.length / 4 < count then none
    else if (range count).any fun i => refused ((rest.drop (4 * i)).take 4) then none
    else some (rest.drop (4 * count))
  else if rest.length = 1 then none
  else some rest

def skipCapabilities : Bytes :=
  if 2 ≤ rest.length then rest.drop 2 else rest

/-- The number of PMKIDs and the octets that they start with, and what is left behind them. -/
def takePmkids : Option ((ℕ × Option Bytes) × Bytes) :=
  if 2 ≤ rest.length then
    let num := getLe16 rest
    let rest := rest.drop 2
    if rest.length / 16 < num then none else some ((num, some rest), rest.drop (16 * num))
  else some ((0, none), rest)

/-- The management group cipher at the front is one that can protect management frames. -/
def validMgmtGroupCipher : Bool :=
  rest.length < 4 || (rsnSelectorToCipher (rest.take 4)).any Cipher.validMgmtGroup

/-- The PMKIDs in the body of an RSN element; none if it is refused (`wpa_parse_wpa_ie_rsn`). -/
def parseWpaIeRsn (body : Bytes) : Option (ℕ × Option Bytes) := do
  -- An OSEN element has a vendor type in place of the version.
  let rest ←
    if 4 ≤ body.length ∧ body.take 4 = [0x50, 0x6f, 0x9a, 0x12] then some (body.drop 4)
    else if body.length < 2 ∨ getLe16 body ≠ 1 then none
    else some (body.drop 2)
  let rest ← skipGroupCipher rest
  let rest ← skipSelectors (fun s => rsnSelectorToCipher s == some .aes128Cmac) rest
  let rest ← skipSelectors (fun _ => false) rest
  let (pmkids, rest) ← takePmkids (skipCapabilities rest)
  if validMgmtGroupCipher rest then some pmkids else none

/-! ## The elements of fast transition -/

/-- The elements found in a frame (`struct wpa_ft_ies`). -/
structure FtIes where
  mdie : Option Bytes := none
  ftie : Option Bytes := none
  r1khId : Option Bytes := none
  r0khId : Option Bytes := none
  rsn : Option Bytes := none
  rsnPmkid : Option Bytes := none
  /-- The resource information container: at first everything from its first element on. -/
  ric : Option Bytes := none

/-- `sizeof(struct rsn_ftie)`: MIC control, MIC, ANonce and SNonce. -/
def ftieLen : ℕ := 82

variable (ftie : Bytes)

def ftieMic : Bytes := (ftie.drop 2).take 16

def ftieANonce : Nonce := Octets.ofList 32 (ftie.drop 18)

def ftieSNonce : Nonce := Octets.ofList 32 (ftie.drop 50)

/-- The number of elements the MIC protects, the second octet of the MIC control field. -/
def ftieCount : ℕ := (ftie.getD 1 0).toNat

/-- The longest R0KH-ID (`FT_R0KH_ID_MAX_LEN`). -/
def r0khIdMaxLen : ℕ := 48

/-- One subelement of an FTIE. -/
def parseSubelement (id : UInt8) (body : Bytes) (parse : FtIes) : Option FtIes :=
  if id = 1 then
    if body.length ≠ 6 then none else some { parse with r1khId := some body }
  else if id = 3 then
    if body.length < 1 ∨ r0khIdMaxLen < body.length then none
    else some { parse with r0khId := some body }
  else some parse

/-- The loop over the subelements, with at most `n` of them. -/
def parseSubelements : ℕ → Bytes → FtIes → Option FtIes
  | 0, _, parse => some parse
  | n + 1, rest, parse =>
    if rest.length < 2 then some parse
    else
      let len := (rest.getD 1 0).toNat
      if rest.length - 2 < len then some parse
      else do
        let parse ← parseSubelement (rest.getD 0 0) ((rest.drop 2).take len) parse
        parseSubelements n (rest.drop (2 + len)) parse

/-- The fast transition element with its subelements (`wpa_ft_parse_ftie`). -/
def parseFtie (ie : Bytes) (parse : FtIes) : Option FtIes :=
  parseSubelements ie.length (ie.drop ftieLen) { parse with ftie := some ie }

/-- One element of the frame; `rest` are the octets from its header on. -/
def parseElement (id : UInt8) (body rest : Bytes) (parse : FtIes) : Option FtIes :=
  match id.toNat with
  | 48 => do
    let (num, pmkid) ← parseWpaIeRsn body
    some { parse with
      rsn := some body
      rsnPmkid := if num = 1 then (pmkid.map (·.take 16)).or parse.rsnPmkid else parse.rsnPmkid }
  | 54 => if body.length < 3 then none else some { parse with mdie := some body }
  | 55 => if body.length < ftieLen then none else parseFtie body parse
  | 57 => some { parse with ric := some (parse.ric.getD rest) }
  | _ => some parse

/-- The loop over the elements, with at most `n` of them. -/
def parseElements : ℕ → Bytes → FtIes → Option FtIes
  | 0, _, parse => some parse
  | n + 1, rest, parse =>
    if rest.length < 2 then some parse
    else
      let len := (rest.getD 1 0).toNat
      if rest.length - 2 < len then some parse
      else do
        let parse ← parseElement (rest.getD 0 0) ((rest.drop 2).take len) rest parse
        parseElements n (rest.drop (2 + len)) parse

/-- The elements of the resource information container, at most `n` of them: how many are missing
and what they are. -/
def takeRic : ℕ → Bytes → ℕ × Bytes
  | 0, _ => (0, [])
  | n + 1, rest =>
    let len := 2 + (rest.getD 1 0).toNat
    if 2 ≤ rest.length ∧ len ≤ rest.length then
      let (missing, ric) := takeRic n (rest.drop len)
      (missing, rest.take len ++ ric)
    else (n + 1, [])

/-- Compare the elements with the number of them that the MIC protects. -/
def checkProtected (parse : FtIes) : Option FtIes :=
  let count := (parse.ftie.map ftieCount).getD 0
  -- Without a MIC the length of the container stays zero.
  if count = 0 then some { parse with ric := parse.ric.map fun _ => [] }
  else
    let known := parse.rsn.toList.length + parse.mdie.toList.length + parse.ftie.toList.length
    if count < known then none
    else
      match parse.ric with
      | none => if count = known then some parse else none
      | some ric =>
        if count = known then none
        else
          let (missing, ric) := takeRic (count - known) ric
          if missing = 0 then some { parse with ric := some ric } else none

/-- The elements of a frame, none if it is refused (`wpa_ft_parse_ies`). -/
def parseIes (ies : Bytes) : Option FtIes :=
  parseElements ies.length ies {} >>= checkProtected

/-- The number of complete elements, `n` at most (`ieee802_11_ie_count`). -/
def ieCount : ℕ → Bytes → ℕ
  | 0, _ => 0
  | n + 1, rest =>
    let len := 2 + (rest.getD 1 0).toNat
    if rest.length < 2 ∨ rest.length < len then 0 else ieCount n (rest.drop len) + 1

def element (id : UInt8) (body : Bytes) : Bytes := id :: UInt8.ofNat body.length :: body

/-- The mobility domain element (`wpa_write_mdie`). -/
def writeMdie (mobilityDomain : Octets 2) (ftOverDs : Bool) : Bytes :=
  element 54 (mobilityDomain.val ++ [if ftOverDs then 1 else 0])

/-- The fast transition element without a MIC, with the key holders (`wpa_write_ftie`). -/
def writeFtie (r0khId : Bytes) (r1khId : Octets 6) (aNonce sNonce : Nonce) : Bytes :=
  element 55 (replicate 18 0 ++ aNonce.val ++ sNonce.val ++ element 1 r1khId.val ++
    element 3 r0khId)

end Hostapd.Ft
