import Hostapd.Foundation.Octets

/-!
# Wi-Fi Protected Setup: attributes

The attribute format of WSC messages (`wps_attr_parse.c`). A message is a sequence of attributes,
each with a 16-bit type, a 16-bit length and a value. The parser keeps the attributes it knows, in
the order in which they came, with the offset of the value in the message: the pointer `attr->x` is
the last attribute of type `x` (`Attrs.get?`). The build is the one without `CONFIG_WPS_STRICT`, in
which the workarounds are part of the parser and `wps_validate_*` accept everything.
-/

namespace Hostapd.Wps

open Wire

/-- The attribute types that `wps_set_attr` handles. -/
inductive AttrType where
  | version | msgType | enrolleeNonce | registrarNonce | uuidE | uuidR | authTypeFlags
  | encrTypeFlags | connTypeFlags | configMethods | selectedRegistrarConfigMethods
  | primaryDevType | rfBands | assocState | configError | devPasswordId | oobDevicePassword
  | osVersion | wpsState | authenticator | rHash1 | rHash2 | eHash1 | eHash2 | rSnonce1 | rSnonce2
  | eSnonce1 | eSnonce2 | keyWrapAuth | authType | encrType | networkIndex | networkKeyIndex
  | macAddr | selectedRegistrar | requestType | responseType | manufacturer | modelName
  | modelNumber | serialNumber | devName | publicKey | encrSettings | cred | ssid | networkKey
  | apSetupLocked | requestedDevType | secondaryDevTypeList | vendorExt | apChannel
  deriving DecidableEq

/-- The number of an attribute type (`enum wps_attribute`). -/
def AttrType.code : AttrType → ℕ
  | .apChannel => 0x1001
  | .assocState => 0x1002
  | .authType => 0x1003
  | .authTypeFlags => 0x1004
  | .authenticator => 0x1005
  | .configMethods => 0x1008
  | .configError => 0x1009
  | .connTypeFlags => 0x100d
  | .cred => 0x100e
  | .encrType => 0x100f
  | .encrTypeFlags => 0x1010
  | .devName => 0x1011
  | .devPasswordId => 0x1012
  | .eHash1 => 0x1014
  | .eHash2 => 0x1015
  | .eSnonce1 => 0x1016
  | .eSnonce2 => 0x1017
  | .encrSettings => 0x1018
  | .enrolleeNonce => 0x101a
  | .keyWrapAuth => 0x101e
  | .macAddr => 0x1020
  | .manufacturer => 0x1021
  | .msgType => 0x1022
  | .modelName => 0x1023
  | .modelNumber => 0x1024
  | .networkIndex => 0x1026
  | .networkKey => 0x1027
  | .networkKeyIndex => 0x1028
  | .oobDevicePassword => 0x102c
  | .osVersion => 0x102d
  | .publicKey => 0x1032
  | .registrarNonce => 0x1039
  | .requestType => 0x103a
  | .responseType => 0x103b
  | .rfBands => 0x103c
  | .rHash1 => 0x103d
  | .rHash2 => 0x103e
  | .rSnonce1 => 0x103f
  | .rSnonce2 => 0x1040
  | .selectedRegistrar => 0x1041
  | .serialNumber => 0x1042
  | .wpsState => 0x1044
  | .ssid => 0x1045
  | .uuidE => 0x1047
  | .uuidR => 0x1048
  | .vendorExt => 0x1049
  | .version => 0x104a
  | .selectedRegistrarConfigMethods => 0x1053
  | .primaryDevType => 0x1054
  | .secondaryDevTypeList => 0x1055
  | .apSetupLocked => 0x1057
  | .requestedDevType => 0x106a

/-- The attribute types in the order in which `wps_set_attr` compares them. -/
def AttrType.all : List AttrType :=
  [.version, .msgType, .enrolleeNonce, .registrarNonce, .uuidE, .uuidR, .authTypeFlags,
   .encrTypeFlags, .connTypeFlags, .configMethods, .selectedRegistrarConfigMethods,
   .primaryDevType, .rfBands, .assocState, .configError, .devPasswordId, .oobDevicePassword,
   .osVersion, .wpsState, .authenticator, .rHash1, .rHash2, .eHash1, .eHash2, .rSnonce1, .rSnonce2,
   .eSnonce1, .eSnonce2, .keyWrapAuth, .authType, .encrType, .networkIndex, .networkKeyIndex,
   .macAddr, .selectedRegistrar, .requestType, .responseType, .manufacturer, .modelName,
   .modelNumber, .serialNumber, .devName, .publicKey, .encrSettings, .cred, .ssid, .networkKey,
   .apSetupLocked, .requestedDevType, .secondaryDevTypeList, .vendorExt, .apChannel]

/-- The attribute type of a number, none for a type the parser skips. -/
def AttrType.ofCode (n : ℕ) : Option AttrType := AttrType.all.find? fun t => t.code = n

/-- An attribute that was kept. -/
structure Attr where
  type : AttrType
  offset : ℕ
  value : Bytes

/-- What the parser has kept of a message, in order (`struct wps_parse_attr`). -/
abbrev Attrs := List Attr

variable (as : Attrs) (t : AttrType)

/-- The attribute that `attr->t` points to: a later one of a type replaces an earlier one. -/
def Attrs.find : Option Attr :=
  as.reverse.find? fun a => a.type = t

/-- The value that `attr->t` points to. -/
def Attrs.get? : Option Bytes := (as.find t).map Attr.value

/-- The first octet that `attr->t` points to. -/
def Attrs.octet? : Option UInt8 :=
  (as.get? t).map fun value => value.headD 0

/-- The values of all attributes of a type, the first one first. -/
def Attrs.values : List Bytes :=
  (as.filter fun a => a.type = t).map Attr.value

/-! ## One attribute -/

/-- What `wps_set_attr` does with an attribute. -/
inductive Verdict where
  | invalid
  | skipped
  | kept (value : Bytes)

def exactly (n : ℕ) (value : Bytes) : Verdict :=
  if value.length = n then .kept value else .invalid

/-- `wps_parse_vendor_ext_wfa`: whether all subelements have the lengths they must have. -/
def vendorExtWfaValid : ℕ → Bytes → Bool
  | fuel + 1, id :: len :: rest =>
    if rest.length < len.toNat then true
    else if (id = 0x00 ∨ id = 0x02 ∨ id = 0x03 ∨ id = 0x04) ∧ len ≠ 1 then false
    else if id = 0x05 ∧ len ≠ 2 then false
    else vendorExtWfaValid fuel (rest.drop len.toNat)
  | _, _ => true

variable (value : Bytes)

/-- `wps_parse_vendor_ext`.  Extensions of other vendors are kept, ten at most. -/
def parseVendorExt : Verdict :=
  if value.length < 3 then .skipped
  else if value.take 3 = [0x00, 0x37, 0x2a] then
    if vendorExtWfaValid value.length (value.drop 3) then .skipped else .invalid
  else if 1024 < value.length then .invalid
  else if 10 ≤ (as.values .vendorExt).length then .invalid
  else .kept value

/-- `wps_set_attr`: what is done with an attribute of type `t`, after the attributes `as`. -/
def setAttr : Verdict :=
  match t with
  | .version | .msgType | .connTypeFlags | .rfBands | .wpsState | .networkIndex | .networkKeyIndex
  | .selectedRegistrar | .requestType | .responseType | .apSetupLocked => exactly 1 value
  | .authTypeFlags | .encrTypeFlags | .configMethods | .selectedRegistrarConfigMethods
  | .assocState | .configError | .devPasswordId | .authType | .encrType | .apChannel =>
    exactly 2 value
  | .osVersion => exactly 4 value
  | .macAddr => exactly 6 value
  | .primaryDevType | .authenticator | .keyWrapAuth => exactly 8 value
  | .enrolleeNonce | .registrarNonce | .uuidE | .uuidR | .rSnonce1 | .rSnonce2 | .eSnonce1
  | .eSnonce2 => exactly 16 value
  | .rHash1 | .rHash2 | .eHash1 | .eHash2 => exactly 32 value
  | .oobDevicePassword =>
    if value.length < 22 ∨ 54 < value.length ∨
        (value.length < 38 ∧ ofBe16 (value.drop 20) ≠ 7) then .invalid
    else .kept value
  | .manufacturer => .kept (value.take 64)
  | .modelName | .modelNumber | .serialNumber => .kept (value.take 32)
  | .devName | .ssid => if 32 < value.length then .skipped else .kept value
  | .publicKey =>
    -- A few octets may be missing: some implementations do not pad the number with zeros.
    if value.length < 190 ∨ 192 < value.length then .skipped else .kept value
  | .encrSettings | .networkKey => .kept value
  | .cred => if 10 ≤ (as.values .cred).length then .skipped else .kept value
  | .requestedDevType =>
    if value.length ≠ 8 then .invalid
    else if 10 ≤ (as.values .requestedDevType).length then .skipped
    else .kept value
  | .secondaryDevTypeList =>
    if 128 < value.length ∨ 0 < value.length % 8 then .invalid else .kept value
  | .vendorExt => parseVendorExt as value

/-! ## A message -/

/-- The attributes of the octets from offset `pos` on, after the attributes `as`. Every turn takes
at least one octet, so the number of octets is fuel enough. -/
def parseLoop : ℕ → ℕ → Bytes → ℕ → Attrs → Option Attrs
  | _, _, [], _, as => some as
  | 0, _, _ :: _, _, _ => none
  | fuel + 1, pos, msg@(_ :: tail), prev, as =>
    if msg.length < 4 then none
    else
      let type := (ofBe16 msg).toNat
      let len := (ofBe16 (msg.drop 2)).toNat
      let rest := msg.drop 4
      if rest.length < len then
        -- Some access points add an octet after the Network Key attribute: it is skipped.
        if type / 256 ≠ 0x10 ∧ prev = AttrType.networkKey.code then
          parseLoop fuel (pos + 1) tail prev as
        else none
      else if type = 0 ∧ len = 0 ∧ rest.all (· = 0) then some as
      else
        match AttrType.ofCode type with
        | none => parseLoop fuel (pos + 4 + len) (rest.drop len) type as
        | some t =>
          match setAttr as t (rest.take len) with
          | .invalid => none
          | .skipped => parseLoop fuel (pos + 4 + len) (rest.drop len) type as
          | .kept value =>
            parseLoop fuel (pos + 4 + len) (rest.drop len) type (as ++ [⟨t, pos + 4, value⟩])

/-- `wps_parse_msg`: the attributes of a message, none if it is malformed. -/
def parseMsg (msg : Bytes) : Option Attrs := parseLoop msg.length 0 msg 0 []

/-! ## Writing attributes -/

/-- The octets of an attribute: type number, length and value. -/
def rawAttr (code : ℕ) : Bytes := toBe 2 code ++ toBe 2 value.length ++ value

def attr : Bytes := rawAttr value t.code

/-- `wps_build_version`: the version octet that all messages have. -/
def buildVersion : Bytes := attr .version [0x10]

/-- `wps_build_wfa_ext` without optional subelements: Version2. -/
def buildWfaExt : Bytes := attr .vendorExt [0x00, 0x37, 0x2a, 0x00, 0x01, 0x20]

/-! ## Reading what was written -/

/-- Attributes, the first of them at offset `pos` and behind the attributes `as`, are read as `as'`:
those that are kept come behind `as`, in order and with the offsets of their values; those of a type
that is not supported, and those that `wps_set_attr` skips, are left out. -/
inductive ReadAs : Attrs → ℕ → List (ℕ × Bytes) → Attrs → Prop
  | nil {as : Attrs} {pos : ℕ} : ReadAs as pos [] as
  | unsupported {as as' : Attrs} {pos code : ℕ} {value : Bytes} {l : List (ℕ × Bytes)}
      (hcode : AttrType.ofCode code = none) (hrest : ReadAs as (pos + 4 + value.length) l as') :
      ReadAs as pos ((code, value) :: l) as'
  | skipped {as as' : Attrs} {pos code : ℕ} {value : Bytes} {l : List (ℕ × Bytes)} {t : AttrType}
      (hcode : AttrType.ofCode code = some t) (hset : setAttr as t value = .skipped)
      (hrest : ReadAs as (pos + 4 + value.length) l as') : ReadAs as pos ((code, value) :: l) as'
  | kept {as as' : Attrs} {pos code : ℕ} {value v : Bytes} {l : List (ℕ × Bytes)} {t : AttrType}
      (hcode : AttrType.ofCode code = some t) (hset : setAttr as t value = .kept v)
      (hrest : ReadAs (as ++ [⟨t, pos + 4, v⟩]) (pos + 4 + value.length) l as') :
      ReadAs as pos ((code, value) :: l) as'

/-- The attribute has a type number, which is not 0, and a length that fit into their fields. -/
def Writable (a : ℕ × Bytes) : Prop := 0 < a.1 ∧ a.1 < 256 ^ 2 ∧ a.2.length < 256 ^ 2

variable {as value}

/-- One turn of the loop takes a whole attribute. -/
lemma parseLoop_rawAttr {code : ℕ} {rest : Bytes} (h : Writable (code, value)) (fuel pos prev : ℕ) :
    parseLoop (fuel + 1) pos (rawAttr value code ++ rest) prev as =
      match AttrType.ofCode code with
      | none => parseLoop fuel (pos + 4 + value.length) rest code as
      | some t =>
        match setAttr as t value with
        | .invalid => none
        | .skipped => parseLoop fuel (pos + 4 + value.length) rest code as
        | .kept v =>
          parseLoop fuel (pos + 4 + value.length) rest code (as ++ [⟨t, pos + 4, v⟩]) := by
  obtain ⟨hpos, hlt, hlen⟩ := h
  have hword : ∀ n < 256 ^ 2, ∀ l : Bytes, (ofBe16 (toBe 2 n ++ l)).toNat = n := by
    intro n hn l
    rw [ofBe16, beNat_take_toBe hn]
    exact Nat.mod_eq_of_lt hn
  have htype : (ofBe16 (rawAttr value code ++ rest)).toNat = code := by
    rw [rawAttr, List.append_assoc, List.append_assoc, hword _ hlt]
  have hlength : (ofBe16 ((rawAttr value code ++ rest).drop 2)).toNat = value.length :=
    hword _ hlen (value ++ rest)
  have hdrop : (rawAttr value code ++ rest).drop 4 = value ++ rest := rfl
  obtain ⟨o, tail, hmsg⟩ : ∃ o tail, rawAttr value code ++ rest = o :: tail := ⟨_, _, rfl⟩
  have hfour : ¬ (o :: tail).length < 4 := by
    rw [← hmsg]
    simp [rawAttr]
    omega
  rw [hmsg] at htype hlength hdrop ⊢
  rw [parseLoop, if_neg hfour]
  simp only [htype, hlength, hdrop]
  rw [if_neg (by simp), if_neg (by omega), List.take_left, List.drop_left]

/-- What is kept is what the loop reads. -/
lemma ReadAs.parseLoop {l : List (ℕ × Bytes)} {as' : Attrs} {pos : ℕ} (h : ReadAs as pos l as')
    (hl : ∀ a ∈ l, Writable a) {fuel prev : ℕ} (hfuel : l.length ≤ fuel) :
    parseLoop fuel pos (l.flatMap fun a => rawAttr a.2 a.1) prev as = some as' := by
  induction h generalizing fuel prev with
  | nil => cases fuel <;> rfl
  | unsupported hcode _ ih | skipped hcode hset _ ih | kept hcode hset _ ih =>
    obtain ⟨fuel, rfl⟩ := Nat.exists_eq_add_of_lt hfuel
    rw [List.flatMap_cons, parseLoop_rawAttr (hl _ (.head _)), hcode]
    simp only [*]
    exact ih (fun a ha => hl a (.tail _ ha)) (by omega)

end Hostapd.Wps
