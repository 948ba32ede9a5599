import Hostapd.Foundation.Der

/-!
# ASN.1 elements

The parser of `src/tls/asn1.c` for elements of identifier, length and content, and for object
identifiers. It is more liberal than the distinguished encoding rules: a tag or a length may be
written with more octets than it needs, and a number of an object identifier may be so long that its
leading digits are shifted out.

`asn1_get_next` reads the identifier and the first length octet without looking at the number of
octets left. When they are not there, the comparison at the end of the function fails, so the model
gives no element where one of them is missing.
-/

namespace Hostapd.Tls

open Wire List

/-! ## Elements -/

/-- An element (`struct asn1_hdr`), with what follows its content. -/
structure Asn1Hdr where
  identifier : UInt8
  tag : ℕ
  payload : Bytes
  rest : Bytes

def Asn1Hdr.cls (hdr : Asn1Hdr) : ℕ := hdr.identifier.toNat / 64

def asn1ClassUniversal : ℕ := 0

def asn1TagInteger : ℕ := 2

def asn1TagOctetString : ℕ := 4

def asn1TagOid : ℕ := 6

def asn1TagSequence : ℕ := 16

/-- A tag of more than one octet. -/
def extendedTag : ℕ → Bytes → Option (ℕ × Bytes)
  | _, [] => none
  | tag, tmp :: pos =>
    let tag := (tag * 128 + (tmp &&& 0x7f).toNat) % 2 ^ 32
    if tmp &&& 0x80 = 0 then some (tag, pos) else extendedTag tag pos

/-- The tag of an element. -/
def asn1Tag (identifier : UInt8) (pos : Bytes) : Option (ℕ × Bytes) :=
  if identifier &&& 0x1f = 0x1f then extendedTag 0 pos
  else some ((identifier &&& 0x1f).toNat, pos)

/-- A length, in one octet or in at most four that follow it. -/
def asn1Length : Bytes → Option (ℕ × Bytes)
  | [] => none
  | tmp :: pos =>
    if tmp &&& 0x80 = 0 then some (tmp.toNat, pos)
    else if tmp = 0xff then none
    else
      let n := (tmp &&& 0x7f).toNat
      if 4 < n ∨ pos.length < n then none else some (beNat (pos.take n), pos.drop n)

/-- The first element of a buffer (`asn1_get_next`). -/
def asn1GetNext (buf : Bytes) : Option Asn1Hdr :=
  match buf with
  | [] => none
  | identifier :: pos => do
    let (tag, pos) ← asn1Tag identifier pos
    let (length, pos) ← asn1Length pos
    if pos.length % 2 ^ 32 < length then none
    else
      some { identifier, tag, payload := pos.take length, rest := pos.drop length }

/-- The first element of a buffer, if it is a universal one with this tag. -/
def asn1Expect (tag : ℕ) (buf : Bytes) : Option Asn1Hdr := do
  let hdr ← asn1GetNext buf
  if hdr.cls ≠ asn1ClassUniversal ∨ hdr.tag ≠ tag then none else some hdr

/-! ## Object identifiers -/

def asn1MaxOidLen : ℕ := 20

/-- Take up a number of an object identifier; the first one stands for two. -/
def addOidValue (oid : List ℕ) (val : ℕ) : List ℕ :=
  if oid.length = 0 then [min (val / 40) 2, val - min (val / 40) 2 * 40] else oid ++ [val]

/-- The numbers of an object identifier (`asn1_parse_oid`). -/
def parseOidFrom (val : ℕ) (more : Bool) (oid : List ℕ) : Bytes → Option (List ℕ)
  | [] => if more then none else some oid
  | tmp :: pos =>
    let val := (val * 128 + (tmp &&& 0x7f).toNat) % 2 ^ 64
    if tmp &&& 0x80 ≠ 0 then parseOidFrom val true oid pos
    else if asn1MaxOidLen ≤ oid.length then none
    else parseOidFrom 0 false (addOidValue oid val) pos

/-- The numbers of an object identifier (`asn1_parse_oid`). -/
def asn1ParseOid (buf : Bytes) : Option (List ℕ) := parseOidFrom 0 false [] buf

/-- The object identifier at the start of a buffer and its element (`asn1_get_oid`). -/
def asn1GetOid (buf : Bytes) : Option (Asn1Hdr × List ℕ) := do
  let hdr ← asn1GetNext buf
  if hdr.payload.length = 0 then none
  else if hdr.cls ≠ asn1ClassUniversal ∨ hdr.tag ≠ asn1TagOid then none
  else return (hdr, ← asn1ParseOid hdr.payload)

/-! ## What is parsed -/

variable {buf pos pos' : Bytes} {hdr : Asn1Hdr} {tag n : ℕ} {identifier : UInt8}

lemma asn1Length_lt (h : asn1Length buf = some (n, pos)) : n < 2 ^ 32 := by
  cases buf with
  | nil => cases h
  | cons tmp buf =>
    rw [asn1Length] at h
    split at h
    · cases h
      exact tmp.toNat_lt.trans (by norm_num)
    split_ifs at h
    dsimp only at h
    split_ifs at h with hlen
    cases h
    refine (beNat_lt _).trans_le ?_
    calc 256 ^ (buf.take (tmp &&& 0x7f).toNat).length ≤ 256 ^ 4 :=
          Nat.pow_le_pow_right (by norm_num) ((length_take_le _ _).trans (by omega))
      _ = 2 ^ 32 := by norm_num

/-- The parts of an element that is read. -/
lemma asn1GetNext_eq_some (h : asn1GetNext buf = some hdr) :
    ∃ identifier pos tag pos' n pos'', buf = identifier :: pos ∧
      asn1Tag identifier pos = some (tag, pos') ∧ asn1Length pos' = some (n, pos'') ∧
      n ≤ pos''.length % 2 ^ 32 ∧
      hdr = ⟨identifier, tag, pos''.take n, pos''.drop n⟩ := by
  cases buf with
  | nil => cases h
  | cons identifier pos =>
    obtain ⟨⟨tag, pos'⟩, htag, h⟩ := Option.bind_eq_some_iff.mp h
    obtain ⟨⟨n, pos''⟩, hlength, h⟩ := Option.bind_eq_some_iff.mp h
    dsimp only at h
    split_ifs at h
    · next hle =>
      cases h
      exact ⟨identifier, pos, tag, pos', n, pos'', rfl, htag, hlength, not_lt.mp hle, rfl⟩

lemma asn1GetNext_payload_lt (h : asn1GetNext buf = some hdr) : hdr.payload.length < 2 ^ 32 := by
  obtain ⟨identifier, pos, tag, pos', n, pos'', -, -, hlength, -, rfl⟩ := asn1GetNext_eq_some h
  exact (length_take_le _ _).trans_lt (asn1Length_lt hlength)

/-! ## Object identifiers that are parsed -/

/-- The numbers of an object identifier can be read. -/
structure OidFits (oid : List ℕ) : Prop where
  two_le : 2 ≤ oid.length
  le_max : oid.length ≤ asn1MaxOidLen
  value_lt : ∀ n ∈ Der.oidValues oid, n < 2 ^ 64

lemma oidValues_append {oid : List ℕ} (h : 2 ≤ oid.length) (n : ℕ) :
    Der.oidValues (oid ++ [n]) = Der.oidValues oid ++ [n] := by
  match oid, h with
  | a :: b :: rest, _ => rfl

lemma length_oidValues {oid : List ℕ} (h : 2 ≤ oid.length) :
    (Der.oidValues oid).length + 1 = oid.length := by
  match oid, h with
  | a :: b :: rest, _ => rfl

variable {oid oid' : List ℕ} {val : ℕ} {more : Bool}

/-- A number that is taken up is the next one of those that are written. -/
lemma oidValues_addOidValue (h : oid = [] ∨ OidFits oid) :
    Der.oidValues (addOidValue oid val) = Der.oidValues oid ++ [val] := by
  obtain rfl | h := h
  · have hvalue : min (val / 40) 2 * 40 + (val - min (val / 40) 2 * 40) = val := by omega
    simp [addOidValue, Der.oidValues, hvalue]
  · have htwo := h.two_le
    rw [addOidValue, if_neg (by omega), oidValues_append htwo]

/-- One more number fits. -/
lemma oidFits_addOidValue (h : oid = [] ∨ OidFits oid) (hlen : oid.length < asn1MaxOidLen)
    (hval : val < 2 ^ 64) : OidFits (addOidValue oid val) := by
  have hvalues : ∀ n ∈ Der.oidValues (addOidValue oid val), n < 2 ^ 64 := by
    rw [oidValues_addOidValue h]
    intro n hn
    obtain hn | hn := mem_append.mp hn
    · obtain rfl | h := h
      · cases hn
      · exact h.value_lt n hn
    · exact mem_singleton.mp hn ▸ hval
  obtain rfl | h := h
  · exact ⟨le_rfl, (by decide : 2 ≤ asn1MaxOidLen), hvalues⟩
  · have htwo := h.two_le
    have hnew : (addOidValue oid val).length = oid.length + 1 := by
      rw [addOidValue, if_neg (by omega), length_append, length_singleton]
    exact ⟨by omega, by omega, hvalues⟩

/-- What is read of an object identifier that is not empty fits. -/
lemma parseOidFrom_fits (h : parseOidFrom val more oid buf = some oid')
    (hoid : oid = [] ∨ OidFits oid) (hne : buf = [] → more = false → oid ≠ []) : OidFits oid' := by
  induction buf generalizing val more oid with
  | nil =>
    unfold parseOidFrom at h
    split_ifs at h with hmore
    cases h
    exact hoid.resolve_left (hne rfl (by simpa using hmore))
  | cons tmp buf ih =>
    unfold parseOidFrom at h
    split at h
    · exact ih h hoid (by simp)
    split_ifs at h with hmax
    have hfits := oidFits_addOidValue hoid (not_le.mp hmax)
      (Nat.mod_lt (val * 128 + (tmp &&& 0x7f).toNat) (by norm_num : 2 ^ 64 > 0))
    refine ih h (.inr hfits) fun _ _ hnil => ?_
    have htwo := hfits.two_le
    rw [hnil] at htwo
    cases htwo

lemma asn1GetOid_eq_some (h : asn1GetOid buf = some (hdr, oid)) :
    asn1GetNext buf = some hdr ∧ hdr.payload ≠ [] ∧ asn1ParseOid hdr.payload = some oid := by
  obtain ⟨hdr', hnext, h⟩ := Option.bind_eq_some_iff.mp h
  split_ifs at h with hempty
  obtain ⟨oid', hparse, h⟩ := Option.bind_eq_some_iff.mp h
  cases h
  exact ⟨hnext, fun hnil => hempty (hnil ▸ rfl), hparse⟩

lemma asn1GetOid_fits (h : asn1GetOid buf = some (hdr, oid)) : OidFits oid := by
  obtain ⟨-, hne, hparse⟩ := asn1GetOid_eq_some h
  exact parseOidFrom_fits hparse (.inl rfl) fun hnil => absurd hnil hne

lemma ofNat_digit : ∀ x < 128, UInt8.ofNat x &&& 0x80 = 0 ∧ (UInt8.ofNat x &&& 0x7f).toNat = x ∧
    UInt8.ofNat (128 + x) &&& 0x80 ≠ 0 ∧ (UInt8.ofNat (128 + x) &&& 0x7f).toNat = x := by decide

lemma le_foldl_digits (ds : List ℕ) (v : ℕ) : v ≤ ds.foldl (fun v x => v * 128 + x) v := by
  induction ds generalizing v with
  | nil => exact le_rfl
  | cons x ds ih => exact le_trans (by omega) (ih (v * 128 + x))

/-- Marked digits are shifted in, one by one, and the last one ends the number. -/
lemma parseOidFrom_digits {ds : List ℕ} {d : ℕ} (hds : ∀ x ∈ ds, x < 128) (hd : d < 128)
    (hfits : ds.foldl (fun v x => v * 128 + x) val * 128 + d < 2 ^ 64) :
    parseOidFrom val more oid (ds.map (fun x => UInt8.ofNat (128 + x)) ++ UInt8.ofNat d :: pos) =
      if asn1MaxOidLen ≤ oid.length then none
      else parseOidFrom 0 false
        (addOidValue oid (ds.foldl (fun v x => v * 128 + x) val * 128 + d)) pos := by
  induction ds generalizing val more with
  | nil =>
    obtain ⟨hlast, hvalue, -⟩ := ofNat_digit d hd
    rw [map_nil, nil_append, parseOidFrom, hvalue, if_neg (not_not.mpr hlast)]
    rw [foldl_nil] at hfits ⊢
    rw [Nat.mod_eq_of_lt hfits]
  | cons x ds ih =>
    obtain ⟨-, -, hmark, hvalue⟩ := ofNat_digit x (hds x mem_cons_self)
    have hsmall : val * 128 + x < 2 ^ 64 := by
      have hle := le_foldl_digits ds (val * 128 + x)
      rw [foldl_cons] at hfits
      omega
    rw [map_cons, cons_append, parseOidFrom, hvalue, if_pos hmark, Nat.mod_eq_of_lt hsmall]
    exact ih (fun y hy => hds y (mem_cons_of_mem x hy)) hfits

/-- The numbers that were written are read back. -/
lemma oidValues_of_parseOidFrom {vs : List ℕ} (hvs : ∀ n ∈ vs, n < 2 ^ 64)
    (hoid : oid = [] ∨ OidFits oid)
    (h : parseOidFrom 0 false oid (vs.flatMap Der.base128) = some oid') :
    Der.oidValues oid' = Der.oidValues oid ++ vs := by
  induction vs generalizing oid with
  | nil =>
    cases h
    exact (append_nil _).symm
  | cons n vs ih =>
    obtain ⟨ds, d, hds, hd, hbase, hvalue, -⟩ := Der.base128_eq n
    have hn := hvs n mem_cons_self
    rw [flatMap_cons, hbase, append_assoc, singleton_append,
      parseOidFrom_digits hds hd (hvalue ▸ hn), hvalue] at h
    split_ifs at h with hmax
    rw [ih (fun m hm => hvs m (mem_cons_of_mem n hm))
      (.inr (oidFits_addOidValue hoid (not_le.mp hmax) hn)) h, oidValues_addOidValue hoid,
      append_assoc, singleton_append]

lemma oidValues_of_asn1ParseOid (hfits : OidFits oid)
    (h : asn1ParseOid (Der.oid oid) = some oid') : Der.oidValues oid' = Der.oidValues oid :=
  oidValues_of_parseOidFrom hfits.value_lt (.inl rfl) h

/-! ## Distinguished encodings that are parsed -/

lemma ofNat_and_eq_zero : ∀ n < 128, UInt8.ofNat n &&& 0x80 = 0 := by decide

lemma ofNat_mark : ∀ k < 9, UInt8.ofNat (128 + k) &&& 0x80 ≠ 0 ∧ UInt8.ofNat (128 + k) ≠ 0xff ∧
    (UInt8.ofNat (128 + k) &&& 0x7f).toNat = k := by decide

/-- A distinguished length is read as written. -/
lemma asn1Length_der {m : ℕ} (hn : n < 256 ^ 8)
    (h : asn1Length (Der.length n ++ pos) = some (m, pos')) : m = n ∧ pos' = pos := by
  unfold Der.length at h
  split at h
  · next hshort =>
    have hoctet : (UInt8.ofNat n).toNat = n := UInt8.toNat_ofNat_of_lt' (hshort.trans (by decide))
    rw [singleton_append, asn1Length, if_pos (ofNat_and_eq_zero n hshort), hoctet] at h
    cases h
    exact ⟨rfl, rfl⟩
  have hcount : Der.octetCount n < 9 := Nat.lt_succ_of_le (Der.octetCount_le hn)
  obtain ⟨hmark, hreserved, hnumber⟩ := ofNat_mark _ hcount
  rw [cons_append, asn1Length, if_neg hmark, if_neg hreserved, hnumber] at h
  dsimp only at h
  split_ifs at h
  have hlen : (toBe (Der.octetCount n) n).length = Der.octetCount n := length_toBe _ _
  rw [take_left' hlen, drop_left' hlen, beNat_toBe, Nat.mod_eq_of_lt (Der.lt_pow_octetCount n)] at h
  cases h
  exact ⟨rfl, rfl⟩

/-- A distinguished element is read as written. -/
lemma asn1GetNext_tlv {content rest : Bytes} (hid : identifier &&& 0x1f ≠ 0x1f)
    (hlen : content.length < 256 ^ 8)
    (h : asn1GetNext (Der.tlv identifier content ++ rest) = some hdr) :
    hdr.payload = content ∧ hdr.rest = rest := by
  obtain ⟨first, pos, tag, pos', n, pos'', hbuf, htag, hlength, -, rfl⟩ := asn1GetNext_eq_some h
  simp only [Der.tlv, cons_append, append_assoc, List.cons.injEq] at hbuf
  obtain ⟨rfl, rfl⟩ := hbuf
  rw [asn1Tag, if_neg hid] at htag
  cases htag
  obtain ⟨rfl, rfl⟩ := asn1Length_der hlen hlength
  exact ⟨take_left, drop_left⟩

end Hostapd.Tls
