import Hostapd.Radius.Msg

/-!
# The attributes a message stands for

A RADIUS message is a header and a list of attributes; `struct radius_msg` keeps their octets in a
buffer and their offsets in an array.  `Represents` ties the two together.  It is kept by everything
that adds an attribute, established by the parser, and it turns each loop over the offsets into a
loop over the attributes.
-/

namespace Hostapd.Radius

open Wire Checked List

/-- An attribute: a type and a value of at most `RADIUS_MAX_ATTR_LEN` octets. -/
structure Attr where
  type : UInt8
  data : Bytes
  short : data.length ≤ radiusMaxAttrLen

variable (a : Attr)

namespace Attr

def hdr : RadiusAttrHdr :=
  ⟨a.type, UInt8.ofNat (sizeofRadiusAttrHdr + a.data.length)⟩

def octets : Bytes := a.hdr.type :: a.hdr.length :: a.data

@[simp] lemma length_octets : a.octets.length = 2 + a.data.length := by
  simp only [octets, length_cons]
  omega

@[simp] lemma toNat_length_hdr : a.hdr.length.toNat = 2 + a.data.length := by
  have h : a.data.length ≤ 253 := a.short
  simp only [hdr, sizeofRadiusAttrHdr, UInt8.toNat_ofNat']
  omega

@[simp] lemma type_hdr : a.hdr.type = a.type := rfl

end Attr

def attrOctets (attrs : List Attr) : Bytes := (attrs.map Attr.octets).flatten

@[simp] lemma attrOctets_nil : attrOctets [] = [] := rfl

@[simp] lemma attrOctets_cons (attrs : List Attr) :
    attrOctets (a :: attrs) = a.octets ++ attrOctets attrs := rfl

@[simp] lemma attrOctets_append (as bs : List Attr) :
    attrOctets (as ++ bs) = attrOctets as ++ attrOctets bs := by
  simp [attrOctets]

/-- The offsets of attributes that stand one after the other from `pos` on. -/
def offsets : ℕ → List Attr → List ℕ
  | _, [] => []
  | pos, a :: attrs => pos :: offsets (pos + a.octets.length) attrs

lemma offsets_append (pos : ℕ) (as bs : List Attr) :
    offsets pos (as ++ bs) = offsets pos as ++ offsets (pos + (attrOctets as).length) bs := by
  induction as generalizing pos with
  | nil => simp [offsets]
  | cons a as ih =>
    rw [cons_append, offsets, ih, offsets, attrOctets_cons, length_append,
      Nat.add_assoc, cons_append]

/-- A message whose buffer holds these attributes, with the array pointing at each of them. -/
structure RadiusMsg.Represents (msg : RadiusMsg) (attrs : List Attr) : Prop where
  attrs_eq : msg.attrs = attrOctets attrs
  attrPos_eq : msg.attrPos = offsets sizeofRadiusHdr attrs
  fits : msg.octets.length ≤ msg.size

namespace RadiusMsg.Represents

variable {msg : RadiusMsg} {attrs : List Attr}

lemma length_octets (h : msg.Represents attrs) :
    msg.octets.length = sizeofRadiusHdr + (attrOctets attrs).length := by
  rw [RadiusMsg.length_octets, h.attrs_eq]
  rfl

lemma withHdr (h : msg.Represents attrs) (hdr : RadiusHdr) :
    { msg with hdr := hdr }.Represents attrs := by
  refine ⟨h.attrs_eq, h.attrPos_eq, ?_⟩
  have hfits := h.fits
  rw [RadiusMsg.length_octets] at hfits ⊢
  exact hfits

end RadiusMsg.Represents

/-! ## Adding -/

lemma radiusMsgAddAttrToArray_plenty (msg : RadiusMsg) (pos : ℕ) :
    ∃ size, radiusMsgAddAttrToArray .plenty msg pos =
      some { msg with attrPos := msg.attrPos ++ [pos], attrSize := size } := by
  unfold radiusMsgAddAttrToArray
  split
  · exact ⟨msg.attrSize * 2, rfl⟩
  · exact ⟨msg.attrSize, rfl⟩

variable {msg : RadiusMsg} {attrs : List Attr} {n : ℕ} {σ : Type} {left : Bytes}

lemma RadiusMsg.makeRoom_plenty (hfits : msg.octets.length ≤ msg.size) (needed : ℕ) :
    ∃ size, msg.octets.length + needed ≤ size ∧
      msg.makeRoom .plenty needed = some { msg with size := size } := by
  unfold RadiusMsg.makeRoom
  split
  · exact ⟨msg.octets.length + needed, le_rfl, rfl⟩
  · exact ⟨msg.size, by omega, rfl⟩

lemma RadiusMsg.put_of_le {content : Bytes}
    (h : msg.octets.length + content.length ≤ msg.size) :
    msg.put content = .ok { msg with attrs := msg.attrs ++ content } := if_pos h

/-- Adding an attribute puts it at the end. -/
lemma radiusMsgAddAttr_plenty (h : msg.Represents attrs) (a : Attr) :
    ∃ msg', radiusMsgAddAttr .plenty msg a.type a.data =
        .ok (msg', some (sizeofRadiusHdr + (attrOctets attrs).length)) ∧
      msg'.Represents (attrs ++ [a]) ∧ msg'.hdr = msg.hdr := by
  obtain ⟨size, hsize, hroom⟩ :=
    RadiusMsg.makeRoom_plenty h.fits (sizeofRadiusAttrHdr + a.data.length)
  have hlength := h.length_octets
  simp only [RadiusMsg.length_octets, sizeofRadiusAttrHdr, sizeofRadiusHdr] at hsize hlength
  unfold radiusMsgAddAttr
  rw [if_neg (by have := a.short; omega), hroom]
  dsimp only
  rw [RadiusMsg.put_of_le (by simp; omega), ok_bind,
    RadiusMsg.put_of_le (by simp; omega), ok_bind, Heap.after_plenty]
  obtain ⟨attrSize, harray⟩ := radiusMsgAddAttrToArray_plenty
    { msg with
      attrs := msg.attrs ++ [a.type, UInt8.ofNat (sizeofRadiusAttrHdr + a.data.length)] ++ a.data
      size := size } msg.octets.length
  have hpos : RadiusMsg.octets { msg with size := size } = msg.octets := rfl
  rw [hpos, harray, h.length_octets]
  refine ⟨_, rfl, ?_, rfl⟩
  constructor
  · simp [h.attrs_eq, Attr.octets, Attr.hdr]
  · rw [offsets_append]
    simp [h.attrPos_eq, offsets]
  · simp only [RadiusMsg.length_octets, length_append, length_cons, length_nil]
    omega

/-- A packet cut into EAP-Message attributes, `n` at most. -/
def eapChunks : ℕ → Bytes → List Attr
  | 0, _ => []
  | n + 1, left =>
    if left = [] then []
    else ⟨attrEapMessage, left.take radiusMaxAttrLen, length_take_le _ _⟩ ::
      eapChunks n (left.drop radiusMaxAttrLen)

def eapAttrs (data : Bytes) : List Attr := eapChunks data.length data

lemma flatMap_data_eapChunks (h : left.length ≤ n) :
    (eapChunks n left).flatMap Attr.data = left := by
  induction n generalizing left with
  | zero => simp [eapChunks, length_eq_zero_iff.mp (Nat.le_zero.mp h)]
  | succ n ih =>
    unfold eapChunks
    split
    · next hnil => simp [hnil]
    next hne =>
    have hrest : (left.drop radiusMaxAttrLen).length ≤ n := by
      simp only [length_drop, radiusMaxAttrLen]
      omega
    rw [flatMap_cons, ih hrest, take_append_drop]

lemma eapChunks_carriesEap {a : Attr} (h : a ∈ eapChunks n left) :
    a.type = attrEapMessage ∧ a.data ≠ [] := by
  induction n generalizing left with
  | zero => simp [eapChunks] at h
  | succ n ih =>
    unfold eapChunks at h
    split at h
    · simp at h
    next hne =>
    rcases mem_cons.mp h with rfl | hrest
    · refine ⟨rfl, ?_⟩
      simpa [radiusMaxAttrLen] using hne
    · exact ih hrest

/-- The loop adds the parts of the EAP packet. -/
lemma radiusMsgAddEapLoop_plenty (h : msg.Represents attrs) (left : Bytes) :
    ∃ msg', radiusMsgAddEapLoop .plenty n msg left = .ok (msg', true) ∧
      msg'.Represents (attrs ++ eapChunks n left) ∧ msg'.hdr = msg.hdr := by
  induction n generalizing msg attrs left with
  | zero => exact ⟨msg, rfl, by simpa [eapChunks] using h, rfl⟩
  | succ n ih =>
    unfold radiusMsgAddEapLoop eapChunks
    split
    · exact ⟨msg, rfl, by simpa using h, rfl⟩
    obtain ⟨msg₁, hadd, hrep, hhdr⟩ := radiusMsgAddAttr_plenty h
      ⟨attrEapMessage, left.take radiusMaxAttrLen, length_take_le _ _⟩
    obtain ⟨msg₂, hloop, hrep₂, hhdr₂⟩ := ih hrep (left.drop radiusMaxAttrLen)
    refine ⟨msg₂, ?_, by simpa using hrep₂, hhdr₂.trans hhdr⟩
    rw [Heap.after_plenty, hadd, ok_bind]
    exact hloop

/-! ## Parsing -/

/-- One attribute is parsed. -/
lemma radiusMsgParseAttr_octets (msg : RadiusMsg) (a : Attr) (tail : Bytes) :
    ∃ size, radiusMsgParseAttr .plenty msg (a.octets ++ tail) =
      .ok (.inl { msg with
        attrPos := msg.attrPos ++ [msg.octets.length - (a.octets ++ tail).length]
        attrSize := size }) := by
  have hlength := a.toNat_length_hdr
  obtain ⟨size, harray⟩ := radiusMsgAddAttrToArray_plenty msg
    (msg.octets.length - (a.octets ++ tail).length)
  refine ⟨size, ?_⟩
  have hread : readAt (a.octets ++ tail) 0 sizeofRadiusAttrHdr =
      .ok [a.hdr.type, a.hdr.length] := by
    rfl
  unfold radiusMsgParseAttr
  rw [if_neg (by simp [sizeofRadiusAttrHdr]; omega), hread, ok_bind]
  rw [if_neg (by simp [sizeofRadiusAttrHdr]; omega), Heap.after_plenty, harray]
  rfl

/-- The parser notes the offset of each attribute. -/
lemma visitAll_radiusMsgParseAttr (msg : RadiusMsg) (attrs : List Attr)
    (hend : (attrOctets attrs).length ≤ msg.octets.length) :
    ∃ size, visitAll (radiusMsgParseAttr .plenty) [] msg (attrs.map Attr.octets) =
      .ok (.inl { msg with
        attrPos := msg.attrPos ++ offsets (msg.octets.length - (attrOctets attrs).length) attrs
        attrSize := size }) := by
  induction attrs generalizing msg with
  | nil => exact ⟨msg.attrSize, by simp [visitAll, offsets]⟩
  | cons a attrs ih =>
    obtain ⟨size, hfirst⟩ := radiusMsgParseAttr_octets msg a (attrOctets attrs)
    rw [attrOctets_cons, length_append] at hend
    obtain ⟨size', hrest⟩ := ih { msg with
        attrPos := msg.attrPos ++ [msg.octets.length - (a.octets ++ attrOctets attrs).length]
        attrSize := size }
      (by simp only [RadiusMsg.length_octets] at hend ⊢; omega)
    refine ⟨size', ?_⟩
    rw [map_cons, visitAll]
    have htail : (attrs.map Attr.octets).flatten ++ [] = attrOctets attrs := append_nil _
    rw [htail, hfirst, ok_bind]
    refine hrest.trans ?_
    have hpos : msg.octets.length - (a.octets ++ attrOctets attrs).length + a.octets.length =
        msg.octets.length - (attrOctets attrs).length := by
      rw [length_append]
      omega
    rw [RadiusMsg.length_octets] at hpos
    simp only [offsets, attrOctets_cons, append_assoc, cons_append, nil_append,
      RadiusMsg.length_octets, hpos]

/-- The loop of the parser visits each attribute. -/
lemma walk_radiusMsgParseAttr (msg : RadiusMsg) (attrs : List Attr) :
    walk 0 (fun rest => (rest.getD 1 0).toNat) (radiusMsgParseAttr .plenty)
        (attrOctets attrs).length msg (attrOctets attrs) =
      visitAll (radiusMsgParseAttr .plenty) [] msg (attrs.map Attr.octets) := by
  have hsize : ∀ el ∈ attrs.map Attr.octets, ∀ t : Bytes,
      ((el ++ t).getD 1 0).toNat = el.length := by
    intro el hel t
    obtain ⟨a, -, rfl⟩ := mem_map.mp hel
    rw [a.length_octets]
    exact a.toNat_length_hdr
  have hlong : ∀ el ∈ attrs.map Attr.octets, 0 < el.length + ([] : Bytes).length := by
    intro el hel
    obtain ⟨a, -, rfl⟩ := mem_map.mp hel
    simp
  have hclock : (attrs.map Attr.octets).length ≤ (attrOctets attrs).length := by
    induction attrs with
    | nil => simp
    | cons a attrs ih =>
      have hrest := ih (fun el h => hsize el (mem_cons_of_mem _ h))
        (fun el h => hlong el (mem_cons_of_mem _ h))
      simp only [length_map, length_cons, attrOctets_cons, length_append,
        Attr.length_octets] at hrest ⊢
      omega
  have hend : ([] : Bytes).length ≤ 0 := le_rfl
  have hwalk := walk_flatten 0 (fun rest => (rest.getD 1 0).toNat) (radiusMsgParseAttr .plenty)
    hend hsize hlong hclock msg
  rwa [append_nil] at hwalk

/-- The parser reads a message whose header announces its length as the attributes it is made of. -/
lemma radiusMsgParse_octets (hdr : RadiusHdr) (attrs : List Attr)
    (hlength : hdr.length.toNat = sizeofRadiusHdr + (attrOctets attrs).length) :
    ∃ msg, radiusMsgParse .plenty (hdr.octets ++ attrOctets attrs) = .ok (some msg) ∧
      msg.Represents attrs ∧ msg.hdr = hdr := by
  set octets := hdr.octets ++ attrOctets attrs with hoctets
  have hlen : octets.length = hdr.length.toNat := by
    rw [hoctets, length_append, hdr.length_octets, hlength]
    rfl
  have hfield : ofBe16 (octets.drop 2) = hdr.length :=
    ofBe16_be16 hdr.length (hdr.authenticator.val ++ attrOctets attrs)
  have hauth : Octets.ofList 16 (octets.drop 4) = hdr.authenticator :=
    Octets.ofList_append hdr.authenticator (attrOctets attrs)
  have hattrs : (octets.take hdr.length.toNat).drop sizeofRadiusHdr = attrOctets attrs := by
    rw [← hlen, take_length]
    exact drop_left' hdr.length_octets
  obtain ⟨size, hwalk⟩ := visitAll_radiusMsgParseAttr
    ⟨hdr, attrOctets attrs, hdr.length.toNat, [], radiusDefaultAttrCount⟩ attrs (by simp)
  rw [← walk_radiusMsgParseAttr] at hwalk
  have hstart : (⟨octets.getD 0 0, octets.getD 1 0, hdr.length, hdr.authenticator⟩ : RadiusHdr) =
      hdr := rfl
  unfold radiusMsgParse
  rw [if_neg (by rw [hlen, hlength]; omega), hfield]
  dsimp only
  rw [if_neg (by rw [hlen, hlength]; omega), if_pos (by decide), hattrs, hauth, Heap.after_plenty,
    hstart, hwalk]
  refine ⟨_, rfl, ⟨rfl, ?_, ?_⟩, rfl⟩
  · simp [sizeofRadiusHdr]
  · rw [RadiusMsg.length_octets]
    exact hlength.ge

/-! ## Reading -/

/-- The attribute stands at this offset of the buffer. -/
def RadiusMsg.Holds (msg : RadiusMsg) (pos : ℕ) (a : Attr) : Prop :=
  ∃ rest, msg.octets.drop pos = a.octets ++ rest

namespace RadiusMsg

variable {msg : RadiusMsg} {a : Attr} {attrs : List Attr} {pos : ℕ} {poss : List ℕ} {ρ : Type}
  {visit : σ → ℕ → RadiusAttrHdr → Checked (σ ⊕ ρ)} {s : σ}

lemma Holds.le (h : msg.Holds pos a) : pos + a.octets.length ≤ msg.octets.length := by
  obtain ⟨rest, hrest⟩ := h
  have hlength := congrArg List.length hrest
  simp only [length_drop, length_append, Attr.length_octets] at hlength ⊢
  omega

lemma Holds.readAt_eq (h : msg.Holds pos a) {off : ℕ} (hn : off + n ≤ a.octets.length) :
    readAt msg.octets (pos + off) n = .ok ((a.octets.drop off).take n) := by
  have hle := h.le
  obtain ⟨rest, hrest⟩ := h
  rw [readAt_of_le (by omega), ← drop_drop, hrest, drop_append_of_le_length (by omega),
    take_append_of_le_length (by rw [length_drop]; omega)]

lemma Holds.getAttrHdr (h : msg.Holds pos a) : radiusGetAttrHdr msg pos = .ok a.hdr := by
  have hread : readAt msg.octets (pos + 0) sizeofRadiusAttrHdr = .ok [a.hdr.type, a.hdr.length] :=
    h.readAt_eq (by rw [Attr.length_octets]; simp [sizeofRadiusAttrHdr])
  unfold radiusGetAttrHdr
  rw [← Nat.add_zero pos, hread]
  rfl

lemma Holds.attrValue_eq (h : msg.Holds pos a) : attrValue msg pos a.hdr = .ok a.data := by
  unfold attrValue
  rw [Attr.toNat_length_hdr, h.readAt_eq (by simp [sizeofRadiusAttrHdr])]
  simp [sizeofRadiusAttrHdr, Attr.octets]

lemma holds_offsets {rest : Bytes} (h : msg.octets.drop pos = attrOctets attrs ++ rest) :
    List.Forall₂ msg.Holds (offsets pos attrs) attrs := by
  induction attrs generalizing pos with
  | nil => exact .nil
  | cons a attrs ih =>
    rw [attrOctets_cons, append_assoc] at h
    refine .cons ⟨_, h⟩ (ih ?_)
    rw [← drop_drop, h, drop_left]

lemma Represents.holds_middle (as bs cs : List Attr) (h : msg.Represents (as ++ bs ++ cs)) :
    List.Forall₂ msg.Holds (offsets (sizeofRadiusHdr + (attrOctets as).length) bs) bs := by
  have hsplit : msg.octets =
      (msg.hdr.octets ++ attrOctets as) ++ (attrOctets bs ++ attrOctets cs) := by
    simp [RadiusMsg.octets, h.attrs_eq]
  have hdrop : msg.octets.drop (sizeofRadiusHdr + (attrOctets as).length) =
      attrOctets bs ++ attrOctets cs := by
    rw [hsplit]
    exact drop_left' (by simp [sizeofRadiusHdr])
  exact holds_offsets hdrop

lemma Represents.holds (h : msg.Represents attrs) : List.Forall₂ msg.Holds msg.attrPos attrs := by
  have hall := RadiusMsg.Represents.holds_middle [] attrs [] (by simpa using h)
  rw [h.attrPos_eq]
  simpa using hall

lemma foldlM_attrs {f : σ → ℕ → Checked σ} {g : σ → Attr → σ}
    (h : List.Forall₂ msg.Holds poss attrs)
    (hstep : ∀ s pos a, msg.Holds pos a → f s pos = .ok (g s a)) (s : σ) :
    poss.foldlM f s = .ok (attrs.foldl g s) := by
  induction h generalizing s with
  | nil => rfl
  | cons hhead _ ih =>
    rw [foldlM_cons, hstep _ _ _ hhead, ok_bind, ih, foldl_cons]

lemma scan_skip (h : List.Forall₂ msg.Holds poss attrs)
    (hskip : ∀ pos, ∀ a ∈ attrs, msg.Holds pos a → visit s pos a.hdr = .ok (.inl s))
    (more : List ℕ) : msg.scan visit (poss ++ more) s = msg.scan visit more s := by
  induction h with
  | nil => rfl
  | cons hhead _ ih =>
    rw [cons_append, RadiusMsg.scan, hhead.getAttrHdr, ok_bind, hskip _ _ (by simp) hhead, ok_bind]
    exact ih fun pos a ha => hskip pos a (mem_cons_of_mem _ ha)

lemma scan_cons (h : msg.Holds pos a) (poss : List ℕ) :
    msg.scan visit (pos :: poss) s = visit s pos a.hdr >>= fun
      | .inr r => .ok (.inr r)
      | .inl s => msg.scan visit poss s := by
  rw [RadiusMsg.scan, h.getAttrHdr, ok_bind]
  rfl

end RadiusMsg

end Hostapd.Radius
