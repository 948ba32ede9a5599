import Hostapd.Ap.PmksaCache

/-!
# Consistency of the PMKSA cache

The list, the hash chains and the count of the cache always agree: `Consistent` is kept by linking
and unlinking an entry, and every function of the cache is made of these two.

`pmksa_cache_auth_add` makes room before it adds an entry, and `pmksa_cache_add_okc` does not:
opportunistic key caching can take the count above any bound (`okc_exceeds_limit`). The limit is
kept as long as the cache is not full then (`cache_consistent`).
-/

namespace Hostapd.Ap

open Wire Wpa Machine Index List

def PmkidCrypto.sample : PmkidCrypto where
  rsnPmkid pmk _ _ _ := .ofList 16 pmk
  rsnPmkidSuiteB kck _ _ := .ofList 16 kck
  rsnPmkidSuiteB192 kck _ _ := .ofList 16 kck

namespace PmksaCache

/-! ## The invariant -/

/-- List, chains and count agree. -/
structure Consistent (c : PmksaCache) : Prop where
  sorted : c.pmksa.Pairwise fun a b => a.expiration ≤ b.expiration
  refs_nodup : (c.pmksa.map (·.ref)).Nodup
  refs_lt : ∀ e ∈ c.pmksa, e.ref < c.nextRef
  indexed : Indexed (fun e => pmkidHash e.pmkid) c.pmksa c.pmkid
  count : c.pmksaCount = c.pmksa.length

variable {c : PmksaCache} {entry : PmksaEntry}

lemma Consistent.init : Consistent {} :=
  { sorted := .nil, refs_nodup := .nil, refs_lt := nofun, indexed := .nil, count := rfl }

lemma Consistent.nodup (h : Consistent c) : c.pmksa.Nodup := h.refs_nodup.of_map

/-- Unlinking by address unlinks the entry itself. -/
lemma Consistent.freeEntry_eq (h : Consistent c) (hmem : entry ∈ c.pmksa) :
    c.freeEntry entry =
      { c with
        pmksaCount := c.pmksaCount - 1
        pmkid := Function.update c.pmkid (pmkidHash entry.pmkid)
          ((c.pmkid (pmkidHash entry.pmkid)).erase entry)
        pmksa := c.pmksa.erase entry } := by
  have hinj : ∀ e ∈ c.pmksa, e.ref = entry.ref → e = entry :=
    fun e he href => inj_on_of_nodup_map h.refs_nodup he hmem href
  have hchain : ∀ e ∈ c.pmkid (pmkidHash entry.pmkid), e.ref = entry.ref → e = entry :=
    fun e he => hinj e (h.indexed.mem_iff.mp he).1
  unfold freeEntry
  dsimp only
  rw [eraseP_eq_erase hinj, eraseP_eq_erase hchain]

/-- Unlinking an entry of the list. -/
lemma Consistent.freeEntry (h : Consistent c) (hmem : entry ∈ c.pmksa) :
    Consistent (c.freeEntry entry) := by
  rw [h.freeEntry_eq hmem]
  have hsub : (c.pmksa.erase entry).Sublist c.pmksa := erase_sublist
  have hlen : (c.pmksa.erase entry).length + 1 = c.pmksa.length :=
    length_erase_add_one hmem
  exact
    { sorted := h.sorted.sublist hsub
      refs_nodup := h.refs_nodup.sublist (hsub.map _)
      refs_lt := fun e he => h.refs_lt e (hsub.subset he)
      indexed := h.indexed.unlink entry
      count := by
        show c.pmksaCount - 1 = (c.pmksa.erase entry).length
        have hcount := h.count
        omega }

/-- Linking an entry with an address of its own. -/
lemma Consistent.linkEntry (h : Consistent c) (href : ∀ e ∈ c.pmksa, e.ref ≠ entry.ref)
    (hlt : entry.ref < c.nextRef) : Consistent (c.linkEntry entry) := by
  have hperm : (c.pmksa.orderedInsert (·.expiration < ·.expiration) entry).Perm
      (entry :: c.pmksa) := perm_orderedInsert _ entry c.pmksa
  refine
    { sorted := pairwise_orderedInsert (·.expiration) entry h.sorted
      refs_nodup := nodup_map_orderedInsert PmksaEntry.ref _ h.refs_nodup href
      refs_lt := ?_
      indexed := h.indexed.link hperm
      count := ?_ }
  · intro e he
    obtain rfl | he := mem_cons.mp (hperm.subset he)
    · exact hlt
    · exact h.refs_lt e he
  · have hcount := h.count
    have hlen := hperm.length_eq
    show c.pmksaCount + 1 = _
    rw [hcount, PmksaCache.linkEntry, hlen]
    simp

/-! ## Freeing entries -/

/-- A consistent cache stays consistent and gets no new entries. -/
def Frees (c c' : PmksaCache) : Prop :=
  Consistent c → Consistent c' ∧ c'.pmksa.Sublist c.pmksa ∧ c'.nextRef = c.nextRef

variable {c c' c'' : PmksaCache} {entry : PmksaEntry}

lemma Frees.refl (c : PmksaCache) : Frees c c := fun h => ⟨h, .refl _, rfl⟩

lemma Frees.trans (h : Frees c c') (h' : Frees c' c'') : Frees c c'' := by
  intro hc
  obtain ⟨hc', hsub, href⟩ := h hc
  obtain ⟨hc'', hsub', href'⟩ := h' hc'
  exact ⟨hc'', hsub'.trans hsub, href'.trans href⟩

lemma Frees.freeEntry (hmem : entry ∈ c.pmksa) : Frees c (c.freeEntry entry) :=
  fun h => ⟨h.freeEntry hmem, eraseP_sublist, rfl⟩

lemma Frees.freeWhile (p : PmksaEntry → Bool) (fuel : ℕ) : Frees c (freeWhile p fuel c) := by
  induction fuel generalizing c with
  | zero => exact .refl c
  | succ fuel ih =>
    unfold PmksaCache.freeWhile
    split
    · exact .refl c
    next first rest hlist =>
    split
    · exact (Frees.freeEntry (hlist ▸ mem_cons_self)).trans ih
    · exact .refl c

/-- The entries that match are freed. -/
lemma Frees.freeMatching (p : PmksaEntry → Bool) {l : List PmksaEntry} (hnodup : l.Nodup)
    (hl : ∀ e ∈ l, e ∈ c.pmksa) : Frees c (freeMatching p l c) := by
  -- The entries that are still to come stay on the list when one is freed.
  induction l generalizing c with
  | nil => exact .refl c
  | cons first rest ih =>
    obtain ⟨hfirst, hrest⟩ := nodup_cons.mp hnodup
    have hmem : first ∈ c.pmksa := hl first mem_cons_self
    have htail : ∀ e ∈ rest, e ∈ c.pmksa := fun e he => hl e (mem_cons_of_mem first he)
    unfold PmksaCache.freeMatching
    split
    · intro hc
      refine Frees.trans (.freeEntry hmem) (ih hrest ?_) hc
      intro e he
      rw [hc.freeEntry_eq hmem]
      have hne : e ≠ first := fun heq => hfirst (heq ▸ he)
      exact (mem_erase_of_ne hne).mpr (htail e he)
    · exact ih hrest htail

lemma Frees.freeOld (spa : Mac) : Frees c (c.freeOld spa) := by
  unfold PmksaCache.freeOld
  split
  · exact .refl c
  · next old hget => exact .freeEntry (mem_of_find?_eq_some hget)

lemma Frees.makeRoom : Frees c c.makeRoom := by
  unfold PmksaCache.makeRoom
  split
  · exact .refl c
  next first rest hlist =>
  split
  · exact .freeEntry (hlist ▸ mem_cons_self)
  · exact .refl c

lemma Frees.radiusDasDisconnect (attr : DasAttrs) : Frees c (c.radiusDasDisconnect attr) := by
  unfold PmksaCache.radiusDasDisconnect
  split
  · exact .refl c
  · exact fun hc => Frees.freeMatching _ hc.nodup (fun _ he => he) hc

lemma length_makeRoom_lt (h : Consistent c) (hlen : c.pmksa.length ≤ pmksaCacheMaxEntries) :
    c.makeRoom.pmksa.length < pmksaCacheMaxEntries := by
  unfold PmksaCache.makeRoom
  split
  · next hlist =>
    rw [hlist]
    decide
  next first rest hlist =>
  have hmem : first ∈ c.pmksa := hlist ▸ mem_cons_self
  have hcount := h.count
  split
  · rw [h.freeEntry_eq hmem]
    have herase := length_erase_add_one hmem
    show (c.pmksa.erase first).length < _
    omega
  · omega

variable {crypto : PmkidCrypto} {c c' : PmksaCache} {e : Event} {entry : PmksaEntry}
  {spa : Option Mac}

/-! ## Calls -/

/-- What a call does: it frees entries, or adds one with a new address after freeing some. -/
lemma step_cases (h : step crypto c e = .ok c') :
    Frees c c' ∨
      ∃ d entry, Frees { c with nextRef := c.nextRef + 1 } d ∧ entry.ref = c.nextRef ∧
        c' = d.linkEntry entry ∧
        (d = { c with nextRef := c.nextRef + 1 } ∧ (∃ old pmkid b, e = .addOkc old pmkid b) ∨
          ∃ d', Frees { c with nextRef := c.nextRef + 1 } d' ∧ d = d'.makeRoom) := by
  cases e with
  | add now key allocated =>
    cases h
    unfold authAdd
    split
    · exact .inl (.refl c)
    split
    · exact .inl (.refl c)
    split
    · exact .inl (.refl c)
    · exact .inr ⟨_, _, (Frees.freeOld key.spa).trans .makeRoom, rfl, rfl,
        .inr ⟨_, .freeOld key.spa, rfl⟩⟩
  | addOkc old pmkid allocated =>
    cases h
    unfold addOkc
    split
    · exact .inl (.refl c)
    · exact .inr ⟨_, _, .refl _, rfl, rfl, .inl ⟨rfl, old, pmkid, allocated, rfl⟩⟩
  | free ref =>
    simp only [PmksaCache.step] at h
    split at h
    · cases h
    · next entry hfind =>
      cases h
      exact .inl (.freeEntry (mem_of_find?_eq_some hfind))
  | remove spa =>
    cases h
    exact .inl (.freeOld spa)
  | flush =>
    cases h
    exact .inl (.freeWhile _ _)
  | expire now =>
    cases h
    exact .inl (.freeWhile _ _)
  | das attr =>
    cases h
    exact .inl (.radiusDasDisconnect attr)

lemma Consistent.step (hc : Consistent c) (h : step crypto c e = .ok c') : Consistent c' := by
  obtain hfrees | ⟨d, entry, hfrees, href, rfl, -⟩ := step_cases h
  · exact (hfrees hc).1
  have hnext : Consistent { c with nextRef := c.nextRef + 1 } :=
    { hc with refs_lt := fun e he => Nat.lt_succ_of_lt (hc.refs_lt e he) }
  obtain ⟨hd, hsub, hnextRef⟩ := hfrees hnext
  refine hd.linkEntry ?_ ?_
  · intro e he heq
    have hlt := hc.refs_lt e (hsub.subset he)
    omega
  · rw [hnextRef, href]
    exact Nat.lt_succ_self _

/-- Opportunistic key caching adds entries only when the cache is not full. -/
def RoomForOkc (c : PmksaCache) : Event → Prop
  | .addOkc _ _ _ => c.pmksaCount < pmksaCacheMaxEntries
  | _ => True

instance (c : PmksaCache) : ∀ e : Event, Decidable (RoomForOkc c e)
  | .addOkc _ _ _ => inferInstanceAs (Decidable (c.pmksaCount < pmksaCacheMaxEntries))
  | .add _ _ _ | .free _ | .remove _ | .flush | .expire _ | .das _ => isTrue trivial

/-- A call keeps the limit if opportunistic caching has room. -/
lemma length_step_le (hc : Consistent c) (hlen : c.pmksa.length ≤ pmksaCacheMaxEntries)
    (hroom : RoomForOkc c e) (h : step crypto c e = .ok c') :
    c'.pmksa.length ≤ pmksaCacheMaxEntries := by
  obtain hfrees | ⟨d, entry, -, -, rfl, hd⟩ := step_cases h
  · exact (hfrees hc).2.1.length_le.trans hlen
  have hlink : (d.linkEntry entry).pmksa.length = d.pmksa.length + 1 :=
    (perm_orderedInsert _ entry d.pmksa).length_eq
  rw [hlink]
  obtain ⟨rfl, old, pmkid, b, rfl⟩ | ⟨d', hfrees, rfl⟩ := hd
  · have hcount := hc.count
    have hlt : c.pmksaCount < pmksaCacheMaxEntries := hroom
    show c.pmksa.length + 1 ≤ _
    omega
  · have hnext : Consistent { c with nextRef := c.nextRef + 1 } :=
      { hc with refs_lt := fun e he => Nat.lt_succ_of_lt (hc.refs_lt e he) }
    obtain ⟨hd', hsub, -⟩ := hfrees hnext
    exact length_makeRoom_lt hd' (hsub.length_le.trans hlen)

/-! ## Searching -/

/-- The entry is of the station and has the PMKID. -/
def Wanted (spa : Option Mac) (pmkid : Option Pmkid) (entry : PmksaEntry) : Prop :=
  (∀ a, spa = some a → entry.spa = a) ∧ ∀ k, pmkid = some k → entry.pmkid = k

lemma matchesSpa_iff : matchesSpa spa entry ↔ ∀ a, spa = some a → entry.spa = a := by
  cases spa with
  | none => simp [matchesSpa]
  | some a =>
    rw [matchesSpa, Option.all_some, beq_iff_eq]
    constructor
    · rintro rfl b hb
      exact Option.some.inj hb
    · intro h
      exact (h a rfl).symm

/-- An entry that is found is on the list and wanted. -/
lemma authGet_spec (h : Consistent c) {pmkid : Option Pmkid}
    (hget : c.authGet spa pmkid = some entry) : entry ∈ c.pmksa ∧ Wanted spa pmkid entry := by
  cases pmkid with
  | none =>
    have hspa : matchesSpa spa entry := find?_some hget
    exact ⟨mem_of_find?_eq_some hget, matchesSpa_iff.mp hspa, nofun⟩
  | some k =>
    have hfind : (c.pmkid (pmkidHash k)).find? (fun e => matchesSpa spa e && e.pmkid == k) =
        some entry := hget
    have hboth : (matchesSpa spa entry && entry.pmkid == k) :=
      @find?_some _ (fun e => matchesSpa spa e && e.pmkid == k) _ _ hfind
    obtain ⟨hspa, hk⟩ := Bool.and_eq_true_iff.mp hboth
    refine ⟨(h.indexed.mem_iff.mp (mem_of_find?_eq_some hget)).1, matchesSpa_iff.mp hspa, ?_⟩
    intro k' hk'
    cases hk'
    exact eq_of_beq hk

/-- A search finds an entry exactly if one is wanted. -/
lemma authGet_isSome_iff (h : Consistent c) (spa : Option Mac) (pmkid : Option Pmkid) :
    (∃ entry, c.authGet spa pmkid = some entry) ↔ ∃ entry ∈ c.pmksa, Wanted spa pmkid entry := by
  constructor
  · rintro ⟨entry, hget⟩
    exact ⟨entry, authGet_spec h hget⟩
  rintro ⟨entry, hmem, hspa, hk⟩
  rw [← Option.isSome_iff_exists]
  cases pmkid with
  | none => exact find?_isSome.mpr ⟨entry, hmem, matchesSpa_iff.mpr hspa⟩
  | some k =>
    refine (h.indexed.find?_isSome_iff ?_).mpr ⟨entry, hmem, ?_⟩
    · intro e he
      rw [eq_of_beq (Bool.and_eq_true_iff.mp he).2]
    · exact Bool.and_eq_true_iff.mpr ⟨matchesSpa_iff.mpr hspa, beq_iff_eq.mpr (hk k rfl)⟩

/-! ## Runs -/

/-- After every run of calls the list is in order, each entry is in its chain and in no other, the
count is right, and a search finds an entry exactly if the list has one; if opportunistic key
caching adds entries only when there is room, the count keeps the limit. -/
theorem cache_consistent {crypto : PmkidCrypto} {s : PmksaCache} {es : List Event}
    (hrun : run (step crypto) {} es = .ok s) :
    (s.pmksa.Pairwise fun a b => a.expiration ≤ b.expiration) ∧
      s.pmksa.Nodup ∧ (∀ h, (s.pmkid h).Nodup) ∧
      (∀ e h, e ∈ s.pmkid h ↔ e ∈ s.pmksa ∧ pmkidHash e.pmkid = h) ∧
      s.pmksaCount = s.pmksa.length ∧
      (∀ spa pmkid, (∃ e, s.authGet spa pmkid = some e) ↔ ∃ e ∈ s.pmksa, Wanted spa pmkid e) ∧
      (∀ spa pmkid e, s.authGet spa pmkid = some e → e ∈ s.pmksa ∧ Wanted spa pmkid e) ∧
      (Along (step crypto) RoomForOkc {} es → s.pmksaCount ≤ pmksaCacheMaxEntries) := by
  have hstep : ∀ c e c', Consistent c → step crypto c e = .ok c' → Consistent c' :=
    fun c e c' hc h => hc.step h
  have hs := run_induction hstep .init hrun
  refine ⟨hs.sorted, hs.nodup, hs.indexed.nodup hs.nodup, fun e h => hs.indexed.mem_iff, hs.count,
    authGet_isSome_iff hs, fun spa pmkid e => authGet_spec hs, ?_⟩
  intro hroom
  have hboth : ∀ c e c', Consistent c ∧ c.pmksa.length ≤ pmksaCacheMaxEntries → RoomForOkc c e →
      step crypto c e = .ok c' → Consistent c' ∧ c'.pmksa.length ≤ pmksaCacheMaxEntries :=
    fun c e c' hc hr h => ⟨hc.1.step h, length_step_le hc.1 hc.2 hr h⟩
  have hlen := (run_along_induction hboth ⟨.init, Nat.zero_le _⟩ hroom hrun).2
  have hcount := hs.count
  omega

/-- Two stations, one of which authenticates again. -/
def sampleRun : List Event :=
  [.add 0 { pmk := replicate 32 1, aa := .zero 6, spa := .zero 6, akmp := .ieee8021x } true,
    .add 5 { pmk := replicate 32 2, aa := .zero 6, spa := .ofList 6 [1, 0, 0, 0, 0, 0]
             sessionTimeout := 60, akmp := .ieee8021x } true,
    .add 7 { pmk := replicate 32 3, aa := .zero 6, spa := .zero 6, akmp := .ieee8021x } true]

/-- The cache after these authentications. -/
theorem cache_consistent_of_sampleRun :
    ∃ s, run (step .sample) {} sampleRun = .ok s ∧ s.pmksaCount = 2 ∧
      (s.pmksa.Pairwise fun a b => a.expiration ≤ b.expiration) ∧ s.pmksaCount = s.pmksa.length ∧
      s.pmksaCount ≤ pmksaCacheMaxEntries := by
  have hroom : Along (step .sample) RoomForOkc {} sampleRun := by decide +kernel
  refine exists_ok (by decide +kernel) fun s hrun _ => ?_
  obtain ⟨hsorted, -, -, -, hcount, -, -, hlimit⟩ := cache_consistent hrun
  exact ⟨hsorted, hcount, hlimit hroom⟩

lemma count_run_addOkc (olds : List (PmksaEntry × Pmkid)) (c : PmksaCache) :
    ∃ s, run (step crypto) c (olds.map fun o => .addOkc o.1 o.2 true) = .ok s ∧
      s.pmksaCount = c.pmksaCount + olds.length := by
  induction olds generalizing c with
  | nil => exact ⟨c, rfl, by simp⟩
  | cons o olds ih =>
    obtain ⟨s, hrun, hcount⟩ := ih (c.addOkc o.1 o.2 true)
    refine ⟨s, run_cons_eq_ok.mpr ⟨_, rfl, hrun⟩, ?_⟩
    have hone : (c.addOkc o.1 o.2 true).pmksaCount = c.pmksaCount + 1 := rfl
    rw [hcount, hone, length_cons]
    push_cast
    ring

/-- The entries of a station in the cache of another authenticator, one after each of its
authentications there. -/
def sampleOld (i : ℕ) : PmksaEntry × Pmkid :=
  ({ ref := 0, pmkid := .zero 16, pmk := replicate 32 0, expiration := i, akmp := .ieee8021x
     spa := .zero 6, identity := none, cui := none, opportunistic := false
     acctMultiSessionId := 0 },
    .ofList 16 [UInt8.ofNat i, UInt8.ofNat (i / 256)])

/-- A station that comes back from another authenticator often enough takes the count above the
limit. -/
theorem okc_exceeds_limit :
    ∃ s, run (step .sample) {} (((range 1025).map sampleOld).map fun o =>
        .addOkc o.1 o.2 true) = .ok s ∧ (pmksaCacheMaxEntries : ℤ) < s.pmksaCount := by
  obtain ⟨s, hrun, hcount⟩ := count_run_addOkc ((range 1025).map sampleOld) {}
  refine ⟨s, hrun, ?_⟩
  rw [hcount, length_map, length_range]
  decide

end PmksaCache

end Hostapd.Ap
