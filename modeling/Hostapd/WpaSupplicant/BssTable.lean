import Hostapd.Utils.Time
import Hostapd.Wpa.Common

/-!
# Flushing the BSS table by age

The table of `wpa_supplicant/bss.c` is a list with the entry that was put there last at its end.  An
entry is as old as the driver says, so the list need not be in order of the last updates, and
`wpa_bss_flush_by_age`, which stops at the first recent entry, can leave old ones behind it.
-/

namespace Hostapd.WpaSupplicant

open Wire Wpa List

/-- An entry (`struct wpa_bss`). -/
structure WpaBss where
  id : ℕ
  bssid : Mac
  ssid : Bytes
  lastUpdate : OsReltime

/-- A result with the elements that are read of it (`struct wpa_scan_res`), and whether there is
memory for an entry. -/
structure WpaScanRes where
  bssid : Mac
  age : ℕ
  ssid : Option Bytes
  meshId : Option Bytes := none
  p2p : Bool := false
  alloc : Bool := true

/-- The configuration: the entries of configured networks or for WPS, and the addresses that pass
the filter. -/
structure BssConf where
  known : WpaBss → Bool := fun _ => false
  filter : Mac → Bool := fun _ => true
  ignoreOldScanRes : Bool := false

/-- The part of `struct wpa_supplicant` about the table. -/
structure BssTable where
  bss : List WpaBss := []
  bssNextId : ℕ := 0
  bssMaxCount : ℕ := 200
  currentBss : Option WpaBss := none
  bssid : Mac := .ofList 6 []
  pendingBssid : Mac := .ofList 6 []
  scanTriggerTime : OsReltime := .ofSec 0

variable (conf : BssConf) (s : BssTable) (b : WpaBss) (res : WpaScanRes) (fetchTime : OsReltime)

/-- `calculate_update_time`. -/
def calculateUpdateTime (ageMs : ℕ) : OsReltime :=
  let usec : Fin 1000000 := ⟨ageMs % 1000 * 1000, by omega⟩
  let sec := fetchTime.sec - ageMs / 1000
  { sec := if fetchTime.usec < usec then sec - 1 else sec, usec := fetchTime.usec - usec }

namespace BssTable

/-- `wpa_bss_in_use`. -/
def inUse : Bool :=
  s.currentBss.any (·.id == b.id) || s.currentBss.all (·.ssid == b.ssid) &&
    b.bssid != .ofList 6 [] && (b.bssid == s.bssid || b.bssid == s.pendingBssid)

/-- `wpa_bss_remove_oldest`. -/
def removeOldest : Option BssTable :=
  if s.bss.any (!conf.known ·) then some { s with bss := s.bss.eraseP (!conf.known ·) }
  else if s.bss.any (!s.inUse ·) then some { s with bss := s.bss.eraseP (!s.inUse ·) }
  else none

/-- `wpa_bss_add`. -/
def add (ssid : Bytes) : BssTable :=
  if res.alloc = false then s
  else
    let room := if s.bssMaxCount < s.bss.length + 1 then
      (s.removeOldest conf).getD { s with bssMaxCount := s.bss.length + 1 } else s
    { room with
      bssNextId := s.bssNextId + 1
      bss := room.bss ++ [⟨s.bssNextId, res.bssid, ssid, calculateUpdateTime fetchTime res.age⟩] }

/-- `wpa_bss_update`, which moves the entry to the end. -/
def update : BssTable :=
  { s with bss := s.bss.eraseP (·.id == b.id) ++
      [{ b with lastUpdate := calculateUpdateTime fetchTime res.age }] }

/-- `wpa_bss_get`. -/
def get (bssid : Mac) (ssid : Bytes) : Option WpaBss :=
  if conf.filter bssid then s.bss.find? fun b => b.bssid == bssid && b.ssid == ssid else none

/-- The SSID under which there is an entry for a result, none if the result is skipped: it is older
than the scan, has no SSID or too long a one, or comes from the search for P2P devices. -/
def entrySsid : Option Bytes :=
  if conf.ignoreOldScanRes &&
    osReltimeBefore (calculateUpdateTime fetchTime res.age) s.scanTriggerTime then none
  else match res.ssid with
  | none => none
  | some ssid =>
    if 32 < ssid.length || res.p2p && ssid == "DIRECT-".toUTF8.data.toList then none
    else some ((res.meshId.filter (·.length ≤ 32)).getD ssid)

/-- `wpa_bss_update_scan_res`. -/
def updateScanRes : BssTable :=
  match s.entrySsid conf res fetchTime with
  | none => s
  | some ssid =>
    match s.get conf res.bssid ssid with
    | none => s.add conf res fetchTime ssid
    | some b => s.update b res fetchTime

/-- The loop of `wpa_bss_flush_by_age`. -/
def flushBefore (t : OsReltime) : List WpaBss → List WpaBss
  | [] => []
  | b :: rest =>
    if s.inUse b then b :: flushBefore t rest
    else if osReltimeBefore b.lastUpdate t then flushBefore t rest
    else b :: rest

/-- `wpa_bss_flush_by_age`. -/
def flushByAge (now : OsReltime) (age : ℤ) : BssTable :=
  { s with bss := s.flushBefore { now with sec := now.sec - age } s.bss }

/-- What happens to the table. -/
inductive Event
  | scanRes (res : WpaScanRes) (fetchTime : OsReltime)
  /-- Entries are removed by `wpa_bss_update_end` or `wpa_bss_flush`. -/
  | remove (keep : WpaBss → Bool)
  | flushByAge (now : OsReltime) (age : ℤ)
  /-- Scans are triggered and connections change. -/
  | other (trigger : OsReltime) (currentBss : Option WpaBss) (bssid pendingBssid : Mac)

/-- One event. -/
def step : Event → BssTable
  | .scanRes res fetchTime => s.updateScanRes conf res fetchTime
  | .remove keep => { s with bss := s.bss.filter keep }
  | .flushByAge now age => s.flushByAge now age
  | .other scanTriggerTime currentBss bssid pendingBssid =>
    { s with scanTriggerTime, currentBss, bssid, pendingBssid }

/-- A result is taken over: it is not skipped, and there is an entry for it or memory for one. -/
def takesOver : Bool :=
  (s.entrySsid conf res fetchTime).any fun ssid => res.alloc || (s.get conf res.bssid ssid).isSome

/-- A result that is taken over is not older than what is in the table. -/
def InOrder : Event → Bool
  | .scanRes res fetchTime => !s.takesOver conf res fetchTime ||
    s.bss.all (·.lastUpdate.micros ≤ (calculateUpdateTime fetchTime res.age).micros)
  | _ => true

/-- The tables of runs all of whose results come in order. -/
inductive Reached : BssTable → Prop
  | empty (s : BssTable) (h : s.bss = []) : Reached s
  | step {s : BssTable} (h : Reached s) (e : Event) (he : s.InOrder conf e) :
      Reached (s.step conf e)

variable {conf s}

/-- A result changes nothing, or it is taken over and put behind entries that stay. -/
lemma updateScanRes_bss : (s.updateScanRes conf res fetchTime).bss = s.bss ∨
    s.takesOver conf res fetchTime ∧ ∃ l b, l <+ s.bss ∧
      b.lastUpdate = calculateUpdateTime fetchTime res.age ∧
      (s.updateScanRes conf res fetchTime).bss = l ++ [b] := by
  unfold updateScanRes takesOver
  split
  · exact .inl rfl
  next ssid hssid =>
  rw [hssid, Option.any_some]
  split
  next hget =>
    unfold add
    split_ifs with halloc
    · exact .inl rfl
    · refine .inr ⟨by simp [halloc], _, _, ?_, rfl, rfl⟩
      rw [removeOldest]
      split_ifs
      iterate 2 exact eraseP_sublist
      exact .refl _
    · exact .inr ⟨by simp [halloc], _, _, .refl _, rfl, rfl⟩
  next b hget =>
    exact .inr ⟨by simp [hget], _, _, eraseP_sublist, rfl, rfl⟩

lemma flushBefore_sublist (t : OsReltime) (l : List WpaBss) : s.flushBefore t l <+ l := by
  fun_induction flushBefore s t l with
  | case1 => exact .slnil
  | case2 b rest _ ih => exact ih.cons_cons b
  | case3 b rest _ _ ih => exact ih.cons b
  | case4 => exact .refl _

/-- A run in order keeps the list in order. -/
lemma Reached.sorted (h : Reached conf s) :
    s.bss.Pairwise fun a b => a.lastUpdate.micros ≤ b.lastUpdate.micros := by
  induction h with
  | empty s h => exact h ▸ .nil
  | @step s _ e he ih =>
    cases e with
    | scanRes res fetchTime =>
      rw [BssTable.step]
      rcases @updateScanRes_bss conf s res fetchTime with heq | ⟨htaken, l, b, hl, hb, heq⟩
      · rw [heq]
        exact ih
      · rw [heq]
        rw [InOrder, htaken, Bool.not_true, Bool.false_or] at he
        refine pairwise_append.mpr ⟨ih.sublist hl, pairwise_singleton _ _, fun a ha c hc => ?_⟩
        cases mem_singleton.mp hc
        rw [hb]
        exact of_decide_eq_true (all_eq_true.mp he a (hl.subset ha))
    | remove keep => exact ih.sublist filter_sublist
    | flushByAge now age => exact ih.sublist (flushBefore_sublist _ _)
    | _ => exact ih

/-- In a run in order a flush leaves exactly the entries that are in use or not older than the
age. -/
theorem flush_by_age_exact (h : Reached conf s) (now : OsReltime) (age : ℤ) :
    (s.flushByAge now age).bss = s.bss.filter fun b =>
      s.inUse b || decide (now.micros ≤ b.lastUpdate.micros + age * 1000000) := by
  have hbefore : ∀ b : WpaBss, osReltimeBefore b.lastUpdate { now with sec := now.sec - age } ↔
      b.lastUpdate.micros + age * 1000000 < now.micros := by
    intro b
    rw [osReltimeBefore_iff]
    simp only [OsReltime.micros]
    omega
  have hsorted := h.sorted
  rw [flushByAge]
  dsimp only
  generalize s.bss = l at hsorted ⊢
  fun_induction flushBefore s { now with sec := now.sec - age } l with
  | case1 => rfl
  | case2 b rest huse ih => rw [filter_cons_of_pos (by simp [huse]), ih hsorted.of_cons]
  | case3 b rest huse hold ih =>
    rw [filter_cons_of_neg (by simpa [huse] using (hbefore b).mp hold), ih hsorted.of_cons]
  | case4 b rest _ hrecent =>
    rw [hbefore, not_lt] at hrecent
    -- The entries behind a recent one are as recent.
    refine (filter_eq_self.mpr fun c hc => ?_).symm
    have hle : b.lastUpdate.micros ≤ c.lastUpdate.micros := by
      obtain rfl | hc := mem_cons.mp hc
      · exact le_rfl
      · exact rel_of_pairwise_cons hsorted hc
    simpa using .inr (by omega)

def sampleScan (octet : UInt8) (age : ℕ) : Event :=
  .scanRes ⟨.ofList 6 [octet], age, some [], none, false, true⟩ (.ofSec 200)

def sampleTable (age age' : ℕ) : BssTable :=
  (({} : BssTable).step {} (sampleScan 1 age)).step {} (sampleScan 2 age')

/-- An old and a recent result, in order. -/
theorem flush_by_age_exact_of_two :
    ((sampleTable 100000 0).flushByAge ⟨200, 0⟩ 30).bss.map (·.lastUpdate.sec) = [200] := by
  have hreached : Reached {} (sampleTable 100000 0) :=
    .step (.step (.empty {} rfl) (sampleScan 1 100000) rfl) (sampleScan 2 0) rfl
  rw [flush_by_age_exact hreached]
  decide

/-- An old result behind a recent one is left. -/
theorem flush_by_age_stops :
    ((sampleTable 0 100000).flushByAge ⟨200, 0⟩ 30).bss.map (·.lastUpdate.sec) = [200, 100] := by
  decide

/-! ## Entries -/

/-- What tells entries apart, and the bound of the table. -/
structure Distinct (s : BssTable) : Prop where
  ids : (s.bss.map (·.id)).Nodup
  id_lt : ∀ b ∈ s.bss, b.id < s.bssNextId
  names : (s.bss.map fun b => (b.bssid, b.ssid)).Nodup
  length_le : s.bss.length ≤ s.bssMaxCount

variable {t : BssTable}

lemma Distinct.sublist (h : Distinct s) (hsub : t.bss <+ s.bss) (hid : t.bssNextId = s.bssNextId)
    (hmax : t.bssMaxCount = s.bssMaxCount) : Distinct t where
  ids := h.ids.sublist (hsub.map _)
  id_lt b hb := hid ▸ h.id_lt b (hsub.subset hb)
  names := h.names.sublist (hsub.map _)
  length_le := hmax ▸ hsub.length_le.trans h.length_le

/-- There is room for one more entry: one was removed, or the bound is raised. -/
lemma room_of_full (h : s.bss.length ≤ s.bssMaxCount) (t : BssTable)
    (ht : t = if s.bssMaxCount < s.bss.length + 1 then
      (s.removeOldest conf).getD { s with bssMaxCount := s.bss.length + 1 } else s) :
    t.bss <+ s.bss ∧ t.bss.length + 1 ≤ t.bssMaxCount := by
  have herase : ∀ p : WpaBss → Bool, s.bss.any p → (s.bss.eraseP p).length + 1 = s.bss.length := by
    intro p hp
    obtain ⟨b, hb, hpb⟩ := any_eq_true.mp hp
    rw [length_eraseP_of_mem hb hpb]
    exact Nat.sub_add_cancel (length_pos_of_mem hb)
  subst ht
  split_ifs with hfull
  · rw [removeOldest]
    split_ifs with hunknown hunused
    · exact ⟨eraseP_sublist, (herase _ hunknown).trans_le h⟩
    · exact ⟨eraseP_sublist, (herase _ hunused).trans_le h⟩
    · exact ⟨.refl _, le_rfl⟩
  · exact ⟨.refl _, not_lt.mp hfull⟩

/-- A new entry has a name of its own. -/
lemma Distinct.add (h : Distinct s) {ssid : Bytes}
    (hnew : ∀ b ∈ s.bss, ¬ (b.bssid = res.bssid ∧ b.ssid = ssid)) :
    Distinct (s.add conf res fetchTime ssid) := by
  unfold BssTable.add
  split
  · exact h
  obtain ⟨hsub, hlen⟩ := @room_of_full conf s h.length_le _ rfl
  dsimp only
  generalize (if s.bssMaxCount < s.bss.length + 1 then _ else s) = room at hsub hlen ⊢
  refine ⟨?_, ?_, ?_, ?_⟩
  · rw [map_append]
    refine (h.ids.sublist (hsub.map _)).append (nodup_singleton _) ?_
    simp only [map_cons, map_nil, disjoint_singleton, mem_map, not_exists, not_and]
    exact fun b hb => (h.id_lt b (hsub.subset hb)).ne
  · intro b hb
    obtain hb | hb := mem_append.mp hb
    · exact Nat.lt_succ_of_lt (h.id_lt b (hsub.subset hb))
    · cases mem_singleton.mp hb
      exact Nat.lt_succ_self _
  · rw [map_append]
    refine (h.names.sublist (hsub.map _)).append (nodup_singleton _) ?_
    simp only [map_cons, map_nil, disjoint_singleton, mem_map, not_exists, not_and, Prod.mk.injEq]
    exact fun b hb hbssid hssid => hnew b (hsub.subset hb) ⟨hbssid, hssid⟩
  · simpa using hlen

/-- An update keeps the names. -/
lemma Distinct.update (h : Distinct s) {b : WpaBss} (hb : b ∈ s.bss) :
    Distinct (s.update b res fetchTime) := by
  obtain ⟨c, l₁, l₂, -, hc, hbss, herase⟩ :=
    exists_of_eraseP (p := fun c : WpaBss => c.id == b.id) hb (beq_self_eq_true b.id)
  -- The entry that is taken out is the one that was found: no other has its number.
  have hcb : c = b :=
    inj_on_of_nodup_map h.ids (by rw [hbss]; simp) hb (eq_of_beq hc)
  subst hcb
  set b' : WpaBss := { c with lastUpdate := calculateUpdateTime fetchTime res.age }
  have hperm : ∀ {α : Type} (f : WpaBss → α), f b' = f c →
      (s.update c res fetchTime).bss.map f ~ s.bss.map f := by
    intro α f hf
    have hcons : l₁ ++ l₂ ++ [c] ~ l₁ ++ c :: l₂ :=
      (perm_append_singleton c (l₁ ++ l₂)).trans perm_middle.symm
    rw [BssTable.update, herase, hbss, map_append, map_singleton, hf, ← map_singleton, ← map_append]
    exact hcons.map f
  refine ⟨(hperm _ rfl).nodup_iff.mpr h.ids, ?_, (hperm _ rfl).nodup_iff.mpr h.names, ?_⟩
  · intro d hd
    obtain ⟨d', hd', hid⟩ := mem_map.mp ((hperm (·.id) rfl).subset (mem_map_of_mem hd))
    exact hid ▸ h.id_lt d' hd'
  · have hlen := (hperm (·.id) rfl).length_eq
    rw [length_map, length_map] at hlen
    exact hlen.trans_le h.length_le

/-- Every event keeps the entries apart. -/
lemma Distinct.step (h : Distinct s) (e : Event)
    (he : ∀ res fetchTime, e = .scanRes res fetchTime → conf.filter res.bssid) :
    Distinct (s.step conf e) := by
  cases e with
  | scanRes res fetchTime =>
    rw [BssTable.step, updateScanRes]
    split
    · exact h
    split
    · next hget =>
      refine h.add res fetchTime fun b hb hname => ?_
      rw [BssTable.get, if_pos (he res fetchTime rfl), find?_eq_none] at hget
      exact hget b hb (by simp [hname])
    · next b hget =>
      rw [BssTable.get, if_pos (he res fetchTime rfl)] at hget
      exact h.update res fetchTime (mem_of_find?_eq_some hget)
  | remove keep => exact h.sublist filter_sublist rfl rfl
  | flushByAge now age => exact h.sublist (flushBefore_sublist _ _) rfl rfl
  | _ => exact h.sublist (.refl _) rfl rfl

/-- However results come in, entries go and connections change, no two entries have the same BSSID
and SSID, and there are not more than the bound allows. -/
theorem entries_distinct (h : s.bss = []) (es : List Event)
    (hes : ∀ res fetchTime, .scanRes res fetchTime ∈ es → conf.filter res.bssid) :
    ((es.foldl (step conf) s).bss.map fun b => (b.bssid, b.ssid)).Nodup ∧
      (es.foldl (step conf) s).bss.length ≤ (es.foldl (step conf) s).bssMaxCount := by
  have hstart : Distinct s := by constructor <;> simp [h]
  clear h
  suffices hend : Distinct (es.foldl (step conf) s) from ⟨hend.names, hend.length_le⟩
  induction es generalizing s with
  | nil => exact hstart
  | cons e es ih =>
    exact ih (fun res t ht => hes res t (mem_cons_of_mem e ht))
      (hstart.step e fun res t he => hes res t (he ▸ mem_cons_self))

/-- Two results about one access point and one about another make two entries. -/
theorem entries_distinct_of_three :
    let s := [sampleScan 1 5000, sampleScan 2 0, sampleScan 1 0].foldl (step {}) {}
    s.bss.map (·.id) = [1, 0] ∧ (s.bss.map fun b => (b.bssid, b.ssid)).Nodup := by
  exact ⟨by decide, (entries_distinct rfl _ fun _ _ _ => rfl).1⟩

end BssTable

end Hostapd.WpaSupplicant
