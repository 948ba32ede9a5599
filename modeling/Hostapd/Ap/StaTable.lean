import Hostapd.Ap.ApList

/-!
# The table of stations

`src/ap/sta_info.c` keeps the stations of a network on a list and in hash chains, and counts them;
`hostapd_get_aid` of `src/ap/ieee802_11.c` gives each one an association identifier, the first one
that is free in a bitmap of 63 words.  `station_table` says that after any sequence of additions,
associations and removals list, chains, count and bitmap describe the same stations.
-/

namespace Hostapd.Ap

open Wpa Index List Function

/-- The part of `struct hostapd_data` about its stations. `live` are the addresses of stations in
use. -/
structure StaTable where
  staList : List ℕ := []
  hash : UInt8 → List ℕ := fun _ => []
  addr : ℕ → Mac := fun _ => .ofList 6 []
  aid : ℕ → ℕ := fun _ => 0
  numSta : ℤ := 0
  staAid : Fin 63 → BitVec 32 := fun _ => 0
  live : ℕ → Bool := fun _ => false

namespace StaTable

variable (maxNumSta : ℕ) (s : StaTable)

def apGetSta (addr : Mac) : Option ℕ := (s.hash (staHash addr)).find? (s.addr · == addr)

/-- Add a station with the memory there is for it, if there is room (`ap_sta_add`). -/
def apStaAdd (addr : Mac) (alloc : Option ℕ) : StaTable :=
  match s.apGetSta addr, alloc.filter (!s.live ·) with
  | none, some sta =>
    if maxNumSta ≤ s.numSta then s
    else
      { s with
        addr := update s.addr sta addr
        aid := update s.aid sta 0
        staList := sta :: s.staList
        numSta := s.numSta + 1
        hash := update s.hash (staHash addr) (sta :: s.hash (staHash addr))
        live := update s.live sta true }
  | _, _ => s

/-- Take a station out of its chain, off the list and out of the bitmap (`ap_free_sta`). -/
def apFreeSta (sta : ℕ) : StaTable :=
  let chain := staHash (s.addr sta)
  let word := Fin.ofNat 63 ((s.aid sta - 1) / 32)
  { s with
    hash := update s.hash chain ((s.hash chain).eraseP (s.addr · == s.addr sta))
    staList := s.staList.erase sta
    staAid :=
      if 0 < s.aid sta then
        update s.staAid word (s.staAid word &&& ~~~ BitVec.twoPow 32 ((s.aid sta - 1) % 32))
      else s.staAid
    numSta := s.numSta - 1
    live := update s.live sta false }

/-- The first bit of a word that is not set; a word of ones is skipped. -/
def freeBit (word : BitVec 32) : Option (Fin 32) :=
  if word = .allOnes 32 then none else Fin.find? fun j => !word.getLsbD j

/-- The first bit that is not set. -/
def freeAid (words : Fin 63 → BitVec 32) : Option (Fin 63 × Fin 32) :=
  Fin.findSome? fun i => (freeBit (words i)).map (i, ·)

/-- Give a station an association identifier, if one is free (`hostapd_get_aid`). -/
def hostapdGetAid (sta : ℕ) : Option StaTable :=
  if 0 < s.aid sta then some s
  else
    match freeAid s.staAid with
    | none => none
    | some (i, j) =>
      let aid := i.val * 32 + j.val + 1
      if 2007 < aid then none
      else some { s with
        aid := update s.aid sta aid
        staAid := update s.staAid i (s.staAid i ||| BitVec.twoPow 32 j) }

/-! ## Runs -/

/-- Calls of the three functions, the last two for a station of the table. -/
inductive Event
  | add (addr : Mac) (alloc : Option ℕ)
  | getAid (addr : Mac)
  | free (addr : Mac)

/-- One call. -/
def step : Event → StaTable
  | .add addr alloc => s.apStaAdd maxNumSta addr alloc
  | .getAid addr => ((s.apGetSta addr).bind s.hostapdGetAid).getD s
  | .free addr => ((s.apGetSta addr).map s.apFreeSta).getD s

def run (es : List Event) : StaTable := es.foldl (step maxNumSta) {}

/-! ## The bitmap -/

/-- The identifiers `held` are different ones, and their bits are those that are set. -/
structure Assigned (words : Fin 63 → BitVec 32) (held : List ℕ) : Prop where
  nodup : held.Nodup
  le : ∀ aid ∈ held, aid ≤ 2007
  bits : ∀ (i : Fin 63) (j : Fin 32), (words i).getLsbD j ↔ i.val * 32 + j.val + 1 ∈ held

variable {words : Fin 63 → BitVec 32} {held held' : List ℕ} {aid : ℕ} {i : Fin 63} {j : Fin 32}

lemma Assigned.perm (h : Assigned words held) (hperm : held'.Perm held) : Assigned words held' where
  nodup := hperm.nodup_iff.mpr h.nodup
  le aid haid := h.le aid (hperm.mem_iff.mp haid)
  bits i j := by rw [h.bits, hperm.mem_iff]

/-- Assigning an identifier sets its bit. -/
lemma Assigned.set (h : Assigned words held) (hfree : (words i).getLsbD j = false)
    (hle : i.val * 32 + j.val + 1 ≤ 2007) :
    Assigned (update words i (words i ||| BitVec.twoPow 32 j))
      ((i.val * 32 + j.val + 1) :: held) where
  nodup := by
    refine nodup_cons.mpr ⟨fun hmem => ?_, h.nodup⟩
    rw [(h.bits i j).mpr hmem] at hfree
    cases hfree
  le := forall_mem_cons.mpr ⟨hle, h.le⟩
  bits i' j' := by
    have hj := j.isLt
    rw [mem_cons, ← h.bits]
    by_cases hi : i' = i
    · subst hi
      rw [update_self, BitVec.getLsbD_or, BitVec.getLsbD_twoPow, Bool.or_eq_true, or_comm]
      simp only [Bool.and_eq_true, decide_eq_true_eq, hj, true_and]
      exact or_congr_left (by omega)
    · rw [update_of_ne hi, or_iff_right (by omega)]

/-- Releasing an identifier clears its bit and no other. -/
lemma Assigned.clear (h : Assigned words (aid :: held)) (hpos : 0 < aid) :
    let word := Fin.ofNat 63 ((aid - 1) / 32)
    Assigned (update words word (words word &&& ~~~ BitVec.twoPow 32 ((aid - 1) % 32))) held where
  nodup := (nodup_cons.mp h.nodup).2
  le := (forall_mem_cons.mp h.le).2
  bits i j := by
    have hle := h.le aid mem_cons_self
    have hword : (Fin.ofNat 63 ((aid - 1) / 32)).val = (aid - 1) / 32 := Nat.mod_eq_of_lt (by omega)
    by_cases hi : i = Fin.ofNat 63 ((aid - 1) / 32)
    · have hnot := (nodup_cons.mp h.nodup).1
      rw [← hi, update_self, BitVec.getLsbD_and, Bool.and_eq_true, h.bits, mem_cons]
      by_cases heq : i.val * 32 + j.val + 1 = aid
      · simp [show (aid - 1) % 32 = j by omega, heq, hnot]
      · simp [show j.val ≠ (aid - 1) % 32 by omega, heq]
    · have hne : i.val * 32 + j.val + 1 ≠ aid := fun heq => hi (Fin.ext (by omega))
      rw [update_of_ne hi, h.bits, mem_cons, or_iff_right hne]

lemma freeBit_eq_none {word : BitVec 32} (h : freeBit word = none) (j : Fin 32) :
    word.getLsbD j := by
  rw [freeBit] at h
  split_ifs at h with hones
  · rw [hones, BitVec.getLsbD_allOnes]
    simp
  · simpa using Fin.find?_eq_none_iff.mp h j

lemma freeAid_eq_none (h : freeAid words = none) (i : Fin 63) (j : Fin 32) : (words i).getLsbD j :=
  freeBit_eq_none (by simpa using Fin.findSome?_eq_none_iff.mp h i) j

/-- The first bit that is not set is found. -/
lemma freeAid_eq_some (h : freeAid words = some (i, j)) : (words i).getLsbD j = false ∧
    ∀ (i' : Fin 63) (j' : Fin 32), i'.val * 32 + j'.val < i.val * 32 + j.val →
      (words i').getLsbD j' := by
  obtain ⟨k, hk, hbefore⟩ := Fin.findSome?_eq_some_iff.mp h
  obtain ⟨j₀, hj, heq⟩ := Option.map_eq_some_iff.mp hk
  cases heq
  rw [freeBit] at hj
  split_ifs at hj
  obtain ⟨hfree, hlower⟩ := Fin.find?_eq_some_iff.mp hj
  refine ⟨by simpa using hfree, fun i' j' hlt => ?_⟩
  obtain hi | rfl : i' < i ∨ i' = i := by
    omega
  · exact freeBit_eq_none (by simpa using hbefore i' hi) j'
  · simpa using hlower j' (by omega)

/-- The identifiers of stations; zero is none. -/
def aids (aid : ℕ → ℕ) (l : List ℕ) : List ℕ := (l.map aid).filter (0 < ·)

/-- List, chains, count and bitmap agree. -/
structure Consistent (maxNumSta : ℕ) (s : StaTable) : Prop where
  registered : Registered staHash s.addr s.staList s.hash s.numSta s.live
  size : s.staList.length ≤ maxNumSta
  assigned : Assigned s.staAid (aids s.aid s.staList)

section Consistent

variable {maxNumSta : ℕ} {s : StaTable} {sta : ℕ} {aid : ℕ → ℕ} {l l' : List ℕ}

lemma aids_perm (h : l'.Perm l) : (aids aid l').Perm (aids aid l) := (h.map aid).filter _

lemma aids_cons : aids aid (sta :: l) =
    if 0 < aid sta then aid sta :: aids aid l else aids aid l := by
  simp [aids, filter_cons]

lemma aids_cons_update (h : sta ∉ l) (n : ℕ) :
    aids (update aid sta n) (sta :: l) = if 0 < n then n :: aids aid l else aids aid l := by
  have hsame : l.map (update aid sta n) = l.map aid :=
    map_congr_left fun a ha => update_of_ne (ne_of_mem_of_not_mem ha h) ..
  rw [aids_cons, update_self, aids, hsame, aids]

variable (h : Consistent maxNumSta s)

include h

/-- A station is added. -/
lemma Consistent.add (addr : Mac) (alloc : Option ℕ) :
    Consistent maxNumSta (s.apStaAdd maxNumSta addr alloc) := by
  have hcount := h.registered.count_eq
  rw [apStaAdd]
  split
  · next sta hget halloc =>
    have hnew := h.registered.not_mem_of_alloc halloc
    split_ifs with hfull
    · exact h
    refine ⟨h.registered.link hnew (h.registered.find?_eq_none hget), ?_, ?_⟩
    · rw [length_cons]
      omega
    · show Assigned s.staAid (aids (update s.aid sta 0) (sta :: s.staList))
      rw [aids_cons_update hnew]
      exact h.assigned
  · exact h

lemma Consistent.assigned_cons (hsta : sta ∈ s.staList) :
    Assigned s.staAid (aids s.aid (sta :: s.staList.erase sta)) :=
  h.assigned.perm (aids_perm (perm_cons_erase hsta).symm)

lemma Consistent.free (hsta : sta ∈ s.staList) : Consistent maxNumSta (s.apFreeSta sta) := by
  have hassigned := h.assigned_cons hsta
  refine ⟨h.registered.unlink hsta, (length_erase_le ..).trans h.size, ?_⟩
  rw [aids_cons] at hassigned
  rw [apFreeSta]
  split_ifs at hassigned ⊢ with hpos
  · exact hassigned.clear hpos
  · exact hassigned

/-- A station gets an identifier. -/
lemma Consistent.getAid {t : StaTable} (hsta : sta ∈ s.staList)
    (ht : s.hostapdGetAid sta = some t) : Consistent maxNumSta t := by
  rw [hostapdGetAid] at ht
  split_ifs at ht with hpos
  · cases ht
    exact h
  split at ht
  · cases ht
  next i j hfound =>
  dsimp only at ht
  split_ifs at ht with hmax
  cases ht
  refine ⟨h.registered, h.size, ?_⟩
  have hassigned := h.assigned_cons hsta
  rw [aids_cons, if_neg hpos] at hassigned
  refine .perm ?_ (aids_perm (perm_cons_erase hsta))
  rw [aids_cons_update h.registered.nodup.not_mem_erase, if_pos (Nat.succ_pos _)]
  exact hassigned.set (freeAid_eq_some hfound).1 (by omega)

/-- A station is refused only if all identifiers are held. -/
lemma Consistent.getAid_eq_none (hnone : s.hostapdGetAid sta = none) (aid : ℕ) (hpos : 1 ≤ aid)
    (hle : aid ≤ 2007) : aid ∈ aids s.aid s.staList := by
  have hword : (Fin.ofNat 63 ((aid - 1) / 32)).val = (aid - 1) / 32 := Nat.mod_eq_of_lt (by omega)
  have hbit : (Fin.ofNat 32 (aid - 1)).val = (aid - 1) % 32 := rfl
  have hset : (s.staAid (Fin.ofNat 63 ((aid - 1) / 32))).getLsbD (Fin.ofNat 32 (aid - 1)) := by
    rw [hostapdGetAid] at hnone
    split_ifs at hnone
    split at hnone
    · next hfound => exact freeAid_eq_none hfound ..
    next hfound =>
    dsimp only at hnone
    split_ifs at hnone
    exact (freeAid_eq_some hfound).2 _ _ (by omega)
  have hmem := (h.assigned.bits _ _).mp hset
  rwa [hword, hbit, show (aid - 1) / 32 * 32 + (aid - 1) % 32 + 1 = aid by omega] at hmem

/-- Every call keeps the table consistent. -/
lemma Consistent.step (e : Event) : Consistent maxNumSta (s.step maxNumSta e) := by
  cases e with
  | add addr alloc => exact h.add addr alloc
  | getAid addr =>
    cases hget : s.apGetSta addr with
    | none => simpa [StaTable.step, hget] using h
    | some sta =>
      have hsta := (h.registered.find?_eq_some.mp hget).1
      cases ht : s.hostapdGetAid sta with
      | none => simpa [StaTable.step, hget, ht] using h
      | some t => simpa [StaTable.step, hget, ht] using h.getAid hsta ht
  | free addr =>
    cases hget : s.apGetSta addr with
    | none => simpa [StaTable.step, hget] using h
    | some sta => simpa [StaTable.step, hget] using h.free (h.registered.find?_eq_some.mp hget).1

end Consistent

/-- After any sequence of calls the table is consistent, the search by address finds exactly the
stations on the list, and a station is refused an identifier only if all 2007 are held. -/
theorem station_table (es : List Event) :
    let s := run maxNumSta es
    s.Consistent maxNumSta ∧
      (∀ addr sta, s.apGetSta addr = some sta ↔ sta ∈ s.staList ∧ s.addr sta = addr) ∧
      ∀ sta, s.hostapdGetAid sta = none →
        ∀ aid, 1 ≤ aid → aid ≤ 2007 → aid ∈ aids s.aid s.staList := by
  intro s
  have hinit : Consistent maxNumSta {} :=
    ⟨.nil, Nat.zero_le _, .nil, nofun, fun i j => by simp [aids]⟩
  have h : s.Consistent maxNumSta := foldlRecOn es _ hinit fun _ hs e _ => hs.step e
  exact ⟨h, fun _ _ => h.registered.find?_eq_some, fun _ => h.getAid_eq_none⟩

end StaTable

end Hostapd.Ap
