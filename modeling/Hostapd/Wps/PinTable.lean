import Hostapd.Wps.Pins

/-!
# Wi-Fi Protected Setup: a table of PINs that sessions rely on

A session that has asked for a PIN relies on the table under its UUID-E (`asked`), and one that has
obtained a PIN holds it (`holds`). `Ok` is what the table keeps for them as long as no two of them
have the same UUID-E: a PIN that is held stays locked, and it is the first entry that carries the
UUID-E of its holder. The exception is a wildcard PIN that has been assigned twice: it is given to
nobody any more.
-/

namespace Hostapd.Wps.PinTable

open Wire FirstMatch Registrar List

/-- The entry that is found when a PIN is unlocked or invalidated for its UUID-E. -/
def First (pins : List Pin) (e : Pin) : Prop := pins.find? (carries e.uuid) = some e

/-- What the table keeps of one entry. -/
structure Kept (pins : List Pin) (nextId : ℕ) (asked : Bytes → Prop)
    (holds : ℕ → Bytes → Prop) (e : Pin) : Prop where
  fresh : e.id < nextId
  specific : e.wildcardUuid = 0 → e.uuid ≠ replicate 16 0
  uses : e.wildcardUuid ≤ 3
  /-- A wildcard PIN that was assigned twice is first for a session that is still there. -/
  spent : e.wildcardUuid = 3 → First pins e ∧ asked e.uuid
  /-- A PIN that is held is locked and first for its holder, unless it was assigned twice. -/
  held : ∀ u, holds e.id u → e.wildcardUuid ≠ 3 →
    e.locked ∧ e.wildcardUuid ≠ 1 ∧ e.uuid = u ∧ First pins e

/-- What the table keeps for sessions that have asked for a PIN under a UUID-E, and for those that
hold one. -/
structure Ok (pins : List Pin) (nextId : ℕ) (asked : Bytes → Prop)
    (holds : ℕ → Bytes → Prop) : Prop where
  nodup : (pins.map Pin.id).Nodup
  /-- A wildcard PIN in front of the PIN for a UUID-E does not carry that UUID-E. -/
  order : pins.Pairwise fun q p => p.wildcardUuid = 0 → q.wildcardUuid ≠ 0 → q.uuid ≠ p.uuid
  kept : ∀ e ∈ pins, Kept pins nextId asked holds e
  holder : ∀ p u, holds p u → asked u
  known : ∀ p u, holds p u → p < nextId

variable {pins pins' : List Pin} {nextId nextId' : ℕ} {asked asked' : Bytes → Prop}
  {holds holds' : ℕ → Bytes → Prop} {e : Pin} {uuid : Bytes}

/-! ## The first entry for a UUID-E -/

lemma First.unique {e' : Pin} (h : First pins e) (hfind : pins.find? (carries e.uuid) = some e') :
    e' = e := Option.some.inj (hfind.symm.trans h)

lemma First.sublist (h : First pins e) (hnodup : (pins.map Pin.id).Nodup)
    (hsub : pins'.Sublist pins) (he : e ∈ pins') : First pins' e :=
  find?_of_sublist hsub (.of_map _ hnodup) h he

lemma First.map {g : Pin → Pin} (h : First pins e) (hself : (g e).uuid = e.uuid)
    (hother : ∀ x ∈ pins, (g x).uuid = e.uuid → x.uuid = e.uuid) : First (pins.map g) (g e) := by
  have hfind : pins.find? (carries (g e).uuid ∘ g) = some e := by
    refine find?_of_imp h ?_ ?_
    · simp [carries]
    · intro x hx hcarries
      have huuid : (g x).uuid = e.uuid := by simpa [carries, hself] using hcarries
      simpa [carries] using hother x hx huuid
  unfold First
  rw [find?_map, hfind]
  rfl

lemma First.cons {p : Pin} (h : First pins e) (hne : p.uuid ≠ e.uuid) : First (p :: pins) e := by
  unfold First
  rw [find?_cons_of_neg (by simpa [carries] using hne)]
  exact h

lemma not_first_of_mem_eraseP (hnodup : (pins.map Pin.id).Nodup)
    (he : e ∈ pins.eraseP (carries uuid)) (huuid : e.uuid = uuid) : ¬ First pins e := by
  intro hfirst
  subst huuid
  have hperm := (perm_cons_eraseP_of_find? hfirst).map Pin.id
  have hcons : ((e :: pins.eraseP (carries e.uuid)).map Pin.id).Nodup := hperm.nodup_iff.mp hnodup
  exact (nodup_cons.mp hcons).1 (mem_map_of_mem he)

variable {p : ℕ} {a x : Pin} {reg : Registrar} {f : Pin → Pin}

/-! ## Changing one entry -/

def change (a : Pin) (f : Pin → Pin) (x : Pin) : Pin := if x.id = a.id then f x else x

lemma eq_of_id (hnodup : (pins.map Pin.id).Nodup) (ha : a ∈ pins) (hx : x ∈ pins)
    (hid : x.id = a.id) : x = a := inj_on_of_nodup_map hnodup hx ha hid

lemma change_self (a : Pin) (f : Pin → Pin) : change a f a = f a := if_pos rfl

lemma change_of_ne (h : x.id ≠ a.id) : change a f x = x := if_neg h

lemma exists_change_locked (a : Pin) (b : Bool) (x : Pin) :
    ∃ b', change a (fun p => { p with locked := b }) x = { x with locked := b' } := by
  by_cases hid : x.id = a.id
  · exact ⟨b, if_pos hid⟩
  · exact ⟨x.locked, if_neg hid⟩

/-- The use of a wildcard PIN for a UUID-E. -/
def assign (uuid : Bytes) (p : Pin) : Pin :=
  { p with wildcardUuid := p.wildcardUuid + 1, uuid := uuid, locked := true }

lemma change_assign_id : (change a (assign uuid) x).id = x.id := by
  unfold change
  split
  · rfl
  · rfl

lemma First.assign (hfirst : First pins x) (hne : x.id ≠ a.id) (hasked : x.uuid ≠ uuid) :
    First (pins.map (change a (assign uuid))) x := by
  have hx : change a (PinTable.assign uuid) x = x := change_of_ne hne
  have hmap := hfirst.map (g := change a (PinTable.assign uuid)) (by rw [hx]) ?_
  · rw [hx] at hmap
    exact hmap
  intro y _ hy
  by_cases hid : y.id = a.id
  · rw [change, if_pos hid] at hy
    exact absurd hy.symm hasked
  · rwa [change_of_ne hid] at hy

/-- Who holds a PIN after one was looked up for a UUID-E. -/
def holdsAfter (holds : ℕ → Bytes → Prop) (found : Option Pin) (uuid : Bytes) (p : ℕ)
    (u : Bytes) : Prop :=
  holds p u ∨ u = uuid ∧ ∃ a, found = some a ∧ a.locked = false ∧ p = a.id

section

variable (h : Ok pins nextId asked holds)

include h

/-! ## Removing entries -/

/-- What an entry is kept for. -/
lemma Ok.kept_imp (he : e ∈ pins) (hfirst : asked e.uuid → First pins e → First pins' e)
    (hasked : asked e.uuid → First pins e → asked' e.uuid)
    (hholds : ∀ u, holds' e.id u → holds e.id u) (hnext : nextId ≤ nextId') :
    Kept pins' nextId' asked' holds' e := by
  have hkept := h.kept e he
  refine ⟨hkept.fresh.trans_le hnext, hkept.specific, hkept.uses, fun hspent => ?_, ?_⟩
  · obtain ⟨hold, hu⟩ := hkept.spent hspent
    exact ⟨hfirst hu hold, hasked hu hold⟩
  · intro u hu hspent
    obtain ⟨hlocked, huse, rfl, hold⟩ := hkept.held u (hholds u hu) hspent
    exact ⟨hlocked, huse, rfl, hfirst (h.holder _ _ (hholds _ hu)) hold⟩

lemma Ok.sublist (hsub : pins'.Sublist pins) : Ok pins' nextId asked holds where
  nodup := h.nodup.sublist (hsub.map _)
  order := h.order.sublist hsub
  kept _ he := h.kept_imp (hsub.subset he) (fun _ hfirst => hfirst.sublist h.nodup hsub he)
    (fun hu _ => hu) (fun _ => id) le_rfl
  holder := h.holder
  known := h.known

lemma Ok.mono (hasked : ∀ u, asked u → asked' u)
    (hholds : ∀ p u, holds' p u → holds p u) : Ok pins nextId asked' holds' where
  nodup := h.nodup
  order := h.order
  kept _ he := h.kept_imp he (fun _ => id) (fun hu _ => hasked _ hu) (hholds _) le_rfl
  holder p u hu := hasked u (h.holder p u (hholds p u hu))
  known p u hu := h.known p u (hholds p u hu)

lemma Ok.invalidate : Ok (pins.eraseP (carries uuid)) nextId (fun u => asked u ∧ u ≠ uuid)
      (fun p u => holds p u ∧ u ≠ uuid) where
  nodup := h.nodup.sublist (eraseP_sublist.map _)
  order := h.order.sublist eraseP_sublist
  kept _ he := h.kept_imp (mem_of_mem_eraseP he)
    (fun _ hfirst => hfirst.sublist h.nodup eraseP_sublist he)
    (fun hu hfirst => ⟨hu, fun huuid => not_first_of_mem_eraseP h.nodup he huuid hfirst⟩)
    (fun _ hu => hu.1) le_rfl
  holder p u hu := ⟨h.holder p u hu.1, hu.2⟩
  known p u hu := h.known p u hu.1

lemma Ok.gone (hholds : holds p uuid)
    (he : e ∈ pins.eraseP (carries uuid)) (hid : e.id = p) : e.wildcardUuid = 3 := by
  by_contra hspent
  obtain ⟨-, -, huuid, hfirst⟩ :=
    (h.kept e (mem_of_mem_eraseP he)).held uuid (hid ▸ hholds) hspent
  exact not_first_of_mem_eraseP h.nodup he huuid hfirst

/-! ## Looking up a PIN -/

/-- A change that keeps number, UUID-E and number of uses keeps the order of the table; what is
held then only depends on the lock. -/
lemma Ok.relock (g : Pin → Pin) (hg : ∀ x, ∃ b, g x = { x with locked := b })
    (hspent : ∀ e ∈ pins, e.wildcardUuid = 3 → asked' e.uuid)
    (hheld : ∀ e ∈ pins, ∀ u, holds' e.id u → e.wildcardUuid ≠ 3 →
      (g e).locked ∧ e.wildcardUuid ≠ 1 ∧ e.uuid = u ∧ First pins e)
    (hholder : ∀ p u, holds' p u → asked' u ∧ p < nextId) :
    Ok (pins.map g) nextId asked' holds' := by
  have hid : ∀ x, (g x).id = x.id ∧ (g x).uuid = x.uuid ∧ (g x).wildcardUuid = x.wildcardUuid := by
    intro x
    obtain ⟨b, hb⟩ := hg x
    simp [hb]
  have hfirst : ∀ e, First pins e → First (pins.map g) (g e) := fun e hfirst =>
    hfirst.map (hid e).2.1 fun x _ hx => (hid x).2.1.symm.trans hx
  constructor
  · have hmap : (pins.map g).map Pin.id = pins.map Pin.id := by
      rw [map_map]
      exact map_congr_left fun x _ => (hid x).1
    rw [hmap]
    exact h.nodup
  · refine pairwise_map.mpr (h.order.imp ?_)
    intro q p hqp
    rw [(hid p).2.2, (hid q).2.2, (hid p).2.1, (hid q).2.1]
    exact hqp
  · intro e he
    obtain ⟨x, hx, rfl⟩ := mem_map.mp he
    have hkept := h.kept x hx
    refine ⟨(hid x).1 ▸ hkept.fresh, ?_, (hid x).2.2 ▸ hkept.uses, ?_, ?_⟩
    · rw [(hid x).2.2, (hid x).2.1]
      exact hkept.specific
    · rw [(hid x).2.2, (hid x).2.1]
      exact fun hthree => ⟨hfirst x (hkept.spent hthree).1, hspent x hx hthree⟩
    · rw [(hid x).1, (hid x).2.1, (hid x).2.2]
      intro u hu hthree
      obtain ⟨hlocked, huse, huuid, hx'⟩ := hheld x hx u hu hthree
      exact ⟨hlocked, huse, huuid, hfirst x hx'⟩
  · exact fun p u hu => (hholder p u hu).1
  · exact fun p u hu => (hholder p u hu).2

/-- The entry found is the first with its UUID-E. -/
lemma Ok.first_of_isFor (ha : pins.find? (isFor uuid) = some a) : First pins a := by
  have hfor : a.wildcardUuid = 0 ∧ a.uuid = uuid := by simpa [isFor] using find?_some ha
  obtain ⟨before, after, hpins, hbefore⟩ := (find?_eq_some_iff_append.mp ha).2
  unfold First
  rw [hpins, find?_append]
  have hnone : before.find? (carries a.uuid) = none := by
    refine find?_eq_none.mpr fun x hx hcarries => ?_
    have huuid : x.uuid = a.uuid := by simpa [carries] using hcarries
    have horder := h.order
    rw [hpins] at horder
    have hne := (pairwise_append.mp horder).2.2 x hx a mem_cons_self hfor.1
    by_cases hzero : x.wildcardUuid = 0
    · have hnot := hbefore x hx
      simp [isFor, hzero, huuid, hfor.2] at hnot
    · exact hne hzero huuid
  rw [hnone, Option.none_or, find?_cons_of_pos (by simp [carries])]

/-- The PIN for a UUID-E is locked. -/
lemma Ok.lock (ha : pins.find? (isFor uuid) = some a) :
    Ok (updateFirst (isFor uuid) (fun p => { p with locked := true }) pins) nextId
      (fun u => asked u ∨ u = uuid) (holdsAfter holds (some a) uuid) := by
  have hfor : a.wildcardUuid = 0 ∧ a.uuid = uuid := by simpa [isFor] using find?_some ha
  have hmem := mem_of_find?_eq_some ha
  rw [updateFirst_eq_map h.nodup ha]
  refine h.relock _ (exists_change_locked a true) ?_ ?_ ?_
  · exact fun e he hspent => .inl ((h.kept e he).spent hspent).2
  · rintro e he u (hu | ⟨rfl, a', ha', hfree, hid⟩) hspent
    · obtain ⟨hlocked, huse, heu, hfirst⟩ := (h.kept e he).held u hu hspent
      refine ⟨?_, huse, heu, hfirst⟩
      split
      · rfl
      · exact hlocked
    · cases ha'
      obtain rfl := eq_of_id h.nodup hmem he hid
      exact ⟨by rw [if_pos rfl], by rw [hfor.1]; decide, hfor.2, h.first_of_isFor ha⟩
  · rintro p u (hu | ⟨rfl, a', ha', hfree, rfl⟩)
    · exact ⟨.inl (h.holder p u hu), h.known p u hu⟩
    · cases ha'
      exact ⟨.inr rfl, (h.kept a hmem).fresh⟩

lemma Ok.free_of_carries (hasked : ¬ asked uuid) (hnone : pins.find? (isFor uuid) = none)
    (he : e ∈ pins) (huuid : e.uuid = uuid) : isFree e := by
  have huses := (h.kept e he).uses
  have hzero : e.wildcardUuid ≠ 0 := fun hzero =>
    find?_eq_none.mp hnone e he (by simp [isFor, hzero, huuid])
  have hthree : e.wildcardUuid ≠ 3 := fun hthree =>
    hasked (huuid ▸ ((h.kept e he).spent hthree).2)
  have hfree : e.wildcardUuid = 1 ∨ e.wildcardUuid = 2 := by omega
  simpa [isFree] using hfree

/-- An assigned PIN is the first with its UUID-E. -/
lemma Ok.first_assign (hasked : ¬ asked uuid)
    (hnone : pins.find? (isFor uuid) = none) (ha : pins.find? isFree = some a) :
    First (pins.map (change a (assign uuid))) (change a (assign uuid) a) := by
  have huuid : (change a (assign uuid) a).uuid = uuid := by rw [change_self]; rfl
  have hfind : pins.find? (carries uuid ∘ change a (assign uuid)) = some a := by
    refine find?_of_imp ha (by simp [carries, huuid]) fun x hx hcarries => ?_
    by_cases hid : x.id = a.id
    · rw [eq_of_id h.nodup (mem_of_find?_eq_some ha) hx hid]
      exact find?_some ha
    · have hxu : x.uuid = uuid := by simpa [carries, change_of_ne hid] using hcarries
      exact h.free_of_carries hasked hnone hx hxu
  unfold First
  rw [huuid, find?_map, hfind]
  rfl

/-- A wildcard PIN is assigned and locked. -/
lemma Ok.assign (hasked : ¬ asked uuid)
    (hnone : pins.find? (isFor uuid) = none) (ha : pins.find? isFree = some a) :
    Ok (pins.map (change a (PinTable.assign uuid))) nextId (fun u => asked u ∨ u = uuid)
      (holdsAfter holds (some a) uuid) := by
  have hmem := mem_of_find?_eq_some ha
  have hfree : a.wildcardUuid = 1 ∨ a.wildcardUuid = 2 := by
    simpa [isFree] using find?_some ha
  have hself : change a (PinTable.assign uuid) a = PinTable.assign uuid a := change_self a _
  -- An entry of the new table is the assigned one, or an old one with another number.
  have hcases : ∀ e ∈ pins.map (change a (PinTable.assign uuid)),
      e = PinTable.assign uuid a ∨ e ∈ pins ∧ e.id ≠ a.id := by
    intro e he
    obtain ⟨x, hx, rfl⟩ := mem_map.mp he
    by_cases hid : x.id = a.id
    · exact .inl (by rw [eq_of_id h.nodup hmem hx hid, hself])
    · exact .inr (by rw [change_of_ne hid]; exact ⟨hx, hid⟩)
  have hfirst := h.first_assign hasked hnone ha
  rw [hself] at hfirst
  constructor
  · have hmap : (pins.map (change a (PinTable.assign uuid))).map Pin.id = pins.map Pin.id := by
      rw [map_map]
      exact map_congr_left fun x _ => change_assign_id
    rw [hmap]
    exact h.nodup
  · refine pairwise_map.mpr (h.order.imp_of_mem ?_)
    intro q p hq hp hqp hzero hwild
    have hpa : p.id ≠ a.id := by
      intro hid
      rw [change, if_pos hid] at hzero
      exact absurd hzero (Nat.succ_ne_zero _)
    rw [change_of_ne hpa] at hzero ⊢
    by_cases hqa : q.id = a.id
    · -- No PIN for the UUID-E stands behind the one that is assigned to it.
      rw [change, if_pos hqa]
      intro huuid
      exact find?_eq_none.mp hnone p hp (by simp [isFor, hzero, ← huuid, PinTable.assign])
    · rw [change_of_ne hqa] at hwild ⊢
      exact hqp hzero hwild
  · intro e he
    rcases hcases e he with rfl | ⟨he, hid⟩
    · refine ⟨(h.kept a hmem).fresh, nofun, ?_, fun _ => ⟨hfirst, .inr rfl⟩, ?_⟩
      · change a.wildcardUuid + 1 ≤ 3
        omega
      rintro u (hu | ⟨rfl, -⟩) hthree
      · -- A PIN that is held has been assigned once, so this was its second use.
        have hne : a.wildcardUuid + 1 ≠ 3 := hthree
        obtain ⟨-, hone, -, -⟩ := (h.kept a hmem).held u hu (by omega)
        omega
      · refine ⟨rfl, ?_, rfl, hfirst⟩
        change a.wildcardUuid + 1 ≠ 1
        omega
    · refine h.kept_imp he (fun hu hold => hold.assign hid fun heq => hasked (heq ▸ hu))
        (fun hu _ => .inl hu) ?_ le_rfl
      rintro u (hu | ⟨rfl, a', ha', -, hid'⟩)
      · exact hu
      · cases ha'
        exact absurd hid' hid
  · rintro p u (hu | ⟨rfl, -⟩)
    · exact .inl (h.holder p u hu)
    · exact .inr rfl
  · rintro p u (hu | ⟨rfl, a', ha', -, rfl⟩)
    · exact h.known p u hu
    · cases ha'
      exact (h.kept a hmem).fresh

/-- A PIN is looked up for a UUID-E. -/
lemma Ok.lookUp (hasked : ¬ asked uuid) :
    Ok (lookUp pins uuid).1 nextId (fun u => asked u ∨ u = uuid)
      (holdsAfter holds (lookUp pins uuid).2 uuid) := by
  unfold Registrar.lookUp
  split
  · rename_i a ha
    exact h.lock ha
  rename_i hnone
  cases ha : pins.find? isFree with
  | none =>
    rw [updateFirst_of_not_any (find?_eq_none.mp ha)]
    refine h.mono (fun u => .inl) ?_
    rintro p u (hu | ⟨-, a, ha', -⟩)
    · exact hu
    · exact absurd ha' (by simp)
  | some a =>
    rw [updateFirst_eq_map h.nodup ha]
    exact h.assign hasked hnone ha

/-! ## Configuring PINs -/

/-- A PIN is configured. -/
lemma Ok.cons {p : Pin} (hid : p.id = nextId)
    (hasked : ¬ asked p.uuid) (hwild : p.wildcardUuid = 0 ∨ p.wildcardUuid = 1)
    (hspecific : p.wildcardUuid = 0 ↔ p.uuid ≠ replicate 16 0) :
    Ok (p :: pins) (nextId + 1) asked holds := by
  constructor
  · refine nodup_cons.mpr ⟨fun hmem => ?_, h.nodup⟩
    obtain ⟨x, hx, hxid⟩ := mem_map.mp hmem
    have hlt := (h.kept x hx).fresh
    omega
  · refine pairwise_cons.mpr ⟨fun q hq hzero hne => ?_, h.order⟩
    have hp : p.uuid = replicate 16 0 := not_not.mp fun hu => hne (hspecific.mpr hu)
    exact fun heq => (h.kept q hq).specific hzero (heq ▸ hp)
  · intro e he
    rcases mem_cons.mp he with rfl | he
    · refine ⟨by omega, hspecific.mp, by omega, fun hthree => by omega, fun u hu _ => ?_⟩
      exact absurd (h.known _ u hu) (by omega)
    · exact h.kept_imp he (fun hu hfirst => hfirst.cons fun heq => hasked (heq ▸ hu))
        (fun hu _ => hu) (fun _ => id) (Nat.le_succ _)
  · exact h.holder
  · exact fun p u hu => Nat.lt_succ_of_lt (h.known p u hu)

end

/-- The PIN for a UUID-E is unlocked. -/
lemma Ok.unlock (h : Ok reg.pins nextId asked holds) :
    Ok (reg.unlockPin uuid).pins nextId (fun u => asked u ∧ u ≠ uuid)
      (fun p u => holds p u ∧ u ≠ uuid) := by
  unfold unlockPin
  split
  · -- Nothing carries the UUID-E, so removing what does changes nothing either.
    rename_i hnone
    have herase : reg.pins.eraseP (carries uuid) = reg.pins :=
      eraseP_of_forall_not (find?_eq_none.mp hnone)
    exact herase ▸ h.invalidate
  rename_i a ha
  have huuid : a.uuid = uuid := by simpa [carries] using find?_some ha
  split
  · exact h.invalidate
  rename_i hthree
  rw [updateFirst_eq_map h.nodup ha]
  refine h.relock _ (exists_change_locked a false) ?_ ?_ ?_
  · intro e he hspent
    obtain ⟨hfirst, hasked⟩ := (h.kept e he).spent hspent
    refine ⟨hasked, fun heq => hthree ?_⟩
    have hae : a = e := hfirst.unique (heq ▸ ha)
    exact hae ▸ hspent
  · intro e he u hu hspent
    obtain ⟨hlocked, huse, heu, hfirst⟩ := (h.kept e he).held u hu.1 hspent
    have hne : e.id ≠ a.id := by
      intro hid
      rw [eq_of_id h.nodup (mem_of_find?_eq_some ha) he hid] at heu
      exact hu.2 (heu.symm.trans huuid)
    exact ⟨by rw [if_neg hne]; exact hlocked, huse, heu, hfirst⟩
  · exact fun p u hu => ⟨⟨h.holder p u hu.1, hu.2⟩, h.known p u hu.1⟩

lemma mem_of_lookUp (hfound : (lookUp pins uuid).2 = some e) : e ∈ pins ∧ e.wildcardUuid ≠ 3 := by
  unfold Registrar.lookUp at hfound
  split at hfound
  · rename_i a ha
    cases hfound
    have hfor : e.wildcardUuid = 0 ∧ e.uuid = uuid := by simpa [isFor] using find?_some ha
    exact ⟨mem_of_find?_eq_some ha, by omega⟩
  · have hfree : e.wildcardUuid = 1 ∨ e.wildcardUuid = 2 := by
      simpa [isFree] using find?_some hfound
    exact ⟨mem_of_find?_eq_some hfound, by omega⟩

lemma nextId_addPin (reg : Registrar) (uuid : Option Bytes) (pin : Bytes)
    (now timeout : ℕ) : (reg.addPin uuid pin now timeout).nextId = reg.nextId + 1 := by
  cases uuid with
  | none => rfl
  | some u => rfl

lemma Ok.addPin (h : Ok reg.pins reg.nextId asked holds) {uuid : Option Bytes}
    (pin : Bytes) (now timeout : ℕ) (hasked : ¬ asked (uuid.getD (replicate 16 0)))
    (hzero : uuid ≠ some (replicate 16 0)) :
    Ok (reg.addPin uuid pin now timeout).pins (reg.addPin uuid pin now timeout).nextId asked
      holds := by
  cases uuid with
  | none =>
    exact (h.sublist eraseP_sublist).cons rfl hasked (.inr rfl) (by simp)
  | some u =>
    refine h.cons rfl hasked (.inl rfl) ?_
    simpa using fun heq => hzero (congrArg some heq)

/-! ## PINs that are used up -/

/-- A PIN is used up: it is gone, or nobody gets it any more. -/
def Dead (pins : List Pin) (p : ℕ) : Prop := ∀ e ∈ pins, e.id = p → e.wildcardUuid = 3

lemma Dead.subset (h : Dead pins p) (hsub : pins' ⊆ pins) : Dead pins' p :=
  fun e he => h e (hsub he)

lemma Dead.updateFirst {q : Pin → Bool} (h : Dead pins p) (hid : ∀ x, (f x).id = x.id)
    (hq : ∀ x, q x → x.wildcardUuid = 3 → (f x).wildcardUuid = 3) :
    Dead (updateFirst q f pins) p := by
  intro e he hep
  rcases mem_updateFirst he with he | ⟨x, hx, hqx, rfl⟩
  · exact h e he hep
  · exact hq x hqx (h x hx ((hid x).symm.trans hep))

lemma Dead.lookUp (h : Dead pins p) : Dead (lookUp pins uuid).1 p := by
  unfold Registrar.lookUp
  split
  · exact h.updateFirst (fun _ => rfl) fun x _ hx => hx
  · refine h.updateFirst (fun _ => rfl) fun x hfree hx => ?_
    simp [isFree, hx] at hfree

lemma Dead.unlockPin (h : Dead reg.pins p) : Dead (reg.unlockPin uuid).pins p := by
  unfold Registrar.unlockPin
  split
  · exact h
  · split
    · exact h.subset eraseP_subset
    · exact h.updateFirst (fun _ => rfl) fun x _ hx => hx

lemma Dead.addPin (h : Dead reg.pins p) (hp : p < reg.nextId) (uuid : Option Bytes)
    (pin : Bytes) (now timeout : ℕ) : Dead (reg.addPin uuid pin now timeout).pins p := by
  intro e he hep
  rcases mem_cons.mp he with rfl | he
  · exact absurd hep (Nat.ne_of_gt hp)
  refine h e ?_ hep
  split at he
  · exact mem_of_mem_eraseP he
  · exact he

lemma Ok.dead (h : Ok pins nextId asked holds) (hholds : holds p uuid) :
    Dead (pins.eraseP (carries uuid)) p := fun _ he hid => h.gone hholds he hid

lemma nextId_unlockPin (reg : Registrar) (uuid : Bytes) :
    (reg.unlockPin uuid).nextId = reg.nextId := by
  unfold Registrar.unlockPin
  split
  · rfl
  · split
    · rfl
    · rfl

lemma unlock_invalidate_sublist (reg : Registrar) (uuid : Bytes) :
    ((reg.unlockPin uuid).invalidatePin uuid).pins.Sublist (reg.pins.eraseP (carries uuid)) := by
  unfold Registrar.unlockPin
  split
  · exact .refl _
  split
  · exact eraseP_sublist
  · have herase := eraseP_updateFirst (p := carries uuid)
      (f := fun p : Pin => { p with locked := false }) (fun a ha => ha) reg.pins
    exact herase ▸ .refl _

end Hostapd.Wps.PinTable
