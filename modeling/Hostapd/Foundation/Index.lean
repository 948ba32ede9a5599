import Mathlib.Data.List.Nodup
import Mathlib.Data.List.Sort
import Mathlib.Logic.Function.Basic

/-!
# Lists with an index

A list of elements together with an index of it: for each key the chain of the elements with this
key, in any order. `Indexed` says that the chains hold exactly the elements of the list. Linking an
element and unlinking one keep this, and a search along the chain of a key finds an element exactly
if the list has one.
-/

namespace Index

open List Function

variable {α κ β : Type} [DecidableEq κ] {l : List α} {a : α}

/-- The chains are an index of the list. -/
def Indexed (key : α → κ) (l : List α) (chains : κ → List α) : Prop :=
  ∀ k, (chains k).Perm (l.filter fun a => key a = k)

section Indexed

variable {key : α → κ} {l l' : List α} {chains : κ → List α}

lemma Indexed.nil : Indexed key [] fun _ => [] := fun _ => .refl _

section

variable (h : Indexed key l chains) {a : α} {k : κ}

include h

lemma Indexed.mem_iff : a ∈ chains k ↔ a ∈ l ∧ key a = k := by
  rw [(h k).mem_iff, mem_filter, decide_eq_true_iff]

lemma Indexed.nodup (hl : l.Nodup) (k : κ) : (chains k).Nodup :=
  (h k).nodup_iff.mpr (hl.filter _)

lemma Indexed.link (hl : l'.Perm (a :: l)) :
    Indexed key l' (update chains (key a) (a :: chains (key a))) := by
  intro k
  have hfilter : (l'.filter fun b => key b = k).Perm ((a :: l).filter fun b => key b = k) :=
    hl.filter _
  by_cases hk : k = key a
  · subst hk
    rw [update_self]
    refine .trans ?_ hfilter.symm
    rw [filter_cons_of_pos (by simp)]
    exact (h (key a)).cons a
  · rw [update_of_ne hk]
    refine .trans ?_ hfilter.symm
    rw [filter_cons_of_neg (by simpa using Ne.symm hk)]
    exact h k

lemma Indexed.unlink [DecidableEq α] (a : α) :
    Indexed key (l.erase a) (update chains (key a) ((chains (key a)).erase a)) := by
  intro k
  rw [← erase_filter]
  by_cases hk : k = key a
  · subst hk
    rw [update_self]
    exact (h (key a)).erase a
  have ha : a ∉ l.filter fun b => key b = k := by
    intro ha
    exact hk (of_decide_eq_true (mem_filter.mp ha).2).symm
  rw [update_of_ne hk, erase_of_not_mem ha]
  exact h k

/-- A search along the chain of a key succeeds exactly if the list has such an element. -/
lemma Indexed.find?_isSome_iff {p : α → Bool} (hp : ∀ a, p a → key a = k) :
    ((chains k).find? p).isSome ↔ ∃ a ∈ l, p a := by
  rw [find?_isSome]
  constructor
  · rintro ⟨a, ha, hpa⟩
    exact ⟨a, (h.mem_iff.mp ha).1, hpa⟩
  · rintro ⟨a, ha, hpa⟩
    exact ⟨a, h.mem_iff.mpr ⟨ha, hp a hpa⟩, hpa⟩

end

end Indexed

/-! ## Order -/

/-- Inserting keeps the order. -/
lemma pairwise_orderedInsert [LinearOrder β] (f : α → β) (a : α)
    (h : l.Pairwise fun x y => f x ≤ f y) :
    (l.orderedInsert (fun x y => f x < f y) a).Pairwise fun x y => f x ≤ f y := by
  induction l with
  | nil => exact pairwise_singleton _ _
  | cons b l ih =>
    obtain ⟨hb, hl⟩ := pairwise_cons.mp h
    rw [List.orderedInsert]
    split
    · next hlt =>
      refine pairwise_cons.mpr ⟨?_, h⟩
      intro x hx
      obtain rfl | hx := mem_cons.mp hx
      · exact hlt.le
      · exact hlt.le.trans (hb x hx)
    · next hlt =>
      refine pairwise_cons.mpr ⟨?_, ih hl⟩
      intro x hx
      obtain rfl | hx := (mem_orderedInsert _).mp hx
      · exact not_lt.mp hlt
      · exact hb x hx

lemma nodup_map_orderedInsert (key : α → β) (r : α → α → Prop) [DecidableRel r]
    (h : (l.map key).Nodup) (ha : ∀ b ∈ l, key b ≠ key a) :
    ((l.orderedInsert r a).map key).Nodup := by
  refine ((perm_orderedInsert r a l).map key).nodup_iff.mpr (nodup_cons.mpr ⟨?_, h⟩)
  intro hmem
  obtain ⟨b, hb, heq⟩ := mem_map.mp hmem
  exact ha b hb heq

/-! ## Unlinking by a reference -/

/-- Unlinking by reference unlinks the element. -/
lemma eraseP_eq_erase {ρ : Type} [DecidableEq ρ] [DecidableEq α] {ref : α → ρ}
    (hinj : ∀ b ∈ l, ref b = ref a → b = a) : l.eraseP (ref · == ref a) = l.erase a := by
  induction l with
  | nil => rfl
  | cons b l ih =>
    have htail := ih fun c hc => hinj c (mem_cons_of_mem b hc)
    by_cases hb : b = a
    · subst hb
      rw [eraseP_cons_of_pos (by simp), erase_cons_head]
    · have href : ref b ≠ ref a := fun href => hb (hinj b mem_cons_self href)
      rw [eraseP_cons_of_neg (by simpa using href), erase_cons_tail (by simpa using hb), htail]

lemma map_erase_of_nodup [DecidableEq α] [DecidableEq β] {name : α → β} (hl : (l.map name).Nodup)
    (ha : a ∈ l) : (l.erase a).map name = (l.map name).erase (name a) := by
  obtain ⟨l₁, l₂, -, rfl, heq⟩ := exists_erase_eq ha
  rw [map_append, map_cons] at hl ⊢
  have hnot : name a ∉ l₁.map name := fun hmem => disjoint_of_nodup_append hl hmem mem_cons_self
  rw [heq, erase_append_right _ hnot, erase_cons_head, map_append]

/-! ## Elements with a name -/

section Name

variable {ν : Type} {hash : ν → κ} {name : α → ν} {n : ν} {chains : κ → List α} {count : ℤ}
  {live : α → Bool}

/-- The index is by the hash of a name that no two elements share. -/
structure Registered (hash : ν → κ) (name : α → ν) (l : List α) (chains : κ → List α) (count : ℤ)
    (live : α → Bool) : Prop where
  indexed : Indexed (fun a => hash (name a)) l chains
  names : (l.map name).Nodup
  count_eq : count = l.length
  live_iff : ∀ a, live a ↔ a ∈ l

namespace Registered

lemma nil : Registered hash name [] (fun _ => []) 0 fun _ => false :=
  ⟨.nil, .nil, rfl, by simp⟩

variable (h : Registered hash name l chains count live)

include h

lemma nodup : l.Nodup := h.names.of_map

lemma not_mem_of_alloc {alloc : Option α} (halloc : alloc.filter (!live ·) = some a) : a ∉ l := by
  intro ha
  simpa [(h.live_iff a).mpr ha] using (Option.filter_eq_some_iff.mp halloc).2

lemma perm {l' : List α} (hperm : l'.Perm l) : Registered hash name l' chains count live where
  indexed k := (h.indexed k).trans (hperm.symm.filter _)
  names := (hperm.map name).nodup_iff.mpr h.names
  count_eq := by rw [h.count_eq, hperm.length_eq]
  live_iff a := by rw [h.live_iff, hperm.mem_iff]

/-- The search by name finds exactly the elements of the list. -/
lemma find?_eq_some [DecidableEq ν] :
    (chains (hash n)).find? (name · == n) = some a ↔ a ∈ l ∧ name a = n := by
  have hfound : ∀ b, (chains (hash n)).find? (name · == n) = some b → b ∈ l ∧ name b = n :=
    fun b hb => ⟨(h.indexed.mem_iff.mp (mem_of_find?_eq_some hb)).1, by simpa using find?_some hb⟩
  refine ⟨hfound a, ?_⟩
  rintro ⟨ha, rfl⟩
  have hsome : ((chains (hash (name a))).find? (name · == name a)).isSome :=
    (h.indexed.find?_isSome_iff fun b hb => congrArg hash (eq_of_beq hb)).mpr
      ⟨a, ha, beq_self_eq_true (name a)⟩
  obtain ⟨b, hb⟩ := Option.isSome_iff_exists.mp hsome
  rw [hb, inj_on_of_nodup_map h.names (hfound b hb).1 ha (hfound b hb).2]

lemma find?_eq_none [DecidableEq ν] (hfind : (chains (hash n)).find? (name · == n) = none) :
    n ∉ l.map name := by
  intro hmem
  obtain ⟨a, ha, rfl⟩ := mem_map.mp hmem
  exact nomatch hfind.symm.trans (h.find?_eq_some.mpr ⟨ha, rfl⟩)

variable [DecidableEq α]

/-- A new element, under a name that it has from now on. -/
lemma link (ha : a ∉ l) (hn : n ∉ l.map name) :
    Registered hash (update name a n) (a :: l)
      (update chains (hash n) (a :: chains (hash n))) (count + 1)
      (update live a true) where
  indexed := by
    have hsame : Indexed (fun b => hash (update name a n b)) l chains := fun k => by
      refine (h.indexed k).trans (.of_eq (filter_congr fun b hb => ?_))
      simp only [update_of_ne (ne_of_mem_of_not_mem hb ha)]
    simpa using hsame.link (.refl (a :: l))
  names := by
    have hsame : l.map (update name a n) = l.map name :=
      map_congr_left fun b hb => update_of_ne (ne_of_mem_of_not_mem hb ha) ..
    rw [map_cons, update_self, hsame]
    exact nodup_cons.mpr ⟨hn, h.names⟩
  count_eq := by rw [h.count_eq, length_cons, Int.natCast_succ]
  live_iff b := by
    rw [mem_cons, ← h.live_iff]
    by_cases hb : b = a <;> simp [hb]

/-- An element is taken out, by its name. -/
lemma unlink [DecidableEq ν] (ha : a ∈ l) :
    Registered hash name (l.erase a)
      (update chains (hash (name a))
        ((chains (hash (name a))).eraseP (name · == name a))) (count - 1)
      (update live a false) where
  indexed := by
    rw [eraseP_eq_erase fun b hb => inj_on_of_nodup_map h.names (h.indexed.mem_iff.mp hb).1 ha]
    exact h.indexed.unlink a
  names := h.names.sublist (erase_sublist.map _)
  count_eq := by
    have hpos := length_pos_of_mem ha
    rw [h.count_eq, length_erase_of_mem ha]
    omega
  live_iff b := by
    rw [h.nodup.mem_erase_iff, ← h.live_iff]
    by_cases hb : b = a <;> simp [hb]

end Registered

end Name

end Index
