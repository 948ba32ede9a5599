import Mathlib.Data.List.Basic
import Mathlib.Tactic

/-!
# Writing through the first match of a list

A linked list searched for an element and written through the pointer found is, on values, an update
of the first element that satisfies a predicate.  `updateFirst p f l` is that update; `List.find?`
is the search and `List.eraseP` the unlinking.
-/

namespace FirstMatch

open List

variable {α β : Type*}

/-- Apply `f` to the first element of `l` that satisfies `p`. -/
def updateFirst (p : α → Bool) (f : α → α) : List α → List α
  | [] => []
  | a :: l => if p a then f a :: l else a :: updateFirst p f l

@[simp] lemma updateFirst_nil (p : α → Bool) (f : α → α) : updateFirst p f [] = [] := rfl

variable {p q : α → Bool} {f : α → α} {a x b : α} {l l₁ : List α} {key g : α → β}

lemma updateFirst_cons_of_pos (h : p a) : updateFirst p f (a :: l) = f a :: l := by
  simp [updateFirst, h]

lemma updateFirst_cons_of_neg (h : ¬ p a) : updateFirst p f (a :: l) = a :: updateFirst p f l := by
  simp [updateFirst, h]

/-- In two lists one behind the other the first match is in the first one, if it has any. -/
lemma updateFirst_append (l₁ l : List α) : updateFirst p f (l₁ ++ l) =
    if l₁.any p then updateFirst p f l₁ ++ l else l₁ ++ updateFirst p f l := by
  induction l₁ with
  | nil => rfl
  | cons a l₁ ih =>
    by_cases ha : p a
    · simp [updateFirst_cons_of_pos ha, ha]
    · rw [cons_append, updateFirst_cons_of_neg ha, updateFirst_cons_of_neg ha, ih,
        any_cons, Bool.eq_false_iff.mpr ha, Bool.false_or]
      split <;> rfl

lemma updateFirst_of_not_any (h : ∀ a ∈ l, ¬ p a) : updateFirst p f l = l := by
  have happend := updateFirst_append (p := p) (f := f) l []
  rwa [if_neg (by simpa using h), updateFirst_nil, append_nil] at happend

/-- The list in front of the first match and behind it. -/
lemma split_of_find? (h : l.find? p = some a) :
    ∃ l₁ l₂, l = l₁ ++ a :: l₂ ∧ (∀ x ∈ l₁, ¬ p x) ∧ l.eraseP p = l₁ ++ l₂ ∧
      ∀ f, updateFirst p f l = l₁ ++ f a :: l₂ := by
  obtain ⟨ha, l₁, l₂, rfl, hl₁⟩ := find?_eq_some_iff_append.mp h
  have hnot : ∀ x ∈ l₁, ¬ p x := fun x hx => by simpa using hl₁ x hx
  refine ⟨l₁, l₂, rfl, hnot, ?_, fun f => ?_⟩
  · rw [eraseP_append_right _ hnot, eraseP_cons_of_pos ha]
  · rw [updateFirst_append, if_neg (by simpa using hnot), updateFirst_cons_of_pos ha]

/-- A list is updated at the first match, or not at all. -/
lemma updateFirst_cases {P : List α → Prop} (f : α → α) (hnone : (∀ a ∈ l, ¬ p a) → P l)
    (hsome : ∀ l₁ a l₂, l = l₁ ++ a :: l₂ → (∀ x ∈ l₁, ¬ p x) → p a → P (l₁ ++ f a :: l₂)) :
    P (updateFirst p f l) := by
  cases h : l.find? p with
  | none =>
    have hnot := find?_eq_none.mp h
    rw [updateFirst_of_not_any hnot]
    exact hnone hnot
  | some a =>
    obtain ⟨l₁, l₂, hl, hnot, -, hupdate⟩ := split_of_find? h
    rw [hupdate f]
    exact hsome l₁ a l₂ hl hnot (find?_some h)

/-- A projection that the update leaves alone on the elements searched for is left alone on the
list. -/
lemma map_updateFirst (hg : ∀ a, p a → g (f a) = g a) (l : List α) :
    (updateFirst p f l).map g = l.map g := by
  refine updateFirst_cases (P := fun l' => l'.map g = l.map g) f (fun _ => rfl) ?_
  rintro l₁ a l₂ rfl - ha
  simp [hg a ha]

lemma mem_updateFirst (hx : x ∈ updateFirst p f l) : x ∈ l ∨ ∃ y ∈ l, p y ∧ x = f y := by
  revert hx
  refine updateFirst_cases (P := fun l' => x ∈ l' → _) f (fun _ => .inl) ?_
  rintro l₁ a l₂ rfl - ha hx
  rcases mem_append.mp hx with hx | hx
  · exact .inl (mem_append_left _ hx)
  rcases mem_cons.mp hx with rfl | hx
  · exact .inr ⟨a, by simp, ha, rfl⟩
  · exact .inl (mem_append_right _ (mem_cons_of_mem _ hx))

lemma updateFirst_eq_of_find? (h : l.find? p = some a) :
    updateFirst p f l = updateFirst p (fun _ => f a) l := by
  obtain ⟨l₁, l₂, -, -, -, hupdate⟩ := split_of_find? h
  rw [hupdate f, hupdate fun _ => f a]

lemma mem_updateFirst_self (h : l.find? p = some a) : f a ∈ updateFirst p f l := by
  obtain ⟨l₁, l₂, -, -, -, hupdate⟩ := split_of_find? h
  simp [hupdate f]

/-- A projection on which the element found and its replacement agree is left alone on the list. -/
lemma map_updateFirst_of_find? (hfind : l.find? p = some a) (hg : g b = g a) :
    (updateFirst p (fun _ => b) l).map g = l.map g := by
  obtain ⟨l₁, l₂, rfl, -, -, hupdate⟩ := split_of_find? hfind
  simp [hupdate fun _ => b, hg]

lemma key_ne_of_nodup {l₂ : List α} (hkeys : ((l₁ ++ a :: l₂).map key).Nodup) :
    ∀ x ∈ l₁ ++ l₂, key x ≠ key a := by
  rw [map_append, map_cons, nodup_middle, ← map_append] at hkeys
  exact fun x hx heq => (nodup_cons.mp hkeys).1 (heq ▸ mem_map_of_mem hx)

/-- With distinct keys the element found is replaced, and the elements with other keys stay. -/
lemma mem_updateFirst_of_find? (hfind : l.find? p = some a) (hkeys : (l.map key).Nodup)
    (hx : x ∈ updateFirst p (fun _ => b) l) : x = b ∨ x ∈ l ∧ key x ≠ key a := by
  obtain ⟨l₁, l₂, rfl, -, -, hupdate⟩ := split_of_find? hfind
  have hx' : x = b ∨ x ∈ l₁ ++ l₂ := by simpa [hupdate fun _ => b, or_left_comm] using hx
  refine hx'.imp_right fun hx => ⟨?_, key_ne_of_nodup hkeys x hx⟩
  exact ((sublist_cons_self a l₂).append_left l₁).subset hx

lemma perm_cons_eraseP_of_find? (h : l.find? p = some a) : l.Perm (a :: l.eraseP p) := by
  obtain ⟨l₁, l₂, hl, -, herase, -⟩ := split_of_find? h
  rw [herase, hl]
  exact perm_middle

lemma find?_append_of_not (h : ∀ a ∈ l₁, ¬ p a) : (l₁ ++ l).find? p = l.find? p := by
  rw [find?_append, find?_eq_none.mpr h, Option.none_or]

lemma find?_key [DecidableEq β] (ha : a ∈ l) (hkeys : (l.map key).Nodup) :
    l.find? (fun b => key b == key a) = some a := by
  obtain ⟨l₁, l₂, rfl⟩ := append_of_mem ha
  have hnot : ∀ x ∈ l₁, ¬ (key x == key a) := fun x hx => by
    simpa using key_ne_of_nodup hkeys x (mem_append_left _ hx)
  rw [find?_append_of_not hnot, find?_cons_of_pos (by simp)]

/-- Unlinking by a key that no two elements share is a filter. -/
lemma eraseP_key [DecidableEq β] (hnodup : (l.map key).Nodup) (b : β) :
    l.eraseP (fun a => key a == b) = l.filter fun a => key a != b := by
  induction l with
  | nil => rfl
  | cons a l ih =>
    obtain ⟨hnew, hnodup⟩ := nodup_cons.mp hnodup
    by_cases ha : key a = b
    · rw [eraseP_cons_of_pos (by simpa using ha), filter_cons_of_neg (by simpa using ha)]
      refine (filter_eq_self.mpr fun x hx => bne_iff_ne.mpr fun hxb => ?_).symm
      exact hnew (mem_map.mpr ⟨x, hx, hxb.trans ha.symm⟩)
    · rw [eraseP_cons_of_neg (by simpa using ha), filter_cons_of_pos (by simpa using ha), ih hnodup]

lemma find?_updateFirst_self (hf : ∀ a, p a → p (f a)) (l : List α) :
    (updateFirst p f l).find? p = (l.find? p).map f := by
  refine updateFirst_cases (P := fun l' => l'.find? p = _) f (fun hnot => ?_) ?_
  · rw [find?_eq_none.mpr hnot, Option.map_none]
  · rintro l₁ a l₂ rfl hnot ha
    rw [find?_append_of_not hnot, find?_append_of_not hnot, find?_cons_of_pos (hf a ha),
      find?_cons_of_pos ha, Option.map_some]

lemma find?_updateFirst_of_disjoint (hf : ∀ a, p a → ¬ q a ∧ ¬ q (f a)) (l : List α) :
    (updateFirst p f l).find? q = l.find? q := by
  refine updateFirst_cases (P := fun l' => l'.find? q = _) f (fun _ => rfl) ?_
  rintro l₁ a l₂ rfl - ha
  rw [find?_append, find?_append, find?_cons_of_neg (hf a ha).1, find?_cons_of_neg (hf a ha).2]

lemma eraseP_updateFirst (hf : ∀ a, p a → p (f a)) (l : List α) :
    (updateFirst p f l).eraseP p = l.eraseP p := by
  refine updateFirst_cases (P := fun l' => l'.eraseP p = _) f (fun _ => rfl) ?_
  rintro l₁ a l₂ rfl hnot ha
  rw [eraseP_append_right _ hnot, eraseP_append_right _ hnot,
    eraseP_cons_of_pos (hf a ha), eraseP_cons_of_pos ha]

/-- With distinct keys the update is a map that changes the element found. -/
lemma updateFirst_eq_map [DecidableEq β] (hkeys : (l.map key).Nodup) (hfind : l.find? p = some a) :
    updateFirst p f l = l.map fun x => if key x = key a then f x else x := by
  obtain ⟨l₁, l₂, rfl, -, -, hupdate⟩ := split_of_find? hfind
  have hother := key_ne_of_nodup hkeys
  have hkept : ∀ l' ⊆ l₁ ++ l₂, (l'.map fun x => if key x = key a then f x else x) = l' :=
    fun l' hl' => (map_congr_left fun x hx => if_neg (hother x (hl' hx))).trans (map_id' _)
  rw [hupdate, map_append, map_cons, if_pos rfl, hkept l₁ (subset_append_left _ _),
    hkept l₂ (subset_append_right _ _)]

/-- What is found is found in a part that has it. -/
lemma find?_of_sublist {l' : List α} (hsub : l'.Sublist l) (hnodup : l.Nodup)
    (hfind : l.find? p = some a) (ha : a ∈ l') : l'.find? p = some a := by
  induction hsub with
  | slnil => exact hfind
  | @cons l' l c hsub ih =>
    obtain ⟨hc, hnodup⟩ := nodup_cons.mp hnodup
    by_cases h : p c
    · rw [find?_cons_of_pos h] at hfind
      cases hfind
      exact absurd (hsub.subset ha) hc
    · rw [find?_cons_of_neg h] at hfind
      exact ih hnodup hfind ha
  | @cons_cons l' l c hsub ih =>
    obtain ⟨hc, hnodup⟩ := nodup_cons.mp hnodup
    by_cases h : p c
    · rw [find?_cons_of_pos h] at hfind ⊢
      exact hfind
    · rw [find?_cons_of_neg h] at hfind ⊢
      have hne : a ≠ c := fun heq => h (heq ▸ find?_some hfind)
      exact ih hnodup hfind ((mem_cons.mp ha).resolve_left hne)

lemma find?_of_imp (hfind : l.find? p = some a) (ha : q a) (himp : ∀ x ∈ l, q x → p x) :
    l.find? q = some a := by
  obtain ⟨l₁, l₂, rfl, hnot, -, -⟩ := split_of_find? hfind
  rw [find?_append_of_not fun x hx hq => hnot x hx (himp x (mem_append_left _ hx) hq),
    find?_cons_of_pos ha]

end FirstMatch
