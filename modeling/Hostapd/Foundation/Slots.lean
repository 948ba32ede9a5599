import Mathlib.Data.List.Basic
import Mathlib.Tactic

/-!
# Numbered sessions that come and go

The sessions of a server, each with the number of the place at which it was started.  A place is
never used again: a session that ends leaves an empty place.  `live l i` is the session with number
`i`, if there is one; the lemmas say what it is after a session was changed, ended or added.
-/

namespace Slots

open List

variable {α : Type} {l : List (Option α)} {i j : ℕ} {a : α}

/-- The session with number `i`, none if it has ended or was never started. -/
def live (l : List (Option α)) (i : ℕ) : Option α := (l[i]?).join

@[simp] lemma live_nil (i : ℕ) : live ([] : List (Option α)) i = none := rfl

lemma lt_of_live (h : live l i = some a) : i < l.length := by
  by_contra hle
  rw [live, getElem?_eq_none (Nat.le_of_not_lt hle)] at h
  exact absurd h (by simp)

lemma live_set (h : live l i = some a) (x : Option α) (j : ℕ) :
    live (l.set i x) j = if j = i then x else live l j := by
  by_cases hj : j = i
  · subst hj
    rw [live, getElem?_set_self (lt_of_live h), if_pos rfl]
    rfl
  · rw [live, getElem?_set_ne (Ne.symm hj), if_neg hj, live]

lemma live_append (l : List (Option α)) (x : Option α) (j : ℕ) :
    live (l ++ [x]) j = if j = l.length then x else live l j := by
  unfold live
  by_cases hj : j = l.length
  · subst hj
    simp
  rw [if_neg hj]
  rcases Nat.lt_or_gt_of_ne hj with hlt | hgt
  · rw [getElem?_append_left hlt]
  · rw [getElem?_eq_none (by simp; omega), getElem?_eq_none (by omega)]

lemma live_set_eq_some {x : Option α} {b : α} (h : live (l.set i x) j = some b) :
    j = i ∧ x = some b ∨ j ≠ i ∧ live l j = some b := by
  by_cases hj : j = i
  · subst hj
    rw [live, getElem?_set_self (by simpa using lt_of_live h)] at h
    exact .inl ⟨rfl, h⟩
  · rw [live, getElem?_set_ne (Ne.symm hj)] at h
    exact .inr ⟨hj, h⟩

/-- There is a session with a property. -/
def Any (l : List (Option α)) (p : α → Bool) : Prop := ∃ i a, live l i = some a ∧ p a

lemma any_iff {p : α → Bool} : Any l p ↔ (l.any fun x => x.any p) := by
  rw [any_eq_true]
  constructor
  · rintro ⟨i, a, ha, hp⟩
    have hi := lt_of_live ha
    have hget : l[i]? = some (some a) := by
      rw [live, getElem?_eq_getElem hi] at ha
      rw [getElem?_eq_getElem hi]
      exact congrArg some ha
    exact ⟨some a, mem_of_getElem? hget, hp⟩
  · rintro ⟨x, hx, hp⟩
    obtain ⟨i, hi⟩ := getElem?_of_mem hx
    cases x with
    | none => exact absurd hp (by simp)
    | some a => exact ⟨i, a, by rw [live, hi]; rfl, hp⟩

instance (l : List (Option α)) (p : α → Bool) : Decidable (Any l p) :=
  decidable_of_iff _ any_iff.symm

/-- A session with another number has a property. -/
def AnyOther (l : List (Option α)) (i : ℕ) (p : α → Bool) : Prop := Any (l.set i none) p

instance (l : List (Option α)) (i : ℕ) (p : α → Bool) : Decidable (AnyOther l i p) :=
  inferInstanceAs (Decidable (Any _ p))

variable {p : α → Bool} {P : α → Prop} {x : Option α}

lemma anyOther_iff (h : live l i = some a) :
    AnyOther l i p ↔ ∃ j b, j ≠ i ∧ live l j = some b ∧ p b := by
  constructor
  · rintro ⟨j, b, hb, hp⟩
    obtain ⟨-, ⟨⟩⟩ | ⟨hj, hb⟩ := live_set_eq_some hb
    exact ⟨j, b, hj, hb, hp⟩
  · rintro ⟨j, b, hj, hb, hp⟩
    exact ⟨j, b, by rw [live_set h, if_neg hj]; exact hb, hp⟩

lemma any_set (h : live l i = some a) :
    Any (l.set i x) p ↔ (∃ b, x = some b ∧ p b) ∨ AnyOther l i p := by
  rw [anyOther_iff h]
  constructor
  · rintro ⟨j, b, hb, hp⟩
    obtain ⟨-, hb⟩ | ⟨hj, hb⟩ := live_set_eq_some hb
    · exact .inl ⟨b, hb, hp⟩
    · exact .inr ⟨j, b, hj, hb, hp⟩
  · rintro (⟨b, hb, hp⟩ | ⟨j, b, hj, hb, hp⟩)
    · exact ⟨i, b, by rw [live_set h, if_pos rfl]; exact hb, hp⟩
    · exact ⟨j, b, by rw [live_set h, if_neg hj]; exact hb, hp⟩

lemma any_of_live (h : live l i = some a) : Any l p ↔ p a ∨ AnyOther l i p := by
  rw [anyOther_iff h]
  constructor
  · rintro ⟨j, b, hb, hp⟩
    by_cases hj : j = i
    · subst hj
      cases h.symm.trans hb
      exact .inl hp
    · exact .inr ⟨j, b, hj, hb, hp⟩
  · rintro (hp | ⟨j, b, -, hb, hp⟩)
    · exact ⟨i, a, h, hp⟩
    · exact ⟨j, b, hb, hp⟩

/-- All sessions have a property. -/
def Each (l : List (Option α)) (P : α → Prop) : Prop := ∀ i a, live l i = some a → P a

lemma Each.set (h : Each l P) (hx : ∀ a, x = some a → P a) : Each (l.set i x) P := by
  intro j b hb
  obtain ⟨-, hb⟩ | ⟨-, hb⟩ := live_set_eq_some hb
  · exact hx b hb
  · exact h j b hb

/-- No two sessions have a property. -/
def AtMostOne (l : List (Option α)) (p : α → Bool) : Prop :=
  ∀ i j a b, live l i = some a → live l j = some b → p a → p b → i = j

lemma AtMostOne.alone (h : AtMostOne l p) (hi : live l i = some a) (ha : p a) :
    ¬ AnyOther l i p := by
  intro hother
  obtain ⟨j, b, hj, hb, hp⟩ := (anyOther_iff hi).mp hother
  exact hj (h j i b a hb hi hp ha)

/-- A session may get a property that no two have if it had it or no other has it. -/
lemma AtMostOne.set (h : AtMostOne l p) (hi : live l i = some a)
    (hx : ∀ b, x = some b → p b → p a ∨ ¬ AnyOther l i p) : AtMostOne (l.set i x) p := by
  have halone : ∀ b, x = some b → p b → ¬ AnyOther l i p := fun b hb hp =>
    (hx b hb hp).elim (h.alone hi) id
  intro j k b b' hj hk hp hp'
  obtain ⟨rfl, hb⟩ | ⟨hji, hb⟩ := live_set_eq_some hj <;>
    obtain ⟨rfl, hb'⟩ | ⟨hki, hb'⟩ := live_set_eq_some hk
  · rfl
  · exact absurd ((anyOther_iff hi).mpr ⟨k, b', hki, hb', hp'⟩) (halone b hb hp)
  · exact absurd ((anyOther_iff hi).mpr ⟨j, b, hji, hb, hp⟩) (halone b' hb' hp')
  · exact h j k b b' hb hb' hp hp'

/-! ## Sessions that are added -/

lemma live_append_eq_some {b : α} (h : live (l ++ [some a]) j = some b) :
    b = a ∨ live l j = some b := by
  rw [live_append] at h
  split at h
  · exact .inl (Option.some.inj h).symm
  · exact .inr h

/-- A session that is added without a property does not change whether one has it. -/
lemma any_append (ha : p a = false) : Any (l ++ [some a]) p ↔ Any l p := by
  constructor
  · rintro ⟨j, b, hb, hp⟩
    obtain rfl | hb := live_append_eq_some hb
    · exact absurd hp (by simp [ha])
    · exact ⟨j, b, hb, hp⟩
  · rintro ⟨j, b, hb, hp⟩
    exact ⟨j, b, by rw [live_append, if_neg (Nat.ne_of_lt (lt_of_live hb))]; exact hb, hp⟩

lemma Each.append (h : Each l P) (ha : P a) : Each (l ++ [some a]) P := by
  intro j b hb
  obtain rfl | hb := live_append_eq_some hb
  · exact ha
  · exact h j b hb

lemma AtMostOne.append (h : AtMostOne l p) (ha : p a = false) : AtMostOne (l ++ [some a]) p := by
  intro j k b b' hb hb' hp hp'
  obtain rfl | hb := live_append_eq_some hb
  · exact absurd hp (by simp [ha])
  obtain rfl | hb' := live_append_eq_some hb'
  · exact absurd hp' (by simp [ha])
  exact h j k b b' hb hb' hp hp'

end Slots
