import Mathlib.Data.List.Nodup
import Mathlib.Logic.Function.Basic

/-!
# Doubly linked lists that lead back from the first element to the last

Elements are linked by two tables: `next` leads to the element behind, and to nothing from the last
one; `prev` leads to the element before, and from the first one to the last. `Holds r l` says that
the links describe the list `l`. Putting an element in front and taking any element out keep this.
-/

namespace Ring

open List Function

/-- A list as its links. -/
structure Links (κ : Type) where
  head : Option κ := none
  next : κ → Option κ := fun _ => none
  prev : κ → Option κ := fun _ => none

variable {κ : Type}

namespace Links

/-- Whatever is met from `p` on, to the end. -/
def Forward (next : κ → Option κ) : Option κ → List κ → Prop
  | p, [] => p = none
  | p, a :: l => p = some a ∧ Forward next (next a) l

/-- The way back along the elements; what is before the first one is `p`. -/
def Backward (prev : κ → Option κ) : Option κ → List κ → Prop
  | _, [] => True
  | p, a :: l => prev a = p ∧ Backward prev (some a) l

/-- The links describe the list `l`. -/
structure Holds (r : Links κ) (l : List κ) : Prop where
  nodup : l.Nodup
  forward : Forward r.next r.head l
  backward : Backward r.prev l.getLast? l

variable {next next' prev prev' : κ → Option κ} {p : Option κ} {l l₁ l₂ : List κ} {r : Links κ}
  {a b : κ}

lemma Holds.nil : Holds ({} : Links κ) [] := ⟨.nil, rfl, trivial⟩

lemma Forward.congr (h : Forward next p l) (heq : ∀ a ∈ l, next' a = next a) :
    Forward next' p l := by
  induction l generalizing p with
  | nil => exact h
  | cons a l ih =>
    refine ⟨h.1, ?_⟩
    rw [heq a mem_cons_self]
    exact ih h.2 fun b hb => heq b (mem_cons_of_mem a hb)

lemma Backward.congr (h : Backward prev p l) (heq : ∀ a ∈ l, prev' a = prev a) :
    Backward prev' p l := by
  induction l generalizing p with
  | nil => trivial
  | cons a l ih =>
    exact ⟨(heq a mem_cons_self).trans h.1, ih h.2 fun b hb => heq b (mem_cons_of_mem a hb)⟩

lemma backward_append :
    Backward prev p (l₁ ++ l₂) ↔ Backward prev p l₁ ∧ Backward prev (l₁.getLast?.or p) l₂ := by
  induction l₁ generalizing p with
  | nil => simp [Backward]
  | cons a l₁ ih => simp [Backward, ih, and_assoc, getLast?_cons]

lemma Holds.head_eq (h : Holds r l) : r.head = l.head? := by
  cases l with
  | nil => exact h.forward
  | cons a l => exact h.forward.1

lemma Forward.next_eq (h : Forward next p (l₁ ++ a :: l₂)) : next a = l₂.head? := by
  induction l₁ generalizing p with
  | nil => cases l₂ with
    | nil => exact h.2
    | cons b l₂ => exact h.2.1
  | cons b l₁ ih => exact ih h.2

lemma Holds.prev_head (h : Holds r l) : r.head.bind r.prev = l.getLast? := by
  rw [h.head_eq]
  cases l with
  | nil => rfl
  | cons a l => exact h.backward.1

/-- The elements from `p` on, at most `fuel` of them. -/
def elements (r : Links κ) : ℕ → Option κ → List κ
  | fuel + 1, some a => a :: r.elements fuel (r.next a)
  | _, _ => []

lemma Forward.elements_eq (h : Forward r.next p l) : r.elements l.length p = l := by
  induction l generalizing p with
  | nil => rfl
  | cons a l ih =>
    rw [h.1, length_cons, elements, ih h.2]

variable [DecidableEq κ]

/-- Put an element in front. -/
def push (a : κ) (r : Links κ) : Links κ where
  head := some a
  next := update r.next a r.head
  prev :=
    match r.head with
    | some h => update (update r.prev a (r.prev h)) h (some a)
    | none => update r.prev a (some a)

/-- Take an element out. -/
def remove (a : κ) (r : Links κ) : Links κ :=
  let first := r.head = some a
  let head := if first then r.next a else r.head
  { head
    next :=
      match r.prev a with
      | some b => if first then r.next else update r.next b (r.next a)
      | none => r.next
    prev :=
      match r.next a, head with
      | some b, _ | none, some b => update r.prev b (r.prev a)
      | none, none => r.prev }

/-- An element is put in front. -/
lemma Holds.push (h : Holds r l) (ha : a ∉ l) : Holds (r.push a) (a :: l) := by
  refine ⟨nodup_cons.mpr ⟨ha, h.nodup⟩, ⟨rfl, ?_⟩, ?_⟩
  · rw [show (r.push a).next a = r.head from update_self ..]
    exact h.forward.congr fun b hb => update_of_ne (ne_of_mem_of_not_mem hb ha) ..
  obtain ⟨hnodup, hforward, hback⟩ := h
  rw [Links.push]
  cases l with
  | nil =>
    rw [show r.head = none from hforward]
    exact ⟨update_self .., trivial⟩
  | cons b l =>
    have hab : a ≠ b := fun h => ha (h ▸ mem_cons_self)
    rw [show r.head = some b from hforward.1]
    dsimp only
    refine ⟨?_, update_self .., hback.2.congr fun c hc => ?_⟩
    · rw [update_of_ne hab, update_self, hback.1, getLast?_cons_cons]
    · rw [update_of_ne (ne_of_mem_of_not_mem hc (nodup_cons.mp hnodup).1),
        update_of_ne (ne_of_mem_of_not_mem (mem_cons_of_mem b hc) ha)]

/-- The way forward past an element. -/
lemma Forward.skip (h : Forward next p (l₁ ++ a :: b :: l₂)) (hl : (l₁ ++ a :: l₂).Nodup) :
    Forward (update next a (next b)) p (l₁ ++ a :: l₂) := by
  induction l₁ generalizing p with
  | nil =>
    obtain ⟨hp, -, hrest⟩ := h
    refine ⟨hp, ?_⟩
    rw [update_self]
    exact hrest.congr fun c hc => update_of_ne (ne_of_mem_of_not_mem hc (nodup_cons.mp hl).1) ..
  | cons c l₁ ih =>
    obtain ⟨hc, hl⟩ := nodup_cons.mp hl
    have hca : c ≠ a := by
      rintro rfl
      exact hc (by simp)
    refine ⟨h.1, ?_⟩
    rw [update_of_ne hca]
    exact ih h.2 hl

/-- The way forward without an element. -/
lemma Holds.forward_remove (h : Holds r (l₁ ++ a :: l₂)) (ha : a ∉ l₁) :
    Forward (r.remove a).next (r.remove a).head (l₁ ++ l₂) := by
  have hprev := (backward_append.mp h.backward).2.1
  rw [remove]
  obtain rfl | ⟨l₁, b, rfl⟩ := eq_nil_or_concat' l₁
  · obtain ⟨hhead, hrest⟩ := h.forward
    cases hp : r.prev a <;> simpa [hhead] using hrest
  have hhead : r.head ≠ some a := fun hhead => by
    rw [h.head_eq, head?_append_of_ne_nil _ (by simp)] at hhead
    exact ha (mem_of_mem_head? hhead)
  have hforward := h.forward
  rw [show r.prev a = some b by simpa using hprev]
  simp only [hhead, if_false, append_assoc, singleton_append] at hforward ⊢
  exact hforward.skip (h.nodup.sublist (by simp))

/-- The way back without the element that is taken out. -/
lemma Holds.backward_remove (h : Holds r (l₁ ++ a :: l₂)) (ha : a ∉ l₁) :
    Backward (r.remove a).prev (l₁ ++ l₂).getLast? (l₁ ++ l₂) := by
  obtain ⟨hback₁, hprev, hback₂⟩ := backward_append.mp h.backward
  have hnext := h.forward.next_eq
  rw [remove]
  cases l₂ with
  | nil =>
    cases l₁ with
    | nil => trivial
    | cons b l₁ =>
      have hab : b ≠ a := fun hba => ha (hba ▸ mem_cons_self)
      have hb : b ∉ l₁ ++ [a] := (nodup_cons.mp h.nodup).1
      rw [hnext, show r.head = some b from h.forward.1]
      simp only [head?_nil, Option.some.injEq, hab, if_false, append_nil]
      refine ⟨?_, hback₁.2.congr fun c hc => ?_⟩
      · rw [update_self, hprev, getLast?_cons, Option.some_or]
      · exact update_of_ne (ne_of_mem_of_not_mem (mem_append_left _ hc) hb) ..
  | cons b l₂ =>
    have hlast : (l₁ ++ b :: l₂).getLast? = (l₁ ++ a :: b :: l₂).getLast? := by simp
    have hnodup : (l₁ ++ b :: l₂).Nodup := h.nodup.sublist (by simp)
    have hb : b ∉ l₁ ++ l₂ := (nodup_cons.mp (nodup_middle.mp hnodup)).1
    rw [hnext, hlast]
    refine backward_append.mpr ⟨hback₁.congr fun c hc => ?_, ?_, hback₂.2.congr fun c hc => ?_⟩
    · exact update_of_ne (ne_of_mem_of_not_mem (mem_append_left _ hc) hb) ..
    · exact (update_self ..).trans hprev
    · exact update_of_ne (ne_of_mem_of_not_mem (mem_append_right _ hc) hb) ..

lemma Holds.remove (h : Holds r l) (ha : a ∈ l) : Holds (r.remove a) (l.erase a) := by
  obtain ⟨l₁, l₂, hnot, rfl, heq⟩ := exists_erase_eq ha
  rw [heq]
  exact ⟨heq ▸ h.nodup.erase a, h.forward_remove hnot, h.backward_remove hnot⟩

end Links

end Ring
