import Mathlib.Data.List.Basic
import Mathlib.Tactic

/-!
# Selecting a best element

A loop that runs over a list and keeps the best element seen so far, replacing it only by a strictly
better one.  `best better l` is its result.  Where `better` compares ranks, the result is an element
of the list of least rank (`mem_and_rank_le_of_best`).
-/

namespace Selection

variable {α : Type*}

/-- Keep the best element seen so far. -/
def keepBest (better : α → α → Bool) (acc : Option α) (a : α) : Option α :=
  match acc with
  | none => some a
  | some b => if better a b then some a else some b

/-- The element that is left when only strictly better elements replace the one that is kept. -/
def best (better : α → α → Bool) (l : List α) : Option α := l.foldl (keepBest better) none

section Rank

variable {better : α → α → Bool} {rank : α → ℕ}
  (hbetter : ∀ a b, better a b ↔ rank a < rank b) {l : List α}

include hbetter

/-- The loop from an element kept already: the result is that element or one of the list, and has
no larger rank than any of them. -/
lemma foldl_keepBest_some (l : List α) (a : α) :
    ∃ b, l.foldl (keepBest better) (some a) = some b ∧ (b = a ∨ b ∈ l) ∧ rank b ≤ rank a ∧
      ∀ c ∈ l, rank b ≤ rank c := by
  induction l generalizing a with
  | nil => exact ⟨a, rfl, .inl rfl, le_rfl, by simp⟩
  | cons d l ih =>
    by_cases h : better d a
    · have hda := (hbetter d a).mp h
      obtain ⟨b, hb, hmem, hle, hall⟩ := ih d
      refine ⟨b, by simpa [keepBest, h] using hb, ?_, by omega, ?_⟩
      · rcases hmem with rfl | hmem
        · exact .inr (by simp)
        · exact .inr (List.mem_cons_of_mem d hmem)
      · intro c hc
        rcases List.mem_cons.mp hc with rfl | hc
        · exact hle
        · exact hall c hc
    · have hda : rank a ≤ rank d := by
        have hlt := mt (hbetter d a).mpr h
        omega
      obtain ⟨b, hb, hmem, hle, hall⟩ := ih a
      refine ⟨b, by simpa [keepBest, h] using hb, ?_, hle, ?_⟩
      · rcases hmem with rfl | hmem
        · exact .inl rfl
        · exact .inr (List.mem_cons_of_mem d hmem)
      · intro c hc
        rcases List.mem_cons.mp hc with rfl | hc
        · omega
        · exact hall c hc

/-- The selected element is one of the list and none has a smaller rank. -/
lemma mem_and_rank_le_of_best {b : α} (h : best better l = some b) :
    b ∈ l ∧ ∀ c ∈ l, rank b ≤ rank c := by
  cases l with
  | nil => exact absurd h (by simp [best])
  | cons a l =>
    obtain ⟨b', hb', hmem, hle, hall⟩ := foldl_keepBest_some hbetter l a
    have heq : b = b' := by
      have h' : l.foldl (keepBest better) (some a) = some b := h
      rw [h'] at hb'
      exact Option.some.inj hb'
    subst heq
    refine ⟨?_, ?_⟩
    · rcases hmem with rfl | hmem
      · simp
      · exact List.mem_cons_of_mem a hmem
    · intro c hc
      rcases List.mem_cons.mp hc with rfl | hc
      · exact hle
      · exact hall c hc

lemma best_isSome (h : l ≠ []) : ∃ b, best better l = some b := by
  cases l with
  | nil => exact absurd rfl h
  | cons a l =>
    obtain ⟨b, hb, -⟩ := foldl_keepBest_some hbetter l a
    exact ⟨b, hb⟩

end Rank

end Selection
