import Mathlib.Data.List.Basic
import Mathlib.Tactic

/-!
# Reading a stream of records

A stream is read through a function that looks at the octets that have come in so far and asks for
more, fails, or takes a record off their front. `feed` gives the reader one more chunk.

`Expects recv s stream items` says that a reader in state `s` finds exactly these items in a stream;
by `feed_all` it delivers them however the stream is cut into chunks.
-/

namespace Framing

open List

variable {σ α ι φ : Type}

/-- What a reader makes of the octets that have come in. -/
inductive Outcome (σ ι φ : Type)
  | more
  | failed (s : σ) (f : φ)
  /-- A record of `used` octets carries an item. -/
  | item (used : ℕ) (s : σ) (i : ι)

/-- A reader and what it has done. -/
structure Reader (σ α ι φ : Type) where
  state : σ
  pending : List α := []
  items : List ι := []
  used : ℕ := 0
  fault : Option φ := none

variable (recv : σ → List α → Outcome σ ι φ)

/-- Take records off the octets that have come in, at most `n`. -/
def readLoop : ℕ → Reader σ α ι φ → Reader σ α ι φ
  | 0, r => r
  | n + 1, r =>
    if r.pending.isEmpty then r
    else
      match recv r.state r.pending with
      | .more => r
      | .failed s f => { r with state := s, fault := some f }
      | .item used s i =>
        readLoop n
          { r with
            state := s
            pending := r.pending.drop used
            items := r.items ++ [i]
            used := r.used + used }

/-- One more chunk of the stream comes in. -/
def feed (r : Reader σ α ι φ) (chunk : List α) : Reader σ α ι φ :=
  if r.fault.isSome then r
  else readLoop recv (r.pending ++ chunk).length { r with pending := r.pending ++ chunk }

/-- A reader in state `s` finds the items in the stream. -/
inductive Expects : σ → List α → List ι → Prop
  | nil (s : σ) : Expects s [] []
  | cons {s s' : σ} {rec rest : List α} {i : ι} {items : List ι} (hne : rec ≠ [])
      (hfull : ∀ tail, recv s (rec ++ tail) = .item rec.length s' i)
      (hpart : ∀ p, p ≠ [] → p <+: rec → p ≠ rec → recv s p = .more)
      (hrest : Expects s' rest items) : Expects s (rec ++ rest) (i :: items)

variable {recv}

variable {future : List α} {r : Reader σ α ι φ} {items : List ι}

/-- What has come in of a stream holds its first record or is a part of it. -/
lemma append_split {pending rec rest : List α} (h : pending ++ future = rec ++ rest) :
    (∃ t, pending = rec ++ t ∧ rest = t ++ future) ∨
      ∃ t, t ≠ [] ∧ rec = pending ++ t ∧ future = t ++ rest := by
  rcases append_eq_append_iff.mp h with ⟨t, hrec, hfuture⟩ | ⟨t, hpending, hrest⟩
  · by_cases ht : t = []
    · subst ht
      rw [append_nil] at hrec
      exact .inl ⟨[], by rw [hrec, append_nil], by rw [hfuture]; rfl⟩
    · exact .inr ⟨t, ht, hrec, hfuture⟩
  · exact .inl ⟨t, hpending, hrest⟩

/-- What a reader does with the front of a stream it expects. -/
structure Progress (recv : σ → List α → Outcome σ ι φ) (r r' : Reader σ α ι φ) (future : List α)
    (items rest : List ι) : Prop where
  delivered : r'.items ++ rest = r.items ++ items
  expects : Expects recv r'.state (r'.pending ++ future) rest
  fault : r'.fault = none
  used : r'.used + r'.pending.length = r.used + r.pending.length
  finished : future = [] → r'.pending = []

/-- Records are taken off the front of a stream as far as it has come in. -/
lemma readLoop_progress {n : ℕ} (hn : r.pending.length ≤ n) (hfault : r.fault = none)
    (hexp : Expects recv r.state (r.pending ++ future) items) :
    ∃ rest, Progress recv r (readLoop recv n r) future items rest := by
  induction n generalizing r items with
  | zero =>
    have hnil : r.pending = [] := length_eq_zero_iff.mp (Nat.le_zero.mp hn)
    exact ⟨items, rfl, hexp, hfault, rfl, fun _ => hnil⟩
  | succ n ih =>
    rw [readLoop]
    by_cases hempty : r.pending.isEmpty
    · rw [if_pos hempty]
      exact ⟨items, rfl, hexp, hfault, rfl, fun _ => isEmpty_iff.mp hempty⟩
    rw [if_neg hempty]
    have hne : r.pending ≠ [] := fun h => hempty (isEmpty_iff.mpr h)
    generalize hstream : r.pending ++ future = stream at hexp
    cases hexp with
    | nil => exact absurd (append_eq_nil_iff.mp hstream).1 hne
    | @cons _ s' rec rest i items hrec hfull hpart hrest =>
      rcases append_split hstream with ⟨t, hpending, hrestEq⟩ | ⟨t, ht, hrecEq, hfuture⟩
      · -- The record is complete: the reader goes on behind it.
        have hpos : 0 < rec.length := length_pos_iff.mpr hrec
        have hlen : r.pending.length = rec.length + t.length := by
          rw [hpending, length_append]
        have hdrop : r.pending.drop rec.length = t := by rw [hpending, drop_left]
        have hitem : recv r.state r.pending = .item rec.length s' i := by
          rw [hpending]
          exact hfull t
        rw [hitem]
        dsimp only
        rw [hdrop]
        have hshort : t.length ≤ n := by omega
        rw [hrestEq] at hrest
        obtain ⟨rest', hprog⟩ := ih (r := ⟨s', t, r.items ++ [i], r.used + rec.length, r.fault⟩)
          hshort hfault hrest
        refine ⟨rest', ?_, hprog.expects, hprog.fault, ?_, hprog.finished⟩
        · rw [hprog.delivered]
          simp
        · rw [hprog.used, hlen]
          exact Nat.add_assoc _ _ _
      · -- The record is not complete: the reader asks for more.
        have hmore : recv r.state r.pending = .more := by
          refine hpart _ hne ⟨t, hrecEq.symm⟩ fun heq => ht ?_
          rw [hrecEq] at heq
          simpa using heq
        rw [hmore]
        refine ⟨i :: items, rfl, ?_, hfault, rfl, ?_⟩
        · change Expects recv r.state (r.pending ++ future) (i :: items)
          rw [hstream]
          exact .cons hrec hfull hpart hrest
        · intro hfuture'
          rw [hfuture'] at hfuture
          exact absurd (append_eq_nil_iff.mp hfuture.symm).1 ht

lemma feed_progress {chunk : List α} (hfault : r.fault = none)
    (hexp : Expects recv r.state (r.pending ++ (chunk ++ future)) items) :
    ∃ rest, Progress recv { r with pending := r.pending ++ chunk } (feed recv r chunk) future
      items rest := by
  rw [← append_assoc] at hexp
  have hnone : ¬ r.fault.isSome := by simp [hfault]
  rw [feed, if_neg hnone]
  exact readLoop_progress le_rfl hfault hexp

/-- However a stream is cut into chunks, its items are delivered and its octets used. -/
lemma feed_all {chunks : List (List α)} (hfault : r.fault = none)
    (hexp : Expects recv r.state (r.pending ++ chunks.flatten) items)
    (hlast : chunks.flatten = [] → r.pending = []) :
    (chunks.foldl (feed recv) r).items = r.items ++ items ∧
      (chunks.foldl (feed recv) r).pending = [] ∧
      (chunks.foldl (feed recv) r).fault = none ∧
      (chunks.foldl (feed recv) r).used = r.used + r.pending.length + chunks.flatten.length := by
  induction chunks generalizing r items with
  | nil =>
    have hnil := hlast rfl
    rw [hnil] at hexp
    generalize hstream : ([] : List α) ++ ([] : List (List α)).flatten = stream at hexp
    cases hexp with
    | nil => exact ⟨by simp, hnil, hfault, by simp [hnil]⟩
    | cons hrec =>
      exact absurd (append_eq_nil_iff.mp hstream.symm).1 hrec
  | cons chunk chunks ih =>
    obtain ⟨rest, hprog⟩ := feed_progress hfault hexp
    obtain ⟨hitems, hpending, hnone, hused⟩ := ih hprog.fault hprog.expects hprog.finished
    refine ⟨?_, hpending, hnone, ?_⟩
    · rw [foldl_cons, hitems, hprog.delivered]
    have h := hprog.used
    simp only [length_append] at h
    rw [foldl_cons, hused, flatten_cons, length_append]
    omega

end Framing
