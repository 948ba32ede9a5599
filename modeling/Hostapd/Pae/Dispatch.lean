import Hostapd.Pae.Receive

/-!
# The dispatch of parameter sets

The last loop of `ieee802_1x_kay_decode_mkpdu` as a fold of the handler over `handledSets`, the
positions of the parameter sets that it hands over: those that fit with the ICV behind them, the
first one of each type, up to an ICV indicator.  What every handler keeps, the loop keeps.
-/

namespace Hostapd.Pae

open Wire Checked List

/-- The positions of parameter sets, one after the other as their lengths say. -/
def setPositions (rest : Bytes) : List Bytes :=
  positions minSetLeft paramSetLen rest.length rest

variable {rest : Bytes}

lemma fitsWithIcv_iff :
    fitsWithIcv rest ↔ paramSetLen rest + defaultIcvLen ≤ rest.length := decide_eq_true_iff

/-- Of these positions those that the dispatch hands over when it has handled some types. -/
def handledFrom : Bytes → List Bytes → List Bytes
  | _, [] => []
  | handled, rest :: rests =>
    if paramBodyType rest = mkaIcvIndicator then []
    else if fitsWithIcv rest && !decide (paramBodyType rest ∈ handled) then
      rest :: handledFrom (paramBodyType rest :: handled) rests
    else handledFrom handled rests

/-- The positions that the dispatch hands over. -/
def handledSets (rest : Bytes) : List Bytes := handledFrom [0] (setPositions rest)

/-- A set that is handed over fits and is of a new type. -/
lemma mem_handledFrom {handled : Bytes} {rests : List Bytes}
    (h : rest ∈ handledFrom handled rests) :
    rest ∈ rests ∧ fitsWithIcv rest ∧ paramBodyType rest ∉ handled := by
  induction rests generalizing handled with
  | nil => simp [handledFrom] at h
  | cons r rests ih =>
    rw [handledFrom] at h
    split_ifs at h with hicv hfits
    · simp at h
    · simp only [Bool.and_eq_true, Bool.not_eq_true', decide_eq_false_iff_not] at hfits
      rcases mem_cons.mp h with rfl | h
      · exact ⟨by simp, hfits⟩
      · obtain ⟨hmem, hfit, htype⟩ := ih h
        exact ⟨mem_cons_of_mem r hmem, hfit, fun hh => htype (mem_cons_of_mem _ hh)⟩
    · obtain ⟨hmem, hfit, htype⟩ := ih h
      exact ⟨mem_cons_of_mem r hmem, hfit, htype⟩

lemma fits_of_mem_handledSets {r : Bytes} (h : r ∈ handledSets rest) :
    fitsWithIcv r := (mem_handledFrom h).2.1

variable {τ : Type} (handler : τ → UInt8 → Bytes → Checked τ)

def handOver (t : τ) (rest : Bytes) : Checked τ := handler t (paramBodyType rest) rest

variable {handler} {t : τ} {rest handled : Bytes} {n : ℕ}

/-- One round of the loop. -/
lemma visitSet_eq (hleft : minSetLeft < rest.length) :
    visitSet handler (t, handled) rest =
      if paramBodyType rest = mkaIcvIndicator then .ok (.inr t)
      else if fitsWithIcv rest && !decide (paramBodyType rest ∈ handled) then
        handOver handler t rest >>= fun t' => .ok (.inl (t', paramBodyType rest :: handled))
      else .ok (.inl (t, handled)) := by
  have hread : readAt rest 0 mkaHdrLen = .ok ((rest.drop 0).take mkaHdrLen) :=
    readAt_of_le (by simp only [minSetLeft] at hleft; omega)
  simp only [visitSet, hread, ok_bind, pure_eq_ok, handOver]
  cases fitsWithIcv rest <;> by_cases h : paramBodyType rest ∈ handled <;> simp [h]

/-- The loop is a fold over the sets that it hands over. -/
lemma foldlM_of_walk {r : (τ × Bytes) ⊕ τ}
    (h : walk minSetLeft paramSetLen (visitSet handler) n (t, handled) rest = .ok r) :
    (handledFrom handled (positions minSetLeft paramSetLen n rest)).foldlM (handOver handler) t =
      .ok (r.elim Prod.fst id) := by
  induction n generalizing t handled rest with
  | zero =>
    cases h
    rfl
  | succ n ih =>
    by_cases hleft : minSetLeft < rest.length
    swap
    · rw [walk_of_le _ _ _ (by omega)] at h
      cases h
      rw [positions, if_neg hleft]
      rfl
    rw [walk_succ _ _ _ hleft, visitSet_eq hleft] at h
    rw [positions, if_pos hleft, handledFrom]
    by_cases hicv : paramBodyType rest = mkaIcvIndicator
    · rw [if_pos hicv] at h ⊢
      cases h
      rfl
    rw [if_neg hicv] at h ⊢
    by_cases hfits : (fitsWithIcv rest && !decide (paramBodyType rest ∈ handled))
    · rw [if_pos hfits] at h ⊢
      obtain ⟨v, hv, hrest⟩ := bind_eq_ok.mp h
      obtain ⟨t', ht', hv⟩ := bind_eq_ok.mp hv
      cases hv
      obtain ⟨next, hadv, hwalk⟩ := bind_eq_ok.mp hrest
      obtain ⟨hsize, rfl⟩ := advance_eq_ok.mp hadv
      rw [foldlM_cons, ht', ok_bind, if_pos hsize]
      exact ih hwalk
    · rw [if_neg hfits] at h ⊢
      rw [ok_bind] at h
      obtain ⟨next, hadv, hwalk⟩ := bind_eq_ok.mp h
      obtain ⟨hsize, rfl⟩ := advance_eq_ok.mp hadv
      rw [if_pos hsize]
      exact ih hwalk

lemma foldlM_of_dispatchSets {r : τ × Bool} (h : dispatchSets handler t rest = .ok r) :
    (handledSets rest).foldlM (handOver handler) t = .ok r.1 := by
  obtain ⟨v, hv, hr⟩ := bind_eq_ok.mp h
  have hfold := foldlM_of_walk hv
  cases v <;> cases hr <;> exact hfold

/-- A dispatch of handlers that fault by leaving the frame only stays inside exactly when the
handlers do and each parameter set before an ICV indicator ends inside. -/
lemma inside_walk_visitSet (hfault : ∀ t r, (handOver handler t r).OnlyLeaves) :
    (walk minSetLeft paramSetLen (visitSet handler) n (t, handled) rest).Inside ↔
      (∀ r ∈ (positions minSetLeft paramSetLen n rest).takeWhile
        fun r => paramBodyType r != mkaIcvIndicator, paramSetLen r ≤ r.length) ∧
      ((handledFrom handled (positions minSetLeft paramSetLen n rest)).foldlM
        (handOver handler) t).Inside := by
  induction n generalizing t handled rest with
  | zero => simp [walk, positions, handledFrom]
  | succ n ih =>
    by_cases hleft : minSetLeft < rest.length
    swap
    · simp [walk, positions, hleft, handledFrom]
    rw [inside_walk_succ _ _ _ hleft, visitSet_eq hleft, positions, if_pos hleft, handledFrom,
      takeWhile_cons]
    by_cases hicv : paramBodyType rest = mkaIcvIndicator
    · simp [hicv]
    by_cases hfits : (fitsWithIcv rest && !decide (paramBodyType rest ∈ handled))
    · have hsize : paramSetLen rest ≤ rest.length := by
        have h := fitsWithIcv_iff.mp (Bool.and_eq_true_iff.mp hfits).1
        omega
      by_cases hh : (handOver handler t rest).Inside
      · obtain ⟨t', ht'⟩ := hfault t rest hh
        simp [hicv, hfits, ht', hsize, ih]
      · simp [hicv, hfits, hh, inside_bind]
    · by_cases hsize : paramSetLen rest ≤ rest.length
      · simp [hicv, hfits, hsize, ih]
      · simp [hicv, hfits, hsize]

lemma inside_dispatchSets (hfault : ∀ t r, (handOver handler t r).OnlyLeaves) :
    (dispatchSets handler t rest).Inside ↔
      (∀ r ∈ (setPositions rest).takeWhile fun r => paramBodyType r != mkaIcvIndicator,
        paramSetLen r ≤ r.length) ∧ ((handledSets rest).foldlM (handOver handler) t).Inside := by
  rw [handledSets, setPositions, ← inside_walk_visitSet hfault, dispatchSets, inside_bind]
  refine and_iff_left fun v _ => ?_
  cases v <;> exact inside_ok _

end Hostapd.Pae
