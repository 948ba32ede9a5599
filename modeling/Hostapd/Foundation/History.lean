import Mathlib.Data.List.Basic

/-!
# Histories in which every entry has its reason

A history is the list of what happened, newest entry first. `Justified J` says of each entry that
the entries older than it contain a reason for it. This is kept by appending entries that have their
reasons, and it gives the reason of any entry. `Occurs P` is the reason "this has occurred before",
which no longer history takes back.
-/

namespace History

variable {ε : Type}

/-- Every entry of the history is justified by the entries older than it. -/
def Justified (J : ε → List ε → Prop) : List ε → Prop
  | [] => True
  | e :: older => J e older ∧ Justified J older

variable {J : ε → List ε → Prop} {older h old : List ε} {e : ε}

@[simp] lemma justified_nil : Justified J [] := trivial

/-- In a justified history every entry has its reason among the older ones. -/
lemma Justified.reason {newer : List ε} (h : Justified J (newer ++ e :: older)) : J e older := by
  induction newer with
  | nil => exact h.1
  | cons _ newer ih => exact ih h.2

lemma Justified.of_suffix (hj : Justified J h) (hsuffix : e :: older <:+ h) : J e older := by
  obtain ⟨newer, rfl⟩ := hsuffix
  exact hj.reason

/-- A justified history says of each entry that the older ones are a reason for it. -/
lemma justified_iff : Justified J h ↔ ∀ newer e older, h = newer ++ e :: older → J e older := by
  constructor
  · rintro hj newer e older rfl
    exact hj.reason
  intro hj
  induction h with
  | nil => trivial
  | cons e older ih =>
    refine ⟨hj [] e older rfl, ih fun newer e' older' heq => ?_⟩
    exact hj (e :: newer) e' older' (by rw [heq]; rfl)

lemma Justified.append {new : List ε} (h : Justified J old) (hnew : ∀ e ∈ new, ∀ older, J e older) :
    Justified J (new ++ old) := by
  induction new with
  | nil => exact h
  | cons e new ih =>
    exact ⟨hnew e List.mem_cons_self _, ih fun e' he' => hnew e' (List.mem_cons_of_mem e he')⟩

/-- Entries that change nothing may be passed over when a history is read. -/
lemma foldr_filter {β : Type} {f : ε → β → β} {tells : ε → Bool}
    (hsilent : ∀ e r, tells e = false → f e r = r) (l : List ε) (r : β) :
    l.foldr f r = (l.filter tells).foldr f r := by
  rw [List.foldr_filter]
  congr 1
  funext e r
  cases he : tells e with
  | true => rfl
  | false => exact hsilent e r he

/-! ## Entries that occur -/

/-- Some entry of the history, together with the entries older than it, satisfies `P`. -/
def Occurs (P : ε → List ε → Prop) (h : List ε) : Prop :=
  ∃ newer e older, h = newer ++ e :: older ∧ P e older

variable {P Q : ε → List ε → Prop}

lemma Occurs.append (h : Occurs P old) (new : List ε) : Occurs P (new ++ old) := by
  obtain ⟨newer, e, older, rfl, he⟩ := h
  exact ⟨new ++ newer, e, older, (List.append_assoc _ _ _).symm, he⟩

lemma Occurs.cons {old : List ε} (h : Occurs P old) (e : ε) : Occurs P (e :: old) :=
  h.append [e]

lemma Occurs.imp (ho : Occurs P h) (hPQ : ∀ e older, P e older → Q e older) : Occurs Q h := by
  obtain ⟨newer, e, older, hh, he⟩ := ho
  exact ⟨newer, e, older, hh, hPQ e older he⟩

end History
