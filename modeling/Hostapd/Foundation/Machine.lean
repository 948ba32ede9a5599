import Mathlib.Tactic

/-!
# Runs of event-driven machines

A machine is a function that takes a state and an event to the next state, or fails; a run applies
it to a list of events. `Along cond s es` says that every event of the run meets `cond` in the state
it is applied to; `run_induction` and `run_along_induction` turn what one step preserves into what a
run preserves.
-/

namespace Machine

variable {σ ε φ : Type} (step : σ → ε → Except φ σ)

/-- The machine applied to a list of events. -/
def run : σ → List ε → Except φ σ
  | s, [] => .ok s
  | s, e :: es => step s e >>= fun s' => run s' es

/-- A computation returns a value with a property. -/
def Returns {α : Type} (x : Except φ α) (P : α → Prop) : Prop := ∃ a, x = .ok a ∧ P a

/-- Whether a computation returns a value with a property that can be decided can be decided. -/
instance Returns.decidable {α : Type} (P : α → Prop) [∀ a, Decidable (P a)] :
    (x : Except φ α) → Decidable (Returns x P)
  | .ok a => decidable_of_iff (P a) ⟨fun h => ⟨a, rfl, h⟩, fun ⟨_, heq, h⟩ => Except.ok.inj heq ▸ h⟩
  | .error _ => isFalse fun ⟨_, heq, _⟩ => nomatch heq

variable {α β : Type} {x : Except φ α} {f : α → Except φ β} {P Q : α → Prop} {R S : α → β → Prop}

instance decidable_ok [∀ a, Decidable (P a)] : Decidable (∃ a, x = .ok a ∧ P a) :=
  Returns.decidable P x

lemma exists_ok₂_iff :
    (Returns x fun a => Returns (f a) (R a)) ↔ ∃ a b, x = .ok a ∧ f a = .ok b ∧ R a b :=
  ⟨fun ⟨a, ha, b, hb, h⟩ => ⟨a, b, ha, hb, h⟩, fun ⟨a, b, ha, hb, h⟩ => ⟨a, ha, b, hb, h⟩⟩

instance decidable_ok₂ [∀ a b, Decidable (R a b)] :
    Decidable (∃ a b, x = .ok a ∧ f a = .ok b ∧ R a b) :=
  decidable_of_iff _ exists_ok₂_iff

/-- A property of what is returned that follows from one that can be evaluated. -/
lemma returns_of (P : α → Prop) (h : Returns x P) (hQ : ∀ a, x = .ok a → P a → Q a) :
    ∃ a, x = .ok a ∧ Q a :=
  h.imp fun a ha => ⟨ha.1, hQ a ha.1 ha.2⟩

lemma returns_of₂ (R : α → β → Prop) (h : ∃ a b, x = .ok a ∧ f a = .ok b ∧ R a b)
    (hS : ∀ a b, x = .ok a → f a = .ok b → R a b → S a b) :
    ∃ a b, x = .ok a ∧ f a = .ok b ∧ S a b :=
  h.imp fun a => .imp fun b ⟨ha, hb, h⟩ => ⟨ha, hb, hS a b ha hb h⟩

/-- What is returned has a property that can be evaluated, and one that follows from it. -/
lemma exists_ok (h : Returns x P) (hQ : ∀ a, x = .ok a → P a → Q a) : ∃ a, x = .ok a ∧ P a ∧ Q a :=
  returns_of P h fun a ha hP => ⟨hP, hQ a ha hP⟩

/-- The same for two computations, with further facts `A` that can be evaluated. -/
lemma exists_ok₂ (A : α → β → Prop) (h : ∃ a b, x = .ok a ∧ f a = .ok b ∧ R a b ∧ A a b)
    (hS : ∀ a b, x = .ok a → f a = .ok b → R a b → A a b → S a b) :
    ∃ a b, x = .ok a ∧ f a = .ok b ∧ R a b ∧ S a b :=
  returns_of₂ _ h fun a b ha hb h => ⟨h.1, hS a b ha hb h.1 h.2⟩

lemma returns_guard {c : Prop} [Decidable c] {a : α} (ha : P a)
    (hx : ¬ c → ∃ a, x = .ok a ∧ P a) : ∃ a', (if c then .ok a else x) = .ok a' ∧ P a' := by
  split
  · exact ⟨a, rfl, ha⟩
  · exact hx ‹_›

/-- Every event of the run meets `cond` in the state it is applied to. -/
def Along (cond : σ → ε → Prop) : σ → List ε → Prop
  | _, [] => True
  | s, e :: es =>
    cond s e ∧
      match step s e with
      | .ok s' => Along cond s' es
      | .error _ => True

/-- Whether a condition that can be decided is met along a run can be decided. -/
instance Along.decidable (cond : σ → ε → Prop) [∀ s e, Decidable (cond s e)] :
    (s : σ) → (es : List ε) → Decidable (Along step cond s es)
  | _, [] => isTrue trivial
  | s, e :: es =>
    match h : step s e with
    | .ok s' =>
      have := Along.decidable cond s' es
      decidable_of_iff (cond s e ∧ Along step cond s' es) (by rw [Along, h])
    | .error _ => decidable_of_iff (cond s e) (by rw [Along, h]; simp)

variable {step} {s s' : σ} {es : List ε} {P : σ → Prop} {e : ε}

lemma run_cons_eq_ok :
    run step s (e :: es) = .ok s' ↔ ∃ t, step s e = .ok t ∧ run step t es = .ok s' := by
  rw [run]
  cases step s e <;> simp [bind, Except.bind]

lemma along_cons {cond : σ → ε → Prop} (h : step s e = .ok s') :
    Along step cond s (e :: es) ↔ cond s e ∧ Along step cond s' es := by
  rw [Along, h]

lemma along_of_forall {cond : σ → ε → Prop} (h : ∀ s e, cond s e) : Along step cond s es := by
  induction es generalizing s with
  | nil => trivial
  | cons e es ih =>
    refine ⟨h s e, ?_⟩
    cases step s e with
    | ok s' => exact ih
    | error f => trivial

lemma along_of_mem {cond : ε → Prop} (h : ∀ e ∈ es, cond e) :
    Along step (fun _ e => cond e) s es := by
  induction es generalizing s with
  | nil => trivial
  | cons e es ih =>
    refine ⟨h e List.mem_cons_self, ?_⟩
    cases step s e with
    | ok s' => exact ih fun e' he' => h e' (List.mem_cons_of_mem e he')
    | error f => trivial

lemma Along.and {cond cond' : σ → ε → Prop} (h : Along step cond s es)
    (h' : Along step cond' s es) : Along step (fun s e => cond s e ∧ cond' s e) s es := by
  induction es generalizing s with
  | nil => trivial
  | cons e es ih =>
    obtain ⟨hc, hrest⟩ := h
    obtain ⟨hc', hrest'⟩ := h'
    refine ⟨⟨hc, hc'⟩, ?_⟩
    cases hstep : step s e with
    | ok s' =>
      rw [hstep] at hrest hrest'
      exact ih hrest hrest'
    | error f => trivial

/-- What holds at the start and is kept by every step that meets `cond` holds at the end of every
run all of whose steps meet it. -/
lemma run_along_induction {cond : σ → ε → Prop}
    (hstep : ∀ s e s', P s → cond s e → step s e = .ok s' → P s') (hs : P s)
    (hcond : Along step cond s es) (hrun : run step s es = .ok s') : P s' := by
  induction es generalizing s with
  | nil =>
    cases hrun
    exact hs
  | cons e es ih =>
    obtain ⟨t, ht, hrest⟩ := run_cons_eq_ok.mp hrun
    obtain ⟨hc, hcond⟩ := (along_cons ht).mp hcond
    exact ih (hstep s e t hs hc ht) hcond hrest

lemma run_induction (hstep : ∀ s e s', P s → step s e = .ok s' → P s') (hs : P s)
    (hrun : run step s es = .ok s') : P s' := by
  induction es generalizing s with
  | nil =>
    cases hrun
    exact hs
  | cons e es ih =>
    obtain ⟨t, ht, hrest⟩ := run_cons_eq_ok.mp hrun
    exact ih (hstep s e t hs ht) hrest

/-- A machine whose steps all return under a condition, and keep what holds at the start, returns on
every run along which it is met. -/
lemma run_along_returns {cond : σ → ε → Prop}
    (hstep : ∀ s e, P s → cond s e → ∃ s', step s e = .ok s' ∧ P s') (hs : P s)
    (hcond : Along step cond s es) : ∃ s', run step s es = .ok s' ∧ P s' := by
  induction es generalizing s with
  | nil => exact ⟨s, rfl, hs⟩
  | cons e es ih =>
    obtain ⟨t, ht, hpt⟩ := hstep s e hs hcond.1
    obtain ⟨s', hs', hps'⟩ := ih hpt ((along_cons ht).mp hcond).2
    exact ⟨s', run_cons_eq_ok.mpr ⟨t, ht, hs'⟩, hps'⟩

lemma run_returns (hstep : ∀ s e, P s → ∃ s', step s e = .ok s' ∧ P s') (es : List ε) (hs : P s) :
    ∃ s', run step s es = .ok s' ∧ P s' :=
  run_along_returns (fun s e hs _ => hstep s e hs) hs (along_of_forall fun _ _ => trivial)

/-! ## Results and permitted faults -/

section Meets

variable {α β : Type}

/-- The computation returns a value with `P`, or stops with a fault that is permitted. -/
def Meets (permitted : φ → Prop) (P : α → Prop) : Except φ α → Prop
  | .ok a => P a
  | .error f => permitted f

variable {permitted : φ → Prop} {P Q : α → Prop} {x : Except φ α} {a : α}

lemma Meets.ok (h : P a) : Meets permitted P (.ok a) := h

lemma Meets.imp (h : Meets permitted P x) (hPQ : ∀ a, P a → Q a) : Meets permitted Q x := by
  cases x with
  | error f => exact h
  | ok a => exact hPQ a h

lemma Meets.bind {R : β → Prop} {f : α → Except φ β} (hx : Meets permitted P x)
    (hf : ∀ a, P a → Meets permitted R (f a)) : Meets permitted R (x >>= f) := by
  cases x with
  | error e => exact hx
  | ok a => exact hf a hx

lemma Meets.of_ok (h : Meets permitted P x) (hx : x = .ok a) : P a := by
  rw [hx] at h
  exact h

lemma Meets.of_error {f : φ} (h : Meets permitted P x) (hx : x = .error f) : permitted f := by
  rw [hx] at h
  exact h

end Meets

/-- A run all of whose steps meet `cond` keeps what every such step keeps, and stops with a
permitted fault only. -/
lemma run_meets {permitted : φ → Prop} {cond : σ → ε → Prop}
    (hstep : ∀ s e, P s → cond s e → Meets permitted P (step s e)) (hs : P s)
    (hcond : Along step cond s es) : Meets permitted P (run step s es) := by
  induction es generalizing s with
  | nil => exact hs
  | cons e es ih =>
    have hone := hstep s e hs hcond.1
    rw [run]
    cases hres : step s e with
    | error f => exact hone.of_error hres
    | ok t => exact ih (hone.of_ok hres) ((along_cons hres).mp hcond).2

end Machine
