import Hostapd.Foundation.Machine

/-!
# Handlers that give up in the middle

A handler of a message changes its state piece by piece and returns at the first thing that is
missing or wrong; what it has changed by then stays changed.  Such a handler is an `Except` whose
error is the state at the point where it gave up.  The rules here follow one through its checks
with `Meets`: a property of the states it may stop in, and one of the state it ends in.
-/

namespace Machine

variable {σ α β : Type}

/-- A value that may be missing; without it the handler stops in state `s`. -/
def need (s : σ) : Option α → Except σ α
  | some a => .ok a
  | none => .error s

/-- A condition; if it fails the handler stops in state `s`. -/
def check (s : σ) (b : Bool) : Except σ Unit := if b then .ok () else .error s

variable {stopped : σ → Prop} {P : β → Prop} {s : σ}

/-- A handler that needs a value: it may stop here, or it goes on with the value. -/
lemma meets_need {o : Option α} {f : α → Except σ β} (hs : stopped s)
    (hf : ∀ a, o = some a → Meets stopped P (f a)) : Meets stopped P (need s o >>= f) := by
  cases o with
  | none => exact hs
  | some a => exact hf a rfl

/-- A handler that checks a condition: it may stop here, or it goes on knowing the condition. -/
lemma meets_check {b : Bool} {f : Unit → Except σ β} (hs : stopped s)
    (hf : b → Meets stopped P (f ())) : Meets stopped P (check s b >>= f) := by
  cases b with
  | false => exact hs
  | true => exact hf rfl

/-- What a handler meets it meets for weaker properties of both ways it may end. -/
lemma Meets.weaken {stopped' : σ → Prop} {P Q : β → Prop} {x : Except σ β} (h : Meets stopped P x)
    (hstopped : ∀ s, stopped s → stopped' s) (hP : ∀ b, P b → Q b) : Meets stopped' Q x := by
  cases x with
  | error s => exact hstopped s h
  | ok b => exact hP b h

/-- The result of a handler, if the two ways it may end are treated alike. -/
def settle (onError onOk : σ → α) : Except σ σ → α
  | .ok s => onOk s
  | .error s => onError s

/-- What holds of both ways a handler may end holds of its settled result. -/
lemma Meets.settle {Q : α → Prop} {P : σ → Prop} {x : Except σ σ} {onError onOk : σ → α}
    (h : Meets stopped P x) (herror : ∀ s, stopped s → Q (onError s))
    (hok : ∀ s, P s → Q (onOk s)) : Q (settle onError onOk x) := by
  cases x with
  | ok s => exact hok s h
  | error s => exact herror s h

end Machine
