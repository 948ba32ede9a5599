import Hostapd.Foundation.Octets

/-!
# Checked memory accesses

C gives no meaning to a program that reads past the end of a buffer, lets an unsigned length run
below zero or follows a dangling pointer. `Checked` makes these points explicit: a computation ends
in a `Fault` there, and has a value otherwise.

An octet string that is being parsed is its remaining suffix: `readAt` reads octets at an offset,
`advance` moves the position. `walk` is the loop of most parsers of type-length-value data: as long
as more than a fixed number of octets is left, look at the element at the current position and skip
it. Its clock is the number of octets at the start.
-/

namespace Wire

open List

/-- The ways in which a C program can lose its meaning that the models keep track of. -/
inductive Fault
  | overread
  | underflow
  | overrun
  | nullPointer
  | useAfterFree
deriving DecidableEq

/-- A computation that may fault. -/
abbrev Checked (α : Type) := Except Fault α

namespace Checked

variable {α β : Type}

/-- The computation has a value. -/
def Safe (x : Checked α) : Prop := ∃ a, x = .ok a

variable (a : α)

@[simp] lemma safe_ok : Safe (.ok a : Checked α) := ⟨a, rfl⟩

@[simp] lemma not_safe_error (f : Fault) : ¬ Safe (.error f : Checked α) := by
  rintro ⟨a, h⟩
  cases h

lemma bind_eq_ok {ε : Type} {x : Except ε α} {f : α → Except ε β} {b : β} :
    (x >>= f) = .ok b ↔ ∃ a, x = .ok a ∧ f a = .ok b := by
  cases x with
  | error e => simp [bind, Except.bind]
  | ok a => simp [bind, Except.bind]

lemma safe_bind {x : Checked α} {f : α → Checked β} :
    Safe (x >>= f) ↔ Safe x ∧ ∀ a, x = .ok a → Safe (f a) := by
  cases x with
  | error e => simp [Safe, bind, Except.bind]
  | ok a => simp [Safe, bind, Except.bind]

/-- The computation neither reads outside its buffer nor lets a length go below zero. -/
def Inside (x : Checked α) : Prop := x ≠ .error .overread ∧ x ≠ .error .underflow

@[simp] lemma inside_ok : Inside (.ok a : Checked α) := ⟨nofun, nofun⟩

lemma inside_bind {x : Checked α} {f : α → Checked β} :
    Inside (x >>= f) ↔ Inside x ∧ ∀ a, x = .ok a → Inside (f a) := by
  cases x with
  | error e => simp [Inside, bind, Except.bind]
  | ok a => simp [Inside, bind, Except.bind]

/-- If the computation faults at all, it leaves its buffer. -/
def OnlyLeaves (x : Checked α) : Prop := x.Inside → x.Safe

@[simp] lemma onlyLeaves_ok : OnlyLeaves (.ok a : Checked α) := fun _ => safe_ok a

@[simp] lemma OnlyLeaves.bind {x : Checked α} {f : α → Checked β} (hx : OnlyLeaves x)
    (hf : ∀ a, OnlyLeaves (f a)) : OnlyLeaves (x >>= f) := by
  intro h
  obtain ⟨hx', hf'⟩ := inside_bind.mp h
  exact safe_bind.mpr ⟨hx hx', fun a ha => hf a (hf' a ha)⟩

@[simp] lemma ok_bind (f : α → Checked β) : ((.ok a : Checked α) >>= f) = f a := rfl

@[simp] lemma error_bind (e : Fault) (f : α → Checked β) :
    ((.error e : Checked α) >>= f) = .error e := rfl

@[simp] lemma pure_eq_ok : (pure a : Checked α) = .ok a := rfl

lemma foldlM_induction {f : β → α → Checked β} {P : β → Prop} {l : List α} {b b' : β}
    (hstep : ∀ b a b', a ∈ l → P b → f b a = .ok b' → P b') (hb : P b)
    (h : l.foldlM f b = .ok b') : P b' := by
  induction l generalizing b with
  | nil =>
    cases h
    exact hb
  | cons a l ih =>
    obtain ⟨c, hc, hrest⟩ := bind_eq_ok.mp h
    exact ih (fun b x b' hx => hstep b x b' (mem_cons_of_mem a hx))
      (hstep b a c (by simp) hb hc) hrest

end Checked

/-- The `n` octets at offset `off` from the current position. -/
def readAt (rest : Bytes) (off n : ℕ) : Checked Bytes :=
  if off + n ≤ rest.length then .ok ((rest.drop off).take n) else .error .overread

/-- Move the current position `n` octets on. -/
def advance (rest : Bytes) (n : ℕ) : Checked Bytes :=
  if n ≤ rest.length then .ok (rest.drop n) else .error .underflow

variable {rest l : Bytes} {n off : ℕ}

lemma readAt_of_le (h : off + n ≤ rest.length) :
    readAt rest off n = .ok ((rest.drop off).take n) := if_pos h

lemma safe_readAt : (readAt rest off n).Safe ↔ off + n ≤ rest.length := by
  unfold readAt
  split <;> simp_all

lemma readAt_eq_ok :
    readAt rest off n = .ok l ↔ off + n ≤ rest.length ∧ l = (rest.drop off).take n := by
  unfold readAt
  split <;> simp_all [eq_comm]

lemma advance_eq_ok : advance rest n = .ok l ↔ n ≤ rest.length ∧ l = rest.drop n := by
  unfold advance
  split <;> simp_all [eq_comm]

lemma inside_readAt : (readAt rest off n).Inside ↔ off + n ≤ rest.length := by
  unfold readAt
  split <;> simp_all [Checked.Inside]

@[simp] lemma onlyLeaves_readAt (rest : Bytes) (off n : ℕ) : (readAt rest off n).OnlyLeaves :=
  fun h => safe_readAt.mpr (inside_readAt.mp h)

lemma inside_advance : (advance rest n).Inside ↔ n ≤ rest.length := by
  unfold advance
  split <;> simp_all [Checked.Inside]

/-! ## Walking over type-length-value data -/

variable {σ ρ : Type} (minLeft : ℕ) (size : Bytes → ℕ)
  (visit : σ → Bytes → Checked (σ ⊕ ρ)) {n : ℕ} {s : σ} {rest tail : Bytes}

/-- The loop of a type-length-value parser. While more than `minLeft` octets are left, `visit` looks
at the element at the current position; it ends the loop, or the element, `size` octets long, is
skipped. -/
def walk : ℕ → σ → Bytes → Checked (σ ⊕ ρ)
  | 0, s, _ => .ok (.inl s)
  | n + 1, s, rest =>
    if minLeft < rest.length then
      visit s rest >>= fun
        | .inr r => .ok (.inr r)
        | .inl s' => advance rest (size rest) >>= walk n s'
    else .ok (.inl s)

lemma walk_of_le (h : rest.length ≤ minLeft) : walk minLeft size visit n s rest = .ok (.inl s) := by
  cases n with
  | zero => rfl
  | succ n => rw [walk, if_neg (by omega)]

lemma walk_succ (h : minLeft < rest.length) :
    walk minLeft size visit (n + 1) s rest =
      visit s rest >>= fun
        | .inr r => .ok (.inr r)
        | .inl s' => advance rest (size rest) >>= walk minLeft size visit n s' := by
  rw [walk, if_pos h]

/-- A loop over elements one after the other, each looked at with all that follows it. -/
def visitAll (tail : Bytes) : σ → List Bytes → Checked (σ ⊕ ρ)
  | s, [] => .ok (.inl s)
  | s, el :: els =>
    visit s (el ++ (els.flatten ++ tail)) >>= fun
      | .inr r => .ok (.inr r)
      | .inl s' => visitAll tail s' els

/-- A loop that keeps its state ends at the first element with a property, if there is one. -/
lemma visitAll_any {α : Type} {r : ρ} {octets : α → Bytes}
    {stops : α → Bool} {l : List α} (h : ∀ a ∈ l, ∀ t, tail.length ≤ t.length →
      visit s (octets a ++ t) = .ok (if stops a then .inr r else .inl s)) :
    visitAll visit tail s (l.map octets) = .ok (if l.any stops then .inr r else .inl s) := by
  induction l with
  | nil => rfl
  | cons a l ih =>
    rw [map_cons, visitAll, h a mem_cons_self _ (by simp), Checked.ok_bind, any_cons]
    cases stops a with
    | true => rfl
    | false => exact ih fun b hb => h b (mem_cons_of_mem a hb)

/-- A walk over a concatenation of elements visits each of them. -/
lemma walk_flatten (htail : tail.length ≤ minLeft) {els : List Bytes}
    (hsize : ∀ el ∈ els, ∀ t, size (el ++ t) = el.length)
    (hlong : ∀ el ∈ els, minLeft < el.length + tail.length) (hn : els.length ≤ n) (s : σ) :
    walk minLeft size visit n s (els.flatten ++ tail) = visitAll visit tail s els := by
  induction els generalizing n s with
  | nil =>
    exact walk_of_le minLeft size visit htail
  | cons el els ih =>
    obtain ⟨n, rfl⟩ : ∃ k, n = k + 1 := ⟨n - 1, by simp at hn; omega⟩
    have hleft : minLeft < (el ++ (els.flatten ++ tail)).length := by
      have hel := hlong el (by simp)
      simp only [length_append]
      omega
    rw [flatten_cons, append_assoc, walk_succ minLeft size visit hleft, visitAll]
    congr 1
    funext r
    cases r with
    | inr r => rfl
    | inl s' =>
      have hadv : advance (el ++ (els.flatten ++ tail)) (size (el ++ (els.flatten ++ tail))) =
          .ok (els.flatten ++ tail) := by
        rw [hsize el (by simp), advance_eq_ok]
        simp
      simp only [hadv, Checked.ok_bind]
      exact ih (fun el' h => hsize el' (mem_cons_of_mem el h))
        (fun el' h => hlong el' (mem_cons_of_mem el h)) (by simpa using hn) s'

/-- When one round of the loop stays inside. -/
lemma inside_walk_succ (h : minLeft < rest.length) :
    (walk minLeft size visit (n + 1) s rest).Inside ↔ (visit s rest).Inside ∧
      ∀ s', visit s rest = .ok (.inl s') → size rest ≤ rest.length ∧
        (walk minLeft size visit n s' (rest.drop (size rest))).Inside := by
  rw [walk_succ minLeft size visit h, Checked.inside_bind]
  refine and_congr_right fun _ => ⟨fun hgo s' hs' => ?_, fun hgo r hr => ?_⟩
  · have hnext := hgo (.inl s') hs'
    rw [Checked.inside_bind, inside_advance] at hnext
    exact ⟨hnext.1, hnext.2 _ (advance_eq_ok.mpr ⟨hnext.1, rfl⟩)⟩
  cases r with
  | inr r => exact Checked.inside_ok _
  | inl s' =>
    obtain ⟨hsize, hnext⟩ := hgo s' hr
    rw [Checked.inside_bind, inside_advance]
    refine ⟨hsize, fun rest' hrest' => ?_⟩
    obtain ⟨-, rfl⟩ := advance_eq_ok.mp hrest'
    exact hnext

/-- The positions a walk can reach. -/
def positions : ℕ → Bytes → List Bytes
  | 0, _ => []
  | n + 1, rest =>
    if minLeft < rest.length then
      rest :: if size rest ≤ rest.length then positions n (rest.drop (size rest)) else []
    else []

end Wire
