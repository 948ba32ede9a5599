import Mathlib.Algebra.Group.Subgroup.Basic
import Mathlib.GroupTheory.OrderOfElement

/-!
# Masked exchange of multiples

Two ends share an element `p` of a commutative group whose order divides `r`.  Each of them picks
two numbers `rand` and `mask` and publishes the scalar `(rand + mask) % r` with the element `-(mask
• p)`.  From what the other end has published an end calculates `rand • (scalar • p + element)`.

The mask cancels, so that both ends arrive at `(rand₁ * rand₂) • p`.
-/

namespace MaskedExchange

variable {A : Type*} [AddCommGroup A] {p : A} {r : ℕ}

/-- The scalar that an end publishes. -/
def scalar (r rand mask : ℕ) : ℕ := (rand + mask) % r

/-- The element that an end publishes. -/
def element (p : A) (mask : ℕ) : A := -(mask • p)

/-- What an end calculates from the scalar and the element of the other one. -/
def secret (p : A) (rand s : ℕ) (e : A) : A := rand • (s • p + e)

/-- A multiple of `p` depends on the factor modulo `r` only. -/
lemma mod_nsmul_of_nsmul_eq_zero (hp : r • p = 0) (n : ℕ) : (n % r) • p = n • p := by
  have hsplit : n • p = (n % r) • p + (n / r) • (r • p) := by
    rw [← mul_nsmul, ← add_nsmul, Nat.mod_add_div]
  rw [hsplit, hp, nsmul_zero, add_zero]

/-- The published values give the hidden multiple away to who knows `p`. -/
lemma scalar_nsmul_add_element (hp : r • p = 0) (rand mask : ℕ) :
    scalar r rand mask • p + element p mask = rand • p := by
  rw [scalar, element, mod_nsmul_of_nsmul_eq_zero hp, add_nsmul, add_neg_cancel_right]

lemma secret_comm (hp : r • p = 0) (rand₁ mask₁ rand₂ mask₂ : ℕ) :
    secret p rand₁ (scalar r rand₂ mask₂) (element p mask₂) =
      secret p rand₂ (scalar r rand₁ mask₁) (element p mask₁) := by
  rw [secret, secret, scalar_nsmul_add_element hp, scalar_nsmul_add_element hp, ← mul_nsmul,
    ← mul_nsmul, mul_comm]

/-- The element published under a mask below the order of `p` is not the neutral one. -/
lemma element_ne_zero (hp : addOrderOf p = r) {mask : ℕ} (hpos : 0 < mask) (hlt : mask < r) :
    element p mask ≠ 0 := by
  intro hzero
  have hmask : mask • p = 0 := neg_eq_zero.mp hzero
  have hdvd : r ∣ mask := hp ▸ addOrderOf_dvd_of_nsmul_eq_zero hmask
  exact absurd (Nat.le_of_dvd hpos hdvd) (Nat.not_le.mpr hlt)

end MaskedExchange
