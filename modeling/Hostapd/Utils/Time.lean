import Mathlib.Algebra.GroupWithZero.Nat
import Mathlib.Data.Fin.Basic
import Mathlib.Data.Int.Basic

/-!
# Times of the monotonic clock

`struct os_reltime` and its functions in `src/utils/os.h`.  The clock itself counts microseconds; a
time that was read from it has less than a million of them beside its seconds.
-/

namespace Hostapd

/-- A time of the monotonic clock (`struct os_reltime`). -/
structure OsReltime where
  sec : ℤ
  usec : Fin 1000000

def OsReltime.ofSec (sec : ℤ) : OsReltime := ⟨sec, 0⟩

/-- The time in microseconds. -/
def OsReltime.micros (t : OsReltime) : ℤ := t.sec * 1000000 + t.usec

/-- Read the clock, which counts microseconds (`os_get_reltime`). -/
def osGetReltime (clock : ℕ) : OsReltime where
  sec := clock / 1000000
  usec := Fin.ofNat 1000000 clock

/-- The seconds and microseconds from `b` to `a` (`os_reltime_sub`). -/
def osReltimeSub (a b : OsReltime) : ℤ × ℤ :=
  let usec : ℤ := a.usec - b.usec
  if usec < 0 then (a.sec - b.sec - 1, usec + 1000000) else (a.sec - b.sec, usec)

/-- More than `timeout` seconds have passed since `ts` (`os_reltime_expired`). -/
def osReltimeExpired (now ts : OsReltime) (timeout : ℤ) : Bool :=
  let age := osReltimeSub now ts
  timeout < age.1 || age.1 == timeout && 0 < age.2

def osReltimeBefore (a b : OsReltime) : Bool := a.sec < b.sec || a.sec == b.sec && a.usec < b.usec

@[simp] lemma micros_osGetReltime (clock : ℕ) : (osGetReltime clock).micros = clock := by
  simp only [OsReltime.micros, osGetReltime, Fin.val_ofNat]
  omega

lemma osReltimeSub_spec (a b : OsReltime) :
    (osReltimeSub a b).1 * 1000000 + (osReltimeSub a b).2 = a.micros - b.micros ∧
      0 ≤ (osReltimeSub a b).2 ∧ (osReltimeSub a b).2 < 1000000 := by
  simp only [osReltimeSub, OsReltime.micros]
  split_ifs <;> simp only <;> omega

lemma osReltimeBefore_iff {a b : OsReltime} : osReltimeBefore a b ↔ a.micros < b.micros := by
  simp only [osReltimeBefore, OsReltime.micros, Bool.or_eq_true, Bool.and_eq_true, beq_iff_eq,
    decide_eq_true_eq]
  omega

lemma osReltimeExpired_iff {now ts : OsReltime} {timeout : ℤ} :
    osReltimeExpired now ts timeout ↔ timeout * 1000000 < now.micros - ts.micros := by
  obtain ⟨hdiff, hnonneg, hlt⟩ := osReltimeSub_spec now ts
  simp only [osReltimeExpired, Bool.or_eq_true, Bool.and_eq_true, beq_iff_eq, decide_eq_true_eq]
  omega

end Hostapd
