/-
A row with a fixed distance, rounded down to whole units.

Station `i` is at `⌊d * i⌋`.  Rounding each station for itself keeps the error
from adding up: the gap between neighbours is the distance rounded down or
rounded up, wherever they stand, and a row whose length is a whole number looks
the same from both ends to within one unit.
-/
import Mathlib.Algebra.Order.Floor.Ring
import Mathlib.Tactic.Linarith
import Mathlib.Tactic.Ring

namespace Spread

variable {α : Type*} [Field α] [LinearOrder α] [IsStrictOrderedRing α] [FloorRing α]

/-- The number of the station that comes after so many steps. -/
def station (d : α) (i : ℤ) : ℤ := ⌊d * i⌋

variable {d : α}

omit [IsStrictOrderedRing α] in
@[simp] theorem station_zero : station d 0 = 0 := by simp [station]

theorem station_mono (hd : 0 ≤ d) {i j : ℤ} (h : i ≤ j) : station d i ≤ station d j := by
  have hcast : (i : α) ≤ j := by exact_mod_cast h
  exact Int.floor_le_floor (mul_le_mul_of_nonneg_left hcast hd)

/-- **A gap is the distance, rounded down or rounded up.** -/
theorem gap_eq (d : α) (i : ℤ) :
    station d (i + 1) - station d i = ⌊d⌋ ∨ station d (i + 1) - station d i = ⌈d⌉ := by
  have hnext : station d (i + 1) = ⌊d * i + d⌋ := by
    rw [station, Int.cast_add, Int.cast_one, mul_add, mul_one]
  have hlo : station d i + ⌊d⌋ ≤ station d (i + 1) := hnext ▸ Int.le_floor_add _ _
  have hhi : station d (i + 1) ≤ station d i + ⌈d⌉ := by
    rw [hnext, station, ← Int.floor_add_intCast]
    exact Int.floor_le_floor (by linarith [Int.le_ceil d])
  have hfloor := Int.floor_le_ceil d
  have hceil := Int.ceil_le_floor_add_one d
  omega

/-- From both ends the row looks the same, but for what is lost in rounding. -/
theorem station_add_station_sub {m k : ℤ} (hk : d * m = k) (i : ℤ) :
    station d i + station d (m - i) = k ∨ station d i + station d (m - i) = k - 1 := by
  have hother : station d (m - i) = k - ⌈d * i⌉ := by
    rw [station, Int.cast_sub, mul_sub, hk, sub_eq_add_neg, Int.floor_intCast_add, Int.floor_neg]
    rfl
  have hfloor := Int.floor_le_ceil (d * i)
  have hceil := Int.ceil_le_floor_add_one (d * i)
  rw [hother, station]
  omega

/-- Nobody shares a station exactly when the distance is a whole unit at least. -/
theorem strict_iff {m : ℤ} (hm : 0 < m) :
    (∀ i j, 0 ≤ i → i < j → j ≤ m → station d i < station d j) ↔ 1 ≤ d := by
  constructor
  · intro hstrict
    -- each station is at its own number at least, the last one included
    have hge : ∀ n : ℕ, (n : ℤ) ≤ m → (n : ℤ) ≤ station d n := by
      intro n
      induction n with
      | zero => simp
      | succ n ih =>
          intro hn
          have hprev := ih (by omega)
          have hlt := hstrict n (n + 1) (by omega) (by omega) (by exact_mod_cast hn)
          push_cast
          omega
    have hlast : m ≤ station d m := by
      have := hge m.toNat (by omega)
      rwa [Int.toNat_of_nonneg hm.le] at this
    have hcast : (0 : α) < m := by exact_mod_cast hm
    have hmul : 1 * (m : α) ≤ d * m := by
      rw [one_mul]
      exact Int.le_floor.mp hlast
    exact le_of_mul_le_mul_right hmul hcast
  · intro hd i j _ hij _
    have hcast : (i : α) + 1 ≤ j := by exact_mod_cast hij
    have hstep : d * i + 1 ≤ d * j := by nlinarith
    have hfloor : ⌊d * i⌋ + 1 ≤ ⌊d * j⌋ := by
      rw [← Int.floor_add_one]
      exact Int.floor_le_floor hstep
    exact hfloor

end Spread
