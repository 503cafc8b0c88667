/-
Rounding to a multiple, halves away from zero or to even.

The first is how C's `round` rounds.  On values that are not negative it is
Mathlib's `round`; it differs in being odd, so that a half below zero goes down.
The second is how a number is rounded when it is written out.
-/
import Mathlib.Algebra.Order.Round
import Mathlib.Tactic.Linarith
import Mathlib.Tactic.Ring

namespace Rounding

variable {α : Type*} [Field α] [LinearOrder α] [IsStrictOrderedRing α] [FloorRing α]

/-- The nearest integer, of two the one farther from zero. -/
def halfAway (x : α) : ℤ := if 0 ≤ x then ⌊x + 1 / 2⌋ else ⌈x - 1 / 2⌉

theorem halfAway_of_nonneg {x : α} (h : 0 ≤ x) : halfAway x = round x := by
  rw [halfAway, if_pos h, round_eq]

theorem halfAway_neg (x : α) : halfAway (-x) = -halfAway x := by
  rcases lt_trichotomy x 0 with h | rfl | h
  · have hceil : -⌈x - 1 / 2⌉ = ⌊-x + 1 / 2⌋ := by
      rw [← Int.floor_neg, neg_sub, sub_eq_neg_add]
    rw [halfAway, if_pos (by linarith), halfAway, if_neg (not_le.mpr h), hceil]
  · have hhalf : ⌊(1 / 2 : α)⌋ = 0 := by
      rw [Int.floor_eq_zero_iff]
      exact ⟨by norm_num, by norm_num⟩
    simp only [halfAway, neg_zero, le_refl, if_true, zero_add, hhalf]
  · have hfloor : ⌈-x - 1 / 2⌉ = -⌊x + 1 / 2⌋ := by
      rw [← Int.ceil_neg, neg_add']
    rw [halfAway, if_neg (by linarith), halfAway, if_pos h.le, hfloor]

theorem abs_sub_halfAway (x : α) : |x - halfAway x| ≤ 1 / 2 := by
  by_cases h : 0 ≤ x
  · rw [halfAway_of_nonneg h]
    exact abs_sub_round x
  · have hneg : 0 ≤ -x := by linarith
    have hround := abs_sub_round (-x)
    rw [← halfAway_of_nonneg hneg, halfAway_neg] at hround
    have hflip : -x - (-halfAway x : ℤ) = -(x - halfAway x) := by
      push_cast
      ring
    rwa [hflip, abs_neg] at hround

theorem halfAway_nonneg {x : α} (h : 0 ≤ x) : 0 ≤ halfAway x := by
  rw [halfAway, if_pos h]
  exact Int.floor_nonneg.mpr (by linarith)

theorem halfAway_le_iff {x : α} (h : 0 ≤ x) (n : ℤ) : halfAway x ≤ n ↔ x < n + 1 / 2 := by
  rw [halfAway, if_pos h, ← Int.lt_add_one_iff, Int.floor_lt]
  push_cast
  refine ⟨fun hlt => ?_, fun hlt => ?_⟩ <;> linarith

@[simp] theorem halfAway_intCast (n : ℤ) : halfAway (n : α) = n := by
  have hnear := abs_sub_halfAway (n : α)
  have hlt : |((n - halfAway (n : α) : ℤ) : α)| < 1 := by
    push_cast
    linarith
  have hzero : n - halfAway (n : α) = 0 := by
    rw [← Int.abs_lt_one_iff]
    exact_mod_cast hlt
  omega

/-- The nearest multiple of `q`. -/
def toMultiple (q x : α) : α := halfAway (x / q) * q

omit [IsStrictOrderedRing α] in
@[simp] theorem toMultiple_one (x : α) : toMultiple 1 x = halfAway x := by
  simp [toMultiple]

theorem abs_sub_toMultiple {q : α} (hq : 0 < q) (x : α) : |x - toMultiple q x| ≤ q / 2 := by
  have hround := abs_sub_halfAway (x / q)
  have hx : x - toMultiple q x = (x / q - halfAway (x / q)) * q := by
    rw [toMultiple, sub_mul, div_mul_cancel₀ x hq.ne']
  rw [hx, abs_mul, abs_of_pos hq]
  calc |x / q - halfAway (x / q)| * q ≤ 1 / 2 * q := mul_le_mul_of_nonneg_right hround hq.le
    _ = q / 2 := by ring

/-- What has been rounded stays as it is. -/
theorem toMultiple_toMultiple {q : α} (hq : 0 < q) (x : α) :
    toMultiple q (toMultiple q x) = toMultiple q x := by
  unfold toMultiple
  rw [mul_div_cancel_right₀ _ hq.ne', halfAway_intCast]

/-! ### Halves to even -/

/-- The nearest integer, of two the even one. -/
def halfEven (x : α) : ℤ :=
  if Int.fract x < 1 / 2 then ⌊x⌋
  else if 1 / 2 < Int.fract x then ⌊x⌋ + 1
  else if ⌊x⌋ % 2 = 0 then ⌊x⌋ else ⌊x⌋ + 1

theorem abs_sub_halfEven (x : α) : |x - halfEven x| ≤ 1 / 2 := by
  have hx := Int.floor_add_fract x
  have hlo := Int.fract_nonneg x
  have hhi := Int.fract_lt_one x
  have hdown : Int.fract x ≤ 1 / 2 → |x - ⌊x⌋| ≤ 1 / 2 := by
    intro h
    rw [abs_le]
    exact ⟨by linarith, by linarith⟩
  have hup : 1 / 2 ≤ Int.fract x → |x - ((⌊x⌋ + 1 : ℤ) : α)| ≤ 1 / 2 := by
    intro h
    push_cast
    rw [abs_le]
    exact ⟨by linarith, by linarith⟩
  unfold halfEven
  by_cases hlt : Int.fract x < 1 / 2
  · rw [if_pos hlt]
    exact hdown hlt.le
  rw [if_neg hlt]
  by_cases hgt : 1 / 2 < Int.fract x
  · rw [if_pos hgt]
    exact hup hgt.le
  rw [if_neg hgt]
  by_cases heven : ⌊x⌋ % 2 = 0
  · rw [if_pos heven]
    exact hdown (not_lt.mp hgt)
  · rw [if_neg heven]
    exact hup (not_lt.mp hlt)

theorem halfEven_intCast (n : ℤ) : halfEven (n : α) = n := by
  unfold halfEven
  rw [Int.fract_intCast, if_pos (by norm_num), Int.floor_intCast]

/-- Rounding does not pass a whole number. -/
theorem le_halfEven {n : ℤ} {x : α} (h : (n : α) ≤ x) : n ≤ halfEven x := by
  have hnear := (abs_le.mp (abs_sub_halfEven x)).2
  have hlt : ((n - 1 : ℤ) : α) < halfEven x := by
    push_cast
    linarith
  have := Int.cast_lt.mp hlt
  omega

theorem halfEven_le {n : ℤ} {x : α} (h : x ≤ n) : halfEven x ≤ n := by
  have hnear := (abs_le.mp (abs_sub_halfEven x)).1
  have hlt : (halfEven x : α) < ((n + 1 : ℤ) : α) := by
    push_cast
    linarith
  have := Int.cast_lt.mp hlt
  omega

end Rounding
