/-
Bringing a value into one period by counting.

A program that wants an angle in `[0, p)` and has no remainder operation takes
`p` away while the value is not below it, and then adds `p` while the value is
negative.  Both loops end because the value lies a whole number of periods from
its remainder, and each turn brings that number one closer to zero.

The two loops leave the remainder unchanged, so what they end with, being in the
period, is the remainder itself: `intoPeriod_eq` identifies it with Mathlib's
`toIcoMod`, and everything else about it is already known there.
-/
import Mathlib.Algebra.Order.ToIntervalMod
import Goby3Examples.Lib.While

namespace Revolution

variable {α : Type*} [AddCommGroup α] [LinearOrder α] {p : α}

/-! ### How many periods are left -/

section Left

variable [IsOrderedAddMonoid α] [Archimedean α] (hp : 0 < p)

theorem toIcoDiv_pos {h : α} (hle : p ≤ h) : 0 < toIcoDiv hp 0 h := by
  by_contra hneg
  have hmod := (toIcoMod_mem_Ico' hp h).2
  have hback := toIcoMod_add_toIcoDiv_zsmul hp 0 h
  have hsmul : toIcoDiv hp 0 h • p ≤ 0 := by
    simpa using zsmul_le_zsmul_left hp.le (not_lt.mp hneg)
  have hlt : h < p := by
    calc h = toIcoMod hp 0 h + toIcoDiv hp 0 h • p := hback.symm
      _ ≤ toIcoMod hp 0 h + 0 := by gcongr
      _ < p := by rwa [add_zero]
  exact absurd hle (not_le.mpr hlt)

theorem toIcoDiv_neg {h : α} (hlt : h < 0) : toIcoDiv hp 0 h < 0 := by
  by_contra hpos
  have hmod := (toIcoMod_mem_Ico' hp h).1
  have hback := toIcoMod_add_toIcoDiv_zsmul hp 0 h
  have hsmul : 0 ≤ toIcoDiv hp 0 h • p := zsmul_nonneg hp.le (not_lt.mp hpos)
  have hge : 0 ≤ h := by
    calc (0 : α) ≤ toIcoMod hp 0 h + toIcoDiv hp 0 h • p := add_nonneg hmod hsmul
      _ = h := hback
  exact absurd hlt (not_lt.mpr hge)

end Left

/-! ### The two loops -/

/-- `while (h >= p) h -= p` -/
def lowerWhile [IsOrderedAddMonoid α] [Archimedean α] (hp : 0 < p) (h : α) : α :=
  if p ≤ h then lowerWhile hp (h - p) else h
termination_by (toIcoDiv hp 0 h).toNat
decreasing_by
  rename_i hle
  have := toIcoDiv_pos hp hle
  rw [toIcoDiv_sub]
  omega

/-- `while (h < 0) h += p` -/
def raiseWhile [IsOrderedAddMonoid α] [Archimedean α] (hp : 0 < p) (h : α) : α :=
  if h < 0 then raiseWhile hp (h + p) else h
termination_by (-toIcoDiv hp 0 h).toNat
decreasing_by
  rename_i hlt
  have := toIcoDiv_neg hp hlt
  rw [toIcoDiv_add_right]
  omega

variable [IsOrderedAddMonoid α] [Archimedean α] (hp : 0 < p)

/-- The two loops, one after the other. -/
def intoPeriod (h : α) : α := raiseWhile hp (lowerWhile hp h)

/-! ### That they end

The functions above are the loops: each loop, entered with `h`, is left with the
function's value.
-/

theorem lowerWhile_ends (h : α) : While.Ends (p ≤ ·) (· - p) h (lowerWhile hp h) := by
  fun_induction lowerWhile hp h with
  | case1 h hle ih => exact .turn hle ih
  | case2 h hlt => exact .exit hlt

theorem raiseWhile_ends (h : α) : While.Ends (· < 0) (· + p) h (raiseWhile hp h) := by
  fun_induction raiseWhile hp h with
  | case1 h hlt ih => exact .turn hlt ih
  | case2 h hge => exact .exit hge

/-! ### What they end with -/

theorem toIcoMod_lowerWhile (h : α) : toIcoMod hp 0 (lowerWhile hp h) = toIcoMod hp 0 h := by
  fun_induction lowerWhile hp h with
  | case1 h hle ih => rw [ih, toIcoMod_sub]
  | case2 h hlt => rfl

theorem toIcoMod_raiseWhile (h : α) : toIcoMod hp 0 (raiseWhile hp h) = toIcoMod hp 0 h := by
  fun_induction raiseWhile hp h with
  | case1 h hlt ih => rw [ih, toIcoMod_add_right]
  | case2 h hge => rfl

theorem lowerWhile_lt (h : α) : lowerWhile hp h < p := by
  fun_induction lowerWhile hp h with
  | case1 h hle ih => exact ih
  | case2 h hlt => exact not_le.mp hlt

theorem raiseWhile_mem {h : α} (hlt : h < p) : raiseWhile hp h ∈ Set.Ico 0 p := by
  fun_induction raiseWhile hp h with
  | case1 h hneg ih => exact ih (by simpa using add_lt_add_left hneg p)
  | case2 h hge => exact ⟨not_lt.mp hge, hlt⟩

/-- **The two loops compute the remainder.** -/
theorem intoPeriod_eq (h : α) : intoPeriod hp h = toIcoMod hp 0 h := by
  have hmem : intoPeriod hp h ∈ Set.Ico 0 p := raiseWhile_mem hp (lowerWhile_lt hp h)
  have hself : toIcoMod hp 0 (intoPeriod hp h) = intoPeriod hp h := by
    rw [toIcoMod_eq_self, zero_add]
    exact hmem
  rw [← hself, intoPeriod, toIcoMod_raiseWhile, toIcoMod_lowerWhile]

theorem intoPeriod_mem (h : α) : intoPeriod hp h ∈ Set.Ico 0 p := by
  rw [intoPeriod_eq]
  exact toIcoMod_mem_Ico' hp h

theorem intoPeriod_of_mem {h : α} (hmem : h ∈ Set.Ico 0 p) : intoPeriod hp h = h := by
  rw [intoPeriod_eq, toIcoMod_eq_self, zero_add]
  exact hmem

@[simp] theorem intoPeriod_intoPeriod (h : α) :
    intoPeriod hp (intoPeriod hp h) = intoPeriod hp h :=
  intoPeriod_of_mem hp (intoPeriod_mem hp h)

/-- A value is a whole number of periods from what it is brought to. -/
theorem exists_eq_add_zsmul (h : α) : ∃ k : ℤ, h = intoPeriod hp h + k • p := by
  refine ⟨toIcoDiv hp 0 h, ?_⟩
  rw [intoPeriod_eq, toIcoMod_add_toIcoDiv_zsmul]

/-- It is the only value in the period that this is true of. -/
theorem intoPeriod_eq_of_eq_add {h r : α} (hmem : r ∈ Set.Ico 0 p) {k : ℤ} (hk : h = r + k • p) :
    intoPeriod hp h = r := by
  rw [intoPeriod_eq, toIcoMod_eq_iff, zero_add]
  exact ⟨hmem, k, hk⟩

end Revolution
