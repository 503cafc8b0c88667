/-
Giving the digits of a number another weight.

A number is cut into a whole multiple of a base and a rest, and put together
again with another unit in place of the base, the rest being read in a way of its
own.  This is how a clock time written in decimal digits becomes seconds.  The
reading is exact on what was written properly.  On anything else the rest may be
worth more than a unit; `le_reweigh_iff` and `reweigh_le_iff` say where the
result passes a given number of units all the same.
-/
import Mathlib.Algebra.Order.Floor.Ring
import Mathlib.Tactic.Linarith
import Mathlib.Tactic.Ring

namespace Digits

variable {α : Type*} [Field α] [LinearOrder α] [IsStrictOrderedRing α] [FloorRing α]

/-- How often `b` goes into `x`. -/
def whole (b x : α) : ℤ := ⌊x / b⌋

/-- What is left then. -/
def rest (b x : α) : α := x - whole b x * b

/-- `w` for each `b` in `x`, and `f` of what is left. -/
def reweigh (b w : α) (f : α → α) (x : α) : α := whole b x * w + f (rest b x)

/-! ### Whole and rest -/

private theorem intCast_mul_le {u : α} (hu : 0 ≤ u) {m n : ℤ} (h : m ≤ n) : (m : α) * u ≤ n * u :=
  mul_le_mul_of_nonneg_right (by exact_mod_cast h) hu

omit [IsStrictOrderedRing α] in
theorem whole_mul_add_rest (b x : α) : whole b x * b + rest b x = x := by
  rw [rest]
  ring

theorem rest_mem {b : α} (hb : 0 < b) (x : α) : 0 ≤ rest b x ∧ rest b x < b := by
  have hlo : (whole b x : α) * b ≤ x := (le_div_iff₀ hb).mp (Int.floor_le (x / b))
  have hhi : x < (whole b x + 1) * b := (div_lt_iff₀ hb).mp (Int.lt_floor_add_one (x / b))
  rw [rest]
  exact ⟨by linarith, by linarith⟩

/-- The number lies in front of every multiple that its whole part does not reach. -/
theorem lt_mul_of_whole_lt {b : α} (hb : 0 < b) {n : ℤ} {x : α} (h : whole b x < n) :
    x < n * b := by
  have hplace := intCast_mul_le hb.le (Int.add_one_le_iff.mpr h)
  push_cast at hplace
  linarith [whole_mul_add_rest b x, (rest_mem hb x).2]

theorem mul_le_of_le_whole {b : α} (hb : 0 < b) {n : ℤ} {x : α} (h : n ≤ whole b x) :
    n * b ≤ x := by
  linarith [whole_mul_add_rest b x, (rest_mem hb x).1, intCast_mul_le hb.le h]

section Written

variable {b : α} (hb : 0 < b) (n : ℤ) {r : α} (hlo : 0 ≤ r) (hhi : r < b)
include hb hlo hhi

theorem whole_mul_add : whole b (n * b + r) = n := by
  rw [whole, Int.floor_eq_iff, le_div_iff₀ hb, div_lt_iff₀ hb]
  exact ⟨by linarith, by linarith⟩

theorem rest_mul_add : rest b (n * b + r) = r := by
  rw [rest, whole_mul_add hb n hlo hhi]
  ring

/-- **What was written is what is read.** -/
theorem reweigh_mul_add (w : α) (f : α → α) : reweigh b w f (n * b + r) = n * w + f r := by
  rw [reweigh, whole_mul_add hb n hlo hhi, rest_mul_add hb n hlo hhi]

end Written

/-! ### Comparing what is read -/

/-- The larger number is read as the larger one, if rests are and stay below a unit. -/
theorem reweigh_lt {b w : α} (hb : 0 < b) (hw : 0 ≤ w) {f : α → α} {x y : α} (hxy : x < y)
    (hbelow : f (rest b x) < w) (hnonneg : 0 ≤ f (rest b y))
    (hrest : rest b x < rest b y → f (rest b x) < f (rest b y)) :
    reweigh b w f x < reweigh b w f y := by
  have hx := whole_mul_add_rest b x
  have hy := whole_mul_add_rest b y
  have hle : whole b x ≤ whole b y := Int.floor_le_floor (div_le_div_of_nonneg_right hxy.le hb.le)
  rw [reweigh, reweigh]
  rcases hle.eq_or_lt with heq | hlt
  · have hlt : rest b x < rest b y := by
      rw [heq] at hx
      linarith
    rw [heq]
    linarith [hrest hlt]
  · have hmul := intCast_mul_le hw (Int.add_one_le_iff.mpr hlt)
    push_cast at hmul
    linarith

section Units

variable {b w : α} (hb : 0 < b) (hw : 0 < w) {f : α → α}
  (hf : ∀ r, 0 ≤ r → r < b → 0 ≤ f r ∧ f r < 2 * w)
include hb hw hf

/-- Two wholes before, the rest cannot make up for it. -/
theorem reweigh_lt_of_whole {N : ℤ} {x : α} (h : whole b x + 2 ≤ N) : reweigh b w f x < N * w := by
  obtain ⟨hlo, hhi⟩ := rest_mem hb x
  have hunits := intCast_mul_le hw.le h
  push_cast at hunits
  rw [reweigh]
  linarith [(hf _ hlo hhi).2]

theorem le_reweigh_of_whole {N : ℤ} {x : α} (h : N ≤ whole b x) : N * w ≤ reweigh b w f x := by
  obtain ⟨hlo, hhi⟩ := rest_mem hb x
  rw [reweigh]
  linarith [(hf _ hlo hhi).1, intCast_mul_le hw.le h]

/-- The result reaches `N` units where the rest begins to be worth a unit, one whole before. -/
theorem le_reweigh_iff {c : α} (hc : 0 ≤ c) (hcb : c ≤ b)
    (hcarry : ∀ r, 0 ≤ r → r < b → (w ≤ f r ↔ c ≤ r)) (N : ℤ) (x : α) :
    N * w ≤ reweigh b w f x ↔ (N - 1) * b + c ≤ x := by
  rcases lt_trichotomy (whole b x) (N - 1) with hlt | heq | hgt
  · have hbelow := reweigh_lt_of_whole hb hw hf (show whole b x + 2 ≤ N by omega)
    have hplace := lt_mul_of_whole_lt hb hlt
    push_cast at hplace
    exact iff_of_false (not_le.mpr hbelow) (not_le.mpr (by linarith))
  · have hcast : (whole b x : α) = N - 1 := by exact_mod_cast heq
    have hx := whole_mul_add_rest b x
    obtain ⟨hlo, hhi⟩ := rest_mem hb x
    have hrest := hcarry _ hlo hhi
    rw [reweigh]
    rw [hcast] at hx ⊢
    constructor
    · intro h
      linarith [hrest.mp (by linarith)]
    · intro h
      linarith [hrest.mpr (by linarith)]
  · have hreach : N ≤ whole b x := by omega
    have hplace := mul_le_of_le_whole hb hreach
    exact iff_of_true (le_reweigh_of_whole hb hw hf hreach) (by linarith)

/-- It stays within `N` units up to where the rest is worth one, one whole before, and again at
the whole itself; the rest may come back to one unit in between, at `e`. -/
theorem reweigh_le_iff {c e : α} (hc : 0 ≤ c) (hcb : c < b) (heb : e < b)
    (hcarry : ∀ r, 0 ≤ r → r < b → (f r ≤ w ↔ r ≤ c ∨ r = e))
    (hzero : ∀ r, 0 ≤ r → r < b → (f r ≤ 0 ↔ r = 0)) (N : ℤ) (x : α) :
    reweigh b w f x ≤ N * w ↔ x ≤ (N - 1) * b + c ∨ x = (N - 1) * b + e ∨ x = N * b := by
  have hx := whole_mul_add_rest b x
  obtain ⟨hlo, hhi⟩ := rest_mem hb x
  rcases lt_trichotomy (whole b x) (N - 1) with hlt | heq | hgt
  · have hbelow := reweigh_lt_of_whole hb hw hf (show whole b x + 2 ≤ N by omega)
    have hplace := lt_mul_of_whole_lt hb hlt
    push_cast at hplace
    exact iff_of_true hbelow.le (Or.inl (by linarith))
  · have hcast : (whole b x : α) = N - 1 := by exact_mod_cast heq
    have hrest := hcarry _ hlo hhi
    rw [reweigh]
    rw [hcast] at hx ⊢
    constructor
    · intro h
      rcases hrest.mp (by linarith) with hle | heq
      · exact Or.inl (by linarith)
      · exact Or.inr (Or.inl (by linarith))
    · rintro (hle | heq | hwhole)
      · linarith [hrest.mpr (Or.inl (by linarith))]
      · linarith [hrest.mpr (Or.inr (by linarith))]
      · -- the whole itself has a whole part more
        exfalso
        linarith
  · rcases (show N ≤ whole b x by omega).eq_or_lt with heq | hgt
    · have hcast : (whole b x : α) = N := by exact_mod_cast heq.symm
      have hnone := hzero _ hlo hhi
      rw [reweigh]
      rw [hcast] at hx ⊢
      constructor
      · intro h
        exact Or.inr (Or.inr (by linarith [hnone.mp (by linarith)]))
      · rintro (hle | heq | hwhole)
        · exfalso
          linarith
        · exfalso
          linarith
        · linarith [hnone.mpr (by linarith)]
    · have hunits := le_reweigh_of_whole hb hw hf (Int.add_one_le_iff.mpr hgt)
      have hplace := mul_le_of_le_whole hb (Int.add_one_le_iff.mpr hgt)
      push_cast at hunits hplace
      refine iff_of_false (not_le.mpr (by linarith)) ?_
      rintro (h | h | h) <;> linarith

end Units

end Digits
