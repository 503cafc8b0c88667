/-
The stations of the AUVs behind the USV.

`bhv` gives an AUV a trail angle and a depth from nothing but its index and the
fleet size.  The angles are a row of stations `180 / (n - 1)` degrees apart, as
`trailAngle_eq` says, so what is known of such rows is known of the fan.
-/
import Goby3Examples.Lib.Spread
import Goby3Examples.Trail.Environment

namespace Trail

open Spread

/-- The script run for the behaviors. -/
def generateBhv (role : Role) (env : Environ) : Except Failure Behaviors :=
  (setup role env).bind Setup.bhv

/-- How far apart the AUVs of a fleet of `n` would be without the rounding. -/
def spacing (n : Int) : ℚ := 180 / (n - 1)

/-- The stations of a fleet of two AUVs or more. -/
structure FanOut (n : Int) (angle depth : Int → Int) : Prop where
  first : angle 0 = 90
  last : angle (n - 1) = 270
  range : ∀ i, 0 ≤ i → i < n → 90 ≤ angle i ∧ angle i ≤ 270
  gap : ∀ i, 0 ≤ i → i + 1 < n →
    angle (i + 1) - angle i = ⌊spacing n⌋ ∨ angle (i + 1) - angle i = ⌈spacing n⌉
  gapsAlike : ∀ i j, 0 ≤ i → i + 1 < n → 0 ≤ j → j + 1 < n →
    |(angle (i + 1) - angle i) - (angle (j + 1) - angle j)| ≤ 1
  increasing : (∀ i j, 0 ≤ i → i < j → j < n → angle i < angle j) ↔ n ≤ 181
  symmetric : ∀ i, 0 ≤ i → i < n →
    angle i + angle (n - 1 - i) = 359 ∨ angle i + angle (n - 1 - i) = 360
  deeper : ∀ i, depth (i + 1) = depth i + 10
  distinct : ∀ i j, 0 ≤ i → i < n → 0 ≤ j → j < n → angle i = angle j → depth i = depth j → i = j

/-! ### The angles are a row of stations -/

section Row

variable {n : Int} (hn : 2 ≤ n)
include hn

theorem trailAngle_eq (i : Int) : trailAngle n i = 90 + station (spacing n) i := by
  obtain ⟨m, hm⟩ := Int.eq_ofNat_of_zero_le (show 0 ≤ n - 1 by omega)
  have hcast : (n : ℚ) - 1 = (m : ℚ) := by
    have : ((n - 1 : ℤ) : ℚ) = ((m : ℤ) : ℚ) := by rw [hm]
    simpa using this
  have hrow : station (spacing n) i = 180 * i / (m : ℤ) := by
    rw [← Rat.floor_intCast_div_natCast, station, spacing, hcast]
    congr 1
    push_cast
    ring
  rw [trailAngle, if_neg (by omega), hm, Int.fdiv_eq_ediv_of_nonneg _ (by omega), hrow]

theorem spacing_pos : 0 < spacing n := by
  have hcast : (2 : ℚ) ≤ n := by exact_mod_cast hn
  exact div_pos (by norm_num) (by linarith)

theorem spacing_mul : spacing n * ((n - 1 : ℤ) : ℚ) = ((180 : ℤ) : ℚ) := by
  have hcast : (2 : ℚ) ≤ n := by exact_mod_cast hn
  have hne : (n : ℚ) - 1 ≠ 0 := by linarith
  push_cast
  exact div_mul_cancel₀ 180 hne

theorem one_le_spacing_iff : 1 ≤ spacing n ↔ n ≤ 181 := by
  have hcast : (2 : ℚ) ≤ n := by exact_mod_cast hn
  rw [spacing, one_le_div (by linarith), sub_le_iff_le_add]
  norm_num
  exact_mod_cast Iff.rfl

theorem station_last : station (spacing n) (n - 1) = 180 := by
  rw [station, spacing_mul hn, Int.floor_intCast]

theorem fanOut : FanOut n (trailAngle n) deployDepth := by
  have hangle := trailAngle_eq hn
  have hmono : ∀ {i j : Int}, i ≤ j → station (spacing n) i ≤ station (spacing n) j :=
    station_mono (spacing_pos hn).le
  have hgap : ∀ i, trailAngle n (i + 1) - trailAngle n i = ⌊spacing n⌋ ∨
      trailAngle n (i + 1) - trailAngle n i = ⌈spacing n⌉ := by
    intro i
    have := gap_eq (spacing n) i
    rw [hangle, hangle]
    omega
  refine
    { first := by rw [hangle, station_zero, add_zero]
      last := by rw [hangle, station_last hn]; rfl
      range := ?_
      gap := fun i _ _ => hgap i
      gapsAlike := ?_
      increasing := ?_
      symmetric := ?_
      deeper := ?_
      distinct := ?_ }
  · intro i hlo hhi
    have hfirst := hmono hlo
    have hlast := hmono (show i ≤ n - 1 by omega)
    rw [station_zero] at hfirst
    rw [station_last hn] at hlast
    rw [hangle]
    omega
  · intro i j _ _ _ _
    have hfloor := Int.floor_le_ceil (spacing n)
    have hceil := Int.ceil_le_floor_add_one (spacing n)
    have hi := hgap i
    have hj := hgap j
    rw [abs_le]
    omega
  · rw [← one_le_spacing_iff hn, ← strict_iff (show 0 < n - 1 by omega)]
    refine ⟨fun h i j hlo hij hhi => ?_, fun h i j hlo hij hhi => ?_⟩
    · have hlt := h i j hlo hij (by omega)
      rw [hangle, hangle] at hlt
      omega
    · have hlt := h i j hlo hij (by omega)
      rw [hangle, hangle]
      omega
  · intro i _ _
    have := station_add_station_sub (spacing_mul hn) i
    rw [hangle, hangle]
    omega
  · intro i
    unfold deployDepth
    ring
  · intro i j _ _ _ _ _ hdepth
    unfold deployDepth at hdepth
    omega

end Row

/--
**The AUVs fan out evenly behind the USV**: the script gives every AUV of a fleet
a station, and the stations of a fleet of two or more are a fan.  One AUV alone
is right behind.
-/
theorem auvs_fanOut (n : Int) (host : Host) (hn : 1 ≤ n) :
    ∃ angle depth : Int → Int,
      (∀ i, 0 ≤ i → i < n →
        generateBhv .auv (auvEnviron n i host) = .ok (.auv (angle i) (depth i))) ∧
      (n = 1 → angle 0 = 180) ∧ (2 ≤ n → FanOut n angle depth) := by
  refine ⟨trailAngle n, deployDepth, ?_, ?_, fanOut⟩
  · intro i _ _
    rw [generateBhv, setup_auv]
    exact bhv_auvSetup n i host.port
  · rintro rfl
    rfl

/-- The two AUVs that are launched. -/
theorem auvs_fanOut_two :
    ∃ angle depth : Int → Int,
      (∀ i, 0 ≤ i → i < 2 →
        generateBhv .auv (auvEnviron 2 i {}) = .ok (.auv (angle i) (depth i))) ∧
      FanOut 2 angle depth := by
  obtain ⟨angle, depth, hbhv, -, hfan⟩ := auvs_fanOut 2 {} (by decide)
  exact ⟨angle, depth, hbhv, hfan (by decide)⟩

end Trail
