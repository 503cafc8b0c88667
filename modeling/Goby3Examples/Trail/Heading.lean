/-
Whether a normalized heading fits its field.

The loops in `to_dccl` bring a heading into `[0, 360)`, and the field takes 0 to
359.  The two agree on whole degrees only: the field compares the rounded value,
and the last half degree before a full revolution rounds to 360.
-/
import Goby3Examples.Trail.Nav

namespace Trail

open Revolution

theorem NumericField.round_heading (h : ℚ) :
    NumericField.heading.round h = Rounding.halfAway h := by
  simp [NumericField.round, NumericField.heading]

/-- In `[0, 360)` the field takes what is below the last half degree. -/
theorem NumericField.heading_encodable_iff {h : ℚ} (hlo : 0 ≤ h) :
    NumericField.heading.Encodable h ↔ h < 359 + 1 / 2 := by
  have hnonneg : (0 : ℚ) ≤ Rounding.halfAway h := by
    exact_mod_cast Rounding.halfAway_nonneg hlo
  have hle : ((Rounding.halfAway h : ℤ) : ℚ) ≤ 359 ↔ h < 359 + 1 / 2 := by
    have hround := Rounding.halfAway_le_iff hlo 359
    exact_mod_cast hround
  rw [NumericField.Encodable, NumericField.round_heading]
  refine ⟨fun hfits => ?_, fun hlt => ⟨hnonneg, ?_⟩⟩
  · exact hle.mp hfits.2
  · exact hle.mpr hlt

/-- Whole revolutions do not keep a heading out of the field. -/
theorem NumericField.heading_encodable_turns {h r : ℚ} (hlo : 0 ≤ r) (hhi : r < 359 + 1 / 2) {k : ℤ}
    (hk : h = r + 360 * k) : NumericField.heading.Encodable (intoPeriod revolution_pos h) := by
  rw [intoPeriod_unique hlo (by linarith) hk]
  exact (heading_encodable_iff hlo).mpr hhi

/-- The heading `to_dccl` computes lies in the last half degree exactly when the one it was given
lies in the half degree before some whole number of revolutions. -/
theorem intoPeriod_last_half_iff (heading : ℚ) :
    359 + 1 / 2 ≤ intoPeriod revolution_pos heading ↔
      ∃ k : ℤ, 360 * k - 1 / 2 ≤ heading ∧ heading < 360 * k := by
  constructor
  · intro hlast
    obtain ⟨j, hj⟩ := intoPeriod_turns heading
    have hhi := (intoPeriod_range heading).2
    refine ⟨j + 1, ?_, ?_⟩
    · push_cast
      linarith
    · push_cast
      linarith
  · rintro ⟨k, hlo, hhi⟩
    have hself : intoPeriod revolution_pos heading = heading - 360 * (k - 1) := by
      refine intoPeriod_unique (by linarith) (by linarith) (k := k - 1) ?_
      push_cast
      ring
    rw [hself]
    linarith

variable (geodesy : UTMGeodesy) (clock : SystemClock)

/-- The heading in the report can be encoded, and is the status's heading to half a degree. -/
def HeadingEncodable (status : NodeStatus) (vehicle : Int) : Prop :=
  NumericField.heading.Encodable (toDccl geodesy clock status vehicle).heading ∧
    ∃ k : ℤ, |NumericField.heading.round (toDccl geodesy clock status vehicle).heading -
      status.heading - 360 * k| ≤ 1 / 2

theorem round_heading_congruent (status : NodeStatus) (vehicle : Int) :
    ∃ k : ℤ, |NumericField.heading.round (toDccl geodesy clock status vehicle).heading -
      status.heading - 360 * k| ≤ 1 / 2 := by
  obtain ⟨j, hj⟩ := intoPeriod_turns status.heading
  have hround := Rounding.abs_sub_halfAway (intoPeriod revolution_pos status.heading)
  refine ⟨-j, ?_⟩
  rw [NumericField.round_heading]
  show |(Rounding.halfAway (intoPeriod revolution_pos status.heading) : ℚ) - status.heading -
    360 * ((-j : ℤ) : ℚ)| ≤ 1 / 2
  have hdiff : (Rounding.halfAway (intoPeriod revolution_pos status.heading) : ℚ) -
      status.heading - 360 * ((-j : ℤ) : ℚ) =
      -(intoPeriod revolution_pos status.heading -
        Rounding.halfAway (intoPeriod revolution_pos status.heading)) := by
    push_cast
    linarith
  rw [hdiff, abs_neg]
  exact hround

/--
**The heading fits its field if and only if the one in the status is not in the
last half degree before a whole number of revolutions.**
-/
theorem headingEncodable_iff (status : NodeStatus) (vehicle : Int) :
    HeadingEncodable geodesy clock status vehicle ↔
      ¬ ∃ k : ℤ, 360 * k - 1 / 2 ≤ status.heading ∧ status.heading < 360 * k := by
  have hlo := (intoPeriod_range status.heading).1
  have hfits : NumericField.heading.Encodable (toDccl geodesy clock status vehicle).heading ↔
      intoPeriod revolution_pos status.heading < 359 + 1 / 2 :=
    NumericField.heading_encodable_iff hlo
  rw [← intoPeriod_last_half_iff, not_le, ← hfits]
  exact and_iff_left (round_heading_congruent geodesy clock status vehicle)

/-- A quarter of a degree before north. -/
def nearNorth : NodeStatus :=
  { name := "usv", time := 0, type := .usv
    globalFix := { lat := 0, lon := 0, depth := 0 }
    localFix := { x := 0, y := 0, z := 0 }
    heading := 359 + 3 / 4, speedOverGround := 0 }

/-- Its heading rounds to 360. -/
theorem not_headingEncodable_nearNorth :
    ¬ HeadingEncodable ⟨id, id⟩ ⟨id, id⟩ nearNorth usvVehicleId := by
  have hself : intoPeriod revolution_pos nearNorth.heading = 359 + 3 / 4 :=
    intoPeriod_unique (by norm_num) (by norm_num) (k := 0) (by norm_num [nearNorth])
  rintro ⟨hfits, -⟩
  have hlt := (NumericField.heading_encodable_iff (intoPeriod_range nearNorth.heading).1).mp hfits
  rw [hself] at hlt
  norm_num at hlt

end Trail
