/-
The two loops that normalize a heading.

`to_dccl` takes a revolution away while there is a whole one, and then adds one
while the heading is negative.  Here the loops stand as loops: that both are left,
whatever the heading is, is part of what is proved.  What they leave behind is
the canonical heading, the only one in `[0, 360)` that is whole revolutions away.
-/
import Goby3Examples.Lib.While
import Goby3Examples.Trail.Nav

namespace Trail

open Revolution

/-- `while (heading >= revolution) heading -= revolution;` -/
def LowerLoop : ℚ → ℚ → Prop := While.Ends (revolution ≤ ·) (· - revolution)

/-- `while (heading < 0) heading += revolution;` -/
def RaiseLoop : ℚ → ℚ → Prop := While.Ends (· < 0) (· + revolution)

/-- Entered with `heading`, the two loops are left, and the second one with `result`. -/
def LoopsEnd (heading result : ℚ) : Prop :=
  ∃ lowered, LowerLoop heading lowered ∧ RaiseLoop lowered result

/-- Whole revolutions apart. -/
def WholeTurns (a b : ℚ) : Prop := ∃ k : ℤ, a - b = 360 * k

/-- `result` is the heading in `[0, 360)` that is whole revolutions away from `heading`. -/
structure Canonical (heading result : ℚ) : Prop where
  range : 0 ≤ result ∧ result < 360
  turns : WholeTurns heading result
  unique : ∀ r, 0 ≤ r → r < 360 → WholeTurns heading r → r = result

theorem loopsEnd_intoPeriod (heading : ℚ) : LoopsEnd heading (intoPeriod revolution_pos heading) :=
  ⟨_, lowerWhile_ends revolution_pos heading, raiseWhile_ends revolution_pos _⟩

/-- The loops can be left in one way only. -/
theorem LoopsEnd.eq {heading result : ℚ} (h : LoopsEnd heading result) :
    result = intoPeriod revolution_pos heading := by
  obtain ⟨lowered, hlower, hraise⟩ := h
  obtain rfl : lowered = lowerWhile revolution_pos heading :=
    hlower.unique (lowerWhile_ends revolution_pos heading)
  exact hraise.unique (raiseWhile_ends revolution_pos _)

theorem canonical_intoPeriod (heading : ℚ) :
    Canonical heading (intoPeriod revolution_pos heading) := by
  refine ⟨intoPeriod_range heading, ?_, ?_⟩
  · obtain ⟨k, hk⟩ := intoPeriod_turns heading
    exact ⟨k, by linarith⟩
  · rintro r hlo hhi ⟨k, hk⟩
    exact (intoPeriod_unique hlo hhi (k := k) (by linarith)).symm

/-- Whole revolutions make no difference. -/
theorem intoPeriod_congr {a b : ℚ} (h : WholeTurns a b) :
    intoPeriod revolution_pos a = intoPeriod revolution_pos b := by
  obtain ⟨k, hk⟩ := h
  obtain ⟨j, hj⟩ := intoPeriod_turns b
  refine intoPeriod_unique (intoPeriod_range b).1 (intoPeriod_range b).2 (k := j + k) ?_
  push_cast
  linarith

/--
What normalizing a status's heading amounts to: the loops are left, with the heading of the
report and with nothing else, and that is the canonical one.
-/
structure HeadingNormalised (geodesy : UTMGeodesy) (clock : SystemClock) (status : NodeStatus)
    (vehicle : Int) : Prop where
  terminates : LoopsEnd status.heading (toDccl geodesy clock status vehicle).heading
  deterministic : ∀ result, LoopsEnd status.heading result →
    result = (toDccl geodesy clock status vehicle).heading
  canonical : Canonical status.heading (toDccl geodesy clock status vehicle).heading
  congruent : ∀ (status' : NodeStatus) (vehicle' : Int),
    WholeTurns status'.heading status.heading →
      (toDccl geodesy clock status' vehicle').heading =
        (toDccl geodesy clock status vehicle).heading
  twice : ∀ result, LoopsEnd (toDccl geodesy clock status vehicle).heading result →
    result = (toDccl geodesy clock status vehicle).heading

/-- **Normalizing a heading always ends, and ends in the canonical heading.** -/
theorem heading_normalised (geodesy : UTMGeodesy) (clock : SystemClock) (status : NodeStatus)
    (vehicle : Int) : HeadingNormalised geodesy clock status vehicle where
  terminates := loopsEnd_intoPeriod status.heading
  deterministic := fun _ h => h.eq
  canonical := canonical_intoPeriod status.heading
  congruent := fun _ _ h => intoPeriod_congr h
  twice := fun _ h => h.eq.trans (intoPeriod_intoPeriod revolution_pos status.heading)

end Trail
