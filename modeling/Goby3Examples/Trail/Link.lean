/-
What a link leaves of a report, by the `(dccl.field)` options of `nav.proto`.

A number is rounded to the digits its field keeps, and a report of which one number
is then out of bounds is not promised anything.  `NavigationReport.Encodable` says
that all are within bounds, and `NavigationReport.rounded` what arrives then.  An AUV's
report crosses two links on its way to the topside, and the second one rounds nothing
that the first has not.

DCCL itself is a parameter.  What is relied on is `NavCodec.Lawful`: within bounds the
report arrives rounded, the class is never mistaken for another, and the time that
`dccl.time2` keeps is off by a second at most, which supposes that a report arrives
within half a day.
-/
import Mathlib.Logic.Relation
import Goby3Examples.Trail.Heading

namespace Trail

open Relation

namespace NumericField

variable (f : NumericField)

theorem unit_pos : (0 : ℚ) < 10 ^ (-f.precision) := zpow_pos (by norm_num) _

theorem abs_sub_round (value : ℚ) : |value - f.round value| ≤ 10 ^ (-f.precision) / 2 :=
  Rounding.abs_sub_toMultiple f.unit_pos value

theorem round_round (value : ℚ) : f.round (f.round value) = f.round value :=
  Rounding.toMultiple_toMultiple f.unit_pos value

theorem Encodable.round {f : NumericField} {value : ℚ} (h : f.Encodable value) :
    f.Encodable (f.round value) := by
  unfold Encodable
  rw [round_round]
  exact h

instance (value : ℚ) : Decidable (f.Encodable value) :=
  inferInstanceAs (Decidable (f.min ≤ f.round value ∧ f.round value ≤ f.max))

/-- What is kept is a whole number of the last decimal's units. -/
theorem exists_round_mul_eq {f : NumericField} {k : Nat} (h : f.precision = k) (value : ℚ) :
    ∃ j : ℤ, f.round value * 10 ^ k = j := by
  refine ⟨Rounding.halfAway (value / 10 ^ (-(k : ℤ))), ?_⟩
  have hunit : (10 : ℚ) ^ (-(k : ℤ)) * 10 ^ k = 1 := by
    rw [zpow_neg, zpow_natCast, inv_mul_cancel₀ (by positivity)]
  rw [round, h, Rounding.toMultiple, mul_assoc, hunit, mul_one]

end NumericField

namespace NavigationReport

/-- Every number fits its field. -/
structure Encodable (nav : NavigationReport) : Prop where
  vehicle : NumericField.vehicle.Encodable nav.vehicle
  x : NumericField.position.Encodable nav.x
  y : NumericField.position.Encodable nav.y
  z : NumericField.z.Encodable nav.z
  speedOverGround : NumericField.speedOverGround.Encodable nav.speedOverGround
  heading : NumericField.heading.Encodable nav.heading

instance (nav : NavigationReport) : Decidable nav.Encodable :=
  decidable_of_iff
    (NumericField.vehicle.Encodable nav.vehicle ∧ NumericField.position.Encodable nav.x ∧
      NumericField.position.Encodable nav.y ∧ NumericField.z.Encodable nav.z ∧
      NumericField.speedOverGround.Encodable nav.speedOverGround ∧
      NumericField.heading.Encodable nav.heading)
    ⟨fun ⟨hv, hx, hy, hz, hs, hh⟩ => ⟨hv, hx, hy, hz, hs, hh⟩,
      fun ⟨hv, hx, hy, hz, hs, hh⟩ => ⟨hv, hx, hy, hz, hs, hh⟩⟩

/-- The report with the digits its fields keep, and with what `time2` keeps of the time. -/
def rounded (time2 : ℚ → ℚ) (nav : NavigationReport) : NavigationReport :=
  { nav with
    time := time2 nav.time
    x := NumericField.position.round nav.x
    y := NumericField.position.round nav.y
    z := NumericField.z.round nav.z
    speedOverGround := NumericField.speedOverGround.round nav.speedOverGround
    heading := NumericField.heading.round nav.heading }

variable {time2 : ℚ → ℚ} {nav : NavigationReport}

theorem Encodable.rounded (h : nav.Encodable) : (nav.rounded time2).Encodable :=
  ⟨h.vehicle, h.x.round, h.y.round, h.z.round, h.speedOverGround.round, h.heading.round⟩

/-- The hook sets the class, which every report can carry. -/
theorem Encodable.published (h : nav.Encodable) (g : Group) : (navPublisher nav g).Encodable :=
  ⟨h.vehicle, h.x, h.y, h.z, h.speedOverGround, h.heading⟩

theorem rounded_rounded (htime : ∀ t, time2 (time2 t) = time2 t) :
    (nav.rounded time2).rounded time2 = nav.rounded time2 := by
  simp only [NavigationReport.rounded, NumericField.round_round, htime]

end NavigationReport

/-- DCCL with the codecs of `nav.proto`: what `dccl.time2` keeps of a time, and what is decoded of a
report that was encoded, if anything. -/
structure NavCodec where
  time2 : ℚ → ℚ
  carry : NavigationReport → Option NavigationReport

namespace NavCodec

/-- What is relied on. -/
structure Lawful (codec : NavCodec) : Prop where
  encodable : ∀ nav : NavigationReport, nav.Encodable →
    codec.carry nav = some (nav.rounded codec.time2)
  type : ∀ nav nav', codec.carry nav = some nav' → nav'.type = nav.type
  time2_near : ∀ t, |codec.time2 t - t| ≤ 1
  time2_idem : ∀ t, codec.time2 (codec.time2 t) = codec.time2 t

variable {codec : NavCodec}

theorem Lawful.carry_rounded (h : codec.Lawful) {nav : NavigationReport} (hnav : nav.Encodable) :
    codec.carry (nav.rounded codec.time2) = some (nav.rounded codec.time2) := by
  rw [h.encodable _ hnav.rounded, NavigationReport.rounded_rounded h.time2_idem]

/-- Over any number of links the report is the one that was sent, or that one rounded. -/
theorem Lawful.eq_or_eq_rounded (h : codec.Lawful) {nav nav' : NavigationReport}
    (hnav : nav.Encodable) (hcarried : ReflTransGen (codec.carry · = some ·) nav nav') :
    nav' = nav ∨ nav' = nav.rounded codec.time2 := by
  induction hcarried with
  | refl => exact Or.inl rfl
  | tail _ hlast ih =>
      rcases ih with rfl | rfl
      · exact Or.inr (Option.some.inj (hlast.symm.trans (h.encodable _ hnav)))
      · exact Or.inr (Option.some.inj (hlast.symm.trans (h.carry_rounded hnav)))

/-- And over one link at least it is that one rounded. -/
theorem Lawful.eq_rounded (h : codec.Lawful) {nav nav₁ nav₂ : NavigationReport}
    (hnav : nav.Encodable) (hcarried : ReflTransGen (codec.carry · = some ·) nav nav₁)
    (hlast : codec.carry nav₁ = some nav₂) : nav₂ = nav.rounded codec.time2 := by
  rcases h.eq_or_eq_rounded hnav hcarried with rfl | rfl
  · exact Option.some.inj (hlast.symm.trans (h.encodable _ hnav))
  · exact Option.some.inj (hlast.symm.trans (h.carry_rounded hnav))

/-- The numbers of the report are those of the status, to the digits that their fields keep. -/
structure Told (geodesy : UTMGeodesy) (clock : SystemClock) (s : NodeStatus)
    (nav : NavigationReport) : Prop where
  time : |nav.time - clock.unwarp s.time| ≤ 1
  x : |nav.x - (geodesy.toXY (s.globalFix.lat, s.globalFix.lon)).1| ≤ 1 / 20
  y : |nav.y - (geodesy.toXY (s.globalFix.lat, s.globalFix.lon)).2| ≤ 1 / 20
  depth : |-nav.z - s.globalFix.depth| ≤ 1 / 2
  speedOverGround : |nav.speedOverGround - s.speedOverGround| ≤ 1 / 20
  headingRange : 0 ≤ nav.heading ∧ nav.heading ≤ 359
  headingWhole : ∃ h : ℤ, nav.heading = h
  headingTurns : ∃ k : ℤ, |nav.heading - s.heading - 360 * k| ≤ 1 / 2

theorem Lawful.told (h : codec.Lawful) {geodesy : UTMGeodesy} {clock : SystemClock}
    {s : NodeStatus} {v : Int} (hfits : (toDccl geodesy clock s v).Encodable) :
    Told geodesy clock s ((toDccl geodesy clock s v).rounded codec.time2) := by
  have hnear : ∀ (f : NumericField) (q : ℚ), |f.round q - q| ≤ 10 ^ (-f.precision) / 2 := by
    intro f q
    rw [abs_sub_comm]
    exact f.abs_sub_round q
  have htenth : (10 : ℚ) ^ (-(1 : ℤ)) / 2 = 1 / 20 := by norm_num
  refine
    { time := h.time2_near _
      x := (hnear NumericField.position _).trans_eq htenth
      y := (hnear NumericField.position _).trans_eq htenth
      depth := ?_
      speedOverGround := (hnear NumericField.speedOverGround _).trans_eq htenth
      headingRange := hfits.heading
      headingWhole := ?_
      headingTurns := round_heading_congruent geodesy clock s v }
  · have hz := hnear NumericField.z (-s.globalFix.depth)
    rw [sub_neg_eq_add] at hz
    show |-NumericField.z.round (-s.globalFix.depth) - s.globalFix.depth| ≤ 1 / 2
    rw [← neg_add', abs_neg]
    exact hz.trans_eq (by norm_num [NumericField.z])
  · obtain ⟨k, hk⟩ := NumericField.exists_round_mul_eq (f := .heading) (k := 0) rfl
      (toDccl geodesy clock s v).heading
    rw [pow_zero, mul_one] at hk
    exact ⟨k, hk⟩

end NavCodec

/-- A codec that sends nothing that is out of bounds, and whole seconds of the time. -/
def strictCodec : NavCodec where
  time2 := fun t => Rounding.halfAway t
  carry := fun nav =>
    if nav.Encodable then some (nav.rounded fun t => Rounding.halfAway t) else none

theorem strictCodec_lawful : strictCodec.Lawful := by
  refine ⟨?_, ?_, ?_, ?_⟩
  · intro nav hnav
    exact if_pos hnav
  · intro nav nav' hcarry
    unfold strictCodec at hcarry
    simp only [Option.ite_none_right_eq_some, Option.some.injEq] at hcarry
    rw [← hcarry.2]
    rfl
  · intro t
    have hnear := Rounding.abs_sub_halfAway t
    rw [abs_sub_comm] at hnear
    exact hnear.trans (by norm_num)
  · intro t
    simp [strictCodec]

end Trail
