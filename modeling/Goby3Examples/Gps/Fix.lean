/-
Which lines leave a real position.

A position goes out for every `GGA` sentence that is long enough, whatever it
says.  The enumerator for the quality of the fix is there and nothing reads it,
a letter is compared with two of the four only, and no number is compared with
anything.  `acceptsRealFixes_iff` says on which lines the outcome is right all
the same.

The ranges of the decoded values are ranges of what is written, but for a few
places at the top, where the minutes or the seconds are sixty or more: two carry
into one.
-/
import Goby3Examples.Gps.Decode

namespace Gps

open Digits

/-! ### The ranges, before and after decoding -/

/-- From minus 40 minutes 40 seconds, which is read as midnight, to the last way of writing the
next one. -/
def TimeInRange (t : ℚ) : Prop := -4040 ≤ t ∧ (t ≤ 235960 ∨ t = 236000 ∨ t = 240000)

/-- The raw number is a latitude or a longitude, up to so many degrees. -/
def AngleInRange (limit : ℤ) (g : ℚ) : Prop :=
  -(100 * limit) - 40 ≤ g ∧ (g ≤ 100 * limit - 40 ∨ g = 100 * limit)

private theorem id_mem (r : ℚ) (hlo : 0 ≤ r) (hhi : r < 100) : 0 ≤ id r ∧ id r < 2 * 60 :=
  ⟨hlo, by simp only [id]; linarith⟩

/-- What stands behind the hours, read as seconds. -/
private def behind (r : ℚ) : ℚ := reweigh 100 60 id r

private theorem units_le_behind (n : ℤ) (r : ℚ) : n * 60 ≤ behind r ↔ (n - 1) * 100 + 60 ≤ r :=
  le_reweigh_iff (by norm_num) (by norm_num) id_mem (by norm_num) (by norm_num)
    (fun _ _ _ => Iff.rfl) n r

private theorem behind_le_units (n : ℤ) (r : ℚ) :
    behind r ≤ n * 60 ↔ r ≤ (n - 1) * 100 + 60 ∨ r = (n - 1) * 100 + 60 ∨ r = n * 100 :=
  reweigh_le_iff (by norm_num) (by norm_num) id_mem (by norm_num) (by norm_num) (by norm_num)
    (fun _ _ _ => ⟨Or.inl, fun h => h.elim id le_of_eq⟩)
    (fun _ hlo _ => ⟨fun h => le_antisymm h hlo, le_of_eq⟩) n r

private theorem behind_mem (r : ℚ) (hlo : 0 ≤ r) (hhi : r < 10000) :
    0 ≤ behind r ∧ behind r < 2 * 3600 := by
  have hnonneg := units_le_behind 0 r
  have hbelow := behind_le_units 119 r
  norm_num at hnonneg hbelow
  exact ⟨hnonneg.mpr (by linarith), by linarith [hbelow.mpr (Or.inl (by linarith))]⟩

/-- An hour is worth of the rest from 59 minutes 60 seconds on. -/
private theorem hour_le_behind (r : ℚ) : 3600 ≤ behind r ↔ 5960 ≤ r := by
  have h := units_le_behind 60 r
  norm_num at h
  exact h

private theorem behind_le_hour (r : ℚ) : behind r ≤ 3600 ↔ r ≤ 5960 ∨ r = 6000 := by
  have h := behind_le_units 60 r
  norm_num at h
  rw [h]
  constructor
  · rintro (hle | heq | heq)
    · exact Or.inl hle
    · exact Or.inl heq.le
    · exact Or.inr heq
  · rintro (hle | heq)
    · exact Or.inl hle
    · exact Or.inr (Or.inr heq)

private theorem behind_nonpos (r : ℚ) (hlo : 0 ≤ r) : behind r ≤ 0 ↔ r = 0 := by
  have h := behind_le_units 0 r
  norm_num at h
  rw [h]
  constructor
  · rintro (hle | heq | heq) <;> linarith
  · exact fun heq => Or.inr (Or.inr heq)

theorem clock_mem_iff (t : ℚ) : 0 ≤ clock t ∧ clock t ≤ 86400 ↔ TimeInRange t := by
  have hlower : (0 : ℤ) * 3600 ≤ clock t ↔ _ :=
    le_reweigh_iff (by norm_num) (by norm_num) behind_mem (by norm_num) (by norm_num)
      (fun r _ _ => hour_le_behind r) 0 t
  have hupper : clock t ≤ (24 : ℤ) * 3600 ↔ _ :=
    reweigh_le_iff (by norm_num) (by norm_num) behind_mem (by norm_num) (by norm_num)
      (by norm_num) (fun r _ _ => behind_le_hour r) (fun r hlo _ => behind_nonpos r hlo) 24 t
  norm_num at hlower hupper
  rw [TimeInRange, hlower, hupper]

private theorem minutes_mem (r : ℚ) (hlo : 0 ≤ r) (hhi : r < 100) :
    0 ≤ r / 60 ∧ r / 60 < 2 * 1 :=
  ⟨by linarith, by linarith⟩

theorem degrees_mem_iff (limit : ℤ) (g : ℚ) :
    -limit ≤ degrees g ∧ degrees g ≤ limit ↔ AngleInRange limit g := by
  have hlower : ((-limit : ℤ) : ℚ) * 1 ≤ degrees g ↔ ((-limit : ℤ) - 1 : ℚ) * 100 + 60 ≤ g :=
    le_reweigh_iff (by norm_num) (by norm_num) minutes_mem (by norm_num) (by norm_num)
      (fun r _ _ => ⟨fun h => by linarith, fun h => by linarith⟩) (-limit) g
  have hupper : degrees g ≤ limit * 1 ↔
      g ≤ (limit - 1) * 100 + 60 ∨ g = (limit - 1) * 100 + 60 ∨ g = limit * 100 :=
    reweigh_le_iff (by norm_num) (by norm_num) minutes_mem (by norm_num) (by norm_num)
      (by norm_num)
      (fun r _ _ => ⟨fun h => Or.inl (by linarith), fun h => by rcases h with h | h <;> linarith⟩)
      (fun r _ _ => ⟨fun h => by linarith, fun h => by linarith⟩) limit g
  push_cast at hlower
  rw [mul_one] at hlower hupper
  rw [AngleInRange, hlower, hupper]
  refine and_congr ⟨fun h => by linarith, fun h => by linarith⟩ ⟨?_, ?_⟩
  · rintro (hle | heq | heq)
    · exact Or.inl (by linarith)
    · exact Or.inl (by linarith)
    · exact Or.inr (by linarith)
  · rintro (hle | heq)
    · exact Or.inl (by linarith)
    · exact Or.inr (Or.inr (by linarith))

/-- Both bounds, which nothing that is not a number meets. -/
def Within (lo hi : ℚ) (x : Double) : Prop := ∃ v, x = some v ∧ lo ≤ v ∧ v ≤ hi

theorem not_within_none (lo hi : ℚ) : ¬ Within lo hi none := by
  rintro ⟨v, hv, -⟩
  cases hv

theorem within_time_iff (x : Double) :
    Within 0 86400 (nmeaTimeToSeconds x) ↔ ∃ t, x = some t ∧ TimeInRange t := by
  cases x with
  | none => exact iff_of_false (not_within_none _ _) (by simp)
  | some t =>
      simp only [Within, nmeaTimeToSeconds_eq, Option.some.injEq, exists_eq_left', clock_mem_iff]

theorem within_angle_iff (limit : ℤ) (x : Double) (hemi : Char) :
    Within (-limit) limit (nmeaGeoToDecimal x hemi) ↔ ∃ g, x = some g ∧ AngleInRange limit g := by
  cases x with
  | none => exact iff_of_false (not_within_none _ _) (by simp)
  | some g =>
      simp only [Within, nmeaGeoToDecimal_eq, Option.some.injEq, exists_eq_left',
        ← degrees_mem_iff]
      -- the sign turns the range into itself
      split
      · constructor
        · rintro ⟨hlo, hhi⟩
          exact ⟨by linarith, by linarith⟩
        · rintro ⟨hlo, hhi⟩
          exact ⟨by linarith, by linarith⟩
      · rw [one_mul]

/-! ### Real fixes -/

/-- The enumerator after `LON_HEMI`. -/
def FIX_QUALITY : Nat := 6

variable (goby : NMEA)

/-- There is a fix, and what the sentence says of it can be read. -/
structure RealFix (nmea : NMEASentence) : Prop where
  quality : ∃ q, nmea.as goby.asDouble FIX_QUALITY = .ok (some q) ∧ q ≠ 0
  utc : ∃ t, nmea.as goby.asDouble UTC = .ok (some t)
  lat : ∃ g, nmea.as goby.asDouble LAT = .ok (some g)
  latHemi : nmea.as goby.asChar LAT_HEMI = .ok 'N' ∨ nmea.as goby.asChar LAT_HEMI = .ok 'S'
  lon : ∃ g, nmea.as goby.asDouble LON = .ok (some g)
  lonHemi : nmea.as goby.asChar LON_HEMI = .ok 'E' ∨ nmea.as goby.asChar LON_HEMI = .ok 'W'

/-- A position that is one, of a day and on the earth. -/
structure InRange (gps : GPSPosition) : Prop where
  time : Within 0 86400 gps.time
  latitude : Within (-90) 90 gps.latitude
  longitude : Within (-180) 180 gps.longitude

/-- Whatever is published for the line stands in a real fix and is in range. -/
def AcceptsRealFixes (line : Text) : Prop :=
  ∀ gps ∈ (parseLine goby line).published, ∃ nmea, goby.construct line = .ok nmea ∧
    nmea.sentenceId = "GGA".toList ∧ RealFix goby nmea ∧ InRange gps

/-- A real fix, with numbers that are decoded into the range. -/
structure RealFixInRange (nmea : NMEASentence) : Prop extends RealFix goby nmea where
  utcMem : ∀ t, nmea.as goby.asDouble UTC = .ok (some t) → TimeInRange t
  latMem : ∀ g, nmea.as goby.asDouble LAT = .ok (some g) → AngleInRange 90 g
  lonMem : ∀ g, nmea.as goby.asDouble LON = .ok (some g) → AngleInRange 180 g

/-! ### Which lines are accepted rightly -/

variable {goby} {nmea : NMEASentence}

theorem inRange_iff {gps : GPSPosition} (hsix : 6 ≤ nmea.fields.length)
    (hgps : position goby nmea = .ok gps) :
    InRange gps ↔
      (∃ t, nmea.as goby.asDouble UTC = .ok (some t) ∧ TimeInRange t) ∧
        (∃ g, nmea.as goby.asDouble LAT = .ok (some g) ∧ AngleInRange 90 g) ∧
        ∃ g, nmea.as goby.asDouble LON = .ok (some g) ∧ AngleInRange 180 g := by
  rw [position_of_six goby hsix] at hgps
  obtain rfl := Except.ok.inj hgps
  have hutc := nmea.as_of_lt goby.asDouble (show UTC < nmea.fields.length by unfold UTC; omega)
  have hlat := nmea.as_of_lt goby.asDouble (show LAT < nmea.fields.length by unfold LAT; omega)
  have hlon := nmea.as_of_lt goby.asDouble (show LON < nmea.fields.length by unfold LON; omega)
  have htime := within_time_iff (goby.asDouble nmea.fields[1])
  have hlatitude :=
    within_angle_iff 90 (goby.asDouble nmea.fields[2]) (goby.asChar nmea.fields[3])
  have hlongitude :=
    within_angle_iff 180 (goby.asDouble nmea.fields[4]) (goby.asChar nmea.fields[5])
  simp only [hutc, hlat, hlon, Except.ok.injEq]
  constructor
  · intro h
    exact ⟨htime.mp h.time, hlatitude.mp h.latitude, hlongitude.mp h.longitude⟩
  · rintro ⟨ht, hg, hg'⟩
    exact ⟨htime.mpr ht, hlatitude.mpr hg, hlongitude.mpr hg'⟩

/-- On one sentence: what is asked of the outcome is what is asked of the fields. -/
theorem realFix_inRange_iff {gps : GPSPosition} (hsix : 6 ≤ nmea.fields.length)
    (hgps : position goby nmea = .ok gps) :
    RealFix goby nmea ∧ InRange gps ↔ RealFixInRange goby nmea := by
  rw [inRange_iff hsix hgps]
  constructor
  · rintro ⟨hfix, ⟨t, ht, htmem⟩, ⟨g, hg, hgmem⟩, ⟨g', hg', hgmem'⟩⟩
    refine ⟨hfix, fun u hu => ?_, fun u hu => ?_, fun u hu => ?_⟩
    · rw [ht] at hu
      cases hu
      exact htmem
    · rw [hg] at hu
      cases hu
      exact hgmem
    · rw [hg'] at hu
      cases hu
      exact hgmem'
  · intro h
    obtain ⟨t, ht⟩ := h.utc
    obtain ⟨g, hg⟩ := h.lat
    obtain ⟨g', hg'⟩ := h.lon
    exact ⟨h.toRealFix, ⟨t, ht, h.utcMem t ht⟩, ⟨g, hg, h.latMem g hg⟩, ⟨g', hg', h.lonMem g' hg'⟩⟩

variable (goby)

/--
**Only a real fix is published for a line if and only if the sentence the
constructor makes of it, if it is a `GGA` sentence with the six fields that are
accessed, is one whose fix is real and whose numbers are in range.**
-/
theorem acceptsRealFixes_iff (line : Text) :
    AcceptsRealFixes goby line ↔ ∀ nmea, goby.construct line = .ok nmea →
      nmea.sentenceId = "GGA".toList → 6 ≤ nmea.fields.length → RealFixInRange goby nmea := by
  constructor
  · intro haccepts nmea hmake hid hsix
    have hgps := position_of_six goby hsix
    obtain ⟨nmea', hmake', -, hfix, hrange⟩ :=
      haccepts _ (mem_published_iff.mpr ⟨nmea, hmake, hid, hsix, hgps⟩)
    obtain rfl := Except.ok.inj (hmake.symm.trans hmake')
    exact (realFix_inRange_iff hsix hgps).mp ⟨hfix, hrange⟩
  · intro hreal gps hpublished
    obtain ⟨nmea, hmake, hid, hsix, hgps⟩ := mem_published_iff.mp hpublished
    have h := (realFix_inRange_iff hsix hgps).mpr (hreal nmea hmake hid hsix)
    exact ⟨nmea, hmake, hid, h.1, h.2⟩

/-- A receiver without a fix, which still says where it was last. -/
def noFixLine : Text := "$GPGGA,123519,4807.5,N,01115.0,W,0,08,0.9,545.4,M,46.9,M,,*5C".toList

/-- A sentence that says there is no fix. -/
def noFixSentence : NMEASentence where
  fields := splitCommas "$GPGGA,123519,4807.5,N,01115.0,W,0,08,0.9,545.4,M,46.9,M,,".toList
  sentenceId := "GGA".toList

theorem not_acceptsRealFixes_noFix : ¬ AcceptsRealFixes reading noFixLine := by
  intro haccepts
  have hmake : reading.construct noFixLine = .ok noFixSentence := by decide
  have hzero : noFixSentence.as reading.asDouble FIX_QUALITY = .ok (some 0) := by decide +kernel
  have hsix : 6 ≤ noFixSentence.fields.length := by decide
  obtain ⟨nmea, hmake', -, hfix, -⟩ :=
    haccepts _ (mem_published_iff.mpr ⟨_, hmake, rfl, hsix, position_of_six reading hsix⟩)
  obtain rfl := Except.ok.inj (hmake.symm.trans hmake')
  obtain ⟨q, hq, hne⟩ := hfix.quality
  rw [hzero] at hq
  cases hq
  exact hne rfl

end Gps
