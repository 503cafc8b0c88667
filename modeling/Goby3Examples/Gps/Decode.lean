/-
What the two decoders make of a field that is written properly.

Both decoders take a decimal number apart at a multiple of a hundred and give the
parts the weights of hours, minutes and seconds, or of degrees and minutes.  They
are `Digits.reweigh`, the clock time twice over, so what was written is what is
read.
-/
import Mathlib.Tactic.NormNum
import Goby3Examples.Lib.Digits
import Goby3Examples.Lib.Numeral
import Goby3Examples.Gps.ParseLine

namespace Gps

open Digits

/-- What `HHMMSS.SSSS` says, minutes and seconds first. -/
def clock (x : ℚ) : ℚ := reweigh 10000 3600 (reweigh 100 60 id) x

/-- What `DDDMM.MMMM` says. -/
def degrees (x : ℚ) : ℚ := reweigh 100 1 (· / 60) x

theorem nmeaTimeToSeconds_eq (x : ℚ) : nmeaTimeToSeconds (some x) = some (clock x) := by
  simp only [nmeaTimeToSeconds, clock, reweigh, rest, whole, Option.map_some, id, add_assoc]

theorem nmeaGeoToDecimal_eq (x : ℚ) (hemi : Char) :
    nmeaGeoToDecimal (some x) hemi =
      some ((if hemi = 'S' ∨ hemi = 'W' then -1 else 1) * degrees x) := by
  simp only [nmeaGeoToDecimal, degrees, reweigh, rest, whole, Option.map_some, mul_one]

/-! ### Fields that are written properly -/

/-- A time as a clock shows it. -/
structure TimeOfDay where
  hours : ℤ
  minutes : ℤ
  seconds : ℚ
  hours_mem : 0 ≤ hours ∧ hours < 24
  minutes_mem : 0 ≤ minutes ∧ minutes < 60
  seconds_mem : 0 ≤ seconds ∧ seconds < 60

namespace TimeOfDay

variable (t : TimeOfDay)

/-- `HHMMSS.S` -/
def nmea : ℚ := 10000 * t.hours + 100 * t.minutes + t.seconds

/-- Since midnight. -/
def toSeconds : ℚ := 3600 * t.hours + 60 * t.minutes + t.seconds

/-- What stands behind the hours. -/
def behindHours : ℚ := t.minutes * 100 + t.seconds

theorem hours_cast : (0 : ℚ) ≤ t.hours ∧ (t.hours : ℚ) + 1 ≤ 24 :=
  ⟨by exact_mod_cast t.hours_mem.1, by exact_mod_cast t.hours_mem.2⟩

theorem minutes_cast : (0 : ℚ) ≤ t.minutes ∧ (t.minutes : ℚ) + 1 ≤ 60 :=
  ⟨by exact_mod_cast t.minutes_mem.1, by exact_mod_cast t.minutes_mem.2⟩

theorem behindHours_mem : 0 ≤ t.behindHours ∧ t.behindHours < 10000 := by
  obtain ⟨hlo, hhi⟩ := t.minutes_cast
  obtain ⟨hslo, hshi⟩ := t.seconds_mem
  unfold behindHours
  exact ⟨by linarith, by linarith⟩

theorem minutes_read : reweigh 100 60 id t.behindHours = t.minutes * 60 + t.seconds :=
  reweigh_mul_add (by norm_num) t.minutes t.seconds_mem.1 (by linarith [t.seconds_mem.2]) 60 id

theorem nmea_eq : t.nmea = t.hours * 10000 + t.behindHours := by
  unfold nmea behindHours
  ring

theorem clock_nmea : clock t.nmea = t.toSeconds := by
  rw [clock, nmea_eq, reweigh_mul_add (by norm_num) t.hours t.behindHours_mem.1 t.behindHours_mem.2,
    minutes_read, toSeconds]
  ring

theorem toSeconds_mem : 0 ≤ t.toSeconds ∧ t.toSeconds < 86400 := by
  obtain ⟨hlo, hhi⟩ := t.hours_cast
  obtain ⟨hmlo, hmhi⟩ := t.minutes_cast
  obtain ⟨hslo, hshi⟩ := t.seconds_mem
  unfold toSeconds
  exact ⟨by linarith, by linarith⟩

/-- On times of day the larger number is the later time. -/
theorem toSeconds_lt {t t' : TimeOfDay} (h : t.nmea < t'.nmea) : t.toSeconds < t'.toSeconds := by
  have hten : (0 : ℚ) < 10000 := by norm_num
  have hhundred : (0 : ℚ) < 100 := by norm_num
  have hrest : ∀ u : TimeOfDay, rest 10000 u.nmea = u.behindHours := fun u =>
    u.nmea_eq ▸ rest_mul_add hten u.hours u.behindHours_mem.1 u.behindHours_mem.2
  have hseconds : ∀ u : TimeOfDay, rest 100 u.behindHours = u.seconds := fun u =>
    rest_mul_add hhundred u.minutes u.seconds_mem.1 (by linarith [u.seconds_mem.2])
  rw [← clock_nmea, ← clock_nmea]
  refine reweigh_lt hten (by norm_num) h ?_ ?_ ?_
  · rw [hrest, minutes_read]
    linarith [t.minutes_cast.2, t.seconds_mem.2]
  · rw [hrest, minutes_read]
    linarith [t'.minutes_cast.1, t'.seconds_mem.1]
  · rw [hrest, hrest]
    intro hlt
    refine reweigh_lt hhundred (by norm_num) hlt ?_ ?_ ?_
    · rw [hseconds]
      exact t.seconds_mem.2
    · rw [hseconds]
      exact t'.seconds_mem.1
    · exact id

end TimeOfDay

/-- `DDDMM.MMMM`, without the sign. -/
def angleNmea (a : ℚ) : ℚ := 100 * ⌊|a|⌋ + 60 * (|a| - ⌊|a|⌋)

/-- The letter for the sign of an angle; for zero either will do. -/
def Hemisphere (positive negative : Char) (a : ℚ) (hemi : Char) : Prop :=
  hemi = positive ∧ 0 ≤ a ∨ hemi = negative ∧ a ≤ 0

theorem degrees_angleNmea (a : ℚ) : degrees (angleNmea a) = |a| := by
  have hlo := Int.floor_le |a|
  have hhi := Int.lt_floor_add_one |a|
  have hread := reweigh_mul_add (b := (100 : ℚ)) (by norm_num) ⌊|a|⌋
    (r := 60 * (|a| - ⌊|a|⌋)) (by linarith) (by linarith) 1 (· / 60)
  rw [degrees, angleNmea, mul_comm 100, hread]
  ring

theorem nmeaGeoToDecimal_angleNmea {positive negative hemi : Char} {a : ℚ}
    (hpos : ¬ (positive = 'S' ∨ positive = 'W')) (hneg : negative = 'S' ∨ negative = 'W')
    (h : Hemisphere positive negative a hemi) :
    nmeaGeoToDecimal (some (angleNmea a)) hemi = some a := by
  rw [nmeaGeoToDecimal_eq, degrees_angleNmea]
  rcases h with ⟨rfl, hsign⟩ | ⟨rfl, hsign⟩
  · rw [if_neg hpos, abs_of_nonneg hsign, one_mul]
  · rw [if_pos hneg, abs_of_nonpos hsign, neg_one_mul, neg_neg]

/-! ### A sentence with such fields -/

variable (goby : NMEA)

/-- The fields of the sentence are read as this time and these angles. -/
structure Carries (nmea : NMEASentence) (time : TimeOfDay) (latitude longitude : ℚ) : Prop where
  utc : nmea.as goby.asDouble UTC = .ok (some time.nmea)
  lat : nmea.as goby.asDouble LAT = .ok (some (angleNmea latitude))
  latHemi : ∃ hemi, nmea.as goby.asChar LAT_HEMI = .ok hemi ∧ Hemisphere 'N' 'S' latitude hemi
  lon : nmea.as goby.asDouble LON = .ok (some (angleNmea longitude))
  lonHemi : ∃ hemi, nmea.as goby.asChar LON_HEMI = .ok hemi ∧ Hemisphere 'E' 'W' longitude hemi

theorem latitude_read {a : ℚ} {hemi : Char} (h : Hemisphere 'N' 'S' a hemi) :
    nmeaGeoToDecimal (some (angleNmea a)) hemi = some a :=
  nmeaGeoToDecimal_angleNmea (by decide) (by decide) h

theorem longitude_read {a : ℚ} {hemi : Char} (h : Hemisphere 'E' 'W' a hemi) :
    nmeaGeoToDecimal (some (angleNmea a)) hemi = some a :=
  nmeaGeoToDecimal_angleNmea (by decide) (by decide) h

theorem time_read (t : TimeOfDay) : nmeaTimeToSeconds (some t.nmea) = some t.toSeconds := by
  rw [nmeaTimeToSeconds_eq, t.clock_nmea]

theorem Carries.position_eq {goby : NMEA} {nmea : NMEASentence} {time : TimeOfDay}
    {latitude longitude : ℚ} (h : Carries goby nmea time latitude longitude) :
    position goby nmea =
      .ok
        { time := some time.toSeconds
          latitude := some latitude
          longitude := some longitude } := by
  obtain ⟨latHemi, hlatHemi, hlat⟩ := h.latHemi
  obtain ⟨lonHemi, hlonHemi, hlon⟩ := h.lonHemi
  rw [position, h.utc, h.lat, hlatHemi, h.lon, hlonHemi, ← time_read time, ← latitude_read hlat,
    ← longitude_read hlon]
  rfl

/-- What is written in a `GGA` sentence is what is published. -/
structure DecodesExactly : Prop where
  time : ∀ t : TimeOfDay, nmeaTimeToSeconds (some t.nmea) = some t.toSeconds
  latitude : ∀ a hemi, -90 ≤ a → a ≤ 90 → Hemisphere 'N' 'S' a hemi →
    nmeaGeoToDecimal (some (angleNmea a)) hemi = some a
  longitude : ∀ a hemi, -180 ≤ a → a ≤ 180 → Hemisphere 'E' 'W' a hemi →
    nmeaGeoToDecimal (some (angleNmea a)) hemi = some a
  sentence : ∀ line nmea t latitude longitude, goby.construct line = .ok nmea →
    nmea.sentenceId = "GGA".toList → Carries goby nmea t latitude longitude →
      parseLine goby line =
        { published :=
            [{ time := some t.toSeconds
               latitude := some latitude
               longitude := some longitude }]
          escaped := none }
  timeRange : ∀ t : TimeOfDay, 0 ≤ t.toSeconds ∧ t.toSeconds < 86400
  increasing : ∀ (t t' : TimeOfDay) (s s' : ℚ), t.nmea < t'.nmea →
    nmeaTimeToSeconds (some t.nmea) = some s → nmeaTimeToSeconds (some t'.nmea) = some s' → s < s'

/-- **Decoding is exact**, at every time of day and for every latitude and longitude. -/
theorem decodesExactly : DecodesExactly goby where
  time := time_read
  latitude := fun _ _ _ _ h => latitude_read h
  longitude := fun _ _ _ _ h => longitude_read h
  sentence := fun _ _ _ _ _ hmake hid h => parseLine_of_position hmake hid h.position_eq
  timeRange := TimeOfDay.toSeconds_mem
  increasing := by
    intro t t' s s' hlt hs hs'
    rw [time_read] at hs hs'
    obtain rfl := Option.some.inj hs
    obtain rfl := Option.some.inj hs'
    exact TimeOfDay.toSeconds_lt hlt

/-! ### A real sentence -/

/-- An unsigned decimal number, or not a number. -/
def decimal (field : Text) : Double :=
  let whole := field.takeWhile Char.isDigit
  match field.dropWhile Char.isDigit with
  | [] => if whole = [] then none else some (Numeral.value whole)
  | '.' :: fraction =>
    if fraction.all Char.isDigit ∧ whole ++ fraction ≠ [] then
      some (Numeral.value (whole ++ fraction) / 10 ^ fraction.length)
    else none
  | _ => none

/-- A constructor that validates, and conversions that read what is there. -/
def reading : NMEA := { validating with asDouble := decimal }

/-- A sentence with its checksum. -/
def ggaLine : Text := "$GPGGA,123519,4807.5,N,01115.0,W,1,08,0.9,545.4,M,46.9,M,,*5D".toList

/-- The time in it. -/
def ggaTime : TimeOfDay where
  hours := 12
  minutes := 35
  seconds := 19
  hours_mem := by decide
  minutes_mem := by decide
  seconds_mem := by norm_num

/-- What the constructor makes of it. -/
def ggaSentence : NMEASentence where
  fields := splitCommas "$GPGGA,123519,4807.5,N,01115.0,W,1,08,0.9,545.4,M,46.9,M,,".toList
  sentenceId := "GGA".toList

theorem carries_ggaSentence :
    Carries reading ggaSentence ggaTime (48 + 1 / 8) (-(11 + 1 / 4)) where
  utc := by decide +kernel
  lat := by decide +kernel
  latHemi := ⟨'N', by decide, Or.inl ⟨rfl, by norm_num⟩⟩
  lon := by decide +kernel
  lonHemi := ⟨'W', by decide, Or.inr ⟨rfl, by norm_num⟩⟩

theorem decodesExactly_ggaLine :
    parseLine reading ggaLine =
      { published :=
          [{ time := some ggaTime.toSeconds
             latitude := some (48 + 1 / 8)
             longitude := some (-(11 + 1 / 4)) }]
        escaped := none } :=
  (decodesExactly reading).sentence _ _ _ _ _ (by decide) rfl carries_ggaSentence

end Gps
