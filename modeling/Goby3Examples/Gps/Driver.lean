/-
The parsing thread of the GPS driver, `gps_driver.cpp`.

Arithmetic is exact.  A `double` is a rational number, or `none` where it is not
a number; an infinity comes out of both conversions as the latter.

`goby::util::NMEASentence` is not part of the repository and is an argument: its
constructor, and the conversions of a field that `as` applies after its bounds
check.  A line is the list of its characters.
-/
import Mathlib.Data.Rat.Floor

namespace Gps

/-- What a `std::string` holds. -/
abbrev Text := List Char

/-- A `double`; `none` is not a number. -/
abbrev Double := Option ℚ

/-- What `parse_line` can come across. -/
inductive Exception
  | badNmeaSentence (what : Text)
  | outOfRange
  deriving DecidableEq, Repr

/-- `goby::util::NMEASentence`: a vector of fields, the first of which holds the sentence id. -/
structure NMEASentence where
  fields : List Text
  sentenceId : Text
  deriving DecidableEq, Repr

/-- What is taken from Goby: the constructor, or what its exception says, and `as` on a field. -/
structure NMEA where
  construct : Text → Except Text NMEASentence
  asDouble : Text → Double
  asChar : Text → Char

/-- `as<T>(i)`: the field is accessed with a bounds check. -/
def NMEASentence.as {α : Type} (nmea : NMEASentence) (convert : Text → α) (i : Nat) :
    Except Exception α :=
  match nmea.fields[i]? with
  | some field => .ok (convert field)
  | none => .error .outOfRange

/-- `protobuf::GPSPosition` -/
structure GPSPosition where
  time : Double
  latitude : Double
  longitude : Double
  deriving DecidableEq, Repr

/-! ### The conversions -/

/-- `nmea_time_to_seconds`: from `HHMMSS.SSSS`. -/
def nmeaTimeToSeconds (nmeaTime : Double) : Double :=
  nmeaTime.map fun t =>
    let hours : ℚ := ⌊t / 10000⌋
    let t := t - hours * 10000
    let minutes : ℚ := ⌊t / 100⌋
    let t := t - minutes * 100
    let seconds := t
    hours * 3600 + minutes * 60 + seconds

/-- `nmea_geo_to_decimal`: from `DDDMM.MMMM` and the hemisphere. -/
def nmeaGeoToDecimal (nmeaGeo : Double) (hemi : Char) : Double :=
  nmeaGeo.map fun geo =>
    let degInt : ℚ := ⌊geo / 100⌋
    let degFrac := (geo - degInt * 100) / 60
    let sign : ℚ := if hemi = 'S' ∨ hemi = 'W' then -1 else 1
    sign * (degInt + degFrac)

/-! ### The fields of a `GGA` sentence -/

/-- The field with the time. -/
def UTC : Nat := 1
/-- The field with the latitude. -/
def LAT : Nat := 2
/-- The field that says north or south. -/
def LAT_HEMI : Nat := 3
/-- The field with the longitude. -/
def LON : Nat := 4
/-- The field that says east or west. -/
def LON_HEMI : Nat := 5

/-- The fields that are accessed. -/
def accessed : List Nat := [UTC, LAT, LAT_HEMI, LON, LON_HEMI]

variable (goby : NMEA)

/-- The position `parse_line` fills in. -/
def position (nmea : NMEASentence) : Except Exception GPSPosition := do
  let utc ← nmea.as goby.asDouble UTC
  let lat ← nmea.as goby.asDouble LAT
  let latHemi ← nmea.as goby.asChar LAT_HEMI
  let lon ← nmea.as goby.asDouble LON
  let lonHemi ← nmea.as goby.asChar LON_HEMI
  return { time := nmeaTimeToSeconds utc
           latitude := nmeaGeoToDecimal lat latHemi
           longitude := nmeaGeoToDecimal lon lonHemi }

/-- The `try` block: what it publishes, which is the last thing it does, or what it throws. -/
def tryBlock (line : Text) : Except Exception (List GPSPosition) :=
  match goby.construct line with
  | .error what => .error (.badNmeaSentence what)
  | .ok nmea =>
    if nmea.sentenceId = "GGA".toList then (position goby nmea).map fun gps => [gps] else .ok []

/-- What `parse_line` publishes, and the exception it lets through. -/
structure Outcome where
  published : List GPSPosition
  escaped : Option Exception
  deriving DecidableEq, Repr

/-- `parse_line`: a bad sentence is caught, and nothing else is. -/
def parseLine (line : Text) : Outcome :=
  match tryBlock goby line with
  | .ok published => { published, escaped := none }
  | .error (.badNmeaSentence _) => { published := [], escaped := none }
  | .error e => { published := [], escaped := some e }

end Gps
