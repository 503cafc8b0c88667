/-
The report that crosses the links of the trail mission, `nav.proto` and `trail.h`.

Arithmetic is exact.  A quantity is a rational number in the unit its field has
in the report, so the conversions between units, and those between the clocks'
time points and microseconds, leave no trace here.  What the simulation does to
time and what geodesy does to positions are arguments.
-/
import Mathlib.Data.Rat.Floor
import Goby3Examples.Lib.Revolution
import Goby3Examples.Lib.Rounding

namespace Trail

/-! ### nav.proto -/

/-- `NavigationReport::VehicleClass` -/
inductive VehicleClass
  | auv
  | usv
  | other
  deriving DecidableEq, Repr

/-- `goby3_examples::trail::NavigationReport` -/
structure NavigationReport where
  vehicle : Int
  time : ℚ
  x : ℚ
  y : ℚ
  z : ℚ
  speedOverGround : ℚ
  heading : ℚ
  type : VehicleClass
  deriving DecidableEq, Repr

/-- The `(dccl.field)` options of a numeric field. -/
structure NumericField where
  min : ℚ
  max : ℚ
  /-- Decimal digits that are kept. -/
  precision : Int := 0

namespace NumericField

/-- The options of `vehicle`. -/
def vehicle : NumericField := { min := 1, max := 128 }

/-- The options of `x`, and those of `y`. -/
def position : NumericField := { min := -10000, max := 10000, precision := 1 }

/-- The options of `z`. -/
def z : NumericField := { min := -6000, max := 0, precision := 0 }

/-- The options of `speed_over_ground`. -/
def speedOverGround : NumericField := { min := 0, max := 5, precision := 1 }

/-- The options of `heading`. -/
def heading : NumericField := { min := 0, max := 359, precision := 0 }

/-- A value as the field keeps it. -/
def round (f : NumericField) (value : ℚ) : ℚ := Rounding.toMultiple (10 ^ (-f.precision)) value

/-- DCCL takes a value whose rounded value is in range. -/
def Encodable (f : NumericField) (value : ℚ) : Prop :=
  f.min ≤ f.round value ∧ f.round value ≤ f.max

end NumericField

/-! ### Groups and the hooks that name them -/

/-- `goby::middleware::Group`: the number is what travels. -/
structure Group where
  name : String
  numeric : Nat
  deriving DecidableEq, Repr

/-- The group of the USV's reports. -/
def usvNav : Group := { name := "trail::usv_nav", numeric := 1 }

/-- The group of the AUVs' reports. -/
def auvNav : Group := { name := "trail::auv_nav", numeric := 2 }

/-- `usv_vehicle_id` -/
def usvVehicleId : Int := 1

/-- `first_auv_vehicle_id` -/
def firstAuvVehicleId : Int := 2

/-- The name that a report is shown under. -/
def vehicleName (nav : NavigationReport) : String :=
  match nav.type with
  | .usv => "usv"
  | .auv => "auv" ++ toString (nav.vehicle - firstAuvVehicleId)
  | .other => "vehicle" ++ toString nav.vehicle

/-- What `nav_publisher` does to a report published on a group. -/
def navPublisher (nav : NavigationReport) (group : Group) : NavigationReport :=
  { nav with type := if group = usvNav then .usv else .auv }

/-- How reports wait for a link, the `buffer` of a subscription. -/
structure Buffer where
  ackRequired : Bool
  maxQueue : Nat
  newestFirst : Bool
  deriving DecidableEq, Repr

/-- `intervehicle::protobuf::TransporterConfig`: whose reports are asked for, and how. -/
structure TransporterConfig where
  publisherId : List Int
  broadcast : Bool := false
  buffer : Buffer
  deriving DecidableEq, Repr

/-- `goby::middleware::Subscriber`: the configuration, and the group a report belongs to. -/
structure Subscriber where
  cfg : TransporterConfig
  group : NavigationReport → Group

/-- `nav_subscriber`: the group of a report is read off its type. -/
def navSubscriber (intervehicleCfg : TransporterConfig) : Subscriber where
  cfg := intervehicleCfg
  group := fun nav => if nav.type = .usv then usvNav else auvNav

/-! ### To the report and back -/

/-- `frontseat::protobuf::VehicleType`, the values that are told apart. -/
inductive VehicleType
  | auv
  | glider
  | usv
  | usvPowered
  | usvSailing
  | other
  | unlisted (value : Int)
  deriving DecidableEq, Repr

/-- A position on the earth, in degrees, and the depth below it. -/
structure GlobalFix where
  lat : ℚ
  lon : ℚ
  depth : ℚ
  deriving DecidableEq, Repr

/-- A position in the mission's own coordinates. -/
structure LocalFix where
  x : ℚ
  y : ℚ
  z : ℚ
  deriving DecidableEq, Repr

/-- `frontseat::protobuf::NodeStatus`, the fields that are read or set here. -/
structure NodeStatus where
  name : String
  time : ℚ
  type : VehicleType
  globalFix : GlobalFix
  localFix : LocalFix
  heading : ℚ
  speedOverGround : ℚ
  deriving DecidableEq, Repr

/-- `goby::util::UTMGeodesy`, its two `convert`s: latitude and longitude to `x` and `y`, and
back. -/
structure UTMGeodesy where
  toXY : ℚ × ℚ → ℚ × ℚ
  toLatLon : ℚ × ℚ → ℚ × ℚ

/-- The two conversions are inverse to each other. -/
structure UTMGeodesy.Lawful (geodesy : UTMGeodesy) : Prop where
  toXY_toLatLon : ∀ xy, geodesy.toXY (geodesy.toLatLon xy) = xy
  toLatLon_toXY : ∀ latLon, geodesy.toLatLon (geodesy.toXY latLon) = latLon

/-- `goby::time::SystemClock`, its two conversions between real and simulated time. -/
structure SystemClock where
  warp : ℚ → ℚ
  unwarp : ℚ → ℚ

/-- They are inverse to each other. -/
structure SystemClock.Lawful (clock : SystemClock) : Prop where
  warp_unwarp : ∀ t, clock.warp (clock.unwarp t) = t
  unwarp_warp : ∀ t, clock.unwarp (clock.warp t) = t

/-- `revolution`, in degrees. -/
def revolution : ℚ := 360

theorem revolution_pos : 0 < revolution := by norm_num [revolution]

section Heading

open Revolution

theorem intoPeriod_range (h : ℚ) :
    0 ≤ intoPeriod revolution_pos h ∧ intoPeriod revolution_pos h < 360 :=
  intoPeriod_mem revolution_pos h

theorem intoPeriod_turns (h : ℚ) : ∃ k : ℤ, h = intoPeriod revolution_pos h + 360 * k := by
  obtain ⟨k, hk⟩ := exists_eq_add_zsmul revolution_pos h
  refine ⟨k, hk.trans ?_⟩
  rw [zsmul_eq_mul, mul_comm]
  rfl

theorem intoPeriod_unique {h r : ℚ} (hlo : 0 ≤ r) (hhi : r < 360) {k : ℤ}
    (hk : h = r + 360 * k) : intoPeriod revolution_pos h = r := by
  refine intoPeriod_eq_of_eq_add revolution_pos ⟨hlo, hhi⟩ (k := k) (hk.trans ?_)
  rw [zsmul_eq_mul, mul_comm]
  rfl

end Heading

/-- The `switch` on the status's type. -/
def VehicleType.toClass : VehicleType → VehicleClass
  | .auv => .auv
  | .glider => .auv
  | .usv => .usv
  | .usvPowered => .usv
  | .usvSailing => .usv
  | _ => .other

/-- The `switch` on the report's type. -/
def VehicleClass.toType : VehicleClass → VehicleType
  | .auv => .auv
  | .usv => .usv
  | .other => .other

variable (geodesy : UTMGeodesy) (clock : SystemClock)

/-- `to_dccl`: the report of a status. -/
def toDccl (status : NodeStatus) (vehicle : Int) : NavigationReport :=
  let xy := geodesy.toXY (status.globalFix.lat, status.globalFix.lon)
  { vehicle
    time := clock.unwarp status.time
    type := status.type.toClass
    x := xy.1
    y := xy.2
    z := -status.globalFix.depth
    speedOverGround := status.speedOverGround
    heading := Revolution.intoPeriod revolution_pos status.heading }

/-- `to_node_status`: the status of a report. -/
def toNodeStatus (nav : NavigationReport) : NodeStatus :=
  let latLon := geodesy.toLatLon (nav.x, nav.y)
  { name := vehicleName nav
    time := clock.warp nav.time
    type := nav.type.toType
    globalFix := { lat := latLon.1, lon := latLon.2, depth := -nav.z }
    localFix := { x := nav.x, y := nav.y, z := nav.z }
    heading := nav.heading
    speedOverGround := nav.speedOverGround }

@[simp] theorem VehicleClass.toClass_toType (c : VehicleClass) : c.toType.toClass = c := by
  cases c <;> rfl

end Trail
