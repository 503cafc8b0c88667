/-
What the topside's map shows, and what can come to be shown.

A status becomes a report, travels one link or two, and becomes a status again.
The map is true if what is on it is what a vehicle said of itself, to the digits
that the links keep, under that vehicle's name, and it is of use if whatever a
vehicle says can get there.  Both go as far as `nav.proto` goes: of a report with a
number out of its bounds nothing is said but whose it was.

The type is an exception: it is the publisher's hook that sets a report's class,
so the map has the kind of vehicle that it is in this mission, not the type that
the vehicle said it was of.
-/
import Goby3Examples.Trail.Conversion
import Goby3Examples.Trail.Journey

namespace Trail

open Runs

variable {n : Nat} {port : Int} {geodesy : UTMGeodesy} {clock : SystemClock} {codec : NavCodec}

/-- The kind of vehicle, as the map has it. -/
def Member.shownType : Member n → VehicleType
  | .topside => .other
  | .usv => .usv
  | .auv _ => .auv

variable (port geodesy clock) in
/-- What the vehicle makes of its status fits the fields of `nav.proto`. -/
def Member.CanSend (m : Member n) (s : NodeStatus) : Prop :=
  (toDccl geodesy clock s (m.setup port).vehicleId).Encodable

variable (port geodesy clock) in
/-- What is shown of a vehicle when this is what it said. -/
structure ShownAs (m : Member n) (s r : NodeStatus) : Prop where
  name : r.name = (m.setup port).platform
  type : r.type = m.shownType
  /-- In seconds of real time. -/
  time : |clock.unwarp r.time - clock.unwarp s.time| ≤ 1
  x : |r.localFix.x - (geodesy.toXY (s.globalFix.lat, s.globalFix.lon)).1| ≤ 1 / 20
  y : |r.localFix.y - (geodesy.toXY (s.globalFix.lat, s.globalFix.lon)).2| ≤ 1 / 20
  depth : |r.globalFix.depth - s.globalFix.depth| ≤ 1 / 2
  speedOverGround : |r.speedOverGround - s.speedOverGround| ≤ 1 / 20
  headingRange : 0 ≤ r.heading ∧ r.heading ≤ 359
  headingTurns : ∃ k : ℤ, |r.heading - s.heading - 360 * k| ≤ 1 / 2
  /-- The two fixes shown are one place. -/
  latLon : (r.globalFix.lat, r.globalFix.lon) = geodesy.toLatLon (r.localFix.x, r.localFix.y)
  z : r.localFix.z = -r.globalFix.depth

/-- A report that is told right is shown right. -/
theorem shownAs_toNodeStatus (hclock : clock.Lawful) {m : Member n} {s : NodeStatus}
    {nav : NavigationReport} (hname : vehicleName nav = (m.setup port).platform)
    (htype : nav.type.toType = m.shownType) (htold : NavCodec.Told geodesy clock s nav) :
    ShownAs port geodesy clock m s (toNodeStatus geodesy clock nav) := by
  refine
    { name := hname
      type := htype
      time := ?_
      x := htold.x
      y := htold.y
      depth := htold.depth
      speedOverGround := htold.speedOverGround
      headingRange := htold.headingRange
      headingTurns := htold.headingTurns
      latLon := rfl
      z := (neg_neg nav.z).symm }
  show |clock.unwarp (clock.warp nav.time) - clock.unwarp s.time| ≤ 1
  rw [hclock.unwarp_warp]
  exact htold.time

/-- The report of a status, published on the vehicle's group and rounded, is shown so. -/
theorem shownAs_published (hclock : clock.Lawful) (hcodec : codec.Lawful) {m : Member n}
    {g : Group} (hg : m.navGroup = some g) {s : NodeStatus}
    (hfits : m.CanSend port geodesy clock s) :
    ShownAs port geodesy clock m s (toNodeStatus geodesy clock
      ((navPublisher (toDccl geodesy clock s (m.setup port).vehicleId) g).rounded
        codec.time2)) := by
  have hname := @vehicleName_published n port geodesy clock m g hg s
  refine shownAs_toNodeStatus hclock hname ?_ ?_
  · rcases Member.navGroup_eq hg with ⟨rfl, rfl⟩ | ⟨⟨i, rfl⟩, rfl⟩ <;> rfl
  · obtain ⟨htime, hx, hy, hdepth, hspeed, hrange, hwhole, hturns⟩ := hcodec.told hfits
    exact ⟨htime, hx, hy, hdepth, hspeed, hrange, hwhole, hturns⟩

/-- The glider a mile or so from the origin. -/
def nearGlider : NodeStatus :=
  { gliderStatus with globalFix := { lat := 41 + 1 / 100, lon := -70 + 1 / 70, depth := 30 } }

namespace Fleet

variable {es : List (Event n)} {w : Fleet n}

variable (port geodesy clock codec) in
/-- What is on the map is true, and what is true can come to be on it. -/
structure TrueMap (es : List (Event n)) (w : Fleet n) : Prop where
  shown : ∀ e ∈ w.shown, ∃ s, .status e.1 s ∈ es ∧
    (e.1.CanSend port geodesy clock s → ShownAs port geodesy clock e.1 s e.2)
  shows : ∀ m : Member n, m ≠ .topside → ∀ s, m.CanSend port geodesy clock s →
    ∃ es' w' r, Run (linked port geodesy clock codec.carry n) (es ++ .status m s :: es') w' ∧
      (m, r) ∈ w'.shown ∧ ShownAs port geodesy clock m s r

end Fleet

end Trail
