/-
The two conversions of a report undo each other.

A report keeps less than a status does: of the vehicle's type its class, of the
heading the part within one revolution, and nothing of the local fix, which it
recomputes.  So going through a status and back loses nothing, and going through
a report and back loses exactly that, once.
-/
import Goby3Examples.Trail.Nav

namespace Trail

open Revolution

variable (geodesy : UTMGeodesy) (clock : SystemClock)

/-- What a status that has been through a report has of the status it was before. -/
structure Carried (s r : NodeStatus) : Prop where
  time : r.time = s.time
  globalFix : r.globalFix = s.globalFix
  speedOverGround : r.speedOverGround = s.speedOverGround
  headingRange : 0 ≤ r.heading ∧ r.heading < 360
  headingTurns : ∃ k : ℤ, s.heading = r.heading + 360 * k
  type : r.type =
    if s.type ∈ [.auv, .glider] then .auv
    else if s.type ∈ [.usv, .usvPowered, .usvSailing] then .usv
    else .other
  localFix : r.localFix =
    { x := (geodesy.toXY (r.globalFix.lat, r.globalFix.lon)).1
      y := (geodesy.toXY (r.globalFix.lat, r.globalFix.lon)).2
      z := -r.globalFix.depth }

variable {geodesy clock}

/-- **A report survives being a status.** -/
theorem toDccl_toNodeStatus (hgeo : geodesy.Lawful) (hclock : clock.Lawful)
    {nav : NavigationReport} (hlo : 0 ≤ nav.heading) (hhi : nav.heading < 360) :
    toDccl geodesy clock (toNodeStatus geodesy clock nav) nav.vehicle = nav := by
  have hxy := hgeo.toXY_toLatLon (nav.x, nav.y)
  have hheading : intoPeriod revolution_pos nav.heading = nav.heading :=
    intoPeriod_of_mem revolution_pos ⟨hlo, hhi⟩
  cases nav
  simp_all [toDccl, toNodeStatus, hclock.unwarp_warp]

theorem VehicleType.toType_toClass (t : VehicleType) :
    t.toClass.toType =
      if t ∈ [.auv, .glider] then .auv
      else if t ∈ [.usv, .usvPowered, .usvSailing] then .usv
      else .other := by
  cases t <;> rfl

/-- **A status that has been a report has all that a report carries.** -/
theorem carried_toNodeStatus_toDccl (hgeo : geodesy.Lawful) (hclock : clock.Lawful)
    (s : NodeStatus) (v : Int) :
    Carried geodesy s (toNodeStatus geodesy clock (toDccl geodesy clock s v)) := by
  have hlatLon := hgeo.toLatLon_toXY (s.globalFix.lat, s.globalFix.lon)
  have hfix : (toNodeStatus geodesy clock (toDccl geodesy clock s v)).globalFix = s.globalFix := by
    simp [toNodeStatus, toDccl, hlatLon]
  refine ⟨?_, hfix, rfl, ?_, ?_, ?_, ?_⟩
  · exact hclock.warp_unwarp s.time
  · exact intoPeriod_range s.heading
  · exact intoPeriod_turns s.heading
  · exact s.type.toType_toClass
  · rw [hfix]
    simp [toNodeStatus, toDccl]

/-- The second pass changes nothing: what the first one made is a report's status already. -/
theorem toNodeStatus_toDccl_idem (hgeo : geodesy.Lawful) (hclock : clock.Lawful)
    (s : NodeStatus) (v : Int) :
    toNodeStatus geodesy clock
        (toDccl geodesy clock (toNodeStatus geodesy clock (toDccl geodesy clock s v)) v) =
      toNodeStatus geodesy clock (toDccl geodesy clock s v) := by
  have hrange := (carried_toNodeStatus_toDccl hgeo hclock s v).headingRange
  have hback : toDccl geodesy clock (toNodeStatus geodesy clock (toDccl geodesy clock s v)) v =
      toDccl geodesy clock s v := toDccl_toNodeStatus hgeo hclock hrange.1 hrange.2
  rw [hback]

/--
**`to_dccl` and `to_node_status` are inverse up to what the report carries**:
a report with its heading in range comes back as it was, and a status comes back
with everything a report carries, and unchanged from then on.
-/
theorem conversions_inverse (hgeo : geodesy.Lawful) (hclock : clock.Lawful) :
    (∀ nav : NavigationReport, 0 ≤ nav.heading → nav.heading < 360 →
      toDccl geodesy clock (toNodeStatus geodesy clock nav) nav.vehicle = nav) ∧
    ∀ (s : NodeStatus) (v : Int),
      Carried geodesy s (toNodeStatus geodesy clock (toDccl geodesy clock s v)) ∧
      toNodeStatus geodesy clock
          (toDccl geodesy clock (toNodeStatus geodesy clock (toDccl geodesy clock s v)) v) =
        toNodeStatus geodesy clock (toDccl geodesy clock s v) := by
  refine ⟨?_, ?_⟩
  · intro nav hlo hhi
    exact toDccl_toNodeStatus hgeo hclock hlo hhi
  · intro s v
    exact ⟨carried_toNodeStatus_toDccl hgeo hclock s v, toNodeStatus_toDccl_idem hgeo hclock s v⟩

/-- A flat earth around the mission's origin. -/
def flatEarth : UTMGeodesy where
  toXY := fun p => ((p.2 + 70) * 111120, (p.1 - 41) * 111120)
  toLatLon := fun p => (p.2 / 111120 + 41, p.1 / 111120 - 70)

theorem flatEarth_lawful : flatEarth.Lawful := by
  refine ⟨?_, ?_⟩
  · rintro ⟨x, y⟩
    simp [flatEarth]
  · rintro ⟨lat, lon⟩
    simp [flatEarth]

/-- A simulation five times as fast as the real clock. -/
def fiveTimes : SystemClock where
  warp := fun t => 5 * t
  unwarp := fun t => t / 5

theorem fiveTimes_lawful : fiveTimes.Lawful := by
  refine ⟨?_, ?_⟩
  · intro t
    simp only [fiveTimes]
    ring
  · intro t
    simp only [fiveTimes]
    ring

/-- The status of a glider, 30 m down and with its heading a revolution too far. -/
def gliderStatus : NodeStatus :=
  { name := "auv0", time := 100, type := .glider
    globalFix := { lat := 42, lon := -71, depth := 30 }
    localFix := { x := 0, y := 0, z := 0 }
    heading := 450, speedOverGround := 1 }

theorem conversions_inverse_glider :
    Carried flatEarth gliderStatus
      (toNodeStatus flatEarth fiveTimes (toDccl flatEarth fiveTimes gliderStatus 2)) :=
  ((conversions_inverse flatEarth_lawful fiveTimes_lawful).2 gliderStatus 2).1

end Trail
