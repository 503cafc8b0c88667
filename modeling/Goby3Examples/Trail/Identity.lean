/-
Who a report is about, from a vehicle to the topside's map.

A report carries a number and a class.  The number is given by the script that
generates the configurations, the class is set by whoever publishes it, and the
name the topside shows is put together from both.  On links that change nothing
`Identified` ties them to the vehicle the report came from, in any run of the fleet.
-/
import Goby3Examples.Trail.Conversion
import Goby3Examples.Trail.Journey

namespace Trail

open Runs

namespace Fleet

variable {n : Nat} {port : Int} {geodesy : UTMGeodesy} {clock : SystemClock}
  {es : List (Event n)} {w : Fleet n}

variable (port geodesy clock) in
/-- Every report is known for what it is, at every hop and at the end. -/
structure Identified (es : List (Event n)) (w : Fleet n) : Prop where
  /-- A report on a link is, field by field, the one its vehicle published. -/
  unchanged : ∀ p ∈ w.air, Sourced port geodesy clock es p.origin p.report
  group : ∀ p ∈ w.air, ∀ cfg, p.origin.navGroup = some ((navSubscriber cfg).group p.report)
  heard : ∀ p ∈ w.air, ∀ i, p.origin = .auv i →
    ∃ sub ∈ ((Member.usv : Member n).setup port).manager.subscriptions geodesy clock,
      sub.Accepts (acommsModemId (2 + (i : Nat))) p.report
  relayed : ∀ p ∈ w.air, ∀ i, p.origin = .auv i →
    ∀ sub ∈ ((Member.usv : Member n).setup port).manager.subscriptions geodesy clock,
      sub.handler p.report = [.intervehicle p.report]
  republished : ∀ p ∈ w.air,
    ∃ sub ∈ ((Member.topside : Member n).setup port).manager.subscriptions geodesy clock,
      sub.Accepts (satelliteModemId usvId) p.report ∧
        sub.handler p.report = [.nodeStatus (toNodeStatus geodesy clock p.report)]
  named : ∀ e ∈ w.shown, e.2.name = (e.1.setup port).platform
  distinct : ∀ e ∈ w.shown, ∀ e' ∈ w.shown, e.2.name = e'.2.name → e.1 = e'.1

theorem attributed_unchanged (h : Run (system port geodesy clock n) es w) :
    w.Attributed port geodesy clock some es := by
  rw [system_eq_linked] at h
  exact attributed (fun _ _ hsame => by rw [Option.some.inj hsame]) h

/--
**After any run of a fleet of any size, every report is identified**: it is
attributed to its vehicle's group only, relayed unchanged, and shown under its
vehicle's platform name, which is no other vehicle's.
-/
theorem identified (h : Run (system port geodesy clock n) es w) :
    w.Identified port geodesy clock es := by
  have hatt := attributed_unchanged h
  have hsourced : ∀ p ∈ w.air, Sourced port geodesy clock es p.origin p.report :=
    fun p hp => (hatt.air p hp).sourced
  have hmarked : ∀ p ∈ w.air, ∀ i, p.origin = .auv i → Marked auvNav p.report := by
    intro p hp i hi
    obtain ⟨g, hg, hmarked⟩ := (hsourced p hp).marked
    rw [hi] at hg
    obtain rfl : auvNav = g := Option.some.inj hg
    exact hmarked
  have hnamed : ∀ e ∈ w.shown, e.2.name = (e.1.setup port).platform := by
    intro e he
    obtain ⟨nav, nav', htraced, hsame, heq⟩ := hatt.shown e he
    obtain rfl : nav = nav' := Option.some.inj hsame
    rw [heq]
    exact htraced.sourced.vehicleName_eq
  refine ⟨hsourced, ?_, ?_, ?_, ?_, hnamed, ?_⟩
  · intro p hp cfg
    obtain ⟨g, hg, hmarked⟩ := (hsourced p hp).marked
    rw [hmarked.group_eq hg]
    exact hg
  · intro p hp i hi
    exact usv_hears (hmarked p hp i hi) i
  · intro p hp i hi sub hsub
    exact usv_relays (hmarked p hp i hi) hsub
  · intro p hp
    obtain ⟨g, hg, hmarked⟩ := (hsourced p hp).marked
    exact topside_shows hmarked hg
  · intro e he e' he' heq
    refine platform_injective port ?_
    show (e.1.setup port).platform = (e'.1.setup port).platform
    rw [← hnamed e he, ← hnamed e' he', heq]

/-- A vehicle's report goes out with every status it is given, on each of its links. -/
theorem posted_unchanged (h : Run (system port geodesy clock n) es w) {m : Member n} {g : Group}
    (hg : m.navGroup = some g) {s : NodeStatus} (hs : .status m s ∈ es) {l : Link}
    (hl : l ∈ (m.setup port).gobyd.links) :
    ⟨l.multicastPort, l.modemId,
      navPublisher (toDccl geodesy clock s (m.setup port).vehicleId) g, m⟩ ∈ w.air := by
  rw [system_eq_linked] at h
  exact posted h hg hs hl

/-- Whatever a vehicle says of itself can come to be shown, and what was shown stays. -/
theorem unchanged_reaches (h : Run (system port geodesy clock n) es w) {m : Member n} {g : Group}
    (hg : m.navGroup = some g) (s : NodeStatus) :
    ∃ es' w', Run (system port geodesy clock n) (es ++ .status m s :: es') w' ∧
      w.shown ⊆ w'.shown ∧
      (m, toNodeStatus geodesy clock
        (navPublisher (toDccl geodesy clock s (m.setup port).vehicleId) g)) ∈ w'.shown := by
  rw [system_eq_linked] at h ⊢
  exact status_reaches (fun _ _ hsame => by rw [Option.some.inj hsame]) h hg s rfl rfl

/-- In a fleet of two the glider is shown as `auv0`, and the USV as `usv`. -/
theorem identified_glider :
    ∃ es w, Run (system 54500 flatEarth fiveTimes 2) es w ∧
      (∃ e ∈ w.shown, e.1 = Member.auv 0 ∧ e.2.name = "auv0") ∧
      ∃ e ∈ w.shown, e.1 = Member.usv ∧ e.2.name = "usv" := by
  have hstart : Run (system 54500 flatEarth fiveTimes 2) [] ⟨[], []⟩ := Run.start rfl
  obtain ⟨es, w, hglider, -, hshown⟩ := unchanged_reaches hstart (m := .auv 0) rfl gliderStatus
  obtain ⟨es', w', hrun, hstays, husv⟩ := unchanged_reaches hglider (m := .usv) rfl gliderStatus
  have hnamed := (identified hrun).named
  exact ⟨_, w', hrun, ⟨_, hstays hshown, rfl, hnamed _ (hstays hshown)⟩,
    _, husv, rfl, hnamed _ husv⟩

end Fleet

end Trail
