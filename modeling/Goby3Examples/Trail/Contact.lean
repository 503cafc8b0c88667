/-
The contact the helms follow, `trail_moos_plugin.cpp`.

An AUV's helm knows of the USV by one string in the MOOS database, which the
gateway's plugin puts together from a report and `BHV_Trail` takes apart again.
Nothing in that string ties it to the report but its text, and nothing in the
plugin asks whose report it is: that it is the USV's follows from what the AUV's
manager lets through to it.

A number is written as a stream writes it with 15 significant digits.  What a link
leaves of a report has far fewer than that, so what is read off the string is the
report's number itself; only the time, which counts seconds from 1970, may be
rounded once more.
-/
import Goby3Examples.Lib.Delimited
import Goby3Examples.Lib.Significant
import Goby3Examples.Trail.Conversion
import Goby3Examples.Trail.Journey

namespace Trail

open Delimited Runs Significant

/-- `NavigationReport::VehicleClass_Name` -/
def VehicleClass.name : VehicleClass → String
  | .auv => "AUV"
  | .usv => "USV"
  | .other => "OTHER"

section Report

variable (clock : SystemClock)

/-- `std::setprecision(std::numeric_limits<double>::digits10)` -/
def digits10 : ℕ := 15

/-- `post_node_report`: the string that is notified as `NODE_REPORT`. -/
def postNodeReport (nav : NavigationReport) : List Char :=
  "NAME=".toList ++ (vehicleName nav).toList ++ ",".toList ++
    "TYPE=".toList ++ nav.type.name.toList ++ ",".toList ++
    "TIME=".toList ++ print digits10 (clock.warp nav.time) ++ ",".toList ++
    "X=".toList ++ print digits10 nav.x ++ ",".toList ++
    "Y=".toList ++ print digits10 nav.y ++ ",".toList ++
    "DEPTH=".toList ++ print digits10 (-nav.z) ++ ",".toList ++
    "HDG=".toList ++ print digits10 nav.heading ++ ",".toList ++
    "SPD=".toList ++ print digits10 nav.speedOverGround

/-- What is said in the string, field by field. -/
def contactFields (nav : NavigationReport) : List (List Char × List Char) :=
  [("NAME".toList, (vehicleName nav).toList), ("TYPE".toList, nav.type.name.toList),
    ("TIME".toList, print digits10 (clock.warp nav.time)), ("X".toList, print digits10 nav.x),
    ("Y".toList, print digits10 nav.y), ("DEPTH".toList, print digits10 (-nav.z)),
    ("HDG".toList, print digits10 nav.heading), ("SPD".toList, print digits10 nav.speedOverGround)]

/-- A node report taken apart: at the commas, and each field at its first equals sign. -/
def readNodeReport (report : List Char) : List (List Char × List Char) :=
  (report.splitOn ',').map (cut '=')

theorem postNodeReport_eq (nav : NavigationReport) :
    postNodeReport clock nav =
      [','].intercalate ((contactFields clock nav).map fun f => f.1 ++ '=' :: f.2) := by
  unfold postNodeReport contactFields
  simp [List.intercalate, List.intersperse]

theorem comma_notMem_toString (i : Int) : ',' ∉ (toString i).toList := by
  have hdigits : ∀ k : Nat, ',' ∉ (toString k).toList := by
    intro k hmem
    have hlist : (toString k).toList = Nat.toDigits 10 k := Nat.toList_repr
    rw [hlist] at hmem
    exact absurd (Nat.isDigit_of_mem_toDigits (by decide) (by decide) hmem) (by decide)
  cases i with
  | ofNat k => exact hdigits k
  | negSucc k =>
      intro hmem
      have hlist : (toString (Int.negSucc k)).toList = '-' :: (toString (k + 1)).toList := by
        show ("-" ++ toString (k + 1)).toList = _
        rw [String.toList_append]
        rfl
      rw [hlist, List.mem_cons] at hmem
      rcases hmem with h | h
      · exact absurd h (by decide)
      · exact hdigits (k + 1) h

theorem comma_notMem_vehicleName (nav : NavigationReport) : ',' ∉ (vehicleName nav).toList := by
  unfold vehicleName
  cases nav.type with
  | usv => exact (by decide : ',' ∉ "usv".toList)
  | auv =>
      rw [String.toList_append, List.mem_append, not_or]
      exact ⟨by decide, comma_notMem_toString _⟩
  | other =>
      rw [String.toList_append, List.mem_append, not_or]
      exact ⟨by decide, comma_notMem_toString _⟩

theorem comma_notMem_print (q : ℚ) : ',' ∉ print digits10 q := by
  intro hmem
  rcases mem_print hmem with hdigit | hother
  · exact absurd hdigit (by decide)
  · exact absurd hother (by decide)

/-- **A node report says what the report says**, whatever its numbers are. -/
theorem readNodeReport_postNodeReport (nav : NavigationReport) :
    readNodeReport (postNodeReport clock nav) = contactFields clock nav := by
  have htype : ',' ∉ nav.type.name.toList := by
    cases nav.type <;> decide
  have hname := comma_notMem_vehicleName nav
  have hkeys : ∀ k ∈ (contactFields clock nav).map Prod.fst, '=' ∉ k ∧ ',' ∉ k := by
    show ∀ k ∈ ["NAME".toList, "TYPE".toList, "TIME".toList, "X".toList, "Y".toList,
      "DEPTH".toList, "HDG".toList, "SPD".toList], '=' ∉ k ∧ ',' ∉ k
    decide
  have hvalues : ∀ v ∈ (contactFields clock nav).map Prod.snd, ',' ∉ v := by
    simp [contactFields, hname, htype, comma_notMem_print]
  have hcomma : ∀ l ∈ (contactFields clock nav).map fun f => f.1 ++ '=' :: f.2,
      ',' ∉ l := by
    intro l hl
    obtain ⟨f, hf, rfl⟩ := List.mem_map.mp hl
    have hkey := (hkeys f.1 (List.mem_map_of_mem hf)).2
    have hvalue := hvalues f.2 (List.mem_map_of_mem hf)
    simp [hkey, hvalue]
  have hne : (contactFields clock nav).map (fun f => f.1 ++ '=' :: f.2) ≠ [] := by
    simp [contactFields]
  rw [readNodeReport, postNodeReport_eq, List.splitOn_intercalate _ hcomma hne, List.map_map]
  refine (List.map_congr_left fun f hf => ?_).trans (List.map_id _)
  exact cut_append '=' (hkeys f.1 (List.mem_map_of_mem hf)).1 f.2

end Report

/-! ### The numbers in it -/

/-- A number that a link has rounded is written out in full, whatever its sign. -/
theorem readNumber_print_round (bound : ℚ) {f : NumericField} {k : ℕ} (hk : f.precision = k)
    (hmin : -bound ≤ f.min) (hmax : f.max ≤ bound) (hbound : bound < 10 ^ ((digits10 : ℤ) - k))
    {value : ℚ} (hfits : f.Encodable value) :
    readNumber (print digits10 (f.round value)) = f.round value ∧
      readNumber (print digits10 (-f.round value)) = -f.round value := by
  obtain ⟨j, hj⟩ := NumericField.exists_round_mul_eq hk value
  have hlt : |f.round value| < 10 ^ ((digits10 : ℤ) - k) := by
    refine lt_of_le_of_lt (abs_le.mpr ⟨?_, ?_⟩) hbound
    · exact hmin.trans hfits.1
    · exact hfits.2.trans hmax
  have hneg : -f.round value * 10 ^ k = ((-j : ℤ) : ℚ) := by
    rw [neg_mul, hj, Int.cast_neg]
  refine ⟨readNumber_print_exact (by decide) hj hlt, ?_⟩
  exact readNumber_print_exact (by decide) hneg ((abs_neg _).trans_lt hlt)

/-- The values of the numeric fields, as they stand in the string. -/
structure Readings where
  time : List Char
  x : List Char
  y : List Char
  depth : List Char
  heading : List Char
  speed : List Char

/-- The numbers that are read off are those of the status, to the digits that the links keep. -/
structure Readings.Tell (r : Readings) (geodesy : UTMGeodesy) (clock : SystemClock)
    (s : NodeStatus) : Prop where
  /-- The time is one within a second of the status's, of which 15 digits are written. -/
  time : ∃ t, |clock.unwarp t - clock.unwarp s.time| ≤ 1 ∧
    |readNumber r.time - t| ≤ |t| / (2 * 10 ^ 14)
  x : |readNumber r.x - (geodesy.toXY (s.globalFix.lat, s.globalFix.lon)).1| ≤ 1 / 20
  y : |readNumber r.y - (geodesy.toXY (s.globalFix.lat, s.globalFix.lon)).2| ≤ 1 / 20
  depth : |readNumber r.depth - s.globalFix.depth| ≤ 1 / 2
  headingRange : 0 ≤ readNumber r.heading ∧ readNumber r.heading ≤ 359
  headingTurns : ∃ k : ℤ, |readNumber r.heading - s.heading - 360 * k| ≤ 1 / 2
  speed : |readNumber r.speed - s.speedOverGround| ≤ 1 / 20

/-- What is written of a report. -/
def readings (clock : SystemClock) (nav : NavigationReport) : Readings where
  time := print digits10 (clock.warp nav.time)
  x := print digits10 nav.x
  y := print digits10 nav.y
  depth := print digits10 (-nav.z)
  heading := print digits10 nav.heading
  speed := print digits10 nav.speedOverGround

/-- What is written of a report that a link has rounded tells its status. -/
theorem readings_tell {codec : NavCodec} (hcodec : codec.Lawful) {geodesy : UTMGeodesy}
    {clock : SystemClock} (hclock : clock.Lawful) {s : NodeStatus} {v : Int}
    (hfits : (toDccl geodesy clock s v).Encodable) :
    (readings clock ((toDccl geodesy clock s v).rounded codec.time2)).Tell geodesy clock s := by
  have htold := hcodec.told hfits
  have hposition : ∀ q, NumericField.position.Encodable q →
      readNumber (print digits10 (NumericField.position.round q)) =
        NumericField.position.round q := fun q hq =>
    (readNumber_print_round 10000 (k := 1) rfl (by norm_num [NumericField.position])
      (by norm_num [NumericField.position]) (by norm_num [digits10]) hq).1
  have hz := readNumber_print_round 6000 (f := .z) (k := 0) rfl
    (by norm_num [NumericField.z]) (by norm_num [NumericField.z])
    (by norm_num [digits10]) hfits.z
  have hheading := readNumber_print_round 359 (f := .heading) (k := 0) rfl
    (by norm_num [NumericField.heading]) (by norm_num [NumericField.heading])
    (by norm_num [digits10]) hfits.heading
  have hspeed := readNumber_print_round 5 (f := .speedOverGround) (k := 1) rfl
    (by norm_num [NumericField.speedOverGround]) (by norm_num [NumericField.speedOverGround])
    (by norm_num [digits10]) hfits.speedOverGround
  refine
    { time := ⟨clock.warp (codec.time2 (clock.unwarp s.time)), ?_, ?_⟩
      x := ?_
      y := ?_
      depth := ?_
      headingRange := ?_
      headingTurns := ?_
      speed := ?_ }
  · rw [hclock.unwarp_warp]
    exact htold.time
  · rw [abs_sub_comm]
    exact abs_sub_readNumber_print (p := digits10) (by decide) _
  · exact (hposition _ hfits.x).symm ▸ htold.x
  · exact (hposition _ hfits.y).symm ▸ htold.y
  · exact hz.2.symm ▸ htold.depth
  · exact hheading.1.symm ▸ htold.headingRange
  · exact hheading.1.symm ▸ htold.headingTurns
  · exact hspeed.1.symm ▸ htold.speedOverGround

/-! ### What the helms hear of -/

/-- `contact`, in `auv.bhv.in`. -/
def contact : List Char := "usv".toList

namespace Fleet

variable {n : Nat} (port : Int) (geodesy : UTMGeodesy) (clock : SystemClock)
  (carry : NavigationReport → Option NavigationReport)

/-- What a manager publishes for the helm becomes a node report in the gateway. -/
def nodeReports (outs : List Output) : List (List Char) :=
  outs.filterMap fun
    | .usvNav nav => some (postNodeReport clock nav)
    | _ => none

/-- Every string that has been notified on a vehicle. -/
def notified (m : Member n) (es : List (Event n)) : List (List Char) :=
  es.flatMap fun
    | .status m' s =>
      if m' = m then nodeReports clock ((m'.setup port).manager.onNodeStatus geodesy clock s)
      else []
    | .deliver m' sub p =>
      if m' = m then (carry p.report).elim [] fun nav => nodeReports clock (sub.handler nav)
      else []

/-- The string is what the USV had to say of itself, once: its name and its class are the USV's,
and if what it said was within bounds, so are the numbers. -/
def FromUSV (es : List (Event n)) (report : List Char) : Prop :=
  ∃ s, .status (.usv : Member n) s ∈ es ∧ ∃ r : Readings,
    readNodeReport report =
      [("NAME".toList, contact), ("TYPE".toList, "USV".toList), ("TIME".toList, r.time),
        ("X".toList, r.x), ("Y".toList, r.y), ("DEPTH".toList, r.depth),
        ("HDG".toList, r.heading), ("SPD".toList, r.speed)] ∧
    ((toDccl geodesy clock s usvId).Encodable → r.Tell geodesy clock s)

variable {port geodesy clock carry} {es : List (Event n)} {w : Fleet n} {codec : NavCodec}

theorem FromUSV.mono {report : List Char} (h : FromUSV geodesy clock es report)
    {es' : List (Event n)} (hsub : es ⊆ es') : FromUSV geodesy clock es' report := by
  obtain ⟨s, hs, hrest⟩ := h
  exact ⟨s, hsub hs, hrest⟩

/-- A vehicle's own status is nothing to its helm's contacts. -/
theorem nodeReports_onNodeStatus (m : Member n) (s : NodeStatus) :
    nodeReports clock ((m.setup port).manager.onNodeStatus geodesy clock s) = [] := by
  cases m <;> rfl

/-- What a manager passes on to its helm is the USV's own. -/
theorem nodeReports_fromUSV (hclock : clock.Lawful) (hcodec : codec.Lawful) {o : Member n}
    {outs : List Output} (hspeaks : ∀ out ∈ outs, Speaks port geodesy clock codec.carry es o out) :
    ∀ report ∈ nodeReports clock outs, FromUSV geodesy clock es report := by
  intro report hreport
  obtain ⟨out, hout, hpost⟩ := List.mem_filterMap.mp hreport
  cases out with
  | intervehicle nav => cases hpost
  | nodeStatus status => cases hpost
  | usvNav nav =>
      obtain rfl := Option.some.inj hpost
      obtain ⟨rfl, nav₀, htraced, hcarry⟩ := hspeaks _ hout
      obtain ⟨g, hg, hmarked⟩ := (htraced.carried hcarry).marked hcodec.type
      obtain rfl : usvNav = g := Option.some.inj hg
      have htype : nav.type = .usv := hmarked
      obtain ⟨_, ⟨g, s, hg', hs, rfl⟩, hcarried⟩ := htraced
      obtain rfl : usvNav = g := Option.some.inj hg'
      refine ⟨s, hs, readings clock nav, ?_, fun hfits => ?_⟩
      · rw [readNodeReport_postNodeReport]
        unfold contactFields vehicleName
        rw [htype]
        rfl
      · rw [hcodec.eq_rounded (NavigationReport.Encodable.published hfits usvNav) hcarried hcarry]
        -- the class is not among what is read off as a number
        exact readings_tell hcodec hclock hfits

/-- The name the helms follow is the USV's and nobody else's. -/
theorem platform_eq_contact_iff (m : Member n) :
    (m.setup port).platform.toList = contact ↔ m = .usv := by
  constructor
  · intro h
    refine platform_injective port ?_
    exact String.toList_inj.mp h
  · rintro rfl
    rfl

theorem notified_fromUSV (hclock : clock.Lawful) (hcodec : codec.Lawful)
    (h : Run (linked port geodesy clock codec.carry n) es w) (m : Member n) :
    ∀ report ∈ notified port geodesy clock codec.carry m es, FromUSV geodesy clock es report := by
  refine h.invariant (I := fun es _ =>
    ∀ report ∈ notified port geodesy clock codec.carry m es,
      FromUSV geodesy clock es report) ?_ ?_
  · intro w _ report hreport
    exact absurd hreport List.not_mem_nil
  · intro es w e w' hrun hall hstep report hreport
    have hgrow : es ⊆ es ++ [e] := List.subset_append_left _ _
    rw [notified, List.flatMap_append, List.mem_append] at hreport
    rcases hreport with hold | hnew
    · exact (hall report hold).mono hgrow
    rw [List.flatMap_singleton] at hnew
    cases e with
    | status m' s =>
        simp only [nodeReports_onNodeStatus, ite_self, List.not_mem_nil] at hnew
    | deliver m' sub p =>
        obtain ⟨hp, -, nav, hcarry, hsub, hacc, -⟩ := hstep
        by_cases hm : m' = m
        · simp only [hm, if_true, hcarry, Option.elim_some] at hnew
          have htraced := (attributed hcodec.type hrun).air p hp
          have hspeaks : ∀ out ∈ sub.handler nav,
              Speaks port geodesy clock codec.carry es p.origin out := fun out hout =>
            handler_speaks hcodec.type htraced hcarry hsub hacc hout
          exact (nodeReports_fromUSV hclock hcodec hspeaks report hnew).mono hgrow
        · simp only [hm, if_false, List.not_mem_nil] at hnew

/-- Whatever the USV's status is, what a link leaves of it can come to every AUV's helm. -/
theorem usv_reaches_helm (hclass : ∀ nav nav', carry nav = some nav' → nav'.type = nav.type)
    (h : Run (linked port geodesy clock carry n) es w) (i : Fin n) (s : NodeStatus)
    {nav : NavigationReport}
    (hcarry : carry (navPublisher (toDccl geodesy clock s usvId) usvNav) = some nav) :
    ∃ e w', Run (linked port geodesy clock carry n) (es ++ [.status .usv s] ++ [e]) w' ∧
      postNodeReport clock nav ∈
        notified port geodesy clock carry (.auv i) (es ++ [.status .usv s] ++ [e]) := by
  let usv := (Member.usv : Member n).setup port
  have hpublish := run_status h (m := .usv) rfl s
  have hacomms : usv.acommsLink ∈ usv.gobyd.links := List.mem_cons_of_mem _ List.mem_cons_self
  have hp := mem_air_emit w .usv .usv (navPublisher (toDccl geodesy clock s usvId) usvNav) hacomms
  let sub : Subscription :=
    { group := usvNav
      handler := fun nav => [.usvNav nav]
      subscriber :=
        navSubscriber
          { publisherId := [acommsModemId usvId], broadcast := true, buffer := newestOnly } }
  have hsub : sub ∈ ((Member.auv i).setup port).manager.subscriptions geodesy clock :=
    List.mem_singleton.mpr rfl
  have hmarked : Marked usvNav nav := (hclass _ _ hcarry).trans (marked_navPublisher _ usvNav)
  have hacc : sub.Accepts usv.acommsLink.modemId nav :=
    ⟨List.mem_singleton.mpr rfl, hmarked.group_eq (o := (.usv : Member n)) rfl _⟩
  have hdeliver := run_deliver hpublish hp
    ⟨((Member.auv i).setup port).acommsLink, List.mem_cons_self, rfl⟩ hcarry hsub hacc
  refine ⟨_, _, hdeliver, ?_⟩
  rw [notified, List.flatMap_append, List.mem_append]
  refine Or.inr ?_
  simp only [List.flatMap_singleton, if_true, hcarry, Option.elim_some]
  exact List.mem_singleton.mpr rfl

/-- The USV some way north of the origin, with its heading a revolution too far. -/
def usvStatus : NodeStatus :=
  { name := "usv", time := 100, type := .usvPowered
    globalFix := { lat := 41 + 1 / 1000, lon := -70, depth := 0 }
    localFix := { x := 0, y := 0, z := 0 }
    heading := 450 + 1 / 4, speedOverGround := 2 }

theorem usvStatus_encodable : (toDccl flatEarth fiveTimes usvStatus usvId).Encodable := by
  refine ⟨by decide +kernel, by decide +kernel, by decide +kernel, by decide +kernel,
    by decide +kernel, ?_⟩
  exact NumericField.heading_encodable_turns (r := 90 + 1 / 4) (by norm_num) (by norm_num) (k := 1)
    (by norm_num [usvStatus])

theorem rounded_usvStatus :
    (navPublisher (toDccl flatEarth fiveTimes usvStatus usvId) usvNav).rounded strictCodec.time2 =
      { vehicle := 1, time := 20, x := 0, y := 1111 / 10, z := 0, speedOverGround := 2
        heading := 90, type := .usv } := by
  have hself : Revolution.intoPeriod revolution_pos usvStatus.heading = 90 + 1 / 4 :=
    intoPeriod_unique (by norm_num) (by norm_num) (k := 1) (by norm_num [usvStatus])
  unfold NavigationReport.rounded navPublisher toDccl
  rw [hself]
  decide +kernel

end Fleet

end Trail
