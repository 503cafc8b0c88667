/-
The way of a report through the fleet, from a vehicle's status to the topside's map.

The world keeps everything that has been sent on a link, so a report may be
delivered late, twice or never.  With it goes the vehicle it came from, which
nobody on the links can see.

There are two systems.  `system` is the fleet on links that hand a report over as it
was sent.  `linked` is the fleet on links that leave of a report what their codec
`carry` leaves of it, or nothing.  Everything is proved of the second one, of which the
first is the case `some`: `system_eq_linked`.  What the proofs ask of a codec is that it
keeps the class of a report, which is all that a subscription looks at.
-/
import Goby3Examples.Lib.Runs
import Goby3Examples.Trail.Fleet
import Goby3Examples.Trail.Link
import Goby3Examples.Trail.Managers

namespace Trail

open Relation Runs

variable {n : Nat}

/-! ### The fleet at work -/

/-- A report on a link, the link being told by its port, and the vehicle it is about. -/
structure Posting (n : Nat) where
  port : Int
  sender : Int
  report : NavigationReport
  origin : Member n

/-- What has come of the fleet's reports. -/
structure Fleet (n : Nat) where
  /-- Everything sent on a link so far. -/
  air : List (Posting n)
  /-- Every status the topside has republished, with the vehicle it is about. -/
  shown : List (Member n × NodeStatus)

/-- A vehicle's status comes to its manager, or a report on a link to a subscription. -/
inductive Event (n : Nat)
  | status (m : Member n) (s : NodeStatus)
  | deliver (m : Member n) (sub : Subscription) (p : Posting n)

/-- What `m` sends when it publishes: the report on each of its links, under its modem id there. -/
def postings (port : Int) (m origin : Member n) (outs : List Output) : List (Posting n) :=
  outs.flatMap fun
    | .intervehicle nav => (m.setup port).gobyd.links.map fun l =>
        { port := l.multicastPort, sender := l.modemId, report := nav, origin }
    | _ => []

/-- The statuses among what is published, with the vehicle they are about. -/
def statuses (origin : Member n) (outs : List Output) : List (Member n × NodeStatus) :=
  outs.filterMap fun
    | .nodeStatus status => some (origin, status)
    | _ => none

namespace Fleet

variable (port : Int) (geodesy : UTMGeodesy) (clock : SystemClock)
  (carry : NavigationReport → Option NavigationReport)

/-- The fleet after `m` has published this. -/
def emit (w : Fleet n) (m origin : Member n) (outs : List Output) : Fleet n where
  air := w.air ++ postings port m origin outs
  shown := w.shown ++ statuses origin outs

/-- One step of the fleet on links that deliver the fields of a report unchanged.  Goby posts a
report to a subscription that accepts it, at any time and any number of times. -/
def Step (w : Fleet n) (e : Event n) (w' : Fleet n) : Prop :=
  match e with
  | .status m s => w' = w.emit port m m ((m.setup port).manager.onNodeStatus geodesy clock s)
  | .deliver m sub p =>
    p ∈ w.air ∧ (∃ l ∈ (m.setup port).gobyd.links, l.multicastPort = p.port) ∧
      sub ∈ (m.setup port).manager.subscriptions geodesy clock ∧ sub.Accepts p.sender p.report ∧
      w' = w.emit port m p.origin (sub.handler p.report)

/-- The fleet, nothing having been sent yet. -/
def system (n : Nat) : System (Fleet n) (Event n) where
  init := fun w => w = ⟨[], []⟩
  step := Step port geodesy clock

/-- The same on links that hand over what `carry` leaves of a report. -/
def LinkedStep (w : Fleet n) (e : Event n) (w' : Fleet n) : Prop :=
  match e with
  | .status m s => w' = w.emit port m m ((m.setup port).manager.onNodeStatus geodesy clock s)
  | .deliver m sub p =>
    p ∈ w.air ∧ (∃ l ∈ (m.setup port).gobyd.links, l.multicastPort = p.port) ∧
      ∃ nav, carry p.report = some nav ∧
        sub ∈ (m.setup port).manager.subscriptions geodesy clock ∧ sub.Accepts p.sender nav ∧
        w' = w.emit port m p.origin (sub.handler nav)

/-- The fleet on such links. -/
def linked (n : Nat) : System (Fleet n) (Event n) where
  init := fun w => w = ⟨[], []⟩
  step := LinkedStep port geodesy clock carry

theorem system_eq_linked : system port geodesy clock n = linked port geodesy clock some n := by
  unfold system linked
  congr 1
  funext w e w'
  cases e with
  | status m s => rfl
  | deliver m sub p => simp only [Step, LinkedStep, Option.some.injEq, exists_eq_left']

end Fleet

/-! ### Names -/

theorem repr_injective {i j : Nat} (h : i.repr = j.repr) : i = j := by
  have hdigits : Nat.toDigits 10 i = Nat.toDigits 10 j := by
    rw [← Nat.toList_repr, h, Nat.toList_repr]
  rw [← Nat.ofDigitChars_ten_toDigits (n := i), hdigits, Nat.ofDigitChars_ten_toDigits]

theorem auvName_injective {i j : Nat}
    (h : "auv" ++ toString (i : Int) = "auv" ++ toString (j : Int)) : i = j := by
  have hlist := congrArg String.toList h
  rw [String.toList_append, String.toList_append] at hlist
  exact repr_injective (String.toList_inj.mp (List.append_cancel_left hlist))

/-- What does not begin with an `a` is not an AUV's name. -/
theorem auvName_ne {s : String} (h : s.toList.head? ≠ some 'a') (i : Int) :
    "auv" ++ toString i ≠ s := by
  rintro rfl
  rw [String.toList_append] at h
  exact h rfl

theorem platform_injective (port : Int) :
    Function.Injective fun m : Member n => (m.setup port).platform := by
  intro a b hab
  have htopside : ∀ i : Int, "auv" ++ toString i ≠ "topside" := auvName_ne (by decide)
  have husv : ∀ i : Int, "auv" ++ toString i ≠ "usv" := auvName_ne (by decide)
  have hother : "topside" ≠ "usv" := by decide
  cases a with
  | topside =>
      cases b with
      | topside => rfl
      | usv => exact absurd hab hother
      | auv j => exact absurd hab.symm (htopside j)
  | usv =>
      cases b with
      | topside => exact absurd hab.symm hother
      | usv => rfl
      | auv j => exact absurd hab.symm (husv j)
  | auv i =>
      cases b with
      | topside => exact absurd hab (htopside i)
      | usv => exact absurd hab (husv i)
      | auv j => exact congrArg Member.auv (Fin.ext (auvName_injective hab))

/-! ### A report and the vehicle it came from -/

/-- The group a vehicle publishes its own reports on. -/
def Member.navGroup : Member n → Option Group
  | .topside => none
  | .usv => some usvNav
  | .auv _ => some auvNav

theorem Member.navGroup_eq {o : Member n} {g : Group} (h : o.navGroup = some g) :
    (o = .usv ∧ g = usvNav) ∨ ((∃ i, o = .auv i) ∧ g = auvNav) := by
  cases o with
  | topside => cases h
  | usv => exact Or.inl ⟨rfl, (Option.some.inj h).symm⟩
  | auv i => exact Or.inr ⟨⟨i, rfl⟩, (Option.some.inj h).symm⟩

theorem Member.exists_navGroup {m : Member n} (hm : m ≠ .topside) : ∃ g, m.navGroup = some g := by
  cases m with
  | topside => exact absurd rfl hm
  | usv => exact ⟨_, rfl⟩
  | auv i => exact ⟨_, rfl⟩

/-- The report has the class that the hook sets on this group. -/
def Marked (g : Group) (nav : NavigationReport) : Prop :=
  nav.type = if g = usvNav then .usv else .auv

section Marked

variable {o : Member n} {g : Group} {nav : NavigationReport}

theorem marked_navPublisher (nav : NavigationReport) (g : Group) : Marked g (navPublisher nav g) :=
  rfl

/-- To publish it again changes nothing. -/
theorem Marked.publish_eq (h : Marked g nav) : publish g nav = .intervehicle nav := by
  unfold publish navPublisher
  rw [← h]

theorem Marked.group_eq (h : Marked g nav) (hg : o.navGroup = some g) (cfg : TransporterConfig) :
    (navSubscriber cfg).group nav = g := by
  unfold Marked at h
  unfold navSubscriber
  rcases Member.navGroup_eq hg with ⟨-, rfl⟩ | ⟨-, rfl⟩
  · exact if_pos h
  · refine if_neg ?_
    rw [h]
    decide

end Marked

section Sourced

variable (port : Int) (geodesy : UTMGeodesy) (clock : SystemClock)
  (carry : NavigationReport → Option NavigationReport)

/-- The report is the one `o` built from a status it was given, as it was published then. -/
def Sourced (es : List (Event n)) (o : Member n) (nav : NavigationReport) : Prop :=
  ∃ g s, o.navGroup = some g ∧ .status o s ∈ es ∧
    nav = navPublisher (toDccl geodesy clock s (o.setup port).vehicleId) g

/-- The report is what the links have left of such a one. -/
def Traced (es : List (Event n)) (o : Member n) (nav : NavigationReport) : Prop :=
  ∃ nav₀, Sourced port geodesy clock es o nav₀ ∧ ReflTransGen (carry · = some ·) nav₀ nav

variable {port geodesy clock carry} {es es' : List (Event n)} {o : Member n}
  {nav nav' : NavigationReport}

theorem Sourced.mono (h : Sourced port geodesy clock es o nav) (hsub : es ⊆ es') :
    Sourced port geodesy clock es' o nav := by
  obtain ⟨g, s, hg, hs, hnav⟩ := h
  exact ⟨g, s, hg, hsub hs, hnav⟩

theorem Sourced.marked (h : Sourced port geodesy clock es o nav) :
    ∃ g, o.navGroup = some g ∧ Marked g nav := by
  obtain ⟨g, s, hg, -, rfl⟩ := h
  exact ⟨g, hg, marked_navPublisher _ g⟩

/-- What a vehicle publishes is named after it. -/
theorem vehicleName_published {g : Group} (hg : o.navGroup = some g) (s : NodeStatus) :
    vehicleName (navPublisher (toDccl geodesy clock s (o.setup port).vehicleId) g) =
      (o.setup port).platform := by
  rcases Member.navGroup_eq hg with ⟨rfl, rfl⟩ | ⟨⟨i, rfl⟩, rfl⟩
  · rfl
  · -- the script counts AUVs up from 2, the header counts down again
    have hid : 2 + (i : Int) - firstAuvVehicleId = i := by
      unfold firstAuvVehicleId
      omega
    show "auv" ++ toString (2 + (i : Int) - firstAuvVehicleId) = "auv" ++ toString (i : Int)
    rw [hid]

theorem Sourced.vehicleName_eq (h : Sourced port geodesy clock es o nav) :
    vehicleName nav = (o.setup port).platform := by
  obtain ⟨g, s, hg, -, rfl⟩ := h
  exact vehicleName_published hg s

theorem Sourced.traced (h : Sourced port geodesy clock es o nav) :
    Traced port geodesy clock carry es o nav := ⟨nav, h, .refl⟩

theorem Traced.mono (h : Traced port geodesy clock carry es o nav) (hsub : es ⊆ es') :
    Traced port geodesy clock carry es' o nav := by
  obtain ⟨nav₀, hsourced, hcarried⟩ := h
  exact ⟨nav₀, hsourced.mono hsub, hcarried⟩

theorem Traced.carried (h : Traced port geodesy clock carry es o nav)
    (hcarry : carry nav = some nav') : Traced port geodesy clock carry es o nav' := by
  obtain ⟨nav₀, hsourced, hcarried⟩ := h
  exact ⟨nav₀, hsourced, hcarried.tail hcarry⟩

/-- What a link leaves unchanged is what was published. -/
theorem Traced.sourced (h : Traced port geodesy clock some es o nav) :
    Sourced port geodesy clock es o nav := by
  obtain ⟨nav₀, hsourced, hcarried⟩ := h
  induction hcarried with
  | refl => exact hsourced
  | tail _ hlast ih => exact Option.some.inj hlast ▸ ih

theorem Traced.marked (hclass : ∀ nav nav', carry nav = some nav' → nav'.type = nav.type)
    (h : Traced port geodesy clock carry es o nav) : ∃ g, o.navGroup = some g ∧ Marked g nav := by
  obtain ⟨nav₀, hsourced, hcarried⟩ := h
  induction hcarried with
  | refl => exact hsourced.marked
  | tail _ hlast ih =>
      obtain ⟨g, hg, hmarked⟩ := ih
      exact ⟨g, hg, (hclass _ _ hlast).trans hmarked⟩

end Sourced

/-! ### The invariant -/

namespace Fleet

section Speaks

variable (port : Int) (geodesy : UTMGeodesy) (clock : SystemClock)
  (carry : NavigationReport → Option NavigationReport)

/-- What is published of `o` is what the links have left of its own reports; only the USV's are
for a helm. -/
def Speaks (es : List (Event n)) (o : Member n) : Output → Prop
  | .intervehicle nav => Traced port geodesy clock carry es o nav
  | .nodeStatus status => ∃ nav nav', Traced port geodesy clock carry es o nav ∧
      carry nav = some nav' ∧ status = toNodeStatus geodesy clock nav'
  | .usvNav nav => o = .usv ∧ ∃ nav₀, Traced port geodesy clock carry es o nav₀ ∧
      carry nav₀ = some nav

/-- Whatever is on a link or on the topside's map comes from a vehicle's own report. -/
structure Attributed (es : List (Event n)) (w : Fleet n) : Prop where
  air : ∀ p ∈ w.air, Traced port geodesy clock carry es p.origin p.report
  shown : ∀ e ∈ w.shown, Speaks port geodesy clock carry es e.1 (.nodeStatus e.2)

end Speaks

variable {port : Int} {geodesy : UTMGeodesy} {clock : SystemClock}
  {carry : NavigationReport → Option NavigationReport} {es es' : List (Event n)} {w : Fleet n}

theorem Speaks.mono {o : Member n} {out : Output} (h : Speaks port geodesy clock carry es o out)
    (hsub : es ⊆ es') : Speaks port geodesy clock carry es' o out := by
  cases out with
  | intervehicle nav => exact Traced.mono h hsub
  | nodeStatus status =>
      obtain ⟨nav, nav', htraced, hrest⟩ := h
      exact ⟨nav, nav', htraced.mono hsub, hrest⟩
  | usvNav nav =>
      obtain ⟨ho, nav₀, htraced, hcarry⟩ := h
      exact ⟨ho, nav₀, htraced.mono hsub, hcarry⟩

theorem mem_postings {m o : Member n} {outs : List Output} {p : Posting n}
    (h : p ∈ postings port m o outs) : p.origin = o ∧ .intervehicle p.report ∈ outs := by
  obtain ⟨out, hout, hp⟩ := List.mem_flatMap.mp h
  cases out with
  | intervehicle nav =>
      obtain ⟨l, -, rfl⟩ := List.mem_map.mp hp
      exact ⟨rfl, hout⟩
  | nodeStatus status => simp at hp
  | usvNav nav => simp at hp

theorem mem_statuses {o : Member n} {outs : List Output} {e : Member n × NodeStatus}
    (h : e ∈ statuses o outs) : e.1 = o ∧ .nodeStatus e.2 ∈ outs := by
  obtain ⟨out, hout, he⟩ := List.mem_filterMap.mp h
  cases out with
  | intervehicle nav => simp at he
  | nodeStatus status =>
      obtain rfl := Option.some.inj he
      exact ⟨rfl, hout⟩
  | usvNav nav => simp at he

theorem Attributed.emit (h : w.Attributed port geodesy clock carry es) (hsub : es ⊆ es')
    {m o : Member n} {outs : List Output}
    (houts : ∀ out ∈ outs, Speaks port geodesy clock carry es' o out) :
    (w.emit port m o outs).Attributed port geodesy clock carry es' := by
  refine ⟨?_, ?_⟩
  · intro p hp
    rcases List.mem_append.mp hp with hold | hnew
    · exact (h.air p hold).mono hsub
    · obtain ⟨horigin, hout⟩ := mem_postings hnew
      rw [horigin]
      exact houts _ hout
  · intro e he
    rcases List.mem_append.mp he with hold | hnew
    · exact (h.shown e hold).mono hsub
    · obtain ⟨horigin, hout⟩ := mem_statuses hnew
      rw [horigin]
      exact houts _ hout

/-- A vehicle's own status: what it publishes is its own report. -/
theorem onNodeStatus_eq {m : Member n} {g : Group} (hg : m.navGroup = some g) (s : NodeStatus) :
    (m.setup port).manager.onNodeStatus geodesy clock s =
      [.intervehicle (navPublisher (toDccl geodesy clock s (m.setup port).vehicleId) g)] := by
  rcases Member.navGroup_eq hg with ⟨rfl, rfl⟩ | ⟨⟨i, rfl⟩, rfl⟩ <;> rfl

theorem onNodeStatus_speaks {m : Member n} {s : NodeStatus} (hs : .status m s ∈ es) {out : Output}
    (hout : out ∈ (m.setup port).manager.onNodeStatus geodesy clock s) :
    Speaks port geodesy clock carry es m out := by
  by_cases hm : m = .topside
  · subst hm
    cases hout
  · obtain ⟨g, hg⟩ := Member.exists_navGroup hm
    rw [onNodeStatus_eq hg] at hout
    obtain rfl := List.mem_singleton.mp hout
    exact Sourced.traced ⟨g, s, hg, hs, rfl⟩

section Handler

variable (hclass : ∀ nav nav', carry nav = some nav' → nav'.type = nav.type)
include hclass

/-- A delivered report: it is relayed as it is, shown as what it is, or passed on to the helm. -/
theorem handler_speaks {m o : Member n} {nav nav' : NavigationReport} {sender : Int}
    (hnav : Traced port geodesy clock carry es o nav) (hcarry : carry nav = some nav')
    {sub : Subscription} (hsub : sub ∈ (m.setup port).manager.subscriptions geodesy clock)
    (hacc : sub.Accepts sender nav') {out : Output} (hout : out ∈ sub.handler nav') :
    Speaks port geodesy clock carry es o out := by
  obtain ⟨g, hg, hmarked⟩ := (hnav.carried hcarry).marked hclass
  cases m with
  | topside =>
      have hshow : out = .nodeStatus (toNodeStatus geodesy clock nav') := by
        rcases List.mem_cons.mp hsub with rfl | hrest
        · exact List.mem_singleton.mp hout
        · obtain rfl := List.mem_singleton.mp hrest
          exact List.mem_singleton.mp hout
      rw [hshow]
      exact ⟨nav, nav', hnav, hcarry, rfl⟩
  | usv =>
      obtain ⟨id, -, rfl⟩ := List.mem_map.mp hsub
      obtain rfl := List.mem_singleton.mp hout
      -- the subscription took it, so it is an AUV's
      obtain rfl : g = auvNav := (hmarked.group_eq hg _).symm.trans hacc.2
      rw [hmarked.publish_eq]
      exact hnav.carried hcarry
  | auv i =>
      obtain rfl := List.mem_singleton.mp hsub
      obtain rfl := List.mem_singleton.mp hout
      -- the subscription took it, so it is the USV's
      obtain rfl : g = usvNav := (hmarked.group_eq hg _).symm.trans hacc.2
      rcases Member.navGroup_eq hg with ⟨ho, -⟩ | ⟨-, hne⟩
      · exact ⟨ho, nav, hnav, hcarry⟩
      · exact absurd hne (by decide)

theorem attributed (h : Run (linked port geodesy clock carry n) es w) :
    w.Attributed port geodesy clock carry es := by
  refine h.invariant ?_ ?_
  · rintro _ rfl
    exact ⟨by simp, by simp⟩
  · intro es w e w' _ hatt hstep
    have hgrow : es ⊆ es ++ [e] := List.subset_append_left _ _
    cases e with
    | status m s =>
        obtain rfl := hstep
        exact hatt.emit hgrow fun out hout => onNodeStatus_speaks (by simp) hout
    | deliver m sub p =>
        obtain ⟨hp, -, nav, hcarry, hsub, hacc, rfl⟩ := hstep
        exact hatt.emit hgrow fun out hout =>
          handler_speaks hclass ((hatt.air p hp).mono hgrow) hcarry hsub hacc hout

end Handler

theorem shown_subset_emit (w : Fleet n) (m o : Member n) (outs : List Output) :
    w.shown ⊆ (w.emit port m o outs).shown := List.subset_append_left _ _

theorem mem_air_emit (w : Fleet n) (m o : Member n) (nav : NavigationReport) {l : Link}
    (hl : l ∈ (m.setup port).gobyd.links) :
    ⟨l.multicastPort, l.modemId, nav, o⟩ ∈ (w.emit port m o [.intervehicle nav]).air := by
  refine List.mem_append_right _ (List.mem_flatMap.mpr ⟨_, List.mem_singleton.mpr rfl, ?_⟩)
  exact List.mem_map.mpr ⟨l, hl, rfl⟩

/-- Every status that a vehicle is given goes out on each of its links. -/
theorem posted (h : Run (linked port geodesy clock carry n) es w) {m : Member n} {g : Group}
    (hg : m.navGroup = some g) {s : NodeStatus} (hs : .status m s ∈ es) {l : Link}
    (hl : l ∈ (m.setup port).gobyd.links) :
    ⟨l.multicastPort, l.modemId,
      navPublisher (toDccl geodesy clock s (m.setup port).vehicleId) g, m⟩ ∈ w.air := by
  induction h with
  | start => exact absurd hs List.not_mem_nil
  | @snoc es w w' e hrun hstep ih =>
      rcases List.mem_append.mp hs with hold | hnew
      · have hair := ih hold
        cases e with
        | status m' s' =>
            obtain rfl := hstep
            exact List.mem_append_left _ hair
        | deliver m' sub p =>
            obtain ⟨-, -, nav, -, -, -, rfl⟩ := hstep
            exact List.mem_append_left _ hair
      · obtain rfl := List.mem_singleton.mp hnew
        obtain rfl := hstep
        rw [onNodeStatus_eq hg]
        exact mem_air_emit w m m _ hl

/-! ### What the subscriptions take -/

section Subscriptions

variable {o : Member n} {g : Group} {nav : NavigationReport}

theorem usv_relays (h : Marked auvNav nav) {sub : Subscription}
    (hsub : sub ∈ ((Member.usv : Member n).setup port).manager.subscriptions geodesy clock) :
    sub.handler nav = [.intervehicle nav] := by
  obtain ⟨id, -, rfl⟩ := List.mem_map.mp hsub
  show [publish auvNav nav] = _
  rw [h.publish_eq]

theorem usv_hears (h : Marked auvNav nav) (i : Fin n) :
    ∃ sub ∈ ((Member.usv : Member n).setup port).manager.subscriptions geodesy clock,
      sub.Accepts (acommsModemId (2 + (i : Nat))) nav := by
  have hid : acommsModemId (2 + (i : Nat)) ∈ ((Member.usv : Member n).setup port).auvModemIds := by
    rw [auvModemIds_eq rfl]
    exact mem_auvIds.mpr ⟨i, rfl⟩
  refine ⟨_, List.mem_map_of_mem hid, List.mem_singleton.mpr rfl, ?_⟩
  exact h.group_eq (o := .auv i) rfl _

theorem topside_shows (h : Marked g nav) (hg : o.navGroup = some g) :
    ∃ sub ∈ ((Member.topside : Member n).setup port).manager.subscriptions geodesy clock,
      sub.Accepts (satelliteModemId usvId) nav ∧
        sub.handler nav = [.nodeStatus (toNodeStatus geodesy clock nav)] := by
  have hgroup := h.group_eq hg
  rcases Member.navGroup_eq hg with ⟨-, rfl⟩ | ⟨-, rfl⟩
  · exact ⟨_, List.mem_cons_self, ⟨List.mem_singleton.mpr rfl, hgroup _⟩, rfl⟩
  · exact ⟨_, List.mem_cons_of_mem _ List.mem_cons_self,
      ⟨List.mem_singleton.mpr rfl, hgroup _⟩, rfl⟩

end Subscriptions

/-! ### Coming to be shown -/

theorem run_deliver (h : Run (linked port geodesy clock carry n) es w) {m : Member n}
    {sub : Subscription} {p : Posting n} (hp : p ∈ w.air)
    (hlink : ∃ l ∈ (m.setup port).gobyd.links, l.multicastPort = p.port)
    {nav : NavigationReport} (hcarry : carry p.report = some nav)
    (hsub : sub ∈ (m.setup port).manager.subscriptions geodesy clock)
    (hacc : sub.Accepts p.sender nav) :
    Run (linked port geodesy clock carry n) (es ++ [.deliver m sub p])
      (w.emit port m p.origin (sub.handler nav)) := by
  refine h.snoc ?_
  show LinkedStep port geodesy clock carry w (.deliver m sub p) _
  exact ⟨hp, hlink, nav, hcarry, hsub, hacc, rfl⟩

theorem run_status (h : Run (linked port geodesy clock carry n) es w) {m : Member n} {g : Group}
    (hg : m.navGroup = some g) (s : NodeStatus) :
    Run (linked port geodesy clock carry n) (es ++ [.status m s])
      (w.emit port m m
        [.intervehicle (navPublisher (toDccl geodesy clock s (m.setup port).vehicleId) g)]) := by
  rw [← onNodeStatus_eq hg]
  exact h.snoc rfl

/-- What the USV sends over the satellite link can be shown. -/
theorem satellite_reaches (h : Run (linked port geodesy clock carry n) es w) {o : Member n}
    {g : Group} (hg : o.navGroup = some g) {nav nav' : NavigationReport}
    (hcarry : carry nav = some nav') (hmarked : Marked g nav')
    (hp : ⟨port, satelliteModemId usvId, nav, o⟩ ∈ w.air) :
    ∃ e w', Run (linked port geodesy clock carry n) (es ++ [e]) w' ∧ w.shown ⊆ w'.shown ∧
      (o, toNodeStatus geodesy clock nav') ∈ w'.shown := by
  let topside := (Member.topside : Member n).setup port
  have hlink : topside.satelliteLink ∈ topside.gobyd.links := List.mem_cons_self
  obtain ⟨sub, hsub, hacc, hshow⟩ := topside_shows hmarked hg
  have hrun := run_deliver h hp ⟨_, hlink, rfl⟩ hcarry hsub hacc
  rw [hshow] at hrun
  exact ⟨_, _, hrun, shown_subset_emit _ _ _ _,
    List.mem_append_right _ (List.mem_singleton.mpr rfl)⟩

/-- What an AUV sends can be relayed. -/
theorem acoustic_reaches (h : Run (linked port geodesy clock carry n) es w) {i : Fin n}
    {nav nav' : NavigationReport} (hcarry : carry nav = some nav') (hmarked : Marked auvNav nav')
    (hp : ⟨port + 1, acommsModemId (2 + (i : Nat)), nav, .auv i⟩ ∈ w.air) :
    ∃ e w', Run (linked port geodesy clock carry n) (es ++ [e]) w' ∧ w.shown ⊆ w'.shown ∧
      ⟨port, satelliteModemId usvId, nav', .auv i⟩ ∈ w'.air := by
  let usv := (Member.usv : Member n).setup port
  have hacomms : usv.acommsLink ∈ usv.gobyd.links := List.mem_cons_of_mem _ List.mem_cons_self
  have hsatellite : usv.satelliteLink ∈ usv.gobyd.links := List.mem_cons_self
  obtain ⟨sub, hsub, hacc⟩ := usv_hears hmarked i
  have hrun := run_deliver h hp ⟨_, hacomms, rfl⟩ hcarry hsub hacc
  rw [usv_relays hmarked hsub] at hrun
  exact ⟨_, _, hrun, shown_subset_emit _ _ _ _, mem_air_emit _ .usv (.auv i) nav' hsatellite⟩

/-- Whatever an AUV or the USV says of itself can come to the topside, if the link leaves something
of it and nothing of that is lost on a second link; and what was shown stays. -/
theorem status_reaches (hclass : ∀ nav nav', carry nav = some nav' → nav'.type = nav.type)
    (h : Run (linked port geodesy clock carry n) es w) {m : Member n} {g : Group}
    (hg : m.navGroup = some g) (s : NodeStatus) {nav : NavigationReport}
    (hcarry : carry (navPublisher (toDccl geodesy clock s (m.setup port).vehicleId) g) = some nav)
    (hagain : carry nav = some nav) :
    ∃ es' w', Run (linked port geodesy clock carry n) (es ++ .status m s :: es') w' ∧
      w.shown ⊆ w'.shown ∧ (m, toNodeStatus geodesy clock nav) ∈ w'.shown := by
  have hmarked : Marked g nav := (hclass _ _ hcarry).trans (marked_navPublisher _ g)
  have hpublish := run_status h hg s
  rcases Member.navGroup_eq hg with ⟨rfl, rfl⟩ | ⟨⟨i, rfl⟩, rfl⟩
  · let usv := (Member.usv : Member n).setup port
    have hsatellite : usv.satelliteLink ∈ usv.gobyd.links := List.mem_cons_self
    obtain ⟨e, w', hrun, hstays, hshown⟩ := satellite_reaches hpublish hg hcarry hmarked
      (mem_air_emit w .usv .usv _ hsatellite)
    rw [List.append_assoc] at hrun
    exact ⟨[e], w', hrun, fun e he => hstays (shown_subset_emit w _ _ _ he), hshown⟩
  · let auv := (Member.auv i).setup port
    have hauv : auv.acommsLink ∈ auv.gobyd.links := List.mem_cons_self
    obtain ⟨e, w₁, hrelay, hstays, hp⟩ := acoustic_reaches hpublish hcarry hmarked
      (mem_air_emit w (.auv i) (.auv i) _ hauv)
    obtain ⟨e', w₂, hrun, hstays', hshown⟩ := satellite_reaches hrelay hg hagain hmarked hp
    rw [List.append_assoc, List.append_assoc] at hrun
    exact ⟨[e, e'], w₂, hrun, fun e he => hstays' (hstays (shown_subset_emit w _ _ _ he)), hshown⟩

end Fleet

end Trail
