/-
Threads that hand reports to each other, in Python and in Julia: `multithread.py`,
`multithread.jl`.

In both a publishing thread makes reports, a second thread looks at each of them,
and the main one prints the alerts that the second raises when the vehicle is deep.
They differ in what goes to other processes: in Python every report, in Julia the
deep ones.  What is published by a thread that does not own the portal is handed to the
one that does.

The publishing thread may be at work before the second one has subscribed, which it does
on its own thread, and what is published until then is seen by nobody.  The main thread
of the Python program has subscribed to alerts before it launches the others; in the
Julia program it does so in its `start`, when that comes.  That a subscriber gets
whatever is published from its subscription on, once and in order, is taken from Goby.

Arithmetic is exact; the ends of the interval that `rand` draws from are included,
because rounding may reach them.
-/
import Mathlib.Tactic.Linarith
import Goby3Examples.Lib.Mailbox

namespace Multithread

open Mailbox Runs

/-! ### The messages -/

/-- `protobuf::NavigationReport`, the fields that are set here. -/
structure NavigationReport where
  x : ℚ
  y : ℚ
  z : ℚ
  deriving DecidableEq

/-- What the second thread tells the main one. -/
structure DepthAlert where
  depth : ℚ
  x : ℚ
  y : ℚ
  deriving DecidableEq

/-- What a callback publishes. -/
structure Handed where
  interprocess : List NavigationReport
  depthAlert : List DepthAlert

/-! ### The callbacks, and what is published at a loop -/

/-- `NavPublisher.loop`, by the numbers that are drawn. -/
def NavPublisher.loop (i j k : ℕ) : NavigationReport where
  x := 95 + i
  y := 195 + j
  z := -305 + k

/-- `DepthWatcher.incoming_nav` -/
def DepthWatcher.incomingNav (alertDepth : ℚ) (nav : NavigationReport) : Handed where
  interprocess := [nav]
  depthAlert :=
    if -nav.z > alertDepth then [{ depth := -nav.z, x := nav.x, y := nav.y }] else []

/-- `PublisherTask.loop`, by the numbers that are drawn. -/
def PublisherTask.loop (u v w : ℚ) : NavigationReport where
  x := 95 + u * 20
  y := 195 + v * 20
  z := -305 + w * 10

/-- `SubscriberTask.incoming_nav` -/
def SubscriberTask.incomingNav (alertDepth : ℚ) (nav : NavigationReport) : Handed :=
  if -nav.z > alertDepth then
    { interprocess := [nav], depthAlert := [{ depth := -nav.z, x := nav.x, y := nav.y }] }
  else { interprocess := [], depthAlert := [] }

/-! ### The threads -/

/-- Where reports and alerts wait: for the watching thread, for the main one, for the portal, and
for another process. -/
inductive Box
  | nav
  | depthAlert
  | portal
  | otherProcess
  deriving DecidableEq

/-- What is published for each of them. -/
abbrev Box.Item : Box → Type
  | .depthAlert => DepthAlert
  | .nav | .portal | .otherProcess => NavigationReport

/-- The application, by what is published at a loop, by what the second thread makes of a report,
and by whether the main thread subscribes before the others are launched. -/
def application (looped : NavigationReport → Prop) (incomingNav : NavigationReport → Handed)
    (mainFirst : Bool) : Network Box Box.Item where
  outside := fun
    | .nav, nav => looped nav
    | _, _ => False
  handle := fun
    | .nav, nav, .portal => (incomingNav nav).interprocess
    | .nav, nav, .depthAlert => (incomingNav nav).depthAlert
    | .portal, nav, .otherProcess => [nav]
    | _, _, _ => []
  fails := fun _ _ => false
  early := fun
    | .portal => true
    | .depthAlert => mainFirst
    | _ => false

/-- `random.randrange` draws the three numbers. -/
def python (alertDepth : ℚ) : Network Box Box.Item :=
  application (fun nav => ∃ i < 20, ∃ j < 20, ∃ k < 10, nav = NavPublisher.loop i j k)
    (DepthWatcher.incomingNav alertDepth) true

/-- `rand` does. -/
def julia (alertDepth : ℚ) : Network Box Box.Item :=
  application
    (fun nav => ∃ u v w : ℚ, (0 ≤ u ∧ u ≤ 1) ∧ (0 ≤ v ∧ v ≤ 1) ∧ (0 ≤ w ∧ w ≤ 1) ∧
      nav = PublisherTask.loop u v w)
    (SubscriberTask.incomingNav alertDepth) false

/-! ### What is to be seen of them -/

/-- The reports that were made since the second thread subscribed to them. -/
def produced (es : List (Mailbox.Event Box.Item)) : List NavigationReport :=
  Network.arrivals Box.nav (es.dropWhile (!Network.subscribes Box.nav ·))

/-- Those of them that are deep. -/
def deep (alertDepth : ℚ) (navs : List NavigationReport) : List NavigationReport :=
  navs.filter fun nav => decide (-nav.z > alertDepth)

/-- The alert about a report. -/
def alert (nav : NavigationReport) : DepthAlert := { depth := -nav.z, x := nav.x, y := nav.y }

/-- The state of the Python application. -/
structure Watched (alertDepth : ℚ) (es : List (Mailbox.Event Box.Item)) (s : State Box.Item) :
    Prop where
  forwarded : s.posted .otherProcess <+: produced es
  /-- Another process gets a piece of that without gaps. -/
  received : s.read .otherProcess <:+: s.posted .otherProcess
  alerted : s.read .depthAlert <+: (deep alertDepth (produced es)).map alert
  /-- An alert is raised only about what has been handed on. -/
  raised : s.posted .depthAlert = (deep alertDepth (s.posted .portal)).map alert
  complete : (∀ k, s.Drained k) → s.posted .otherProcess = produced es ∧
    s.read .depthAlert = (deep alertDepth (produced es)).map alert ∧
    ∀ n, s.since .otherProcess = some n → s.read .otherProcess = (produced es).drop n
  /-- Where the vehicle never is. -/
  never : 305 ≤ alertDepth → s.posted .depthAlert = []
  /-- Where it always is. -/
  always : alertDepth < 296 → s.posted .depthAlert = (s.posted .portal).map alert

/-- The state of the Julia application. -/
structure Reported (alertDepth : ℚ) (es : List (Mailbox.Event Box.Item)) (s : State Box.Item) :
    Prop where
  forwarded : s.posted .otherProcess <+: deep alertDepth (produced es)
  /-- Another process gets a piece of that without gaps. -/
  received : s.read .otherProcess <:+: s.posted .otherProcess
  /-- The main task gets a piece without gaps of what is raised. -/
  alerted : s.read .depthAlert <:+: s.posted .depthAlert
  raised : s.posted .depthAlert = (s.posted .portal).map alert
  complete : (∀ k, s.Drained k) → s.posted .otherProcess = deep alertDepth (produced es) ∧
    (∀ n, s.since .otherProcess = some n →
      s.read .otherProcess = (deep alertDepth (produced es)).drop n) ∧
    ∀ n, s.since .depthAlert = some n →
      s.read .depthAlert = ((deep alertDepth (produced es)).map alert).drop n
  never : 305 ≤ alertDepth → s.posted .portal = []
  always : alertDepth < 295 → s.posted .portal = s.read .nav

/-! ### The flow -/

section Flow

variable {looped : NavigationReport → Prop} {incomingNav : NavigationReport → Handed}
  {mainFirst : Bool} {es : List (Mailbox.Event Box.Item)} {s : State Box.Item}

theorem feeds_of_nav {k : Box} (hk : k = .portal ∨ k = .depthAlert) :
    (application looped incomingNav mainFirst).Feeds .nav k some := by
  refine ⟨fun a hout => ?_, fun j hj a => ?_⟩
  · rcases hk with rfl | rfl <;> cases hout
  · rcases hk with rfl | rfl <;> cases j <;> first | exact absurd rfl hj | rfl

theorem feeds_of_portal :
    (application looped incomingNav mainFirst).Feeds .portal .otherProcess some := by
  refine ⟨fun a hout => ?_, fun j hj a => ?_⟩
  · cases hout
  · cases j <;> first | exact absurd rfl hj | rfl

variable (h : Run (application looped incomingNav mainFirst).system es s)

include h

theorem heard_nav : s.heard .nav = produced es := by
  apply Network.heard_of_outside (k := Box.nav) h
  intro j a
  cases j <;> rfl

theorem posted_portal :
    s.posted .portal = (s.read .nav).flatMap fun nav => (incomingNav nav).interprocess :=
  Network.posted_of_sole h (feeds_of_nav (Or.inl rfl))

theorem posted_depthAlert :
    s.posted .depthAlert = (s.read .nav).flatMap fun nav => (incomingNav nav).depthAlert :=
  Network.posted_of_sole h (feeds_of_nav (Or.inr rfl))

/-- The portal is there from the start, so it hands on all it is given. -/
theorem heard_portal : s.heard .portal = s.posted .portal := Network.heard_of_early h rfl

theorem posted_otherProcess : s.posted .otherProcess = s.read .portal := by
  have hposted := Network.posted_of_map h feeds_of_portal (f := id) fun _ => rfl
  rw [hposted, List.map_id]

theorem otherProcess_isPrefix : s.posted .otherProcess <+: s.posted .portal := by
  rw [posted_otherProcess h, ← heard_portal h]
  exact s.read_prefix .portal

/-- Reports come from the loop only. -/
theorem looped_of_mem_nav : ∀ nav ∈ s.read .nav, looped nav := by
  have hposted : ∀ nav ∈ s.posted .nav, looped nav := by
    refine Network.posted_invariant (P := fun k => match k with
      | .nav => looped
      | _ => fun _ => True) ?_ ?_ h .nav
    · intro k a hout
      cases k <;> first | exact hout | trivial
    · intro k a _ k' b hb
      cases k' with
      | nav => cases k <;> cases hb
      | depthAlert | portal | otherProcess => trivial
  exact fun nav hmem => hposted nav ((s.read_infix .nav).subset hmem)

/-- When all is quiet, other processes have been sent what the second thread handed on. -/
theorem otherProcess_of_drained (hidle : ∀ k, s.Drained k) :
    s.posted .otherProcess = s.posted .portal := by
  rw [posted_otherProcess h, (hidle .portal).read_eq, heard_portal h]

end Flow

/-! ### What the callbacks make of a sequence of reports -/

variable (alertDepth : ℚ)

theorem flatMap_depthAlert (navs : List NavigationReport) :
    (navs.flatMap fun nav => (DepthWatcher.incomingNav alertDepth nav).depthAlert) =
      (deep alertDepth navs).map alert := by
  unfold deep DepthWatcher.incomingNav
  induction navs with
  | nil => rfl
  | cons nav navs ih =>
      by_cases hdeep : -nav.z > alertDepth
      · simp [hdeep, ih, alert]
      · simp [hdeep, ih]

theorem flatMap_subscriberTask (navs : List NavigationReport) :
    (navs.flatMap fun nav => (SubscriberTask.incomingNav alertDepth nav).interprocess) =
        deep alertDepth navs ∧
      (navs.flatMap fun nav => (SubscriberTask.incomingNav alertDepth nav).depthAlert) =
        (deep alertDepth navs).map alert := by
  unfold deep SubscriberTask.incomingNav
  induction navs with
  | nil => exact ⟨rfl, rfl⟩
  | cons nav navs ih =>
      by_cases hdeep : -nav.z > alertDepth
      · simp [hdeep, ih, alert]
      · simp [hdeep, ih]

variable {alertDepth}

theorem deep_mono {navs navs' : List NavigationReport} (h : navs <+: navs') :
    deep alertDepth navs <+: deep alertDepth navs' := h.filter _

theorem deep_eq_nil {navs : List NavigationReport} (h : ∀ nav ∈ navs, -nav.z ≤ alertDepth) :
    deep alertDepth navs = [] := by
  unfold deep
  rw [List.filter_eq_nil_iff]
  intro nav hnav
  simp [h nav hnav]

theorem deep_eq_self {navs : List NavigationReport} (h : ∀ nav ∈ navs, alertDepth < -nav.z) :
    deep alertDepth navs = navs := by
  unfold deep
  rw [List.filter_eq_self]
  intro nav hnav
  simp [h nav hnav]

theorem depth_navPublisher {nav : NavigationReport}
    (h : ∃ i < 20, ∃ j < 20, ∃ k < 10, nav = NavPublisher.loop i j k) :
    296 ≤ -nav.z ∧ -nav.z ≤ 305 := by
  obtain ⟨i, -, j, -, k, hk, rfl⟩ := h
  have hlast : (k : ℚ) ≤ 9 := by exact_mod_cast Nat.le_of_lt_succ hk
  have hfirst : (0 : ℚ) ≤ k := Nat.cast_nonneg k
  unfold NavPublisher.loop
  constructor <;> linarith

theorem depth_publisherTask {nav : NavigationReport}
    (h : ∃ u v w : ℚ, (0 ≤ u ∧ u ≤ 1) ∧ (0 ≤ v ∧ v ≤ 1) ∧ (0 ≤ w ∧ w ≤ 1) ∧
      nav = PublisherTask.loop u v w) :
    295 ≤ -nav.z ∧ -nav.z ≤ 305 := by
  obtain ⟨u, v, w, -, -, ⟨hfirst, hlast⟩, rfl⟩ := h
  unfold PublisherTask.loop
  constructor <;> linarith

/-! ### The applications -/

variable {es : List (Mailbox.Event Box.Item)} {s : State Box.Item}

/--
**Only the deep reports leave the process, each with its alert.**  Whatever order
the tasks run and subscribe in, what is sent to other processes are the deep ones of the
reports that the subscribing task was there for, and an alert is raised about each of
them.
-/
theorem reported (h : Run (julia alertDepth).system es s) : Reported alertDepth es s := by
  have hportal : s.posted .portal = deep alertDepth (s.read .nav) :=
    (posted_portal h).trans (flatMap_subscriberTask alertDepth _).1
  have halert : s.posted .depthAlert = (deep alertDepth (s.read .nav)).map alert :=
    (posted_depthAlert h).trans (flatMap_subscriberTask alertDepth _).2
  have hnav : s.read .nav <+: produced es := heard_nav h ▸ s.read_prefix .nav
  have hrange : ∀ nav ∈ s.read .nav, 295 ≤ -nav.z ∧ -nav.z ≤ 305 := fun nav hmem =>
    depth_publisherTask (looped_of_mem_nav h nav hmem)
  refine ⟨?_, s.read_infix .otherProcess, s.read_infix .depthAlert, ?_, ?_, ?_, ?_⟩
  · exact (otherProcess_isPrefix h).trans (hportal ▸ deep_mono hnav)
  · rw [halert, hportal]
  · intro hidle
    have hall : s.read .nav = produced es := (hidle .nav).read_eq.trans (heard_nav h)
    have hother : s.posted .otherProcess = deep alertDepth (produced es) := by
      rw [otherProcess_of_drained h hidle, hportal, hall]
    refine ⟨hother, fun n hn => ?_, fun n hn => ?_⟩
    · rw [(hidle .otherProcess).read_eq_drop hn, hother]
    · rw [(hidle .depthAlert).read_eq_drop hn, halert, hall]
  · intro hdeepest
    rw [hportal, deep_eq_nil fun nav hmem => (hrange nav hmem).2.trans hdeepest]
  · intro hshallow
    rw [hportal, deep_eq_self fun nav hmem => hshallow.trans_le (hrange nav hmem).1]

/-- The deepest report, on its way to another process and with its alert. -/
theorem reported_deepest :
    ∃ es s, Run (julia 300).system es s ∧ s.read .otherProcess = [PublisherTask.loop 0 0 0] ∧
      s.read .depthAlert = [{ depth := 305, x := 95, y := 195 }] ∧ Reported 300 es s := by
  have hstart : Run (julia 300).system [] (julia 300).empty := Run.start rfl
  have hmain := Network.run_subscribe (k := Box.depthAlert) hstart rfl
  have htask := Network.run_subscribe (k := Box.nav) hmain rfl
  have hother := Network.run_subscribe (k := Box.otherProcess) htask rfl
  have hlooped := Network.run_arrive (k := Box.nav) hother
    ⟨0, 0, 0, by norm_num, by norm_num, by norm_num, rfl⟩
  have hseen := Network.run_take (k := Box.nav) hlooped rfl (by decide +kernel)
  have hsent := Network.run_take (k := Box.portal) hseen rfl (by decide +kernel)
  have hheard := Network.run_take (k := Box.otherProcess) hsent rfl (by decide +kernel)
  have hprinted := Network.run_take (k := Box.depthAlert) hheard rfl (by decide +kernel)
  exact ⟨_, _, hprinted, by decide +kernel, by decide +kernel, reported hprinted⟩

end Multithread
