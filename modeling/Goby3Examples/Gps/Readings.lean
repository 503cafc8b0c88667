/-
From a receiver's readings to the positions other processes get.

A receiver writes what it has read into a sentence, with other sentences in
between.  The lines pass through three threads and two conversions, at any speed
of each and with the driver switched off and on meanwhile.  What comes out is
what was read while it was on and the lines were parsed.

Arithmetic is exact, and a position is taken as it was published: how it is
marshalled on its way to another process is left out.
-/
import Goby3Examples.Gps.Threads

namespace Gps

open Mailbox Runs

/-- What the receiver has found out. -/
structure Reading where
  time : TimeOfDay
  latitude : ℚ
  longitude : ℚ

/-- The position that should be published of it. -/
def Reading.position (r : Reading) : GPSPosition where
  time := some r.time.toSeconds
  latitude := some r.latitude
  longitude := some r.longitude

variable (goby : NMEA)

/-- The line is a `GGA` sentence with this reading, or it is something else altogether: a sentence
of another kind, or none. -/
def Tells (line : Text) : Option Reading → Prop
  | some r => ∃ nmea, goby.construct line = .ok nmea ∧ nmea.sentenceId = "GGA".toList ∧
      Carries goby nmea r.time r.latitude r.longitude
  | none => ∀ nmea, goby.construct line = .ok nmea → nmea.sentenceId ≠ "GGA".toList

variable {goby} {line : Text} {lines : List Text} {r : Option Reading}
  {readings : List (Option Reading)}

theorem Tells.parseLine_eq (h : Tells goby line r) :
    parseLine goby line = { published := r.toList.map Reading.position, escaped := none } := by
  cases r with
  | some r =>
      obtain ⟨nmea, hmake, hid, hcarries⟩ := h
      exact parseLine_of_position hmake hid hcarries.position_eq
  | none =>
      cases hmake : goby.construct line with
      | error what => exact parseLine_of_rejected hmake
      | ok nmea => exact parseLine_of_other hmake (h nmea hmake)

namespace GPSDriver

theorem fixes_eq (h : List.Forall₂ (Tells goby) lines readings) :
    fixes goby lines = (readings.filterMap id).map Reading.position := by
  induction h with
  | nil => rfl
  | @cons line r lines readings hline _ ih =>
      rw [fixes, List.flatMap_cons, hline.parseLine_eq]
      rw [fixes] at ih
      cases r with
      | none => exact ih
      | some r => exact congrArg (r.position :: ·) ih

theorem escaped_of_tells (h : List.Forall₂ (Tells goby) lines readings) :
    ∀ line ∈ lines, (parseLine goby line).escaped.isSome = false := by
  induction h with
  | nil => exact fun line hline => absurd hline List.not_mem_nil
  | cons htells _ ih =>
      intro line hline
      rcases List.mem_cons.mp hline with rfl | hrest
      · rw [htells.parseLine_eq]
        rfl
      · exact ih line hrest

variable {app : MultiThreadApplication} (happ : app.Lawful) {es : List DriverEvent} {d : GPSDriver}

/-! ### The threads, left to themselves -/

section Running

include happ

theorem running_analyze (h : Run (driver goby app) es d) : d.net.stopped .analyze = false := by
  have hstops := Network.stopsOn (net_run happ h) Box.analyze
  by_contra hstopped
  obtain ⟨_, -, hfails, -⟩ := hstops.stopped (Bool.eq_true_of_not_eq_false hstopped)
  cases hfails

theorem running_rawIn (h : Run (driver goby app) es d)
    (hgood : ∀ line ∈ heard es, (parseLine goby line).escaped.isSome = false) :
    d.net.stopped .rawIn = false := by
  have hstops := Network.stopsOn (net_run happ h) Box.rawIn
  by_contra hstopped
  obtain ⟨line, hlast, hfails, -⟩ := hstops.stopped (Bool.eq_true_of_not_eq_false hstopped)
  have hread : line ∈ d.net.read .rawIn := List.mem_of_getLast? hlast
  have hheard : line ∈ heard es := heard_rawIn happ h ▸ (d.net.read_prefix .rawIn).subset hread
  have hfine : (threads goby).fails .rawIn line = false := hgood line hheard
  rw [hfine] at hfails
  cases hfails

end Running

/-- Nothing new is heard. -/
def GoesOn (goby : NMEA) (app : MultiThreadApplication) (es : List DriverEvent) (d : GPSDriver)
    (net : State Box.Item) : Prop :=
  ∃ es', Run (driver goby app) (es ++ es') { d with net } ∧ net.heard .rawIn = d.net.heard .rawIn

theorem GoesOn.take {net : State Box.Item} (h : GoesOn goby app es d net) {k : Box}
    (hlt : net.taken k < (net.heard k).length) (hrunning : net.stopped k = false) :
    GoesOn goby app es d ((threads goby).process net k hlt) := by
  obtain ⟨es', hrun, hheard⟩ := h
  have htake := run_take hrun k hrunning hlt
  rw [List.append_assoc] at htake
  have hnone : ∀ a, (threads goby).handle k a .rawIn = [] := by
    intro a
    cases k <;> rfl
  exact ⟨_, htake, (Network.heard_process_of_none hnone hlt).trans hheard⟩

include happ in
/-- **They come to the end of what was heard**, if nothing of it stops them. -/
theorem exists_drained (h : Run (driver goby app) es d)
    (hgood : ∀ line ∈ heard es, (parseLine goby line).escaped.isSome = false) :
    ∃ net, GoesOn goby app es d net ∧ net.Drained .rawIn ∧ net.Drained .analyze := by
  have hnow : GoesOn goby app es d d.net := by
    refine ⟨[], ?_, rfl⟩
    rw [List.append_nil]
    exact h
  obtain ⟨net, hon, hraw⟩ := Network.drain (k := Box.rawIn) (P := GoesOn goby app es d)
    (fun _ => rfl) (fun net hlt hrunning hon => hon.take hlt hrunning) hnow
    (running_rawIn happ h hgood) (heard_rawIn happ h ▸ hgood)
  have hrunning : net.stopped .analyze = false := by
    obtain ⟨es', hrun, -⟩ := hon
    exact running_analyze happ hrun
  have hnever : ∀ p, (threads goby).fails .analyze p = false := fun _ => rfl
  -- analyzing puts no new lines before the parsing thread
  have hkeep : ∀ net (hlt : net.taken .analyze < (net.heard .analyze).length),
      net.stopped .analyze = false → GoesOn goby app es d net ∧ net.Drained .rawIn →
        GoesOn goby app es d ((threads goby).process net .analyze hlt) ∧
          ((threads goby).process net .analyze hlt).Drained .rawIn := by
    intro net hlt hrunning hI
    obtain ⟨hon, hraw⟩ := hI
    refine ⟨hon.take hlt hrunning, ?_⟩
    exact Network.drained_process (k := Box.analyze) (j := Box.rawIn) hraw nofun (fun _ => rfl) hlt
  obtain ⟨net', ⟨hon', hraw'⟩, hanalyze⟩ := Network.drain (k := Box.analyze)
    (P := fun net => GoesOn goby app es d net ∧ net.Drained .rawIn) (fun _ => rfl) hkeep
    ⟨hon, hraw⟩ hrunning (fun p _ => hnever p)
  exact ⟨net', hon', hraw', hanalyze⟩

/-! ### What others get -/

/-- In the order of their times. -/
def Later (p p' : GPSPosition) : Prop := ∃ s ∈ p.time, ∃ s' ∈ p'.time, s < s'

variable (goby app) in
/-- What has come of the readings. -/
structure Relayed (readings : List (Option Reading)) (es : List DriverEvent) (d : GPSDriver) :
    Prop where
  running : d.net.stopped .rawIn = false
  published : d.net.posted .interprocess <+: (readings.filterMap id).map Reading.position
  /-- Who has subscribed gets a piece of them without gaps. -/
  analyzed : d.net.read .analyze <:+: (readings.filterMap id).map Reading.position
  received : d.net.read .interprocess <:+: (readings.filterMap id).map Reading.position
  /-- Readings of one day. -/
  inTime : (readings.filterMap id).Pairwise (fun r r' => r.time.nmea < r'.time.nmea) →
    (d.net.posted .interprocess).Pairwise Later
  /-- Nothing more need be heard for all of them to come out, and for the analyzing thread to have
  had those that are published after it has subscribed. -/
  all : ∃ es' d', Run (driver goby app) (es ++ es') d' ∧ heard (es ++ es') = heard es ∧
    d'.net.posted .interprocess = (readings.filterMap id).map Reading.position ∧
      ∀ n, d'.net.since .analyze = some n →
        d'.net.read .analyze = ((readings.filterMap id).map Reading.position).drop n

include happ in
/--
**What was read is what the others get.**  If the lines that were heard since the
parsing thread subscribed say these readings, then the positions published so far are
the first of them, exactly and in order, however the threads have run; the threads are
not stopped, and left to themselves they get to the end.
-/
theorem relayed (h : Run (driver goby app) es d)
    (htells : List.Forall₂ (Tells goby) (heard es) readings) :
    Relayed goby app readings es d := by
  have hgood := escaped_of_tells htells
  have hprefix : d.net.posted .interprocess <+: (readings.filterMap id).map Reading.position := by
    obtain ⟨rest, hrest⟩ := d.net.read_prefix .rawIn
    rw [posted_interprocess happ h, ← fixes_eq htells, ← heard_rawIn happ h, ← hrest]
    exact ⟨fixes goby rest, List.flatMap_append.symm⟩
  refine ⟨running_rawIn happ h hgood, hprefix, ?_, ?_, ?_, ?_⟩
  · have hanalyzed := d.net.read_infix .analyze
    rw [posted_analyze happ h] at hanalyzed
    exact hanalyzed.trans hprefix.isInfix
  · exact (d.net.read_infix .interprocess).trans hprefix.isInfix
  · intro hday
    have hall : ((readings.filterMap id).map Reading.position).Pairwise Later := by
      refine List.pairwise_map.mpr (hday.imp fun {r r'} hlt => ?_)
      exact ⟨_, rfl, _, rfl, TimeOfDay.toSeconds_lt hlt⟩
    exact hall.sublist hprefix.sublist
  · obtain ⟨net, ⟨es', hrun, hsame⟩, hraw, hanalyze⟩ := exists_drained happ h hgood
    have hheard : heard (es ++ es') = heard es := by
      rw [← heard_rawIn happ hrun, ← heard_rawIn happ h]
      exact hsame
    have hin := inOrder happ hrun
    have hposted := hin.complete hraw
    have hread := hin.completeAnalyzed hraw hanalyze
    rw [hheard, fixes_eq htells] at hposted hread
    exact ⟨es', _, hrun, hheard, hposted, hread⟩

/-- A line that nobody parses yet, then two more, one of them no sentence. -/
theorem relayed_ggaLine : ∃ es d, Run (driver reading oneThread) es d ∧
    heard es = ["".toList, ggaLine] ∧ d.net.since .analyze = some 0 ∧
    Relayed reading oneThread [none, some ⟨ggaTime, 48 + 1 / 8, -(11 + 1 / 4)⟩] es d := by
  have hstart : Run (driver reading oneThread) []
      { serialThread := true, net := (threads reading).empty } := Run.start rfl
  have hearly := run_arrive hstart rfl ggaLine
  have hparsing := run_subscribe hearly .rawIn rfl
  have hanalyzing := run_subscribe hparsing .analyze rfl
  have hheard := run_arrive (run_arrive hanalyzing rfl "".toList) rfl ggaLine
  have hnone : Tells reading "".toList none := by
    intro nmea hmake
    cases hmake
  have hsome : Tells reading ggaLine (some ⟨ggaTime, 48 + 1 / 8, -(11 + 1 / 4)⟩) :=
    ⟨ggaSentence, by decide, rfl, carries_ggaSentence⟩
  exact ⟨_, _, hheard, rfl, rfl,
    relayed oneThread_lawful hheard (.cons hnone (.cons hsome .nil))⟩

end GPSDriver

end Gps
