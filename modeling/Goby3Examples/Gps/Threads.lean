/-
The threads of the GPS driver, `gps_driver.cpp`.

The serial thread hears lines, the parsing thread makes positions of them, and
these go to the analyzing thread and to every other process.  The main thread
launches and joins the serial thread as it is told to by another program.  The serial
thread is launched first, and the other two subscribe when their own threads construct
them, so lines may be heard before anybody parses them, and positions published before
anybody analyzes them.

What launching and joining a thread does is Goby's, and `MultiThreadApplication.Lawful`
is what is relied on: a second launch throws, and so does joining what is not there,
which the main thread takes for nothing to do.  What the parsing thread does not catch
itself is its end.

All orders in which the threads can run are in `driver`, and none of them shows
in what is published.
-/
import Goby3Examples.Lib.Mailbox
import Goby3Examples.Gps.Decode

namespace Gps

open Mailbox Runs

/-! ### The mailboxes -/

/-- The subscriptions: `gps_raw_in` in the parsing thread, `gps_data` in the analyzing thread and
in another process. -/
inductive Box
  | rawIn
  | analyze
  | interprocess
  deriving DecidableEq

/-- What is published for each of them. -/
abbrev Box.Item : Box → Type
  | .rawIn => Text
  | .analyze => GPSPosition
  | .interprocess => GPSPosition

variable (goby : NMEA)

/-- What the threads do; publishing to other processes reaches the threads of this one too. -/
def threads : Network Box Box.Item where
  outside := fun k _ => k = .rawIn
  handle := fun
    | .rawIn, line, .analyze => (parseLine goby line).published
    | .rawIn, line, .interprocess => (parseLine goby line).published
    | _, _, _ => []
  fails := fun
    | .rawIn, line => (parseLine goby line).escaped.isSome
    | _, _ => false
  early := fun _ => false

/-! ### The main thread -/

/-- `GPSCommand` -/
structure GPSCommand where
  readGps : Bool
  deriving DecidableEq, Repr

/-- `goby::zeromq::MultiThreadApplication`, its `launch_thread` and `join_thread` for the serial
thread: from whether there is one to whether there is one afterwards, or what the exception says. -/
structure MultiThreadApplication where
  launchThread : Bool → Except String Bool
  joinThread : Bool → Except String Bool

/-- What is relied on. -/
structure MultiThreadApplication.Lawful (app : MultiThreadApplication) : Prop where
  launch : app.launchThread false = .ok true
  launchTwice : ∃ what, app.launchThread true = .error what
  join : app.joinThread true = .ok false
  joinNone : ∃ what, app.joinThread false = .error what

/-- The main thread's part of the driver, and what the threads have handed to each other. -/
structure GPSDriver where
  /-- There is a `SerialThread`. -/
  serialThread : Bool
  net : State Box.Item

variable (app : MultiThreadApplication)

/-- `GPSDriver::incoming_command` -/
def incomingCommand (d : GPSDriver) (cmd : GPSCommand) : GPSDriver :=
  match if cmd.readGps then app.launchThread d.serialThread else app.joinThread d.serialThread with
  | .ok running => { d with serialThread := running }
  -- did not process command
  | .error _ => d

/-- A command comes from another program, or one of the threads does something. -/
inductive DriverEvent
  | command (cmd : GPSCommand)
  | thread (e : Mailbox.Event Box.Item)

namespace GPSDriver

/-- Lines come from the serial thread, while there is one. -/
def Step (d : GPSDriver) (e : DriverEvent) (d' : GPSDriver) : Prop :=
  match e with
  | .command cmd => d' = incomingCommand app d cmd
  | .thread e =>
    (∀ k a, e = .arrive k a → d.serialThread = true) ∧
      (threads goby).Step d.net e d'.net ∧ d'.serialThread = d.serialThread

/-- From the moment the constructor has launched the threads. -/
def driver : System GPSDriver DriverEvent where
  init := fun d => d = { serialThread := true, net := (threads goby).empty }
  step := Step goby app

/-! ### What is to be seen of it -/

/-- What a thread did. -/
def threadEvent : DriverEvent → Option (Mailbox.Event Box.Item)
  | .command _ => none
  | .thread e => some e

/-- The lines that were heard since the parsing thread subscribed. -/
def heard (es : List DriverEvent) : List Text :=
  Network.arrivals Box.rawIn
    ((es.filterMap threadEvent).dropWhile (!Network.subscribes Box.rawIn ·))

/-- What the last command said, the driver being on when it starts. -/
def switchedOn (es : List DriverEvent) : Bool :=
  es.foldl (fun on e => match e with | .command cmd => cmd.readGps | .thread _ => on) true

/-- A `GGA` sentence that is cut off. -/
def Short (line : Text) : Prop :=
  ∃ nmea, goby.construct line = .ok nmea ∧ nmea.sentenceId = "GGA".toList ∧
    nmea.fields.length < 6

/-- What a sequence of lines comes to. -/
def fixes (lines : List Text) : List GPSPosition :=
  lines.flatMap fun line => (parseLine goby line).published

/-- The driver after a run. -/
structure InOrder (es : List DriverEvent) (d : GPSDriver) : Prop where
  switched : d.serialThread = switchedOn es
  heardOn : ∀ pre line, pre ++ [.thread (.arrive .rawIn line)] <+: es → switchedOn pre = true
  parsed : d.net.read .rawIn <+: heard es
  published : d.net.posted .interprocess = fixes goby (d.net.read .rawIn)
  /-- Whoever gets positions gets a piece without gaps of what was published. -/
  analyzed : d.net.read .analyze <:+: d.net.posted .interprocess
  received : d.net.read .interprocess <:+: d.net.posted .interprocess
  /-- When the parsing thread has nothing left to do, every line has been dealt with, -/
  complete : d.net.Drained .rawIn → d.net.posted .interprocess = fixes goby (heard es)
  /-- and when who has subscribed to positions has nothing left to do either, all of them have been
  had but those that were published before. -/
  completeAnalyzed : d.net.Drained .rawIn → d.net.Drained .analyze → ∀ n,
    d.net.since .analyze = some n → d.net.read .analyze = (fixes goby (heard es)).drop n
  completeReceived : d.net.Drained .rawIn → d.net.Drained .interprocess → ∀ n,
    d.net.since .interprocess = some n →
      d.net.read .interprocess = (fixes goby (heard es)).drop n
  /-- Parsing ends with the first line that is cut off. -/
  stopped : d.net.stopped .rawIn = true → ∃ line, (d.net.read .rawIn).getLast? = some line ∧
    Short goby line ∧ ∀ l ∈ (d.net.read .rawIn).dropLast, ¬ Short goby l
  running : d.net.stopped .rawIn = false → ∀ line ∈ d.net.read .rawIn, ¬ Short goby line

variable {goby app}

theorem escaped_iff (line : Text) :
    (parseLine goby line).escaped.isSome = true ↔ Short goby line := by
  constructor
  · intro hescaped
    cases hmake : goby.construct line with
    | error what =>
        rw [parseLine_of_rejected hmake] at hescaped
        cases hescaped
    | ok nmea =>
        by_cases hid : nmea.sentenceId = "GGA".toList
        · refine ⟨nmea, hmake, hid, ?_⟩
          by_contra hsix
          rw [parseLine_of_position hmake hid
            (position_of_six goby (Nat.not_lt.mp hsix))] at hescaped
          cases hescaped
        · rw [parseLine_of_other hmake hid] at hescaped
          cases hescaped
  · intro h
    obtain ⟨nmea, hmake, hid, hfewer⟩ := h
    rw [parseLine_of_fewer hmake hid hfewer]
    rfl

/-- After a command the thread is there or not, as the command says. -/
theorem incomingCommand_eq (happ : app.Lawful) (d : GPSDriver) (cmd : GPSCommand) :
    incomingCommand app d cmd = { d with serialThread := cmd.readGps } := by
  obtain ⟨twice, htwice⟩ := happ.launchTwice
  obtain ⟨none, hnone⟩ := happ.joinNone
  unfold incomingCommand
  cases d with
  | mk serialThread net =>
      cases serialThread <;> cases cmd with
      | mk on => cases on <;> simp [happ.launch, happ.join, htwice, hnone]

variable {es : List DriverEvent} {d : GPSDriver}

theorem switchedOn_snoc (es : List DriverEvent) (e : DriverEvent) :
    switchedOn (es ++ [e]) =
      match e with
      | .command cmd => cmd.readGps
      | .thread _ => switchedOn es := by
  unfold switchedOn
  rw [List.foldl_append]
  rfl

section Lawful

variable (happ : app.Lawful)
include happ

theorem net_run (h : Run (driver goby app) es d) :
    Run (threads goby).system (es.filterMap threadEvent) d.net := by
  refine h.invariant (I := fun es d =>
    Run (threads goby).system (es.filterMap threadEvent) d.net) ?_ ?_
  · intro d hd
    rw [show d = _ from hd]
    exact Run.start rfl
  · intro es d e d' _ hrun hstep
    rw [List.filterMap_append]
    cases e with
    | command cmd =>
        obtain rfl := hstep
        rw [incomingCommand_eq happ]
        show Run _ (es.filterMap threadEvent ++ []) d.net
        rw [List.append_nil]
        exact hrun
    | thread e =>
        obtain ⟨-, hnet, -⟩ := hstep
        exact hrun.snoc hnet

/-- The serial thread is there when the last command wanted it, and lines come from nowhere else. -/
theorem switched_heardOn (h : Run (driver goby app) es d) :
    d.serialThread = switchedOn es ∧
      ∀ pre line, pre ++ [.thread (.arrive .rawIn line)] <+: es → switchedOn pre = true := by
  refine h.invariant (I := fun es d => d.serialThread = switchedOn es ∧
    ∀ pre line, pre ++ [.thread (.arrive .rawIn line)] <+: es → switchedOn pre = true) ?_ ?_
  · intro d hd
    rw [show d = _ from hd]
    refine ⟨rfl, fun pre line hpre => ?_⟩
    simp at hpre
  · intro es d e d' _ hI hstep
    obtain ⟨hswitched, hheard⟩ := hI
    rw [switchedOn_snoc]
    refine ⟨?_, fun pre line hpre => ?_⟩
    · cases e with
      | command cmd =>
          obtain rfl := hstep
          rw [incomingCommand_eq happ]
      | thread e => exact hstep.2.2.trans hswitched
    · rcases List.prefix_concat_iff.mp hpre with heq | hold
      · obtain ⟨rfl, hlast⟩ := List.append_inj' heq rfl
        obtain rfl := List.singleton_inj.mp hlast
        rw [← hswitched]
        exact hstep.1 .rawIn line rfl
      · exact hheard pre line hold

omit happ in
/-- Positions come from the parsing thread only. -/
theorem feeds_positions {k : Box} (hk : k = .analyze ∨ k = .interprocess) :
    (threads goby).Feeds .rawIn k some := by
  refine ⟨fun a hout => ?_, fun j hj a => ?_⟩
  · rcases hk with rfl | rfl <;> cases hout
  · rcases hk with rfl | rfl <;> cases j <;> first | exact absurd rfl hj | rfl

theorem heard_rawIn (h : Run (driver goby app) es d) : d.net.heard .rawIn = heard es := by
  refine Network.heard_of_outside (k := Box.rawIn) (net_run happ h) fun j a => ?_
  cases j <;> rfl

theorem posted_interprocess (h : Run (driver goby app) es d) :
    d.net.posted .interprocess = fixes goby (d.net.read .rawIn) :=
  Network.posted_of_sole (net_run happ h) (feeds_positions (Or.inr rfl))

/-- What is published reaches the analyzing thread too. -/
theorem posted_analyze (h : Run (driver goby app) es d) :
    d.net.posted .analyze = d.net.posted .interprocess :=
  (Network.posted_of_sole (net_run happ h) (feeds_positions (Or.inl rfl))).trans
    (posted_interprocess happ h).symm

/-- When the parsing thread has nothing left to do, every line has been dealt with. -/
theorem posted_of_drained (h : Run (driver goby app) es d) (hraw : d.net.Drained .rawIn) :
    d.net.posted .interprocess = fixes goby (heard es) := by
  rw [posted_interprocess happ h, hraw.read_eq, heard_rawIn happ h]

/--
**Positions come out as lines went in.**  Whichever thread runs when, and however
often the driver is switched, the positions that are published are those of the lines
heard while it was on and somebody was there to parse them: in order, none twice, and
all of them once the parsing thread is idle, unless a sentence that is cut off ends the
parsing.  Whoever has subscribed to them has had those published since, in order.
-/
theorem inOrder (h : Run (driver goby app) es d) : InOrder goby es d := by
  obtain ⟨hswitched, hheardOn⟩ := switched_heardOn happ h
  have hstops := Network.stopsOn (net_run happ h) Box.rawIn
  have hgood : ∀ line : Text, (threads goby).fails .rawIn line = false → ¬ Short goby line := by
    intro line hline hshort
    have hfails : (threads goby).fails .rawIn line = true := (escaped_iff line).mpr hshort
    rw [hline] at hfails
    cases hfails
  refine
    { switched := hswitched
      heardOn := hheardOn
      parsed := heard_rawIn happ h ▸ d.net.read_prefix .rawIn
      published := posted_interprocess happ h
      analyzed := posted_analyze happ h ▸ d.net.read_infix .analyze
      received := d.net.read_infix .interprocess
      complete := posted_of_drained happ h
      completeAnalyzed := ?_
      completeReceived := ?_
      stopped := ?_
      running := ?_ }
  · intro hraw hanalyze n hn
    rw [hanalyze.read_eq_drop hn, ← posted_of_drained happ h hraw]
    exact congrArg (List.drop n) (posted_analyze happ h)
  · intro hraw hother n hn
    rw [hother.read_eq_drop hn, ← posted_of_drained happ h hraw]
  · intro hstopped
    obtain ⟨line, hlast, hfails, hbefore⟩ := hstops.stopped hstopped
    exact ⟨line, hlast, (escaped_iff line).mp hfails, fun l hl => hgood l (hbefore l hl)⟩
  · intro hrunning line hline
    exact hgood line (hstops.running hrunning line hline)

theorem run_command (h : Run (driver goby app) es d) (cmd : GPSCommand) :
    Run (driver goby app) (es ++ [.command cmd]) { d with serialThread := cmd.readGps } :=
  h.snoc (show Step goby app d (.command cmd) _ from (incomingCommand_eq happ d cmd).symm)

end Lawful

theorem run_arrive (h : Run (driver goby app) es d) (hserial : d.serialThread = true)
    (line : Text) :
    Run (driver goby app) (es ++ [.thread (.arrive .rawIn line)])
      { d with net := d.net.arrive Box.rawIn line } :=
  h.snoc (show Step goby app d (.thread _) _ from ⟨fun _ _ _ => hserial, ⟨rfl, rfl⟩, rfl⟩)

theorem run_subscribe (h : Run (driver goby app) es d) (k : Box) (hnone : d.net.since k = none) :
    Run (driver goby app) (es ++ [.thread (.subscribe k)])
      { d with net := d.net.subscribe k hnone } := by
  refine h.snoc (show Step goby app d (.thread _) _ from ⟨fun _ _ hk => ?_, ⟨hnone, rfl⟩, rfl⟩)
  cases hk

theorem run_take (h : Run (driver goby app) es d) (k : Box) (hrunning : d.net.stopped k = false)
    (hlt : d.net.taken k < (d.net.heard k).length) :
    Run (driver goby app) (es ++ [.thread (.take k)])
      { d with net := (threads goby).process d.net k hlt } := by
  refine h.snoc
    (show Step goby app d (.thread _) _ from ⟨fun _ _ hk => ?_, ⟨hrunning, hlt, rfl⟩, rfl⟩)
  cases hk

/-- An application that keeps at most one serial thread. -/
def oneThread : MultiThreadApplication where
  launchThread := fun running => if running then .error "already launched" else .ok true
  joinThread := fun running => if running then .ok false else .error "no thread to join"

theorem oneThread_lawful : oneThread.Lawful := ⟨rfl, ⟨_, rfl⟩, rfl, ⟨_, rfl⟩⟩

/-- A line comes too early to be parsed.  Of the two after it one tells a position and the other is
cut off. -/
theorem inOrder_cut : ∃ es d, Run (driver reading oneThread) es d ∧
    heard es = [ggaLine, "$GPGGA,123519*77".toList] ∧
    (d.net.posted .interprocess).length = 1 ∧ d.net.read .analyze = d.net.posted .interprocess ∧
    d.net.stopped .rawIn = true ∧ InOrder reading es d := by
  have hstart : Run (driver reading oneThread) []
      { serialThread := true, net := (threads reading).empty } := Run.start rfl
  have hearly := run_arrive hstart rfl ggaLine
  have hparsing := run_subscribe hearly .rawIn rfl
  have hanalyzing := run_subscribe hparsing .analyze rfl
  have hoff := run_command oneThread_lawful hanalyzing ⟨false⟩
  have hon := run_command oneThread_lawful hoff ⟨true⟩
  have hheard := run_arrive (run_arrive hon rfl ggaLine) rfl "$GPGGA,123519*77".toList
  have hparsed := run_take hheard .rawIn rfl (by decide +kernel)
  have hcut := run_take hparsed .rawIn (by decide +kernel) (by decide +kernel)
  have hanalyzed := run_take hcut .analyze (by decide +kernel) (by decide +kernel)
  exact ⟨_, _, hanalyzed, by decide +kernel, by decide +kernel, by decide +kernel,
    by decide +kernel, inOrder oneThread_lawful hanalyzed⟩

end GPSDriver

end Gps
