/-
The receive loop, and what shutting down does to it.

A driver hears as long as one receive is outstanding and its `io_context` runs.
The completion handler keeps the first: whatever a receive ended with, it starts
exactly one more, which is `receiveComplete_rearms`.  So from a startup on, and
for as long as nobody shuts the driver down, it stays alive: `hearing_keeps` says
so of a poll, `Session.life_step` of every call, and `Hearing.alive` is what it
comes to.

`shutdown` stops the `io_context`, and nothing in the driver ever restarts it.
A second `startup` opens the socket and starts a receive whose handler can never
run, so the driver is deaf from the first `shutdown` on.  A `startup` that throws
does so before it starts a receive, and leaves the driver without one.
`alive_iff_no_shutdown` puts these together: in the runs of the system below a
started driver is alive exactly when its startup returned and the run has no
`shutdown` in it.
-/
import Goby3Examples.Lib.Runs
import Goby3Examples.UdpMulticast.Codec

namespace UdpMulticast

open Proactor Runs

/-- Receives and sends share one context. -/
def Operation.isReceive : Operation → Bool
  | .receive => true
  | .send _ => false

namespace Driver

variable (pb : Protobuf)

/-! ### Re-arming

What each member function does to the receives, to the stop flag and to the
socket.  Nothing below looks into a function again.
-/

/-- How many receives have been started whose handler has not run. -/
def receives (d : Driver) : Nat := d.ioContext.outstanding Operation.isReceive

@[simp] theorem startReceive_receives (d : Driver) :
    d.startReceive.receives = d.receives + 1 := by
  simp [startReceive, receives, Operation.isReceive]

/-- The driver after `start_send`; what it sends is an operation of the other kind. -/
theorem startSend_keeps (d : Driver) (msg : ModemTransmission) :
    (d.startSend pb msg).1.receives = d.receives ∧
      (d.startSend pb msg).1.ioContext.stopped = d.ioContext.stopped ∧
      (d.startSend pb msg).1.socketOpen = d.socketOpen := by
  simp [startSend, receives, Operation.isReceive]

theorem receiveMessage_keeps (d : Driver) (msg : ModemTransmission) :
    (d.receiveMessage pb msg).1.receives = d.receives ∧
      (d.receiveMessage pb msg).1.ioContext.stopped = d.ioContext.stopped ∧
      (d.receiveMessage pb msg).1.socketOpen = d.socketOpen := by
  unfold receiveMessage
  by_cases h : d.acks msg = true
  · rw [if_pos h]
    exact startSend_keeps pb d _
  · rw [if_neg h]
    exact ⟨rfl, rfl, rfl⟩

/-- What the completion handler has done before it starts the next receive. -/
def received (d : Driver) : Completion → Driver
  | .error _ => d
  | .ok bytes =>
    if (pb.parseFromArray bytes).2.src ≠ d.driverCfg.modemId then
      (d.receiveMessage pb (pb.parseFromArray bytes).2).1
    else d

theorem receiveComplete_fst (d : Driver) (r : Completion) :
    (d.receiveComplete pb r).1 = (d.received pb r).startReceive := by
  cases r with
  | error e => rfl
  | ok bytes =>
      simp only [receiveComplete, received]
      split <;> rfl

theorem received_keeps (d : Driver) (r : Completion) :
    (d.received pb r).receives = d.receives ∧
      (d.received pb r).ioContext.stopped = d.ioContext.stopped ∧
      (d.received pb r).socketOpen = d.socketOpen := by
  cases r with
  | error e => exact ⟨rfl, rfl, rfl⟩
  | ok bytes =>
      simp only [received]
      split
      · exact receiveMessage_keeps pb d _
      · exact ⟨rfl, rfl, rfl⟩

/-- **Every branch of the completion handler starts exactly one receive.** -/
theorem receiveComplete_rearms (d : Driver) (r : Completion) :
    (d.receiveComplete pb r).1.receives = d.receives + 1 := by
  rw [receiveComplete_fst, startReceive_receives, (received_keeps pb d r).1]

theorem handleInitiateTransmission_keeps (d : Driver) (hooks : Hooks) (msg : ModemTransmission) :
    (d.handleInitiateTransmission pb hooks msg).1.receives = d.receives ∧
      (d.handleInitiateTransmission pb hooks msg).1.ioContext.stopped = d.ioContext.stopped ∧
      (d.handleInitiateTransmission pb hooks msg).1.socketOpen = d.socketOpen := by
  simp only [handleInitiateTransmission]
  split
  · exact startSend_keeps pb _ _
  · exact ⟨rfl, rfl, rfl⟩

theorem startup_stopped (d : Driver) (cfg : DriverConfig) (thrown : Option StartupCall) :
    (d.startup cfg thrown).ioContext.stopped = d.ioContext.stopped := by
  cases thrown with
  | some call => rfl
  | none => rw [startup, startReceive, async_stopped]

/-- A startup that threw leaves the operations as they were. -/
theorem receives_startup_thrown {d : Driver} (cfg : DriverConfig) (call : StartupCall)
    (hnew : d.ioContext = {}) : (d.startup cfg (some call)).receives = 0 := by
  show d.ioContext.outstanding _ = 0
  rw [hnew]
  rfl

/-! ### Hearing -/

/-- What a driver that has been started and not shut down has. -/
structure Hearing (d : Driver) : Prop where
  oneReceive : d.receives = 1
  live : d.ioContext.stopped = false
  isOpen : d.socketOpen = true

theorem hearing_startup {d : Driver} (cfg : DriverConfig) (hnew : d.ioContext = {}) :
    (d.startup cfg none).Hearing := by
  refine ⟨?_, ?_, rfl⟩
  · rw [startup, startReceive_receives]
    show d.ioContext.outstanding _ + 1 = 1
    rw [hnew]
    rfl
  · rw [startup_stopped, hnew]

/-- An operation that finishes is still outstanding until its handler has run. -/
theorem Hearing.finish {d : Driver} (h : d.Hearing) {op : Operation} (r : Completion)
    (hop : op ∈ d.ioContext.pending) : ((loop pb).finish d op r).Hearing :=
  ⟨(IoContext.outstanding_finish _ _ hop r).trans h.oneReceive, h.live, h.isOpen⟩

/-- A handler that runs takes one operation away; the receive handler puts one back. -/
theorem Hearing.run {d : Driver} (h : d.Hearing) {op : Operation} {r : Completion}
    {rest : List (Operation × Completion)} (hready : d.ioContext.ready = (op, r) :: rest) :
    ((loop pb).runHandler d op r rest).Hearing := by
  have hone := h.oneReceive
  set d₀ : Driver := { d with ioContext := { d.ioContext with ready := rest } } with hd₀
  have hpop : d₀.receives + (if op.isReceive then 1 else 0) = d.receives :=
    IoContext.outstanding_pop Operation.isReceive hready
  cases op with
  | receive =>
      show ((d₀.receiveComplete pb r).1).Hearing
      have hnone : d₀.receives = 0 := by
        simp only [Operation.isReceive, if_true] at hpop
        omega
      obtain ⟨-, hstop, hopen⟩ := received_keeps pb d₀ r
      refine ⟨?_, ?_, ?_⟩
      · rw [receiveComplete_rearms, hnone]
      · rw [receiveComplete_fst, startReceive, async_stopped, hstop]
        exact h.live
      · rw [receiveComplete_fst, startReceive, async_socketOpen, hopen]
        exact h.isOpen
  | send bytes =>
      show d₀.Hearing
      exact ⟨hpop.trans hone, h.live, h.isOpen⟩

theorem hearing_keeps : (loop pb).Keeps Hearing where
  finish := fun r h hop => h.finish pb r hop
  run := fun h hready => h.run pb hready
  exhausted := by
    intro d h hpending hready
    have hone := h.oneReceive
    simp [receives, IoContext.outstanding, show d.ioContext.pending = [] from hpending,
      show d.ioContext.ready = [] from hready] at hone

/-- No handler leaves another one waiting while the socket is open. -/
theorem Hearing.quiet {d : Driver} (h : d.Hearing) {op : Operation} {r : Completion}
    {rest : List (Operation × Completion)} (_ : d.ioContext.ready = (op, r) :: rest) :
    ((loop pb).runHandler d op r rest).ioContext.ready = rest := by
  cases op with
  | send bytes => rfl
  | receive =>
      set d₀ : Driver := { d with ioContext := { d.ioContext with ready := rest } } with hd₀
      show ((d₀.receiveComplete pb r).1).ioContext.ready = rest
      have hopen : (d₀.received pb r).socketOpen = true :=
        (received_keeps pb d₀ r).2.2.trans h.isOpen
      rw [receiveComplete_fst, startReceive, async_ready _ _ hopen]
      cases r with
      | error e => rfl
      | ok bytes =>
          simp only [received, receiveMessage]
          split
          · split
            · exact async_ready _ _ h.isOpen
            · rfl
          · rfl

/-- The driver is alive: it listens, and the next `do_work` comes to an end and runs every handler
that waits. -/
structure Alive (d : Driver) : Prop where
  oneReceive : d.receives = 1
  live : d.ioContext.stopped = false
  polls : ∃ d', DoWork pb d d.ioContext.ready d'
  pollRuns : ∀ ran d', DoWork pb d ran d' → d.ioContext.ready <+: ran

theorem Hearing.exists_doWork {d : Driver} (h : d.Hearing) :
    ∃ d', DoWork pb d d.ioContext.ready d' :=
  Loop.exists_poll (hearing_keeps pb) (fun _ h => h.live) (fun h hready => h.quiet pb hready) _ d
    rfl h

theorem Hearing.alive {d : Driver} (h : d.Hearing) : Alive pb d where
  oneReceive := h.oneReceive
  live := h.live
  polls := h.exists_doWork pb
  pollRuns := fun _ _ hpoll =>
    hpoll.ran (hearing_keeps pb) (fun _ h => h.live)
      (fun h hready => by
        show _ <+: ((loop pb).runHandler _ _ _ _).ioContext.ready
        exact (h.quiet pb hready).symm ▸ List.prefix_rfl) h

/-- Without a receive there is no handler that would start one. -/
theorem unarmed_keeps : (loop pb).Keeps fun d => d.receives = 0 where
  finish := fun r h hop => (IoContext.outstanding_finish _ _ hop r).trans h
  run := by
    intro d op r rest h hready
    set d₀ : Driver := { d with ioContext := { d.ioContext with ready := rest } } with hd₀
    have hpop : d₀.receives + (if op.isReceive then 1 else 0) = d.receives :=
      IoContext.outstanding_pop Operation.isReceive hready
    cases op with
    | receive =>
        simp only [Operation.isReceive, if_true] at hpop
        omega
    | send bytes =>
        show d₀.receives = 0
        exact hpop.trans h
  exhausted := fun h _ _ => h

end Driver

/-! ### Runs of calls

The calls a driver gets, with `startup` and `shutdown` taking turns and nothing
before the first `startup`, and the operations that finish between them.  What
finishes during a `do_work` is part of that call.
-/

/-- Which of `startup` and `shutdown` was called last; the former counts also when it threw. -/
inductive Phase
  | constructed
  | started
  | down
  deriving DecidableEq, Repr

/-- A driver and where it is in its life. -/
structure Session where
  driver : Driver
  phase : Phase

/-- What happens to a driver from outside. -/
inductive Call
  | startup (cfg : DriverConfig) (thrown : Option StartupCall)
  | shutdown
  | doWork (ran : List (Operation × Completion))
  | handleInitiateTransmission (hooks : Hooks) (msg : ModemTransmission)
  /-- Not a call: an operation on the socket ends, well or badly. -/
  | completed (op : Operation) (r : Completion)

variable (pb : Protobuf)

/-- One call, in a phase that admits it. -/
def Session.Step (s : Session) (c : Call) (s' : Session) : Prop :=
  match c with
  | .startup cfg thrown => s.phase ≠ .started ∧ s' = ⟨s.driver.startup cfg thrown, .started⟩
  | .shutdown => s.phase = .started ∧ s' = ⟨s.driver.shutdown, .down⟩
  | .doWork ran =>
    s.phase ≠ .constructed ∧ s'.phase = s.phase ∧ Driver.DoWork pb s.driver ran s'.driver
  | .handleInitiateTransmission hooks msg =>
    s.phase ≠ .constructed ∧
      s' = ⟨(s.driver.handleInitiateTransmission pb hooks msg).1, s.phase⟩
  | .completed op r =>
    op ∈ s.driver.ioContext.pending ∧ s' = ⟨(Driver.loop pb).finish s.driver op r, s.phase⟩

/-- The life of one driver, from its construction. -/
def sessions : System Session Call where
  init := fun s => ∃ cfg, s = ⟨{ driverCfg := cfg }, .constructed⟩
  step := Session.Step pb

/-- Every startup of the run returned. -/
def Returned (es : List Call) : Prop := ∀ cfg call, Call.startup cfg (some call) ∉ es

theorem returned_snoc {es : List Call} {c : Call} :
    Returned (es ++ [c]) ↔ Returned es ∧ ∀ cfg call, c ≠ .startup cfg (some call) := by
  simp only [Returned, List.mem_append, List.mem_singleton, not_or, ne_eq]
  constructor
  · intro h
    exact ⟨fun cfg call => (h cfg call).1, fun cfg call => fun hc => (h cfg call).2 hc.symm⟩
  · rintro ⟨hes, hc⟩ cfg call
    exact ⟨hes cfg call, fun heq => hc cfg call heq.symm⟩

/-- What is known of a session from whether it has been shut down, and how it was started. -/
structure Session.Life (es : List Call) (s : Session) : Prop where
  fresh : s.phase = .constructed → s.driver.ioContext = {} ∧ Call.shutdown ∉ es ∧ Returned es
  hearing : s.phase = .started → Call.shutdown ∉ es → Returned es → s.driver.Hearing
  /-- A startup that throws has started no receive. -/
  unarmed : s.phase = .started → Call.shutdown ∉ es → ¬ Returned es → s.driver.receives = 0
  down : s.phase = .down → Call.shutdown ∈ es
  /-- Nobody restarts a stopped `io_context`. -/
  deaf : Call.shutdown ∈ es → s.driver.ioContext.stopped = true

/-- A call that is neither of the two leaves the phase and what has been called. -/
theorem Session.Life.step_of_same {es : List Call} {s s' : Session} {c : Call} (h : s.Life es)
    (hphase : s'.phase = s.phase) (hdown : c ≠ .shutdown)
    (hup : ∀ cfg thrown, c ≠ .startup cfg thrown)
    (hfresh : s.phase ≠ .constructed) (hhear : s.driver.Hearing → s'.driver.Hearing)
    (harm : s.driver.receives = 0 → s'.driver.receives = 0)
    (hstop : s.driver.ioContext.stopped = true → s'.driver.ioContext.stopped = true) :
    s'.Life (es ++ [c]) := by
  have hmem : Call.shutdown ∈ es ++ [c] ↔ Call.shutdown ∈ es := by
    simp [hdown.symm]
  have hret : Returned (es ++ [c]) ↔ Returned es := by
    rw [returned_snoc]
    exact and_iff_left fun cfg call => hup cfg (some call)
  refine ⟨?_, ?_, ?_, ?_, ?_⟩
  · intro hp
    exact absurd (hphase ▸ hp) hfresh
  · intro hp hno hok
    exact hhear (h.hearing (hphase ▸ hp) (hmem.not.mp hno) (hret.mp hok))
  · intro hp hno hok
    exact harm (h.unarmed (hphase ▸ hp) (hmem.not.mp hno) (hret.not.mp hok))
  · intro hp
    exact hmem.mpr (h.down (hphase ▸ hp))
  · intro hyes
    exact hstop (h.deaf (hmem.mp hyes))

/-- Every call keeps what is known; only `startup` and `shutdown` add to it. -/
theorem Session.life_step {es : List Call} {s s' : Session} {c : Call} (h : s.Life es)
    (hstep : s.Step pb c s') : s'.Life (es ++ [c]) := by
  cases c with
  | startup cfg thrown =>
      obtain ⟨hphase, rfl⟩ := hstep
      have hdeaf : Call.shutdown ∈ es ++ [.startup cfg thrown] →
          (s.driver.startup cfg thrown).ioContext.stopped = true := by
        intro hyes
        rw [Driver.startup_stopped]
        exact h.deaf (by simpa using hyes)
      -- before the first shutdown it is the first startup
      have hfirst : Call.shutdown ∉ es ++ [.startup cfg thrown] →
          s.driver.ioContext = {} ∧ Returned es := by
        intro hno
        have hno' : Call.shutdown ∉ es := by simpa using hno
        have hconstructed : s.phase = .constructed := by
          cases hp : s.phase with
          | constructed => rfl
          | started => exact absurd hp hphase
          | down => exact absurd (h.down hp) hno'
        exact ⟨(h.fresh hconstructed).1, (h.fresh hconstructed).2.2⟩
      refine ⟨by simp, ?_, ?_, by simp, hdeaf⟩
      · intro _ hno hok
        cases thrown with
        | some call => exact absurd rfl ((returned_snoc.mp hok).2 cfg call)
        | none => exact Driver.hearing_startup cfg (hfirst hno).1
      · intro _ hno hbad
        cases thrown with
        | some call => exact Driver.receives_startup_thrown cfg call (hfirst hno).1
        | none =>
            refine absurd (returned_snoc.mpr ⟨(hfirst hno).2, ?_⟩) hbad
            simp
  | shutdown =>
      obtain ⟨-, rfl⟩ := hstep
      exact ⟨by simp, by simp, by simp, by simp, fun _ => rfl⟩
  | doWork ran =>
      obtain ⟨hphase, hsame, hpoll⟩ := hstep
      refine h.step_of_same hsame (by simp) (by simp) hphase ?_ ?_ ?_
      · exact hpoll.invariant (Driver.hearing_keeps pb)
      · exact hpoll.invariant (Driver.unarmed_keeps pb)
      · intro hstop
        rw [(hpoll.of_stopped hstop).2]
        exact hstop
  | handleInitiateTransmission hooks msg =>
      obtain ⟨hphase, rfl⟩ := hstep
      obtain ⟨hrec, hstop, hopen⟩ :=
        Driver.handleInitiateTransmission_keeps pb s.driver hooks msg
      refine h.step_of_same rfl (by simp) (by simp) hphase ?_ hrec.trans hstop.trans
      intro hh
      exact ⟨hrec.trans hh.oneReceive, hstop.trans hh.live, hopen.trans hh.isOpen⟩
  | completed op r =>
      obtain ⟨hop, rfl⟩ := hstep
      have hphase : s.phase ≠ .constructed := by
        intro hp
        rw [(h.fresh hp).1] at hop
        simp at hop
      refine h.step_of_same rfl (by simp) (by simp) hphase ?_ ?_ id
      · intro hh
        exact hh.finish pb r hop
      · exact (IoContext.outstanding_finish _ _ hop r).trans

theorem Session.life {es : List Call} {s : Session} (h : Run (sessions pb) es s) : s.Life es := by
  refine h.invariant (I := fun es s => s.Life es) ?_ ?_
  · rintro _ ⟨cfg, rfl⟩
    exact ⟨fun _ => ⟨rfl, by simp, by simp [Returned]⟩, by simp, by simp, by simp, by simp⟩
  · intro es s c s' _ hlife hstep
    exact Session.life_step pb hlife hstep

/-- Once shut down, a driver's `do_work` never runs a handler again. -/
theorem doWork_after_shutdown {es : List Call} {s : Session} (h : Run (sessions pb) es s)
    (hdown : Call.shutdown ∈ es) {ran : List (Operation × Completion)} {d' : Driver}
    (hwork : s.driver.DoWork pb ran d') : ran = [] :=
  (hwork.of_stopped ((Session.life pb h).deaf hdown)).1

/-- Nor does the receive that `shutdown` ended go away: `startup` starts another beside it. -/
theorem restart_receives (d : Driver) (cfg : DriverConfig) :
    (d.shutdown.startup cfg none).receives = d.receives + 1 := by
  have hshutdown : d.shutdown.receives = d.receives := by
    simp [Driver.shutdown, Driver.receives]
  rw [Driver.startup, Driver.startReceive_receives, ← hshutdown]
  rfl

section Runs

variable {pb} {es : List Call} {s : Session} (h : Run (sessions pb) es s)
include h

theorem run_startup (hphase : s.phase ≠ .started) (cfg : DriverConfig)
    (thrown : Option StartupCall) :
    Run (sessions pb) (es ++ [.startup cfg thrown]) ⟨s.driver.startup cfg thrown, .started⟩ :=
  h.snoc (show Session.Step pb s (.startup cfg thrown) _ from ⟨hphase, rfl⟩)

theorem run_shutdown (hphase : s.phase = .started) :
    Run (sessions pb) (es ++ [.shutdown]) ⟨s.driver.shutdown, .down⟩ :=
  h.snoc (show Session.Step pb s .shutdown _ from ⟨hphase, rfl⟩)

theorem run_completed {op : Operation} (hop : op ∈ s.driver.ioContext.pending) (r : Completion) :
    Run (sessions pb) (es ++ [.completed op r])
      ⟨(Driver.loop pb).finish s.driver op r, s.phase⟩ :=
  h.snoc (show Session.Step pb s (.completed op r) _ from ⟨hop, rfl⟩)

theorem run_doWork (hphase : s.phase ≠ .constructed) {ran : List (Operation × Completion)}
    {d' : Driver} (hwork : s.driver.DoWork pb ran d') :
    Run (sessions pb) (es ++ [.doWork ran]) ⟨d', s.phase⟩ :=
  h.snoc (show Session.Step pb s (.doWork ran) ⟨d', s.phase⟩ from ⟨hphase, rfl, hwork⟩)

end Runs

/--
**A started driver is alive if and only if its startup returned and it has never
been shut down.**  The first life is sound for every order of calls and
completions; every later one is deaf from its `startup` on.
-/
theorem alive_iff_no_shutdown (es : List Call) (s : Session) (h : Run (sessions pb) es s)
    (hrun : s.phase = .started) :
    s.driver.Alive pb ↔ Call.shutdown ∉ es ∧ Returned es := by
  have hlife := Session.life pb h
  constructor
  · intro halive
    have hno : Call.shutdown ∉ es := by
      intro hyes
      have hlive := halive.live
      rw [hlife.deaf hyes] at hlive
      simp at hlive
    refine ⟨hno, ?_⟩
    by_contra hbad
    have hone := halive.oneReceive
    rw [hlife.unarmed hrun hno hbad] at hone
    simp at hone
  · rintro ⟨hno, hok⟩
    exact (hlife.hearing hrun hno hok).alive pb

/-- The driver that the two runs below are about. -/
def modemOneConfig : DriverConfig := { modemId := 1 }

theorem run_modemOne (pb : Protobuf) :
    Run (sessions pb) [.startup modemOneConfig none]
      ⟨({ driverCfg := modemOneConfig } : Driver).startup modemOneConfig none, .started⟩ :=
  run_startup (Run.start ⟨modemOneConfig, rfl⟩) (by decide) modemOneConfig none

/-- A datagram from another modem. -/
def fromModemTwo : Completion :=
  .ok (Protobuf.wire.serializeToString { type := .data, src := 2, dest := 1 })

/-- The driver hears a datagram; it is alive before the poll that sees to it, and after. -/
theorem alive_heardOnce : ∃ d d' : Driver,
    Run (sessions .wire) [.startup modemOneConfig none, .completed .receive fromModemTwo]
        ⟨d, .started⟩ ∧
      d.ioContext.ready = [(.receive, fromModemTwo)] ∧ d.Alive .wire ∧
      Run (sessions .wire) [.startup modemOneConfig none, .completed .receive fromModemTwo,
        .doWork [(.receive, fromModemTwo)]] ⟨d', .started⟩ ∧ d'.Alive .wire := by
  have hheard := run_completed (run_modemOne .wire) List.mem_cons_self
    fromModemTwo
  have halive := (alive_iff_no_shutdown .wire _ _ hheard rfl).mpr (by simp [Returned])
  obtain ⟨d', hwork⟩ := halive.polls
  have hworked := run_doWork hheard (by decide) hwork
  exact ⟨_, d', hheard, rfl, halive, hworked,
    (alive_iff_no_shutdown .wire _ _ hworked rfl).mpr (by simp [Returned])⟩

/-- Started, shut down and started again, the driver has been started and its `io_context` does
not run. -/
theorem not_alive_startedTwice : ∃ d : Driver,
    Run (sessions .wire) [.startup modemOneConfig none, .shutdown, .startup modemOneConfig none]
        ⟨d, .started⟩ ∧ ¬ d.Alive .wire := by
  have hdown := run_shutdown (run_modemOne .wire) rfl
  refine ⟨_, run_startup hdown (by decide) modemOneConfig none, ?_⟩
  intro halive
  exact absurd halive.live (by decide)

end UdpMulticast
