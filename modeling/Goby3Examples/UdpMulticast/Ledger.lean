/-
What an initiation depends on.

A driver sends, hears, acknowledges, is shut down and started again, and between
any two of these it may be told to initiate a transmission.  Of all that happened
before, two things matter then: the configuration of the last `startup`, and how
many frames it has been given since it was constructed.  That is a `Ledger`, and
`agrees` says that every session keeps one.

In particular `startup` forgets the rates of the configuration before, and does not
begin to number the frames again.  Whether the socket is open is no part of it: a
driver that has been shut down hands over what it would have sent, and the socket
refuses.
-/
import Goby3Examples.UdpMulticast.ReceiveLoop
import Goby3Examples.UdpMulticast.Sending

namespace UdpMulticast

open Proactor Runs

/-! ### The ledger -/

/-- The size of a frame at this rate: that of the last pair for it, or `max_frame_size`. -/
def Config.frameLimit (cfg : Config) (rate : Int) : Int :=
  ((cfg.rateToBytes.reverse.find? (·.rate = rate)).map (·.bytes)).getD cfg.maxFrameSize

/-- The configuration and the frame counter. -/
structure Ledger where
  cfg : DriverConfig
  nextFrame : UInt32

namespace Ledger

variable (l : Ledger) (hooks : Hooks) (origMsg : ModemTransmission)

/-- The message with which data is requested. -/
def request : ModemTransmission :=
  let msg := hooks.modifyTransmission origMsg
  { msg with
    frameStart := some (msg.frameStart.getD l.nextFrame)
    maxFrameBytes :=
      some (msg.maxFrameBytes.getD (UInt32.ofInt (l.cfg.config.frameLimit msg.rate))) }

/-- The message once the data is in it. -/
def buffered : ModemTransmission := hooks.dataRequest (l.request hooks origMsg)

/-- A startup counts even when it throws: it has taken the configuration by then. -/
def next (l : Ledger) : Call → Ledger
  | .startup cfg _ => { l with cfg }
  | .handleInitiateTransmission hooks origMsg =>
    { l with nextFrame := l.nextFrame + UInt32.ofNat (l.buffered hooks origMsg).frameSize }
  | .shutdown | .doWork _ | .completed _ _ => l

/-- What the calls come to. -/
def of (es : List Call) : Ledger := es.foldl next { cfg := { modemId := 0 }, nextFrame := 0 }

theorem of_snoc (es : List Call) (c : Call) : of (es ++ [c]) = (of es).next c := by
  unfold of
  rw [List.foldl_append]
  rfl

end Ledger

/-! ### The rates -/

/-- `rate_to_bytes_[rate] = bytes`, for each pair. -/
def Config.rates (cfg : Config) : List (Int × Int) :=
  cfg.rateToBytes.foldl (fun m p => (p.rate, p.bytes) :: m) []

theorem rates_eq (cfg : Config) :
    cfg.rates = (cfg.rateToBytes.map fun p => (p.rate, p.bytes)).reverse := by
  unfold Config.rates
  generalize cfg.rateToBytes = pairs
  suffices h : ∀ acc : List (Int × Int), pairs.foldl (fun m p => (p.rate, p.bytes) :: m) acc =
      (pairs.map fun p => (p.rate, p.bytes)).reverse ++ acc by
    have hnone := h []
    rw [List.append_nil] at hnone
    exact hnone
  induction pairs with
  | nil => simp
  | cons p pairs ih =>
      intro acc
      simp [ih]

/-- A pair that comes later takes the place of one for the same rate. -/
theorem lookup_rates (cfg : Config) (rate : Int) :
    cfg.rates.lookup rate = (cfg.rateToBytes.reverse.find? (·.rate = rate)).map (·.bytes) := by
  rw [rates_eq, ← List.map_reverse]
  induction cfg.rateToBytes.reverse with
  | nil => rfl
  | cons p pairs ih =>
      rw [List.map_cons, List.lookup_cons, List.find?_cons]
      by_cases hrate : p.rate = rate
      · simp [hrate]
      · have hne : (rate == p.rate) = false := by simpa using Ne.symm hrate
        simp [hrate, hne, ih]

/-! ### What a driver has of its ledger -/

/-- The driver holds what the ledger says. -/
structure Ledger.Agrees (l : Ledger) (d : Driver) : Prop where
  cfg : d.driverCfg = l.cfg
  rates : d.rateToBytes = l.cfg.config.rates
  nextFrame : d.nextFrame = l.nextFrame

namespace Ledger.Agrees

variable {l : Ledger} {d : Driver}

theorem async (h : l.Agrees d) (op : Operation) : l.Agrees (d.async op) := ⟨h.1, h.2, h.3⟩

variable (pb : Protobuf)

theorem startSend (h : l.Agrees d) (msg : ModemTransmission) : l.Agrees (d.startSend pb msg).1 :=
  h.async _

theorem receiveMessage (h : l.Agrees d) (msg : ModemTransmission) :
    l.Agrees (d.receiveMessage pb msg).1 := by
  unfold Driver.receiveMessage
  by_cases hacks : d.acks msg = true
  · rw [if_pos hacks]
    exact h.startSend pb _
  · rw [if_neg hacks]
    exact h

theorem receiveComplete (h : l.Agrees d) (r : Completion) :
    l.Agrees (d.receiveComplete pb r).1 := by
  rw [Driver.receiveComplete_fst]
  apply Ledger.Agrees.async
  cases r with
  | error e => exact h
  | ok bytes =>
      unfold Driver.received
      by_cases hsrc : (pb.parseFromArray bytes).2.src ≠ d.driverCfg.modemId
      · simp only [if_pos hsrc]
        exact h.receiveMessage pb _
      · simp only [if_neg hsrc]
        exact h

theorem withIo (h : l.Agrees d) (io : IoContext Operation Completion) :
    l.Agrees { d with ioContext := io } := ⟨h.1, h.2, h.3⟩

/-- Whatever a `do_work` runs. -/
theorem keeps : (Driver.loop pb).Keeps l.Agrees where
  finish := fun _ h _ => h.withIo _
  run := by
    intro d op r rest h _
    cases op with
    | receive => exact (h.withIo _).receiveComplete pb r
    | send bytes => exact h.withIo _
  exhausted := fun h _ _ => h.withIo _

theorem setFrameStart (h : l.Agrees d) (msg : ModemTransmission) :
    d.setFrameStart msg = { msg with frameStart := some (msg.frameStart.getD l.nextFrame) } := by
  unfold Driver.setFrameStart
  rw [h.nextFrame]
  obtain ⟨_, _, _, _, _, frameStart, _, _, _⟩ := msg
  cases frameStart with
  | none => rfl
  | some start => rfl

theorem setMaxFrameBytes (h : l.Agrees d) (msg : ModemTransmission) :
    d.setMaxFrameBytes msg =
      { msg with
        maxFrameBytes :=
          some (msg.maxFrameBytes.getD (UInt32.ofInt (l.cfg.config.frameLimit msg.rate))) } := by
  unfold Driver.setMaxFrameBytes Config.frameLimit
  rw [h.rates, h.cfg, lookup_rates]
  obtain ⟨_, _, _, rate, _, _, maxFrameBytes, _, _⟩ := msg
  cases maxFrameBytes with
  | none =>
      cases hpair : l.cfg.config.rateToBytes.reverse.find? (·.rate = rate) with
      | none => simp
      | some p => simp
  | some limit => rfl

theorem buffered (h : l.Agrees d) (hooks : Hooks) (origMsg : ModemTransmission) :
    d.buffered hooks origMsg = l.buffered hooks origMsg := by
  unfold Driver.buffered Ledger.buffered Ledger.request
  rw [h.setFrameStart, h.setMaxFrameBytes]

theorem handleInitiateTransmission (h : l.Agrees d) (hooks : Hooks) (origMsg : ModemTransmission) :
    (l.next (.handleInitiateTransmission hooks origMsg)).Agrees
      (d.handleInitiateTransmission pb hooks origMsg).1 := by
  have hcounted : (l.next (.handleInitiateTransmission hooks origMsg)).Agrees
      { d with nextFrame := d.nextFrame + UInt32.ofNat (d.buffered hooks origMsg).frameSize } := by
    refine ⟨h.cfg, h.rates, ?_⟩
    simp only [Ledger.next, h.buffered, h.nextFrame]
  unfold Driver.handleInitiateTransmission
  simp only
  split
  · exact hcounted.startSend pb _
  · exact hcounted

end Ledger.Agrees

/-! ### Sessions -/

/-- Before the first `startup` there is no configuration to agree on, and nothing to count. -/
structure Ledger.Kept (es : List Call) (s : Session) : Prop where
  fresh : s.phase = .constructed → s.driver.nextFrame = (Ledger.of es).nextFrame ∧
    s.driver.ioContext.pending = []
  agrees : s.phase ≠ .constructed → (Ledger.of es).Agrees s.driver

namespace Ledger.Kept

variable {es : List Call} {s : Session}

/-- Counted from the construction, with or without a `startup` since. -/
theorem nextFrame (h : Kept es s) : s.driver.nextFrame = (Ledger.of es).nextFrame := by
  by_cases hphase : s.phase = .constructed
  · exact (h.fresh hphase).1
  · exact (h.agrees hphase).nextFrame

theorem step (pb : Protobuf) {s' : Session} {c : Call} (h : Kept es s)
    (hstep : s.Step pb c s') : Kept (es ++ [c]) s' := by
  cases c with
  | startup cfg thrown =>
      obtain ⟨-, rfl⟩ := hstep
      refine ⟨fun hphase => ?_, fun _ => ?_⟩
      · cases hphase
      · rw [Ledger.of_snoc]
        cases thrown with
        | some call => exact ⟨rfl, rfl, h.nextFrame⟩
        | none =>
            have hset : ((Ledger.of es).next (.startup cfg none)).Agrees { s.driver with
                driverCfg := cfg
                rateToBytes := cfg.config.rates
                socketOpen := true
                receiver := (cfg.config.multicastAddress, cfg.config.multicastPort) } :=
              ⟨rfl, rfl, h.nextFrame⟩
            exact hset.async _
  | shutdown =>
      obtain ⟨hphase, rfl⟩ := hstep
      have hagrees := h.agrees (by rw [hphase]; decide)
      refine ⟨fun hphase => ?_, fun _ => ?_⟩
      · cases hphase
      · rw [Ledger.of_snoc]
        exact ⟨hagrees.cfg, hagrees.rates, hagrees.nextFrame⟩
  | doWork ran =>
      obtain ⟨hphase, hsame, hpoll⟩ := hstep
      refine ⟨fun hc => absurd (hsame ▸ hc) hphase, fun _ => ?_⟩
      rw [Ledger.of_snoc]
      exact hpoll.invariant (Agrees.keeps pb) (h.agrees hphase)
  | handleInitiateTransmission hooks origMsg =>
      obtain ⟨hphase, rfl⟩ := hstep
      refine ⟨fun hc => absurd hc hphase, fun _ => ?_⟩
      rw [Ledger.of_snoc]
      exact (h.agrees hphase).handleInitiateTransmission pb hooks origMsg
  | completed op r =>
      obtain ⟨hop, rfl⟩ := hstep
      have hphase : s.phase ≠ .constructed := by
        intro hc
        rw [(h.fresh hc).2] at hop
        cases hop
      refine ⟨fun hc => absurd hc hphase, fun _ => ?_⟩
      rw [Ledger.of_snoc]
      exact (h.agrees hphase).withIo _

theorem of_run {pb : Protobuf} (h : Run (sessions pb) es s) : Kept es s := by
  refine h.invariant (I := Kept) ?_ ?_
  · intro s hs
    obtain ⟨cfg, rfl⟩ := hs
    exact ⟨fun _ => ⟨rfl, rfl⟩, fun hphase => absurd rfl hphase⟩
  · intro es s c s' _ hkept hstep
    exact hkept.step pb hstep

end Ledger.Kept

/-- The configuration that allows frames of these sizes at rate 1. -/
def rated (bytes : List Int) : DriverConfig where
  modemId := 1
  config := { rateToBytes := bytes.map fun n => { rate := 1, bytes := n } }

end UdpMulticast
