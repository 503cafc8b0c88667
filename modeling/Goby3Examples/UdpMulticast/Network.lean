/-
Drivers on one multicast group.

Every datagram ever sent stays in `channel`, and delivering one hands it to a
driver without taking it out.  A datagram that is never delivered is lost, one
delivered twice is duplicated, and nothing says in which order they come; the
sender hears its own as well.

Beside the drivers the world keeps two things nobody can look at: what each
driver has handed up, and every frame that has passed through its
`handle_initiate_transmission`, with the number it got.  The numbers come from
the message the driver arrived at, not from the counter, so that the two agree is
something to prove.
-/
import Mathlib.Logic.Function.Basic
import Goby3Examples.Lib.Runs
import Goby3Examples.UdpMulticast.Ack

namespace UdpMulticast

open Numbering Runs

/-! ### What an output list says -/

/-- The datagrams among what a driver does. -/
def datagrams (outs : List Output) : List Bytes :=
  outs.filterMap fun
    | .asyncSendTo bytes => some bytes
    | _ => none

/-- The messages that it hands up. -/
def handedUp (outs : List Output) : List ModemTransmission :=
  outs.filterMap fun
    | .signalReceive msg => some msg
    | _ => none

@[simp] theorem datagrams_append (xs ys : List Output) :
    datagrams (xs ++ ys) = datagrams xs ++ datagrams ys := List.filterMap_append

@[simp] theorem handedUp_append (xs ys : List Output) :
    handedUp (xs ++ ys) = handedUp xs ++ handedUp ys := List.filterMap_append

/-- The hooks leave `type`, `src`, `dest` and `frame_start` alone. -/
structure Hooks.Faithful (hooks : Hooks) : Prop where
  modify : ∀ m, (hooks.modifyTransmission m).type = m.type ∧
    (hooks.modifyTransmission m).src = m.src ∧ (hooks.modifyTransmission m).dest = m.dest ∧
    (hooks.modifyTransmission m).frameStart = m.frameStart
  request : ∀ m, (hooks.dataRequest m).type = m.type ∧ (hooks.dataRequest m).src = m.src ∧
    (hooks.dataRequest m).dest = m.dest ∧ (hooks.dataRequest m).frameStart = m.frameStart

namespace Driver

variable (pb : Protobuf)

/-! ### One driver's part -/

theorem setMaxFrameBytes_keeps (d : Driver) (m : ModemTransmission) :
    (d.setMaxFrameBytes m).type = m.type ∧ (d.setMaxFrameBytes m).src = m.src ∧
      (d.setMaxFrameBytes m).frameStart = m.frameStart := by
  unfold setMaxFrameBytes
  split
  · split <;> exact ⟨rfl, rfl, rfl⟩
  · exact ⟨rfl, rfl, rfl⟩

/-- With faithful hooks the message keeps type and source, and its frames start at the counter. -/
theorem buffered_spec (d : Driver) {hooks : Hooks} (hf : hooks.Faithful) {m : ModemTransmission}
    (hm : m.frameStart = none) :
    (d.buffered hooks m).type = m.type ∧ (d.buffered hooks m).src = m.src ∧
      (d.buffered hooks m).frameStartValue = d.nextFrame := by
  obtain ⟨ht, hs, -, hstart⟩ := hf.modify m
  have hset : d.setFrameStart (hooks.modifyTransmission m) =
      { hooks.modifyTransmission m with frameStart := some d.nextFrame } := by
    simp [setFrameStart, hstart, hm]
  obtain ⟨ht₁, hs₁, hstart₁⟩ :=
    d.setMaxFrameBytes_keeps (d.setFrameStart (hooks.modifyTransmission m))
  obtain ⟨ht₂, hs₂, -, hstart₂⟩ :=
    hf.request (d.setMaxFrameBytes (d.setFrameStart (hooks.modifyTransmission m)))
  rw [hset] at ht₁ hs₁ hstart₁
  refine ⟨?_, ?_, ?_⟩
  · rw [buffered, ht₂, hset, ht₁, ht]
  · rw [buffered, hs₂, hset, hs₁, hs]
  · rw [buffered, ModemTransmission.frameStartValue, hstart₂, hset, hstart₁]
    rfl

/-- What initiating does: the counter moves on by the frames, sent or not, and what is sent is
the message itself. -/
theorem handleInitiateTransmission_spec (d : Driver) (hooks : Hooks) (m : ModemTransmission) :
    (d.handleInitiateTransmission pb hooks m).1.driverCfg = d.driverCfg ∧
      (d.handleInitiateTransmission pb hooks m).1.nextFrame =
        d.nextFrame + UInt32.ofNat (d.buffered hooks m).frameSize ∧
      handedUp (d.handleInitiateTransmission pb hooks m).2 = [] ∧
      datagrams (d.handleInitiateTransmission pb hooks m).2 ⊆
        [pb.serializeToString (d.buffered hooks m)] := by
  simp only [handleInitiateTransmission]
  split
  · exact ⟨rfl, rfl, rfl, List.Subset.refl _⟩
  · exact ⟨rfl, rfl, rfl, List.nil_subset _⟩

theorem receiveMessage_spec (d : Driver) (m : ModemTransmission) :
    (d.receiveMessage pb m).1.driverCfg = d.driverCfg ∧
      (d.receiveMessage pb m).1.nextFrame = d.nextFrame ∧
      handedUp (d.receiveMessage pb m).2 = [m] ∧
      datagrams (d.receiveMessage pb m).2 =
        if d.acks m then [pb.serializeToString (d.ackFor m)] else [] := by
  unfold receiveMessage
  split <;> exact ⟨rfl, rfl, rfl, rfl⟩

/-- The outstanding receive is over and its handler is the next to run. -/
def takeReceive (d : Driver) : Driver :=
  { d with ioContext := { d.ioContext with pending := d.ioContext.pending.erase .receive } }

/-- A datagram reaches the driver: its receive ends and the handler runs. -/
def hear (d : Driver) (bytes : Bytes) : Driver × List Output :=
  d.takeReceive.receiveComplete pb (.ok bytes)

theorem hear_spec (d : Driver) {bytes : Bytes} {ok : Bool} {m : ModemTransmission}
    (hparse : pb.parseFromArray bytes = (ok, m)) :
    (d.hear pb bytes).1.driverCfg = d.driverCfg ∧
      (d.hear pb bytes).1.nextFrame = d.nextFrame ∧
      handedUp (d.hear pb bytes).2 = (if m.src ≠ d.driverCfg.modemId then [m] else []) ∧
      datagrams (d.hear pb bytes).2 =
        if m.src ≠ d.driverCfg.modemId ∧ d.acks m then [pb.serializeToString (d.ackFor m)]
        else [] := by
  obtain ⟨hcfg, hnext, hup, hsend⟩ := receiveMessage_spec pb d.takeReceive m
  simp only [hear, receiveComplete, hparse]
  by_cases h : m.src = d.driverCfg.modemId
  · have h' : ¬ m.src ≠ d.takeReceive.driverCfg.modemId := not_not.mpr h
    rw [if_neg h', if_neg (not_not.mpr h), if_neg (fun hc => hc.1 h)]
    exact ⟨rfl, rfl, rfl, rfl⟩
  · have h' : m.src ≠ d.takeReceive.driverCfg.modemId := h
    rw [if_pos h', if_pos h]
    refine ⟨hcfg, hnext, hup, ?_⟩
    -- taking the receive away changes nothing the answer depends on
    have hsend' : datagrams (d.takeReceive.receiveMessage pb m).2 =
        if d.acks m then [pb.serializeToString (d.ackFor m)] else [] := hsend
    show datagrams (d.takeReceive.receiveMessage pb m).2 = _
    by_cases hacks : d.acks m = true
    · rw [hsend', if_pos hacks, if_pos ⟨h, hacks⟩]
    · rw [hsend', if_neg hacks, if_neg (fun hc => hacks hc.2)]

end Driver

/-! ### The world -/

/-- A frame that passed through `handle_initiate_transmission`, and in which message. -/
structure SentFrame where
  frame : Bytes
  transmission : ModemTransmission
  deriving DecidableEq

/-- The frames of a message with their numbers. -/
def ModemTransmission.numbered (m : ModemTransmission) : List (UInt32 × SentFrame) :=
  frameCounter.label m.frameStartValue (m.frame.map fun f => ⟨f, m⟩)

/-- The drivers of a group, and what has come of their messages. -/
structure World (ι : Type) where
  driver : ι → Driver
  /-- Every datagram sent to the group so far. -/
  channel : List Bytes
  /-- Every frame each driver was given, with the number it assigned to it. -/
  history : ι → List (UInt32 × SentFrame)
  /-- Everything each driver has handed to `signal_receive`. -/
  received : ι → List ModemTransmission

/-- A driver is told to initiate a transmission, or a datagram is delivered to it. -/
inductive Event (ι : Type)
  | initiate (i : ι) (hooks : Hooks) (msg : ModemTransmission)
  | deliver (i : ι) (bytes : Bytes)

namespace World

variable {ι : Type} [DecidableEq ι] (pb : Protobuf)

/-- The drivers have been started. -/
def start (cfg : ι → DriverConfig) : World ι where
  driver := fun i => ({ driverCfg := cfg i } : Driver).startup (cfg i) none
  channel := []
  history := fun _ => []
  received := fun _ => []

/-- A driver has done this. -/
def act (w : World ι) (i : ι) (r : Driver × List Output) (frames : List (UInt32 × SentFrame)) :
    World ι where
  driver := Function.update w.driver i r.1
  channel := w.channel ++ datagrams r.2
  history := Function.update w.history i (w.history i ++ frames)
  received := Function.update w.received i (w.received i ++ handedUp r.2)

/-- A driver is told to initiate a transmission. -/
def initiate (w : World ι) (i : ι) (hooks : Hooks) (msg : ModemTransmission) : World ι :=
  w.act i ((w.driver i).handleInitiateTransmission pb hooks msg)
    ((w.driver i).buffered hooks msg).numbered

/-- A driver hears a datagram. -/
def deliver (w : World ι) (i : ι) (bytes : Bytes) : World ι :=
  w.act i ((w.driver i).hear pb bytes) []

/-- What an event does: drivers are told to send data of their own, and hear what has been sent. -/
def Step (w : World ι) (e : Event ι) (w' : World ι) : Prop :=
  match e with
  | .initiate i hooks msg =>
    msg.type = .data ∧ msg.src = (w.driver i).driverCfg.modemId ∧ msg.frameStart = none ∧
      hooks.Faithful ∧ w' = w.initiate pb i hooks msg
  | .deliver i bytes => bytes ∈ w.channel ∧ w' = w.deliver pb i bytes

/-- The group, from the moment all its members have started. -/
def group (cfg : ι → DriverConfig) : System (World ι) (Event ι) where
  init := fun w => w = start cfg
  step := Step pb

variable {pb} {cfg : ι → DriverConfig}

theorem run_initiate {es : List (Event ι)} {w : World ι} (h : Run (group pb cfg) es w) (i : ι)
    {hooks : Hooks} {msg : ModemTransmission} (hf : hooks.Faithful) (hdata : msg.type = .data)
    (hsrc : msg.src = (w.driver i).driverCfg.modemId) (hstart : msg.frameStart = none) :
    Run (group pb cfg) (es ++ [.initiate i hooks msg]) (w.initiate pb i hooks msg) := by
  refine h.snoc ?_
  show Step pb w (.initiate i hooks msg) _
  exact ⟨hdata, hsrc, hstart, hf, rfl⟩

theorem run_deliver {es : List (Event ι)} {w : World ι} (h : Run (group pb cfg) es w) (i : ι)
    {bytes : Bytes} (hbytes : bytes ∈ w.channel) :
    Run (group pb cfg) (es ++ [.deliver i bytes]) (w.deliver pb i bytes) := by
  refine h.snoc ?_
  show Step pb w (.deliver i bytes) _
  exact ⟨hbytes, rfl⟩

/-! ### What a delivery changes -/

theorem deliver_channel (w : World ι) (i : ι) {bytes : Bytes} {ok : Bool} {m : ModemTransmission}
    (hparse : pb.parseFromArray bytes = (ok, m)) :
    (w.deliver pb i bytes).channel = w.channel ++
      if m.src ≠ (w.driver i).driverCfg.modemId ∧ (w.driver i).acks m then
        [pb.serializeToString ((w.driver i).ackFor m)]
      else [] := by
  rw [deliver, act, ((w.driver i).hear_spec pb hparse).2.2.2]

theorem deliver_received (w : World ι) (i : ι) {bytes : Bytes} {ok : Bool} {m : ModemTransmission}
    (hparse : pb.parseFromArray bytes = (ok, m)) :
    (w.deliver pb i bytes).received i = w.received i ++
      if m.src ≠ (w.driver i).driverCfg.modemId then [m] else [] := by
  rw [deliver, act, ((w.driver i).hear_spec pb hparse).2.2.1]
  exact Function.update_self ..

@[simp] theorem deliver_history (w : World ι) (i : ι) (bytes : Bytes) :
    (w.deliver pb i bytes).history = w.history := by
  simp [deliver, act]

/-! ### Everything only grows -/

theorem channel_act (w : World ι) (i : ι) (r : Driver × List Output)
    (frames : List (UInt32 × SentFrame)) : w.channel ⊆ (w.act i r frames).channel :=
  List.subset_append_left _ _

theorem history_act (w : World ι) (i : ι) (r : Driver × List Output)
    (frames : List (UInt32 × SentFrame)) (j : ι) :
    w.history j ⊆ (w.act i r frames).history j := by
  by_cases h : j = i
  · subst h
    simp [act]
  · simp [act, h]

theorem received_act (w : World ι) (i : ι) (r : Driver × List Output)
    (frames : List (UInt32 × SentFrame)) (j : ι) :
    w.received j ⊆ (w.act i r frames).received j := by
  by_cases h : j = i
  · subst h
    simp [act]
  · simp [act, h]

end World

end UdpMulticast
