/-
The pluggable UDP multicast modem driver, `udp_multicast_driver.cpp`.

Every member function is here under its own name, as a function from the driver
to the driver and to the list of what it did outside: the signals it raised and
the datagrams it handed to its socket, in order.  The two hooks that
`handle_initiate_transmission` calls are arguments.

Two things the driver uses are not part of the repository.  Protobuf's two
conversions are the structure `Protobuf`; nothing is assumed of them here.  The
`io_context` and the socket are `Proactor.IoContext`, with one pending operation
for each asynchronous call whose result is not known yet.  The synchronous calls
with which `startup` prepares the socket can throw; which one does, if any, is an
argument of `startup`.
-/
import Mathlib.Data.List.Basic
import Goby3Examples.Lib.Proactor

namespace UdpMulticast

/-- A `std::string` of bytes. -/
abbrev Bytes := List UInt8

/-! ### Messages and configuration -/

/-- `ModemTransmission::TransmissionType`; the driver tells two of its values apart. -/
inductive TransmissionType
  | data
  | ack
  | other (value : Int)
  deriving DecidableEq, Repr

/--
`goby::acomms::protobuf::ModemTransmission`, the fields this driver touches.  A
field it asks `has_` of is an `Option`; the defaults below are those of a field
that is not set.
-/
structure ModemTransmission where
  type : TransmissionType
  src : Int
  dest : Int
  rate : Int := 0
  ackRequested : Bool := false
  frameStart : Option UInt32 := none
  maxFrameBytes : Option UInt32 := none
  frame : List Bytes := []
  ackedFrame : List UInt32 := []
  deriving DecidableEq, Repr

namespace ModemTransmission

/-- `frame_start()`: zero when the field is not set. -/
def frameStartValue (msg : ModemTransmission) : UInt32 := msg.frameStart.getD 0

/-- `frame_size()` -/
def frameSize (msg : ModemTransmission) : Nat := msg.frame.length

end ModemTransmission

/-- An entry of `rate_to_bytes`. -/
structure RateBytesPair where
  rate : Int
  bytes : Int
  deriving DecidableEq, Repr

/-- `udp_multicast.protobuf.config`, with the defaults of its declaration. -/
structure Config where
  listenAddress : String := "0.0.0.0"
  multicastAddress : String := "239.142.0.1"
  multicastPort : Nat := 50021
  maxFrameSize : Int := 1400
  rateToBytes : List RateBytesPair := []
  deriving DecidableEq, Repr

/-- `DriverConfig`, what this driver reads of it. -/
structure DriverConfig where
  modemId : Int
  config : Config := {}
  deriving DecidableEq, Repr

/-- Protobuf's serializer and parser for `ModemTransmission`.  The parser answers whether it
succeeded and what the message holds afterwards, which after a failure is what it had read. -/
structure Protobuf where
  serializeToString : ModemTransmission → Bytes
  parseFromArray : Bytes → Bool × ModemTransmission

/-! ### The driver -/

/-- What `async_receive_from` and `async_send_to` start. -/
inductive Operation
  | receive
  | send (bytes : Bytes)
  deriving DecidableEq, Repr

/-- The `boost::system::error_code`s a completion handler can be given. -/
inductive ErrorCode
  | operationAborted
  | badDescriptor
  | other (value : Int)
  deriving DecidableEq, Repr

/-- How an operation ended: with an error, or with the bytes it moved. -/
abbrev Completion := Except ErrorCode Bytes

/-- What a member function does outside the driver. -/
inductive Output
  | signalRawOutgoing (raw : Bytes)
  | asyncSendTo (bytes : Bytes)
  | signalTransmitResult (msg : ModemTransmission)
  | signalRawIncoming (raw : Bytes)
  | signalReceive (msg : ModemTransmission)
  deriving DecidableEq, Repr

/-- `PluggableUDPMulticastDriver`, its members in the order of the class. -/
structure Driver where
  driverCfg : DriverConfig
  ioContext : Proactor.IoContext Operation Completion := {}
  socketOpen : Bool := false
  receiver : String × Nat := ("", 0)
  nextFrame : UInt32 := 0
  /-- `std::map<int, int>`: the entry assigned last comes first. -/
  rateToBytes : List (Int × Int) := []

/-- What `signal_modify_transmission` and `signal_data_request` do to the message. -/
structure Hooks where
  modifyTransmission : ModemTransmission → ModemTransmission
  dataRequest : ModemTransmission → ModemTransmission

/-- The calls of `startup` that throw when they fail, in their order. -/
inductive StartupCall
  | makeListenAddress
  | openSocket
  | setReuseAddress
  | bind
  | makeMulticastAddress
  | joinGroup
  deriving DecidableEq, Repr

/-- The calls that come after the socket was opened. -/
def StartupCall.opened : StartupCall → Bool
  | .makeListenAddress | .openSocket => false
  | .setReuseAddress | .bind | .makeMulticastAddress | .joinGroup => true

namespace Driver

/-- The socket takes an operation; on a closed one it fails at once. -/
def async (d : Driver) (op : Operation) : Driver :=
  { d with
    ioContext :=
      if d.socketOpen then d.ioContext.start op
      else d.ioContext.post op (.error .badDescriptor) }

section Async

variable (d : Driver) (op : Operation)

@[simp] theorem async_socketOpen : (d.async op).socketOpen = d.socketOpen := rfl

@[simp] theorem async_stopped : (d.async op).ioContext.stopped = d.ioContext.stopped := by
  unfold async
  split <;> rfl

@[simp] theorem async_outstanding (p : Operation → Bool) :
    (d.async op).ioContext.outstanding p = d.ioContext.outstanding p + if p op then 1 else 0 := by
  unfold async
  split <;> simp

theorem async_ready (h : d.socketOpen = true) :
    (d.async op).ioContext.ready = d.ioContext.ready := by
  simp [async, h, Proactor.IoContext.start]

end Async

/-- `start_receive` -/
def startReceive (d : Driver) : Driver := d.async .receive

/-- `startup`, to its end or to the call that threw. -/
def startup (d : Driver) (cfg : DriverConfig) (thrown : Option StartupCall) : Driver :=
  let d : Driver :=
    { d with
      driverCfg := cfg
      rateToBytes := cfg.config.rateToBytes.foldl (fun m p => (p.rate, p.bytes) :: m) [] }
  match thrown with
  | some call => { d with socketOpen := d.socketOpen || call.opened }
  | none =>
    startReceive
      { d with
        socketOpen := true
        receiver := (cfg.config.multicastAddress, cfg.config.multicastPort) }

/-- `shutdown`; closing the socket ends what is under way on it. -/
def shutdown (d : Driver) : Driver :=
  { d with
    ioContext := d.ioContext.stop.finishAll (.error .operationAborted)
    socketOpen := false }

variable (pb : Protobuf)

/-- `start_send`; the bytes go with the operation, whose handler does not look at them. -/
def startSend (d : Driver) (msg : ModemTransmission) : Driver × List Output :=
  let bytes := pb.serializeToString msg
  (d.async (.send bytes),
    [.signalRawOutgoing bytes, .asyncSendTo bytes, .signalTransmitResult msg])

/-- `if (!msg.has_frame_start()) msg.set_frame_start(next_frame_)` -/
def setFrameStart (d : Driver) (msg : ModemTransmission) : ModemTransmission :=
  if msg.frameStart.isNone then { msg with frameStart := some d.nextFrame } else msg

/-- `if (!msg.has_max_frame_bytes())`, from the rate or from the configuration -/
def setMaxFrameBytes (d : Driver) (msg : ModemTransmission) : ModemTransmission :=
  if msg.maxFrameBytes.isNone then
    match d.rateToBytes.lookup msg.rate with
    | some bytes => { msg with maxFrameBytes := some (UInt32.ofInt bytes) }
    | none => { msg with maxFrameBytes := some (UInt32.ofInt d.driverCfg.config.maxFrameSize) }
  else msg

/-- The message `handle_initiate_transmission` arrives at, both hooks having run. -/
def buffered (d : Driver) (hooks : Hooks) (origMsg : ModemTransmission) : ModemTransmission :=
  hooks.dataRequest (d.setMaxFrameBytes (d.setFrameStart (hooks.modifyTransmission origMsg)))

/-- `handle_initiate_transmission`; nothing is sent whose first frame is empty. -/
def handleInitiateTransmission (d : Driver) (hooks : Hooks) (origMsg : ModemTransmission) :
    Driver × List Output :=
  let msg := d.buffered hooks origMsg
  let d := { d with nextFrame := d.nextFrame + UInt32.ofNat msg.frameSize }
  if !(msg.frameSize == 0 || (msg.frame.headD []).isEmpty) then d.startSend pb msg else (d, [])

/-- `for (; i < n; ++i) ack.add_acked_frame(i)`, in the loop's own `int`s. -/
def ackedFrames (i n : Int32) : List UInt32 :=
  if i < n then i.toUInt32 :: ackedFrames (i + 1) n else []
termination_by (n.toInt - i.toInt).toNat
decreasing_by
  rename_i h
  have hi := Int32.lt_iff_toInt_lt.mp h
  have hn := n.toInt_lt
  have hlo := i.le_toInt
  have hone : (1 : Int32).toInt = 1 := rfl
  rw [Int32.toInt_add, hone, Int.bmod_eq_of_le (by omega) (by omega)]
  omega

/-- The acknowledgement of a message. -/
def ackFor (d : Driver) (msg : ModemTransmission) : ModemTransmission :=
  { type := .ack
    src := d.driverCfg.modemId
    dest := msg.src
    ackedFrame :=
      ackedFrames msg.frameStartValue.toInt32
        (UInt32.ofNat msg.frameSize + msg.frameStartValue).toInt32 }

/-- The condition under which there is one. -/
def acks (d : Driver) (msg : ModemTransmission) : Bool :=
  msg.type == .data && msg.ackRequested && msg.dest == d.driverCfg.modemId

/-- `receive_message`; the acknowledgement goes out before the message is handed up. -/
def receiveMessage (d : Driver) (msg : ModemTransmission) : Driver × List Output :=
  let sent := if d.acks msg then d.startSend pb (d.ackFor msg) else (d, [])
  (sent.1, sent.2 ++ [.signalReceive msg])

/-- `send_complete`: it writes to the log only. -/
def sendComplete (d : Driver) (_ : Completion) : Driver := d

/-- `receive_complete`; every branch ends in `start_receive`. -/
def receiveComplete (d : Driver) (result : Completion) : Driver × List Output :=
  match result with
  | .error _ => (d.startReceive, [])
  | .ok bytes =>
    -- the answer of ParseFromArray is dropped here
    let msg := (pb.parseFromArray bytes).2
    -- reject messages to ourselves
    let received :=
      if msg.src ≠ d.driverCfg.modemId then d.receiveMessage pb msg else (d, [])
    (received.1.startReceive, .signalRawIncoming bytes :: received.2)

/-- The handler that an operation was started with. -/
def handler (op : Operation) (result : Completion) (d : Driver) : Driver :=
  match op with
  | .receive => (d.receiveComplete pb result).1
  | .send _ => d.sendComplete result

/-- The driver as the owner of its `io_context`. -/
def loop : Proactor.Loop Driver Operation Completion where
  io := ioContext
  withIo := fun d io => { d with ioContext := io }
  handler := handler pb
  io_withIo := fun _ _ => rfl

/-- `do_work`: one poll of the `io_context`, with the handlers it ran. -/
def DoWork (d : Driver) (ran : List (Operation × Completion)) (d' : Driver) : Prop :=
  (loop pb).Poll d ran d'

end Driver

end UdpMulticast
