/-
What a datagram that is not a message does to the driver.

`receive_complete` drops the answer of `ParseFromArray` and looks only at what
the message holds afterwards.  A datagram that does not parse is therefore
treated exactly as one that does: it is handed up, and acknowledged if it looks
like data for this modem, unless the sender in it is the modem itself.
`inert_iff` says so for every datagram.

Since the answer is dropped, whether the parser succeeded does not appear in it.
-/
import Goby3Examples.UdpMulticast.Codec

namespace UdpMulticast

/-- The bytes are not a message. -/
def Protobuf.Malformed (pb : Protobuf) (bytes : Bytes) : Prop :=
  (pb.parseFromArray bytes).1 = false

namespace Driver

variable (pb : Protobuf)

/-- The datagram leaves no trace: nothing is handed up or sent, and the driver only waits again. -/
structure Inert (d : Driver) (bytes : Bytes) : Prop where
  noSignalReceive : ∀ msg, .signalReceive msg ∉ (d.receiveComplete pb (.ok bytes)).2
  noSend : ∀ sent, .asyncSendTo sent ∉ (d.receiveComplete pb (.ok bytes)).2
  rearmed : (d.receiveComplete pb (.ok bytes)).1 = d.startReceive

/-! ### The two branches of the completion handler -/

theorem receiveComplete_own {d : Driver} {bytes : Bytes}
    (h : (pb.parseFromArray bytes).2.src = d.driverCfg.modemId) :
    d.receiveComplete pb (.ok bytes) = (d.startReceive, [.signalRawIncoming bytes]) := by
  simp [receiveComplete, h]

theorem receiveComplete_foreign {d : Driver} {bytes : Bytes}
    (h : (pb.parseFromArray bytes).2.src ≠ d.driverCfg.modemId) :
    d.receiveComplete pb (.ok bytes) =
      ((d.receiveMessage pb (pb.parseFromArray bytes).2).1.startReceive,
        .signalRawIncoming bytes :: (d.receiveMessage pb (pb.parseFromArray bytes).2).2) := by
  simp [receiveComplete, h]

theorem signalReceive_mem_receiveMessage (d : Driver) (msg : ModemTransmission) :
    .signalReceive msg ∈ (d.receiveMessage pb msg).2 := by
  simp [receiveMessage]

/-- A datagram is inert exactly when its sender reads as the driver itself. -/
theorem inert_iff (d : Driver) (bytes : Bytes) :
    Inert pb d bytes ↔ (pb.parseFromArray bytes).2.src = d.driverCfg.modemId := by
  constructor
  · intro h
    by_contra hne
    refine h.noSignalReceive (pb.parseFromArray bytes).2 ?_
    rw [receiveComplete_foreign pb hne]
    exact List.mem_cons_of_mem _ (signalReceive_mem_receiveMessage pb d _)
  · intro h
    have hrun := receiveComplete_own pb h
    refine ⟨?_, ?_, ?_⟩
    · intro msg
      rw [hrun]
      simp
    · intro sent
      rw [hrun]
      simp
    · rw [hrun]

/--
**A datagram that does not parse is inert if and only if the `src` left in the
message, read before the failure or its default, is the driver's own modem id.**
-/
theorem malformed_inert_iff (d : Driver) (bytes : Bytes) (_ : pb.Malformed bytes) :
    Inert pb d bytes ↔ (pb.parseFromArray bytes).2.src = d.driverCfg.modemId :=
  inert_iff pb d bytes

/-- Data for modem 1 that asks for an acknowledgement. -/
def requestFrom (src : Int) : ModemTransmission :=
  { type := .data, src, dest := 1, ackRequested := true, frame := [[7]] }

/-- The request with a byte after it that begins a field and does not end it. -/
def cutDatagram (src : Int) : Bytes := Protobuf.wire.serializeToString (requestFrom src) ++ [128]

theorem parse_cutDatagram (src : Int) :
    Protobuf.wire.parseFromArray (cutDatagram src) = (false, requestFrom src) :=
  Protobuf.wire_parse_append (requestFrom src) [128]

theorem malformed_cutDatagram (src : Int) : Protobuf.wire.Malformed (cutDatagram src) :=
  congrArg Prod.fst (parse_cutDatagram src)

/-- A cut datagram under the driver's own id is dropped. -/
theorem malformed_inert_own : Inert .wire { driverCfg := { modemId := 1 } } (cutDatagram 1) :=
  (malformed_inert_iff .wire _ _ (malformed_cutDatagram 1)).mpr
    (congrArg (fun r => r.2.src) (parse_cutDatagram 1))

/-- A cut datagram from modem 2 is not: the parser refuses it and the driver takes it. -/
theorem malformed_not_inert :
    Protobuf.wire.Malformed (cutDatagram 2) ∧
      ¬ Inert .wire { driverCfg := { modemId := 1 } } (cutDatagram 2) := by
  refine ⟨malformed_cutDatagram 2, ?_⟩
  rw [inert_iff, parse_cutDatagram]
  decide

end Driver

end UdpMulticast
