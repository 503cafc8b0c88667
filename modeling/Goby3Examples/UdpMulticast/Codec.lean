/-
What the driver may rely on of protobuf.

Only one thing is ever assumed: parsing the bytes a message was serialized to
gives the message back.  `Protobuf.RoundTrip` is that law.

`Protobuf.wire` is a format that has it, so that the law can be put to use on
actual bytes.  It is not protobuf's own encoding, whose field numbers are not in
the repository, but it fails in the same two ways: bytes that end too early are
refused, and bytes that go on after the last field are refused with the fields
already in the message.
-/
import Goby3Examples.Lib.Codec
import Goby3Examples.UdpMulticast.Driver

namespace UdpMulticast

/-- `ParseFromArray(SerializeToString(m)) = m`, and it succeeds. -/
structure Protobuf.RoundTrip (pb : Protobuf) : Prop where
  parse_serialize : ∀ msg, pb.parseFromArray (pb.serializeToString msg) = (true, msg)

open Wire.Format

namespace TransmissionType

/-- A type as a number, and which one if it is another. -/
def toTag : TransmissionType → Nat × Int
  | data => (1, 0)
  | ack => (2, 0)
  | other v => (0, v)

/-- And back. -/
def ofTag : Nat × Int → TransmissionType
  | (1, _) => data
  | (2, _) => ack
  | (_, v) => other v

theorem ofTag_toTag (t : TransmissionType) : ofTag (toTag t) = t := by
  cases t <;> rfl

/-- How a type is written. -/
def format : Wire.Format TransmissionType := (nat.pair int).via toTag ofTag ofTag_toTag

end TransmissionType

namespace ModemTransmission

/-- The fields of a message, one after another. -/
def fields (m : ModemTransmission) :
    TransmissionType × Int × Int × Int × Bool × Option UInt32 × Option UInt32 ×
      List Bytes × List UInt32 :=
  (m.type, m.src, m.dest, m.rate, m.ackRequested, m.frameStart, m.maxFrameBytes, m.frame,
    m.ackedFrame)

/-- And back. -/
def ofFields :
    TransmissionType × Int × Int × Int × Bool × Option UInt32 × Option UInt32 ×
      List Bytes × List UInt32 → ModemTransmission
  | (type, src, dest, rate, ackRequested, frameStart, maxFrameBytes, frame, ackedFrame) =>
    { type, src, dest, rate, ackRequested, frameStart, maxFrameBytes, frame, ackedFrame }

/-- How a message is written. -/
def format : Wire.Format ModemTransmission :=
  (TransmissionType.format.pair <| int.pair <| int.pair <| int.pair <| bool.pair <|
    uint32.option.pair <| uint32.option.pair <| byte.list.list.pair uint32.list).via
    fields ofFields fun _ => rfl

end ModemTransmission

/-- A message none of whose fields has been read. -/
def unread : ModemTransmission := { type := .other 0, src := -1, dest := -1 }

/-- A Protobuf that writes field after field, and leaves a message unread that is not all of it. -/
def Protobuf.wire : Protobuf where
  serializeToString := ModemTransmission.format.put
  parseFromArray := fun bytes =>
    match ModemTransmission.format.get bytes with
    | none => (false, unread)
    | some (msg, rest) => (rest.isEmpty, msg)

/-- A message with more bytes after it: all its fields are read, and the parser reports failure
exactly when there are such bytes. -/
theorem Protobuf.wire_parse_append (msg : ModemTransmission) (rest : Bytes) :
    Protobuf.wire.parseFromArray (Protobuf.wire.serializeToString msg ++ rest) =
      (rest.isEmpty, msg) := by
  simp only [Protobuf.wire, ModemTransmission.format.get_put]

theorem Protobuf.wire_roundTrip : Protobuf.wire.RoundTrip := by
  refine ⟨fun msg => ?_⟩
  have h := Protobuf.wire_parse_append msg []
  rwa [List.append_nil] at h

end UdpMulticast
