/-
Which frames an acknowledgement names.

The sender numbers frames with an unsigned counter that wraps at 2^32.  The
receiver counts the same frames with a signed loop variable, from `frame_start`
up to `frame_size + frame_start`, both read as `int`.  The loop therefore runs
over the right range as long as that end, in the signed reading, is not below the
start: `ackedFrames_range` says how many steps it takes, and
`receiveMessage_ack_exact_iff` when that is one step for each frame.

Wrapping at 2^32 does no harm, because the signed reading passes through zero
there.  What the loop does not survive is an end at or above 2^31 reached from
below: the end then reads as a negative number and no frame is named at all.
-/
import Mathlib.Algebra.Ring.Int.Defs
import Mathlib.Algebra.Ring.Nat
import Goby3Examples.Lib.Counter
import Goby3Examples.UdpMulticast.Codec

namespace UdpMulticast

open Numbering

/-- `next_frame_` as a counter: it takes 2^32 values and adding to it wraps. -/
def frameCounter : Counter UInt32 where
  num := UInt32.ofNat
  advance := fun a k => a + UInt32.ofNat k
  period := 2 ^ 32
  advance_num := fun p k => (UInt32.ofNat_add p k).symm
  num_inj := by
    intro p q hp hq h
    have := congrArg UInt32.toNat h
    rw [UInt32.toNat_ofNat', UInt32.toNat_ofNat', Nat.mod_eq_of_lt hp, Nat.mod_eq_of_lt hq] at this
    exact this

/-- `start`, `start + 1`, … , `start + k - 1` modulo 2^32. -/
def frameNumbers (start : UInt32) (k : Nat) : List UInt32 :=
  (List.range k).map fun j => start + UInt32.ofNat j

theorem frameNumbers_eq (start : UInt32) (k : Nat) :
    frameNumbers start k = frameCounter.numbers start k := rfl

@[simp] theorem length_frameNumbers (start : UInt32) (k : Nat) :
    (frameNumbers start k).length = k := by simp [frameNumbers]

theorem frameNumbers_succ (start : UInt32) (k : Nat) :
    frameNumbers start (k + 1) = start :: frameNumbers (start + 1) k := by
  simp only [frameNumbers, List.range_succ_eq_map, List.map_cons, List.map_map]
  refine congrArg₂ List.cons (UInt32.add_zero start) (List.map_congr_left fun j _ => ?_)
  show start + UInt32.ofNat (j + 1) = start + 1 + UInt32.ofNat j
  rw [UInt32.ofNat_add, UInt32.add_assoc, UInt32.add_comm 1]
  rfl

namespace Driver

/-! ### What the loop adds -/

/-- The loop names one frame for each `int` from its start up to its end. -/
theorem ackedFrames_range (i n : Int32) :
    ackedFrames i n = frameNumbers i.toUInt32 (n.toInt - i.toInt).toNat := by
  fun_induction ackedFrames i n with
  | case1 i h ih =>
      have hlt := Int32.lt_iff_toInt_lt.mp h
      have hn := n.toInt_lt
      have hi := i.le_toInt
      have hone : (1 : Int32).toInt = 1 := rfl
      -- `++i` stays below the end, so it does not overflow
      have hnext : (i + 1).toInt = i.toInt + 1 := by
        rw [Int32.toInt_add, hone, Int.bmod_eq_of_le (by omega) (by omega)]
      have hcount : (n.toInt - i.toInt).toNat = (n.toInt - (i + 1).toInt).toNat + 1 := by omega
      rw [ih, hcount, frameNumbers_succ, Int32.toUInt32_add]
      rfl
  | case2 i h =>
      have hge : n.toInt ≤ i.toInt := by
        rw [Int32.lt_iff_toInt_lt] at h
        omega
      rw [show (n.toInt - i.toInt).toNat = 0 by omega]
      rfl

theorem loopEnd_toInt (start : UInt32) (k : Nat) :
    (UInt32.ofNat k + start).toInt32.toInt = (start.toInt32.toInt + k).bmod (2 ^ 32) := by
  rw [UInt32.toInt32_add, Int32.toInt_add, UInt32.toInt32_ofNat', Int32.toInt_ofNat', Int.add_comm]
  exact Int.add_bmod_bmod

/-- How many frames the loop names for a message of `k` frames. -/
def ackedCount (start : UInt32) (k : Nat) : Nat :=
  ((start.toInt32.toInt + k).bmod (2 ^ 32) - start.toInt32.toInt).toNat

theorem ackFor_ackedFrame (d : Driver) (msg : ModemTransmission) :
    (d.ackFor msg).ackedFrame =
      frameNumbers msg.frameStartValue (ackedCount msg.frameStartValue msg.frameSize) := by
  simp only [ackFor, ackedFrames_range, loopEnd_toInt, UInt32.toUInt32_toInt32, ackedCount]

/-- While the end is below 2^31 in the signed reading, every frame is named. -/
theorem ackedCount_eq {start : UInt32} {k : Nat} (h : start.toInt32.toInt + k < 2 ^ 31) :
    ackedCount start k = k := by
  have hlo := start.toInt32.le_toInt
  rw [ackedCount, Int.bmod_eq_of_le (by omega) (by omega)]
  omega

theorem ackedCount_lt {start : UInt32} {k : Nat} (h : 2 ^ 31 ≤ start.toInt32.toInt + k) :
    ackedCount start k < k := by
  have hhi := start.toInt32.toInt_lt
  have hend : (start.toInt32.toInt + k).bmod (2 ^ 32) < 2 ^ 31 := by
    have := Int.bmod_lt (x := start.toInt32.toInt + k) (m := 2 ^ 32) (by decide)
    omega
  unfold ackedCount
  omega

theorem ackFor_subset (d : Driver) (msg : ModemTransmission) :
    (d.ackFor msg).ackedFrame ⊆ frameNumbers msg.frameStartValue msg.frameSize := by
  rw [ackFor_ackedFrame]
  refine frameCounter.numbers_subset _ ?_
  by_cases h : msg.frameStartValue.toInt32.toInt + msg.frameSize < 2 ^ 31
  · exact Nat.le_of_eq (ackedCount_eq h)
  · exact Nat.le_of_lt (ackedCount_lt (by omega))

theorem ackFor_eq (d : Driver) {msg : ModemTransmission}
    (h : msg.frameStartValue.toInt32.toInt + msg.frameSize < 2 ^ 31) :
    d.ackFor msg =
      { type := .ack, src := d.driverCfg.modemId, dest := msg.src
        ackedFrame := frameNumbers msg.frameStartValue msg.frameSize } := by
  rw [← ackedCount_eq h, ← d.ackFor_ackedFrame msg]
  rfl

theorem ackFor_exact_iff (d : Driver) (msg : ModemTransmission) :
    (d.ackFor msg).ackedFrame = frameNumbers msg.frameStartValue msg.frameSize ↔
      msg.frameStartValue.toInt32.toInt + msg.frameSize < 2 ^ 31 := by
  rw [ackFor_ackedFrame]
  constructor
  · intro heq
    by_contra hge
    have hlen := congrArg List.length heq
    simp only [length_frameNumbers] at hlen
    have : ackedCount msg.frameStartValue msg.frameSize < msg.frameSize :=
      ackedCount_lt (by omega)
    omega
  · intro h
    rw [ackedCount_eq h]

/-! ### What is sent -/

variable (pb : Protobuf)

theorem receiveMessage_of_acks (d : Driver) {msg : ModemTransmission} (h : d.acks msg = true) :
    (d.receiveMessage pb msg).2 =
      (d.startSend pb (d.ackFor msg)).2 ++ [.signalReceive msg] := by
  simp [receiveMessage, h]

theorem acks_eq_true {d : Driver} {msg : ModemTransmission} :
    d.acks msg = true ↔
      msg.type = .data ∧ msg.ackRequested = true ∧ msg.dest = d.driverCfg.modemId := by
  simp [acks, and_assoc]

/-- The driver answers a message with one acknowledgement, which names exactly its frames. -/
def AckExact (d : Driver) (msg : ModemTransmission) : Prop :=
  ∃ ack : ModemTransmission,
    (d.receiveMessage pb msg).2 = (d.startSend pb ack).2 ++ [.signalReceive msg] ∧
      ack.type = .ack ∧ ack.src = d.driverCfg.modemId ∧ ack.dest = msg.src ∧
      ack.ackedFrame = frameNumbers msg.frameStartValue msg.frameSize

theorem ackExact_iff_ackFor {d : Driver} {msg : ModemTransmission} (h : d.acks msg = true) :
    AckExact pb d msg ↔
      (d.ackFor msg).ackedFrame = frameNumbers msg.frameStartValue msg.frameSize := by
  have hsent := receiveMessage_of_acks pb d h
  constructor
  · rintro ⟨ack, hout, -, -, -, hframes⟩
    -- the message sent is also the one reported by `signal_transmit_result`
    have hsame : d.ackFor msg = ack := by
      rw [hsent] at hout
      have hout' := (List.append_inj hout rfl).1
      simp only [startSend, List.cons.injEq, Output.signalTransmitResult.injEq] at hout'
      exact hout'.2.2.1
    rw [hsame]
    exact hframes
  · intro hframes
    exact ⟨d.ackFor msg, hsent, rfl, rfl, rfl, hframes⟩

/--
**The acknowledgement sent for a message is exact if and only if the signed
reading of `frame_start`, plus the number of frames, stays below 2^31.**
-/
theorem receiveMessage_ack_exact_iff (d : Driver) (msg : ModemTransmission)
    (hdata : msg.type = .data) (hack : msg.ackRequested = true)
    (hdest : msg.dest = d.driverCfg.modemId) :
    AckExact pb d msg ↔ msg.frameStartValue.toInt32.toInt + msg.frameSize < 2 ^ 31 := by
  rw [ackExact_iff_ackFor pb (acks_eq_true.mpr ⟨hdata, hack, hdest⟩)]
  exact ackFor_exact_iff d msg

/-- A driver for modem 1. -/
def modemOne : Driver := { driverCfg := { modemId := 1 } }

/-- One frame for it, with this number. -/
def oneFrameAt (start : UInt32) : ModemTransmission :=
  { type := .data, src := 2, dest := 1, ackRequested := true, frameStart := some start,
    frame := [[0]] }

/-- The last number of all is acknowledged: wrapping at 2^32 does no harm. -/
theorem receiveMessage_ack_exact_wrap : AckExact .wire modemOne (oneFrameAt 4294967295) :=
  (receiveMessage_ack_exact_iff .wire modemOne (oneFrameAt 4294967295) rfl rfl rfl).mpr (by decide)

/-- The frame numbered 2^31 - 1 is never acknowledged: the loop ends before it starts. -/
theorem receiveMessage_ack_straddle : ¬ AckExact .wire modemOne (oneFrameAt 2147483647) := by
  rw [ackExact_iff_ackFor .wire (by decide), ackFor_exact_iff]
  decide

end Driver

end UdpMulticast
