/-
The chat program's `main`, `chat.cpp`.

It takes its two ids from the command line, builds the medium access cycle from
them, and then goes round for ever: a key is read, a line that is complete is
queued, and Goby gets a turn.  What Goby does with its turn shows here only in
the functions it calls back, all of which write to the chat log.

The cycle comes in the three variants that the two macros at the top of the file
choose from.
-/
import Mathlib.Data.List.Induction
import Goby3Examples.Lib.Numeral
import Goby3Examples.Chat.Curses

namespace Chat

open Numeral

/-! ### The command line -/

/-- How the first part of `main` ends: with what it wrote to `std::cerr`, or with what it read. -/
inductive Startup
  | startupFailure (cerr : List Text)
  | goesOn (serialPort : Text) (myId buddyId : Int) (logFile : Text)
  deriving DecidableEq, Repr

/-- The usage follows whatever was wrong. -/
def startupFailure (cerr : List Text) : Startup :=
  .startupFailure (cerr ++ ["usage: chat /dev/tty_modem my_id buddy_id log_file".toList])

/-- What `main` says of ids that are no numbers. -/
def badIds (myId buddyId : Text) : Text :=
  "bad value for my_id: ".toList ++ myId ++ " or buddy_id: ".toList ++ buddyId ++
    ". these must be unsigned integers.".toList

/-- `main`, up to where it opens the log file. -/
def parseArguments (argv : List Text) : Startup :=
  match argv with
  | [_, serialPort, myId, buddyId, logFile] =>
    match (do return (← stoi myId, ← stoi buddyId) : Except StoiError (Int × Int)) with
    | .error .invalidArgument => startupFailure [badIds myId buddyId]
    | .error .outOfRange => startupFailure [badIds myId buddyId]
    | .ok (my, buddy) => .goesOn serialPort my buddy logFile
  | _ => startupFailure []

/-! ### The medium access cycle -/

/-- What the two macros choose. -/
inductive Variant
  | default
  | useFlexibleDataPacket
  | useTwoWayPing
  deriving DecidableEq, Repr

/-- The `type` of a slot, the values that are set. -/
inductive TransmissionType
  | data
  | driverSpecific
  deriving DecidableEq, Repr

/-- The type in the micromodem's own part of a slot. -/
inductive MicromodemType
  | flexibleData
  | twoWayPing
  deriving DecidableEq, Repr

/-- `goby::acomms::protobuf::ModemTransmission`, the fields a slot sets. -/
structure ModemTransmission where
  src : Option Int := none
  dest : Option Int := none
  type : Option TransmissionType := none
  micromodemType : Option MicromodemType := none
  maxFrameBytes : Option Nat := none
  rate : Option Int := none
  slotSeconds : Option Nat := none
  deriving DecidableEq, Repr

/-- `my_slot` -/
def mySlot (v : Variant) (myId buddyId : Int) : ModemTransmission :=
  let slot : ModemTransmission := { src := some myId, dest := some buddyId }
  let slot :=
    match v with
    | .useFlexibleDataPacket =>
      { slot with
        type := some .driverSpecific
        micromodemType := some .flexibleData
        maxFrameBytes := some 32
        rate := some 1 }
    | .useTwoWayPing =>
      { slot with type := some .driverSpecific, micromodemType := some .twoWayPing }
    | .default => { slot with type := some .data, rate := some 0 }
  { slot with slotSeconds := some 12 }

/-- `buddy_slot` -/
def buddySlot (v : Variant) (myId buddyId : Int) : ModemTransmission :=
  let slot : ModemTransmission :=
    { src := some buddyId, dest := some myId, slotSeconds := some 12 }
  match v with
  | .useFlexibleDataPacket =>
    { slot with
      type := some .driverSpecific
      micromodemType := some .flexibleData
      maxFrameBytes := some 32
      rate := some 1 }
  | .useTwoWayPing =>
    { slot with type := some .driverSpecific, micromodemType := some .twoWayPing }
  | .default => { slot with type := some .data, rate := some 0 }

/-- `goby::acomms::protobuf::MACConfig`, its type being `MAC_FIXED_DECENTRALIZED`. -/
structure MACConfig where
  modemId : Int
  slot : List ModemTransmission
  deriving DecidableEq, Repr

/-- `mac_cfg`: of two stations the one with the lower id comes first. -/
def macCfg (v : Variant) (myId buddyId : Int) : MACConfig where
  modemId := myId
  slot :=
    if myId < buddyId then [mySlot v myId buddyId, buddySlot v myId buddyId]
    else [buddySlot v myId buddyId, mySlot v myId buddyId]

/-! ### The loop -/

/-- `ChatMessage`, from `chat.proto`. -/
structure ChatMessage where
  destination : Int
  source : Int
  telegram : Text
  deriving DecidableEq, Repr

/-- `max_length` of `ChatMessage.telegram`. -/
def telegramMaxLength : Nat := 26

/-- What is called back from `do_work`, once each. -/
inductive Callback
  | monitorMac (src : Int)
  | monitorModemReceive (rangingReply : Text)
  | receivedData (source : Int) (telegram : Text)
  | receivedAck (src : Int) (telegram : Text)
  deriving DecidableEq, Repr

/-- What the program keeps while it runs. -/
structure Program where
  myId : Int
  buddyId : Int
  curses : ChatCurses
  /-- What was given to `q_manager_.push_message`, oldest first. -/
  pushed : List ChatMessage := []
  deriving DecidableEq, Repr

namespace Program

/-- The program when its loop begins. -/
def start (myId buddyId : Int) : Program where
  myId := myId
  buddyId := buddyId
  curses := (({} : ChatCurses).setModemId (UInt32.ofInt myId)).startup

/-- What a callback writes to the chat log. -/
def callback (s : Program) (cb : Callback) : Program :=
  { s with
    curses :=
      match cb with
      | .monitorMac src =>
        if src = s.myId then s.curses.postMessage "\x7bcontrol\x7d starting send to my buddy".toList
        else if src = s.buddyId then
          s.curses.postMessage "\x7bcontrol\x7d my buddy might be sending to me now".toList
        else s.curses
      | .monitorModemReceive rangingReply => s.curses.postMessage rangingReply
      | .receivedData source telegram => s.curses.postMessageFrom (UInt32.ofInt source) telegram
      | .receivedAck src telegram =>
        s.curses.postMessageFrom (UInt32.ofInt src)
          ("\x7b acknowledged receiving message starting with: ".toList ++ telegram.take 5 ++
            " \x7d".toList) }

/-- The first half of the loop's body: a key, and the line it may complete. -/
def input (keys : Keypad) (s : Program) (key : UInt32) : Program :=
  let r := s.curses.runInput keys [] key
  { s with
    curses := r.1
    pushed :=
      if r.2 ≠ [] then
        s.pushed ++ [{ telegram := r.2, destination := s.buddyId, source := s.myId }]
      else s.pushed }

/-- Once round the loop: the key that was read, and what Goby called back after it. -/
structure Turn where
  key : UInt32
  callbacks : List Callback := []
  deriving DecidableEq, Repr

/-- One time around the loop: a key, and the callbacks it makes room for. -/
def turn (keys : Keypad) (s : Program) (t : Turn) : Program :=
  t.callbacks.foldl callback (s.input keys t.key)

/-- So many times around it. -/
def run (keys : Keypad) (myId buddyId : Int) (ts : List Turn) : Program :=
  ts.foldl (turn keys) (start myId buddyId)

theorem run_snoc (keys : Keypad) (myId buddyId : Int) (ts : List Turn) (t : Turn) :
    run keys myId buddyId (ts ++ [t]) = turn keys (run keys myId buddyId ts) t := by
  rw [run, List.foldl_append]
  rfl

/-! ### Whatever is called back, the line that is being typed is left alone -/

/-- The two states differ in the chat log only. -/
structure SameLine (s s' : Program) : Prop where
  lowerWin : s'.curses.lowerWin = s.curses.lowerWin
  lineBuffer : s'.curses.lineBuffer = s.curses.lineBuffer
  pushed : s'.pushed = s.pushed

theorem callback_sameLine (s : Program) (cb : Callback) : SameLine s (s.callback cb) := by
  cases cb with
  | monitorMac src =>
      simp only [callback]
      split
      · exact ⟨rfl, rfl, rfl⟩
      · split <;> exact ⟨rfl, rfl, rfl⟩
  | monitorModemReceive rangingReply => exact ⟨rfl, rfl, rfl⟩
  | receivedData source telegram => exact ⟨rfl, rfl, rfl⟩
  | receivedAck src telegram => exact ⟨rfl, rfl, rfl⟩

theorem foldl_callback_sameLine (s : Program) (cbs : List Callback) :
    SameLine s (cbs.foldl callback s) := by
  induction cbs generalizing s with
  | nil => exact ⟨rfl, rfl, rfl⟩
  | cons cb cbs ih =>
      have hfirst := s.callback_sameLine cb
      have hrest := ih (s.callback cb)
      exact
        ⟨hrest.lowerWin.trans hfirst.lowerWin, hrest.lineBuffer.trans hfirst.lineBuffer,
          hrest.pushed.trans hfirst.pushed⟩

/-- So a turn does to the line what its key does. -/
theorem turn_sameLine (keys : Keypad) (s : Program) (t : Turn) :
    SameLine (s.input keys t.key) (turn keys s t) := foldl_callback_sameLine _ _

theorem run_printable (keys : Keypad) (myId buddyId : Int) (ts : List Turn) :
    ∀ ch ∈ (run keys myId buddyId ts).curses.lineBuffer, Printable ch := by
  induction ts using List.reverseRecOn with
  | nil => exact fun ch hch => absurd hch List.not_mem_nil
  | append_singleton ts t ih =>
      rw [run_snoc, (turn_sameLine keys _ t).lineBuffer]
      exact (runInput_input keys _ t.key).printable ih

end Program

end Chat
