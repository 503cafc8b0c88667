/-
Several chat programs on one channel.

What one of them queues may reach another late, twice or not at all, and nothing
says in which order.  Of Goby and the modems only this is relied on: what is handed
to `received_data` was decoded from a message that some station has queued, and
what is handed to `received_ack` with an acknowledgement is a message queued here.

Nothing in a program looks at who sent what it is handed.  That the number in
front of a line is the number of who typed it comes out of what every station
writes into its own messages, of the codec, and of what can be told from a line of
the window.
-/
import Mathlib.Algebra.Ring.Int.Defs
import Mathlib.Logic.Function.Basic
import Goby3Examples.Lib.Codec
import Goby3Examples.Lib.Runs
import Goby3Examples.Chat.Log

namespace Chat

open Runs

/-! ### What is sent -/

/-- DCCL's codec for `ChatMessage`, which refuses what is out of the bounds of `chat.proto`. -/
structure Dccl where
  encode : ChatMessage → Option (List UInt8)
  decode : List UInt8 → ChatMessage

/-- It reads back what it has encoded. -/
structure Dccl.RoundTrip (dccl : Dccl) : Prop where
  decode_encode : ∀ m bytes, dccl.encode m = some bytes → dccl.decode bytes = m

/-- The ids one of the programs was started with, as `std::stoi` returns them. -/
structure Station where
  myId : Int
  buddyId : Int
  myIdInt : -2 ^ 31 ≤ myId ∧ myId < 2 ^ 31

namespace Program

variable (keys : Keypad) (myId buddyId : Int)

theorem run_ids (ts : List Turn) :
    (run keys myId buddyId ts).myId = myId ∧ (run keys myId buddyId ts).buddyId = buddyId ∧
      (run keys myId buddyId ts).curses.id = UInt32.ofInt myId := by
  induction ts using List.reverseRecOn with
  | nil => exact ⟨rfl, rfl, rfl⟩
  | append_singleton ts t ih =>
      have hinput : ∀ s : Program, (s.input keys t.key).curses.id = s.curses.id := by
        intro s
        have h := runInput_input keys s.curses t.key
        show (s.curses.runInput keys [] t.key).1.id = s.curses.id
        generalize s.curses.runInput keys [] t.key = r at h
        cases h <;> rfl
      obtain ⟨hmy, hbuddy, hid⟩ := foldl_callback_ids t.callbacks
        ((run keys myId buddyId ts).input keys t.key)
      rw [run_snoc]
      exact ⟨hmy.trans ih.1, hbuddy.trans ih.2.1, (hid.trans (hinput _)).trans ih.2.2⟩

/-- What a key pushes: nothing, or the buffer to the buddy. -/
theorem pushed_input (s : Program) (key : UInt32) :
    (s.input keys key).pushed = s.pushed ∨
      (s.input keys key).pushed = s.pushed ++ [⟨s.buddyId, s.myId, s.curses.lineBuffer⟩] := by
  unfold input
  by_cases hline : (s.curses.runInput keys [] key).2 ≠ []
  · refine Or.inr ?_
    rw [← (line_of_buffer keys s.curses key).resolve_left hline]
    simp only [if_pos hline]
  · exact Or.inl (if_neg hline)

/-- Whatever is pushed is a printable line from here to the buddy. -/
theorem pushed_spec (ts : List Turn) :
    ∀ m ∈ (run keys myId buddyId ts).pushed,
      m.source = myId ∧ m.destination = buddyId ∧ ∀ ch ∈ m.telegram, Printable ch := by
  induction ts using List.reverseRecOn with
  | nil => exact fun m hm => absurd hm List.not_mem_nil
  | append_singleton ts t ih =>
      obtain ⟨hmy, hbuddy, -⟩ := run_ids keys myId buddyId ts
      rw [run_snoc, (turn_sameLine keys _ t).pushed]
      intro m hm
      rcases pushed_input keys (run keys myId buddyId ts) t.key with hsame | hmore
      · rw [hsame] at hm
        exact ih m hm
      · rw [hmore] at hm
        rcases List.mem_append.mp hm with hold | hnew
        · exact ih m hold
        · rw [List.mem_singleton.mp hnew]
          exact ⟨hmy, hbuddy, run_printable keys myId buddyId ts⟩

theorem pushed_turn (s : Program) (t : Turn) : s.pushed ⊆ (turn keys s t).pushed := by
  rw [(turn_sameLine keys s t).pushed]
  rcases pushed_input keys s t.key with hsame | hmore
  · rw [hsame]
    exact List.Subset.refl _
  · rw [hmore]
    exact List.subset_append_left _ _

/-- A line that is posted as one's own has been pushed. -/
theorem line_pushed (s : Program) (t : Turn) (h : (s.curses.runInput keys [] t.key).2 ≠ []) :
    ∃ m ∈ (turn keys s t).pushed, m.telegram = (s.curses.runInput keys [] t.key).2 := by
  rw [(turn_sameLine keys s t).pushed]
  unfold input
  simp only [if_pos h]
  exact ⟨_, List.mem_append_right _ List.mem_cons_self, rfl⟩

/-- One more turn, as the window has it. -/
theorem readLog_turn (ts : List Turn) (t : Turn)
    (h : ∀ t' ∈ ts ++ [t], ∀ cb ∈ t'.callbacks, cb.Proper) :
    readLog (turn keys (run keys myId buddyId ts) t).curses.upperWin =
      (run keys myId buddyId ts).logAfter keys
        (readLog (run keys myId buddyId ts).curses.upperWin) t := by
  have hbefore := upperWin_eq keys myId buddyId ts fun t' ht' => h t' (List.mem_append_left _ ht')
  have hold := logged_readable keys myId buddyId ts fun t' ht' => h t' (List.mem_append_left _ ht')
  rw [← run_snoc, upperWin_eq keys myId buddyId _ h, hbefore, readLog_writeLog hold,
    readLog_writeLog (logged_readable keys myId buddyId _ h), logged_snoc]

end Program

/-! ### The channel -/

/-- Everything that is known of the stations. -/
abbrev Channel (ι : Type) := ι → Program

/-- A station goes once round its loop. -/
structure ChannelEvent (ι : Type) where
  station : ι
  turn : Program.Turn

namespace Channel

variable {ι : Type} [DecidableEq ι] (keys : Keypad) (dccl : Dccl) (station : ι → Station)

/-- Some station has queued a message that was encoded so. -/
def Carries (w : Channel ι) (bytes : List UInt8) : Prop :=
  ∃ j, ∃ m ∈ (w j).pushed, dccl.encode m = some bytes

/-- What Goby may call back at a station. -/
def Allows (w : Channel ι) (i : ι) : Callback → Prop
  | .monitorMac _ => True
  | .monitorModemReceive reply => Entry.RangingText reply
  | .receivedData source telegram =>
    ∃ bytes, w.Carries dccl bytes ∧ source = (dccl.decode bytes).source ∧
      telegram = (dccl.decode bytes).telegram
  | .receivedAck _ telegram => ∃ m ∈ (w i).pushed, telegram = m.telegram

/-- A turn of one of them. -/
def turn (w : Channel ι) (e : ChannelEvent ι) : Channel ι :=
  Function.update w e.station (Program.turn keys (w e.station) e.turn)

/-- Only what Goby may call back is called back. -/
def Step (w : Channel ι) (e : ChannelEvent ι) (w' : Channel ι) : Prop :=
  (∀ cb ∈ e.turn.callbacks, w.Allows dccl e.station cb) ∧ w' = w.turn keys e

/-- All stations have just been started. -/
def start : Channel ι := fun i => Program.start (station i).myId (station i).buddyId

/-- The stations, each at its own pace. -/
def conversation : System (Channel ι) (ChannelEvent ι) where
  init := fun w => w = start station
  step := Step keys dccl

/-! ### What can be believed -/

/-- The number on the screen is the id of `j` and of no other station. -/
def Names (j : ι) (id : UInt32) : Prop := ∀ j', UInt32.ofInt (station j').myId = id ↔ j' = j

/-- A line that is shown as said by somebody is one that this somebody has queued. -/
def Genuine (w : Channel ι) : Entry → Prop
  | .said id text => ∃ j, Names station j id ∧ ∃ m ∈ (w j).pushed, m.telegram = text
  | _ => True

/-- What holds of the stations from the start on. -/
structure Sound (w : Channel ι) : Prop where
  /-- Every station is running the program, and has been called back properly. -/
  runs : ∀ i, ∃ ts : List Program.Turn, (∀ t ∈ ts, ∀ cb ∈ t.callbacks, cb.Proper) ∧
    w i = Program.run keys (station i).myId (station i).buddyId ts
  genuine : ∀ i, ∀ e ∈ readLog (w i).curses.upperWin, w.Genuine station e

variable {keys dccl station}

theorem run_turn {es : List (ChannelEvent ι)} {w : Channel ι}
    (h : Run (conversation keys dccl station) es w) {e : ChannelEvent ι}
    (ht : ∀ cb ∈ e.turn.callbacks, w.Allows dccl e.station cb) :
    Run (conversation keys dccl station) (es ++ [e]) (w.turn keys e) :=
  h.snoc ⟨ht, rfl⟩

/-- What has been queued stays queued. -/
theorem pushed_turn (w : Channel ι) (e : ChannelEvent ι) (j : ι) :
    (w j).pushed ⊆ (w.turn keys e j).pushed := by
  by_cases hj : j = e.station
  · subst hj
    simpa [turn] using Program.pushed_turn keys (w e.station) e.turn
  · simp [turn, hj]

theorem Genuine.turn {w : Channel ι} {e : Entry} (h : w.Genuine station e) (t : ChannelEvent ι) :
    (w.turn keys t).Genuine station e := by
  cases e with
  | said id text =>
      obtain ⟨j, hname, m, hm, htext⟩ := h
      exact ⟨j, hname, m, w.pushed_turn t j hm, htext⟩
  | sending | buddySending | ranging reply | acknowledged id start => trivial

omit [DecidableEq ι] in
/-- Two `int`s that are told apart stay so as unsigned numbers on the screen. -/
theorem names_ofInt (hids : Function.Injective fun i => (station i).myId) (j : ι) :
    Names station j (UInt32.ofInt (station j).myId) := by
  intro j'
  constructor
  · intro heq
    have hj := (station j).myIdInt
    have hj' := (station j').myIdInt
    have hnat := congrArg UInt32.toNat heq
    simp only [UInt32.ofInt, UInt32.toNat_ofNat'] at hnat
    refine hids ?_
    show (station j').myId = (station j).myId
    omega
  · rintro rfl
    rfl

section Sound

variable {w : Channel ι}

omit [DecidableEq ι] in
/-- Every message a station has queued bears its number, and fits and can be printed. -/
theorem Sound.pushed (h : w.Sound keys station) {j : ι} {m : ChatMessage}
    (hm : m ∈ (w j).pushed) :
    m.source = (station j).myId ∧ m.telegram.length ≤ telegramMaxLength ∧
      ∀ ch ∈ m.telegram, Printable ch := by
  obtain ⟨ts, -, hrun⟩ := h.runs j
  rw [hrun] at hm
  obtain ⟨hsource, -, hprint⟩ := Program.pushed_spec keys _ _ ts m hm
  exact ⟨hsource, (Program.telegram_fits keys _ _ ts m hm).2, hprint⟩

omit [DecidableEq ι] in
/-- What Goby calls back can be read, and is true. -/
theorem Sound.callback (hdccl : dccl.RoundTrip)
    (hids : Function.Injective fun i => (station i).myId) (h : w.Sound keys station) {i : ι}
    {cb : Callback} (hcb : w.Allows dccl i cb) :
    cb.Proper ∧ ∀ myId buddyId, ∀ e ∈ cb.entry myId buddyId, w.Genuine station e := by
  cases cb with
  | monitorMac src =>
      have hentry : ∀ myId buddyId, ∀ e ∈ (Callback.monitorMac src).entry myId buddyId,
          e = .sending ∨ e = .buddySending := by
        intro myId buddyId e he
        simp only [Callback.entry] at he
        split at he
        · exact Or.inl (Option.some.inj he).symm
        · split at he
          · exact Or.inr (Option.some.inj he).symm
          · cases he
      refine ⟨fun myId buddyId e he => ?_, fun myId buddyId e he => ?_⟩
      · rcases hentry myId buddyId e he with rfl | rfl <;> trivial
      · rcases hentry myId buddyId e he with rfl | rfl <;> trivial
  | monitorModemReceive reply =>
      refine ⟨fun myId buddyId e he => ?_, fun myId buddyId e he => ?_⟩
      · obtain rfl := Option.some.inj he
        exact hcb
      · obtain rfl := Option.some.inj he
        trivial
  | receivedData source telegram =>
      obtain ⟨bytes, ⟨j, m, hm, hencode⟩, rfl, rfl⟩ := hcb
      obtain ⟨hsource, hfits, hprint⟩ := h.pushed hm
      rw [hdccl.decode_encode m bytes hencode]
      refine ⟨fun myId buddyId e he => ?_, fun myId buddyId e he => ?_⟩
      · obtain rfl := Option.some.inj he
        exact ⟨hprint, hfits⟩
      · obtain rfl := Option.some.inj he
        rw [hsource]
        exact ⟨j, names_ofInt hids j, m, hm, rfl⟩
  | receivedAck src telegram =>
      obtain ⟨m, hm, rfl⟩ := hcb
      obtain ⟨-, -, hprint⟩ := h.pushed hm
      refine ⟨fun myId buddyId e he => ?_, fun myId buddyId e he => ?_⟩
      · obtain rfl := Option.some.inj he
        exact fun ch hch => hprint ch (List.mem_of_mem_take hch)
      · obtain rfl := Option.some.inj he
        trivial

/-- **A turn keeps the channel sound**: what it adds to the log is true. -/
theorem Sound.turn (hdccl : dccl.RoundTrip) (hids : Function.Injective fun i => (station i).myId)
    (h : w.Sound keys station) {e : ChannelEvent ι}
    (ht : ∀ cb ∈ e.turn.callbacks, w.Allows dccl e.station cb) :
    (w.turn keys e).Sound keys station := by
  obtain ⟨i, t⟩ := e
  obtain ⟨ts, hproper, hrun⟩ := h.runs i
  have hproper' : ∀ t' ∈ ts ++ [t], ∀ cb ∈ t'.callbacks, cb.Proper := by
    intro t' ht' cb hcb
    rcases List.mem_append.mp ht' with hold | hnew
    · exact hproper t' hold cb hcb
    · rw [List.mem_singleton.mp hnew] at hcb
      exact (h.callback hdccl hids (ht cb hcb)).1
  refine ⟨?_, ?_⟩
  · intro j
    by_cases hj : j = i
    · subst hj
      refine ⟨ts ++ [t], hproper', ?_⟩
      rw [Program.run_snoc, ← hrun]
      exact Function.update_self ..
    · simpa [Channel.turn, hj] using h.runs j
  · intro j e he
    by_cases hj : j = i
    · subst hj
      have he' : e ∈ readLog (Program.turn keys (w j) t).curses.upperWin := by
        simpa [Channel.turn] using he
      rw [hrun, Program.readLog_turn keys _ _ ts t hproper', ← hrun] at he'
      rcases List.mem_append.mp he' with hold | hnew
      · split at hold
        · simp at hold
        · exact (h.genuine j e hold).turn ⟨j, t⟩
      rcases List.mem_append.mp hnew with hline | hcallback
      · split at hline
        · next hne =>
            obtain ⟨m, hm, htext⟩ := Program.line_pushed keys (w j) t hne
            have hid : (w j).curses.id = UInt32.ofInt (station j).myId := by
              rw [hrun]
              exact (Program.run_ids keys (station j).myId (station j).buddyId ts).2.2
            rw [List.mem_singleton.mp hline, ← htext, hid]
            exact ⟨j, names_ofInt hids j, m, by simpa [Channel.turn] using hm, rfl⟩
        · simp at hline
      · obtain ⟨cb, hcb, hentry⟩ := List.mem_filterMap.mp hcallback
        exact ((h.callback hdccl hids (ht cb hcb)).2 _ _ e hentry).turn ⟨j, t⟩
    · exact (h.genuine j e (by simpa [Channel.turn, hj] using he)).turn ⟨i, t⟩

end Sound

theorem sound (hdccl : dccl.RoundTrip) (hids : Function.Injective fun i => (station i).myId)
    {es : List (ChannelEvent ι)} {w : Channel ι} (h : Run (conversation keys dccl station) es w) :
    w.Sound keys station := by
  refine h.state_invariant (I := fun w => w.Sound keys station) ?_ ?_
  · intro w hw
    rw [show w = start station from hw]
    refine ⟨fun i => ⟨[], by simp, rfl⟩, ?_⟩
    intro i e he
    exact absurd he List.not_mem_nil
  · intro w e w' hsound hstep
    obtain ⟨ht, rfl⟩ := hstep
    exact hsound.turn hdccl hids ht

open Wire.Format in
/-- A codec that has the law, and encodes everything. -/
def wireFormat : Wire.Format ChatMessage :=
  (int.pair (int.pair (nat.via Char.toNat Char.ofNat Char.ofNat_toNat).list)).via
    (fun m => (m.destination, m.source, m.telegram)) (fun f => ⟨f.1, f.2.1, f.2.2⟩) fun _ => rfl

/-- The codec that the two stations use. -/
def wire : Dccl where
  encode := fun m => some (wireFormat.put m)
  decode := fun bytes => ((wireFormat.get bytes).map Prod.fst).getD ⟨0, 0, []⟩

theorem wire_roundTrip : wire.RoundTrip := by
  refine ⟨?_⟩
  rintro m _ ⟨⟩
  have hget := wireFormat.get_put m []
  rw [List.append_nil] at hget
  show ((wireFormat.get (wireFormat.put m)).map Prod.fst).getD _ = m
  rw [hget]
  rfl

/-- Station 1 for `false`, station 2 for `true`. -/
def twoStations (i : Bool) : Station :=
  if i then ⟨2, 1, by decide⟩ else ⟨1, 2, by decide⟩

/-- What station 1 types: one letter. -/
def greeting : ChatMessage := { destination := 2, source := 1, telegram := ['h'] }

end Channel

end Chat
