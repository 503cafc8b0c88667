/-
The chat log, read back.

Everything in the upper window is text, and four functions write to it: who sent
a line, that it was acknowledged, that a slot begins and how far away the other
modem is all end up between the same newlines.  What a line says can be told from
the line alone, because nobody can type the one thing that would be taken for an
acknowledgement: it is longer than a message.

So the window is a log of entries.  `logged` keeps that log next to the program,
and the window holds it: all of it since the last resize, in order, each entry
once.
-/
import Goby3Examples.Lib.Delimited
import Goby3Examples.Chat.Screen
import Goby3Examples.Chat.Typing

namespace Chat

open Delimited

/-! ### Entries -/

/-- What is posted when a transmission is started. -/
def sending : Text := "\x7bcontrol\x7d starting send to my buddy".toList

/-- What is posted when the buddy may be sending. -/
def buddySending : Text := "\x7bcontrol\x7d my buddy might be sending to me now".toList

/-- What is posted of an acknowledgement, in front of the message. -/
def acknowledging : Text := "\x7b acknowledged receiving message starting with: ".toList

/-- What a line of the log is about. -/
inductive Entry
  | sending
  | buddySending
  | ranging (reply : Text)
  | said (id : UInt32) (text : Text)
  | acknowledged (id : UInt32) (start : Text)
  deriving DecidableEq, Repr

/-- A line under a station's number. -/
def fromId (id : UInt32) (line : Text) : Text := ("[" ++ toString id ++ "]: ").toList ++ line

namespace Entry

/-- How an entry is written. -/
def line : Entry → Text
  | sending => Chat.sending
  | buddySending => Chat.buddySending
  | ranging reply => reply
  | said id text => fromId id text
  | acknowledged id start => fromId id (acknowledging ++ start ++ " \x7d".toList)

/-- What a line is about, from its text. -/
def read (line : Text) : Entry :=
  match line with
  | '[' :: rest =>
    let id := UInt32.ofNat (Nat.ofDigitChars 10 (cut ']' rest).1 0)
    let body := (cut ']' rest).2.drop 2
    if acknowledging.isPrefixOf body then
      .acknowledged id (body.drop acknowledging.length).dropLast.dropLast
    else .said id body
  | '\x7b' :: _ => if line = Chat.sending then .sending else .buddySending
  | _ => .ranging line

/-- The text of a ranging reply begins with the name of a field and goes on in one line. -/
structure RangingText (reply : Text) : Prop where
  oneLine : '\n' ∉ reply
  noZero : '\x00' ∉ reply
  field : reply.head? ≠ some '[' ∧ reply.head? ≠ some '\x7b'

/-- What the program can be given to write. -/
def Readable : Entry → Prop
  | sending => True
  | buddySending => True
  | ranging reply => RangingText reply
  | said _ text => (∀ ch ∈ text, Printable ch) ∧ text.length ≤ telegramMaxLength
  | acknowledged _ start => ∀ ch ∈ start, Printable ch

end Entry

/-- The entries in a window. -/
def readLog (win : Text) : List Entry := (lines '\n' win).map Entry.read

/-- The text of a log. -/
def writeLog (es : List Entry) : Text := unlines '\n' (es.map Entry.line)

/-! ### Reading what was written -/

theorem toList_toString (id : UInt32) : (toString id).toList = Nat.toDigits 10 id.toNat := by
  show (Nat.repr id.toNat).toList = _
  rw [Nat.toList_repr]

theorem digit_of_mem {id : UInt32} {ch : Char} (h : ch ∈ (toString id).toList) :
    ch.isDigit = true := by
  rw [toList_toString] at h
  exact Nat.isDigit_of_mem_toDigits (by decide) (by decide) h

theorem fromId_eq (id : UInt32) (line : Text) :
    fromId id line = '[' :: ((toString id).toList ++ ']' :: (':' :: ' ' :: line)) := by
  simp [fromId, String.toList_append]

theorem cut_fromId (id : UInt32) (line : Text) :
    cut ']' ((toString id).toList ++ ']' :: (':' :: ' ' :: line)) =
      ((toString id).toList, ':' :: ' ' :: line) := by
  refine cut_append ']' ?_ _
  intro h
  exact absurd (digit_of_mem h) (by decide)

theorem ofDigitChars_toString (id : UInt32) :
    UInt32.ofNat (Nat.ofDigitChars 10 (toString id).toList 0) = id := by
  rw [toList_toString, Nat.ofDigitChars_ten_toDigits, UInt32.ofNat_toNat]

theorem read_fromId (id : UInt32) (line : Text) :
    Entry.read (fromId id line) =
      if acknowledging.isPrefixOf line then
        .acknowledged id (line.drop acknowledging.length).dropLast.dropLast
      else .said id line := by
  rw [fromId_eq]
  simp only [Entry.read, cut_fromId, ofDigitChars_toString, List.drop_succ_cons, List.drop_zero]

/-- **An entry can be told from its line.** -/
theorem read_line {e : Entry} (h : e.Readable) : Entry.read e.line = e := by
  cases e with
  | sending => rfl
  | buddySending => rfl
  | ranging reply =>
      obtain ⟨hbracket, hbrace⟩ := h.field
      show Entry.read reply = _
      unfold Entry.read
      split
      · exact absurd rfl hbracket
      · exact absurd rfl hbrace
      · rfl
  | said id text =>
      -- a telegram is too short to begin like an acknowledgement
      have hshort : ¬ acknowledging.isPrefixOf text = true := by
        rw [List.isPrefixOf_iff_prefix]
        intro hpre
        have hlong : acknowledging.length = 48 := rfl
        have hle := hpre.length_le
        have hfits : text.length ≤ 26 := h.2
        omega
      rw [Entry.line, read_fromId, if_neg hshort]
  | acknowledged id start =>
      have hpre : acknowledging.isPrefixOf (acknowledging ++ start ++ " \x7d".toList) = true := by
        rw [List.isPrefixOf_iff_prefix, List.append_assoc]
        exact List.prefix_append _ _
      rw [Entry.line, read_fromId, if_pos hpre, List.append_assoc, List.drop_left]
      have hclose : start ++ " \x7d".toList = start ++ [' '] ++ ['\x7d'] := by simp
      rw [hclose, List.dropLast_concat, List.dropLast_concat]

theorem printable_ne {ch : Char} (h : Printable ch) : ch ≠ '\n' ∧ ch ≠ '\x00' := by
  refine ⟨?_, ?_⟩
  · rintro rfl
    exact absurd h.1 (by decide)
  · rintro rfl
    exact absurd h.1 (by decide)

/-- Neither a newline nor a zero gets into a line. -/
theorem line_plain {e : Entry} (h : e.Readable) : '\n' ∉ e.line ∧ '\x00' ∉ e.line := by
  have hfrom : ∀ (id : UInt32) {text : Text}, '\n' ∉ text → '\x00' ∉ text →
      '\n' ∉ fromId id text ∧ '\x00' ∉ fromId id text := by
    intro id text hline hzero
    have hdigits : ∀ ch, ch.isDigit = false → ch ∉ (toString id).toList := by
      intro ch hch hmem
      rw [digit_of_mem hmem] at hch
      cases hch
    have hd1 := hdigits '\n' (by decide)
    have hd2 := hdigits '\x00' (by decide)
    rw [fromId_eq]
    simp [hline, hzero, hd1, hd2]
  have hprint : ∀ {text : Text}, (∀ ch ∈ text, Printable ch) → '\n' ∉ text ∧ '\x00' ∉ text := by
    intro text htext
    exact ⟨fun hmem => (printable_ne (htext _ hmem)).1 rfl,
      fun hmem => (printable_ne (htext _ hmem)).2 rfl⟩
  cases e with
  | sending => exact ⟨by decide, by decide⟩
  | buddySending => exact ⟨by decide, by decide⟩
  | ranging reply => exact ⟨h.oneLine, h.noZero⟩
  | said id text =>
      obtain ⟨hline, hzero⟩ := hprint h.1
      exact hfrom id hline hzero
  | acknowledged id start =>
      obtain ⟨hline, hzero⟩ := hprint h
      refine hfrom id ?_ ?_
      · simp only [List.mem_append, not_or]
        exact ⟨⟨by decide, hline⟩, by decide⟩
      · simp only [List.mem_append, not_or]
        exact ⟨⟨by decide, hzero⟩, by decide⟩

/-- **What is in the window is what was written to it.** -/
theorem readLog_writeLog {es : List Entry} (h : ∀ e ∈ es, e.Readable) :
    readLog (writeLog es) = es := by
  have hlines : ∀ l ∈ es.map Entry.line, '\n' ∉ l := by
    intro l hl
    obtain ⟨e, he, rfl⟩ := List.mem_map.mp hl
    exact (line_plain (h e he)).1
  rw [readLog, writeLog, lines_unlines '\n' hlines, List.map_map]
  refine (List.map_congr_left fun e he => ?_).trans (List.map_id es)
  exact read_line (h e he)

theorem writeLog_append (es es' : List Entry) :
    writeLog (es ++ es') = writeLog es ++ writeLog es' := by
  unfold writeLog
  rw [List.map_append, unlines_append]

theorem postMessage_upperWin (c : ChatCurses) {e : Entry} (h : e.Readable) :
    (c.postMessage e.line).upperWin = c.upperWin ++ writeLog [e] := by
  have hall : (e.line ++ ['\n']).takeWhile (· ≠ '\x00') = e.line ++ ['\n'] := by
    rw [List.takeWhile_eq_self_iff]
    intro ch hch
    rcases List.mem_append.mp hch with hline | hend
    · have hne : ch ≠ '\x00' := fun heq => (line_plain h).2 (heq ▸ hline)
      simpa using hne
    · rw [List.mem_singleton.mp hend]
      decide
  show waddstr c.upperWin (e.line ++ ['\n']) = _
  rw [waddstr, hall, writeLog, List.map_singleton, unlines_singleton]

theorem postMessageFrom_upperWin (c : ChatCurses) {id : UInt32} {line : Text} {e : Entry}
    (hline : e.line = fromId id line) (h : e.Readable) :
    (c.postMessageFrom id line).upperWin = c.upperWin ++ writeLog [e] := by
  have hpost : c.postMessageFrom id line = c.postMessage (fromId id line) := rfl
  rw [hpost, ← hline]
  exact postMessage_upperWin c h

/-! ### What a turn writes -/

namespace Callback

/-- What a callback says, if it says anything. -/
def entry (myId buddyId : Int) : Callback → Option Entry
  | monitorMac src =>
    if src = myId then some .sending else if src = buddyId then some .buddySending else none
  | monitorModemReceive rangingReply => some (.ranging rangingReply)
  | receivedData source telegram => some (.said (UInt32.ofInt source) telegram)
  | receivedAck src telegram => some (.acknowledged (UInt32.ofInt src) (telegram.take 5))

/-- It says something that can be read. -/
def Proper (cb : Callback) : Prop := ∀ myId buddyId, ∀ e ∈ cb.entry myId buddyId, e.Readable

end Callback

namespace Program

/-- What a turn adds to the log: the line its key completes, and what is called back. -/
def posted (keys : Keypad) (s : Program) (t : Turn) : List Entry :=
  let line := (s.curses.runInput keys [] t.key).2
  (if line ≠ [] then [.said s.curses.id line] else []) ++
    t.callbacks.filterMap (Callback.entry s.myId s.buddyId)

/-- A resize makes the window anew. -/
def logAfter (keys : Keypad) (s : Program) (log : List Entry) (t : Turn) : List Entry :=
  (if t.key = keys.resize then [] else log) ++ s.posted keys t

/-- The program, and the log it should have by then. -/
def runLogged (keys : Keypad) (myId buddyId : Int) (ts : List Turn) : Program × List Entry :=
  ts.foldl (fun r t => (turn keys r.1 t, r.1.logAfter keys r.2 t)) (start myId buddyId, [])

/-- The log after these turns. -/
def logged (keys : Keypad) (myId buddyId : Int) (ts : List Turn) : List Entry :=
  (runLogged keys myId buddyId ts).2

variable (keys : Keypad)

theorem runLogged_fst (myId buddyId : Int) (ts : List Turn) :
    (runLogged keys myId buddyId ts).1 = run keys myId buddyId ts := by
  induction ts using List.reverseRecOn with
  | nil => rfl
  | append_singleton ts t ih =>
      rw [run_snoc, ← ih, runLogged, List.foldl_append]
      rfl

theorem logged_snoc (myId buddyId : Int) (ts : List Turn) (t : Turn) :
    logged keys myId buddyId (ts ++ [t]) =
      (run keys myId buddyId ts).logAfter keys (logged keys myId buddyId ts) t := by
  rw [logged, runLogged, List.foldl_append, ← runLogged_fst]
  rfl

theorem callback_upperWin (s : Program) {cb : Callback} (h : cb.Proper) :
    (s.callback cb).curses.upperWin =
      s.curses.upperWin ++ writeLog (cb.entry s.myId s.buddyId).toList := by
  have hentry := h s.myId s.buddyId
  cases cb with
  | monitorMac src =>
      unfold callback
      by_cases hmy : src = s.myId
      · simp only [Callback.entry, if_pos hmy]
        exact postMessage_upperWin s.curses (e := .sending) trivial
      · by_cases hbuddy : src = s.buddyId
        · simp only [Callback.entry, if_neg hmy, if_pos hbuddy]
          exact postMessage_upperWin s.curses (e := .buddySending) trivial
        · simp only [Callback.entry, if_neg hmy, if_neg hbuddy]
          exact (List.append_nil _).symm
  | monitorModemReceive rangingReply =>
      exact postMessage_upperWin s.curses (hentry _ rfl)
  | receivedData source telegram =>
      exact postMessageFrom_upperWin s.curses rfl (hentry _ rfl)
  | receivedAck src telegram =>
      have hpost : (s.callback (.receivedAck src telegram)).curses =
          s.curses.postMessageFrom (UInt32.ofInt src)
            (acknowledging ++ telegram.take 5 ++ " \x7d".toList) := by
        unfold acknowledging
        rfl
      rw [hpost]
      exact postMessageFrom_upperWin s.curses (by rw [Entry.line]) (hentry _ rfl)

/-- A callback leaves the ids alone. -/
theorem callback_ids (s : Program) (cb : Callback) :
    (s.callback cb).myId = s.myId ∧ (s.callback cb).buddyId = s.buddyId ∧
      (s.callback cb).curses.id = s.curses.id := by
  refine ⟨rfl, rfl, ?_⟩
  cases cb with
  | monitorMac src =>
      simp only [callback]
      split
      · rfl
      · split <;> rfl
  | monitorModemReceive rangingReply => rfl
  | receivedData source telegram => rfl
  | receivedAck src telegram => rfl

theorem foldl_callback_ids (cbs : List Callback) (s : Program) :
    (cbs.foldl callback s).myId = s.myId ∧ (cbs.foldl callback s).buddyId = s.buddyId ∧
      (cbs.foldl callback s).curses.id = s.curses.id := by
  induction cbs generalizing s with
  | nil => exact ⟨rfl, rfl, rfl⟩
  | cons cb cbs ih =>
      obtain ⟨hmy, hbuddy, hid⟩ := s.callback_ids cb
      obtain ⟨hmy', hbuddy', hid'⟩ := ih (s.callback cb)
      exact ⟨hmy'.trans hmy, hbuddy'.trans hbuddy, hid'.trans hid⟩

theorem foldl_callback_upperWin (cbs : List Callback) (s : Program) (h : ∀ cb ∈ cbs, cb.Proper) :
    (cbs.foldl callback s).curses.upperWin =
      s.curses.upperWin ++ writeLog (cbs.filterMap (Callback.entry s.myId s.buddyId)) := by
  induction cbs generalizing s with
  | nil => exact (List.append_nil _).symm
  | cons cb cbs ih =>
      obtain ⟨hmy, hbuddy, -⟩ := s.callback_ids cb
      rw [List.foldl_cons, ih _ fun cb' hcb' => h cb' (List.mem_cons_of_mem _ hcb'),
        s.callback_upperWin (h cb List.mem_cons_self), hmy, hbuddy, List.append_assoc,
        ← writeLog_append, List.filterMap_cons]
      cases cb.entry s.myId s.buddyId <;> rfl

/-- The new size is told from the keys that come before it. -/
theorem resize_ne : ¬ keys.Deletes keys.resize ∧ ¬ keys.Enters keys.resize := by
  have hdistinct := keys.distinct
  simp only [List.nodup_cons, List.mem_cons, List.not_mem_nil, or_false, not_or] at hdistinct
  obtain ⟨⟨-, -, hdc⟩, ⟨-, hbackspace⟩, henter, -⟩ := hdistinct
  refine ⟨?_, ?_⟩
  · rintro (h | h)
    · exact hdc h.symm
    · exact hbackspace h.symm
  · rintro (h | h)
    · exact henter h.symm
    · have hprint := keys.isprint_eq_false (k := keys.resize) (by simp)
      have hbig := UInt32.le_iff_toNat_le.mp (keys.notBytes keys.resize (by simp))
      rw [h] at hbig
      exact absurd hbig (by decide)

/-- What a key does to the window: it makes it anew, adds the line it completes, or leaves it. -/
theorem runInput_upperWin (c : ChatCurses) (k : UInt32) (es : List Entry)
    (hwin : c.upperWin = writeLog es)
    (hbuffer : (∀ ch ∈ c.lineBuffer, Printable ch) ∧ c.lineBuffer.length ≤ telegramMaxLength) :
    (c.runInput keys [] k).1.upperWin =
      writeLog ((if k = keys.resize then [] else es) ++
        if (c.runInput keys [] k).2 ≠ [] then [.said c.id (c.runInput keys [] k).2] else []) := by
  obtain ⟨hnotDelete, hnotEnter⟩ := resize_ne keys
  unfold ChatCurses.runInput
  by_cases hdelete : k = keys.dc ∨ k = keys.backspace
  · have hkey : k ≠ keys.resize := fun h => hnotDelete (h ▸ hdelete)
    rw [if_pos hdelete, if_neg hkey]
    simpa using hwin
  rw [if_neg hdelete]
  by_cases hsend : (k = keys.enter ∨ k = '\n'.val) ∧ c.lineBuffer ≠ []
  · have hkey : k ≠ keys.resize := fun h => hnotEnter (h ▸ hsend.1)
    have hpost := postMessageFrom_upperWin { c with lowerWin := wclear c.lowerWin }
      (e := .said c.id c.lineBuffer) rfl hbuffer
    rw [if_pos hsend, if_neg hkey, if_pos hsend.2, writeLog_append, ← hwin]
    exact hpost
  rw [if_neg hsend]
  by_cases hresize : k = keys.resize
  · rw [if_pos hresize, if_pos hresize]
    rfl
  rw [if_neg hresize, if_neg hresize]
  by_cases hprint : isprint k = true ∧ c.lineBuffer.length < MAX_LINE
  · rw [if_pos hprint]
    simpa using hwin
  · rw [if_neg hprint]
    simpa using hwin

theorem turn_upperWin (s : Program) (t : Turn) (es : List Entry)
    (hwin : s.curses.upperWin = writeLog es)
    (hbuffer : (∀ ch ∈ s.curses.lineBuffer, Printable ch) ∧
      s.curses.lineBuffer.length ≤ telegramMaxLength)
    (h : ∀ cb ∈ t.callbacks, cb.Proper) :
    (turn keys s t).curses.upperWin = writeLog (s.logAfter keys es t) := by
  rw [turn, foldl_callback_upperWin _ _ h]
  show (s.curses.runInput keys [] t.key).1.upperWin ++ _ = _
  rw [runInput_upperWin keys s.curses t.key es hwin hbuffer, ← writeLog_append, logAfter, posted,
    List.append_assoc]
  rfl

theorem upperWin_eq (myId buddyId : Int) (ts : List Turn)
    (h : ∀ t ∈ ts, ∀ cb ∈ t.callbacks, cb.Proper) :
    (run keys myId buddyId ts).curses.upperWin = writeLog (logged keys myId buddyId ts) := by
  induction ts using List.reverseRecOn with
  | nil => rfl
  | append_singleton ts t ih =>
      rw [run_snoc, logged_snoc]
      refine turn_upperWin keys _ t _ (ih fun t' ht' => h t' (List.mem_append_left _ ht'))
        ⟨run_printable keys myId buddyId ts, ?_⟩ (h t (by simp))
      exact lineBuffer_length_le keys myId buddyId ts

/-! ### The window is the log -/

/-- A line that `run_input` returns is the buffer. -/
theorem line_of_buffer (c : ChatCurses) (k : UInt32) :
    (c.runInput keys [] k).2 = [] ∨ (c.runInput keys [] k).2 = c.lineBuffer := by
  have hinput := runInput_input keys c k
  generalize c.runInput keys [] k = r at hinput
  cases hinput with
  | send => exact Or.inr rfl
  | delete => exact Or.inl rfl
  | resize => exact Or.inl rfl
  | type => exact Or.inl rfl
  | refuse => exact Or.inl rfl
  | ignore => exact Or.inl rfl

theorem posted_readable (s : Program) (t : Turn)
    (hbuffer : (∀ ch ∈ s.curses.lineBuffer, Printable ch) ∧
      s.curses.lineBuffer.length ≤ telegramMaxLength)
    (h : ∀ cb ∈ t.callbacks, cb.Proper) : ∀ e ∈ s.posted keys t, e.Readable := by
  intro e he
  rcases List.mem_append.mp he with hline | hcallback
  · split at hline
    · next hne =>
        rw [List.mem_singleton.mp hline,
          (line_of_buffer keys s.curses t.key).resolve_left hne]
        exact hbuffer
    · simp at hline
  · obtain ⟨cb, hcb, hentry⟩ := List.mem_filterMap.mp hcallback
    exact h cb hcb _ _ e hentry

theorem logged_readable (myId buddyId : Int) (ts : List Turn)
    (h : ∀ t ∈ ts, ∀ cb ∈ t.callbacks, cb.Proper) :
    ∀ e ∈ logged keys myId buddyId ts, e.Readable := by
  induction ts using List.reverseRecOn with
  | nil => exact fun e he => absurd he List.not_mem_nil
  | append_singleton ts t ih =>
      rw [logged_snoc]
      intro e he
      rcases List.mem_append.mp he with hold | hnew
      · split at hold
        · simp at hold
        · exact ih (fun t' ht' => h t' (List.mem_append_left _ ht')) e hold
      · exact posted_readable keys _ t ⟨run_printable keys myId buddyId ts,
          lineBuffer_length_le keys myId buddyId ts⟩ (h t (by simp)) e hnew

/--
**The window is the log**: whatever keys and callbacks come, reading its text
gives every entry that was posted since the last resize, in order and once.
-/
theorem window_reads (myId buddyId : Int) (ts : List Turn)
    (h : ∀ t ∈ ts, ∀ cb ∈ t.callbacks, cb.Proper) :
    readLog (run keys myId buddyId ts).curses.upperWin = logged keys myId buddyId ts := by
  rw [upperWin_eq keys myId buddyId ts h]
  exact readLog_writeLog (logged_readable keys myId buddyId ts h)

/-- A line is typed that looks like somebody else's, and is acknowledged. -/
def pretend : List Turn :=
  ("[2]: hi".toList.map fun ch => ⟨ch.val, []⟩) ++
    [⟨'\n'.val, [.monitorMac 1, .receivedAck 2 "[2]: hi".toList]⟩]

theorem window_reads_pretend :
    readLog (run ncurses 1 2 pretend).curses.upperWin =
      [.said 1 "[2]: hi".toList, .sending, .acknowledged 2 "[2]: ".toList] := by
  have hproper : ∀ t ∈ pretend, ∀ cb ∈ t.callbacks, cb.Proper := by
    intro t ht cb hcb myId buddyId e he
    have hcases : cb = .monitorMac 1 ∨ cb = .receivedAck 2 "[2]: hi".toList := by
      rcases List.mem_append.mp ht with hkey | hlast
      · obtain ⟨ch, -, rfl⟩ := List.mem_map.mp hkey
        simp at hcb
      · rw [List.mem_singleton.mp hlast] at hcb
        simpa using hcb
    rcases hcases with rfl | rfl
    · simp only [Callback.entry] at he
      split at he
      · obtain rfl := Option.some.inj he
        trivial
      · split at he
        · obtain rfl := Option.some.inj he
          trivial
        · cases he
    · obtain rfl := Option.some.inj he
      show ∀ ch ∈ ['[', '2', ']', ':', ' '], Printable ch
      simp [Printable]
  rw [window_reads ncurses 1 2 pretend hproper]
  decide

end Program

end Chat
