/-
The terminal of the chat program, `chat_curses.cpp`.

A window is the text in it; where the text stands on the screen is left aside.
What ncurses does to a window is written down as the four functions below.  The
codes it has for keys that are not characters are an argument, `Keypad`: the
program tells four of them apart, and relies on their being no characters.
-/
import Mathlib.Data.List.Nodup

namespace Chat

/-- What a window shows, or a line holds. -/
abbrev Text := List Char

/-! ### ncurses -/

/-- `KEY_DC`, `KEY_BACKSPACE`, `KEY_ENTER` and `KEY_RESIZE`. -/
structure Keypad where
  dc : UInt32
  backspace : UInt32
  enter : UInt32
  resize : UInt32
  distinct : [dc, backspace, enter, resize].Nodup
  /-- They lie above the bytes, which stand for characters. -/
  notBytes : ∀ k ∈ [dc, backspace, enter, resize], 256 ≤ k

/-- `newwin`: a window with nothing in it. -/
def newwin : Text := []

/-- The character of a `chtype`, which a `char` keeps the low byte of. -/
def toChar (k : UInt32) : Char := Char.ofUInt8 k.toUInt8

/-- `waddch`: a character, of which the window keeps what its code says. -/
def waddch (win : Text) (k : UInt32) : Text := win ++ [toChar k]

/-- Text is added up to the zero that ends it. -/
def waddstr (win s : Text) : Text := win ++ s.takeWhile (· ≠ '\x00')

/-- `wclear` -/
def wclear (_ : Text) : Text := []

/-- `isprint` in the C locale; beyond the bytes it is false. -/
def isprint (k : UInt32) : Bool := 0x20 ≤ k && k ≤ 0x7e

/-! ### ChatCurses -/

/-- `MAX_LINE`, which the message fixes. -/
def MAX_LINE : Nat := 26

/-- `ChatCurses`: the two windows, and the line that is being typed. -/
structure ChatCurses where
  id : UInt32 := 0
  upperWin : Text := []
  lowerWin : Text := []
  lineBuffer : Text := []
  deriving DecidableEq, Repr

namespace ChatCurses

variable (c : ChatCurses)

/-- `set_modem_id` -/
def setModemId (id : UInt32) : ChatCurses := { c with id }

/-- `update_size`: the windows are made anew. -/
def updateSize : ChatCurses := { c with upperWin := newwin, lowerWin := newwin }

/-- `startup` -/
def startup : ChatCurses := c.updateSize

/-- `post_message`: a line of its own in the upper window. -/
def postMessage (line : Text) : ChatCurses :=
  { c with upperWin := waddstr c.upperWin (line ++ ['\n']) }

/-- `post_message` with the id of whom the line is from -/
def postMessageFrom (id : UInt32) (line : Text) : ChatCurses :=
  c.postMessage (("[" ++ toString id ++ "]: ").toList ++ line)

/-- `run_input`, with the key that `getch` returns; what it leaves in `line` is returned. -/
def runInput (keys : Keypad) (line : Text) (k : UInt32) : ChatCurses × Text :=
  if k = keys.dc ∨ k = keys.backspace then
    -- nothing is taken from an empty buffer
    let lineBuffer := c.lineBuffer.dropLast
    ({ c with lineBuffer, lowerWin := waddstr (wclear c.lowerWin) lineBuffer }, line)
  else if (k = keys.enter ∨ k = '\n'.val) ∧ c.lineBuffer ≠ [] then
    ({ ({ c with lowerWin := wclear c.lowerWin }).postMessageFrom c.id c.lineBuffer with
        lineBuffer := [] },
      c.lineBuffer)
  else if k = keys.resize then
    (c.updateSize, line)
  else if isprint k ∧ c.lineBuffer.length < MAX_LINE then
    ({ c with lowerWin := waddch c.lowerWin k, lineBuffer := c.lineBuffer ++ [toChar k] }, line)
  else
    (c, line)

end ChatCurses

/-! ### What a key can do -/

namespace Keypad

variable (keys : Keypad) (k : UInt32)

/-- The keys that take back a character. -/
def Deletes : Prop := k = keys.dc ∨ k = keys.backspace

/-- The keys that send the line. -/
def Enters : Prop := k = keys.enter ∨ k = '\n'.val

instance : Decidable (keys.Deletes k) := inferInstanceAs (Decidable (_ ∨ _))

instance : Decidable (keys.Enters k) := inferInstanceAs (Decidable (_ ∨ _))

end Keypad

/-- The characters that `isprint` is true of. -/
def Printable (ch : Char) : Prop := 0x20 ≤ ch.toNat ∧ ch.toNat ≤ 0x7e

theorem isprint_iff {k : UInt32} : isprint k = true ↔ 0x20 ≤ k.toNat ∧ k.toNat ≤ 0x7e := by
  simp only [isprint, Bool.and_eq_true, decide_eq_true_eq, UInt32.le_iff_toNat_le]
  rfl

theorem printable_toChar {k : UInt32} (h : isprint k = true) : Printable (toChar k) := by
  obtain ⟨hlo, hhi⟩ := isprint_iff.mp h
  have hbyte : (toChar k).toNat = k.toNat := by
    show k.toUInt8.toNat = k.toNat
    rw [UInt32.toNat_toUInt8]
    omega
  exact ⟨hbyte ▸ hlo, hbyte ▸ hhi⟩

/-- What the four keys have in common: none of them is printed. -/
theorem Keypad.isprint_eq_false (keys : Keypad) {k : UInt32}
    (h : k ∈ [keys.dc, keys.backspace, keys.enter, keys.resize]) : isprint k = false := by
  have hbig : 256 ≤ k.toNat := UInt32.le_iff_toNat_le.mp (keys.notBytes k h)
  rw [← Bool.not_eq_true, isprint_iff]
  omega

/--
One call of `run_input`: which key does what, and when.  A key that is printed is
either typed or refused, and a key that does anything else is not printed.
-/
inductive Input (keys : Keypad) (c : ChatCurses) (k : UInt32) : ChatCurses × Text → Prop
  | delete (h : keys.Deletes k) (hno : isprint k = false) :
      Input keys c k
        ({ c with
            lineBuffer := c.lineBuffer.dropLast
            lowerWin := waddstr [] c.lineBuffer.dropLast }, [])
  | send (h : keys.Enters k) (hno : isprint k = false) (hline : c.lineBuffer ≠ [])
      (upperWin : Text) :
      Input keys c k ({ c with upperWin, lowerWin := [], lineBuffer := [] }, c.lineBuffer)
  | resize (h : k = keys.resize) (hno : isprint k = false) : Input keys c k (c.updateSize, [])
  | type (h : isprint k = true) (hroom : c.lineBuffer.length < MAX_LINE) :
      Input keys c k
        ({ c with lowerWin := waddch c.lowerWin k, lineBuffer := c.lineBuffer ++ [toChar k] }, [])
  | refuse (h : isprint k = true) (hfull : MAX_LINE ≤ c.lineBuffer.length) : Input keys c k (c, [])
  | ignore (hno : isprint k = false) (hkey : k ≠ keys.resize) : Input keys c k (c, [])

/-- What is in the buffer can be printed. -/
theorem Input.printable {keys : Keypad} {c : ChatCurses} {k : UInt32} {r : ChatCurses × Text}
    (h : Input keys c k r) (hc : ∀ ch ∈ c.lineBuffer, Printable ch) :
    ∀ ch ∈ r.1.lineBuffer, Printable ch := by
  cases h with
  | delete => exact fun ch hch => hc ch (List.dropLast_subset _ hch)
  | send => exact fun ch hch => absurd hch (List.not_mem_nil)
  | resize => exact hc
  | type hprint =>
      intro ch hch
      rcases List.mem_append.mp hch with hold | hnew
      · exact hc ch hold
      · exact List.mem_singleton.mp hnew ▸ printable_toChar hprint
  | refuse => exact hc
  | ignore => exact hc

theorem runInput_input (keys : Keypad) (c : ChatCurses) (k : UInt32) :
    Input keys c k (c.runInput keys [] k) := by
  unfold ChatCurses.runInput
  by_cases hdelete : k = keys.dc ∨ k = keys.backspace
  · rw [if_pos hdelete]
    refine .delete hdelete (keys.isprint_eq_false ?_)
    rcases hdelete with rfl | rfl <;> simp
  rw [if_neg hdelete]
  by_cases hsend : (k = keys.enter ∨ k = '\n'.val) ∧ c.lineBuffer ≠ []
  · rw [if_pos hsend]
    refine .send hsend.1 ?_ hsend.2 _
    rcases hsend.1 with rfl | rfl
    · exact keys.isprint_eq_false (by simp)
    · rfl
  rw [if_neg hsend]
  by_cases hresize : k = keys.resize
  · rw [if_pos hresize]
    exact .resize hresize (keys.isprint_eq_false (by simp [hresize]))
  rw [if_neg hresize]
  by_cases hprint : isprint k = true
  · by_cases hroom : c.lineBuffer.length < MAX_LINE
    · rw [if_pos ⟨hprint, hroom⟩]
      exact .type hprint hroom
    · rw [if_neg fun h => hroom h.2]
      exact .refuse hprint (Nat.le_of_not_lt hroom)
  · rw [if_neg fun h => hprint h.1]
    exact .ignore (Bool.not_eq_true _ ▸ hprint) hresize

end Chat
