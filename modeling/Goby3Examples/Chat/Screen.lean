/-
What is on the screen while a line is typed.

The line exists twice: in `line_buffer_`, from which it is sent, and in the lower
window, where its writer sees it.  Every branch of `run_input` that changes one
of them changes the other, except the one for a new terminal size: it makes the
window anew and leaves the buffer as it is.  `inStep_iff` says that this is the
only way to get them apart.
-/
import Goby3Examples.Chat.Main

namespace Chat

/-- The window shows what the buffer holds. -/
def InStep (c : ChatCurses) : Prop := c.lowerWin = c.lineBuffer

/-- Printed text has no zero in it, so all of it gets to the window. -/
theorem waddstr_of_printable (win : Text) {s : Text} (h : ∀ ch ∈ s, Printable ch) :
    waddstr win s = win ++ s := by
  have hall : s.takeWhile (· ≠ '\x00') = s := by
    rw [List.takeWhile_eq_self_iff]
    intro ch hch
    have hlo := (h ch hch).1
    have hne : ch ≠ '\x00' := by
      rintro rfl
      simp at hlo
    simpa using hne
  rw [waddstr, hall]

/-- **A key keeps window and buffer in step, unless it is a resize that finds text.** -/
theorem Input.inStep {keys : Keypad} {c : ChatCurses} {k : UInt32} {r : ChatCurses × Text}
    (h : Input keys c k r) (hprint : ∀ ch ∈ c.lineBuffer, Printable ch) (hin : InStep c)
    (hempty : k = keys.resize → c.lineBuffer = []) : InStep r.1 := by
  cases h with
  | delete =>
      have hshorter : ∀ ch ∈ c.lineBuffer.dropLast, Printable ch :=
        fun ch hch => hprint ch (List.dropLast_subset _ hch)
      exact waddstr_of_printable [] hshorter
  | send => rfl
  | resize hkey => exact (hempty hkey).symm
  | type =>
      show waddch c.lowerWin k = c.lineBuffer ++ [toChar k]
      rw [waddch, show c.lowerWin = c.lineBuffer from hin]
  | refuse => exact hin
  | ignore => exact hin

/-- A resize leaves an empty window beside whatever the buffer holds. -/
theorem runInput_resize (keys : Keypad) (c : ChatCurses) :
    (c.runInput keys [] keys.resize).1 = c.updateSize := by
  have hinput := runInput_input keys c keys.resize
  have hdistinct := keys.distinct
  simp only [List.nodup_cons, List.mem_cons, List.not_mem_nil, or_false, not_or] at hdistinct
  obtain ⟨⟨-, -, hdc⟩, ⟨-, hbackspace⟩, henter, -⟩ := hdistinct
  have hbig : 256 ≤ keys.resize.toNat :=
    UInt32.le_iff_toNat_le.mp (keys.notBytes keys.resize (by simp))
  generalize c.runInput keys [] keys.resize = r at hinput
  cases hinput with
  | delete h =>
      rcases h with h | h
      · exact absurd h.symm hdc
      · exact absurd h.symm hbackspace
  | send h =>
      rcases h with h | h
      · exact absurd h.symm henter
      · rw [h] at hbig
        exact absurd hbig (by decide)
  | resize => rfl
  | type h => simp [keys.isprint_eq_false] at h
  | refuse h => simp [keys.isprint_eq_false] at h
  | ignore _ h => exact absurd rfl h

namespace Program

variable (keys : Keypad) (myId buddyId : Int)

/--
**The window shows the buffer after every key if and only if no resize comes
while there is text in the buffer.**
-/
theorem inStep_iff (ts : List Turn) :
    (∀ pre, pre <+: ts → InStep (run keys myId buddyId pre).curses) ↔
      ∀ pre t, pre ++ [t] <+: ts → t.key = keys.resize →
        (run keys myId buddyId pre).curses.lineBuffer = [] := by
  constructor
  · intro hstep pre t hpre hkey
    have hafter : InStep (run keys myId buddyId (pre ++ [t])).curses := hstep _ hpre
    have hsame := turn_sameLine keys (run keys myId buddyId pre) t
    rw [run_snoc, InStep, hsame.lowerWin, hsame.lineBuffer, input, hkey, runInput_resize] at hafter
    exact hafter.symm
  · intro hresize pre hpre
    induction pre using List.reverseRecOn with
    | nil => rfl
    | append_singleton pre t ih =>
        have hin := ih ((List.prefix_append pre [t]).trans hpre)
        have hsame := turn_sameLine keys (run keys myId buddyId pre) t
        rw [run_snoc, InStep, hsame.lowerWin, hsame.lineBuffer]
        exact (runInput_input keys _ t.key).inStep (run_printable keys myId buddyId pre) hin
          (hresize pre t hpre)

/-- The codes of `ncurses.h`. -/
def ncurses : Keypad where
  dc := 0o512
  backspace := 0o407
  enter := 0o527
  resize := 0o632
  distinct := by decide
  notBytes := by simp

/-- A letter, and then a new terminal size: the window is empty, the buffer is not. -/
theorem not_inStep_resized :
    ¬ ∀ pre, pre <+: [⟨'a'.val, []⟩, ⟨ncurses.resize, []⟩] →
      InStep (run ncurses 1 2 pre).curses := by
  intro h
  have hlast := h _ List.prefix_rfl
  revert hlast
  unfold InStep
  decide

end Program

end Chat
