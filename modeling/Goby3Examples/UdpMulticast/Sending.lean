/-
Which transmissions are sent.

After both hooks have run, `handle_initiate_transmission` drops a message that
has no data in it.  It looks at the first frame to tell, and the hooks may have
put the data anywhere: a message whose first frame is empty is dropped with all
the others.  By then its frames have their numbers, and nobody is told.
-/
import Goby3Examples.UdpMulticast.Network

namespace UdpMulticast

namespace Driver

variable (pb : Protobuf)

/-- What is decided on: the first frame, which is as good as empty when there is none. -/
theorem first_frame_iff (msg : ModemTransmission) :
    (!(msg.frameSize == 0 || (msg.frame.headD []).isEmpty)) = true ↔ msg.frame.headD [] ≠ [] := by
  unfold ModemTransmission.frameSize
  cases msg.frame with
  | nil => simp
  | cons first rest => simp

theorem handleInitiateTransmission_eq (d : Driver) (hooks : Hooks) (origMsg : ModemTransmission) :
    (d.handleInitiateTransmission pb hooks origMsg).2 =
      if (d.buffered hooks origMsg).frame.headD [] = [] then []
      else (d.startSend pb (d.buffered hooks origMsg)).2 := by
  simp only [handleInitiateTransmission, first_frame_iff]
  by_cases hfirst : (d.buffered hooks origMsg).frame.headD [] = []
  · rw [if_neg (not_not.mpr hfirst), if_pos hfirst]
  · rw [if_pos hfirst, if_neg hfirst]
    rfl

/-- Data is sent, all of it and once; a message without data is not sent.  To send is to hand the
bytes to the socket: whether it is open, and what becomes of them, is no part of this. -/
structure SendsData (d : Driver) (hooks : Hooks) (origMsg : ModemTransmission) : Prop where
  sent : (∃ frame ∈ (d.buffered hooks origMsg).frame, frame ≠ []) →
    datagrams (d.handleInitiateTransmission pb hooks origMsg).2 =
      [pb.serializeToString (d.buffered hooks origMsg)]
  nothing : (∀ frame ∈ (d.buffered hooks origMsg).frame, frame = []) →
    datagrams (d.handleInitiateTransmission pb hooks origMsg).2 = []

/--
**The driver sends what it is given if and only if the first frame has data in
it or no frame has.**
-/
theorem sendsData_iff (d : Driver) (hooks : Hooks) (origMsg : ModemTransmission) :
    SendsData pb d hooks origMsg ↔
      (d.buffered hooks origMsg).frame.headD [] ≠ [] ∨
        ∀ frame ∈ (d.buffered hooks origMsg).frame, frame = [] := by
  have houts := handleInitiateTransmission_eq pb d hooks origMsg
  constructor
  · intro h
    by_contra hcontra
    simp only [not_or, not_not, not_forall] at hcontra
    obtain ⟨hfirst, frame, hmem, hdata⟩ := hcontra
    have hsent := h.sent ⟨frame, hmem, hdata⟩
    rw [houts, if_pos hfirst] at hsent
    cases hsent
  · intro h
    by_cases hfirst : (d.buffered hooks origMsg).frame.headD [] = []
    · have hnone := h.resolve_left (not_not.mpr hfirst)
      refine ⟨?_, fun _ => ?_⟩
      · rintro ⟨frame, hmem, hdata⟩
        exact absurd (hnone frame hmem) hdata
      · rw [houts, if_pos hfirst]
        rfl
    · refine ⟨fun _ => ?_, fun hnone => ?_⟩
      · rw [houts, if_neg hfirst]
        rfl
      · -- the first frame is one of the frames
        cases hframe : (d.buffered hooks origMsg).frame with
        | nil => simp [hframe] at hfirst
        | cons first rest =>
            rw [hframe] at hfirst hnone
            exact absurd (hnone first List.mem_cons_self) hfirst

/-- A message with an empty frame before the one that holds the data. -/
def emptyFirst : ModemTransmission := { type := .data, src := 1, dest := 2, frame := [[], [7]] }

theorem not_sendsData_emptyFirst : ¬ SendsData .wire modemOne ⟨id, id⟩ emptyFirst := by
  intro h
  have hsent := h.sent ⟨[7], by decide, by decide⟩
  cases hsent

end Driver

end UdpMulticast
