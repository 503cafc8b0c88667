/-
What an acknowledgement stands for.

An acknowledgement carries numbers and nothing else that ties it to a frame, so
it is worth something only if every number in it belongs to one frame of its
addressee, and if that frame reached the modem that acknowledges it.

Both follow from one invariant of the group, `Accounted`.  A datagram on the
group is either data, and then the frames in it stand in its sender's history
under the numbers the receiver will compute, or an acknowledgement, and then its
sender has handed up the data it answers.  A driver's history is numbered by its
own counter, so within 2^32 frames a number stands there once.
-/
import Goby3Examples.UdpMulticast.Network

namespace UdpMulticast

open Numbering Runs

namespace World

variable {ι : Type} [DecidableEq ι] (pb : Protobuf) (cfg : ι → DriverConfig)

/-- `i` has handed up data for itself that asks for this acknowledgement. -/
def Answers (w : World ι) (i : ι) (ack : ModemTransmission) : Prop :=
  ∃ q ∈ w.received i, q.type = .data ∧ q.ackRequested = true ∧ q.dest = (cfg i).modemId ∧
    ack.dest = q.src ∧ ack.ackedFrame ⊆ frameNumbers q.frameStartValue q.frameSize

/-- A message `i` has sent is data it has numbered or an acknowledgement it owed. -/
def Accounts (w : World ι) (i : ι) (m : ModemTransmission) : Prop :=
  (m.type = .data ∧ m.numbered ⊆ w.history i) ∨ (m.type = .ack ∧ w.Answers cfg i m)

/-- What is on the channel is accounted for, and what was handed up was on it. -/
structure Accounted (w : World ι) : Prop where
  cfgs : ∀ i, (w.driver i).driverCfg = cfg i
  ledger : ∀ i, Ledger frameCounter (w.driver i).nextFrame (w.history i)
  sent : ∀ bytes ∈ w.channel, ∃ i m, bytes = pb.serializeToString m ∧
    m.src = (cfg i).modemId ∧ w.Accounts cfg i m
  received : ∀ i, ∀ m ∈ w.received i, pb.serializeToString m ∈ w.channel

variable {cfg}

theorem Accounts.act {w : World ι} {j : ι} {m : ModemTransmission} (h : w.Accounts cfg j m)
    (i : ι) (r : Driver × List Output) (frames : List (UInt32 × SentFrame)) :
    (w.act i r frames).Accounts cfg j m := by
  rcases h with ⟨htype, hsub⟩ | ⟨htype, q, hq, hrest⟩
  · exact Or.inl ⟨htype, fun x hx => history_act w i r frames j (hsub hx)⟩
  · exact Or.inr ⟨htype, q, received_act w i r frames j hq, hrest⟩

variable {pb}

/-- The step lemma's common part: what one driver does keeps the invariant when what it sends is
accounted for and what it hands up was on the channel. -/
theorem Accounted.act {w : World ι} (h : w.Accounted pb cfg) {i : ι} {r : Driver × List Output}
    {frames : List (UInt32 × SentFrame)} (hcfg : r.1.driverCfg = (w.driver i).driverCfg)
    (hledger : Ledger frameCounter r.1.nextFrame (w.history i ++ frames))
    (hsent : ∀ bytes ∈ datagrams r.2, ∃ m, bytes = pb.serializeToString m ∧
      m.src = (cfg i).modemId ∧ (w.act i r frames).Accounts cfg i m)
    (hup : ∀ m ∈ handedUp r.2, pb.serializeToString m ∈ w.channel) :
    (w.act i r frames).Accounted pb cfg := by
  refine ⟨?_, ?_, ?_, ?_⟩
  · intro j
    by_cases hj : j = i
    · subst hj
      simpa [World.act] using hcfg.trans (h.cfgs j)
    · simpa [World.act, hj] using h.cfgs j
  · intro j
    by_cases hj : j = i
    · subst hj
      simpa [World.act] using hledger
    · simpa [World.act, hj] using h.ledger j
  · intro bytes hbytes
    rcases List.mem_append.mp hbytes with hold | hnew
    · obtain ⟨j, m, hm, hsrc, hacc⟩ := h.sent bytes hold
      exact ⟨j, m, hm, hsrc, hacc.act i r frames⟩
    · obtain ⟨m, hm, hsrc, hacc⟩ := hsent bytes hnew
      exact ⟨i, m, hm, hsrc, hacc⟩
  · intro j m hm
    refine channel_act w i r frames ?_
    by_cases hj : j = i
    · subst hj
      have hm' : m ∈ w.received j ++ handedUp r.2 := by simpa [World.act] using hm
      rcases List.mem_append.mp hm' with hold | hnew
      · exact h.received j m hold
      · exact hup m hnew
    · exact h.received j m (by simpa [World.act, hj] using hm)

/-- **Initiating keeps the invariant**: the counter moves on by exactly the frames recorded. -/
theorem Accounted.initiate {w : World ι} (h : w.Accounted pb cfg) {i : ι} {hooks : Hooks}
    {msg : ModemTransmission} (hf : hooks.Faithful) (hdata : msg.type = .data)
    (hsrc : msg.src = (w.driver i).driverCfg.modemId) (hstart : msg.frameStart = none) :
    (w.initiate pb i hooks msg).Accounted pb cfg := by
  obtain ⟨hcfg, hnext, hup, hsend⟩ :=
    Driver.handleInitiateTransmission_spec pb (w.driver i) hooks msg
  obtain ⟨htype, hsrc', hvalue⟩ := Driver.buffered_spec (w.driver i) hf hstart
  refine h.act hcfg ?_ ?_ ?_
  · have hmore := (h.ledger i).append
      (((w.driver i).buffered hooks msg).frame.map fun f =>
        (⟨f, (w.driver i).buffered hooks msg⟩ : SentFrame))
    rw [List.length_map] at hmore
    rw [hnext, ModemTransmission.numbered, hvalue]
    exact hmore
  · intro bytes hbytes
    have hone : bytes = pb.serializeToString ((w.driver i).buffered hooks msg) := by
      simpa using hsend hbytes
    refine ⟨_, hone, by rw [hsrc', hsrc, h.cfgs i], Or.inl ⟨htype.trans hdata, ?_⟩⟩
    intro x hx
    simp only [World.act, Function.update_self, List.mem_append]
    exact Or.inr hx
  · rw [hup]
    simp

/-- **Delivering keeps the invariant**: what is answered has been handed up. -/
theorem Accounted.deliver (hpb : pb.RoundTrip) {w : World ι} (h : w.Accounted pb cfg) {i : ι}
    {bytes : Bytes} (hbytes : bytes ∈ w.channel) : (w.deliver pb i bytes).Accounted pb cfg := by
  obtain ⟨j, m, rfl, -, -⟩ := h.sent bytes hbytes
  obtain ⟨hcfg, hnext, hup, hsend⟩ :=
    Driver.hear_spec pb (w.driver i) (hpb.parse_serialize m)
  refine h.act hcfg ?_ ?_ ?_
  · rw [hnext, List.append_nil]
    exact h.ledger i
  · intro sent hsent
    rw [hsend] at hsent
    by_cases hack : m.src ≠ (w.driver i).driverCfg.modemId ∧ (w.driver i).acks m = true
    · rw [if_pos hack] at hsent
      obtain ⟨hdata, hreq, hdest⟩ := Driver.acks_eq_true.mp hack.2
      refine ⟨(w.driver i).ackFor m, by simpa using hsent, ?_, Or.inr ⟨rfl, m, ?_, hdata, hreq,
        ?_, rfl, Driver.ackFor_subset _ m⟩⟩
      · show (w.driver i).driverCfg.modemId = _
        rw [h.cfgs i]
      · simp [World.act, hup, hack.1]
      · rw [hdest, h.cfgs i]
    · rw [if_neg hack] at hsent
      simp at hsent
  · intro m' hm'
    rw [hup] at hm'
    have : m' = m := by
      split at hm'
      · simpa using hm'
      · simp at hm'
    rw [this]
    exact hbytes

theorem accounted (hpb : pb.RoundTrip) {es : List (Event ι)} {w : World ι}
    (h : Run (group pb cfg) es w) : w.Accounted pb cfg := by
  refine h.state_invariant (I := fun w => w.Accounted pb cfg) ?_ ?_
  · rintro _ rfl
    exact ⟨fun _ => rfl, fun _ => Ledger.nil rfl, by simp [start], by simp [start]⟩
  · intro w e w' hacc hstep
    cases e with
    | initiate i hooks msg =>
        obtain ⟨hdata, hsrc, hstart, hf, rfl⟩ := hstep
        exact hacc.initiate hf hdata hsrc hstart
    | deliver i bytes =>
        obtain ⟨hbytes, rfl⟩ := hstep
        exact hacc.deliver hpb hbytes

/-- A number of `a`'s stands for one frame of `a`'s history, and that frame was in data that asked
`b` for an acknowledgement and that `b` has handed up. -/
def Attributed (pb : Protobuf) (cfg : ι → DriverConfig) (w : World ι) (a b : ι) (num : UInt32) :
    Prop :=
  ∃ (p : Nat) (hp : p < (w.history a).length), (w.history a)[p].1 = num ∧
    (∀ (p' : Nat) (hp' : p' < (w.history a).length), (w.history a)[p'].1 = num → p' = p) ∧
    ∃ f q, (w.history a)[p].2 = ⟨f, q⟩ ∧ f ∈ q.frame ∧ q.type = .data ∧ q.ackRequested = true ∧
      q.src = (cfg a).modemId ∧ q.dest = (cfg b).modemId ∧ pb.serializeToString q ∈ w.channel ∧
      q ∈ w.received b

omit [DecidableEq ι] in
/-- Whatever a driver has handed up was sent by a member and is accounted for there. -/
theorem Accounted.origin (hpb : pb.RoundTrip) {w : World ι} (h : w.Accounted pb cfg) {i : ι}
    {m : ModemTransmission} (hm : m ∈ w.received i) :
    ∃ j, m.src = (cfg j).modemId ∧ w.Accounts cfg j m := by
  obtain ⟨j, m', heq, hsrc, hacc⟩ := h.sent _ (h.received i m hm)
  obtain rfl : m = m' := by
    have hparse := hpb.parse_serialize m
    rw [heq, hpb.parse_serialize] at hparse
    exact (Prod.mk.inj hparse).2.symm
  exact ⟨j, hsrc, hacc⟩

omit [DecidableEq ι] in
/-- Data handed up anywhere stands in its sender's history, under the numbers it implies. -/
theorem Accounted.numbered (hpb : pb.RoundTrip)
    (hids : Function.Injective fun i => (cfg i).modemId) {w : World ι} (h : w.Accounted pb cfg)
    {a i : ι} {q : ModemTransmission} (hq : q ∈ w.received i) (hdata : q.type = .data)
    (hsrc : q.src = (cfg a).modemId) : q.numbered ⊆ w.history a := by
  obtain ⟨j, hj, hacc⟩ := h.origin hpb hq
  obtain rfl : j = a := hids (hj.symm.trans hsrc)
  rcases hacc with ⟨-, hsub⟩ | ⟨htype, -⟩
  · exact hsub
  · rw [hdata] at htype
    cases htype

/--
**What an acknowledgement stands for.**  After any run of the group, an
acknowledgement that `a` hands up and that is addressed to `a` comes from a
member, each number in it is that of one frame of `a`'s history, which this member
has received, and no driver answers it.
-/
theorem acknowledged_attributed (hpb : pb.RoundTrip)
    (hids : Function.Injective fun i => (cfg i).modemId) {es : List (Event ι)} {w : World ι}
    (hrun : Run (group pb cfg) es w) {a : ι} (hcount : (w.history a).length ≤ 2 ^ 32)
    {ack : ModemTransmission} (hack : ack ∈ w.received a) (htype : ack.type = .ack)
    (hdest : ack.dest = (cfg a).modemId) :
    (∃ b, ack.src = (cfg b).modemId ∧ ∀ num ∈ ack.ackedFrame, w.Attributed pb cfg a b num) ∧
      ∀ i, datagrams ((w.driver i).hear pb (pb.serializeToString ack)).2 = [] := by
  have h := accounted hpb hrun
  refine ⟨?_, ?_⟩
  · obtain ⟨b, hsrc, hacc⟩ := h.origin hpb hack
    refine ⟨b, hsrc, fun num hnum => ?_⟩
    rcases hacc with ⟨hdata, -⟩ | ⟨-, q, hq, hdata, hreq, hqdest, hqsrc, hsub⟩
    · rw [htype] at hdata
      cases hdata
    · -- the data it answers is `a`'s own, because the acknowledgement goes back to its source
      have hqa : q.src = (cfg a).modemId := hqsrc.symm.trans hdest
      have hnumber : num ∈ frameCounter.numbers q.frameStartValue
          (q.frame.map fun f => (⟨f, q⟩ : SentFrame)).length := by
        rw [List.length_map, ← frameNumbers_eq]
        exact hsub hnum
      obtain ⟨e, he, hlabel⟩ := frameCounter.mem_label_of_mem_numbers hnumber
      obtain ⟨f, hf, rfl⟩ := List.mem_map.mp he
      obtain ⟨p, hp, hget⟩ := List.getElem_of_mem (h.numbered hpb hids hq hdata hqa hlabel)
      refine ⟨p, hp, by rw [hget], ?_, f, q, by rw [hget], hf, hdata, hreq, hqa, hqdest,
        h.received b q hq, hq⟩
      intro p' hp' hnum'
      exact (h.ledger a).position_unique hcount hp' hp (by rw [hnum', hget])
  · intro i
    obtain ⟨-, -, -, hsend⟩ := Driver.hear_spec pb (w.driver i) (hpb.parse_serialize ack)
    have hno : (w.driver i).acks ack = false := by
      simp [Driver.acks, htype]
    rw [hsend, hno]
    simp

/-! ### Two modems -/

/-- Modems 1 and 2. -/
def twoModems (i : Bool) : DriverConfig := { modemId := if i then 2 else 1 }

theorem twoModems_injective : Function.Injective fun i => (twoModems i).modemId := by
  intro i j hij
  cases i <;> cases j <;> first | rfl | cases hij

theorem faithful_id : Hooks.Faithful ⟨id, id⟩ :=
  ⟨fun _ => ⟨rfl, rfl, rfl, rfl⟩, fun _ => ⟨rfl, rfl, rfl, rfl⟩⟩

/-- One frame of data from modem 1 to modem 2. -/
def oneFrame : ModemTransmission :=
  { type := .data, src := 1, dest := 2, ackRequested := true, frame := [[7]] }

/-- The frame as it is sent: the first number, and the configuration's frame size. -/
def oneFrameSent : ModemTransmission :=
  { oneFrame with frameStart := some 0, maxFrameBytes := some 1400 }

/-- What modem 2 answers. -/
def oneFrameAck : ModemTransmission := { type := .ack, src := 2, dest := 1, ackedFrame := [0] }

/-- Modem 1 sends the frame, modem 2 hears it, and modem 1 hears the answer. -/
def oneFrameExchange : World Bool :=
  (((start twoModems).initiate .wire false ⟨id, id⟩ oneFrame).deliver .wire true
    (Protobuf.wire.serializeToString oneFrameSent)).deliver .wire false
      (Protobuf.wire.serializeToString oneFrameAck)

theorem acknowledged_attributed_oneFrame :
    oneFrameAck ∈ oneFrameExchange.received false ∧
      oneFrameExchange.Attributed .wire twoModems false true 0 := by
  have hparse := Protobuf.wire_roundTrip.parse_serialize
  let w₁ := (start twoModems).initiate .wire false ⟨id, id⟩ oneFrame
  let w₂ := w₁.deliver .wire true (Protobuf.wire.serializeToString oneFrameSent)
  have hanswer : (w₁.driver true).ackFor oneFrameSent = oneFrameAck := by
    rw [Driver.ackFor_eq _ (by decide)]
    rfl
  have hsent : Protobuf.wire.serializeToString oneFrameSent ∈ w₁.channel :=
    List.mem_singleton.mpr rfl
  have hback : Protobuf.wire.serializeToString oneFrameAck ∈ w₂.channel := by
    rw [deliver_channel _ _ (hparse _), if_pos ⟨by decide, rfl⟩, hanswer]
    exact List.mem_append_right _ (List.mem_singleton.mpr rfl)
  have hstart : Run (group .wire twoModems) [] (start twoModems) := Run.start rfl
  have hrun : Run (group .wire twoModems) _ oneFrameExchange :=
    run_deliver (run_deliver (run_initiate hstart false faithful_id rfl rfl rfl) true hsent) false
      hback
  have hack : oneFrameAck ∈ oneFrameExchange.received false := by
    have hother : oneFrameAck.src ≠ (w₂.driver false).driverCfg.modemId := by decide
    rw [oneFrameExchange, deliver_received _ _ (hparse _), if_pos hother]
    exact List.mem_append_right _ (List.mem_singleton.mpr rfl)
  have hcount : (oneFrameExchange.history false).length ≤ 2 ^ 32 := by
    have hone : (w₁.history false).length = 1 := rfl
    rw [oneFrameExchange, deliver_history, deliver_history]
    exact hone ▸ by decide
  obtain ⟨⟨b, hsrc, hnums⟩, -⟩ :=
    acknowledged_attributed Protobuf.wire_roundTrip twoModems_injective hrun hcount hack rfl rfl
  obtain rfl : b = true := twoModems_injective hsrc.symm
  exact ⟨hack, hnums 0 (List.mem_singleton.mpr rfl)⟩

end World

end UdpMulticast
