/-
What has arrived when a group has fallen silent.

If the medium loses nothing, and nothing is on its way any more, then each member
has handed up what each other member sent, once, and the acknowledgements there
are stand one for one for the data that asked for them.  In between, an
acknowledgement may be behind any number of other datagrams.

That holds of members who send data of their own.  One that sends under another's
number hears itself.
-/
import Goby3Examples.UdpMulticast.Quiescence

namespace UdpMulticast

open Broadcast Runs

/-- The acknowledgement of this data: from the modem it is addressed to, to the modem it came from,
and naming as many of its frames as the loop counts. -/
def ackOf (q : ModemTransmission) : ModemTransmission :=
  { type := .ack
    src := q.dest
    dest := q.src
    ackedFrame :=
      frameNumbers q.frameStartValue (Driver.ackedCount q.frameStartValue q.frameSize) }

theorem Driver.ackFor_eq_ackOf (d : Driver) {q : ModemTransmission}
    (h : q.dest = d.driverCfg.modemId) : d.ackFor q = ackOf q := by
  unfold ackOf
  rw [← d.ackFor_ackedFrame, h]
  rfl

namespace World

variable {ι : Type} [DecidableEq ι] [Fintype ι] {pb : Protobuf} {cfg : ι → DriverConfig}
  {Allowed : Initiation ι → Prop}

variable (pb) in
/-- The message that is read from a datagram. -/
def parsed (bytes : Bytes) : ModemTransmission := (pb.parseFromArray bytes).2

variable (pb) in
/-- The datagram is an acknowledgement. -/
def isAck (bytes : Bytes) : Bool := typeOf pb bytes == .ack

variable (pb cfg) in
/-- Somebody answers this datagram. -/
def Wanted (bytes : Bytes) : Prop := ∃ i, Owes pb cfg i bytes

instance (bytes : Bytes) : Decidable (Wanted pb cfg bytes) :=
  inferInstanceAs (Decidable (∃ _, _))

variable (pb cfg) in
/-- Everything that was sent has been received, and answered. -/
structure Delivered (w : World ι) : Prop where
  /-- Each member has had each datagram of the others once, and none under its own number. -/
  received : ∀ i, (w.received i).Perm
    ((w.channel.map (parsed pb)).filter fun m => m.src ≠ (cfg i).modemId)
  /-- There is one acknowledgement to each message that wants one, and there are no others. -/
  acks : (w.channel.filter (isAck pb)).Perm
    ((w.channel.filter (Wanted pb cfg ·)).map fun bytes =>
      pb.serializeToString (ackOf (parsed pb bytes)))
  /-- It has come back, and stands for data that has arrived; as far as the loop counts right it
  names all its frames. -/
  acknowledged : ∀ a b q, a ≠ b → pb.serializeToString q ∈ w.channel → q.type = .data →
    q.ackRequested = true → q.src = (cfg a).modemId → q.dest = (cfg b).modemId →
      q ∈ w.received b ∧ ackOf q ∈ w.received a ∧
        (q.frameStartValue.toInt32.toInt + q.frameSize < 2 ^ 31 →
          (ackOf q).ackedFrame = frameNumbers q.frameStartValue q.frameSize)

/-! ### What a member has handed up -/

omit [Fintype ι] in
theorem Configured.deliver_received {w : World ι} (h : Configured cfg w) (i j : ι) (bytes : Bytes) :
    (w.deliver pb j bytes).received i = w.received i ++
      (((if i = j then [bytes] else []).map (parsed pb)).filter fun m =>
        m.src ≠ (cfg i).modemId) := by
  by_cases hi : i = j
  · subst hi
    rw [World.deliver_received w i (Prod.eta (pb.parseFromArray bytes)).symm, h i, if_pos rfl,
      List.map_singleton, List.filter_cons, List.filter_nil]
    simp only [decide_eq_true_eq]
    rfl
  · rw [if_neg hi, List.map_nil, List.filter_nil, List.append_nil]
    exact Function.update_of_ne hi ..

omit [Fintype ι] in
theorem initiate_received (w : World ι) (i j : ι) (hooks : Hooks) (msg : ModemTransmission) :
    (w.initiate pb j hooks msg).received i = w.received i := by
  obtain ⟨-, -, hup, -⟩ := (w.driver j).handleInitiateTransmission_spec pb hooks msg
  by_cases hi : i = j
  · subst hi
    simp [World.initiate, act, hup]
  · exact Function.update_of_ne hi ..

/-- In the order in which it was heard, and without a member's own. -/
theorem received_eq {es : List (Broadcast.Event ι Bytes (Initiation ι))}
    {s : Medium ι Bytes (World ι)} (h : Run (medium (talk pb cfg Allowed)) es s) (i : ι) :
    s.state.received i =
      ((heardBy i es).map (parsed pb)).filter fun m => m.src ≠ (cfg i).modemId := by
  refine h.invariant (I := fun es s => s.state.received i =
    ((heardBy i es).map (parsed pb)).filter fun m => m.src ≠ (cfg i).modemId) ?_ ?_
  · intro s hs
    obtain ⟨hinit, -, -⟩ := hs
    rw [show s.state = World.start cfg from hinit]
    rfl
  · intro es s e s' hrun hI hstep
    have hcfg := talk_keeps.of_run hrun
    rw [heardBy_append, List.map_append, List.filter_append, ← hI]
    cases e with
    | start e =>
        obtain ⟨_, bytes, ⟨-, rfl, -⟩, rfl⟩ := hstep
        rw [heardBy_start, List.map_nil, List.filter_nil, List.append_nil]
        exact initiate_received s.state i e.member e.hooks e.msg
    | hear j bytes =>
        obtain ⟨-, rfl⟩ := hstep
        rw [heardBy_hear]
        exact hcfg.deliver_received i j bytes
    | lose j bytes =>
        obtain ⟨-, rfl⟩ := hstep
        rw [heardBy_lose, List.map_nil, List.filter_nil, List.append_nil]
        rfl

/-! ### What has been acknowledged -/

variable (pb cfg) in
/-- What a member says to a datagram. -/
def ackBytes (i : ι) (bytes : Bytes) : List Bytes :=
  if Owes pb cfg i bytes then [pb.serializeToString (ackOf (parsed pb bytes))] else []

omit [Fintype ι] in
/-- Acknowledgements are answers, and a member's answer does not depend on what it has heard. -/
theorem acks_answer (hpb : pb.RoundTrip) :
    Broadcast.Answers (talk pb cfg (OwnData cfg)) (Configured cfg) (isAck pb)
      (ackBytes pb cfg) where
  keeps := talk_keeps
  hear := by
    intro w i bytes hcfg
    show (datagrams ((w.driver i).hear pb bytes).2).filter (isAck pb) = ackBytes pb cfg i bytes
    rw [datagrams_hear (hcfg i), ackBytes]
    by_cases howes : Owes pb cfg i bytes
    · have hdest : (parsed pb bytes).dest = (w.driver i).driverCfg.modemId := by
        rw [hcfg i]
        exact howes.2.2.2
      rw [if_pos howes, if_pos howes, ← (w.driver i).ackFor_eq_ackOf hdest]
      exact List.filter_eq_self.mpr (by simp [isAck, typeOf_serialize hpb, Driver.ackFor])
    · rw [if_neg howes, if_neg howes]
      rfl
  start := by
    rintro w e w' _ hcfg ⟨⟨hdata, -, hstart, hf⟩, -, rfl⟩
    obtain ⟨htype, -, -⟩ := Driver.buffered_spec (w.driver e.member) hf hstart
    rcases (w.driver e.member).datagrams_initiate pb e.hooks e.msg with hnone | hone
    · rw [hnone]
      rfl
    · rw [hone]
      simp [isAck, typeOf_serialize hpb, htype, hdata]

/--
**What the group has said has been delivered.**  When the members have sent data
of their own, nothing has been lost and nothing is under way, every datagram has been
handed up by every other member, once, and every acknowledgement that was asked for has
come back, once.
-/
theorem delivered (hpb : pb.RoundTrip) (hids : Function.Injective fun i => (cfg i).modemId)
    {es : List (Broadcast.Event ι Bytes (Initiation ι))} {s : Medium ι Bytes (World ι)}
    (h : Run (medium (talk pb cfg (OwnData cfg))) es s) (hsettled : Settled es s) :
    Delivered pb cfg s.state := by
  have hsaid := said_eq_channel h
  have hreceived : ∀ i, (s.state.received i).Perm
      ((s.state.channel.map (parsed pb)).filter fun m => m.src ≠ (cfg i).modemId) := by
    intro i
    rw [received_eq h i, ← hsaid]
    exact ((hsettled.heardBy_perm h i).map (parsed pb)).filter _
  have hacks : (s.state.channel.filter (isAck pb)).Perm
      ((s.state.channel.filter (Wanted pb cfg ·)).map fun bytes =>
        pb.serializeToString (ackOf (parsed pb bytes))) := by
    rw [← hsaid]
    exact (acks_answer hpb).settled_sole h hsettled (fun _ _ _ => owes_sole hids) fun _ _ => rfl
  refine ⟨hreceived, hacks, ?_⟩
  intro a b q hab hq hdata hreq hsrc hdest
  have hids_ne : (cfg a).modemId ≠ (cfg b).modemId := fun hid => hab (hids hid)
  have hmem : ∀ i m, pb.serializeToString m ∈ s.state.channel → m.src ≠ (cfg i).modemId →
      m ∈ s.state.received i := by
    intro i m hm hsrc
    rw [(hreceived i).mem_iff, List.mem_filter]
    refine ⟨List.mem_map.mpr ⟨_, hm, ?_⟩, decide_eq_true hsrc⟩
    rw [parsed, hpb.parse_serialize]
  have hparsed : parsed pb (pb.serializeToString q) = q := by
    rw [parsed, hpb.parse_serialize]
  have hwanted : Wanted pb cfg (pb.serializeToString q) := by
    refine ⟨b, ?_⟩
    unfold Owes
    rw [hpb.parse_serialize]
    exact ⟨hsrc ▸ hids_ne, hdata, hreq, hdest⟩
  refine ⟨hmem b q hq (hsrc ▸ hids_ne), hmem a (ackOf q) ?_ ?_, fun hcount => ?_⟩
  · refine (List.mem_filter.mp (hacks.symm.subset ?_)).1
    refine List.mem_map.mpr ⟨_, List.mem_filter.mpr ⟨hq, decide_eq_true hwanted⟩, ?_⟩
    rw [hparsed]
  · show q.dest ≠ (cfg a).modemId
    rw [hdest]
    exact hids_ne.symm
  · exact congrArg (frameNumbers q.frameStartValue) (Driver.ackedCount_eq hcount)

/-- **A run that has lost nothing can settle**, with what is under way heard and answered. -/
theorem settles (hpb : pb.RoundTrip) (hids : Function.Injective fun i => (cfg i).modemId)
    {es : List (Broadcast.Event ι Bytes (Initiation ι))} {s : Medium ι Bytes (World ι)}
    (h : Run (medium (talk pb cfg (OwnData cfg))) es s) (hlossless : losses es = []) :
    ∃ es' s', Run (medium (talk pb cfg (OwnData cfg))) (es ++ es') s' ∧
      es'.filterMap Broadcast.Event.started = [] ∧ s.said ⊆ s'.said ∧ Settled (es ++ es') s' :=
  exists_settled (fun _ _ h => countP_takes_le hpb hids h) h hlossless

/-- One frame and its acknowledgement: each of the two is handed up by the other modem. -/
theorem delivered_oneFrame :
    ∃ es s, Run (medium (talk .wire twoModems (OwnData twoModems))) es s ∧
      Delivered .wire twoModems s.state ∧
      oneFrameSent ∈ s.state.received true ∧ ackOf oneFrameSent ∈ s.state.received false := by
  obtain ⟨es', s', hrun, -, hsaid, hsettled⟩ :=
    settles Protobuf.wire_roundTrip twoModems_injective run_oneFrameSaid rfl
  have hdelivered := delivered Protobuf.wire_roundTrip twoModems_injective hrun hsettled
  have hsent : Protobuf.wire.serializeToString oneFrameSent ∈ s'.state.channel := by
    rw [← said_eq_channel hrun]
    exact hsaid (List.mem_singleton.mpr rfl)
  obtain ⟨hreceived, hback, -⟩ :=
    hdelivered.acknowledged false true oneFrameSent nofun hsent rfl rfl rfl rfl
  exact ⟨_, s', hrun, hdelivered, hreceived, hback⟩

end World

end UdpMulticast
