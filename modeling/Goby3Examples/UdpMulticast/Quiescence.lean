/-
How long a group talks.

An acknowledgement is a datagram to the whole group like any other, and whoever
hears a datagram may send one.  Here every datagram reaches every member once at
most, and the group falls silent whatever comes when: data is answered by its
addressee alone, and an acknowledgement is answered by nobody.

The members may be told to send anything, under any source and with any hooks.
Where they send data of their own they are the group of `World`, and everything
proved of its runs holds of these too: `talk_group`.
-/
import Goby3Examples.Lib.Broadcast
import Goby3Examples.UdpMulticast.Attribution

namespace UdpMulticast

open Broadcast Runs

namespace Driver

variable (pb : Protobuf)

/-- A message sends itself or nothing. -/
theorem datagrams_initiate (d : Driver) (hooks : Hooks) (m : ModemTransmission) :
    datagrams (d.handleInitiateTransmission pb hooks m).2 = [] ∨
      datagrams (d.handleInitiateTransmission pb hooks m).2 =
        [pb.serializeToString (d.buffered hooks m)] := by
  simp only [handleInitiateTransmission]
  split
  · exact Or.inr rfl
  · exact Or.inl rfl

end Driver

namespace World

variable {ι : Type} [DecidableEq ι] (pb : Protobuf) (cfg : ι → DriverConfig)

/-- One call of `handle_initiate_transmission`. -/
structure Initiation (ι : Type) where
  member : ι
  hooks : Hooks
  msg : ModemTransmission

/-- Data of the member's own, which the driver is to number. -/
def OwnData (e : Initiation ι) : Prop :=
  e.msg.type = .data ∧ e.msg.src = (cfg e.member).modemId ∧ e.msg.frameStart = none ∧
    e.hooks.Faithful

/-- The group, each member seeing a datagram once; only some initiations may be allowed. -/
def talk (Allowed : Initiation ι → Prop) : Members ι Bytes (World ι) (Initiation ι) where
  init := fun w => w = start cfg
  start := fun w e w' bytes =>
    Allowed e ∧ w' = w.initiate pb e.member e.hooks e.msg ∧
      bytes = datagrams ((w.driver e.member).handleInitiateTransmission pb e.hooks e.msg).2
  hear := fun w i bytes => (w.deliver pb i bytes, datagrams ((w.driver i).hear pb bytes).2)

/-- What an event of the medium is to the group; a loss is nothing at all. -/
def groupEvent : Broadcast.Event ι Bytes (Initiation ι) → Option (Event ι)
  | .start e => some (.initiate e.member e.hooks e.msg)
  | .hear i bytes => some (.deliver i bytes)
  | .lose _ _ => none

variable {pb cfg} [Fintype ι] {Allowed : Initiation ι → Prop}

/-- What has been said is what is in the channel. -/
theorem said_eq_channel {es : List (Broadcast.Event ι Bytes (Initiation ι))}
    {s : Medium ι Bytes (World ι)} (h : Run (medium (talk pb cfg Allowed)) es s) :
    s.said = s.state.channel := by
  refine h.state_invariant (I := fun s => s.said = s.state.channel) ?_ ?_
  · rintro s ⟨hinit, hsaid, -⟩
    rw [hsaid, show s.state = World.start cfg from hinit]
    rfl
  · intro s e s' hsaid hstep
    cases e with
    | start e =>
        obtain ⟨_, _, ⟨-, rfl, rfl⟩, rfl⟩ := hstep
        exact congrArg (· ++ _) hsaid
    | hear i bytes =>
        obtain ⟨-, rfl⟩ := hstep
        exact congrArg (· ++ _) hsaid
    | lose i bytes =>
        obtain ⟨-, rfl⟩ := hstep
        exact hsaid

/-! ### Who answers what -/

variable (pb cfg) in
/-- The member answers this datagram. -/
def Owes (i : ι) (bytes : Bytes) : Prop :=
  (pb.parseFromArray bytes).2.src ≠ (cfg i).modemId ∧ (pb.parseFromArray bytes).2.type = .data ∧
    (pb.parseFromArray bytes).2.ackRequested = true ∧
      (pb.parseFromArray bytes).2.dest = (cfg i).modemId

instance (i : ι) (bytes : Bytes) : Decidable (Owes pb cfg i bytes) :=
  inferInstanceAs (Decidable (_ ∧ _))

variable (pb) in
/-- The type of the message that is read from a datagram. -/
def typeOf (bytes : Bytes) : TransmissionType := (pb.parseFromArray bytes).2.type

omit [DecidableEq ι] [Fintype ι] in
theorem typeOf_serialize (hpb : pb.RoundTrip) (m : ModemTransmission) :
    typeOf pb (pb.serializeToString m) = m.type := by
  rw [typeOf, hpb.parse_serialize]

omit [DecidableEq ι] [Fintype ι] in
theorem datagrams_hear {d : Driver} {i : ι} (hcfg : d.driverCfg = cfg i) (bytes : Bytes) :
    datagrams (d.hear pb bytes).2 =
      if Owes pb cfg i bytes then
        [pb.serializeToString (d.ackFor (pb.parseFromArray bytes).2)]
      else [] := by
  obtain ⟨-, -, -, hsend⟩ := d.hear_spec pb (Prod.eta (pb.parseFromArray bytes)).symm
  have hiff : ((pb.parseFromArray bytes).2.src ≠ d.driverCfg.modemId ∧
      d.acks (pb.parseFromArray bytes).2 = true) ↔ Owes pb cfg i bytes := by
    rw [Driver.acks_eq_true, hcfg]
    rfl
  rw [hsend]
  simp only [hiff]

omit [DecidableEq ι] [Fintype ι] in
/-- Data has one addressee. -/
theorem owes_sole (hids : Function.Injective fun i => (cfg i).modemId) {bytes : Bytes} {i j : ι}
    (hi : Owes pb cfg i bytes) (hj : Owes pb cfg j bytes) : i = j := by
  obtain ⟨-, -, -, hdi⟩ := hi
  obtain ⟨-, -, -, hdj⟩ := hj
  exact hids (hdi.symm.trans hdj)

omit [DecidableEq ι] in
/-- Nothing else has any. -/
theorem sum_owes_le (hids : Function.Injective fun i => (cfg i).modemId) (bytes : Bytes) :
    (∑ i, if Owes pb cfg i bytes then 1 else 0) ≤ if typeOf pb bytes = .data then 1 else 0 := by
  rw [Finset.sum_boole, Nat.cast_id]
  by_cases hdata : typeOf pb bytes = .data
  · rw [if_pos hdata, Finset.card_le_one]
    exact fun i hi j hj =>
      owes_sole hids (Finset.mem_filter.mp hi).2 (Finset.mem_filter.mp hj).2
  · rw [if_neg hdata, Nat.le_zero, Finset.card_eq_zero, Finset.filter_eq_empty_iff]
    exact fun i _ howes => hdata howes.2.1

/-! ### Configurations stay as they are -/

variable (cfg) in
/-- Each driver has the configuration it was started with. -/
def Configured (w : World ι) : Prop := ∀ i, (w.driver i).driverCfg = cfg i

omit [DecidableEq ι] [Fintype ι] in
theorem configured_start (w : World ι) (h : w = start cfg) : Configured cfg w := by
  subst h
  exact fun _ => rfl

omit [Fintype ι] in
theorem Configured.initiate {w : World ι} (h : Configured cfg w) (j : ι) (hooks : Hooks)
    (msg : ModemTransmission) : Configured cfg (w.initiate pb j hooks msg) := by
  intro i
  by_cases hi : i = j
  · subst hi
    obtain ⟨hkeep, -⟩ := (w.driver i).handleInitiateTransmission_spec pb hooks msg
    simpa [World.initiate, act] using hkeep.trans (h i)
  · simpa [World.initiate, act, hi] using h i

omit [Fintype ι] in
theorem Configured.deliver {w : World ι} (h : Configured cfg w) (j : ι) (bytes : Bytes) :
    Configured cfg (w.deliver pb j bytes) := by
  intro i
  by_cases hi : i = j
  · subst hi
    obtain ⟨hkeep, -⟩ := (w.driver i).hear_spec pb (Prod.eta (pb.parseFromArray bytes)).symm
    simpa [World.deliver, act] using hkeep.trans (h i)
  · simpa [World.deliver, act, hi] using h i

omit [Fintype ι] in
theorem talk_keeps : Keeps (talk pb cfg Allowed) (Configured cfg) where
  init := configured_start
  start := by
    intro w e w' bytes hcfg hstart
    obtain ⟨-, rfl, -⟩ := hstart
    exact hcfg.initiate e.member e.hooks e.msg
  hear := fun w i bytes hcfg => hcfg.deliver i bytes

/-- **A run on the medium is a run of the group**, where the members send data of their own. -/
theorem talk_group {es : List (Broadcast.Event ι Bytes (Initiation ι))}
    {s : Medium ι Bytes (World ι)} (h : Run (medium (talk pb cfg (OwnData cfg))) es s) :
    Run (group pb cfg) (es.filterMap groupEvent) s.state := by
  refine h.invariant (I := fun es s => Run (group pb cfg) (es.filterMap groupEvent) s.state) ?_ ?_
  · rintro s ⟨hinit, -, -⟩
    exact Run.start hinit
  · rintro es s e s' hrun hgroup hstep
    rw [List.filterMap_append]
    cases e with
    | start e =>
        obtain ⟨_, _, ⟨⟨hdata, hsrc, hstart, hf⟩, rfl, -⟩, rfl⟩ := hstep
        rw [← talk_keeps.of_run hrun e.member] at hsrc
        exact run_initiate hgroup e.member hf hdata hsrc hstart
    | hear i bytes =>
        obtain ⟨hmem, rfl⟩ := hstep
        exact run_deliver hgroup i (said_eq_channel hrun ▸ said_of_inFlight hrun _ hmem)
    | lose i bytes =>
        obtain ⟨-, rfl⟩ := hstep
        rw [show [Broadcast.Event.lose i bytes].filterMap groupEvent = ([] : List (Event ι)) from
          rfl, List.append_nil]
        exact hgroup

/-! ### What the talk costs -/

/-- Whatever is counted, it is paid for when data may be answered once and an acknowledgement costs
no more than that. -/
theorem budget (hpb : pb.RoundTrip) (hids : Function.Injective fun i => (cfg i).modemId)
    {weight cost : Bytes → ℕ} {k : ℕ}
    (hpays : ∀ bytes, weight bytes + (if typeOf pb bytes = .data then 1 else 0) ≤ cost bytes)
    (hack : ∀ bytes, typeOf pb bytes = .ack → cost bytes ≤ 1) (hgrant : ∀ bytes, cost bytes ≤ k) :
    Budget (talk pb cfg Allowed) (Configured cfg) weight cost
      (fun c => if Owes pb cfg c.1 c.2 then 1 else 0) fun _ => k where
  keeps := talk_keeps
  pays := fun bytes =>
    (Nat.add_le_add_left (sum_owes_le hids bytes) _).trans (hpays bytes)
  answers := by
    intro w i bytes hcfg
    show ((datagrams ((w.driver i).hear pb bytes).2).map cost).sum ≤ _
    rw [datagrams_hear (hcfg i)]
    by_cases howes : Owes pb cfg i bytes
    · rw [if_pos howes, if_pos howes, List.map_singleton, List.sum_singleton]
      exact hack _ (typeOf_serialize hpb _)
    · rw [if_neg howes, if_neg howes]
      rfl
  starts := by
    rintro w e w' _ - ⟨-, -, rfl⟩
    rcases (w.driver e.member).datagrams_initiate pb e.hooks e.msg with hnone | hone
    · rw [hnone]
      exact Nat.zero_le k
    · rw [hone, List.map_singleton, List.sum_singleton]
      exact hgrant _

/-! ### The bounds -/

theorem length_channel_le (hpb : pb.RoundTrip)
    (hids : Function.Injective fun i => (cfg i).modemId)
    {es : List (Broadcast.Event ι Bytes (Initiation ι))} {s : Medium ι Bytes (World ι)}
    (h : Run (medium (talk pb cfg Allowed)) es s) :
    s.state.channel.length ≤ 2 * (es.filterMap Broadcast.Event.started).length := by
  have hbudget : Budget (talk pb cfg Allowed) _ (fun _ => 1)
      (fun bytes => 1 + if typeOf pb bytes = .data then 1 else 0) _ fun _ => 2 :=
    budget hpb hids (fun _ => Nat.le_refl _) (fun bytes hack => by simp [hack])
      fun bytes => by split <;> omega
  have hsum := hbudget.said_le h
  rw [said_eq_channel h, List.map_const', List.sum_replicate_nat, List.map_const',
    List.sum_replicate_nat] at hsum
  omega

theorem taken_add_inFlight_eq {es : List (Broadcast.Event ι Bytes (Initiation ι))}
    {s : Medium ι Bytes (World ι)} (h : Run (medium (talk pb cfg Allowed)) es s) :
    es.countP Broadcast.Event.takes + s.inFlight.card =
      Fintype.card ι * s.state.channel.length := by
  rw [← said_eq_channel h]
  exact taken_add_inFlight h

theorem countP_takes_le (hpb : pb.RoundTrip)
    (hids : Function.Injective fun i => (cfg i).modemId)
    {es : List (Broadcast.Event ι Bytes (Initiation ι))} {s : Medium ι Bytes (World ι)}
    (h : Run (medium (talk pb cfg Allowed)) es s) :
    es.countP Broadcast.Event.takes ≤
      2 * Fintype.card ι * (es.filterMap Broadcast.Event.started).length := by
  have hcopies := taken_add_inFlight_eq h
  calc es.countP Broadcast.Event.takes
      ≤ Fintype.card ι * s.state.channel.length := by omega
    _ ≤ Fintype.card ι * (2 * (es.filterMap Broadcast.Event.started).length) :=
        Nat.mul_le_mul_left _ (length_channel_le hpb hids h)
    _ = 2 * Fintype.card ι * (es.filterMap Broadcast.Event.started).length := by
        rw [← Nat.mul_assoc, Nat.mul_comm (Fintype.card ι)]

variable (pb) in
/-- The group has said little, and says little more. -/
structure Quiet (es : List (Broadcast.Event ι Bytes (Initiation ι)))
    (s : Medium ι Bytes (World ι)) : Prop where
  /-- Every datagram has been heard or lost by each member once, or is about to be. -/
  copies : es.countP Broadcast.Event.takes + s.inFlight.card =
    Fintype.card ι * s.state.channel.length
  datagrams : s.state.channel.length ≤ 2 * (es.filterMap Broadcast.Event.started).length
  acks : s.state.channel.countP (typeOf pb · == .ack) ≤
    (es.filterMap Broadcast.Event.started).length
  /-- So there is an end to it, whoever hears what and when. -/
  ends : es.countP Broadcast.Event.takes ≤
    2 * Fintype.card ι * (es.filterMap Broadcast.Event.started).length

/--
**The group falls silent.**  Whatever is initiated, and however receptions and
losses are ordered, there are no more than two datagrams to each transmission that
was initiated, one of them an acknowledgement at most, and so no more than two
receptions by each member.
-/
theorem falls_silent (hpb : pb.RoundTrip) (hids : Function.Injective fun i => (cfg i).modemId)
    {es : List (Broadcast.Event ι Bytes (Initiation ι))} {s : Medium ι Bytes (World ι)}
    (h : Run (medium (talk pb cfg Allowed)) es s) : Quiet pb es s := by
  refine ⟨taken_add_inFlight_eq h, length_channel_le hpb hids h, ?_, countP_takes_le hpb hids h⟩
  have hbudget : Budget (talk pb cfg Allowed) _
      (fun bytes => if typeOf pb bytes == .ack then 1 else 0) (fun _ => 1) _ fun _ => 1 :=
    budget hpb hids (fun bytes => by cases typeOf pb bytes <;> simp) (fun _ _ => Nat.le_refl _)
      fun _ => Nat.le_refl _
  have hsum := hbudget.said_le h
  rw [said_eq_channel h, sum_indicator, List.map_const', List.sum_replicate_nat] at hsum
  omega

/-- Modem 1 has sent its frame, and nobody has heard it. -/
def oneFrameSaid : Medium Bool Bytes (World Bool) :=
  Medium.say { state := start twoModems }
    ((start twoModems).initiate .wire false ⟨id, id⟩ oneFrame)
    [Protobuf.wire.serializeToString oneFrameSent]

theorem run_oneFrameSaid : Run (medium (talk .wire twoModems (OwnData twoModems)))
    [.start ⟨false, ⟨id, id⟩, oneFrame⟩] oneFrameSaid := by
  have hstart : Run (medium (talk .wire twoModems (OwnData twoModems))) []
      { state := start twoModems } := Run.start ⟨rfl, rfl, rfl⟩
  exact hstart.snoc ⟨_, _, ⟨⟨rfl, rfl, rfl, faithful_id⟩, rfl, rfl⟩, rfl⟩

/-- One frame, heard by its addressee: the bound of two datagrams is reached. -/
theorem falls_silent_oneFrame :
    ∃ es s, Run (medium (talk .wire twoModems (OwnData twoModems))) es s ∧ Quiet .wire es s ∧
      (es.filterMap Broadcast.Event.started).length = 1 ∧ s.state.channel.length = 2 := by
  have hmem : (true, Protobuf.wire.serializeToString oneFrameSent) ∈ oneFrameSaid.inFlight :=
    Multiset.mem_add.mpr (Or.inr (mem_copies.mpr List.mem_cons_self))
  have hhear := run_hear run_oneFrameSaid hmem
  refine ⟨_, _, hhear, falls_silent Protobuf.wire_roundTrip twoModems_injective hhear, rfl, ?_⟩
  show (oneFrameSaid.state.deliver .wire true _).channel.length = 2
  rw [deliver_channel _ _ (Protobuf.wire_roundTrip.parse_serialize _), if_pos ⟨by decide, rfl⟩]
  rfl

end World

end UdpMulticast
