/-
What the application reports is what it went through.

The chart of the two states is one that obeys, and entering a state reports it.
So in a running session the machine and the reports are what
`Statechart.Chart.Tracks` says, from `initialize` to `finalize`: the desired
states, after an `OFF`, without the repetitions.
-/
import Goby3Examples.StateMachine.Machine

namespace StateMachine

open Runs Statechart

/-! ### The chart obeys -/

namespace Mode

/-- The mode for a state, and back. -/
def ofState : State → Mode
  | .ON => On
  | .OFF => Off

/-- The state that is reported in a mode. -/
def state : Mode → State
  | On => .ON
  | Off => .OFF

@[simp] theorem state_ofState (x : State) : (ofState x).state = x := by
  cases x with
  | ON => rfl
  | OFF => rfl

theorem state_injective : Function.Injective state := by
  intro m m' h
  cases m <;> cases m' <;> first | rfl | cases h

end Mode

/-- The mode that an event asks for. -/
def Event.target : Event → Mode
  | .evTurnOn => .On
  | .evTurnOff => .Off

theorem chart_obeys : chart.Obeys Event.target := by
  intro m e
  cases m <;> cases e <;> rfl

@[simp] theorem target_event (x : State) :
    (StateMachineApp.event x).target = Mode.ofState x := by
  cases x with
  | ON => rfl
  | OFF => rfl

/-- The state in a report. -/
def Output.report : Output → Option State
  | .publish report => some report.currentState
  | .cout _ => none

theorem chart_reports : chart.Reports Output.report Mode.state := by
  refine ⟨fun m => ?_, fun m => ?_⟩
  · cases m with
    | On => rfl
    | Off => rfl
  · cases m with
    | On => rfl
    | Off => rfl

/-! ### Sessions -/

variable {ι : Type*}

/-- The state that a call asks for. -/
def Call.desired : Call ι → Option State
  | .deliver _ ctrl => some ctrl.desiredState
  | _ => none

/-- The desired states that were delivered, oldest first. -/
def desired (calls : List (Call ι)) : List State := calls.filterMap Call.desired

theorem desired_append_of_none {calls : List (Call ι)} {c : Call ι} (h : c.desired = none) :
    desired (calls ++ [c]) = desired calls := by
  rw [desired, List.filterMap_append, List.filterMap_cons_none h, List.filterMap_nil,
    List.append_nil]
  rfl

theorem desired_deliver (calls : List (Call ι)) (controller : ι) (ctrl : StateControl) :
    desired (calls ++ [.deliver controller ctrl]) = desired calls ++ [ctrl.desiredState] := by
  rw [desired, List.filterMap_append]
  rfl

namespace Session

/-- The states that were reported. -/
def reports (s : Session) : List State := s.output.filterMap Output.report

/-- The state the machine is in, as long as there is one. -/
def currentState (s : Session) : Option State := s.app.machine.join.map Mode.state

/-- The machine is where the last desired state takes it, and what is on record led there. -/
abbrev Tracks (calls : List (Call ι)) (s : Session) (m : Machine Mode) : Prop :=
  chart.Tracks Output.report Mode.state ((desired calls).map Mode.ofState) m s.output

theorem Tracks.reports_eq {calls : List (Call ι)} {s : Session} {m : Machine Mode}
    (h : s.Tracks calls m) : s.reports = (.OFF :: desired calls).destutter (· ≠ ·) := by
  have hback : ((desired calls).map Mode.ofState).map Mode.state = desired calls := by
    simp only [List.map_map, Function.comp_def, Mode.state_ofState, List.map_id']
  rw [reports, h.reported, List.map_destutter_ne _ Mode.state_injective, List.map_cons, hback]
  rfl

/-- The machine and the output, for each phase. -/
def Kept (calls : List (Call ι)) (s : Session) : Prop :=
  match s.phase with
  | .constructed => desired calls = [] ∧ s.output = []
  | .running => ∃ m, s.app.machine = some m ∧ s.Tracks calls m
  | .finalized => ∃ m, s.Tracks calls m
  | .crashed => False

section Calls

variable {calls : List (Call ι)} {s : Session}

theorem Kept.ne_crashed (h : s.Kept calls) : s.phase ≠ .crashed := by
  intro hphase
  rw [Kept, hphase] at h
  exact h

theorem Kept.before (h : s.Kept calls) (hphase : s.phase = .constructed) : s.reports = [] := by
  rw [Kept, hphase] at h
  rw [reports, h.2]
  rfl

theorem Kept.running (h : s.Kept calls) (hphase : s.phase = .running) :
    ∃ m, s.app.machine = some m ∧ s.Tracks calls m := by
  rw [Kept, hphase] at h
  exact h

theorem Kept.tracks (h : s.Kept calls) (hphase : s.phase ≠ .constructed) :
    ∃ m, s.Tracks calls m := by
  cases hnow : s.phase with
  | constructed => exact absurd hnow hphase
  | running =>
      obtain ⟨m, -, htracks⟩ := h.running hnow
      exact ⟨m, htracks⟩
  | finalized =>
      rw [Kept, hnow] at h
      exact h
  | crashed => exact absurd hnow h.ne_crashed

theorem kept_onInitialize (h : s.Kept calls) (hphase : s.phase = .constructed) :
    (s.after .running (some StateMachineApp.onInitialize)).Kept (calls ++ [.onInitialize]) := by
  rw [Kept, hphase] at h
  obtain ⟨hnone, hout⟩ := h
  refine ⟨_, rfl, ?_⟩
  rw [Tracks, desired_append_of_none rfl, hnone]
  exact Chart.Tracks.initiate chart_reports (by rw [hout]; rfl)

/-- The line about the message is not a report. -/
theorem kept_deliver (h : s.Kept calls) (hphase : s.phase = .running) (controller : ι)
    (ctrl : StateControl) :
    (s.after .running (s.app.onStateControl ctrl)).Kept (calls ++ [.deliver controller ctrl]) := by
  obtain ⟨m, hm, htracks⟩ := h.running hphase
  have hsilent : chart.Tracks Output.report Mode.state ((desired calls).map Mode.ofState) m
      (s.output ++ [.cout ("Received message: " ++ StateMachineApp.shortDebugString ctrl)]) :=
    Chart.Tracks.silent htracks rfl
  have hnext := hsilent.processEvent chart_reports chart_obeys
    (StateMachineApp.event ctrl.desiredState)
  rw [StateMachineApp.onStateControl, hm]
  refine ⟨_, rfl, ?_⟩
  rw [Tracks, desired_deliver, List.map_append, List.map_singleton, ← target_event]
  rw [List.append_assoc] at hnext
  exact hnext

theorem kept_onFinalize (h : s.Kept calls) (hphase : s.phase = .running) :
    (s.after .finalized s.app.onFinalize).Kept (calls ++ [.onFinalize]) := by
  obtain ⟨m, hm, htracks⟩ := h.running hphase
  rw [StateMachineApp.onFinalize, hm]
  refine ⟨m, ?_⟩
  rw [Tracks, desired_append_of_none rfl]
  exact Chart.Tracks.silent htracks (Chart.reported_terminate chart_reports m)

end Calls

theorem kept_step {calls : List (Call ι)} {s s' : Session} {c : Call ι} (h : s.Kept calls)
    (hstep : s.Step c s') : s'.Kept (calls ++ [c]) := by
  cases c with
  | onInitialize =>
      obtain ⟨hphase, rfl⟩ := hstep
      exact kept_onInitialize h hphase
  | deliver controller ctrl =>
      obtain ⟨hphase, rfl⟩ := hstep
      exact kept_deliver h hphase controller ctrl
  | onFinalize =>
      obtain ⟨hphase, rfl⟩ := hstep
      exact kept_onFinalize h hphase

theorem kept {calls : List (Call ι)} {s : Session} (h : Run (sessions ι) calls s) :
    s.Kept calls := by
  refine h.invariant (I := fun calls s => s.Kept calls) ?_ ?_
  · rintro _ rfl
    exact ⟨rfl, rfl⟩
  · intro calls s c s' _ hkept hstep
    exact kept_step hkept hstep

/-- The state after these calls: the last desired one, or `OFF`. -/
theorem Tracks.currentState_eq {calls : List (Call ι)} {s : Session} {m : Machine Mode}
    (hm : s.app.machine = some m) (h : s.Tracks calls m) :
    s.currentState = some ((desired calls).getLastD .OFF) := by
  rw [currentState, hm, h.active]
  show some (((desired calls).map Mode.ofState).getLastD (Mode.ofState .OFF)).state = _
  rw [List.getLastD_map, Mode.state_ofState]

/-- A redundant command puts out the line about the message and nothing else. -/
theorem Tracks.onStateControl_eq {calls : List (Call ι)} {s : Session} {m : Machine Mode}
    (hm : s.app.machine = some m) (h : s.Tracks calls m) {ctrl : StateControl}
    (hsame : s.currentState = some ctrl.desiredState) :
    s.app.onStateControl ctrl =
      some (s.app, [.cout ("Received message: " ++ StateMachineApp.shortDebugString ctrl)]) := by
  rw [h.currentState_eq hm] at hsame
  have htarget : (StateMachineApp.event ctrl.desiredState).target =
      ((desired calls).map Mode.ofState).getLastD (Mode.ofState .OFF) := by
    rw [target_event, List.getLastD_map, Option.some.inj hsame]
  have hdiscarded := Chart.Tracks.redundant chart_obeys h htarget
  obtain ⟨phase, ⟨machine⟩, output⟩ := s
  cases hm
  rw [StateMachineApp.onStateControl, Option.map_some, hdiscarded]

end Session

/-! ### What a session has reported -/

section Exists

variable (ctrls : List (ι × StateControl))

/-- `initialize`, and these messages from these controllers. -/
def delivered : List (Call ι) := .onInitialize :: ctrls.map fun d => .deliver d.1 d.2

theorem desired_delivered : desired (delivered ctrls) = ctrls.map fun d => d.2.desiredState := by
  rw [desired, delivered, List.filterMap_cons_none rfl, List.filterMap_map]
  exact congrFun List.filterMap_eq_map ctrls

theorem exists_running : ∃ s, Run (sessions ι) (delivered ctrls) s ∧ s.phase = .running := by
  induction ctrls using List.reverseRecOn with
  | nil => exact ⟨_, Run.snoc (Run.start rfl) ⟨rfl, rfl⟩, rfl⟩
  | append_singleton ctrls d ih =>
      obtain ⟨s, hrun, hphase⟩ := ih
      obtain ⟨m, hm, -⟩ := (Session.kept hrun).running hphase
      refine ⟨s.after .running (s.app.onStateControl d.2), ?_, ?_⟩
      · rw [delivered, List.map_append, List.map_singleton, ← List.cons_append]
        exact Run.snoc hrun ⟨hphase, rfl⟩
      · rw [StateMachineApp.onStateControl, hm]
        rfl

/-- The calls can be made, whatever is delivered and by whom. -/
theorem exists_finalized :
    ∃ s, Run (sessions ι) (delivered ctrls ++ [.onFinalize]) s ∧ s.phase = .finalized := by
  obtain ⟨s, hrun, hphase⟩ := exists_running ctrls
  obtain ⟨m, hm, -⟩ := (Session.kept hrun).running hphase
  refine ⟨s.after .finalized s.app.onFinalize, Run.snoc hrun ⟨hphase, rfl⟩, ?_⟩
  rw [StateMachineApp.onFinalize, hm]
  rfl

end Exists

/-- What was reported after these calls. -/
structure ReportsTransitions (calls : List (Call ι)) (s : Session) : Prop where
  alive : s.phase ≠ .crashed
  before : s.phase = .constructed → s.reports = []
  reports : s.phase ≠ .constructed → s.reports = (.OFF :: desired calls).destutter (· ≠ ·)
  first : s.phase ≠ .constructed → s.reports.head? = some .OFF
  alternate : s.reports.IsChain (· ≠ ·)
  last : s.phase = .running → s.reports.getLast? = s.currentState
  current : s.phase = .running → s.currentState = some ((desired calls).getLastD .OFF)
  redundant : s.phase = .running → ∀ (controller : ι) ctrl s',
    s.currentState = some ctrl.desiredState → s.Step (.deliver controller ctrl) s' →
      s'.reports = s.reports

namespace Session

variable {calls : List (Call ι)} {s : Session} {m : Machine Mode}

theorem Tracks.head?_reports (h : s.Tracks calls m) : s.reports.head? = some .OFF := by
  rw [h.reports_eq, List.destutter_cons', head?_destutter']

theorem Tracks.getLast?_reports (h : s.Tracks calls m) :
    s.reports.getLast? = some ((desired calls).getLastD .OFF) := by
  rw [h.reports_eq, List.destutter_cons', getLast?_destutter']

theorem Tracks.isChain_reports (h : s.Tracks calls m) : s.reports.IsChain (· ≠ ·) := by
  rw [h.reports_eq]
  exact List.isChain_destutter _ _

theorem Kept.reportsTransitions (h : s.Kept calls) : ReportsTransitions calls s where
  alive := h.ne_crashed
  before := h.before
  reports := fun hphase => by
    obtain ⟨m, htracks⟩ := h.tracks hphase
    exact htracks.reports_eq
  first := fun hphase => by
    obtain ⟨m, htracks⟩ := h.tracks hphase
    exact htracks.head?_reports
  alternate := by
    by_cases hphase : s.phase = .constructed
    · rw [h.before hphase]
      exact List.IsChain.nil
    · obtain ⟨m, htracks⟩ := h.tracks hphase
      exact htracks.isChain_reports
  last := fun hphase => by
    obtain ⟨m, hm, htracks⟩ := h.running hphase
    rw [htracks.getLast?_reports, htracks.currentState_eq hm]
  current := fun hphase => by
    obtain ⟨m, hm, htracks⟩ := h.running hphase
    exact htracks.currentState_eq hm
  redundant := by
    rintro hphase controller ctrl s' hsame ⟨-, rfl⟩
    obtain ⟨m, hm, htracks⟩ := h.running hphase
    rw [htracks.onStateControl_eq hm hsame, reports, after, List.filterMap_append]
    exact List.append_nil _

end Session

/-- What is delivered is reported exactly, and in every session there can be. -/
structure ReportsExactly (ι : Type*) : Prop where
  complete : ∀ ctrls : List (ι × StateControl),
    ∃ s, Run (sessions ι) (delivered ctrls ++ [.onFinalize]) s ∧ s.phase = .finalized ∧
      s.reports = (.OFF :: ctrls.map fun d => d.2.desiredState).destutter (· ≠ ·)
  transitions : ∀ calls s, Run (sessions ι) calls s → ReportsTransitions calls s

/-- **The reports are the transitions**, whoever the controllers are and however they
interleave. -/
theorem reportsExactly (ι : Type*) : ReportsExactly ι where
  complete := by
    intro ctrls
    obtain ⟨s, hrun, hphase⟩ := exists_finalized ctrls
    obtain ⟨m, htracks⟩ := (Session.kept hrun).tracks (by rw [hphase]; simp)
    refine ⟨s, hrun, hphase, ?_⟩
    rw [htracks.reports_eq, desired_append_of_none rfl, desired_delivered]
  transitions := fun _ _ h => (Session.kept h).reportsTransitions

end StateMachine
