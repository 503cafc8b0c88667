/-
The state machine application, `machine.h` and `subscriber.cpp`.

`boost::statechart` is not part of the repository.  The two states with their
reactions are a `Statechart.Chart`; what their constructors and destructors do is
what entering and leaving puts out.

`machine_` is a pointer.  A call that goes through it while it is null has no
result.
-/
import Goby3Examples.Lib.Runs
import Goby3Examples.Lib.Statechart

namespace StateMachine

open Runs Statechart

/-- `protobuf::State` -/
inductive State
  | ON
  | OFF
  deriving DecidableEq, Repr

/-- `protobuf::StateControl` -/
structure StateControl where
  desiredState : State
  deriving DecidableEq, Repr

/-- `protobuf::StateReport` -/
structure StateReport where
  currentState : State
  deriving DecidableEq, Repr

/-- The events of the statechart. -/
inductive Event
  | evTurnOn
  | evTurnOff
  deriving DecidableEq, Repr

/-- The two state classes. -/
inductive Mode
  | On
  | Off
  deriving DecidableEq, Repr

/-- What the application puts out. -/
inductive Output
  /-- On `groups::state_report`. -/
  | publish (report : StateReport)
  | cout (line : String)
  deriving DecidableEq, Repr

/-! ### The chart -/

namespace Mode

/-- The transitions. -/
def reaction : Mode → Event → Option Mode
  | On, .evTurnOff => some Off
  | Off, .evTurnOn => some On
  | _, _ => none

/-- The constructors. -/
def entry : Mode → List Output
  | On => [.publish { currentState := .ON }, .cout "Entering state: ON"]
  | Off => [.publish { currentState := .OFF }, .cout "Entering state: OFF"]

/-- The destructors. -/
def exit : Mode → List Output
  | On => [.cout "Leaving state: ON"]
  | Off => [.cout "Leaving state: OFF"]

end Mode

/-- The statechart. -/
def chart : Chart Mode Event Output where
  initial := .Off
  reaction := Mode.reaction
  entry := Mode.entry
  exit := Mode.exit

/-! ### The application -/

/-- `machine_`, and the machine's active state. -/
structure StateMachineApp where
  machine : Option (Machine Mode) := none
  deriving DecidableEq, Repr

namespace StateMachineApp

/-- `initialize()`, which replaces whatever `machine_` is. -/
def onInitialize : StateMachineApp × List Output :=
  let m := chart.initiate none
  ({ machine := some m.1 }, m.2)

variable (app : StateMachineApp)

/-- The event the switch of the subscription's handler sends on. -/
def event : State → Event
  | .ON => .evTurnOn
  | .OFF => .evTurnOff

/-- `ShortDebugString` -/
def shortDebugString (ctrl : StateControl) : String :=
  match ctrl.desiredState with
  | .ON => "desired_state: ON"
  | .OFF => "desired_state: OFF"

/-- The handler of `groups::state_control`. -/
def onStateControl (ctrl : StateControl) : Option (StateMachineApp × List Output) :=
  app.machine.map fun machine =>
    let m := chart.processEvent machine (event ctrl.desiredState)
    ({ machine := some m.1 }, .cout ("Received message: " ++ shortDebugString ctrl) :: m.2)

/-- `finalize()` -/
def onFinalize : Option (StateMachineApp × List Output) :=
  app.machine.map fun machine => ({ machine := none }, (chart.terminate machine).2)

end StateMachineApp

/-! ### A session -/

/-- Where the application is between its construction and its end. -/
inductive Phase
  | constructed
  | running
  | finalized
  | crashed
  deriving DecidableEq, Repr

/-- The application, and everything it has put out. -/
structure Session where
  phase : Phase := .constructed
  app : StateMachineApp := {}
  output : List Output := []
  deriving DecidableEq, Repr

/-- The controllers are of any kind and any number. -/
inductive Call (ι : Type*)
  | onInitialize
  | deliver (controller : ι) (ctrl : StateControl)
  | onFinalize

/-- What is left of the session after a call; one without a result ends it. -/
def Session.after (s : Session) (phase : Phase) :
    Option (StateMachineApp × List Output) → Session
  | some (app, out) => { phase, app, output := s.output ++ out }
  | none => { s with phase := .crashed }

/-- Goby calls `initialize` first and `finalize` last, and delivers in between. -/
def Session.Step {ι : Type*} (s : Session) (c : Call ι) (s' : Session) : Prop :=
  match c with
  | .onInitialize =>
    s.phase = .constructed ∧ s' = s.after .running (some StateMachineApp.onInitialize)
  | .deliver _ ctrl => s.phase = .running ∧ s' = s.after .running (s.app.onStateControl ctrl)
  | .onFinalize => s.phase = .running ∧ s' = s.after .finalized s.app.onFinalize

/-- The application from its construction on. -/
def sessions (ι : Type*) : System Session (Call ι) where
  init := fun s => s = {}
  step := Session.Step

end StateMachine
