/-
The state machine application and its controller, `publisher.cpp`.

The controller toggles the desired state at every loop and publishes it; nothing
that comes back changes what it does.  It starts out with `ON`, so the first it
publishes is an `OFF`.

What is published before the application has subscribed is missed, and what is
published after that is delivered in order.  How many were missed decides whether
the first message is redundant, which no other ever is: `controlled`.
-/
import Mathlib.Algebra.Ring.Parity
import Mathlib.Data.List.Range
import Goby3Examples.StateMachine.Reports

namespace StateMachine

open Runs Statechart

/-! ### The controller -/

/-- `ctrl_`, as the constructor sets it. -/
structure StateMachineCtrl where
  ctrl : StateControl := { desiredState := .ON }
  deriving DecidableEq, Repr

/-- The controller, and what it publishes on `groups::state_control`. -/
def StateMachineCtrl.loop (c : StateMachineCtrl) : StateMachineCtrl × StateControl :=
  let ctrl : StateControl :=
    if c.ctrl.desiredState = .ON then { desiredState := .OFF }
    else if c.ctrl.desiredState = .OFF then { desiredState := .ON }
    else c.ctrl
  ({ ctrl }, ctrl)

/-! ### The two of them -/

/-- The two programs, and what is between them. -/
structure Pair where
  controller : StateMachineCtrl := {}
  /-- On `groups::state_control`, oldest first. -/
  published : List StateControl := []
  subscribed : Bool := false
  /-- What was published before the application subscribed. -/
  missed : ℕ := 0
  /-- What has been delivered or missed. -/
  gone : ℕ := 0
  session : Session := {}

/-- The controller loops, or the application subscribes or is called. -/
inductive PairEvent
  | loop
  | subscribe
  | call (c : Call Unit)

namespace Pair

/-- What an event does.  From its subscription on the application is taken to get every message,
once and in order. -/
def Step (w : Pair) (e : PairEvent) (w' : Pair) : Prop :=
  match e with
  | .loop =>
    w' = { w with
      controller := w.controller.loop.1, published := w.published ++ [w.controller.loop.2] }
  | .subscribe =>
    w.subscribed = false ∧ w' = { w with
      subscribed := true, missed := w.published.length, gone := w.published.length }
  | .call (.deliver i ctrl) =>
    w.subscribed = true ∧ w.published[w.gone]? = some ctrl ∧
      ∃ session, w.session.Step (.deliver i ctrl) session ∧
        w' = { w with gone := w.gone + 1, session }
  | .call c => ∃ session, w.session.Step c session ∧ w' = { w with session }

/-- The two from the start. -/
def system : System Pair PairEvent where
  init := fun w => w = {}
  step := Step

/-- How many messages are under way. -/
def underWay (w : Pair) : ℕ := w.published.length - w.gone

/-- The calls of the application. -/
def calls (es : List PairEvent) : List (Call Unit) :=
  es.filterMap fun
    | .call c => some c
    | _ => none

/-- `OFF`, `ON`, `OFF` and so on. -/
def word (i : ℕ) : State := if Even i then .OFF else .ON

/-- The application under its controller. -/
structure Controlled (es : List PairEvent) (w : Pair) : Prop where
  published : w.published.map (·.desiredState) = (List.range w.published.length).map word
  delivered : desired (calls es) = (List.range' w.missed (w.gone - w.missed)).map word
  /-- Only the first message can be redundant: if it is an `OFF`. -/
  reports : w.session.phase ≠ .constructed → w.session.reports =
    if (desired (calls es)).head? = some .OFF then desired (calls es)
    else .OFF :: desired (calls es)
  /-- Once something was delivered, the machine is where the controller wants it if an even number
  of messages is under way. -/
  inStep : w.session.phase = .running → desired (calls es) ≠ [] →
    (w.session.currentState = some w.controller.ctrl.desiredState ↔ Even w.underWay)

/-! ### Words -/

theorem word_succ (i : ℕ) : word (i + 1) = if word i = .ON then .OFF else .ON := by
  unfold word
  by_cases hi : Even i
  · simp [hi, Nat.even_add_one]
  · simp [hi, Nat.even_add_one]

theorem word_ne_succ (i : ℕ) : word i ≠ word (i + 1) := by
  rw [word_succ]
  cases word i with
  | ON => decide
  | OFF => decide

theorem word_eq_iff (i j : ℕ) : word i = word j ↔ (Even i ↔ Even j) := by
  unfold word
  by_cases hi : Even i <;> by_cases hj : Even j <;> simp [hi, hj]

theorem isChain_words (k d : ℕ) : ((List.range' k d).map word).IsChain (· ≠ ·) := by
  rw [List.isChain_map]
  apply List.IsChain.imp _ (List.isChain_range' k d 1)
  intro i j hij
  subst hij
  exact word_ne_succ i

/-- Words do not repeat, so the only repetition is of what stands before them. -/
theorem destutter_cons_words (x : State) {l : List State} (h : l.IsChain (· ≠ ·)) :
    (x :: l).destutter (· ≠ ·) = if l.head? = some x then l else x :: l := by
  cases l with
  | nil => rfl
  | cons y l =>
      rw [List.destutter_cons_cons]
      by_cases hxy : x = y
      · subst hxy
        have hself := List.destutter_of_isChain _ _ h
        rw [List.destutter_cons'] at hself
        simp [hself]
      · have hself := List.destutter_of_isChain _ _ h
        rw [List.destutter_cons'] at hself
        simp [hxy, hself, Ne.symm hxy]

/-! ### Runs -/

variable {es : List PairEvent} {w : Pair}

/-- What holds of the two at any time. -/
structure Inv (es : List PairEvent) (w : Pair) : Prop where
  session : Run (sessions Unit) (calls es) w.session
  wanted : w.controller.ctrl.desiredState = word (w.published.length + 1)
  published : w.published.map (·.desiredState) = (List.range w.published.length).map word
  missed_le : w.missed ≤ w.gone
  gone_le : w.gone ≤ w.published.length
  unsubscribed : w.subscribed = false → w.gone = 0 ∧ w.missed = 0
  delivered : desired (calls es) = (List.range' w.missed (w.gone - w.missed)).map word

theorem loop_eq {c : StateMachineCtrl} {i : ℕ} (h : c.ctrl.desiredState = word (i + 1)) :
    c.loop.2.desiredState = word i ∧ c.loop.1.ctrl.desiredState = word (i + 1 + 1) := by
  have hback : word i = word (i + 1 + 1) := by
    rw [word_eq_iff]
    simp [Nat.even_add_one]
  rw [hback, word_succ (i + 1), ← h]
  unfold StateMachineCtrl.loop
  cases c.ctrl.desiredState with
  | ON => simp
  | OFF => simp

theorem calls_append (es : List PairEvent) (c : Call Unit) :
    calls (es ++ [.call c]) = calls es ++ [c] := by
  unfold calls
  rw [List.filterMap_append]
  rfl

theorem calls_append_of_none (es : List PairEvent) {e : PairEvent} (h : ∀ c, e ≠ .call c) :
    calls (es ++ [e]) = calls es := by
  unfold calls
  rw [List.filterMap_append]
  cases e with
  | call c => exact absurd rfl (h c)
  | loop | subscribe => exact List.append_nil _

theorem Inv.loop (h : Inv es w) : Inv (es ++ [.loop]) { w with
    controller := w.controller.loop.1, published := w.published ++ [w.controller.loop.2] } := by
  obtain ⟨hword, hnext⟩ := loop_eq h.wanted
  have hcalls : calls (es ++ [.loop]) = calls es := calls_append_of_none es fun c hc => by cases hc
  refine ⟨hcalls ▸ h.session, ?_, ?_, h.missed_le, ?_, h.unsubscribed, hcalls ▸ h.delivered⟩
  · rw [List.length_append]
    exact hnext
  · simp only [List.map_append, List.length_append, List.length_singleton, List.range_succ,
      h.published, List.map_singleton, hword]
  · rw [List.length_append]
    exact Nat.le_add_right_of_le h.gone_le

theorem Inv.subscribe (h : Inv es w) (hoff : w.subscribed = false) : Inv (es ++ [.subscribe])
    { w with subscribed := true, missed := w.published.length, gone := w.published.length } := by
  have hcalls : calls (es ++ [.subscribe]) = calls es :=
    calls_append_of_none es fun c hc => by cases hc
  obtain ⟨hgone, hmissed⟩ := h.unsubscribed hoff
  have hnone := h.delivered
  rw [hgone, hmissed] at hnone
  refine ⟨hcalls ▸ h.session, h.wanted, h.published, Nat.le_refl _, Nat.le_refl _, ?_, ?_⟩
  · intro hstill
    cases hstill
  · rw [hcalls, hnone]
    simp

/-- A message says what its place among the published ones says. -/
theorem Inv.word_of_published (h : Inv es w) {ctrl : StateControl}
    (hctrl : w.published[w.gone]? = some ctrl) :
    w.gone < w.published.length ∧ ctrl.desiredState = word w.gone := by
  obtain ⟨hlt, hget⟩ := List.getElem?_eq_some_iff.mp hctrl
  refine ⟨hlt, ?_⟩
  have hword := congrArg (·[w.gone]?) h.published
  simp only [List.getElem?_map, hctrl, Option.map_some, List.getElem?_range hlt] at hword
  exact Option.some.inj hword

theorem Inv.deliver (h : Inv es w) (hon : w.subscribed = true) {i : Unit} {ctrl : StateControl}
    (hctrl : w.published[w.gone]? = some ctrl) {session : Session}
    (hstep : w.session.Step (.deliver i ctrl) session) :
    Inv (es ++ [.call (.deliver i ctrl)]) { w with gone := w.gone + 1, session } := by
  obtain ⟨hlt, hword⟩ := h.word_of_published hctrl
  have hmissed := h.missed_le
  refine ⟨?_, h.wanted, h.published, Nat.le_succ_of_le hmissed, hlt, ?_, ?_⟩
  · rw [calls_append]
    exact h.session.snoc hstep
  · intro hoff
    rw [hon] at hoff
    cases hoff
  · have hone : w.gone + 1 - w.missed = w.gone - w.missed + 1 := by omega
    have hlast : w.missed + (w.gone - w.missed) = w.gone := by omega
    rw [calls_append, desired_deliver, h.delivered, hword]
    simp only [hone, List.range'_concat, List.map_append, List.map_singleton, Nat.one_mul, hlast]

theorem Inv.call (h : Inv es w) {c : Call Unit} (hc : c.desired = none) {session : Session}
    (hstep : w.session.Step c session) : Inv (es ++ [.call c]) { w with session } := by
  refine ⟨?_, h.wanted, h.published, h.missed_le, h.gone_le, h.unsubscribed, ?_⟩
  · rw [calls_append]
    exact h.session.snoc hstep
  · rw [calls_append, desired_append_of_none hc]
    exact h.delivered

theorem inv (h : Run system es w) : Inv es w := by
  refine h.invariant (I := Inv) ?_ ?_
  · intro w hw
    rw [show w = _ from hw]
    refine ⟨Run.start rfl, ?_, rfl, Nat.le_refl _, Nat.le_refl _, fun _ => ⟨rfl, rfl⟩, rfl⟩
    simp [word]
  · intro es w e w' _ hinv hstep
    cases e with
    | loop =>
        obtain rfl := hstep
        exact hinv.loop
    | subscribe =>
        obtain ⟨hoff, rfl⟩ := hstep
        exact hinv.subscribe hoff
    | call c =>
        cases c with
        | deliver i ctrl =>
            obtain ⟨hon, hctrl, session, hsession, rfl⟩ := hstep
            exact hinv.deliver hon hctrl hsession
        | onInitialize | onFinalize =>
            obtain ⟨session, hsession, rfl⟩ := hstep
            exact hinv.call rfl hsession

/--
**The machine does what the controller says, one step behind for each message under
way.**  However deliveries and loops interleave, the messages are `OFF` and `ON` in
turn, from where the application came in; each is reported, but for an `OFF` that
comes first.
-/
theorem controlled (h : Run system es w) : Controlled es w := by
  have hinv := inv h
  have hkept := Session.kept hinv.session
  refine ⟨hinv.published, hinv.delivered, fun hphase => ?_, fun hphase hsome => ?_⟩
  · obtain ⟨m, htracks⟩ := hkept.tracks hphase
    have hchain : (desired (calls es)).IsChain (· ≠ ·) := by
      rw [hinv.delivered]
      exact isChain_words _ _
    rw [htracks.reports_eq, destutter_cons_words _ hchain]
  · obtain ⟨m, hm, htracks⟩ := hkept.running hphase
    have hgone : w.gone - w.missed ≠ 0 := by
      intro hzero
      apply hsome
      rw [hinv.delivered, hzero]
      rfl
    have hlast : (desired (calls es)).getLastD .OFF = word (w.gone - 1) := by
      have hone : w.gone - w.missed = w.gone - w.missed - 1 + 1 := by omega
      have hend : w.missed + (w.gone - w.missed - 1) = w.gone - 1 := by omega
      rw [hinv.delivered, hone, List.range'_concat]
      simp [hend]
    rw [htracks.currentState_eq hm, hlast, hinv.wanted, Option.some.injEq, word_eq_iff]
    have hbound := hinv.gone_le
    unfold underWay
    simp only [Nat.even_iff]
    omega

theorem run_loop (h : Run system es w) : Run system (es ++ [.loop]) { w with
    controller := w.controller.loop.1, published := w.published ++ [w.controller.loop.2] } :=
  h.snoc (show Step w .loop _ from rfl)

theorem run_subscribe (h : Run system es w) (hoff : w.subscribed = false) :
    Run system (es ++ [.subscribe]) { w with
      subscribed := true, missed := w.published.length, gone := w.published.length } :=
  h.snoc (show Step w .subscribe _ from ⟨hoff, rfl⟩)

theorem run_initialize (h : Run system es w) (hphase : w.session.phase = .constructed) :
    Run system (es ++ [.call .onInitialize]) { w with
      session := w.session.after .running (some StateMachineApp.onInitialize) } :=
  h.snoc (show Step w (.call .onInitialize) _ from ⟨_, ⟨hphase, rfl⟩, rfl⟩)

theorem run_deliver (h : Run system es w) (hon : w.subscribed = true)
    (hphase : w.session.phase = .running) {ctrl : StateControl}
    (hctrl : w.published[w.gone]? = some ctrl) :
    Run system (es ++ [.call (.deliver () ctrl)]) { w with
      gone := w.gone + 1
      session := w.session.after .running (w.session.app.onStateControl ctrl) } :=
  h.snoc (show Step w (.call (.deliver () ctrl)) _ from
    ⟨hon, hctrl, _, ⟨hphase, rfl⟩, rfl⟩)

/-- The first message is missed and the second delivered. -/
theorem controlled_missed : ∃ w, w.session.reports = [.OFF, .ON] ∧ Controlled
    [.loop, .subscribe, .call .onInitialize, .loop,
      .call (.deliver () { desiredState := .ON })] w := by
  have hstart : Run system [] {} := Run.start rfl
  have hready := run_initialize (run_subscribe (run_loop hstart) rfl) rfl
  have hon : (StateMachineCtrl.loop (StateMachineCtrl.loop {}).1).2 =
      { desiredState := .ON } := rfl
  have hdone := run_deliver (run_loop hready) rfl rfl (congrArg some hon)
  exact ⟨_, by decide, controlled hdone⟩

end Pair

end StateMachine
