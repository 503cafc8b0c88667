/-
Flat statecharts, and what one reports.

A chart says where a machine starts, which transitions its states have, and what
is put out when a state is entered or left.  A machine has an active state from
when it is initiated until it is terminated.  An event the active state has no
transition for is discarded, and a transition leaves one state before it enters
the other.

Some charts just obey: every event asks for a state, and takes the machine there
from anywhere else.  If such a chart reports the states it enters, then what it
has reported is what it was asked for, without the repetitions.  `Tracks` is that
invariant.
-/
import Mathlib.Data.List.Destutter

namespace Statechart

variable {σ ε ω ρ : Type*}

/-! ### Repetitions -/

section Repetitions

variable [DecidableEq σ]

/-- One more element is kept unless it repeats the last one. -/
theorem destutter'_concat (a b : σ) (l : List σ) :
    (l ++ [b]).destutter' (· ≠ ·) a =
      if l.getLastD a = b then l.destutter' (· ≠ ·) a else l.destutter' (· ≠ ·) a ++ [b] := by
  induction l generalizing a with
  | nil =>
      by_cases h : a = b
      · simp [h]
      · simp [h]
  | cons c l ih =>
      rw [List.cons_append, List.getLastD_cons]
      by_cases h : a = c
      · rw [List.destutter'_cons_neg _ (not_not.mpr h), List.destutter'_cons_neg _ (not_not.mpr h),
          ih, h]
      · rw [List.destutter'_cons_pos _ h, List.destutter'_cons_pos _ h, ih]
        split
        · rfl
        · rfl

theorem head?_destutter' (a : σ) (l : List σ) : (l.destutter' (· ≠ ·) a).head? = some a := by
  induction l generalizing a with
  | nil => rfl
  | cons c l ih =>
      by_cases h : a = c
      · rw [List.destutter'_cons_neg _ (not_not.mpr h), ih]
      · rw [List.destutter'_cons_pos _ h, List.head?_cons]

/-- The last element may be dropped, but not its value. -/
theorem getLast?_destutter' (a : σ) (l : List σ) :
    (l.destutter' (· ≠ ·) a).getLast? = some (l.getLastD a) := by
  induction l generalizing a with
  | nil => rfl
  | cons c l ih =>
      rw [List.getLastD_cons]
      by_cases h : a = c
      · rw [List.destutter'_cons_neg _ (not_not.mpr h), ih, h]
      · rw [List.destutter'_cons_pos _ h, List.getLast?_cons, ih, Option.getD_some]

end Repetitions

/-! ### Charts and machines -/

/-- A statechart with simple states: where it starts, what an event does in a state, and what
is put out when a state is entered or left. -/
structure Chart (σ ε ω : Type*) where
  initial : σ
  reaction : σ → ε → Option σ
  entry : σ → List ω
  exit : σ → List ω

/-- The active state, if there is one. -/
abbrev Machine (σ : Type*) := Option σ

namespace Chart

variable (C : Chart σ ε ω)

/-- The state is left for good. -/
def terminate : Machine σ → Machine σ × List ω
  | none => (none, [])
  | some s => (none, C.exit s)

/-- A machine that is running is terminated first. -/
def initiate (m : Machine σ) : Machine σ × List ω :=
  (some C.initial, (C.terminate m).2 ++ C.entry C.initial)

/-- An event that the state has no reaction to is discarded. -/
def processEvent : Machine σ → ε → Machine σ × List ω
  | none, _ => (none, [])
  | some s, e =>
    match C.reaction s e with
    | none => (some s, [])
    | some t => (some t, C.exit s ++ C.entry t)

/-! ### Charts that obey -/

/-- The event takes the machine to its target from every other state. -/
def Obeys [DecidableEq σ] (target : ε → σ) : Prop :=
  ∀ s e, C.reaction s e = if target e = s then none else some (target e)

/-- A state is reported once when it is entered, and by nothing else. -/
structure Reports (report : ω → Option ρ) (label : σ → ρ) : Prop where
  entry : ∀ s, (C.entry s).filterMap report = [label s]
  exit : ∀ s, (C.exit s).filterMap report = []

/-- The machine is where it was last asked to be, and has reported the way there. -/
structure Tracks [DecidableEq σ] (report : ω → Option ρ) (label : σ → ρ) (asked : List σ)
    (m : Machine σ) (out : List ω) : Prop where
  active : m = some (asked.getLastD C.initial)
  reported : out.filterMap report = ((C.initial :: asked).destutter (· ≠ ·)).map label

section Tracking

variable {C} {report : ω → Option ρ} {label : σ → ρ} (hreports : C.Reports report label)
include hreports

theorem reported_terminate (m : Machine σ) : (C.terminate m).2.filterMap report = [] := by
  cases m with
  | none => rfl
  | some s => exact hreports.exit s

variable [DecidableEq σ] {asked : List σ} {m : Machine σ} {out : List ω}

theorem Tracks.initiate (hout : out.filterMap report = []) :
    C.Tracks report label [] (C.initiate m).1 (out ++ (C.initiate m).2) := by
  refine ⟨rfl, ?_⟩
  rw [Chart.initiate, List.filterMap_append, List.filterMap_append, hout,
    reported_terminate hreports, hreports.entry]
  rfl

omit hreports in
theorem Tracks.silent (h : C.Tracks report label asked m out) {more : List ω}
    (hmore : more.filterMap report = []) : C.Tracks report label asked m (out ++ more) := by
  refine ⟨h.active, ?_⟩
  rw [List.filterMap_append, hmore, List.append_nil, h.reported]

omit hreports in
/-- Asked for the state it is in, the machine does nothing. -/
theorem Tracks.redundant {target : ε → σ} (hobeys : C.Obeys target)
    (h : C.Tracks report label asked m out) {e : ε} (he : target e = asked.getLastD C.initial) :
    C.processEvent m e = (m, []) := by
  rw [h.active, processEvent, hobeys, if_pos he]

theorem Tracks.processEvent {target : ε → σ} (hobeys : C.Obeys target)
    (h : C.Tracks report label asked m out) (e : ε) :
    C.Tracks report label (asked ++ [target e]) (C.processEvent m e).1
      (out ++ (C.processEvent m e).2) := by
  by_cases he : target e = asked.getLastD C.initial
  · rw [h.redundant hobeys he, List.append_nil]
    refine ⟨?_, ?_⟩
    · rw [h.active, List.getLastD_concat, he]
    · rw [h.reported, List.destutter_cons', List.destutter_cons', destutter'_concat,
        if_pos he.symm]
  · rw [h.active, Chart.processEvent, hobeys, if_neg he]
    refine ⟨?_, ?_⟩
    · rw [List.getLastD_concat]
    · rw [List.filterMap_append, List.filterMap_append, hreports.exit, hreports.entry,
        List.nil_append, h.reported, List.destutter_cons', List.destutter_cons',
        destutter'_concat, if_neg (Ne.symm he), List.map_append, List.map_singleton]

end Tracking

end Chart

end Statechart
