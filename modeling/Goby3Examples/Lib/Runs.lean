/-
Runs of a labelled transition system.

A system is given by the states it may start in and by the steps each event
allows.  A run keeps its events as well as the state they lead to, because most
of what is proved of a run relates the two: how often something was done, and
what is left of it in the state.

The only induction anyone needs is `Run.invariant`.  It hands the step lemma the
run so far, so an invariant may lean on another one already proved.
-/
import Mathlib.Data.List.Basic

namespace Runs

universe u v

/-- Where a system may start, and which steps each event allows it. -/
structure System (σ : Type u) (ε : Type v) where
  init : σ → Prop
  step : σ → ε → σ → Prop

variable {σ : Type u} {ε : Type v} {sys : System σ ε}

/-- The events, oldest first, lead from some initial state to this one. -/
inductive Run (sys : System σ ε) : List ε → σ → Prop
  | start {s : σ} (h : sys.init s) : Run sys [] s
  | snoc {es : List ε} {s s' : σ} {e : ε} (h : Run sys es s) (hstep : sys.step s e s') :
      Run sys (es ++ [e]) s'

/-- What holds at the start and is kept by every step holds after every run. -/
theorem Run.invariant {I : List ε → σ → Prop} (hinit : ∀ s, sys.init s → I [] s)
    (hkeep : ∀ es s e s', Run sys es s → I es s → sys.step s e s' → I (es ++ [e]) s')
    {es : List ε} {s : σ} (h : Run sys es s) : I es s := by
  induction h with
  | start h => exact hinit _ h
  | snoc h hstep ih => exact hkeep _ _ _ _ h ih hstep

theorem Run.state_invariant {I : σ → Prop} (hinit : ∀ s, sys.init s → I s)
    (hkeep : ∀ s e s', I s → sys.step s e s' → I s')
    {es : List ε} {s : σ} (h : Run sys es s) : I s :=
  h.invariant (I := fun _ s => I s) hinit fun _ s e s' _ hI hstep => hkeep s e s' hI hstep

end Runs
