/-
While loops, run to their end.

`Ends guard body s s'` says that the loop `while (guard) body`, entered in `s`, is
left in `s'`.  It is the smallest such relation, so a loop that goes on for ever
ends nowhere: that a loop terminates is the statement that it ends somewhere, and
where it ends is unique.
-/
import Mathlib.Init

namespace While

universe u

variable {σ : Type u}

/-- `while (guard) body`, entered with the first, is left with the second. -/
inductive Ends (guard : σ → Prop) (body : σ → σ) : σ → σ → Prop
  | exit {s : σ} (h : ¬ guard s) : Ends guard body s s
  | turn {s s' : σ} (h : guard s) (hrest : Ends guard body (body s) s') : Ends guard body s s'

namespace Ends

variable {guard : σ → Prop} {body : σ → σ} {s s' s'' : σ}

theorem unique (h : Ends guard body s s') (h' : Ends guard body s s'') : s' = s'' := by
  induction h with
  | exit hno =>
      cases h' with
      | exit _ => rfl
      | turn hyes _ => exact absurd hyes hno
  | turn hyes _ ih =>
      cases h' with
      | exit hno => exact absurd hyes hno
      | turn _ hrest => exact ih hrest

end Ends

end While
