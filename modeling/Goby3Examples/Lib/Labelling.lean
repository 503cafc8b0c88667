/-
Items in a row, each with a label.

The items stand in a fixed order and a label says what has become of each.  What
carries one label is read off in that order.  Labels change one at a time, when
something happens to the last item that carries one, or all together; either way
what carries the others stays what it was.
-/
import Mathlib.Data.List.Nodup
import Mathlib.Logic.Function.Basic

namespace Labelling

variable {α ι κ : Type*} [DecidableEq κ]

/-- The items that carry a label; an item's second component is its name. -/
def carrying (items : List (α × ι)) (label : ι → κ) (l : κ) : List (α × ι) :=
  items.filter fun x => label x.2 = l

variable {items : List (α × ι)} {label label' : ι → κ} {l l' : κ}

theorem carrying_append (items more : List (α × ι)) (label : ι → κ) (l : κ) :
    carrying (items ++ more) label l = carrying items label l ++ carrying more label l :=
  List.filter_append _ _

theorem carrying_singleton (x : α × ι) (label : ι → κ) (l : κ) :
    carrying [x] label l = if label x.2 = l then [x] else [] := by
  by_cases h : label x.2 = l
  · rw [if_pos h]
    exact List.filter_cons_of_pos (by simpa using h)
  · rw [if_neg h]
    exact List.filter_cons_of_neg (by simpa using h)

theorem carrying_congr (h : ∀ x ∈ items, label x.2 = l ↔ label' x.2 = l') :
    carrying items label l = carrying items label' l' := by
  refine List.filter_congr ?_
  intro x hx
  simpa using h x hx

section Update

variable [DecidableEq ι]

/-- A new label is not noticed where its item is missing. -/
theorem carrying_update_of_notMem {i : ι} (hi : i ∉ items.map Prod.snd) :
    carrying items (Function.update label i l') l = carrying items label l := by
  refine carrying_congr ?_
  intro x hx
  have hne : x.2 ≠ i := fun heq => hi (heq ▸ List.mem_map_of_mem hx)
  rw [Function.update_of_ne hne]

/-- The last item that carries a label is given another one. -/
theorem carrying_update_last (hnodup : (items.map Prod.snd).Nodup) {xs : List (α × ι)} {a : α}
    {i : ι} (hlast : carrying items label l = xs ++ [(a, i)]) (hne : l' ≠ l) :
    carrying items (Function.update label i l') l = xs := by
  have hboth : carrying items (Function.update label i l') l =
      (carrying items label l).filter fun x => decide (x.2 ≠ i) := by
    rw [carrying, carrying, List.filter_filter]
    refine List.filter_congr ?_
    intro x _
    by_cases hx : x.2 = i
    · simp [hx, hne]
    · simp [hx]
  have hmem : ((xs ++ [(a, i)]).map Prod.snd).Nodup := by
    rw [← hlast]
    exact hnodup.sublist (List.filter_sublist.map Prod.snd)
  have hnew : ∀ x ∈ xs, x.2 ≠ i := by
    intro x hx heq
    rw [List.map_append, List.nodup_append] at hmem
    exact hmem.2.2 x.2 (List.mem_map_of_mem hx) i (by simp) heq
  rw [hboth, hlast, List.filter_append, List.filter_eq_self.mpr (by simpa using hnew)]
  simp

end Update

end Labelling
