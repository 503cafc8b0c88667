/-
Text in which one character keeps the parts apart.

Parts that do not contain the delimiter can be read back from the text they are
written to, whether the delimiter stands between them or after each.  The first
of these is `List.splitOn_intercalate`; the second, which is how lines are
written, is here, and with it the cut at the first delimiter there is.
-/
import Mathlib.Data.List.Basic

namespace Delimited

universe u

variable {α : Type u} (c : α)

/-- Each line with the delimiter after it. -/
def unlines (ls : List (List α)) : List α := ls.flatMap (· ++ [c])

theorem unlines_append (ls ls' : List (List α)) :
    unlines c (ls ++ ls') = unlines c ls ++ unlines c ls' := List.flatMap_append

theorem unlines_singleton (l : List α) : unlines c [l] = l ++ [c] := by
  simp [unlines]

variable [DecidableEq α]

/-- What stands before the first delimiter, and what stands after it. -/
def cut : List α → List α × List α
  | [] => ([], [])
  | x :: xs => if x = c then ([], xs) else (x :: (cut xs).1, (cut xs).2)

theorem cut_append {s : List α} (h : c ∉ s) (t : List α) : cut c (s ++ c :: t) = (s, t) := by
  induction s with
  | nil => simp [cut]
  | cons x s ih =>
      rw [List.mem_cons, not_or] at h
      rw [List.cons_append, cut, if_neg (Ne.symm h.1), ih h.2]

/-- What stands after the last delimiter is not a line. -/
def lines (s : List α) : List (List α) := (s.splitOn c).dropLast

theorem lines_unlines {ls : List (List α)} (h : ∀ l ∈ ls, c ∉ l) : lines c (unlines c ls) = ls := by
  have hsplit : (unlines c ls).splitOn c = ls ++ [[]] := by
    induction ls with
    | nil => rfl
    | cons l ls ih =>
        have hrest := ih fun m hm => h m (List.mem_cons_of_mem _ hm)
        rw [unlines, List.flatMap_cons, List.append_assoc, List.singleton_append,
          List.splitOn_append_cons_self_of_not_mem (h l List.mem_cons_self)]
        exact congrArg (l :: ·) hrest
  rw [lines, hsplit, List.dropLast_concat]

end Delimited
