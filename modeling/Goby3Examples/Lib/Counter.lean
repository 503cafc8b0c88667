/-
Numbering items with a counter that wraps.

A sender hands each item the next value of a counter, several at a time.  The
counter takes finitely many values, so a number names one item only as long as
no more items have been numbered than the counter has values.

`Counter` is the counter itself, over any type of values.  `Ledger` ties it to
the list of everything numbered so far: it says that the item at a position
carries that position's number, and that the counter stands at the position that
comes next.  That is kept by numbering more items, and within one period it makes
the position of a number unique.
-/
import Mathlib.Data.List.Basic

namespace Numbering

variable {α β : Type*}

/-- A counter: the value at each position, and how to move on from a value. -/
structure Counter (α : Type*) where
  num : Nat → α
  advance : α → Nat → α
  /-- How many positions there are before values come again. -/
  period : Nat
  advance_num : ∀ p k, advance (num p) k = num (p + k)
  num_inj : ∀ p q, p < period → q < period → num p = num q → p = q

namespace Counter

variable (C : Counter α)

/-- The numbers of `k` items when the first one gets `a`. -/
def numbers (a : α) (k : Nat) : List α := (List.range k).map (C.advance a)

/-- Items with their numbers, the first one getting `a`. -/
def label (a : α) (xs : List β) : List (α × β) := (C.numbers a xs.length).zip xs

@[simp] theorem length_numbers (a : α) (k : Nat) : (C.numbers a k).length = k := by
  simp [numbers]

@[simp] theorem length_label (a : α) (xs : List β) : (C.label a xs).length = xs.length := by
  simp [label]

theorem getElem_numbers (a : α) {k j : Nat} (h : j < (C.numbers a k).length) :
    (C.numbers a k)[j] = C.advance a j := by
  simp [numbers]

theorem fst_getElem_label (a : α) (xs : List β) {j : Nat} (h : j < (C.label a xs).length) :
    (C.label a xs)[j].1 = C.advance a j := by
  simp [label, getElem_numbers]

theorem mem_label_of_mem_numbers {a x : α} {xs : List β} (h : x ∈ C.numbers a xs.length) :
    ∃ y ∈ xs, (x, y) ∈ C.label a xs := by
  obtain ⟨j, hj, hx⟩ := List.getElem_of_mem h
  have hj' : j < xs.length := by simpa using hj
  refine ⟨xs[j], List.getElem_mem hj', ?_⟩
  have hzip : (C.label a xs)[j]? = some (x, xs[j]) := by
    rw [label, List.getElem?_zip_eq_some]
    exact ⟨List.getElem?_eq_some_iff.mpr ⟨hj, hx⟩, List.getElem?_eq_getElem hj'⟩
  exact List.mem_of_getElem? hzip

theorem numbers_subset (a : α) {k k' : Nat} (h : k ≤ k') : C.numbers a k ⊆ C.numbers a k' := by
  intro x hx
  obtain ⟨j, hj, rfl⟩ := List.mem_map.mp hx
  exact List.mem_map.mpr ⟨j, List.mem_range.mpr (by have := List.mem_range.mp hj; omega), rfl⟩

end Counter

/-- `l` is everything numbered so far, oldest first, and `a` comes next. -/
structure Ledger (C : Counter α) (a : α) (l : List (α × β)) : Prop where
  next : a = C.num l.length
  labelled : ∀ p (h : p < l.length), l[p].1 = C.num p

namespace Ledger

variable {C : Counter α} {a : α} {l : List (α × β)}

theorem nil (h : a = C.num 0) : Ledger C a ([] : List (α × β)) :=
  ⟨h, fun _ hp => absurd hp (Nat.not_lt_zero _)⟩

theorem append (h : Ledger C a l) (xs : List β) :
    Ledger C (C.advance a xs.length) (l ++ C.label a xs) := by
  refine ⟨?_, ?_⟩
  · rw [h.next, C.advance_num]
    simp
  · intro p hp
    by_cases hlt : p < l.length
    · rw [List.getElem_append_left hlt]
      exact h.labelled p hlt
    · have hle : l.length ≤ p := Nat.le_of_not_lt hlt
      rw [List.getElem_append_right hle, C.fst_getElem_label, h.next, C.advance_num]
      congr 1
      omega

/-- **Within one period a number stands at one position only.** -/
theorem position_unique (h : Ledger C a l) (hl : l.length ≤ C.period) {p q : Nat}
    (hp : p < l.length) (hq : q < l.length) (heq : l[p].1 = l[q].1) : p = q := by
  rw [h.labelled p hp, h.labelled q hq] at heq
  exact C.num_inj p q (by omega) (by omega) heq

end Ledger

end Numbering
