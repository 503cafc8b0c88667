/-
Slots that are taken in turn, over and over.

A cycle is a list of slots; turn `k` is the slot at position `k` modulo its
length, and starts when all turns before it are over.  Whoever owns every `m`-th
slot has turns `m` apart, and where all slots last equally long they start `m`
slot lengths apart, across the end of the cycle as well.

`alternate` is the cycle in which one slot comes before each of the others.
-/
import Mathlib.Data.List.Count
import Mathlib.Data.Nat.ModEq

universe u

/-- A list of slots with something in it. -/
structure Cycle.Slots (σ : Type u) where
  slots : List σ
  pos : 0 < slots.length

namespace Cycle

variable {σ : Type u}

namespace Slots

variable (c : Slots σ)

/-- The slot taken at turn `k`. -/
def turn (k : Nat) : σ := c.slots.get ⟨k % c.slots.length, Nat.mod_lt k c.pos⟩

/-- When turn `k` starts, each slot lasting as long as `seconds` says. -/
def startAt (seconds : σ → Nat) : Nat → Nat
  | 0 => 0
  | k + 1 => startAt seconds k + seconds (c.turn k)

/-- Of the turns in which `p` holds, `k'` is the one after `k`. -/
structure Next (p : σ → Prop) (k k' : Nat) : Prop where
  lt : k < k'
  here : p (c.turn k)
  there : p (c.turn k')
  between : ∀ j, k < j → j < k' → ¬ p (c.turn j)

theorem turn_mem (k : Nat) : c.turn k ∈ c.slots := List.get_mem ..

/-! ### Slots of one length -/

theorem startAt_of_uniform {seconds : σ → Nat} {d : Nat} (h : ∀ s ∈ c.slots, seconds s = d)
    (k : Nat) : c.startAt seconds k = d * k := by
  induction k with
  | zero => rfl
  | succ k ih => rw [startAt, ih, h _ (c.turn_mem k), Nat.mul_succ]

/-! ### Every `m`-th slot -/

/-- What the positions of the list say about the turns. -/
theorem turn_iff {p : σ → Prop} {m r : Nat} (hm : m ∣ c.slots.length)
    (h : ∀ j (hj : j < c.slots.length), p c.slots[j] ↔ j % m = r) (k : Nat) :
    p (c.turn k) ↔ k % m = r := by
  rw [← Nat.mod_mod_of_dvd k hm]
  exact h (k % c.slots.length) (Nat.mod_lt k c.pos)

variable {c}

theorem Next.eq_add {p : σ → Prop} {m r : Nat} (hm : 0 < m) (h : ∀ k, p (c.turn k) ↔ k % m = r)
    {k k' : Nat} (hnext : c.Next p k k') : k' = k + m := by
  have hk := (h k).mp hnext.here
  have hk' := (h k').mp hnext.there
  -- not earlier, because the two positions agree modulo `m`
  have hle : k + m ≤ k' := by
    have hdvd : m ∣ k' - k := (Nat.modEq_iff_dvd' hnext.lt.le).mp (hk.trans hk'.symm)
    have := Nat.le_of_dvd (Nat.sub_pos_of_lt hnext.lt) hdvd
    omega
  -- not later, because `k + m` is such a turn already
  by_contra hne
  refine hnext.between (k + m) (by omega) (by omega) ((h (k + m)).mpr ?_)
  rw [Nat.add_mod_right, hk]

theorem Next.apart {p : σ → Prop} {m r d : Nat} (hm : 0 < m)
    (h : ∀ k, p (c.turn k) ↔ k % m = r) {seconds : σ → Nat}
    (hd : ∀ s ∈ c.slots, seconds s = d) {k k' : Nat} (hnext : c.Next p k k') :
    c.startAt seconds k' = c.startAt seconds k + d * m := by
  rw [c.startAt_of_uniform hd, c.startAt_of_uniform hd, hnext.eq_add hm h, Nat.mul_add]

end Slots

/-! ### One slot before each of the others -/

/-- One slot of the same before each. -/
def alternate (a : σ) (xs : List σ) : List σ := xs.flatMap fun x => [a, x]

theorem alternate_cons (a x : σ) (xs : List σ) :
    alternate a (x :: xs) = a :: x :: alternate a xs := rfl

@[simp] theorem length_alternate (a : σ) (xs : List σ) :
    (alternate a xs).length = 2 * xs.length := by
  induction xs with
  | nil => rfl
  | cons x rest ih =>
      rw [alternate_cons, List.length_cons, List.length_cons, ih, List.length_cons]
      omega

theorem getElem_alternate_even (a : σ) {xs : List σ} {j : Nat}
    (h : 2 * j < (alternate a xs).length) : (alternate a xs)[2 * j] = a := by
  induction xs generalizing j with
  | nil => simp at h
  | cons x rest ih =>
      cases j with
      | zero => rfl
      | succ j =>
          simp only [alternate_cons, Nat.mul_succ, List.getElem_cons_succ]
          exact ih (by simp at h ⊢; omega)

theorem getElem_alternate_odd (a : σ) {xs : List σ} {j : Nat} (hj : j < xs.length)
    (h : 2 * j + 1 < (alternate a xs).length) : (alternate a xs)[2 * j + 1] = xs[j] := by
  induction xs generalizing j with
  | nil => simp at hj
  | cons x rest ih =>
      cases j with
      | zero => rfl
      | succ j =>
          simp only [alternate_cons, Nat.mul_succ, List.getElem_cons_succ]
          exact ih (by simp at hj; omega) (by simp at h ⊢; omega)

theorem mem_alternate {a y : σ} {xs : List σ} (h : y ∈ alternate a xs) : y = a ∨ y ∈ xs := by
  obtain ⟨x, hx, hy⟩ := List.mem_flatMap.mp h
  have hy' : y = a ∨ y = x := by simpa using hy
  rcases hy' with rfl | rfl
  · exact Or.inl rfl
  · exact Or.inr hx

theorem map_alternate {τ : Type*} (f : σ → τ) (a : σ) (xs : List σ) :
    (alternate a xs).map f = alternate (f a) (xs.map f) := by
  induction xs with
  | nil => rfl
  | cons x rest ih => rw [alternate_cons, List.map_cons, List.map_cons, ih]; rfl

theorem count_alternate [DecidableEq σ] (a y : σ) (xs : List σ) :
    (alternate a xs).count y = (if a = y then xs.length else 0) + xs.count y := by
  induction xs with
  | nil => simp [alternate]
  | cons x rest ih =>
      rw [alternate_cons, List.count_cons, List.count_cons, List.count_cons, ih]
      by_cases h : a = y
      · simp [h]
        omega
      · simp [h]

end Cycle
