/-
Threads that hand items to each other through mailboxes.

A mailbox is everything that was ever put into it.  Its reader subscribes once, and
hears what is put in from then on: what was there before is lost to it.  From its
subscription on it loses nothing, and it takes one item at a time, in order, and puts
what it makes of it into other mailboxes.  This much is assumed of the transport; when
a reader subscribes, when it takes its next item, and which reader is next, is open.  A
reader may also fail on an item, and then it takes no more.

What a mailbox holds does not depend on the order in which the readers run.  If only one
reader writes to it, it holds what this reader made of what it has taken, and if only
the outside does, it holds what came from there.  The first is also true of a part of
what it holds: several readers may write to it, as long as it can be told which of them
an item is from.
-/
import Mathlib.Data.List.Infix
import Mathlib.Data.List.TakeWhile
import Mathlib.Logic.Function.Basic
import Goby3Examples.Lib.Runs

namespace Mailbox

open Runs

universe u v

/-- The mailboxes, and what their readers do with an item. -/
structure Network (κ : Type u) (Item : κ → Type v) where
  /-- What may come from outside the process. -/
  outside : (k : κ) → Item k → Prop
  /-- What the reader of the first puts into the second. -/
  handle : (k : κ) → Item k → (k' : κ) → List (Item k')
  fails : (k : κ) → Item k → Bool
  /-- Whose reader has subscribed before anything is put anywhere. -/
  early : κ → Bool

variable {κ : Type u} {Item : κ → Type v}

/-- The mailboxes, and how far their readers have got. -/
structure State (Item : κ → Type v) where
  posted : (k : κ) → List (Item k)
  /-- How much had been put there when the reader subscribed, if it has. -/
  since : κ → Option ℕ
  /-- How much the reader has had. -/
  taken : κ → ℕ
  /-- Nothing is read before it is there. -/
  within : ∀ k, ((since k).elim 0 fun n => n + taken k) ≤ (posted k).length
  /-- Nothing is read without a subscription. -/
  untaken : ∀ k, since k = none → taken k = 0
  /-- The reader has failed. -/
  stopped : κ → Bool

namespace State

variable (s : State Item) (k : κ)

/-- What was put there since the reader subscribed. -/
def heard : List (Item k) := (s.since k).elim [] fun n => (s.posted k).drop n

/-- What the reader has had. -/
def read : List (Item k) := (s.heard k).take (s.taken k)

/-- The reader has had everything that it will ever have of what is there. -/
def Drained : Prop := s.taken k = (s.heard k).length

theorem heard_suffix : s.heard k <:+ s.posted k := by
  unfold heard
  cases s.since k with
  | none => exact List.nil_suffix
  | some n => exact List.drop_suffix _ _

theorem read_prefix : s.read k <+: s.heard k := List.take_prefix _ _

/-- What a reader has had is a piece without gaps of what was put there. -/
theorem read_infix : s.read k <:+: s.posted k :=
  (s.read_prefix k).isInfix.trans (s.heard_suffix k).isInfix

variable {s k}

theorem Drained.read_eq (h : s.Drained k) : s.read k = s.heard k := by
  rw [read, h, List.take_length]

/-- From its subscription on it has had everything. -/
theorem Drained.read_eq_drop (h : s.Drained k) {n : ℕ} (hn : s.since k = some n) :
    s.read k = (s.posted k).drop n := by
  rw [h.read_eq, heard, hn]
  rfl

theorem taken_le (s : State Item) (k : κ) : s.taken k ≤ (s.heard k).length := by
  have hwithin := s.within k
  unfold heard
  cases hsince : s.since k with
  | none => exact (s.untaken k hsince).le
  | some n =>
      rw [hsince] at hwithin
      show s.taken k ≤ ((s.posted k).drop n).length
      rw [List.length_drop]
      exact Nat.le_sub_of_add_le' hwithin

theorem heard_of_none (h : s.since k = none) : s.heard k = [] := by
  unfold State.heard
  rw [h]
  rfl

/-- More is put into the mailboxes. -/
def post (s : State Item) (more : (k : κ) → List (Item k)) : State Item where
  posted := fun k => s.posted k ++ more k
  since := s.since
  taken := s.taken
  within := by
    intro k
    rw [List.length_append]
    exact Nat.le_add_right_of_le (s.within k)
  untaken := s.untaken
  stopped := s.stopped

theorem heard_post (s : State Item) (more : (k : κ) → List (Item k)) (k : κ) :
    (s.post more).heard k = s.heard k ++ if (s.since k).isSome then more k else [] := by
  have hwithin := s.within k
  show ((s.since k).elim [] fun n => (s.posted k ++ more k).drop n) = _
  unfold State.heard
  cases hsince : s.since k with
  | none => rfl
  | some n =>
      rw [hsince] at hwithin
      exact List.drop_append_of_le_length (Nat.le_of_add_right_le hwithin)

theorem read_post (s : State Item) (more : (k : κ) → List (Item k)) (k : κ) :
    (s.post more).read k = s.read k := by
  unfold State.read
  rw [heard_post]
  exact List.take_append_of_le_length (s.taken_le k)

end State

/-- Nothing has been put anywhere. -/
def Network.empty (net : Network κ Item) : State Item where
  posted := fun _ => []
  since := fun k => if net.early k then some 0 else none
  taken := fun _ => 0
  within := by
    intro k
    cases net.early k <;> exact Nat.le_refl 0
  untaken := fun _ _ => rfl
  stopped := fun _ => false

theorem Network.heard_empty (net : Network κ Item) (k : κ) : net.empty.heard k = [] := by
  show (if net.early k then some 0 else none : Option ℕ).elim [] (fun n => List.drop n []) = []
  cases net.early k <;> rfl

variable [DecidableEq κ]

/-- An item comes from outside, a reader subscribes, or takes its next item. -/
inductive Event (Item : κ → Type v)
  | arrive (k : κ) (a : Item k)
  | subscribe (k : κ)
  | take (k : κ)

namespace State

/-- An item comes from outside. -/
def arrive (s : State Item) (k : κ) (a : Item k) : State Item :=
  s.post (Function.update (fun _ => []) k [a])

/-- The reader subscribes. -/
def subscribe (s : State Item) (k : κ) (h : s.since k = none) : State Item where
  posted := s.posted
  since := Function.update s.since k (some (s.posted k).length)
  taken := s.taken
  within := by
    intro j
    by_cases hj : j = k
    · subst hj
      rw [Function.update_self]
      exact (congrArg _ (s.untaken j h)).le
    · rw [Function.update_of_ne hj]
      exact s.within j
  untaken := by
    intro j hnone
    by_cases hj : j = k
    · subst hj
      exact s.untaken j h
    · rw [Function.update_of_ne hj] at hnone
      exact s.untaken j hnone
  stopped := s.stopped

end State

namespace Network

variable (net : Network κ Item)

/-- The reader takes its next item. -/
def process (s : State Item) (k : κ) (h : s.taken k < (s.heard k).length) : State Item where
  posted := (s.post (net.handle k (s.heard k)[s.taken k])).posted
  since := s.since
  taken := Function.update s.taken k (s.taken k + 1)
  within := by
    intro j
    have hj := (s.post (net.handle k (s.heard k)[s.taken k])).within j
    by_cases hjk : j = k
    · subst hjk
      rw [Function.update_self]
      unfold State.heard at h
      cases hsince : s.since j with
      | none => exact Nat.zero_le _
      | some n =>
          rw [hsince] at h
          have hlt : s.taken j < (s.posted j).length - n := by
            rw [← List.length_drop]
            exact h
          show n + (s.taken j + 1) ≤ (s.posted j ++ _).length
          rw [List.length_append]
          omega
    · rw [Function.update_of_ne hjk]
      exact hj
  untaken := by
    intro j hnone
    by_cases hjk : j = k
    · subst hjk
      unfold State.heard at h
      rw [hnone] at h
      exact absurd h (Nat.not_lt_zero _)
    · rw [Function.update_of_ne hjk]
      exact s.untaken j hnone
  stopped := Function.update s.stopped k (net.fails k (s.heard k)[s.taken k])

/-- What an event does. -/
def Step (s : State Item) (e : Event Item) (s' : State Item) : Prop :=
  match e with
  | .arrive k a => net.outside k a ∧ s' = s.arrive k a
  | .subscribe k => ∃ h : s.since k = none, s' = s.subscribe k h
  | .take k => s.stopped k = false ∧
    ∃ h : s.taken k < (s.heard k).length, s' = net.process s k h

/-- The network from the start. -/
def system : System (State Item) (Event Item) where
  init := fun s => s = net.empty
  step := net.Step

variable {net}

theorem posted_arrive_self (s : State Item) (k : κ) (a : Item k) :
    (s.arrive k a).posted k = s.posted k ++ [a] := by
  show s.posted k ++ Function.update (fun _ => []) k [a] k = _
  rw [Function.update_self]

theorem posted_arrive_ne (s : State Item) {k j : κ} (hj : j ≠ k) (a : Item k) :
    (s.arrive k a).posted j = s.posted j := by
  show s.posted j ++ Function.update (fun _ => []) k [a] j = _
  rw [Function.update_of_ne hj, List.append_nil]

theorem read_arrive (s : State Item) (k : κ) (a : Item k) (j : κ) :
    (s.arrive k a).read j = s.read j := s.read_post _ j

theorem heard_subscribe (s : State Item) {k : κ} (h : s.since k = none) (j : κ) :
    (s.subscribe k h).heard j = s.heard j := by
  unfold State.heard
  by_cases hj : j = k
  · subst hj
    show (Function.update s.since j _ j).elim [] _ = _
    rw [Function.update_self, h]
    exact List.drop_length
  · show (Function.update s.since k _ j).elim [] _ = _
    rw [Function.update_of_ne hj]
    rfl

theorem read_subscribe (s : State Item) {k : κ} (h : s.since k = none) (j : κ) :
    (s.subscribe k h).read j = s.read j := by
  unfold State.read
  rw [heard_subscribe]
  rfl

theorem heard_process (s : State Item) {k : κ} (h : s.taken k < (s.heard k).length) (j : κ) :
    (net.process s k h).heard j =
      s.heard j ++ if (s.since j).isSome then net.handle k (s.heard k)[s.taken k] j else [] :=
  s.heard_post _ j

theorem read_process_self (s : State Item) {k : κ} (h : s.taken k < (s.heard k).length) :
    (net.process s k h).read k = s.read k ++ [(s.heard k)[s.taken k]] := by
  unfold State.read
  rw [heard_process]
  show List.take (Function.update s.taken k (s.taken k + 1) k) _ = _
  rw [Function.update_self, List.take_append_of_le_length h, List.take_succ_eq_append_getElem h]

theorem read_process_ne (s : State Item) {k j : κ} (hj : j ≠ k)
    (h : s.taken k < (s.heard k).length) : (net.process s k h).read j = s.read j := by
  unfold State.read
  rw [heard_process]
  show List.take (Function.update s.taken k (s.taken k + 1) j) _ = _
  rw [Function.update_of_ne hj, List.take_append_of_le_length (s.taken_le j)]

/-! ### What a mailbox holds -/

variable {β : Type*} {k k' : κ} {es : List (Event Item)} {s : State Item}

/-- What `f` picks from `k'` was put there by the reader of `k`. -/
structure Feeds (net : Network κ Item) (k k' : κ) (f : Item k' → Option β) : Prop where
  inside : ∀ a, net.outside k' a → f a = none
  only : ∀ j, j ≠ k → ∀ a, (net.handle j a k').filterMap f = []

/-- **What a reader feeds is what it made of what it took.** -/
theorem posted_of_feeds (h : Run net.system es s) {f : Item k' → Option β}
    (hfeeds : net.Feeds k k' f) :
    (s.posted k').filterMap f = (s.read k).flatMap fun a => (net.handle k a k').filterMap f := by
  refine h.state_invariant (I := fun s => (s.posted k').filterMap f =
    (s.read k).flatMap fun a => (net.handle k a k').filterMap f) ?_ ?_
  · intro s hs
    rw [show s = net.empty from hs, State.read, net.heard_empty, List.take_nil]
    rfl
  · intro s e s' hI hstep
    cases e with
    | arrive j a =>
        obtain ⟨hout, rfl⟩ := hstep
        rw [read_arrive, ← hI]
        by_cases hj : k' = j
        · subst hj
          rw [posted_arrive_self, List.filterMap_append]
          simp [hfeeds.inside a hout]
        · rw [posted_arrive_ne s hj]
    | subscribe j =>
        obtain ⟨hnone, rfl⟩ := hstep
        rw [read_subscribe]
        exact hI
    | take j =>
        obtain ⟨-, hlt, rfl⟩ := hstep
        show (s.posted k' ++ net.handle j _ k').filterMap f = _
        rw [List.filterMap_append]
        by_cases hj : j = k
        · subst hj
          rw [read_process_self, List.flatMap_append, ← hI, List.flatMap_singleton]
        · rw [hfeeds.only j hj, List.append_nil, read_process_ne s (Ne.symm hj), hI]

theorem posted_of_sole (h : Run net.system es s) (hsole : net.Feeds k k' some) :
    s.posted k' = (s.read k).flatMap fun a => net.handle k a k' := by
  have hposted := posted_of_feeds h hsole
  simp only [List.filterMap_some] at hposted
  exact hposted

/-- The reader makes one item of each. -/
theorem posted_of_map (h : Run net.system es s) (hsole : net.Feeds k k' some)
    {f : Item k → Item k'} (hf : ∀ a, net.handle k a k' = [f a]) :
    s.posted k' = (s.read k).map f := by
  rw [posted_of_sole h hsole, List.map_eq_flatMap]
  simp only [hf]

/-- What is true of everything that comes from outside, and of whatever a reader makes of an item it
is true of, is true of everything. -/
theorem posted_invariant {P : (k : κ) → Item k → Prop} (hout : ∀ k a, net.outside k a → P k a)
    (hhandle : ∀ k a, P k a → ∀ k', ∀ b ∈ net.handle k a k', P k' b)
    (h : Run net.system es s) : ∀ k, ∀ a ∈ s.posted k, P k a := by
  refine h.state_invariant (I := fun s => ∀ k, ∀ a ∈ s.posted k, P k a) ?_ ?_
  · intro s hs k a ha
    rw [show s = net.empty from hs] at ha
    cases ha
  · intro s e s' hI hstep k a ha
    cases e with
    | arrive j b =>
        obtain ⟨hb, rfl⟩ := hstep
        by_cases hj : k = j
        · subst hj
          rw [posted_arrive_self] at ha
          rcases List.mem_append.mp ha with hold | hnew
          · exact hI k a hold
          · rw [List.mem_singleton.mp hnew]
            exact hout k b hb
        · rw [posted_arrive_ne s hj] at ha
          exact hI k a ha
    | subscribe j =>
        obtain ⟨hnone, rfl⟩ := hstep
        exact hI k a ha
    | take j =>
        obtain ⟨-, hlt, rfl⟩ := hstep
        rcases List.mem_append.mp ha with hold | hnew
        · exact hI k a hold
        · exact hhandle j _ (hI j _ ((s.heard_suffix j).subset (List.getElem_mem hlt))) k a hnew

/-! ### What a reader hears -/

/-- What came from outside. -/
def arrivals (k : κ) (es : List (Event Item)) : List (Item k) :=
  es.filterMap fun
    | .arrive j a => if h : j = k then some (h ▸ a) else none
    | _ => none

/-- The event is the subscription of this reader. -/
def subscribes (k : κ) : Event Item → Bool
  | .subscribe j => decide (j = k)
  | _ => false

/-- What came from outside since the reader subscribed. -/
def arrivalsSince (net : Network κ Item) (k : κ) (es : List (Event Item)) : List (Item k) :=
  arrivals k (if net.early k then es else es.dropWhile (!subscribes k ·))

theorem arrivals_append (k : κ) (es es' : List (Event Item)) :
    arrivals k (es ++ es') = arrivals k es ++ arrivals k es' := List.filterMap_append

/-- Nothing is heard of what comes before the subscription, and everything after it. -/
theorem arrivalsSince_append (k : κ) (es es' : List (Event Item)) :
    net.arrivalsSince k (es ++ es') =
      if net.early k || es.any (subscribes k) then net.arrivalsSince k es ++ arrivals k es'
      else net.arrivalsSince k es' := by
  unfold arrivalsSince
  cases net.early k with
  | true => exact arrivals_append k es es'
  | false =>
      simp only [Bool.false_eq_true, if_false, Bool.false_or]
      rw [List.dropWhile_append]
      by_cases hany : es.any (subscribes k) = true
      · have hne : (es.dropWhile (!subscribes k ·)).isEmpty = false := by
          rw [← Bool.not_eq_true, List.isEmpty_iff, List.dropWhile_eq_nil_iff]
          intro hall
          obtain ⟨e, he, hsub⟩ := List.any_eq_true.mp hany
          simpa [hsub] using hall e he
        rw [hne, if_pos hany]
        exact arrivals_append k _ es'
      · have hnil : (es.dropWhile (!subscribes k ·)).isEmpty = true := by
          rw [List.isEmpty_iff, List.dropWhile_eq_nil_iff]
          intro e he
          by_contra hsub
          refine hany (List.any_eq_true.mpr ⟨e, he, ?_⟩)
          simpa using hsub
        rw [hnil, if_neg hany]
        rfl

/-- Of a single event nothing is heard. -/
theorem arrivalsSince_singleton (hlate : net.early k = false) (e : Event Item) :
    net.arrivalsSince k [e] = [] := by
  unfold arrivalsSince
  rw [hlate]
  cases e with
  | arrive j a => rfl
  | subscribe j =>
      show arrivals k (List.dropWhile (!subscribes k ·) [Event.subscribe j]) = []
      unfold List.dropWhile
      split <;> rfl
  | take j => rfl

theorem since_isSome (h : Run net.system es s) (k : κ) :
    (s.since k).isSome = (net.early k || es.any (subscribes k)) := by
  refine h.invariant
    (I := fun es s => (s.since k).isSome = (net.early k || es.any (subscribes k))) ?_ ?_
  · intro s hs
    rw [show s = net.empty from hs]
    show (if net.early k then some 0 else none : Option ℕ).isSome = _
    cases net.early k <;> rfl
  · intro es s e s' _ hI hstep
    rw [List.any_append, ← Bool.or_assoc, ← hI]
    cases e with
    | arrive j a =>
        obtain ⟨-, rfl⟩ := hstep
        exact (Bool.or_false _).symm
    | subscribe j =>
        obtain ⟨hnone, rfl⟩ := hstep
        show (Function.update s.since j _ k).isSome = _
        by_cases hj : k = j
        · subst hj
          simp [subscribes]
        · rw [Function.update_of_ne hj]
          simp [subscribes, Ne.symm hj]
    | take j =>
        obtain ⟨-, hlt, rfl⟩ := hstep
        exact (Bool.or_false _).symm

/-- **A reader hears what comes since it has subscribed**, in a mailbox that only the outside puts
something into. -/
theorem heard_of_outside (h : Run net.system es s) (honly : ∀ j, ∀ a, net.handle j a k = []) :
    s.heard k = net.arrivalsSince k es := by
  refine h.invariant (I := fun es s => s.heard k = net.arrivalsSince k es) ?_ ?_
  · intro s hs
    rw [show s = net.empty from hs, net.heard_empty]
    unfold arrivalsSince
    cases net.early k <;> rfl
  · intro es s e s' hrun hI hstep
    rw [arrivalsSince_append, ← since_isSome hrun, ← hI]
    cases hsince : s.since k with
    | none =>
        have hlate : net.early k = false := by
          have hsome := since_isSome hrun k
          rw [hsince] at hsome
          exact (Bool.or_eq_false_iff.mp hsome.symm).1
        show s'.heard k = net.arrivalsSince k [e]
        rw [arrivalsSince_singleton hlate]
        cases e with
        | arrive j a =>
            obtain ⟨-, rfl⟩ := hstep
            exact State.heard_of_none hsince
        | subscribe j =>
            obtain ⟨hnone, rfl⟩ := hstep
            rw [heard_subscribe]
            exact State.heard_of_none hsince
        | take j =>
            obtain ⟨-, hlt, rfl⟩ := hstep
            exact State.heard_of_none hsince
    | some n =>
        show s'.heard k = s.heard k ++ arrivals k [e]
        cases e with
        | arrive j a =>
            obtain ⟨-, rfl⟩ := hstep
            rw [State.arrive, State.heard_post, hsince]
            show s.heard k ++ Function.update (fun _ => []) j [a] k = _
            by_cases hj : j = k
            · subst hj
              simp [arrivals]
            · rw [Function.update_of_ne (Ne.symm hj)]
              simp [arrivals, hj]
        | subscribe j =>
            obtain ⟨hnone, rfl⟩ := hstep
            rw [heard_subscribe]
            exact (List.append_nil _).symm
        | take j =>
            obtain ⟨-, hlt, rfl⟩ := hstep
            rw [heard_process, honly j, ite_self]
            rfl

/-- Whoever has subscribed before anything was put anywhere hears everything. -/
theorem heard_of_early (h : Run net.system es s) (hearly : net.early k = true) :
    s.heard k = s.posted k := by
  have hsince : s.since k = some 0 := by
    refine h.state_invariant (I := fun s => s.since k = some 0) ?_ ?_
    · intro s hs
      rw [show s = net.empty from hs]
      exact if_pos hearly
    · intro s e s' hI hstep
      cases e with
      | arrive j a =>
          obtain ⟨-, rfl⟩ := hstep
          exact hI
      | subscribe j =>
          obtain ⟨hnone, rfl⟩ := hstep
          have hj : k ≠ j := by
            rintro rfl
            rw [hI] at hnone
            cases hnone
          exact (Function.update_of_ne hj ..).trans hI
      | take j =>
          obtain ⟨-, hlt, rfl⟩ := hstep
          exact hI
  unfold State.heard
  rw [hsince]
  rfl

/-! ### Running it -/

theorem run_arrive (h : Run net.system es s) {a : Item k} (hout : net.outside k a) :
    Run net.system (es ++ [.arrive k a]) (s.arrive k a) :=
  h.snoc (show net.Step s (.arrive k a) (s.arrive k a) from ⟨hout, rfl⟩)

theorem run_subscribe (h : Run net.system es s) (hnone : s.since k = none) :
    Run net.system (es ++ [.subscribe k]) (s.subscribe k hnone) :=
  h.snoc (show net.Step s (.subscribe k) (s.subscribe k hnone) from ⟨hnone, rfl⟩)

theorem run_take (h : Run net.system es s) (hrunning : s.stopped k = false)
    (hlt : s.taken k < (s.heard k).length) :
    Run net.system (es ++ [.take k]) (net.process s k hlt) :=
  h.snoc (show net.Step s (.take k) (net.process s k hlt) from ⟨hrunning, hlt, rfl⟩)

theorem heard_process_of_none {j : κ} (hnone : ∀ a, net.handle k a j = [])
    (hlt : s.taken k < (s.heard k).length) : (net.process s k hlt).heard j = s.heard j := by
  rw [heard_process, hnone, ite_self, List.append_nil]

/-- What a reader does that puts nothing there leaves another mailbox drained. -/
theorem drained_process {j : κ} (hdrained : s.Drained j) (hj : j ≠ k)
    (hnone : ∀ a, net.handle k a j = []) (hlt : s.taken k < (s.heard k).length) :
    (net.process s k hlt).Drained j := by
  have htaken : (net.process s k hlt).taken j = s.taken j := Function.update_of_ne hj ..
  rw [State.Drained, htaken, heard_process_of_none hnone]
  exact hdrained

/-- **A reader that neither fails nor feeds itself can take all there is**, and whatever each of its
steps keeps is kept. -/
theorem drain {P : State Item → Prop} (hself : ∀ a, net.handle k a k = [])
    (hkeep : ∀ s (hlt : s.taken k < (s.heard k).length), s.stopped k = false → P s →
      P (net.process s k hlt))
    (hP : P s) (hrunning : s.stopped k = false) (hgood : ∀ a ∈ s.heard k, net.fails k a = false) :
    ∃ s', P s' ∧ s'.Drained k := by
  obtain ⟨n, hn⟩ := Nat.exists_eq_add_of_le (s.taken_le k)
  induction n generalizing s with
  | zero => exact ⟨s, hP, hn.symm⟩
  | succ n ih =>
      have hlt : s.taken k < (s.heard k).length := by omega
      have hheard := heard_process_of_none hself hlt
      have htaken : (net.process s k hlt).taken k = s.taken k + 1 := Function.update_self ..
      refine ih (hkeep s hlt hrunning hP) ?_ ?_ ?_
      · refine Eq.trans (Function.update_self ..) ?_
        exact hgood _ (List.getElem_mem hlt)
      · rw [hheard]
        exact hgood
      · rw [hheard, htaken]
        omega

/-! ### The end -/

/-- Nothing that was taken before the last item made the reader fail; the last one did if the
reader has stopped. -/
structure StopsOn (net : Network κ Item) (s : State Item) (k : κ) : Prop where
  stopped : s.stopped k = true → ∃ a, (s.read k).getLast? = some a ∧ net.fails k a = true ∧
    ∀ b ∈ (s.read k).dropLast, net.fails k b = false
  running : s.stopped k = false → ∀ a ∈ s.read k, net.fails k a = false

/-- **A reader stops on the first item that makes it fail**, and only then. -/
theorem stopsOn (h : Run net.system es s) (k : κ) : net.StopsOn s k := by
  refine h.state_invariant (I := fun s => net.StopsOn s k) ?_ ?_
  · intro s hs
    rw [show s = net.empty from hs]
    refine ⟨fun hstopped => ?_, fun _ a ha => ?_⟩
    · cases hstopped
    · rw [State.read, net.heard_empty, List.take_nil] at ha
      cases ha
  · intro s e s' hI hstep
    cases e with
    | arrive j a =>
        obtain ⟨-, rfl⟩ := hstep
        refine ⟨?_, ?_⟩
        · rw [read_arrive]
          exact hI.stopped
        · rw [read_arrive]
          exact hI.running
    | subscribe j =>
        obtain ⟨hnone, rfl⟩ := hstep
        refine ⟨?_, ?_⟩
        · rw [read_subscribe]
          exact hI.stopped
        · rw [read_subscribe]
          exact hI.running
    | take j =>
        obtain ⟨hrunning, hlt, rfl⟩ := hstep
        by_cases hj : j = k
        · subst hj
          have hgood := hI.running hrunning
          have hnow : (net.process s j hlt).stopped j = net.fails j (s.heard j)[s.taken j] :=
            Function.update_self ..
          refine ⟨fun hstopped => ?_, fun hstopped b hb => ?_⟩
          · rw [hnow] at hstopped
            rw [read_process_self]
            refine ⟨_, List.getLast?_concat, hstopped, fun b hb => ?_⟩
            rw [List.dropLast_concat] at hb
            exact hgood b hb
          · rw [hnow] at hstopped
            rw [read_process_self] at hb
            rcases List.mem_append.mp hb with hold | hnew
            · exact hgood b hold
            · rw [List.mem_singleton.mp hnew]
              exact hstopped
        · have hsame : (net.process s j hlt).stopped k = s.stopped k :=
            Function.update_of_ne (Ne.symm hj) ..
          refine ⟨?_, ?_⟩
          · rw [hsame, read_process_ne s (Ne.symm hj)]
            exact hI.stopped
          · rw [hsame, read_process_ne s (Ne.symm hj)]
            exact hI.running

end Network

end Mailbox
