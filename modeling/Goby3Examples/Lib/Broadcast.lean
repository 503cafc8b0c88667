/-
Members of a group that hear each other on a shared medium.

Whatever a member says is put in front of every member, itself included, and
each copy is heard or lost once.  Hearing one may make a member say something in
turn, so it is not clear that the talk ever ends.

It ends when each message can be given a cost that pays for all the answers to
it.  The argument is a potential: every copy in flight carries what its hearer's
answer may cost, and no event but a new start raises the sum of these and of
what has been said.  What counts as said is left open, so that one theorem bounds
the messages there are altogether and those of one kind.

Where nothing is lost, a talk of bounded length can be heard out, and then every
message has reached every member once and been answered once by each that answers
it.  That is a balance of multisets: what was heard, what was lost and what is in
flight are together the copies of what was said.
-/
import Mathlib.Algebra.BigOperators.Ring.Finset
import Goby3Examples.Lib.Runs

namespace Broadcast

open Runs

universe u v w x

/-- A group: how a member starts to talk, and what it does and says when it hears something. -/
structure Members (ι : Type u) (μ : Type v) (σ : Type w) (ε : Type x) where
  init : σ → Prop
  start : σ → ε → σ → List μ → Prop
  hear : σ → ι → μ → σ × List μ

/-- The members' state, what has been said, and what is still under way. -/
structure Medium (ι : Type u) (μ : Type v) (σ : Type w) where
  state : σ
  /-- Everything said so far. -/
  said : List μ := []
  /-- The copies that are neither heard nor lost yet, each with its hearer. -/
  inFlight : Multiset (ι × μ) := 0

/-- A member starts something, or a copy is heard or lost. -/
inductive Event (ι : Type u) (μ : Type v) (ε : Type x)
  | start (e : ε)
  | hear (i : ι) (m : μ)
  | lose (i : ι) (m : μ)

namespace Event

variable {ι : Type u} {μ : Type v} {ε : Type x}

/-- The event takes a copy off the medium. -/
def takes : Event ι μ ε → Bool
  | .start _ => false
  | .hear _ _ => true
  | .lose _ _ => true

/-- What was started, if anything was. -/
def started : Event ι μ ε → Option ε
  | .start e => some e
  | .hear _ _ => none
  | .lose _ _ => none

end Event

variable {ι : Type u} {μ : Type v} {σ : Type w} {ε : Type x} [Fintype ι]

/-- A copy of each message for every member. -/
def copies (ms : List μ) : Multiset (ι × μ) :=
  (ms : Multiset μ).bind fun m => Finset.univ.val.map fun i => (i, m)

theorem copies_cons (m : μ) (ms : List μ) :
    (copies (m :: ms) : Multiset (ι × μ)) =
      Finset.univ.val.map (fun i => (i, m)) + copies ms := by
  rw [copies, ← Multiset.cons_coe, Multiset.cons_bind]
  rfl

theorem card_copies (ms : List μ) :
    (copies ms : Multiset (ι × μ)).card = Fintype.card ι * ms.length := by
  induction ms with
  | nil => rfl
  | cons m ms ih =>
      rw [copies_cons, Multiset.card_add, Multiset.card_map, ih, List.length_cons, Nat.mul_succ,
        Nat.add_comm]
      rfl

theorem copies_append (ms ms' : List μ) :
    (copies (ms ++ ms') : Multiset (ι × μ)) = copies ms + copies ms' := by
  rw [copies, ← Multiset.coe_add, Multiset.add_bind]
  rfl

theorem mem_copies {ms : List μ} {i : ι} {m : μ} : (i, m) ∈ copies ms ↔ m ∈ ms := by
  simp [copies]

/-- The copies of a message weigh what its hearers' shares come to. -/
theorem sum_copies (f : ι × μ → ℕ) (ms : List μ) :
    ((copies ms).map f).sum = (ms.map fun m => ∑ i, f (i, m)).sum := by
  induction ms with
  | nil => rfl
  | cons m ms ih =>
      rw [copies_cons, Multiset.map_add, Multiset.sum_add, ih, Multiset.map_map, List.map_cons,
        List.sum_cons]
      rfl

omit [Fintype ι] in
theorem sum_indicator (p : μ → Bool) (ms : List μ) :
    (ms.map fun m => if p m then 1 else 0).sum = ms.countP p := by
  induction ms with
  | nil => rfl
  | cons m ms ih => rw [List.map_cons, List.sum_cons, ih, List.countP_cons, Nat.add_comm]

namespace Medium

variable [DecidableEq ι] [DecidableEq μ]

/-- Something is said. -/
def say (s : Medium ι μ σ) (state : σ) (ms : List μ) : Medium ι μ σ where
  state := state
  said := s.said ++ ms
  inFlight := s.inFlight + copies ms

/-- A copy is not under way any more. -/
def take (s : Medium ι μ σ) (i : ι) (m : μ) : Medium ι μ σ :=
  { s with inFlight := s.inFlight.erase (i, m) }

/-- What an event does. -/
def Step (g : Members ι μ σ ε) (s : Medium ι μ σ) (e : Event ι μ ε) (s' : Medium ι μ σ) : Prop :=
  match e with
  | .start e => ∃ state ms, g.start s.state e state ms ∧ s' = s.say state ms
  | .hear i m =>
    (i, m) ∈ s.inFlight ∧ s' = (s.take i m).say (g.hear s.state i m).1 (g.hear s.state i m).2
  | .lose i m => (i, m) ∈ s.inFlight ∧ s' = s.take i m

end Medium

open Medium

variable [DecidableEq ι] [DecidableEq μ]

/-- The group on its medium, from the moment nothing has been said. -/
def medium (g : Members ι μ σ ε) : System (Medium ι μ σ) (Event ι μ ε) where
  init := fun s => g.init s.state ∧ s.said = [] ∧ s.inFlight = 0
  step := Step g

variable {g : Members ι μ σ ε}

theorem run_hear {es : List (Event ι μ ε)} {s : Medium ι μ σ} (h : Run (medium g) es s) {i : ι}
    {m : μ} (hmem : (i, m) ∈ s.inFlight) :
    Run (medium g) (es ++ [.hear i m])
      ((s.take i m).say (g.hear s.state i m).1 (g.hear s.state i m).2) := by
  refine h.snoc ?_
  show Step g s (.hear i m) _
  exact ⟨hmem, rfl⟩

/-- What the members keep, whoever starts and whoever hears what. -/
structure Keeps (g : Members ι μ σ ε) (P : σ → Prop) : Prop where
  init : ∀ s, g.init s → P s
  start : ∀ s e s' ms, P s → g.start s e s' ms → P s'
  hear : ∀ s i m, P s → P (g.hear s i m).1

theorem Keeps.of_run {P : σ → Prop} (hkeeps : Keeps g P) {es : List (Event ι μ ε)}
    {s : Medium ι μ σ} (h : Run (medium g) es s) : P s.state := by
  refine h.state_invariant (I := fun s => P s.state) ?_ ?_
  · intro s hs
    exact hkeeps.init _ hs.1
  · intro s e s' hP hstep
    cases e with
    | start e =>
        obtain ⟨state, ms, hstart, rfl⟩ := hstep
        exact hkeeps.start _ _ _ _ hP hstart
    | hear i m =>
        obtain ⟨-, rfl⟩ := hstep
        exact hkeeps.hear _ i m hP
    | lose i m =>
        obtain ⟨-, rfl⟩ := hstep
        exact hP

/-! ### Where the copies are -/

/-- What was heard, and by whom. -/
def hears (es : List (Event ι μ ε)) : List (ι × μ) :=
  es.filterMap fun
    | .hear i m => some (i, m)
    | _ => none

/-- The copies that were lost. -/
def losses (es : List (Event ι μ ε)) : List (ι × μ) :=
  es.filterMap fun
    | .lose i m => some (i, m)
    | _ => none

omit [Fintype ι] [DecidableEq ι] [DecidableEq μ] in
theorem hears_append (es es' : List (Event ι μ ε)) : hears (es ++ es') = hears es ++ hears es' :=
  List.filterMap_append

omit [Fintype ι] [DecidableEq ι] [DecidableEq μ] in
theorem losses_append (es es' : List (Event ι μ ε)) :
    losses (es ++ es') = losses es ++ losses es' := List.filterMap_append

omit [Fintype ι] [DecidableEq ι] [DecidableEq μ] in
theorem countP_takes (es : List (Event ι μ ε)) :
    es.countP Event.takes = (hears es).length + (losses es).length := by
  unfold hears losses
  induction es with
  | nil => rfl
  | cons e es ih =>
      cases e with
      | start e => simpa [Event.takes] using ih
      | hear i m | lose i m =>
          rw [List.countP_cons, ih]
          simp only [Event.takes, if_true, List.filterMap_cons, List.length_cons]
          omega

/-- **No copy is ever lost sight of**: each has been heard or lost or is still in flight. -/
theorem copies_eq {es : List (Event ι μ ε)} {s : Medium ι μ σ} (h : Run (medium g) es s) :
    (hears es : Multiset (ι × μ)) + (losses es : Multiset (ι × μ)) + s.inFlight =
      copies s.said := by
  refine h.invariant (I := fun es s => (hears es : Multiset (ι × μ)) +
    (losses es : Multiset (ι × μ)) + s.inFlight = copies s.said) ?_ ?_
  · intro s hs
    obtain ⟨-, hsaid, hflight⟩ := hs
    rw [hsaid, hflight]
    rfl
  · intro es s e s' _ hI hstep
    rw [hears_append, losses_append, ← Multiset.coe_add, ← Multiset.coe_add]
    have hsplit : ∀ {i : ι} {m : μ}, (i, m) ∈ s.inFlight →
        {(i, m)} + s.inFlight.erase (i, m) = s.inFlight := fun hmem => by
      rw [Multiset.singleton_add, Multiset.cons_erase hmem]
    cases e with
    | start e =>
        obtain ⟨state, ms, -, rfl⟩ := hstep
        show (hears es : Multiset (ι × μ)) + 0 + ((losses es : Multiset (ι × μ)) + 0) +
          (s.inFlight + copies ms) = copies (s.said ++ ms)
        rw [copies_append, ← hI, add_zero, add_zero, ← add_assoc]
    | hear i m =>
        obtain ⟨hmem, rfl⟩ := hstep
        show (hears es : Multiset (ι × μ)) + {(i, m)} + ((losses es : Multiset (ι × μ)) + 0) +
          (s.inFlight.erase (i, m) + copies _) = copies (s.said ++ _)
        rw [copies_append, ← hI, add_zero, ← add_assoc, add_right_comm _ {(i, m)},
          add_assoc _ {(i, m)}, hsplit hmem]
    | lose i m =>
        obtain ⟨hmem, rfl⟩ := hstep
        show (hears es : Multiset (ι × μ)) + 0 + ((losses es : Multiset (ι × μ)) + {(i, m)}) +
          s.inFlight.erase (i, m) = copies s.said
        rw [← hI, add_zero, ← add_assoc, add_assoc _ {(i, m)}, hsplit hmem]

/-- Each has been taken or is still in flight. -/
theorem taken_add_inFlight {es : List (Event ι μ ε)} {s : Medium ι μ σ}
    (h : Run (medium g) es s) :
    es.countP Event.takes + s.inFlight.card = Fintype.card ι * s.said.length := by
  have hcard := congrArg Multiset.card (copies_eq h)
  rw [card_copies, Multiset.card_add, Multiset.card_add, Multiset.coe_card,
    Multiset.coe_card] at hcard
  rw [countP_takes, hcard]

/-- A copy is a copy of something said. -/
theorem said_of_inFlight {es : List (Event ι μ ε)} {s : Medium ι μ σ} (h : Run (medium g) es s) :
    ∀ c ∈ s.inFlight, c.2 ∈ s.said := by
  refine h.state_invariant (I := fun s => ∀ c ∈ s.inFlight, c.2 ∈ s.said) ?_ ?_
  · rintro s ⟨-, -, hflight⟩ c hc
    rw [hflight] at hc
    exact absurd hc (Multiset.notMem_zero c)
  · intro s e s' hI hstep
    have hsay : ∀ (t : Medium ι μ σ) state ms, (∀ c ∈ t.inFlight, c.2 ∈ s.said) → t.said = s.said →
        ∀ c ∈ (t.say state ms).inFlight, c.2 ∈ (t.say state ms).said := by
      intro t state ms ht hsaid c hc
      rcases Multiset.mem_add.mp hc with hold | hnew
      · exact List.mem_append_left _ (hsaid ▸ ht c hold)
      · exact List.mem_append_right _ (mem_copies.mp hnew)
    cases e with
    | start e =>
        obtain ⟨state, ms, -, rfl⟩ := hstep
        exact hsay s state ms hI rfl
    | hear i m =>
        obtain ⟨-, rfl⟩ := hstep
        exact hsay (s.take i m) _ _ (fun c hc => hI c (Multiset.mem_of_mem_erase hc)) rfl
    | lose i m =>
        obtain ⟨-, rfl⟩ := hstep
        exact fun c hc => hI c (Multiset.mem_of_mem_erase hc)

/-! ### Nothing is lost -/

/-- Whatever was said has been heard by everyone. -/
structure Settled (es : List (Event ι μ ε)) (s : Medium ι μ σ) : Prop where
  lossless : losses es = []
  quiet : s.inFlight = 0

theorem Settled.hears_eq {es : List (Event ι μ ε)} {s : Medium ι μ σ} (hsettled : Settled es s)
    (h : Run (medium g) es s) : (hears es : Multiset (ι × μ)) = copies s.said := by
  have hcopies := copies_eq h
  rw [hsettled.lossless, hsettled.quiet, Multiset.coe_nil, add_zero, add_zero] at hcopies
  exact hcopies

/-- What this member has heard, in order. -/
def heardBy (i : ι) (es : List (Event ι μ ε)) : List μ :=
  (hears es).filterMap fun c => if i = c.1 then some c.2 else none

section HeardBy

omit [Fintype ι] [DecidableEq μ]

theorem heardBy_append (i : ι) (es es' : List (Event ι μ ε)) :
    heardBy i (es ++ es') = heardBy i es ++ heardBy i es' := by
  rw [heardBy, hears_append]
  exact List.filterMap_append

theorem heardBy_start (i : ι) (e : ε) : heardBy i [(.start e : Event ι μ ε)] = [] := rfl

theorem heardBy_lose (i j : ι) (m : μ) : heardBy i [(.lose j m : Event ι μ ε)] = [] := rfl

theorem heardBy_hear (i j : ι) (m : μ) :
    heardBy i [(.hear j m : Event ι μ ε)] = if i = j then [m] else [] := by
  show [(j, m)].filterMap (fun c => if i = c.1 then some c.2 else none) = _
  by_cases h : i = j <;> simp [h]

end HeardBy

omit [Fintype ι] [DecidableEq ι] [DecidableEq μ] in
theorem filterMap_ite (p : ι → Prop) [DecidablePred p] (m : μ) (is : Multiset ι) :
    is.filterMap (fun j => if p j then some m else none) =
      Multiset.replicate (is.countP p) m := by
  induction is using Multiset.induction_on with
  | empty => rfl
  | cons j is ih =>
      by_cases hj : p j
      · rw [Multiset.countP_cons_of_pos _ hj, Multiset.replicate_succ, ← ih]
        exact Multiset.filterMap_cons_some (fun j => if p j then some m else none) j is (if_pos hj)
      · rw [Multiset.countP_cons_of_neg _ hj, ← ih]
        exact Multiset.filterMap_cons_none (f := fun j => if p j then some m else none) j is
          (if_neg hj)

omit [DecidableEq μ] in
/-- There is one copy of each message for a member. -/
theorem filterMap_copies (i : ι) (ms : List μ) :
    (copies ms : Multiset (ι × μ)).filterMap (fun c => if i = c.1 then some c.2 else none) =
      (ms : Multiset μ) := by
  induction ms with
  | nil => rfl
  | cons m ms ih =>
      have hone : Finset.univ.val.filterMap (fun j : ι => if i = j then some m else none) =
          {m} := by
        rw [filterMap_ite, ← Multiset.count,
          Multiset.count_eq_one_of_mem Finset.univ.nodup (Finset.mem_univ i)]
        rfl
      rw [copies_cons, Multiset.filterMap_add, ih, Multiset.filterMap_map]
      exact congrArg (· + (ms : Multiset μ)) hone

theorem Settled.heardBy_perm {es : List (Event ι μ ε)} {s : Medium ι μ σ}
    (hsettled : Settled es s) (h : Run (medium g) es s) (i : ι) :
    (heardBy i es).Perm s.said := by
  have hheard := congrArg
    (Multiset.filterMap fun c : ι × μ => if i = c.1 then some c.2 else none) (hsettled.hears_eq h)
  rw [filterMap_copies, Multiset.filterMap_coe] at hheard
  exact Multiset.coe_eq_coe.mp hheard

/-- **A talk of bounded length can be heard out**, whatever of it has been heard so far and without
anybody starting anew. -/
theorem exists_settled {k : ℕ}
    (hbound : ∀ es (s : Medium ι μ σ), Run (medium g) es s →
      es.countP Event.takes ≤ k * (es.filterMap Event.started).length)
    {es : List (Event ι μ ε)} {s : Medium ι μ σ} (h : Run (medium g) es s)
    (hlossless : losses es = []) :
    ∃ es' s', Run (medium g) (es ++ es') s' ∧ es'.filterMap Event.started = [] ∧
      s.said ⊆ s'.said ∧ Settled (es ++ es') s' := by
  obtain ⟨n, hn⟩ : ∃ n, k * (es.filterMap Event.started).length ≤ es.countP Event.takes + n :=
    ⟨_, Nat.le_add_left _ _⟩
  -- on how many copies may be taken yet
  induction n using Nat.strong_induction_on generalizing es s with
  | _ n ih =>
      by_cases hquiet : s.inFlight = 0
      · refine ⟨[], s, ?_, rfl, List.Subset.refl _, ?_, hquiet⟩
        · rw [List.append_nil]
          exact h
        · rw [List.append_nil]
          exact hlossless
      · obtain ⟨c, hc⟩ := Multiset.exists_mem_of_ne_zero hquiet
        have hhear := run_hear h hc
        have htaken : (es ++ [Event.hear c.1 c.2]).countP Event.takes = es.countP Event.takes + 1 :=
          List.countP_append
        have hstarted : (es ++ [Event.hear c.1 c.2]).filterMap Event.started =
            es.filterMap Event.started := by
          rw [List.filterMap_append]
          exact List.append_nil _
        have hmore := hbound _ _ hhear
        rw [htaken, hstarted] at hmore
        obtain ⟨es', s', hrun, hstarts, hsaid, hsettled⟩ := ih (n - 1) (by omega) hhear
          (by rw [losses_append, hlossless]; rfl) (by rw [htaken, hstarted]; omega)
        rw [List.append_assoc] at hrun hsettled
        exact ⟨_, s', hrun, hstarts,
          List.Subset.trans (List.subset_append_left _ _) hsaid, hsettled⟩

/-- Messages of this kind are only ever said in answer, and a member's answer depends on what it
has heard alone. -/
structure Answers (g : Members ι μ σ ε) (P : σ → Prop) (kind : μ → Bool)
    (answer : ι → μ → List μ) : Prop where
  keeps : Keeps g P
  hear : ∀ s i m, P s → (g.hear s i m).2.filter kind = answer i m
  start : ∀ s e s' ms, P s → g.start s e s' ms → ms.filter kind = []

namespace Answers

variable {P : σ → Prop} {kind : μ → Bool} {answer : ι → μ → List μ}

theorem filter_said (hanswers : Answers g P kind answer) {es : List (Event ι μ ε)}
    {s : Medium ι μ σ} (h : Run (medium g) es s) :
    s.said.filter kind = (hears es).flatMap fun c => answer c.1 c.2 := by
  refine h.invariant (I := fun es s =>
    s.said.filter kind = (hears es).flatMap fun c => answer c.1 c.2) ?_ ?_
  · intro s hs
    obtain ⟨-, hsaid, -⟩ := hs
    rw [hsaid]
    rfl
  · intro es s e s' hrun hI hstep
    have hP := hanswers.keeps.of_run hrun
    rw [hears_append, List.flatMap_append, ← hI]
    cases e with
    | start e =>
        obtain ⟨state, ms, hstart, rfl⟩ := hstep
        show (s.said ++ ms).filter kind = s.said.filter kind ++ []
        rw [List.filter_append, hanswers.start _ _ _ _ hP hstart]
    | hear i m =>
        obtain ⟨-, rfl⟩ := hstep
        show (s.said ++ _).filter kind = s.said.filter kind ++ (answer i m ++ [])
        rw [List.filter_append, hanswers.hear _ i m hP, List.append_nil]
    | lose i m =>
        obtain ⟨-, rfl⟩ := hstep
        exact (List.append_nil _).symm

/-- **In the end every message has been answered once** by each member that answers it. -/
theorem settled (hanswers : Answers g P kind answer) {es : List (Event ι μ ε)}
    {s : Medium ι μ σ} (h : Run (medium g) es s) (hsettled : Settled es s) :
    (s.said.filter kind : Multiset μ) =
      (s.said : Multiset μ).bind fun m =>
        Finset.univ.val.bind fun i => (answer i m : Multiset μ) := by
  rw [hanswers.filter_said h, ← Multiset.coe_bind, hsettled.hears_eq h, copies,
    Multiset.bind_assoc]
  simp only [Multiset.bind_map]

omit [DecidableEq ι] [DecidableEq μ] in
theorem bind_sole {p : ι → Prop} [DecidablePred p] (hsole : ∀ i j, p i → p j → i = j) (m : μ) :
    Finset.univ.val.bind (fun i => ((if p i then [m] else [] : List μ) : Multiset μ)) =
      if ∃ i, p i then {m} else 0 := by
  show ∑ i, ((if p i then [m] else [] : List μ) : Multiset μ) = _
  by_cases hex : ∃ i, p i
  · obtain ⟨i, hi⟩ := hex
    rw [if_pos ⟨i, hi⟩, Finset.sum_eq_single i, if_pos hi]
    · rfl
    · intro j _ hj
      rw [if_neg fun hpj => hj (hsole j i hpj hi)]
      rfl
    · exact fun hi => absurd (Finset.mem_univ i) hi
  · rw [if_neg hex]
    refine Finset.sum_eq_zero fun i _ => ?_
    rw [if_neg fun hi => hex ⟨i, hi⟩]
    rfl

/-- **An answer for each message that wants one**, when nobody else answers what one does. -/
theorem settled_sole (hanswers : Answers g P kind answer) {es : List (Event ι μ ε)}
    {s : Medium ι μ σ} (h : Run (medium g) es s) (hsettled : Settled es s) {wants : ι → μ → Prop}
    [∀ i m, Decidable (wants i m)] {reply : μ → μ}
    (hsole : ∀ m i j, wants i m → wants j m → i = j)
    (hanswer : ∀ i m, answer i m = if wants i m then [reply m] else []) :
    (s.said.filter kind).Perm ((s.said.filter fun m => ∃ i, wants i m).map reply) := by
  refine Multiset.coe_eq_coe.mp ?_
  rw [hanswers.settled h hsettled, ← Multiset.map_coe, ← Multiset.filter_coe,
    Multiset.filter_eq_bind, Multiset.map_bind]
  refine Multiset.bind_congr fun m _ => ?_
  simp only [hanswer]
  rw [bind_sole (hsole m)]
  split <;> rfl

end Answers

/-- What every message may cost, and why that is enough. -/
structure Budget (g : Members ι μ σ ε) (P : σ → Prop) (weight cost : μ → ℕ) (share : ι × μ → ℕ)
    (grant : ε → ℕ) : Prop where
  keeps : Keeps g P
  /-- A message pays for itself and for every hearer's share. -/
  pays : ∀ m, weight m + ∑ i, share (i, m) ≤ cost m
  /-- A share pays for what its hearer says. -/
  answers : ∀ s i m, P s → (((g.hear s i m).2.map cost).sum ≤ share (i, m))
  starts : ∀ s e s' ms, P s → g.start s e s' ms → (ms.map cost).sum ≤ grant e

namespace Budget

variable {P : σ → Prop} {weight cost : μ → ℕ} {share : ι × μ → ℕ} {grant : ε → ℕ}

omit [DecidableEq ι] [DecidableEq μ] in
theorem sum_pays (h : Budget g P weight cost share grant) (ms : List μ) :
    (ms.map weight).sum + ((copies ms).map share).sum ≤ (ms.map cost).sum := by
  rw [sum_copies]
  induction ms with
  | nil => simp
  | cons m ms ih =>
      have hm := h.pays m
      simp only [List.map_cons, List.sum_cons]
      omega

/-- **The budget is kept**: what has been said and what may still be said in answer is paid for by
the starts. -/
theorem said_le (h : Budget g P weight cost share grant) {es : List (Event ι μ ε)}
    {s : Medium ι μ σ} (hrun : Run (medium g) es s) :
    (s.said.map weight).sum + (s.inFlight.map share).sum ≤
      ((es.filterMap Event.started).map grant).sum := by
  refine hrun.invariant (I := fun es s => (s.said.map weight).sum + (s.inFlight.map share).sum ≤
    ((es.filterMap Event.started).map grant).sum) ?_ ?_
  · intro s hs
    obtain ⟨-, hsaid, hflight⟩ := hs
    rw [hsaid, hflight]
    simp
  · intro es s e s' hrun hI hstep
    have hP := h.keeps.of_run hrun
    rw [List.filterMap_append, List.map_append, List.sum_append]
    cases e with
    | start e =>
        obtain ⟨state, ms, hstart, rfl⟩ := hstep
        have hpaid := h.sum_pays ms
        have hgrant := h.starts _ _ _ _ hP hstart
        simp only [say, List.map_append, List.sum_append, Multiset.map_add, Multiset.sum_add,
          List.filterMap_cons, Event.started, List.filterMap_nil, List.map_cons, List.map_nil,
          List.sum_cons, List.sum_nil]
        omega
    | hear i m =>
        obtain ⟨hmem, rfl⟩ := hstep
        have hpaid := h.sum_pays (g.hear s.state i m).2
        have hanswer := h.answers s.state i m hP
        have htake := Multiset.sum_map_erase (f := share) hmem
        simp only [say, take, List.map_append, List.sum_append, Multiset.map_add,
          Multiset.sum_add, List.filterMap_cons, Event.started, List.filterMap_nil, List.map_nil,
          List.sum_nil]
        omega
    | lose i m =>
        obtain ⟨hmem, rfl⟩ := hstep
        have htake := Multiset.sum_map_erase (f := share) hmem
        simp only [take, List.filterMap_cons, Event.started, List.filterMap_nil, List.map_nil,
          List.sum_nil]
        omega

end Budget

end Broadcast
