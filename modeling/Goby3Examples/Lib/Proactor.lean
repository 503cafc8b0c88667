/-
Asynchronous operations and the loop that runs their handlers.

An operation is started, at some later moment it finishes with a result, and its
handler then waits in a queue until somebody polls.  `IoContext` is that
bookkeeping, and nothing more: what an operation is and what a result is are
parameters.  A stopped context still collects results, but polling it runs
nothing.

`Poll` is one call of poll.  Operations may finish while it is under way, in any
order and with any result, so it is a relation.  What a program built on it has
to show is that its handlers keep an invariant; `Poll.invariant` then carries the
invariant over the whole call, and `Poll.ran` says that a live context is left
with every handler run that was waiting when the call began.
-/
import Mathlib.Data.List.Basic

namespace Proactor

variable {σ ω ρ : Type*}

/-- The operations of one context: under way, or finished with the handler waiting. -/
structure IoContext (ω ρ : Type*) where
  stopped : Bool := false
  pending : List ω := []
  /-- Finished operations whose handlers have not run, oldest first. -/
  ready : List (ω × ρ) := []

namespace IoContext

/-- Polling runs nothing from now on. -/
def stop (io : IoContext ω ρ) : IoContext ω ρ := { io with stopped := true }

/-- An operation is started. -/
def start (io : IoContext ω ρ) (op : ω) : IoContext ω ρ :=
  { io with pending := io.pending ++ [op] }

/-- An operation is over as soon as it is asked for; its handler still waits for a poll. -/
def post (io : IoContext ω ρ) (op : ω) (r : ρ) : IoContext ω ρ :=
  { io with ready := io.ready ++ [(op, r)] }

/-- It is over, and its handler is ready. -/
def finish [BEq ω] (io : IoContext ω ρ) (op : ω) (r : ρ) : IoContext ω ρ :=
  { io with pending := io.pending.erase op, ready := io.ready ++ [(op, r)] }

/-- All of them are over. -/
def finishAll (io : IoContext ω ρ) (r : ρ) : IoContext ω ρ :=
  { io with pending := [], ready := io.ready ++ io.pending.map fun op => (op, r) }

/-- How many operations of a kind have been started whose handler has not run. -/
def outstanding (p : ω → Bool) (io : IoContext ω ρ) : Nat :=
  io.pending.countP p + io.ready.countP fun c => p c.1

@[simp] theorem outstanding_stop (p : ω → Bool) (io : IoContext ω ρ) :
    io.stop.outstanding p = io.outstanding p := rfl

@[simp] theorem outstanding_start (p : ω → Bool) (io : IoContext ω ρ) (op : ω) :
    (io.start op).outstanding p = io.outstanding p + if p op then 1 else 0 := by
  simp only [outstanding, start, List.countP_append, List.countP_singleton]
  omega

@[simp] theorem outstanding_post (p : ω → Bool) (io : IoContext ω ρ) (op : ω) (r : ρ) :
    (io.post op r).outstanding p = io.outstanding p + if p op then 1 else 0 := by
  simp only [outstanding, post, List.countP_append, List.countP_singleton]
  omega

theorem outstanding_finish [BEq ω] [LawfulBEq ω] (p : ω → Bool) (io : IoContext ω ρ) {op : ω}
    (hop : op ∈ io.pending) (r : ρ) : (io.finish op r).outstanding p = io.outstanding p := by
  have hperm := (List.perm_cons_erase hop).countP_eq p
  simp only [outstanding, finish, List.countP_append, List.countP_singleton]
  rw [hperm, List.countP_cons]
  omega

@[simp] theorem outstanding_finishAll (p : ω → Bool) (io : IoContext ω ρ) (r : ρ) :
    (io.finishAll r).outstanding p = io.outstanding p := by
  simp only [outstanding, finishAll, List.countP_append, List.countP_map, List.countP_nil]
  rw [Nat.zero_add, Nat.add_comm]
  rfl

theorem outstanding_pop (p : ω → Bool) {io : IoContext ω ρ} {op : ω} {r : ρ}
    {rest : List (ω × ρ)} (h : io.ready = (op, r) :: rest) :
    ({ io with ready := rest } : IoContext ω ρ).outstanding p + (if p op then 1 else 0)
      = io.outstanding p := by
  simp only [outstanding, h, List.countP_cons]
  omega

end IoContext

/-! ### A program that owns a context -/

/-- A program's state holds its context; a handler acts on the whole state. -/
structure Loop (σ ω ρ : Type*) where
  io : σ → IoContext ω ρ
  withIo : σ → IoContext ω ρ → σ
  handler : ω → ρ → σ → σ
  io_withIo : ∀ s c, io (withIo s c) = c

attribute [simp] Loop.io_withIo

namespace Loop

variable [BEq ω] (L : Loop σ ω ρ)

/-- An operation of the program is over. -/
def finish (s : σ) (op : ω) (r : ρ) : σ := L.withIo s ((L.io s).finish op r)

/-- The handler of a finished operation runs; `rest` is what waited behind it. -/
def runHandler (s : σ) (op : ω) (r : ρ) (rest : List (ω × ρ)) : σ :=
  L.handler op r (L.withIo s { L.io s with ready := rest })

/-- One call of poll, with the handlers it ran. -/
inductive Poll : σ → List (ω × ρ) → σ → Prop
  | stopped {s : σ} (h : (L.io s).stopped = true) : Poll s [] s
  /-- Nothing is outstanding: the context stops itself. -/
  | exhausted {s : σ} (h : (L.io s).stopped = false) (hpending : (L.io s).pending = [])
      (hready : (L.io s).ready = []) : Poll s [] (L.withIo s (L.io s).stop)
  | done {s : σ} (h : (L.io s).stopped = false) (hpending : (L.io s).pending ≠ [])
      (hready : (L.io s).ready = []) : Poll s [] s
  | finish {s s' : σ} {hs : List (ω × ρ)} {op : ω} (r : ρ) (h : (L.io s).stopped = false)
      (hop : op ∈ (L.io s).pending) (hrest : Poll (L.finish s op r) hs s') : Poll s hs s'
  | run {s s' : σ} {hs rest : List (ω × ρ)} {op : ω} {r : ρ} (h : (L.io s).stopped = false)
      (hready : (L.io s).ready = (op, r) :: rest)
      (hrest : Poll (L.runHandler s op r rest) hs s') : Poll s ((op, r) :: hs) s'

/-- Everything that can happen to the context keeps the invariant. -/
structure Keeps (I : σ → Prop) : Prop where
  finish : ∀ {s op} (r : ρ), I s → op ∈ (L.io s).pending → I (L.finish s op r)
  run : ∀ {s op r rest}, I s → (L.io s).ready = (op, r) :: rest → I (L.runHandler s op r rest)
  exhausted : ∀ {s}, I s → (L.io s).pending = [] → (L.io s).ready = [] →
    I (L.withIo s (L.io s).stop)

variable {L}

theorem Poll.invariant {I : σ → Prop} (hkeep : L.Keeps I) {s s' : σ} {hs : List (ω × ρ)}
    (h : L.Poll s hs s') (hI : I s) : I s' := by
  induction h with
  | stopped _ => exact hI
  | exhausted _ hp hr => exact hkeep.exhausted hI hp hr
  | done _ _ _ => exact hI
  | finish r _ hop _ ih => exact ih (hkeep.finish r hI hop)
  | run _ hready _ ih => exact ih (hkeep.run hI hready)

theorem Poll.of_stopped {s s' : σ} {hs : List (ω × ρ)} (h : L.Poll s hs s')
    (hstop : (L.io s).stopped = true) : hs = [] ∧ s' = s := by
  cases h with
  | stopped _ => exact ⟨rfl, rfl⟩
  | exhausted h => simp [hstop] at h
  | done h => simp [hstop] at h
  | finish r h => simp [hstop] at h
  | run h => simp [hstop] at h

/--
**A live context runs every handler that waits.**  The invariant has to keep the
context live, and a handler may only add to the back of the queue.
-/
theorem Poll.ran {I : σ → Prop} (hkeep : L.Keeps I)
    (hlive : ∀ s, I s → (L.io s).stopped = false)
    (hback : ∀ {s op r rest}, I s → (L.io s).ready = (op, r) :: rest →
      rest <+: (L.io (L.runHandler s op r rest)).ready)
    {s s' : σ} {hs : List (ω × ρ)} (h : L.Poll s hs s') (hI : I s) : (L.io s).ready <+: hs := by
  induction h with
  | stopped hstop => simp [hlive _ hI] at hstop
  | exhausted _ _ hr => exact hr ▸ List.nil_prefix
  | done _ _ hr => exact hr ▸ List.nil_prefix
  | @finish s s' hs op r _ hop _ ih =>
      have hgrow : (L.io s).ready <+: (L.io (L.finish s op r)).ready := by
        simp [Loop.finish, IoContext.finish]
      exact hgrow.trans (ih (hkeep.finish r hI hop))
  | @run s s' hs rest op r _ hready _ ih =>
      rw [hready]
      exact List.cons_prefix_cons.mpr ⟨rfl, (hback hI hready).trans (ih (hkeep.run hI hready))⟩

/--
A poll always comes to an end when no handler leaves another one waiting: there
is a call that runs exactly the handlers that were waiting.
-/
theorem exists_poll {I : σ → Prop} (hkeep : L.Keeps I)
    (hlive : ∀ s, I s → (L.io s).stopped = false)
    (hquiet : ∀ {s op r rest}, I s → (L.io s).ready = (op, r) :: rest →
      (L.io (L.runHandler s op r rest)).ready = rest) :
    ∀ (q : List (ω × ρ)) (s : σ), (L.io s).ready = q → I s → ∃ s', L.Poll s q s' := by
  intro q
  induction q with
  | nil =>
      intro s hq hI
      by_cases hp : (L.io s).pending = []
      · exact ⟨_, Poll.exhausted (hlive s hI) hp hq⟩
      · exact ⟨_, Poll.done (hlive s hI) hp hq⟩
  | cons c rest ih =>
      intro s hq hI
      obtain ⟨op, r⟩ := c
      obtain ⟨s', hs'⟩ := ih (L.runHandler s op r rest) (hquiet hI hq) (hkeep.run hI hq)
      exact ⟨s', Poll.run (hlive s hI) hq hs'⟩

end Loop

end Proactor
