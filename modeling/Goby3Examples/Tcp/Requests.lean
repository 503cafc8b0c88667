/-
No client gets an answer that it has not asked for, and none is answered for another.

A request becomes an answer on its way, and at every place on the way it may be lost.
`Balanced` counts them, client by client; that an answer is counted with the right
client is `Owned`, because on the way back it is known by an endpoint only.
-/
import Goby3Examples.Tcp.Connections

namespace Tcp

open Runs

namespace World

open Function (update)

variable {C : Type} [DecidableEq C] {app : TCPExample} {threads : TCPThreads} {w w' : World C}
  {es : List (Event C)}

/-! ### The balance -/

/-- How many of these are a client's. -/
def countOf (c : C) (ps : List (C × IOData)) : ℕ := ps.countP (decide <| ·.1 = c)

@[simp] theorem countOf_append (c : C) (ps ps' : List (C × IOData)) :
    countOf c (ps ++ ps') = countOf c ps + countOf c ps' := List.countP_append

@[simp] theorem countOf_cons (c c' : C) (io : IOData) (ps : List (C × IOData)) :
    countOf c ((c', io) :: ps) = countOf c ps + if c' = c then 1 else 0 := by
  simp [countOf, List.countP_cons]

@[simp] theorem countOf_nil (c : C) : countOf c [] = 0 := rfl

/-- What is under way, what has come, and what it can be from. -/
structure Balanced (w : World C) (c : C) : Prop where
  asked : (w.clientOut c).length + (w.towardsServer c).length + w.heard c ≤ w.loops
  owed : countOf c w.serverIn + countOf c w.serverOut + (w.towardsClient c).length +
    (w.clientIn c).length ≤ w.heard c

theorem balanced_iff {w : World C} {c : C} : w.Balanced c ↔
    (w.clientOut c).length + (w.towardsServer c).length + w.heard c ≤ w.loops ∧
      countOf c w.serverIn + countOf c w.serverOut + (w.towardsClient c).length +
        (w.clientIn c).length ≤ w.heard c :=
  ⟨fun ⟨hasked, howed⟩ => ⟨hasked, howed⟩, fun ⟨hasked, howed⟩ => ⟨hasked, howed⟩⟩

/-- No event makes an answer of nothing. -/
theorem Balanced.step (hthreads : threads.Lawful) (howned : w.Owned app) {c : C}
    (h : w.Balanced c) {ev : Event C} (hstep : Step app threads w ev w') : w'.Balanced c := by
  obtain ⟨hasked, howed⟩ := h
  cases ev with
  | loop =>
      obtain rfl := hstep
      refine ⟨?_, howed⟩
      show (if w.clientUp c = true then w.clientOut c ++ [app.tcpData] else w.clientOut c).length +
        (w.towardsServer c).length + w.heard c ≤ w.loops + 1
      split
      · rw [List.length_append, List.length_singleton]
        omega
      · omega
  | subscribeClient c' =>
      obtain rfl := hstep
      exact ⟨hasked, howed⟩
  | subscribeServer =>
      obtain rfl := hstep
      exact ⟨hasked, howed⟩
  | connect c' e =>
      obtain ⟨-, -, rfl⟩ := hstep
      exact ⟨hasked, howed⟩
  | disconnect c' =>
      obtain rfl := hstep
      by_cases hc : c = c'
      · subst hc
        refine ⟨?_, ?_⟩
        · simp only [Function.update_self, List.length_nil]
          omega
        · simp only [Function.update_self, List.length_nil]
          omega
      · rw [balanced_iff]
        simp only [Function.update_of_ne hc]
        exact ⟨hasked, howed⟩
  | write c' =>
      obtain ⟨io, rest, hout, rfl⟩ := hstep
      by_cases hc : c = c'
      · subst hc
        rw [hout, List.length_cons] at hasked
        refine ⟨?_, howed⟩
        simp only [Function.update_self, List.length_append]
        split
        · rw [List.length_singleton]
          omega
        · rw [List.length_nil]
          omega
      · rw [balanced_iff]
        simp only [Function.update_of_ne hc]
        exact ⟨hasked, howed⟩
  | hear c' =>
      obtain ⟨e, data, rest, -, hthere, rfl⟩ := hstep
      by_cases hc : c = c'
      · subst hc
        rw [hthere, List.length_cons] at hasked
        refine ⟨?_, ?_⟩
        · simp only [Function.update_self]
          omega
        · simp only [Function.update_self, countOf_append, countOf_cons, if_true, countOf_nil]
          omega
      · rw [balanced_iff]
        simp only [Function.update_of_ne hc, countOf_append, countOf_cons, if_neg (Ne.symm hc),
          countOf_nil]
        exact ⟨hasked, howed⟩
  | respond =>
      obtain ⟨c', io, rest, hin, rfl⟩ := hstep
      rw [hin, countOf_cons] at howed
      refine ⟨hasked, ?_⟩
      show countOf c rest +
        countOf c (if w.serverUp then w.serverOut ++ [(c', app.tcpDataOut io)] else w.serverOut) +
          (w.towardsClient c).length + (w.clientIn c).length ≤ w.heard c
      split
      · rw [countOf_append, countOf_cons, countOf_nil]
        omega
      · omega
  | writeTo =>
      obtain ⟨c', io, rest, hout, rfl⟩ := hstep
      have hto := howned.writeTo_eq hthreads (hout ▸ List.mem_cons_self) c
      rw [hout, countOf_cons] at howed
      refine ⟨hasked, ?_⟩
      show countOf c w.serverIn + countOf c rest + (w.towardsClient c ++ _).length +
        (w.clientIn c).length ≤ w.heard c
      rw [List.length_append]
      rcases hto with hnone | ⟨rfl, hone⟩
      · rw [hnone, List.length_nil]
        omega
      · rw [if_pos rfl] at howed
        rw [hone, List.length_singleton]
        omega
  | receive c' =>
      obtain ⟨data, rest, hthere, rfl⟩ := hstep
      by_cases hc : c = c'
      · subst hc
        rw [hthere, List.length_cons] at howed
        refine ⟨hasked, ?_⟩
        simp only [Function.update_self, List.length_append, List.length_singleton]
        omega
      · rw [balanced_iff]
        simp only [Function.update_of_ne hc]
        exact ⟨hasked, howed⟩

theorem balanced (hthreads : threads.Lawful) (h : Run (system app threads) es w) (c : C) :
    w.Balanced c := by
  refine h.invariant (I := fun _ w => w.Balanced c) ?_ ?_
  · intro w hw
    rw [show w = start from hw]
    exact ⟨Nat.le_refl 0, Nat.le_refl 0⟩
  · intro es w ev w' hrun hI hstep
    exact hI.step hthreads (owned hthreads hrun) hstep

/-! ### The texts -/

/-- Everything is a request on its way to the server, and an answer on its way back. -/
structure Texts (app : TCPExample) (w : World C) : Prop where
  clientOut : ∀ c, ∀ io ∈ w.clientOut c, io.data = app.request
  towardsServer : ∀ c, ∀ data ∈ w.towardsServer c, data = app.request
  serverIn : ∀ p ∈ w.serverIn, p.2.data = app.request
  towardsClient : ∀ c, ∀ data ∈ w.towardsClient c, data = app.response
  clientIn : ∀ c, ∀ io ∈ w.clientIn c, io.data = app.response

theorem forall_mem_update {α : Type} {f : C → List α} {P : α → Prop} (h : ∀ c, ∀ a ∈ f c, P a)
    {c : C} {l : List α} (hl : ∀ a ∈ l, P a) : ∀ c', ∀ a ∈ update f c l c', P a := by
  intro c'
  by_cases hc : c' = c
  · subst hc
    rw [Function.update_self]
    exact hl
  · rw [Function.update_of_ne hc]
    exact h c'

theorem forall_mem_concat {α : Type} {l : List α} {P : α → Prop} (h : ∀ a ∈ l, P a) {b : α}
    (hb : P b) : ∀ a ∈ l ++ [b], P a := by
  intro a ha
  rcases List.mem_append.mp ha with hold | hnew
  · exact h a hold
  · exact List.mem_singleton.mp hnew ▸ hb

theorem texts (hthreads : threads.Lawful) (h : Run (system app threads) es w) : w.Texts app := by
  refine h.invariant (I := fun _ w => w.Texts app) ?_ ?_
  · intro w hw
    rw [show w = start from hw]
    exact ⟨nofun, nofun, nofun, nofun, nofun⟩
  · intro es w ev w' hrun hI hstep
    obtain ⟨hout, hto, hin, hback, hgot⟩ := hI
    cases ev with
    | loop =>
        obtain rfl := hstep
        refine ⟨fun c => ?_, hto, hin, hback, hgot⟩
        show ∀ io ∈ if w.clientUp c = true then w.clientOut c ++ [app.tcpData] else w.clientOut c, _
        split
        · exact forall_mem_concat (hout c) rfl
        · exact hout c
    | subscribeClient c =>
        obtain rfl := hstep
        exact ⟨hout, hto, hin, hback, hgot⟩
    | subscribeServer =>
        obtain rfl := hstep
        exact ⟨hout, hto, hin, hback, hgot⟩
    | connect c e =>
        obtain ⟨-, -, rfl⟩ := hstep
        exact ⟨hout, hto, hin, hback, hgot⟩
    | disconnect c =>
        obtain rfl := hstep
        exact ⟨hout, forall_mem_update hto nofun, hin, forall_mem_update hback nofun, hgot⟩
    | write c =>
        obtain ⟨io, rest, hthere, rfl⟩ := hstep
        have hall := hthere ▸ hout c
        refine ⟨forall_mem_update hout fun a ha => hall a (List.mem_cons_of_mem _ ha),
          forall_mem_update hto ?_, hin, hback, hgot⟩
        split
        · refine forall_mem_concat (hto c) ?_
          rw [hthreads.write]
          exact hall io List.mem_cons_self
        · rw [List.append_nil]
          exact hto c
    | hear c =>
        obtain ⟨e, data, rest, -, hthere, rfl⟩ := hstep
        have hall := hthere ▸ hto c
        refine ⟨hout, forall_mem_update hto fun a ha => hall a (List.mem_cons_of_mem _ ha),
          forall_mem_concat hin ?_, hback, hgot⟩
        exact (hthreads.heard_data e data).trans (hall data List.mem_cons_self)
    | respond =>
        obtain ⟨c, io, rest, hthere, rfl⟩ := hstep
        exact ⟨hout, hto, fun p hp => hin p (hthere ▸ List.mem_cons_of_mem _ hp), hback, hgot⟩
    | writeTo =>
        obtain ⟨c, io, rest, hthere, rfl⟩ := hstep
        refine ⟨hout, hto, hin, fun c' => ?_, hgot⟩
        have howned := owned hthreads hrun
        rcases howned.writeTo_eq hthreads (hthere ▸ List.mem_cons_self) c' with hnone | ⟨-, hone⟩
        · show ∀ data ∈ w.towardsClient c' ++ _, _
          rw [hnone, List.append_nil]
          exact hback c'
        · show ∀ data ∈ w.towardsClient c' ++ _, _
          rw [hone]
          exact forall_mem_concat (hback c') rfl
    | receive c =>
        obtain ⟨data, rest, hthere, rfl⟩ := hstep
        have hall := hthere ▸ hback c
        refine ⟨hout, hto, hin,
          forall_mem_update hback fun a ha => hall a (List.mem_cons_of_mem _ ha),
          forall_mem_update hgot (forall_mem_concat (hgot c) ?_)⟩
        rw [hthreads.got_data]
        exact hall data List.mem_cons_self

/-! ### One time around the loop -/

/-- The client is connected, everybody has subscribed, and nothing of it is under way. -/
structure Quiet (w : World C) (c : C) : Prop where
  clientUp : w.clientUp c = true
  serverUp : w.serverUp = true
  connection : ∃ e, w.connection c = some e
  clientOut : w.clientOut c = []
  towardsServer : w.towardsServer c = []
  serverIn : w.serverIn = []
  serverOut : w.serverOut = []
  towardsClient : w.towardsClient c = []

theorem run_snoc (h : Run (system app threads) es w) (ev : Event C)
    (hstep : Step app threads w ev w') : Run (system app threads) (es ++ [ev]) w' := h.snoc hstep

/-- From there a loop can be answered, and it is quiet again. -/
theorem Quiet.next (hthreads : threads.Lawful) (h : Run (system app threads) es w) {c : C}
    (hquiet : w.Quiet c) :
    ∃ es' w', Run (system app threads) (es ++ es') w' ∧ w'.loops = w.loops + 1 ∧
      w'.heard c = w.heard c + 1 ∧ (w'.clientIn c).length = (w.clientIn c).length + 1 ∧
      w'.Quiet c := by
  obtain ⟨hclient, hserver, ⟨e, he⟩, hout, hto, hin, hsout, hback⟩ := hquiet
  have hloop := run_snoc h .loop rfl
  have hgiven : (if w.clientUp c = true then w.clientOut c ++ [app.tcpData] else w.clientOut c) =
      [app.tcpData] := by
    rw [if_pos hclient, hout]
    rfl
  have hwrite := run_snoc hloop (.write c) ⟨_, [], hgiven, rfl⟩
  have hwritten : update w.towardsServer c (w.towardsServer c ++
      if (w.connection c).isSome then [threads.write app.tcpData] else []) c =
        [threads.write app.tcpData] := by
    rw [Function.update_self, hto, he]
    rfl
  have hhear := run_snoc hwrite (.hear c) ⟨e, _, [], he, hwritten, rfl⟩
  have hheard : w.serverIn ++ [(c, threads.heard e (threads.write app.tcpData))] =
      [(c, threads.heard e (threads.write app.tcpData))] := by
    rw [hin]
    rfl
  have hrespond := run_snoc hhear .respond ⟨c, _, [], hheard, rfl⟩
  let answer := app.tcpDataOut (threads.heard e (threads.write app.tcpData))
  have hresponded : (if w.serverUp = true then w.serverOut ++ [(c, answer)] else w.serverOut) =
      [(c, answer)] := by
    rw [if_pos hserver, hsout]
    rfl
  have hanswer := run_snoc hrespond .writeTo ⟨c, answer, [], hresponded, rfl⟩
  have hdest : answer.tcpDest = some e := by
    show some ((threads.heard e _).tcpSrc.getD {}) = _
    rw [hthreads.heard_tcpSrc]
    rfl
  have hanswered : w.towardsClient c ++ ((w.connection c).bind (threads.writeTo answer)).toList =
      [app.response] := by
    rw [hback, he]
    show [] ++ (threads.writeTo answer e).toList = _
    rw [hthreads.writeTo _ e e hdest, if_pos rfl]
    rfl
  have hreceive := run_snoc hanswer (.receive c) ⟨_, [], hanswered, rfl⟩
  simp only [List.append_assoc] at hreceive
  refine ⟨_, _, hreceive, rfl, Function.update_self .., ?_, ?_⟩
  · show (update w.clientIn c _ c).length = _
    rw [Function.update_self, List.length_append, List.length_singleton]
  · refine ⟨hclient, hserver, ⟨e, he⟩, ?_, ?_, rfl, rfl, ?_⟩
    · simp only [Function.update_self]
    · simp only [Function.update_self]
    · simp only [Function.update_self]

/-! ### The example -/

variable (app threads) in
/-- What a client has been answered, and what the server has for it. -/
structure Answered (es : List (Event C)) (w : World C) (c : C) : Prop where
  asked : w.heard c ≤ w.loops
  /-- One answer at most to each request that the server has heard from it. -/
  answered : (w.clientIn c).length ≤ w.heard c
  requests : ∀ p ∈ w.serverIn, p.2.data = app.request
  responses : ∀ io ∈ w.clientIn c, io.data = app.response
  /-- The server answers nobody else, and each at an endpoint of its own. -/
  addressed : ∀ p ∈ w.serverOut, ∃ e, (e, p.1) ∈ w.used ∧
    p.2 = { data := app.response, tcpDest := some e }
  apart : ∀ e c', (e, c) ∈ w.used → (e, c') ∈ w.used → c = c'
  next : w.Quiet c → ∃ es' w', Run (system app threads) (es ++ es') w' ∧
    w'.loops = w.loops + 1 ∧ w'.heard c = w.heard c + 1 ∧
    (w'.clientIn c).length = (w.clientIn c).length + 1 ∧ w'.Quiet c

end World

/-! ### The first example -/

/-- Its two clients. -/
inductive Client
  | client1
  | client2
  deriving DecidableEq

/-- `tcp_example/main.cpp` -/
def tcpExample : TCPExample where
  request := "Request\n"
  response := "Response\n"

/-- Threads that hand on what they are given. -/
def plainThreads : TCPThreads where
  write := fun io => io.data
  heard := fun e data => { data, tcpSrc := some e }
  writeTo := fun io e => if io.tcpDest = some e then some io.data else none
  got := fun data => { data }

theorem plainThreads_lawful : plainThreads.Lawful := by
  refine ⟨fun _ => rfl, fun _ _ => rfl, fun _ _ => rfl, ?_, fun _ => rfl⟩
  intro io e e' hdest
  show (if io.tcpDest = some e' then some io.data else none) = _
  rw [hdest]
  by_cases hee : e' = e
  · rw [if_pos hee, if_pos (congrArg some hee.symm)]
  · rw [if_neg hee, if_neg fun heq => hee (Option.some.inj heq).symm]

end Tcp
