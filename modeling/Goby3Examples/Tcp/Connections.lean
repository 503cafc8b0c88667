/-
Clients that ask and a server that answers, `tcp_example/main.cpp` and
`cobs_example/main.cpp`.

At every loop the main thread gives each client a request to send.  What the server
hears comes to the main thread with its source, which becomes the destination of
the answer.

The threads for the connections are Goby's.  They are launched after the main thread has
subscribed, and subscribe themselves at some time later: a request that is published
before is lost, and so is an answer.  What they make of a message is `TCPThreads`, and
`TCPThreads.Lawful` is what is relied on.  A connection keeps the order, but it may break at
any time, with everything on it, and be made again from another endpoint; no endpoint
is used twice.  Within the process a subscriber gets everything in order.

With a request goes the client that it is from, which the main thread knows only by the
endpoint.  The first example has two clients and the second one; here there are any number.
-/
import Mathlib.Logic.Function.Basic
import Goby3Examples.Lib.Runs

namespace Tcp

open Runs

/-- `goby::middleware::protobuf::TCPEndPoint` -/
structure TCPEndPoint where
  addr : String := ""
  port : ℕ := 0
  deriving DecidableEq

/-- `goby::middleware::protobuf::IOData`, the fields that are read or set here. -/
structure IOData where
  data : String
  tcpSrc : Option TCPEndPoint := none
  tcpDest : Option TCPEndPoint := none
  deriving DecidableEq

/-- What the threads for the connections make of a message. -/
structure TCPThreads where
  /-- What a client's thread writes when it is given this. -/
  write : IOData → String
  /-- What the server's thread publishes when it hears this from an endpoint. -/
  heard : TCPEndPoint → String → IOData
  /-- What the server's thread writes to an endpoint when it is given this. -/
  writeTo : IOData → TCPEndPoint → Option String
  /-- What a client's thread publishes when it hears this. -/
  got : String → IOData

/-- What is relied on. -/
structure TCPThreads.Lawful (threads : TCPThreads) : Prop where
  write : ∀ io, threads.write io = io.data
  heard_data : ∀ e data, (threads.heard e data).data = data
  heard_tcpSrc : ∀ e data, (threads.heard e data).tcpSrc = some e
  /-- A message with a destination goes there and nowhere else. -/
  writeTo : ∀ io e e', io.tcpDest = some e →
    threads.writeTo io e' = if e' = e then some io.data else none
  got_data : ∀ data, (threads.got data).data = data

/-- The texts of an example. -/
structure TCPExample where
  request : String
  response : String

namespace TCPExample

variable (app : TCPExample)

/-- What `loop` gives each client to send. -/
def tcpData : IOData := { data := app.request }

/-- The answer to what the server has heard.  To read a source that is absent gives the default one,
and to set a destination makes it present. -/
def tcpDataOut (tcpDataIn : IOData) : IOData :=
  { data := app.response, tcpDest := some (tcpDataIn.tcpSrc.getD {}) }

end TCPExample

/-! ### The example at work -/

/-- What is waiting between the threads and on the connections. -/
structure World (C : Type) where
  /-- How often the main thread has looped. -/
  loops : ℕ
  /-- The client's thread has subscribed. -/
  clientUp : C → Bool
  serverUp : Bool
  /-- The endpoint of the client's connection, if it has one. -/
  connection : C → Option TCPEndPoint
  /-- Every endpoint that a connection has had, and whose it was. -/
  used : List (TCPEndPoint × C)
  /-- For the client's thread to write. -/
  clientOut : C → List IOData
  towardsServer : C → List String
  /-- How many requests of the client the server's thread has heard. -/
  heard : C → ℕ
  /-- For the main thread to answer, and for the server's thread to write. -/
  serverIn : List (C × IOData)
  serverOut : List (C × IOData)
  towardsClient : C → List String
  /-- Everything that the client's thread has published. -/
  clientIn : C → List IOData

variable {C : Type}

/-- Nothing has been subscribed to or connected. -/
def World.start : World C where
  loops := 0
  clientUp := fun _ => false
  serverUp := false
  connection := fun _ => none
  used := []
  clientOut := fun _ => []
  towardsServer := fun _ => []
  heard := fun _ => 0
  serverIn := []
  serverOut := []
  towardsClient := fun _ => []
  clientIn := fun _ => []

/-- The main thread loops or answers; the threads for the connections subscribe, connect, write and
hear. -/
inductive Event (C : Type)
  | loop
  | subscribeClient (c : C)
  | subscribeServer
  | connect (c : C) (e : TCPEndPoint)
  | disconnect (c : C)
  | write (c : C)
  | hear (c : C)
  | respond
  | writeTo
  | receive (c : C)

namespace World

variable [DecidableEq C] (app : TCPExample) (threads : TCPThreads)

open Function (update)

/-- What an event does. -/
def Step (w : World C) (ev : Event C) (w' : World C) : Prop :=
  match ev with
  | .loop =>
    w' = { w with
      loops := w.loops + 1
      clientOut := fun c => if w.clientUp c then w.clientOut c ++ [app.tcpData] else w.clientOut c }
  | .subscribeClient c => w' = { w with clientUp := update w.clientUp c true }
  | .subscribeServer => w' = { w with serverUp := true }
  | .connect c e =>
    w.connection c = none ∧ (∀ c', (e, c') ∉ w.used) ∧
      w' = { w with connection := update w.connection c (some e), used := (e, c) :: w.used }
  | .disconnect c =>
    w' = { w with
      connection := update w.connection c none
      towardsServer := update w.towardsServer c []
      towardsClient := update w.towardsClient c [] }
  | .write c => ∃ io rest, w.clientOut c = io :: rest ∧
    w' = { w with
      clientOut := update w.clientOut c rest
      towardsServer := update w.towardsServer c
        (w.towardsServer c ++ if (w.connection c).isSome then [threads.write io] else []) }
  | .hear c => ∃ e data rest, w.connection c = some e ∧ w.towardsServer c = data :: rest ∧
    w' = { w with
      towardsServer := update w.towardsServer c rest
      heard := update w.heard c (w.heard c + 1)
      serverIn := w.serverIn ++ [(c, threads.heard e data)] }
  | .respond => ∃ c io rest, w.serverIn = (c, io) :: rest ∧
    w' = { w with
      serverIn := rest
      serverOut := if w.serverUp then w.serverOut ++ [(c, app.tcpDataOut io)] else w.serverOut }
  | .writeTo => ∃ c io rest, w.serverOut = (c, io) :: rest ∧
    w' = { w with
      serverOut := rest
      towardsClient := fun c' =>
        w.towardsClient c' ++ ((w.connection c').bind (threads.writeTo io)).toList }
  | .receive c => ∃ data rest, w.towardsClient c = data :: rest ∧
    w' = { w with
      towardsClient := update w.towardsClient c rest
      clientIn := update w.clientIn c (w.clientIn c ++ [threads.got data]) }

/-- The example from the moment the main thread has launched the others. -/
def system : System (World C) (Event C) where
  init := fun w => w = start
  step := Step app threads

/-! ### The endpoints -/

/-- An endpoint is known to be one client's. -/
structure Owned (w : World C) : Prop where
  connection : ∀ c e, w.connection c = some e → (e, c) ∈ w.used
  unique : ∀ e c c', (e, c) ∈ w.used → (e, c') ∈ w.used → c = c'
  serverIn : ∀ p ∈ w.serverIn, ∃ e, (e, p.1) ∈ w.used ∧ p.2.tcpSrc = some e
  serverOut : ∀ p ∈ w.serverOut, ∃ e, (e, p.1) ∈ w.used ∧
    p.2 = { data := app.response, tcpDest := some e }

variable {app threads} {w w' : World C} {es : List (Event C)}

omit [DecidableEq C] in
/-- A step that makes no connection, and after which less is waiting than was. -/
theorem Owned.of_subset (h : w.Owned app)
    (hconn : ∀ c e, w'.connection c = some e → w.connection c = some e) (hused : w'.used = w.used)
    (hin : w'.serverIn ⊆ w.serverIn) (hout : w'.serverOut ⊆ w.serverOut) : w'.Owned app := by
  refine ⟨?_, ?_, ?_, ?_⟩
  · intro c e hc
    rw [hused]
    exact h.connection c e (hconn c e hc)
  · rw [hused]
    exact h.unique
  · rw [hused]
    exact fun p hp => h.serverIn p (hin hp)
  · rw [hused]
    exact fun p hp => h.serverOut p (hout hp)

theorem owned (hthreads : threads.Lawful) (h : Run (system app threads) es w) : w.Owned app := by
  refine h.state_invariant (I := fun w => w.Owned app) ?_ ?_
  · intro w hw
    rw [show w = start from hw]
    refine ⟨?_, ?_, ?_, ?_⟩
    · intro c e hc
      cases hc
    · intro e c c' hc
      cases hc
    · intro p hp
      cases hp
    · intro p hp
      cases hp
  · intro w ev w' hI hstep
    have hsame : ∀ c e, w.connection c = some e → w.connection c = some e := fun _ _ hc => hc
    cases ev with
    | loop =>
        obtain rfl := hstep
        exact hI.of_subset hsame rfl (List.Subset.refl _) (List.Subset.refl _)
    | subscribeClient c =>
        obtain rfl := hstep
        exact hI.of_subset hsame rfl (List.Subset.refl _) (List.Subset.refl _)
    | subscribeServer =>
        obtain rfl := hstep
        exact hI.of_subset hsame rfl (List.Subset.refl _) (List.Subset.refl _)
    | connect c e =>
        obtain ⟨-, hfresh, rfl⟩ := hstep
        refine ⟨?_, ?_, ?_, ?_⟩
        · intro c' e' hc'
          by_cases hcc : c' = c
          · subst hcc
            obtain rfl : e = e' := by simpa using hc'
            exact List.mem_cons_self
          · simp only [Function.update_of_ne hcc] at hc'
            exact List.mem_cons_of_mem _ (hI.connection c' e' hc')
        · intro e' a b ha hb
          rcases List.mem_cons.mp ha with heq | hold
          · rcases List.mem_cons.mp hb with heq' | hold'
            · exact (Prod.mk.inj heq).2.trans (Prod.mk.inj heq').2.symm
            · obtain ⟨rfl, rfl⟩ := Prod.mk.inj heq
              exact absurd hold' (hfresh b)
          · rcases List.mem_cons.mp hb with heq' | hold'
            · obtain ⟨rfl, rfl⟩ := Prod.mk.inj heq'
              exact absurd hold (hfresh a)
            · exact hI.unique e' a b hold hold'
        · intro p hp
          obtain ⟨e', he', hsrc⟩ := hI.serverIn p hp
          exact ⟨e', List.mem_cons_of_mem _ he', hsrc⟩
        · intro p hp
          obtain ⟨e', he', hdest⟩ := hI.serverOut p hp
          exact ⟨e', List.mem_cons_of_mem _ he', hdest⟩
    | disconnect c =>
        obtain rfl := hstep
        refine hI.of_subset ?_ rfl (List.Subset.refl _) (List.Subset.refl _)
        intro c' e hc'
        by_cases hcc : c' = c
        · subst hcc
          simp at hc'
        · simp only [Function.update_of_ne hcc] at hc'
          exact hc'
    | write c =>
        obtain ⟨io, rest, -, rfl⟩ := hstep
        exact hI.of_subset hsame rfl (List.Subset.refl _) (List.Subset.refl _)
    | hear c =>
        obtain ⟨e, data, rest, hc, -, rfl⟩ := hstep
        refine ⟨hI.connection, hI.unique, ?_, hI.serverOut⟩
        intro p hp
        rcases List.mem_append.mp hp with hold | hnew
        · exact hI.serverIn p hold
        · rw [List.mem_singleton.mp hnew]
          exact ⟨e, hI.connection c e hc, hthreads.heard_tcpSrc e data⟩
    | respond =>
        obtain ⟨c, io, rest, hin, rfl⟩ := hstep
        refine ⟨hI.connection, hI.unique, ?_, ?_⟩
        · intro p hp
          exact hI.serverIn p (hin ▸ List.mem_cons_of_mem _ hp)
        · intro p hp
          have hcases : p ∈ w.serverOut ∨ p = (c, app.tcpDataOut io) := by
            by_cases hup : w.serverUp = true
            · simpa [hup] using hp
            · simp only [hup, Bool.false_eq_true, if_false] at hp
              exact Or.inl hp
          rcases hcases with hold | rfl
          · exact hI.serverOut p hold
          · -- the source of what was heard is the destination of the answer
            obtain ⟨e, he, hsrc⟩ := hI.serverIn (c, io) (hin ▸ List.mem_cons_self)
            refine ⟨e, he, ?_⟩
            show app.tcpDataOut io = _
            unfold TCPExample.tcpDataOut
            rw [show io.tcpSrc = some e from hsrc]
            rfl
    | writeTo =>
        obtain ⟨c, io, rest, hout, rfl⟩ := hstep
        exact hI.of_subset hsame rfl (List.Subset.refl _) (hout ▸ List.subset_cons_self _ _)
    | receive c =>
        obtain ⟨data, rest, -, rfl⟩ := hstep
        exact hI.of_subset hsame rfl (List.Subset.refl _) (List.Subset.refl _)

omit [DecidableEq C] in
/-- An answer is written to the connection of its own client, if to any. -/
theorem Owned.writeTo_eq (hthreads : threads.Lawful) (h : w.Owned app) {c : C} {io : IOData}
    (hp : (c, io) ∈ w.serverOut) (c' : C) :
    ((w.connection c').bind (threads.writeTo io)).toList = [] ∨
      c' = c ∧ ((w.connection c').bind (threads.writeTo io)).toList = [app.response] := by
  obtain ⟨e, he, hdest⟩ := h.serverOut (c, io) hp
  obtain rfl : io = _ := hdest
  cases hconn : w.connection c' with
  | none => exact Or.inl rfl
  | some e' =>
      show (threads.writeTo _ e').toList = [] ∨ _ ∧ (threads.writeTo _ e').toList = _
      rw [hthreads.writeTo _ e e' rfl]
      by_cases hee : e' = e
      · rw [if_pos hee]
        exact Or.inr ⟨h.unique e c' c (hee ▸ h.connection c' e' hconn) he, rfl⟩
      · rw [if_neg hee]
        exact Or.inl rfl

end World

end Tcp
