import Mathlib.Algebra.GroupWithZero.Nat
import Mathlib.Data.List.Perm.Basic
import Mathlib.Data.List.Count

/-!
# Gathering the results of bounded workers

A main routine starts a worker for each task, with a limit on the workers at
work; the workers send batches over an unbuffered channel to a collector.  When
all workers are done the main routine closes the channel, waits for the
collector and returns what has been collected.
-/

namespace Iec61850.Gather

variable {Task Item : Type}

/-- A worker that has left its slot still has to leave the group. -/
inductive Worker (Task Item : Type)
  | working (task : Task)
  | sending (batch : List Item)
  | returned
  | leaving
  deriving DecidableEq

inductive Collector (Item : Type)
  | receiving
  | holding (batch : List Item)
  | finished
  deriving DecidableEq

inductive Main (Task Item : Type)
  | starting (tasks : List Task)
  | closing
  | joining
  | returned (result : List Item)
  deriving DecidableEq

structure State (Task Item : Type) where
  main : Main Task Item
  workers : List (Worker Task Item)
  collector : Collector Item
  closed : Bool
  panicked : Bool
  collected : List Item
  deriving DecidableEq

def start (tasks : List Task) : State Task Item where
  main := .starting tasks
  workers := []
  collector := .receiving
  closed := false
  panicked := false
  collected := []

def Worker.inSlot : Worker Task Item → Bool
  | .leaving => false
  | _ => true

def State.slots (s : State Task Item) : ℕ := s.workers.countP Worker.inSlot

/-- The steps of the main routine, of the workers and of the collector. -/
inductive Step (work : Task → List Item) (limit : ℕ) :
    State Task Item → State Task Item → Prop
  | spawn (s : State Task Item) (task : Task) (tasks : List Task)
      (hmain : s.main = .starting (task :: tasks)) (hslots : s.slots < limit) :
      Step work limit s
        { s with main := .starting tasks, workers := s.workers ++ [.working task] }
  | work (s : State Task Item) (before after : List (Worker Task Item)) (task : Task)
      (hworkers : s.workers = before ++ .working task :: after) :
      Step work limit s { s with workers := before ++ .sending (work task) :: after }
  | send (s : State Task Item) (before after : List (Worker Task Item)) (batch : List Item)
      (hworkers : s.workers = before ++ .sending batch :: after) (hopen : s.closed = false)
      (hcollector : s.collector = .receiving) :
      Step work limit s
        { s with workers := before ++ .returned :: after, collector := .holding batch }
  | sendClosed (s : State Task Item) (before after : List (Worker Task Item))
      (batch : List Item) (hworkers : s.workers = before ++ .sending batch :: after)
      (hclosed : s.closed = true) (hpanicked : s.panicked = false) :
      Step work limit s { s with panicked := true }
  | release (s : State Task Item) (before after : List (Worker Task Item))
      (hworkers : s.workers = before ++ .returned :: after) :
      Step work limit s { s with workers := before ++ .leaving :: after }
  | leave (s : State Task Item) (before after : List (Worker Task Item))
      (hworkers : s.workers = before ++ .leaving :: after) :
      Step work limit s { s with workers := before ++ after }
  | collect (s : State Task Item) (batch : List Item) (hcollector : s.collector = .holding batch) :
      Step work limit s
        { s with collector := .receiving, collected := s.collected ++ batch }
  | finish (s : State Task Item) (hcollector : s.collector = .receiving)
      (hclosed : s.closed = true) : Step work limit s { s with collector := .finished }
  | wait (s : State Task Item) (hmain : s.main = .starting []) (hworkers : s.workers = []) :
      Step work limit s { s with main := .closing }
  | close (s : State Task Item) (hmain : s.main = .closing) :
      Step work limit s { s with main := .joining, closed := true }
  | join (s : State Task Item) (hmain : s.main = .joining)
      (hcollector : s.collector = .finished) :
      Step work limit s { s with main := .returned s.collected }

/-- The states of all runs. -/
def Reachable (work : Task → List Item) (limit : ℕ) (tasks : List Task) :
    State Task Item → Prop :=
  Relation.ReflTransGen (Step work limit) (start tasks)

variable {work : Task → List Item} {limit : ℕ} {tasks : List Task} {s s' : State Task Item}

theorem Reachable.invariant {I : State Task Item → Prop} (h : Reachable work limit tasks s)
    (hstart : I (start tasks)) (hstep : ∀ s s', I s → Step work limit s s' → I s') : I s := by
  induction h with
  | refl => exact hstart
  | tail _ hnext ih => exact hstep _ _ ih hnext

/-! ## Nothing is lost -/

/-- What a worker still has to send. -/
def Worker.owed (work : Task → List Item) : Worker Task Item → List Item
  | .working task => work task
  | .sending batch => batch
  | _ => []

def Collector.held : Collector Item → List Item
  | .holding batch => batch
  | _ => []

def Main.waiting : Main Task Item → List Task
  | .starting tasks => tasks
  | _ => []

def State.items (work : Task → List Item) (s : State Task Item) : List Item :=
  s.collected ++ s.collector.held ++ s.workers.flatMap (Worker.owed work) ++
    s.main.waiting.flatMap work

/-- Every item is in exactly one place. -/
theorem items_step (hstep : Step work limit s s') :
    (s'.items work).Perm (s.items work) := by
  cases hstep with
  | spawn task tasks hmain hslots =>
      simp [State.items, hmain, Main.waiting, Worker.owed]
  | work before after task hworkers =>
      simp [State.items, hworkers, Worker.owed]
  | send before after batch hworkers hopen hcollector =>
      have hswap : (batch ++ before.flatMap (Worker.owed work)).Perm
          (before.flatMap (Worker.owed work) ++ batch) := List.perm_append_comm
      have hrest := (hswap.append_right (after.flatMap (Worker.owed work) ++
        s.main.waiting.flatMap work)).append_left s.collected
      simpa [State.items, hworkers, hcollector, Worker.owed, Collector.held] using hrest
  | sendClosed before after batch hworkers hclosed hpanicked => exact List.Perm.refl _
  | release before after hworkers => simp [State.items, hworkers, Worker.owed]
  | leave before after hworkers => simp [State.items, hworkers, Worker.owed]
  | collect batch hcollector => simp [State.items, hcollector, Collector.held]
  | finish hcollector hclosed => simp [State.items, hcollector, Collector.held]
  | wait hmain hworkers => simp [State.items, hmain, Main.waiting]
  | close hmain => simp [State.items, hmain, Main.waiting]
  | join hmain hcollector => simp [State.items, hmain, Main.waiting]

/-! ## The two wait points -/

/-- Where the main routine stands, against the channel and the collector. -/
structure Synchronised (limit : ℕ) (s : State Task Item) : Prop where
  slots : s.slots ≤ limit
  notPanicked : s.panicked = false
  closed : s.closed = true ↔ s.main = .joining ∨ ∃ result, s.main = .returned result
  workers : (∀ tasks, s.main ≠ .starting tasks) → s.workers = []
  finished : s.collector = .finished → s.closed = true
  returned : ∀ result, s.main = .returned result →
    s.collector = .finished ∧ s.collected = result

theorem synchronised_start : Synchronised limit (start tasks : State Task Item) where
  slots := Nat.zero_le _
  notPanicked := rfl
  closed := by simp [start]
  workers _ := rfl
  finished := by simp [start]
  returned := by simp [start]

/-- While the main routine starts workers, the channel is open. -/
theorem Synchronised.open_of_starting (hs : Synchronised limit s)
    (hmain : s.main = .starting tasks) : s.closed = false ∧ s.collector ≠ .finished := by
  have hopen : s.closed ≠ true := by
    rw [ne_eq, hs.closed, hmain]
    simp
  exact ⟨Bool.eq_false_iff.mpr hopen, fun hfinished => hopen (hs.finished hfinished)⟩

theorem synchronised_of_starting (hmain : s.main = .starting tasks) (hslots : s.slots ≤ limit)
    (hpanicked : s.panicked = false) (hopen : s.closed = false)
    (hcollector : s.collector ≠ .finished) : Synchronised limit s where
  slots := hslots
  notPanicked := hpanicked
  closed := by simp [hopen, hmain]
  workers hnot := absurd hmain (hnot tasks)
  finished hfinished := absurd hfinished hcollector
  returned result hreturned := by
    rw [hmain] at hreturned
    cases hreturned

/-- While there are workers, the main routine is still starting or waiting for them. -/
theorem Synchronised.starting_of_worker (hs : Synchronised limit s)
    {before after : List (Worker Task Item)} {worker : Worker Task Item}
    (hworkers : s.workers = before ++ worker :: after) :
    ∃ tasks, s.main = .starting tasks := by
  by_contra hnot
  have hnone := hs.workers fun tasks hmain => hnot ⟨tasks, hmain⟩
  rw [hnone] at hworkers
  simp at hworkers

/-- A step that only replaces a worker, or a worker and the state of the collector. -/
theorem Synchronised.replace (hs : Synchronised limit s)
    {before after workers : List (Worker Task Item)} {worker : Worker Task Item}
    {collector : Collector Item} (hworkers : s.workers = before ++ worker :: after)
    (hslots : workers.countP Worker.inSlot ≤ s.slots)
    (hcollector : s.collector ≠ .finished → collector ≠ .finished) :
    Synchronised limit { s with workers, collector } := by
  obtain ⟨tasks, hmain⟩ := hs.starting_of_worker hworkers
  obtain ⟨hopen, hnotFinished⟩ := hs.open_of_starting hmain
  exact synchronised_of_starting hmain (Nat.le_trans hslots hs.slots) hs.notPanicked hopen
    (hcollector hnotFinished)

theorem synchronised_step (hs : Synchronised limit s) (hstep : Step work limit s s') :
    Synchronised limit s' := by
  cases hstep with
  | spawn task tasks hmain hfree =>
      obtain ⟨hopen, hnotFinished⟩ := hs.open_of_starting hmain
      refine synchronised_of_starting rfl ?_ hs.notPanicked hopen hnotFinished
      have hcount : s.workers.countP Worker.inSlot < limit := hfree
      simp only [State.slots, List.countP_append, List.countP_singleton, Worker.inSlot, if_true]
      omega
  | work before after task hworkers =>
      refine hs.replace hworkers ?_ id
      simp [State.slots, hworkers, List.countP_cons, Worker.inSlot]
  | send before after batch hworkers hopen hcollector =>
      refine hs.replace hworkers ?_ fun _ hfinished => by cases hfinished
      simp [State.slots, hworkers, List.countP_cons, Worker.inSlot]
  | sendClosed before after batch hworkers hclosed hpanicked =>
      obtain ⟨tasks, hmain⟩ := hs.starting_of_worker hworkers
      rw [(hs.open_of_starting hmain).1] at hclosed
      cases hclosed
  | release before after hworkers =>
      refine hs.replace hworkers ?_ id
      simp [State.slots, hworkers, List.countP_cons, Worker.inSlot]
  | leave before after hworkers =>
      refine hs.replace hworkers ?_ id
      simp [State.slots, hworkers, Worker.inSlot]
  | collect batch hcollector =>
      exact { hs with
        finished := fun hfinished => by cases hfinished
        returned := fun result hreturned => by
          have hfinished := (hs.returned result hreturned).1
          rw [hcollector] at hfinished
          cases hfinished }
  | finish hcollector hclosed =>
      exact { hs with
        finished := fun _ => hclosed
        returned := fun result hreturned => ⟨rfl, (hs.returned result hreturned).2⟩ }
  | wait hmain hworkers =>
      obtain ⟨hopen, hnotFinished⟩ := hs.open_of_starting hmain
      exact { hs with
        closed := by simp [hopen]
        workers := fun _ => hworkers
        finished := fun hfinished => absurd hfinished hnotFinished
        returned := fun result hreturned => by cases hreturned }
  | close hmain =>
      exact { hs with
        closed := by simp
        workers := fun _ => hs.workers fun tasks hstarting => by
          rw [hmain] at hstarting
          cases hstarting
        finished := fun _ => rfl
        returned := fun result hreturned => by cases hreturned }
  | join hmain hcollector =>
      exact { hs with
        closed := by simp [hs.closed, hmain]
        workers := fun _ => hs.workers fun tasks hstarting => by
          rw [hmain] at hstarting
          cases hstarting
        returned := fun result hreturned => ⟨hcollector, by cases hreturned; rfl⟩ }

theorem Reachable.synchronised (h : Reachable work limit tasks s) : Synchronised limit s :=
  h.invariant synchronised_start fun _ _ => synchronised_step

/-- What is returned is what the tasks give, each once. -/
theorem Reachable.returned_perm (h : Reachable work limit tasks s) {result : List Item}
    (hreturned : s.main = .returned result) : result.Perm (tasks.flatMap work) := by
  have hitems : (s.items work).Perm (tasks.flatMap work) :=
    h.invariant (I := fun s => (s.items work).Perm (tasks.flatMap work)) (List.Perm.refl _)
      fun _ _ hs hstep => (items_step hstep).trans hs
  have hsync := h.synchronised
  obtain ⟨hcollector, rfl⟩ := hsync.returned result hreturned
  have hworkers : s.workers = [] := hsync.workers fun tasks hmain => by
    rw [hreturned] at hmain
    cases hmain
  simpa [State.items, hcollector, hworkers, hreturned, Collector.held, Main.waiting] using hitems

/-! ## The main routine returns -/

/-- The steps that a worker has before it. -/
def Worker.rank : Worker Task Item → ℕ
  | .working _ => 5
  | .sending _ => 4
  | .returned => 2
  | .leaving => 1

def Collector.rank : Collector Item → ℕ
  | .receiving => 1
  | .holding _ => 2
  | .finished => 0

def Main.rank : Main Task Item → ℕ
  | .starting tasks => 6 * tasks.length + 3
  | .closing => 2
  | .joining => 1
  | .returned _ => 0

def State.rank (s : State Task Item) : ℕ :=
  s.main.rank + (s.workers.map Worker.rank).sum + s.collector.rank + (if s.panicked then 0 else 1)

theorem rank_step (hstep : Step work limit s s') : s'.rank < s.rank := by
  cases hstep with
  | spawn task tasks hmain hslots =>
      simp only [State.rank, Main.rank, hmain, List.map_append, List.sum_append, List.map_cons,
        List.map_nil, List.sum_cons, List.sum_nil, Worker.rank, List.length_cons]
      omega
  | work before after task hworkers =>
      simp only [State.rank, hworkers, List.map_append, List.sum_append, List.map_cons,
        List.sum_cons, Worker.rank]
      omega
  | send before after batch hworkers hopen hcollector =>
      simp only [State.rank, hworkers, hcollector, List.map_append, List.sum_append,
        List.map_cons, List.sum_cons, Worker.rank, Collector.rank]
      omega
  | sendClosed before after batch hworkers hclosed hpanicked =>
      simp [State.rank, hpanicked]
  | release before after hworkers =>
      simp only [State.rank, hworkers, List.map_append, List.sum_append, List.map_cons,
        List.sum_cons, Worker.rank]
      omega
  | leave before after hworkers =>
      simp only [State.rank, hworkers, List.map_append, List.sum_append, List.map_cons,
        List.sum_cons, Worker.rank]
      omega
  | collect batch hcollector =>
      simp only [State.rank, hcollector, Collector.rank]
      omega
  | finish hcollector hclosed =>
      simp only [State.rank, hcollector, Collector.rank]
      omega
  | wait hmain hworkers =>
      simp only [State.rank, hmain, Main.rank]
      omega
  | close hmain =>
      simp only [State.rank, hmain, Main.rank]
      omega
  | join hmain hcollector =>
      simp only [State.rank, hmain, Main.rank]
      omega

/-- A worker in its slot, or the collector, can go on while the channel is open. -/
theorem exists_step_of_worker (hopen : s.closed = false) (hcollector : s.collector ≠ .finished)
    {worker : Worker Task Item} (hmem : worker ∈ s.workers) :
    ∃ s', Step work limit s s' := by
  obtain ⟨before, after, hworkers⟩ := List.append_of_mem hmem
  cases worker with
  | working task => exact ⟨_, .work s before after task hworkers⟩
  | sending batch =>
      cases hstate : s.collector with
      | receiving => exact ⟨_, .send s before after batch hworkers hopen hstate⟩
      | holding held => exact ⟨_, .collect s held hstate⟩
      | finished => exact absurd hstate hcollector
  | returned => exact ⟨_, .release s before after hworkers⟩
  | leaving => exact ⟨_, .leave s before after hworkers⟩

/-- Until the main routine has returned there is always a step. -/
theorem exists_step (hlimit : 0 < limit) (hs : Synchronised limit s)
    (hnot : ∀ result, s.main ≠ .returned result) : ∃ s', Step work limit s s' := by
  cases hmain : s.main with
  | starting tasks =>
      obtain ⟨hopen, hcollector⟩ := hs.open_of_starting hmain
      cases hworkers : s.workers with
      | cons worker rest =>
          exact exists_step_of_worker hopen hcollector (hworkers ▸ List.mem_cons_self ..)
      | nil =>
          cases tasks with
          | nil => exact ⟨_, .wait s hmain hworkers⟩
          | cons task tasks =>
              have hslots : s.slots < limit := by simpa [State.slots, hworkers] using hlimit
              exact ⟨_, .spawn s task tasks hmain hslots⟩
  | closing => exact ⟨_, .close s hmain⟩
  | joining =>
      have hclosed : s.closed = true := hs.closed.mpr (.inl hmain)
      cases hcollector : s.collector with
      | receiving => exact ⟨_, .finish s hcollector hclosed⟩
      | holding batch => exact ⟨_, .collect s batch hcollector⟩
      | finished => exact ⟨_, .join s hmain hcollector⟩
  | returned result => exact absurd hmain (hnot result)

/-- No run goes on for ever. -/
theorem no_infinite_run (states : ℕ → State Task Item)
    (hsteps : ∀ n, Step work limit (states n) (states (n + 1))) : False := by
  have hrank (n : ℕ) : (states n).rank + n ≤ (states 0).rank := by
    induction n with
    | zero => exact Nat.le_refl _
    | succ n ih =>
        have hnext := rank_step (hsteps n)
        omega
  have hlast := hrank ((states 0).rank + 1)
  omega

end Iec61850.Gather
