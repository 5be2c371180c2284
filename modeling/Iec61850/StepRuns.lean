/-!
# Runs of a step function

A step takes an action in a state where the action is possible.  A property
that holds at the start and is kept by every allowed step holds in every state
that runs of allowed steps come to.
-/

namespace Iec61850.Transition

variable {State Action : Type}

/-- The steps for these actions, one after the other. -/
def run (step : State → Action → Option State) : State → List Action → Option State
  | s, [] => some s
  | s, a :: rest => (step s a).bind fun s' => run step s' rest

/-- The states that are reached by steps which are all allowed. -/
inductive Reaches (step : State → Action → Option State) (allowed : State → Action → Prop)
    (start : State) : State → Prop
  | start : Reaches step allowed start start
  | next {s s' : State} {a : Action} (hreaches : Reaches step allowed start s)
      (hallowed : allowed s a) (hstep : step s a = some s') : Reaches step allowed start s'

/-- The states of all runs. -/
def Reachable (step : State → Action → Option State) (start : State) : State → Prop :=
  Reaches step (fun _ _ => True) start

variable {step : State → Action → Option State} {allowed : State → Action → Prop}
  {start s s' : State}

theorem Reaches.invariant {I : State → Prop} (h : Reaches step allowed start s)
    (hstart : I start)
    (hstep : ∀ s a s', I s → allowed s a → step s a = some s' → I s') : I s := by
  induction h with
  | start => exact hstart
  | next _ hallowed hnext ih => exact hstep _ _ _ ih hallowed hnext

theorem Reachable.invariant {I : State → Prop} (h : Reachable step start s)
    (hstart : I start) (hstep : ∀ s a s', I s → step s a = some s' → I s') : I s :=
  Reaches.invariant h hstart fun s a s' hs _ => hstep s a s' hs

theorem Reaches.mono {allowed' : State → Action → Prop} (h : Reaches step allowed start s)
    (hallowed : ∀ s a, allowed s a → allowed' s a) : Reaches step allowed' start s := by
  induction h with
  | start => exact .start
  | next _ hstep hnext ih => exact .next ih (hallowed _ _ hstep) hnext

theorem Reaches.reachable (h : Reaches step allowed start s) : Reachable step start s := by
  induction h with
  | start => exact .start
  | next _ _ hnext ih => exact .next ih trivial hnext

/-- Every step of the run is allowed where it is taken. -/
def AllAllowed (step : State → Action → Option State) (allowed : State → Action → Prop) :
    State → List Action → Prop
  | _, [] => True
  | s, a :: rest => allowed s a ∧ ∀ s', step s a = some s' → AllAllowed step allowed s' rest

theorem allAllowed_of_forall {actions : List Action}
    (hallowed : ∀ a ∈ actions, ∀ s, allowed s a) (s : State) :
    AllAllowed step allowed s actions := by
  induction actions generalizing s with
  | nil => trivial
  | cons a rest ih =>
      obtain ⟨hfirst, hrest⟩ := List.forall_mem_cons.mp hallowed
      exact ⟨hfirst s, fun s' _ => ih hrest s'⟩

theorem AllAllowed.cons {a : Action} {rest : List Action} (hallowed : allowed s a)
    (hstep : step s a = some s') (hrest : AllAllowed step allowed s' rest) :
    AllAllowed step allowed s (a :: rest) := by
  refine ⟨hallowed, fun next hnext => ?_⟩
  rw [hstep] at hnext
  obtain rfl := Option.some.inj hnext
  exact hrest

theorem AllAllowed.append {actions later : List Action} (h : AllAllowed step allowed s actions)
    (hlater : ∀ s', run step s actions = some s' → AllAllowed step allowed s' later) :
    AllAllowed step allowed s (actions ++ later) := by
  induction actions generalizing s with
  | nil => exact hlater s rfl
  | cons a rest ih =>
      refine ⟨h.1, fun next hnext => ih (h.2 next hnext) fun s' hrun => hlater s' ?_⟩
      rw [Transition.run, hnext]
      exact hrun

theorem Reaches.run (h : Reaches step allowed start s) (actions : List Action)
    (hallowed : AllAllowed step allowed s actions)
    (hrun : run step s actions = some s') : Reaches step allowed start s' := by
  induction actions generalizing s with
  | nil =>
      obtain rfl := Option.some.inj hrun
      exact h
  | cons a rest ih =>
      obtain ⟨next, hnext, hrest⟩ := Option.bind_eq_some_iff.mp hrun
      exact ih (.next h hallowed.1 hnext) (hallowed.2 next hnext) hrest

theorem Reachable.run (h : Reachable step start s) (actions : List Action)
    (hrun : run step s actions = some s') : Reachable step start s' := by
  induction actions generalizing s with
  | nil =>
      obtain rfl := Option.some.inj hrun
      exact h
  | cons a rest ih =>
      obtain ⟨next, hnext, hrest⟩ := Option.bind_eq_some_iff.mp hrun
      exact ih (.next h trivial hnext) hrest

/-! ## Recorded states -/

section

variable {R Q : State → State → Prop} {last final : State} {states later : List State}

/-- From the first state through the recorded ones to the last. -/
inductive Passes (R : State → State → Prop) : State → List State → State → Prop
  | done (s : State) : Passes R s [] s
  | step {s next last : State} {states : List State} (hstep : R s next)
      (hrest : Passes R next states last) : Passes R s (next :: states) last

theorem Passes.append (h : Passes R s states last) (hlater : Passes R last later final) :
    Passes R s (states ++ later) final := by
  induction h with
  | done => exact hlater
  | step hstep _ ih => exact .step hstep (ih hlater)

theorem Passes.mono (h : Passes R s states last) (himp : ∀ s s', R s s' → Q s s') :
    Passes Q s states last := by
  induction h with
  | done => exact .done _
  | step hstep _ ih => exact .step (himp _ _ hstep) ih

theorem Passes.last_mem (h : Passes R s states last) : last ∈ s :: states := by
  induction h with
  | done => exact List.mem_cons_self
  | step _ _ ih => exact List.mem_cons_of_mem _ ih

/-- What every step may do, the run may do. -/
theorem Passes.rel (h : Passes R s states last) (hrefl : ∀ s, R s s)
    (htrans : ∀ s s' s'', R s s' → R s' s'' → R s s'') : R s last := by
  induction h with
  | done => exact hrefl _
  | step hstep _ ih => exact htrans _ _ _ hstep ih

end

end Iec61850.Transition
