import Iec61850.HandleStore
import Iec61850.StepRuns
import Mathlib.Algebra.Order.Group.Multiset
import Mathlib.Data.Multiset.Range

/-!
# Calls of a library that gives things out

A function makes calls, each with what the library answers.  Things are made, used through
their number and released under the kind they were made as.  Functions whose calls stay
within what they hold can run side by side: nothing is misused, and what is there is what
the running functions hold and what the finished ones have left.
-/

namespace Iec61850.Handles

variable {Value : Type}

/-! ## What is there -/

namespace Store

/-- The things that are there, with their numbers. -/
def live (s : Store Value) : Multiset (ℕ × Value) :=
  (Multiset.range (s.made + 1)).filterMap fun n => (s.contents n).map fun value => (n, value)

/-- Releases a thing of this kind; under another kind that is a misuse. -/
def releaseAs [DecidableEq Value] (s : Store Value) (n : ℕ) (value : Value) : Store Value :=
  { s.release n with misused := s.misused || decide (s.contents n ≠ some value) }

/-- Nothing has been misused or released twice. -/
structure Tidy (s : Store Value) : Prop where
  fresh : s.Fresh
  once : ∀ n, s.releases n ≤ 1
  unreleased : ∀ n, s.contents n ≠ none → s.releases n = 0
  unmisused : s.misused = false

theorem tidy_empty : ({} : Store Value).Tidy where
  fresh := fresh_empty
  once := fun _ => Nat.zero_le 1
  unreleased := fun _ _ => rfl
  unmisused := rfl

variable {s : Store Value} {n : ℕ} {value : Value}

@[simp] theorem live_empty : ({} : Store Value).live = 0 := by
  unfold live
  apply Multiset.eq_zero_of_forall_notMem
  intro a ha
  obtain ⟨n, -, hn⟩ := (Multiset.mem_filterMap _ _).mp ha
  cases hn

theorem mem_live : (n, value) ∈ s.live ↔ n ≤ s.made ∧ s.contents n = some value := by
  unfold live
  rw [Multiset.mem_filterMap]
  constructor
  · rintro ⟨m, hm, hcontents⟩
    obtain ⟨value', hvalue', hpair⟩ := Option.map_eq_some_iff.mp hcontents
    obtain ⟨rfl, rfl⟩ := Prod.mk.inj hpair
    exact ⟨Nat.lt_succ_iff.mp (Multiset.mem_range.mp hm), hvalue'⟩
  · rintro ⟨hn, hcontents⟩
    exact ⟨n, Multiset.mem_range.mpr (Nat.lt_succ_of_le hn), by rw [hcontents]; rfl⟩

theorem nodup_live (s : Store Value) : s.live.Nodup := by
  apply (Multiset.nodup_range _).filterMap
  intro m m' pair hm hm'
  obtain ⟨_, -, rfl⟩ := Option.map_eq_some_iff.mp hm
  obtain ⟨_, -, hpair⟩ := Option.map_eq_some_iff.mp hm'
  exact (Prod.mk.inj hpair).1.symm

theorem live_make (hfresh : s.Fresh) (value : Value) :
    (s.make value).live = (s.next, value) ::ₘ s.live := by
  have hnew : (s.next, value) ∉ s.live := by
    intro hmem
    have hmade := (mem_live.mp hmem).1
    simp only [next] at hmade
    omega
  apply (Multiset.Nodup.ext (nodup_live _) (Multiset.nodup_cons.mpr ⟨hnew, nodup_live s⟩)).mpr
  rintro ⟨n, value'⟩
  rw [Multiset.mem_cons, mem_live, mem_live]
  by_cases hnext : n = s.next
  · rw [hnext]
    have hout : s.contents s.next = none := (hfresh s.next (Nat.lt_succ_self _)).1
    simp [make, hout, eq_comm]
  · have hmade : n ≤ s.next ↔ n ≤ s.made := by
      simp only [next] at hnext ⊢
      omega
    simp [make, hnext, hmade]

theorem live_releaseAs [DecidableEq Value] (hthere : (n, value) ∈ s.live) :
    s.live = (n, value) ::ₘ (s.releaseAs n value).live := by
  have hgone : (n, value) ∉ (s.releaseAs n value).live := by
    intro hmem
    have hcontents := (mem_live.mp hmem).2
    simp [releaseAs, release] at hcontents
  apply (Multiset.Nodup.ext (nodup_live s) (Multiset.nodup_cons.mpr ⟨hgone, nodup_live _⟩)).mpr
  rintro ⟨m, value'⟩
  rw [Multiset.mem_cons, mem_live, mem_live]
  by_cases hsame : m = n
  · obtain ⟨hmade, hcontents⟩ := mem_live.mp hthere
    rw [hsame]
    simp [releaseAs, release, hcontents, hmade, eq_comm]
  · simp [releaseAs, release, hsame]

theorem use_eq_of_mem (hthere : (n, value) ∈ s.live) : s.use n = s := by
  obtain ⟨-, hcontents⟩ := mem_live.mp hthere
  obtain ⟨made, contents, releases, misused⟩ := s
  simp only at hcontents
  simp [use, hcontents]

theorem Tidy.make (h : s.Tidy) (value : Value) : (s.make value).Tidy where
  fresh := h.fresh.make value
  once := h.once
  unreleased := by
    intro n hn
    by_cases hnext : n = s.next
    · rw [hnext]
      exact (h.fresh s.next (Nat.lt_succ_self _)).2
    · simp only [Store.make, Function.update_of_ne hnext] at hn
      exact h.unreleased n hn
  unmisused := h.unmisused

theorem Tidy.releaseAs [DecidableEq Value] (h : s.Tidy) (hthere : (n, value) ∈ s.live) :
    (s.releaseAs n value).Tidy := by
  obtain ⟨hmade, hcontents⟩ := mem_live.mp hthere
  have hunreleased := h.unreleased n (by rw [hcontents]; exact Option.some_ne_none value)
  constructor
  · exact h.fresh.release hmade
  · intro m
    by_cases hsame : m = n
    · rw [hsame]
      simp [Store.releaseAs, release, hunreleased]
    · simp only [Store.releaseAs, release, Function.update_of_ne hsame]
      exact h.once m
  · intro m hm
    by_cases hsame : m = n
    · rw [hsame] at hm
      simp [Store.releaseAs, release] at hm
    · simp only [Store.releaseAs, release, Function.update_of_ne hsame] at hm ⊢
      exact h.unreleased m hm
  · simp [Store.releaseAs, hcontents, h.unmisused]

end Store

/-! ## Calls -/

/-- What a function does, up to the numbers and the answers it gets. -/
inductive Calls {Query : Type} (Answer : Query → Type) (Value α : Type) : Type
  | done (a : α)
  /-- The process dies. -/
  | crash
  | call (q : Query) (k : Answer q → Calls Answer Value α)
  | use (n : ℕ) (k : Calls Answer Value α)
  | make (value : Value) (k : ℕ → Calls Answer Value α)
  | release (n : ℕ) (value : Value) (k : Calls Answer Value α)

variable {Query : Type} {Answer : Query → Type} {α β : Type}

namespace Calls

def bind : Calls Answer Value α → (α → Calls Answer Value β) → Calls Answer Value β
  | .done a, f => f a
  | .crash, _ => .crash
  | .call q k, f => .call q fun answer => (k answer).bind f
  | .use n k, f => .use n (k.bind f)
  | .make value k, f => .make value fun n => (k n).bind f
  | .release n value k, f => .release n value (k.bind f)

instance : Monad (Calls Answer Value) where
  pure := .done
  bind := bind

def ask (q : Query) : Calls Answer Value (Answer q) := .call q .done

/-- A call that gets the thing of this number. -/
def touch (n : ℕ) : Calls Answer Value Unit := .use n (.done ())

/-- The calls of the body, and the deferred call that releases the thing. -/
def thenRelease (n : ℕ) (value : Value) (body : Calls Answer Value α) : Calls Answer Value α :=
  body.bind fun a => .release n value (.done a)

/-- A thing for the calls of the body. -/
def withMade (value : Value) (body : ℕ → Calls Answer Value α) : Calls Answer Value α :=
  .make value fun n => thenRelease n value (body n)

def step [DecidableEq Value] (answers : (q : Query) → Answer q) :
    Calls Answer Value α → Store Value → Option (Calls Answer Value α × Store Value)
  | .done _, _ => none
  | .crash, _ => none
  | .call q k, store => some (k (answers q), store)
  | .use n k, store => some (k, store.use n)
  | .make value k, store => some (k store.next, store.make value)
  | .release n value k, store => some (k, store.releaseAs n value)

/-- What a function comes to when it runs alone with these answers; nothing after a crash. -/
def outcome (answers : (q : Query) → Answer q) : Calls Answer Value α → Option α
  | .done a => some a
  | .crash => none
  | .call q k => (k (answers q)).outcome answers
  | .use _ k => k.outcome answers
  | .make _ k => (k 0).outcome answers
  | .release _ _ k => k.outcome answers

section

variable (answers : (q : Query) → Answer q)

@[simp] theorem outcome_pure (a : α) :
    (pure a : Calls Answer Value α).outcome answers = some a := rfl

@[simp] theorem outcome_crash : (crash : Calls Answer Value α).outcome answers = none := rfl

@[simp] theorem outcome_ask (q : Query) :
    (ask q : Calls Answer Value (Answer q)).outcome answers = some (answers q) := rfl

@[simp] theorem outcome_touch (n : ℕ) :
    (touch n : Calls Answer Value Unit).outcome answers = some () := rfl

@[simp] theorem outcome_make (value : Value) (k : ℕ → Calls Answer Value α) :
    (make value k).outcome answers = (k 0).outcome answers := rfl

theorem outcome_bind (calls : Calls Answer Value α) (f : α → Calls Answer Value β) :
    (calls.bind f).outcome answers =
      (calls.outcome answers).bind fun a => (f a).outcome answers := by
  induction calls with
  | done a => rfl
  | crash => rfl
  | call q k ih => exact ih (answers q)
  | use n k ih => exact ih
  | make value k ih => exact ih 0
  | release n value k ih => exact ih

@[simp] theorem outcome_andThen (calls : Calls Answer Value α) (f : α → Calls Answer Value β) :
    (calls >>= f).outcome answers =
      (calls.outcome answers).bind fun a => (f a).outcome answers :=
  outcome_bind answers calls f

@[simp] theorem outcome_thenRelease (n : ℕ) (value : Value) (body : Calls Answer Value α) :
    (thenRelease n value body).outcome answers = body.outcome answers := by
  unfold thenRelease
  rw [outcome_bind]
  exact Option.bind_fun_some (body.outcome answers)

@[simp] theorem outcome_withMade (value : Value) (body : ℕ → Calls Answer Value α) :
    (withMade value body).outcome answers = (body 0).outcome answers :=
  outcome_thenRelease answers 0 value (body 0)

end

end Calls

/-- What the answers of the library are like, and whether functions may crash. -/
structure Terms (Answer : Query → Type) where
  answers : (q : Query) → Answer q → Prop
  crashes : Prop

/-! ## Calls within what is held -/

namespace Calls

/-- With answers that are like this, the calls use and release what is held, and what they
end with satisfies `Q`. -/
inductive Scoped (terms : Terms Answer) (Q : α → Multiset (ℕ × Value) → Prop) :
    Calls Answer Value α → Multiset (ℕ × Value) → Prop
  | done {a : α} {held : Multiset (ℕ × Value)} (hleft : Q a held) : Scoped terms Q (.done a) held
  | crash {held : Multiset (ℕ × Value)} (hcrashes : terms.crashes) : Scoped terms Q .crash held
  | call {q : Query} {k : Answer q → Calls Answer Value α} {held : Multiset (ℕ × Value)}
      (hnext : ∀ answer, terms.answers q answer → Scoped terms Q (k answer) held) :
      Scoped terms Q (.call q k) held
  | use {n : ℕ} {value : Value} {k : Calls Answer Value α} {held : Multiset (ℕ × Value)}
      (hheld : (n, value) ∈ held) (hnext : Scoped terms Q k held) : Scoped terms Q (.use n k) held
  | make {value : Value} {k : ℕ → Calls Answer Value α} {held : Multiset (ℕ × Value)}
      (hnext : ∀ n, Scoped terms Q (k n) ((n, value) ::ₘ held)) :
      Scoped terms Q (.make value k) held
  | release {n : ℕ} {value : Value} {k : Calls Answer Value α} {held : Multiset (ℕ × Value)}
      (hnext : Scoped terms Q k held) : Scoped terms Q (.release n value k) ((n, value) ::ₘ held)

variable {terms : Terms Answer} {P : α → Multiset (ℕ × Value) → Prop}
  {Q : β → Multiset (ℕ × Value) → Prop} {calls : Calls Answer Value α}
  {held : Multiset (ℕ × Value)} {value : Value}

theorem Scoped.bind {f : α → Calls Answer Value β} (h : Scoped terms P calls held)
    (hf : ∀ a left, P a left → Scoped terms Q (f a) left) :
    Scoped terms Q (calls.bind f) held := by
  induction h with
  | done hleft => exact hf _ _ hleft
  | crash hcrashes => exact .crash hcrashes
  | call _ ih => exact .call ih
  | use hheld _ ih => exact .use hheld ih
  | make _ ih => exact .make ih
  | release _ ih => exact .release ih

theorem Scoped.mono {P' : α → Multiset (ℕ × Value) → Prop} (h : Scoped terms P calls held)
    (hweaker : ∀ a left, P a left → P' a left) : Scoped terms P' calls held := by
  induction h with
  | done hleft => exact .done (hweaker _ _ hleft)
  | crash hcrashes => exact .crash hcrashes
  | call _ ih => exact .call ih
  | use hheld _ ih => exact .use hheld ih
  | make _ ih => exact .make ih
  | release _ ih => exact .release ih

theorem Scoped.askThen {q : Query} {f : Answer q → Calls Answer Value β}
    (hf : ∀ answer, terms.answers q answer → Scoped terms Q (f answer) held) :
    Scoped terms Q (Calls.ask q >>= f) held :=
  .call hf

theorem Scoped.touchThen {n : ℕ} {rest : Calls Answer Value β} (hheld : (n, value) ∈ held)
    (hrest : Scoped terms Q rest held) :
    Scoped terms Q (Calls.touch n >>= fun _ => rest) held :=
  .use hheld hrest

theorem Scoped.thenRelease {n : ℕ} {body : Calls Answer Value β}
    (hbody : Scoped terms (fun b left => ∃ rest, left = (n, value) ::ₘ rest ∧ Q b rest) body
      held) : Scoped terms Q (thenRelease n value body) held := by
  apply hbody.bind
  rintro b left ⟨rest, rfl, hrest⟩
  exact .release (.done hrest)

theorem Scoped.withMade {body : ℕ → Calls Answer Value β}
    (hbody : ∀ n, Scoped terms (fun b left => ∃ rest, left = (n, value) ::ₘ rest ∧ Q b rest)
      (body n) ((n, value) ::ₘ held)) : Scoped terms Q (withMade value body) held :=
  .make fun n => .thenRelease (hbody n)

/-- In the end the calls hold what they held before and, beyond that, what `P` says. -/
def Leaves (terms : Terms Answer) (P : α → Multiset (ℕ × Value) → Prop)
    (calls : Calls Answer Value α) (held : Multiset (ℕ × Value)) : Prop :=
  Scoped terms (fun a left => ∃ extra, left = extra + held ∧ P a extra) calls held

theorem Leaves.pure {a : α} (hnothing : P a 0) :
    Leaves terms P (pure a : Calls Answer Value α) held :=
  .done ⟨0, (zero_add held).symm, hnothing⟩

theorem Leaves.make {k : ℕ → Calls Answer Value α}
    (hnext : ∀ n, Leaves terms (fun a extra => P a ((n, value) ::ₘ extra)) (k n)
      ((n, value) ::ₘ held)) : Leaves terms P (.make value k) held := by
  apply Scoped.make
  intro n
  apply (hnext n).mono
  rintro a left ⟨extra, rfl, hextra⟩
  refine ⟨(n, value) ::ₘ extra, ?_, hextra⟩
  rw [Multiset.add_cons, Multiset.cons_add]

theorem Leaves.withMade {body : ℕ → Calls Answer Value α}
    (hbody : ∀ n, Leaves terms P (body n) ((n, value) ::ₘ held)) :
    Leaves terms P (Calls.withMade value body) held := by
  apply Scoped.withMade
  intro n
  apply (hbody n).mono
  rintro a left ⟨extra, rfl, hextra⟩
  exact ⟨extra + held, Multiset.add_cons _ _ _, extra, rfl, hextra⟩

theorem Leaves.scoped (h : Leaves terms P calls 0) : Scoped terms P calls 0 := by
  apply h.mono
  rintro a left ⟨extra, rfl, hextra⟩
  rw [add_zero]
  exact hextra

/-- In the end the calls hold what they held before. -/
def Keeps (terms : Terms Answer) (calls : Calls Answer Value α) (held : Multiset (ℕ × Value)) :
    Prop :=
  Scoped terms (fun _ left => left = held) calls held

theorem Keeps.pure (a : α) : Keeps terms (pure a : Calls Answer Value α) held := .done rfl

theorem Keeps.ask (q : Query) : Keeps terms (Calls.ask q : Calls Answer Value (Answer q)) held :=
  .call fun _ _ => .done rfl

/-- What comes after is judged by what was held before. -/
theorem Keeps.andThen {f : α → Calls Answer Value β} (h : Keeps terms calls held)
    (hf : ∀ a, Scoped terms Q (f a) held) : Scoped terms Q (calls >>= f) held := by
  apply Scoped.bind h
  rintro a left rfl
  exact hf a

theorem Keeps.map {f : α → β} (h : Keeps terms calls held) :
    Keeps terms (do let a ← calls; return f a) held :=
  h.andThen fun _ => Keeps.pure _

theorem Keeps.leaves (h : Keeps terms calls held) (hnothing : ∀ a, P a 0) :
    Leaves terms P calls held := by
  apply h.mono
  rintro a left rfl
  exact ⟨0, (zero_add left).symm, hnothing a⟩

theorem Keeps.thenRelease {n : ℕ} (h : Keeps terms calls ((n, value) ::ₘ held)) :
    Scoped terms (fun _ left => left = held) (Calls.thenRelease n value calls)
      ((n, value) ::ₘ held) := by
  apply Scoped.thenRelease
  apply h.mono
  rintro a left rfl
  exact ⟨held, rfl, rfl⟩

theorem Keeps.withMade {body : ℕ → Calls Answer Value α}
    (hbody : ∀ n, Keeps terms (body n) ((n, value) ::ₘ held)) :
    Keeps terms (Calls.withMade value body) held :=
  .make fun n => (hbody n).thenRelease

end Calls

/-! ## What is left of a list -/

section Without

variable {γ : Type}

/-- The elements of the list but those at these places. -/
def without (l : List γ) (places : List ℕ) : Multiset γ :=
  ((Multiset.range l.length).filter (· ∉ places)).filterMap fun i => l[i]?

theorem without_nil (l : List γ) : without l [] = l := by
  have hall : (List.range l.length).filterMap (fun i => l[i]?) = l := by
    induction l with
    | nil => rfl
    | cons x xs ih =>
        have hfirst : (fun i => (x :: xs)[i]?) 0 = some x := rfl
        rw [List.length_cons, List.range_succ_eq_map, List.filterMap_cons_some hfirst,
          List.filterMap_map]
        exact congrArg (x :: ·) ih
  unfold without
  rw [Multiset.filter_eq_self.mpr fun i _ => List.not_mem_nil, ← Multiset.coe_range,
    Multiset.filterMap_coe, hall]

/-- One more is taken. -/
theorem without_cons {l : List γ} {places : List ℕ} {i : ℕ} {x : γ} (hplace : l[i]? = some x)
    (hnew : i ∉ places) : without l places = x ::ₘ without l (i :: places) := by
  have hmem : i ∈ (Multiset.range l.length).filter (· ∉ places) := by
    obtain ⟨hi, -⟩ := List.getElem?_eq_some_iff.mp hplace
    exact Multiset.mem_filter.mpr ⟨Multiset.mem_range.mpr hi, hnew⟩
  have herase : (Multiset.range l.length).filter (· ∉ i :: places) =
      ((Multiset.range l.length).filter (· ∉ places)).erase i := by
    rw [((Multiset.nodup_range _).filter _).erase_eq_filter, Multiset.filter_filter]
    apply Multiset.filter_congr
    intro j _
    rw [List.mem_cons, not_or]
  unfold without
  rw [herase, ← Multiset.filterMap_cons_some (fun i => l[i]?) i _ hplace,
    Multiset.cons_erase hmem]

theorem mem_of_mem_without {l : List γ} {places : List ℕ} {x : γ} (hx : x ∈ without l places) :
    x ∈ l := by
  obtain ⟨i, -, hi⟩ := (Multiset.mem_filterMap _ _).mp hx
  exact List.mem_of_getElem? hi

end Without

/-! ## Shares -/

section Shares

variable {γ δ : Type}

/-- Each of the list has a share of its own, and the shares are all there is. -/
inductive Shares (R : γ → Multiset δ → Prop) : List γ → Multiset δ → Prop
  | nil : Shares R [] 0
  | cons {x : γ} {xs : List γ} {own rest : Multiset δ} (hown : R x own)
      (hrest : Shares R xs rest) : Shares R (x :: xs) (own + rest)

variable {R : γ → Multiset δ → Prop} {xs : List γ} {all : Multiset δ}

theorem Shares.at (h : Shares R xs all) {i : ℕ} {x : γ} (hx : xs[i]? = some x) :
    ∃ own rest, R x own ∧ all = own + rest ∧ Shares R (xs.eraseIdx i) rest ∧
      ∀ x' own', R x' own' → Shares R (xs.set i x') (own' + rest) := by
  induction h generalizing i with
  | nil => cases hx
  | @cons first others own rest hown hrest ih =>
      cases i with
      | zero =>
          obtain rfl := Option.some.inj hx
          exact ⟨own, rest, hown, rfl, hrest, fun x' own' hown' => .cons hown' hrest⟩
      | succ i =>
          obtain ⟨own', rest', hown', rfl, herase, hset⟩ := ih hx
          refine ⟨own', own + rest', hown', add_left_comm own own' rest', .cons hown herase, ?_⟩
          intro x'' own'' hown''
          rw [add_left_comm]
          exact .cons hown (hset x'' own'' hown'')

end Shares

/-! ## Functions side by side -/

variable {Request : Type} {Result : Request → Type}

/-- The running functions with the calls they have left, and the finished ones with what
they have returned. -/
structure CallSystem (Answer : Query → Type) (Value : Type) (Result : Request → Type) where
  store : Store Value := {}
  running : List ((r : Request) × Calls Answer Value (Result r)) := []
  finished : List ((r : Request) × Result r) := []

inductive CallAction (Request : Type) {Query : Type} (Answer : Query → Type)
  | start (r : Request)
  /-- The function at this place goes on, with these answers. -/
  | advance (i : ℕ) (answers : (q : Query) → Answer q)

namespace CallSystem

variable [DecidableEq Value]

def advance (s : CallSystem Answer Value Result) (i : ℕ) (answers : (q : Query) → Answer q) :
    ((r : Request) × Calls Answer Value (Result r)) → Option (CallSystem Answer Value Result)
  | ⟨r, .done result⟩ => some { s with
      running := s.running.eraseIdx i
      finished := ⟨r, result⟩ :: s.finished }
  | ⟨r, calls⟩ => (calls.step answers s.store).map fun next => { s with
      store := next.2
      running := s.running.set i ⟨r, next.1⟩ }

def step (program : (r : Request) → Calls Answer Value (Result r))
    (s : CallSystem Answer Value Result) :
    CallAction Request Answer → Option (CallSystem Answer Value Result)
  | .start r => some { s with running := ⟨r, program r⟩ :: s.running }
  | .advance i answers => s.running[i]?.bind (s.advance i answers)

/-- The functions that are started satisfy `Starts`, and the answers are as agreed. -/
def Allowed (terms : Terms Answer) (Starts : Request → Prop)
    (_ : CallSystem Answer Value Result) : CallAction Request Answer → Prop
  | .start r => Starts r
  | .advance _ answers => ∀ q, terms.answers q (answers q)

/-- What is there is what the running functions hold and what the finished ones have left. -/
structure Ledger (terms : Terms Answer)
    (leaves : (r : Request) → Result r → Multiset (ℕ × Value) → Prop)
    (s : CallSystem Answer Value Result) : Prop where
  tidy : s.store.Tidy
  account : ∃ held left, s.store.live = held + left ∧
    Shares (fun thread own => Calls.Scoped terms (leaves thread.1) thread.2 own) s.running held ∧
    Shares (fun done own => leaves done.1 done.2 own) s.finished left

variable {terms : Terms Answer} {leaves : (r : Request) → Result r → Multiset (ℕ × Value) → Prop}
  {program : (r : Request) → Calls Answer Value (Result r)} {Starts : Request → Prop}
  {s s' : CallSystem Answer Value Result}

omit [DecidableEq Value] in
theorem ledger_empty : Ledger terms leaves ({} : CallSystem Answer Value Result) where
  tidy := Store.tidy_empty
  account := ⟨0, 0, Store.live_empty, .nil, .nil⟩

/-- One call of a function that holds its share of what is there. -/
theorem step_scoped {answers : (q : Query) → Answer q} {Q : α → Multiset (ℕ × Value) → Prop}
    {calls calls' : Calls Answer Value α} {store store' : Store Value}
    {own others : Multiset (ℕ × Value)} (hanswers : ∀ q, terms.answers q (answers q))
    (htidy : store.Tidy) (hlive : store.live = own + others)
    (hscoped : Calls.Scoped terms Q calls own)
    (hstep : calls.step answers store = some (calls', store')) :
    store'.Tidy ∧ ∃ own', Calls.Scoped terms Q calls' own' ∧ store'.live = own' + others := by
  cases hscoped with
  | done hleft => cases hstep
  | crash hcrashes => cases hstep
  | call hnext =>
      obtain ⟨rfl, rfl⟩ := Prod.mk.inj (Option.some.inj hstep)
      exact ⟨htidy, own, hnext _ (hanswers _), hlive⟩
  | use hheld hnext =>
      obtain ⟨rfl, rfl⟩ := Prod.mk.inj (Option.some.inj hstep)
      have hthere : (_, _) ∈ store.live := hlive ▸ Multiset.mem_add.mpr (Or.inl hheld)
      rw [Store.use_eq_of_mem hthere]
      exact ⟨htidy, own, hnext, hlive⟩
  | @make value k _ hnext =>
      obtain ⟨rfl, rfl⟩ := Prod.mk.inj (Option.some.inj hstep)
      refine ⟨htidy.make value, _, hnext store.next, ?_⟩
      rw [Store.live_make htidy.fresh, hlive, Multiset.cons_add]
  | @release n value k own' hnext =>
      obtain ⟨rfl, rfl⟩ := Prod.mk.inj (Option.some.inj hstep)
      have hthere : (n, value) ∈ store.live := by
        rw [hlive, Multiset.cons_add]
        exact Multiset.mem_cons_self _ _
      refine ⟨htidy.releaseAs hthere, own', hnext, ?_⟩
      have hboth := (Store.live_releaseAs hthere).symm.trans hlive
      rw [Multiset.cons_add] at hboth
      exact (Multiset.cons_inj_right _).mp hboth

/-- It finishes, or makes one call. -/
theorem advance_cases {i : ℕ} {answers : (q : Query) → Answer q} {r : Request}
    {calls : Calls Answer Value (Result r)} (hstep : s.advance i answers ⟨r, calls⟩ = some s') :
    (∃ result, calls = .done result ∧ s' = { s with
      running := s.running.eraseIdx i
      finished := ⟨r, result⟩ :: s.finished }) ∨
    ∃ calls' store', calls.step answers s.store = some (calls', store') ∧ s' = { s with
      store := store'
      running := s.running.set i ⟨r, calls'⟩ } := by
  by_cases hdone : ∃ result, calls = .done result
  · obtain ⟨result, rfl⟩ := hdone
    exact Or.inl ⟨result, rfl, (Option.some.inj hstep).symm⟩
  · have hmap : s.advance i answers ⟨r, calls⟩ =
        (calls.step answers s.store).map fun next => { s with
          store := next.2
          running := s.running.set i ⟨r, next.1⟩ } := by
      cases calls with
      | done result => exact absurd ⟨result, rfl⟩ hdone
      | _ => rfl
    rw [hmap] at hstep
    obtain ⟨⟨calls', store'⟩, hnext, rfl⟩ := Option.map_eq_some_iff.mp hstep
    exact Or.inr ⟨calls', store', hnext, rfl⟩

theorem ledger_advance (h : Ledger terms leaves s) {i : ℕ} {answers : (q : Query) → Answer q}
    (hanswers : ∀ q, terms.answers q (answers q))
    {thread : (r : Request) × Calls Answer Value (Result r)} (hthread : s.running[i]? = some thread)
    (hstep : s.advance i answers thread = some s') : Ledger terms leaves s' := by
  obtain ⟨held, left, hlive, hrunning, hfinished⟩ := h.account
  obtain ⟨own, rest, hown, rfl, herase, hset⟩ := hrunning.at hthread
  rw [Multiset.add_assoc] at hlive
  obtain ⟨r, calls⟩ := thread
  rcases advance_cases hstep with ⟨result, rfl, rfl⟩ | ⟨calls', store', hnext, rfl⟩
  · cases hown with
    | done hleft =>
        refine ⟨h.tidy, rest, own + left, ?_, herase, .cons hleft hfinished⟩
        rw [hlive, add_left_comm]
  · obtain ⟨htidy, own', hown', hlive'⟩ := step_scoped hanswers h.tidy hlive hown hnext
    refine ⟨htidy, own' + rest, left, ?_, hset ⟨r, calls'⟩ own' hown', hfinished⟩
    rw [hlive', Multiset.add_assoc]

theorem ledger_step (hprogram : ∀ r, Starts r → Calls.Scoped terms (leaves r) (program r) 0)
    (h : Ledger terms leaves s) {action : CallAction Request Answer}
    (hallowed : Allowed terms Starts s action) (hstep : s.step program action = some s') :
    Ledger terms leaves s' := by
  cases action with
  | start r =>
      obtain rfl := Option.some.inj hstep
      obtain ⟨held, left, hlive, hrunning, hfinished⟩ := h.account
      refine ⟨h.tidy, 0 + held, left, ?_, .cons (hprogram r hallowed) hrunning, hfinished⟩
      rw [Multiset.zero_add]
      exact hlive
  | advance i answers =>
      obtain ⟨thread, hthread, hadvance⟩ := Option.bind_eq_some_iff.mp hstep
      exact ledger_advance h hallowed hthread hadvance

/-- Functions whose calls stay within what they hold can run side by side. -/
theorem ledger_of_reaches (hprogram : ∀ r, Starts r → Calls.Scoped terms (leaves r) (program r) 0)
    (hreaches : Transition.Reaches (step program) (Allowed terms Starts) {} s) :
    Ledger terms leaves s :=
  hreaches.invariant ledger_empty fun _ _ _ h hallowed hstep =>
    ledger_step hprogram h hallowed hstep

/-- Where functions do not crash, a running one can always go on. -/
theorem exists_advance (h : Ledger terms leaves s) (hcrashes : ¬ terms.crashes) {i : ℕ}
    (hi : i < s.running.length) (answers : (q : Query) → Answer q) :
    ∃ s', s.step program (.advance i answers) = some s' := by
  obtain ⟨held, left, -, hrunning, -⟩ := h.account
  have hthread := List.getElem?_eq_getElem hi
  obtain ⟨own, rest, hown, -⟩ := hrunning.at hthread
  have hstep : s.step program (.advance i answers) = s.advance i answers s.running[i] := by
    change (s.running[i]?).bind (s.advance i answers) = _
    rw [hthread, Option.bind_some]
  rw [hstep]
  generalize s.running[i] = thread at hown
  obtain ⟨r, calls⟩ := thread
  have hscoped : Calls.Scoped terms (leaves r) calls own := hown
  cases hscoped with
  | crash hcrash => exact absurd hcrash hcrashes
  | _ => exact ⟨_, rfl⟩

end CallSystem

end Iec61850.Handles
