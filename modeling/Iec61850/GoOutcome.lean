import Iec61850.GoText
import Mathlib.Data.List.Forall2
import Mathlib.Logic.Basic

/-!
# Outcomes of Go code

A call either returns a value, returns an error, or panics.  Recursive code
whose termination depends on the input is run with fuel, and `outOfFuel` then
says that the calls made so far have not finished.  The rules below take a
sequence of calls apart; they do not depend on what the calls compute.
-/

namespace Iec61850.Go

inductive Fault
  | nilDereference
  | indexOutOfRange
  | typeAssertion
  deriving DecidableEq, Repr

inductive Stop
  | error (message : Str)
  | panic (fault : Fault)
  | outOfFuel
  deriving DecidableEq, Repr

abbrev Outcome := Except Stop

variable {α β γ : Type}

/-- A value of the model, or a nil dereference where Go finds `nil`. -/
def deref : Option α → Outcome α
  | some a => .ok a
  | none => .error (.panic .nilDereference)

/-- The first element, or an index panic on an empty slice. -/
def first : List α → Outcome α
  | a :: _ => .ok a
  | [] => .error (.panic .indexOutOfRange)

/-- The call comes back to its caller with a value or an error. -/
def Returns (r : Outcome α) : Prop :=
  (∃ a, r = .ok a) ∨ ∃ message, r = .error (.error message)

def Panics (r : Outcome α) : Prop :=
  ∃ fault, r = .error (.panic fault)

/-- The value of a call that yields one. -/
def resultOf : (r : Outcome α) → r.isOk = true → α
  | .ok a, _ => a
  | .error _, h => absurd h (by simp [Except.isOk, Except.toBool])

theorem eq_ok_resultOf : (r : Outcome α) → (h : r.isOk = true) → r = .ok (resultOf r h)
  | .ok _, _ => rfl
  | .error _, h => absurd h (by simp [Except.isOk, Except.toBool])

instance (r : Outcome α) : Decidable (Panics r) :=
  match r with
  | .ok _ => .isFalse (by rintro ⟨_, h⟩; cases h)
  | .error (.error _) => .isFalse (by rintro ⟨_, h⟩; cases h)
  | .error .outOfFuel => .isFalse (by rintro ⟨_, h⟩; cases h)
  | .error (.panic fault) => .isTrue ⟨fault, rfl⟩

@[simp] theorem returns_ok (a : α) : Returns (.ok a : Outcome α) := Or.inl ⟨a, rfl⟩

@[simp] theorem returns_pure (a : α) : Returns (pure a : Outcome α) := Or.inl ⟨a, rfl⟩

@[simp] theorem returns_error (message : Str) :
    Returns (.error (.error message) : Outcome α) := Or.inr ⟨message, rfl⟩

@[simp] theorem not_returns_panic (fault : Fault) :
    ¬ Returns (.error (.panic fault) : Outcome α) := by
  rintro (⟨a, h⟩ | ⟨message, h⟩) <;> cases h

@[simp] theorem not_returns_outOfFuel : ¬ Returns (.error .outOfFuel : Outcome α) := by
  rintro (⟨a, h⟩ | ⟨message, h⟩) <;> cases h

@[simp] theorem not_panics_ok (a : α) : ¬ Panics (.ok a : Outcome α) := by
  rintro ⟨fault, h⟩
  cases h

@[simp] theorem not_panics_pure (a : α) : ¬ Panics (pure a : Outcome α) := not_panics_ok a

@[simp] theorem not_panics_error (message : Str) :
    ¬ Panics (.error (.error message) : Outcome α) := by
  rintro ⟨fault, h⟩
  cases h

@[simp] theorem panics_panic (fault : Fault) :
    Panics (.error (.panic fault) : Outcome α) := ⟨fault, rfl⟩

/-! ## Sequencing -/

@[simp] theorem ok_bind (a : α) (f : α → Outcome β) :
    ((.ok a : Outcome α) >>= f) = f a := rfl

@[simp] theorem error_bind (stop : Stop) (f : α → Outcome β) :
    ((.error stop : Outcome α) >>= f) = .error stop := rfl

theorem bind_eq_ok {x : Outcome α} {f : α → Outcome β} {b : β} :
    (x >>= f) = .ok b ↔ ∃ a, x = .ok a ∧ f a = .ok b := by
  cases x with
  | ok a => simp
  | error stop => simp

/-- A sequence returns when its first call does and, if that call yields a
value, the rest returns on it. -/
theorem returns_bind_iff {x : Outcome α} {f : α → Outcome β} :
    Returns (x >>= f) ↔ Returns x ∧ ∀ a, x = .ok a → Returns (f a) := by
  cases x with
  | ok a => simp
  | error stop => cases stop <;> simp

theorem returns_bind {x : Outcome α} {f : α → Outcome β} (hx : Returns x)
    (hf : ∀ a, x = .ok a → Returns (f a)) : Returns (x >>= f) :=
  returns_bind_iff.mpr ⟨hx, hf⟩

theorem bind_eq_error {x : Outcome α} {f : α → Outcome β} {stop : Stop} :
    (x >>= f) = .error stop ↔
      x = .error stop ∨ ∃ a, x = .ok a ∧ f a = .error stop := by
  cases x with
  | ok a => simp
  | error other => simp

/-! ## Loops -/

theorem mapM_eq_ok {f : α → Outcome β} {xs : List α} {ys : List β} :
    xs.mapM f = .ok ys ↔ List.Forall₂ (fun x y => f x = .ok y) xs ys := by
  induction xs generalizing ys with
  | nil => simp [pure, Except.pure, eq_comm]
  | cons x rest ih =>
      simp only [List.mapM_cons, bind_eq_ok, ih, List.forall₂_cons_left_iff]
      constructor
      · rintro ⟨y, hy, tail, htail, hys⟩
        exact ⟨y, tail, hy, htail, (Except.ok.inj hys).symm⟩
      · rintro ⟨y, tail, hy, htail, rfl⟩
        exact ⟨y, hy, tail, htail, rfl⟩

/-- Two loops, the second over the results of the first. -/
theorem forall₂_of_mapM_mapM {f : α → Outcome β} {g : β → Outcome γ} {xs : List α}
    {ys : List β} {zs : List γ} (hf : xs.mapM f = .ok ys) (hg : ys.mapM g = .ok zs) :
    List.Forall₂ (fun x z => ∃ y, f x = .ok y ∧ g y = .ok z) xs zs := by
  have hfirst := mapM_eq_ok.mp hf
  have hsecond := mapM_eq_ok.mp hg
  clear hf hg
  induction hfirst generalizing zs with
  | nil =>
      cases hsecond
      exact .nil
  | cons hx _ ih =>
      cases hsecond with
      | cons hy hrest => exact .cons ⟨_, hx, hy⟩ (ih hrest)

theorem exists_mapM_ok_iff {f : α → Outcome β} {xs : List α} :
    (∃ ys, xs.mapM f = .ok ys) ↔ ∀ x ∈ xs, ∃ y, f x = .ok y := by
  induction xs with
  | nil => simp [pure, Except.pure]
  | cons x rest ih =>
      simp only [List.mapM_cons, bind_eq_ok, List.forall_mem_cons, ← ih]
      constructor
      · rintro ⟨ys, y, hy, tail, htail, -⟩
        exact ⟨⟨y, hy⟩, tail, htail⟩
      · rintro ⟨⟨y, hy⟩, tail, htail⟩
        exact ⟨y :: tail, y, hy, tail, htail, rfl⟩

theorem exists_of_mapM_ok {f : α → Outcome β} {xs : List α} {ys : List β}
    (h : xs.mapM f = .ok ys) {x : α} (hx : x ∈ xs) : ∃ y ∈ ys, f x = .ok y := by
  have hall := mapM_eq_ok.mp h
  clear h
  induction hall with
  | nil => simp at hx
  | cons hy _ ih =>
      rcases List.mem_cons.mp hx with rfl | hx
      · exact ⟨_, by simp, hy⟩
      · obtain ⟨y, hmem, heq⟩ := ih hx
        exact ⟨y, List.mem_cons_of_mem _ hmem, heq⟩

theorem exists_of_mapM_error {f : α → Outcome β} {xs : List α} {stop : Stop}
    (h : xs.mapM f = .error stop) : ∃ x ∈ xs, f x = .error stop := by
  induction xs with
  | nil => cases h
  | cons x rest ih =>
      rw [List.mapM_cons] at h
      rcases bind_eq_error.mp h with hx | ⟨y, -, hrest⟩
      · exact ⟨x, by simp, hx⟩
      · rcases bind_eq_error.mp hrest with hmapM | ⟨ys, -, hreturn⟩
        · obtain ⟨x', hmem, hx'⟩ := ih hmapM
          exact ⟨x', List.mem_cons_of_mem _ hmem, hx'⟩
        · cases hreturn

theorem exists_mem_of_forall₂ {R : α → β → Prop} {xs : List α} {ys : List β}
    (h : List.Forall₂ R xs ys) {x : α} (hx : x ∈ xs) : ∃ y ∈ ys, R x y := by
  induction h with
  | nil => cases hx
  | cons hfirst _ ih =>
      rcases List.mem_cons.mp hx with rfl | hx
      · exact ⟨_, List.mem_cons_self, hfirst⟩
      · obtain ⟨y, hmem, hy⟩ := ih hx
        exact ⟨y, List.mem_cons_of_mem _ hmem, hy⟩

theorem forall₂_imp_of_mem {R T : α → β → Prop} {xs : List α} {ys : List β}
    (h : List.Forall₂ R xs ys) (himp : ∀ x ∈ xs, ∀ y ∈ ys, R x y → T x y) :
    List.Forall₂ T xs ys := by
  induction h with
  | nil => exact .nil
  | cons hfirst _ ih =>
      refine .cons (himp _ List.mem_cons_self _ List.mem_cons_self hfirst) (ih ?_)
      intro x hx y hy
      exact himp x (List.mem_cons_of_mem _ hx) y (List.mem_cons_of_mem _ hy)

theorem exists_of_mem_mapM_ok {f : α → Outcome β} {xs : List α} {ys : List β}
    (h : xs.mapM f = .ok ys) {y : β} (hy : y ∈ ys) : ∃ x ∈ xs, f x = .ok y :=
  exists_mem_of_forall₂ (mapM_eq_ok.mp h).flip hy

theorem exists_of_foldlM_ok {f : β → α → Outcome β} {xs : List α} {b c : β}
    (h : xs.foldlM f b = .ok c) {x : α} (hx : x ∈ xs) : ∃ b' c', f b' x = .ok c' := by
  induction xs generalizing b with
  | nil => simp at hx
  | cons y rest ih =>
      rw [List.foldlM_cons] at h
      obtain ⟨b', hb', hrest⟩ := bind_eq_ok.mp h
      rcases List.mem_cons.mp hx with rfl | hx
      · exact ⟨b, b', hb'⟩
      · exact ih hrest hx

/-- What every iteration keeps holds of the final accumulator. -/
theorem foldlM_invariant {f : β → α → Outcome β} {P : β → Prop} {xs : List α} {b c : β}
    (h : xs.foldlM f b = .ok c) (hb : P b)
    (hstep : ∀ b' c', ∀ x ∈ xs, P b' → f b' x = .ok c' → P c') : P c := by
  induction xs generalizing b with
  | nil =>
      obtain rfl := Except.ok.inj h
      exact hb
  | cons x rest ih =>
      rw [List.foldlM_cons] at h
      obtain ⟨b', hb', hrest⟩ := bind_eq_ok.mp h
      have hP : P b' := hstep b b' x (by simp) hb hb'
      exact ih hrest hP fun d e y hy => hstep d e y (List.mem_cons_of_mem x hy)

/-- A property of the final accumulator that every iteration makes depend on one
more element. -/
theorem foldlM_iff_forall {f : β → α → Outcome β} {P : β → Prop} {C : α → Prop} {xs : List α}
    {b c : β} (h : xs.foldlM f b = .ok c)
    (hstep : ∀ b' c', ∀ x ∈ xs, f b' x = .ok c' → (P c' ↔ P b' ∧ C x)) :
    P c ↔ P b ∧ ∀ x ∈ xs, C x := by
  induction xs generalizing b with
  | nil =>
      obtain rfl := Except.ok.inj h
      simp
  | cons x rest ih =>
      rw [List.foldlM_cons] at h
      obtain ⟨b', hb', hrest⟩ := bind_eq_ok.mp h
      rw [ih hrest fun d e y hy => hstep d e y (List.mem_cons_of_mem x hy),
        hstep b b' x List.mem_cons_self hb', List.forall_mem_cons, and_assoc]

theorem foldl_iff_forall {f : β → α → β} {P : β → Prop} {C : α → Prop} {xs : List α} {b : β}
    (hstep : ∀ b', ∀ x ∈ xs, P (f b' x) ↔ P b' ∧ C x) :
    P (xs.foldl f b) ↔ P b ∧ ∀ x ∈ xs, C x := by
  induction xs generalizing b with
  | nil => simp
  | cons x rest ih =>
      rw [List.foldl_cons, ih fun b' y hy => hstep b' y (List.mem_cons_of_mem x hy),
        hstep b x List.mem_cons_self, List.forall_mem_cons, and_assoc]

/-- A loop that only appends to a list: what it has appended at the end is what
the iterations have appended, one after the other. -/
theorem foldlM_appends {f : β → α → Outcome β} {g : β → List γ}
    {T : α → List γ → Prop} {xs : List α} {b c : β} (h : xs.foldlM f b = .ok c)
    (hstep : ∀ b' c', ∀ x ∈ xs, f b' x = .ok c' →
      ∃ added, g c' = g b' ++ added ∧ T x added) :
    ∃ addeds : List (List γ), g c = g b ++ addeds.flatten ∧
      List.Forall₂ T xs addeds := by
  induction xs generalizing b with
  | nil =>
      obtain rfl := Except.ok.inj h
      exact ⟨[], by simp, .nil⟩
  | cons x rest ih =>
      rw [List.foldlM_cons] at h
      obtain ⟨b', hb', hrest⟩ := bind_eq_ok.mp h
      obtain ⟨added, hadded, hT⟩ := hstep b b' x (by simp) hb'
      obtain ⟨addeds, haddeds, hall⟩ :=
        ih hrest fun d e y hy => hstep d e y (List.mem_cons_of_mem x hy)
      refine ⟨added :: addeds, ?_, .cons hT hall⟩
      rw [haddeds, hadded, List.flatten_cons, List.append_assoc]

/-! ## Calls that report no errors -/

/-- The call yields a value if the condition holds, and panics otherwise. -/
structure PanicsUnless (p : Prop) (r : Outcome α) : Prop where
  yields : p → ∃ a, r = .ok a
  panics : ¬ p → Panics r

section PanicsUnless

variable {p q : Prop} {r : Outcome α}

theorem PanicsUnless.panic_of_error {stop : Stop} (h : PanicsUnless p r)
    (hr : r = .error stop) : ∃ fault, stop = .panic fault := by
  by_cases hp : p
  · obtain ⟨a, ha⟩ := h.yields hp
    rw [ha] at hr
    cases hr
  · obtain ⟨fault, hfault⟩ := h.panics hp
    exact ⟨fault, by rw [hfault] at hr; exact (Except.error.inj hr).symm⟩

theorem PanicsUnless.congr (h : PanicsUnless p r) (hiff : p ↔ q) :
    PanicsUnless q r := by
  rwa [← propext hiff]

theorem PanicsUnless.of_ok (a : α) : PanicsUnless True (.ok a : Outcome α) :=
  ⟨fun _ => ⟨a, rfl⟩, fun h => absurd trivial h⟩

theorem PanicsUnless.bind {f : α → Outcome β} (hr : PanicsUnless p r)
    (hf : ∀ a, r = .ok a → PanicsUnless q (f a)) :
    PanicsUnless (p ∧ q) (r >>= f) := by
  by_cases hp : p
  · obtain ⟨a, rfl⟩ := hr.yields hp
    exact (hf a rfl).congr (by simp [hp])
  · obtain ⟨fault, rfl⟩ := hr.panics hp
    exact ⟨fun h => absurd h.1 hp, fun _ => panics_panic fault⟩

/-- The call comes first, and what follows it may also report errors. -/
theorem PanicsUnless.returns_bind_iff {f : α → Outcome β} (hr : PanicsUnless p r)
    (hf : ∀ a, r = .ok a → (Returns (f a) ↔ q)) : Returns (r >>= f) ↔ p ∧ q := by
  by_cases hp : p
  · obtain ⟨a, rfl⟩ := hr.yields hp
    rw [ok_bind, hf a rfl]
    exact (and_iff_right hp).symm
  · obtain ⟨fault, rfl⟩ := hr.panics hp
    exact iff_of_false (not_returns_panic fault) fun h => hp h.1

/-- A last step that only packs the result. -/
theorem PanicsUnless.map {g : α → β} (hr : PanicsUnless p r) :
    PanicsUnless p (r >>= fun a => pure (g a)) :=
  (hr.bind fun a _ => PanicsUnless.of_ok (g a)).congr (and_iff_left trivial)

theorem PanicsUnless.mapM {f : α → Outcome β} {p : α → Prop} {xs : List α}
    (hf : ∀ x ∈ xs, PanicsUnless (p x) (f x)) :
    PanicsUnless (∀ x ∈ xs, p x) (xs.mapM f) := by
  induction xs with
  | nil => exact (PanicsUnless.of_ok []).congr (by simp)
  | cons x rest ih =>
      have hrest := ih fun y hy => hf y (List.mem_cons_of_mem x hy)
      rw [List.mapM_cons]
      exact ((hf x (by simp)).bind fun y _ => hrest.map).congr (by simp)

theorem PanicsUnless.foldlM {f : β → α → Outcome β} {p : α → Prop} {xs : List α}
    (hf : ∀ b, ∀ x ∈ xs, PanicsUnless (p x) (f b x)) (b : β) :
    PanicsUnless (∀ x ∈ xs, p x) (xs.foldlM f b) := by
  induction xs generalizing b with
  | nil => exact (PanicsUnless.of_ok b).congr (by simp)
  | cons x rest ih =>
      rw [List.foldlM_cons]
      refine ((hf b x (by simp)).bind fun c _ => ?_).congr List.forall_mem_cons.symm
      exact ih (fun d y hy => hf d y (List.mem_cons_of_mem x hy)) c

theorem panicsUnless_deref (a? : Option α) : PanicsUnless (a?.isSome = true) (deref a?) := by
  cases a? with
  | some a => exact (PanicsUnless.of_ok a).congr (by simp)
  | none => exact ⟨by simp, fun _ => panics_panic _⟩

theorem panicsUnless_first (as : List α) : PanicsUnless (as ≠ []) (first as) := by
  cases as with
  | cons a rest => exact (PanicsUnless.of_ok a).congr (by simp)
  | nil => exact ⟨by simp, fun _ => panics_panic _⟩

end PanicsUnless

end Iec61850.Go
