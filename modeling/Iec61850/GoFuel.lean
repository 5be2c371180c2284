import Iec61850.GoOutcome

/-!
# Fuelled computations

A recursion that may fail to terminate is modelled by a family of outcomes,
one for each amount of fuel.  More fuel never changes an outcome that has been
reached.  For such families the rules of this file reduce "some amount of fuel
suffices" for a sequence or a loop to the same statement about its parts, so
no bound on the fuel has to be computed.
-/

namespace Iec61850.Go

variable {α β γ : Type}

/-- The second outcome completes the first: they agree unless the first has
run out of fuel. -/
def Completes (r r' : Outcome α) : Prop :=
  r ≠ .error .outOfFuel → r' = r

theorem Completes.refl (r : Outcome α) : Completes r r := fun _ => rfl

theorem Completes.trans {r s t : Outcome α} (hrs : Completes r s) (hst : Completes s t) :
    Completes r t := by
  intro hne
  have hs : s = r := hrs hne
  rw [hst (by rwa [hs]), hs]

theorem Completes.bind {x x' : Outcome α} {f f' : α → Outcome β}
    (hx : Completes x x') (hf : ∀ a, Completes (f a) (f' a)) :
    Completes (x >>= f) (x' >>= f') := by
  intro hne
  cases x with
  | ok a =>
      rw [hx (by simp)]
      exact hf a hne
  | error stop => rw [hx (by simpa using hne), error_bind, error_bind]

theorem Completes.mapM {f f' : α → Outcome β} (hf : ∀ x, Completes (f x) (f' x))
    (xs : List α) : Completes (xs.mapM f) (xs.mapM f') := by
  induction xs with
  | nil => exact Completes.refl _
  | cons x rest ih =>
      simp only [List.mapM_cons]
      exact (hf x).bind fun y => ih.bind fun ys => Completes.refl _

theorem Completes.foldlM {f f' : β → α → Outcome β}
    (hf : ∀ b x, Completes (f b x) (f' b x)) (xs : List α) (b : β) :
    Completes (xs.foldlM f b) (xs.foldlM f' b) := by
  induction xs generalizing b with
  | nil => exact Completes.refl _
  | cons x rest ih =>
      simp only [List.foldlM_cons]
      exact (hf b x).bind ih

/-- Once an outcome is reached, more fuel does not change it. -/
def Fuelled (f : ℕ → Outcome α) : Prop :=
  ∀ n m, n ≤ m → Completes (f n) (f m)

theorem Fuelled.of_step {f : ℕ → Outcome α} (h : ∀ n, Completes (f n) (f (n + 1))) :
    Fuelled f := by
  intro n m hle
  induction hle with
  | refl => exact Completes.refl _
  | step _ ih => exact ih.trans (h _)

/-- Some amount of fuel brings the call back to its caller. -/
def Finishes (f : ℕ → Outcome α) : Prop :=
  ∃ n, Returns (f n)

/-- Some amount of fuel yields this value. -/
def Yields (f : ℕ → Outcome α) (a : α) : Prop :=
  ∃ n, f n = .ok a

def Succeeds (f : ℕ → Outcome α) : Prop :=
  ∃ a, Yields f a

theorem Fuelled.const (r : Outcome α) : Fuelled fun _ => r :=
  fun _ _ _ => Completes.refl r

theorem Fuelled.yields_of_le {f : ℕ → Outcome α} (hf : Fuelled f) {n m : ℕ}
    (hle : n ≤ m) {a : α} (h : f n = .ok a) : f m = .ok a := by
  rw [hf n m hle (by simp [h]), h]

theorem Fuelled.returns_of_le {f : ℕ → Outcome α} (hf : Fuelled f) {n m : ℕ}
    (hle : n ≤ m) (h : Returns (f n)) : Returns (f m) := by
  rw [hf n m hle]
  · exact h
  · intro hfuel
    rw [hfuel] at h
    exact not_returns_outOfFuel h

theorem Fuelled.yields_unique {f : ℕ → Outcome α} (hf : Fuelled f) {a b : α}
    (ha : Yields f a) (hb : Yields f b) : a = b := by
  obtain ⟨n, hn⟩ := ha
  obtain ⟨m, hm⟩ := hb
  have han := hf.yields_of_le (le_max_left n m) hn
  have hbm := hf.yields_of_le (le_max_right n m) hm
  rw [han] at hbm
  exact Except.ok.inj hbm

theorem Yields.finishes {f : ℕ → Outcome α} {a : α} (h : Yields f a) : Finishes f := by
  obtain ⟨n, hn⟩ := h
  exact ⟨n, by simp [hn]⟩

theorem Fuelled.yields_of_returns {f : ℕ → Outcome α} (hf : Fuelled f) {n : ℕ} {a : α}
    (hn : Returns (f n)) (ha : Yields f a) : f n = .ok a := by
  obtain ⟨m, hm⟩ := ha
  have hmax : f (max n m) = .ok a := hf.yields_of_le (le_max_right n m) hm
  have hne : f n ≠ .error .outOfFuel := fun hfuel =>
    not_returns_outOfFuel (hfuel ▸ hn)
  rw [← hmax, hf n (max n m) (le_max_left n m) hne]

/-- The first unit of fuel only pays for the outermost call. -/
theorem Fuelled.finishes_succ_iff {f : ℕ → Outcome α} (hf : Fuelled f) :
    Finishes (fun n => f (n + 1)) ↔ Finishes f :=
  ⟨fun ⟨n, hn⟩ => ⟨n + 1, hn⟩,
    fun ⟨n, hn⟩ => ⟨n, hf.returns_of_le (Nat.le_succ n) hn⟩⟩

/-! ## Sequences -/

theorem Fuelled.bind {x : ℕ → Outcome α} {f : ℕ → α → Outcome β}
    (hx : Fuelled x) (hf : ∀ a, Fuelled fun n => f n a) :
    Fuelled fun n => x n >>= f n :=
  fun n m hle => (hx n m hle).bind fun a => hf a n m hle

theorem yields_bind_iff {x : ℕ → Outcome α} {f : ℕ → α → Outcome β}
    (hx : Fuelled x) (hf : ∀ a, Fuelled fun n => f n a) {b : β} :
    Yields (fun n => x n >>= f n) b ↔
      ∃ a, Yields x a ∧ Yields (fun n => f n a) b := by
  constructor
  · rintro ⟨n, hn⟩
    obtain ⟨a, ha, hb⟩ := bind_eq_ok.mp hn
    exact ⟨a, ⟨n, ha⟩, n, hb⟩
  · rintro ⟨a, ⟨n, hn⟩, m, hm⟩
    refine ⟨max n m, ?_⟩
    simp only [hx.yields_of_le (le_max_left n m) hn, ok_bind]
    exact (hf a).yields_of_le (le_max_right n m) hm

theorem finishes_bind_iff {x : ℕ → Outcome α} {f : ℕ → α → Outcome β}
    (hx : Fuelled x) (hf : ∀ a, Fuelled fun n => f n a) :
    Finishes (fun n => x n >>= f n) ↔
      Finishes x ∧ ∀ a, Yields x a → Finishes fun n => f n a := by
  constructor
  · rintro ⟨n, hn⟩
    obtain ⟨hxn, hrest⟩ := returns_bind_iff.mp hn
    refine ⟨⟨n, hxn⟩, ?_⟩
    rintro a ⟨m, hm⟩
    rcases hxn with ⟨a', ha'⟩ | ⟨message, hmessage⟩
    · obtain rfl := hx.yields_unique ⟨m, hm⟩ ⟨n, ha'⟩
      exact ⟨n, hrest a ha'⟩
    · have hle := hx.yields_of_le (le_max_left m n) hm
      rw [hx n (max m n) (le_max_right m n) (by simp [hmessage]), hmessage] at hle
      cases hle
  · rintro ⟨⟨n, hn⟩, hrest⟩
    rcases hn with ⟨a, ha⟩ | ⟨message, hmessage⟩
    · obtain ⟨m, hm⟩ := hrest a ⟨n, ha⟩
      refine ⟨max n m, ?_⟩
      simp only [hx.yields_of_le (le_max_left n m) ha, ok_bind]
      exact (hf a).returns_of_le (le_max_right n m) hm
    · exact ⟨n, by simp [hmessage]⟩

theorem finishes_const {r : Outcome α} : Finishes (fun _ => r) ↔ Returns r :=
  ⟨fun ⟨_, h⟩ => h, fun h => ⟨0, h⟩⟩

/-- A first call that takes no fuel. -/
theorem finishes_const_bind_iff {r : Outcome α} {f : ℕ → α → Outcome β} :
    Finishes (fun n => r >>= f n) ↔
      Returns r ∧ ∀ a, r = .ok a → Finishes fun n => f n a := by
  cases r with
  | ok a => simp
  | error stop => cases stop <;> simp [Finishes]

/-- A second call that takes no fuel. -/
theorem finishes_bind_const_iff {x : ℕ → Outcome α} (hx : Fuelled x)
    {f : α → Outcome β} :
    Finishes (fun n => x n >>= f) ↔ Finishes x ∧ ∀ a, Yields x a → Returns (f a) := by
  have hbind := finishes_bind_iff hx fun a => Fuelled.const (f a)
  simp only [finishes_const] at hbind
  exact hbind

/-! A last step that only packs the result neither stops nor changes anything. -/

theorem Fuelled.bind_pure {x : ℕ → Outcome α} (hx : Fuelled x) (g : α → β) :
    Fuelled fun n => x n >>= fun a => pure (g a) :=
  hx.bind fun a => Fuelled.const (pure (g a))

theorem yields_bind_pure_iff {x : ℕ → Outcome α} {g : α → β} {b : β} :
    Yields (fun n => x n >>= fun a => pure (g a)) b ↔ ∃ a, Yields x a ∧ g a = b := by
  constructor
  · rintro ⟨n, hn⟩
    obtain ⟨a, ha, hb⟩ := bind_eq_ok.mp hn
    exact ⟨a, ⟨n, ha⟩, Except.ok.inj hb⟩
  · rintro ⟨a, ⟨n, hn⟩, rfl⟩
    exact ⟨n, bind_eq_ok.mpr ⟨a, hn, rfl⟩⟩

theorem finishes_bind_pure_iff {x : ℕ → Outcome α} {g : α → β} :
    Finishes (fun n => x n >>= fun a => pure (g a)) ↔ Finishes x := by
  unfold Finishes
  refine exists_congr fun n => ?_
  rw [returns_bind_iff]
  exact and_iff_left fun a _ => returns_pure (g a)

/-! ## Loops -/

/-- The loop comes to the element: all its predecessors have been accepted. -/
def Reached (accepted : α → Prop) (xs : List α) (x : α) : Prop :=
  ∃ before after, xs = before ++ x :: after ∧ ∀ y ∈ before, accepted y

theorem Reached.mem {accepted : α → Prop} {xs : List α} {x : α}
    (h : Reached accepted xs x) : x ∈ xs := by
  obtain ⟨before, after, rfl, -⟩ := h
  simp

theorem reached_cons_iff {accepted : α → Prop} {x y : α} {rest : List α} :
    Reached accepted (x :: rest) y ↔
      y = x ∨ (accepted x ∧ Reached accepted rest y) := by
  constructor
  · rintro ⟨before, after, hsplit, hbefore⟩
    cases before with
    | nil =>
        obtain ⟨rfl, -⟩ : x = y ∧ rest = after := by simpa using hsplit
        exact Or.inl rfl
    | cons z before =>
        obtain ⟨rfl, rfl⟩ : x = z ∧ rest = before ++ y :: after := by
          simpa using hsplit
        refine Or.inr ⟨hbefore x (by simp), before, after, rfl, ?_⟩
        exact fun w hw => hbefore w (List.mem_cons_of_mem x hw)
  · rintro (rfl | ⟨hx, before, after, rfl, hbefore⟩)
    · exact ⟨[], rest, rfl, by simp⟩
    · refine ⟨x :: before, after, rfl, ?_⟩
      intro w hw
      rcases List.mem_cons.mp hw with rfl | hw
      · exact hx
      · exact hbefore w hw

theorem Reached.mono {accepted accepted' : α → Prop} {xs : List α} {x : α}
    (h : Reached accepted xs x) (hle : ∀ y ∈ xs, accepted y → accepted' y) :
    Reached accepted' xs x := by
  obtain ⟨before, after, rfl, hbefore⟩ := h
  exact ⟨before, after, rfl, fun y hy => hle y (by simp [hy]) (hbefore y hy)⟩

/-- Every element that the loop comes to is safe. -/
def AllReached (accepted safe : α → Prop) (xs : List α) : Prop :=
  ∀ x, Reached accepted xs x → safe x

@[simp] theorem allReached_nil (accepted safe : α → Prop) :
    AllReached accepted safe [] := by
  rintro x ⟨before, after, hsplit, -⟩
  simp at hsplit

theorem AllReached.of_forall {accepted safe : α → Prop} {xs : List α}
    (h : ∀ x ∈ xs, safe x) : AllReached accepted safe xs :=
  fun x hx => h x hx.mem

theorem allReached_cons_iff {accepted safe : α → Prop} {x : α} {rest : List α} :
    AllReached accepted safe (x :: rest) ↔
      safe x ∧ (accepted x → AllReached accepted safe rest) := by
  simp only [AllReached, reached_cons_iff, or_imp, forall_and, forall_eq, and_imp]
  exact and_congr_right fun _ => forall_comm

theorem allReached_append_iff {accepted safe : α → Prop} {xs ys : List α} :
    AllReached accepted safe (xs ++ ys) ↔
      AllReached accepted safe xs ∧
        ((∀ x ∈ xs, accepted x) → AllReached accepted safe ys) := by
  induction xs with
  | nil => simp
  | cons x rest ih =>
      simp only [List.cons_append, allReached_cons_iff, ih, List.forall_mem_cons]
      tauto

theorem allReached_map_iff {f : α → β} {accepted safe : β → Prop} {xs : List α} :
    AllReached accepted safe (xs.map f) ↔
      AllReached (fun x => accepted (f x)) (fun x => safe (f x)) xs := by
  induction xs with
  | nil => simp
  | cons x rest ih => simp only [List.map_cons, allReached_cons_iff, ih]

/-- A loop that accepts everything comes to everything. -/
theorem AllReached.forall_mem {accepted safe : α → Prop} {xs : List α}
    (h : AllReached accepted safe xs) (haccepted : ∀ x ∈ xs, accepted x) :
    ∀ x ∈ xs, safe x := by
  intro x hx
  obtain ⟨before, after, hsplit⟩ := List.append_of_mem hx
  exact h x ⟨before, after, hsplit, fun y hy => haccepted y (by simp [hsplit, hy])⟩

/-- Enlarging the accepted elements by unsafe ones adds nothing to check. -/
theorem AllReached.of_accepted {accepted accepted' safe : α → Prop} {xs : List α}
    (h : AllReached accepted safe xs)
    (hle : ∀ x ∈ xs, safe x → accepted' x → accepted x) :
    AllReached accepted' safe xs := by
  induction xs with
  | nil => simp
  | cons x rest ih =>
      obtain ⟨hx, hrest⟩ := allReached_cons_iff.mp h
      refine allReached_cons_iff.mpr ⟨hx, fun hx' => ?_⟩
      exact ih (hrest (hle x (by simp) hx hx')) fun y hy =>
        hle y (List.mem_cons_of_mem x hy)

/-- If every element the loop comes to finishes, one amount of fuel serves
them all. -/
theorem AllReached.exists_fuel {accepted : α → Prop} {safe : ℕ → α → Prop} {xs : List α}
    (hmono : ∀ n m x, n ≤ m → safe n x → safe m x)
    (h : AllReached accepted (fun x => ∃ n, safe n x) xs) :
    ∃ n, AllReached accepted (safe n) xs := by
  induction xs with
  | nil => exact ⟨0, by simp⟩
  | cons x rest ih =>
      obtain ⟨⟨n, hn⟩, hrest⟩ := allReached_cons_iff.mp h
      by_cases hx : accepted x
      · obtain ⟨m, hm⟩ := ih (hrest hx)
        refine ⟨max n m, allReached_cons_iff.mpr ⟨?_, fun _ y hy => ?_⟩⟩
        · exact hmono n _ x (le_max_left n m) hn
        · exact hmono m _ y (le_max_right n m) (hm y hy)
      · exact ⟨n, allReached_cons_iff.mpr ⟨hn, fun hx' => absurd hx' hx⟩⟩

theorem returns_mapM_iff {f : α → Outcome β} {xs : List α} :
    Returns (xs.mapM f) ↔
      AllReached (fun x => ∃ y, f x = .ok y) (fun x => Returns (f x)) xs := by
  induction xs with
  | nil => simp
  | cons x rest ih =>
      simp only [List.mapM_cons, returns_bind_iff, returns_pure, implies_true,
        and_true, allReached_cons_iff, ih, forall_exists_index]

/-- A loop whose control flow does not look at the accumulator, as long as the
accumulator keeps the invariant. -/
theorem exists_foldlM_ok_iff {f : β → α → Outcome β} {I : β → Prop} {accepted : α → Prop}
    (haccepted : ∀ b x, I b → ((∃ c, f b x = .ok c) ↔ accepted x))
    (hkeeps : ∀ b x c, I b → f b x = .ok c → I c) {xs : List α} {b : β} (hb : I b) :
    (∃ c, xs.foldlM f b = .ok c) ↔ ∀ x ∈ xs, accepted x := by
  induction xs generalizing b with
  | nil => simp [pure, Except.pure]
  | cons x rest ih =>
      simp only [List.foldlM_cons, bind_eq_ok, List.forall_mem_cons, ← haccepted b x hb]
      constructor
      · rintro ⟨d, c, hc, hrest⟩
        exact ⟨⟨c, hc⟩, (ih (hkeeps b x c hb hc)).mp ⟨d, hrest⟩⟩
      · rintro ⟨⟨c, hc⟩, hrest⟩
        obtain ⟨d, hd⟩ := (ih (hkeeps b x c hb hc)).mpr hrest
        exact ⟨d, c, hc, hd⟩

theorem returns_foldlM {f : β → α → Outcome β} {I : β → Prop} {accepted safe : α → Prop}
    (haccepted : ∀ b x, I b → ((∃ c, f b x = .ok c) ↔ accepted x))
    (hsafe : ∀ b x, I b → (Returns (f b x) ↔ safe x))
    (hkeeps : ∀ b x c, I b → f b x = .ok c → I c) {xs : List α} {b : β} (hb : I b) :
    Returns (xs.foldlM f b) ↔ AllReached accepted safe xs := by
  induction xs generalizing b with
  | nil => simp
  | cons x rest ih =>
      simp only [List.foldlM_cons, returns_bind_iff, allReached_cons_iff, hsafe b x hb]
      refine and_congr_right fun _ => ?_
      rw [← haccepted b x hb]
      constructor
      · rintro h ⟨c, hc⟩
        exact (ih (hkeeps b x c hb hc)).mp (h c hc)
      · intro h c hc
        exact (ih (hkeeps b x c hb hc)).mpr (h ⟨c, hc⟩)

theorem Fuelled.mapM {f : ℕ → α → Outcome β} (hf : ∀ x, Fuelled fun n => f n x)
    (xs : List α) : Fuelled fun n => xs.mapM (f n) :=
  fun n m hle => Completes.mapM (fun x => hf x n m hle) xs

theorem yields_mapM_iff {f : ℕ → α → Outcome β} (hf : ∀ x, Fuelled fun n => f n x)
    {xs : List α} {ys : List β} :
    Yields (fun n => xs.mapM (f n)) ys ↔
      List.Forall₂ (fun x y => Yields (fun n => f n x) y) xs ys := by
  induction xs generalizing ys with
  | nil =>
      simp only [List.mapM_nil, List.forall₂_nil_left_iff]
      exact ⟨fun ⟨_, h⟩ => (Except.ok.inj h).symm, fun h => ⟨0, by rw [h]; rfl⟩⟩
  | cons x rest ih =>
      simp only [List.mapM_cons, List.forall₂_cons_left_iff]
      rw [yields_bind_iff (hf x) fun y => (Fuelled.mapM hf rest).bind_pure (y :: ·)]
      constructor
      · rintro ⟨y, hy, hrest⟩
        obtain ⟨tail, htail, hys⟩ := yields_bind_pure_iff.mp hrest
        exact ⟨y, tail, hy, ih.mp htail, hys.symm⟩
      · rintro ⟨y, tail, hy, htail, rfl⟩
        exact ⟨y, hy, yields_bind_pure_iff.mpr ⟨tail, ih.mpr htail, rfl⟩⟩

theorem succeeds_mapM_iff {f : ℕ → α → Outcome β} (hf : ∀ x, Fuelled fun n => f n x)
    {xs : List α} :
    Succeeds (fun n => xs.mapM (f n)) ↔ ∀ x ∈ xs, Succeeds fun n => f n x := by
  induction xs with
  | nil => exact ⟨fun _ => by simp, fun _ => ⟨[], 0, rfl⟩⟩
  | cons x rest ih =>
      simp only [List.forall_mem_cons, ← ih]
      constructor
      · rintro ⟨ys, hys⟩
        obtain ⟨y, tail, hy, htail, -⟩ :=
          List.forall₂_cons_left_iff.mp ((yields_mapM_iff hf).mp hys)
        exact ⟨⟨y, hy⟩, tail, (yields_mapM_iff hf).mpr htail⟩
      · rintro ⟨⟨y, hy⟩, tail, htail⟩
        exact ⟨y :: tail, (yields_mapM_iff hf).mpr
          (List.Forall₂.cons hy ((yields_mapM_iff hf).mp htail))⟩

theorem finishes_mapM_iff {f : ℕ → α → Outcome β} (hf : ∀ x, Fuelled fun n => f n x)
    {xs : List α} :
    Finishes (fun n => xs.mapM (f n)) ↔
      AllReached (fun x => Succeeds fun n => f n x)
        (fun x => Finishes fun n => f n x) xs := by
  induction xs with
  | nil => exact ⟨fun _ => by simp, fun _ => ⟨0, returns_pure []⟩⟩
  | cons x rest ih =>
      simp only [List.mapM_cons, allReached_cons_iff, ← ih]
      rw [finishes_bind_iff (hf x) fun y => (Fuelled.mapM hf rest).bind_pure (y :: ·)]
      refine and_congr_right fun _ => ?_
      constructor
      · rintro h ⟨y, hy⟩
        exact finishes_bind_pure_iff.mp (h y hy)
      · intro h y hy
        exact finishes_bind_pure_iff.mpr (h ⟨y, hy⟩)

end Iec61850.Go
