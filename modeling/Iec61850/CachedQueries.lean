import Iec61850.GoMap

/-!
# Queries through a cache

A query is computed once and its result is kept under a key.  Different queries may share a
key, so the cache answers like the computation only if those compute the same.
-/

namespace Iec61850.Go.GoMap

section

variable {Q V : Type} (key : Q → Str) (compute : Q → Option V) (missing : V)

/-- The answer, and the cache after it; only what is found is kept. -/
def cached (m : GoMap V) (q : Q) : V × GoMap V :=
  match m.lookup (key q) with
  | some v => (v, m)
  | none =>
      match compute q with
      | some v => (v, store (key q) v m)
      | none => (missing, m)

def cachedAnswers : GoMap V → List Q → List V
  | _, [] => []
  | m, q :: queries =>
      (cached key compute missing m q).1 ::
        cachedAnswers (cached key compute missing m q).2 queries

/-- The answer without a cache. -/
def uncached (q : Q) : V := (compute q).getD missing

/-- What is kept under the key of a query is what the query computes. -/
structure Unambiguous (m : GoMap V) (queries : List Q) : Prop where
  kept : ∀ q ∈ queries, ∀ v, m.lookup (key q) = some v → uncached compute missing q = v
  shared : queries.Pairwise fun q q' =>
    key q = key q' → ∀ v, compute q = some v → uncached compute missing q' = v

variable {key compute missing} {m : GoMap V} {q : Q} {queries : List Q}

theorem unambiguous_nil : Unambiguous key compute missing m [] :=
  ⟨List.forall_mem_nil _, .nil⟩

/-- What was kept before answers the query itself and all that share its key. -/
theorem unambiguous_cons_of_kept {v : V} (hlookup : m.lookup (key q) = some v) :
    Unambiguous key compute missing m (q :: queries) ↔
      v = uncached compute missing q ∧ Unambiguous key compute missing m queries := by
  constructor
  · intro h
    exact ⟨(h.kept q List.mem_cons_self v hlookup).symm,
      fun q' hq' => h.kept q' (List.mem_cons_of_mem q hq'), (List.pairwise_cons.mp h.shared).2⟩
  · intro ⟨hanswer, h⟩
    refine ⟨List.forall_mem_cons.mpr ⟨fun v' hv' => ?_, h.kept⟩,
      List.pairwise_cons.mpr ⟨fun q' hq' hkey v' hv' => ?_, h.shared⟩⟩
    · rw [hlookup] at hv'
      rw [← hanswer, Option.some.inj hv']
    · have hvalue : uncached compute missing q = v' := by
        rw [uncached, hv', Option.getD_some]
      rw [← hvalue, ← hanswer]
      exact h.kept q' hq' v (hkey ▸ hlookup)

theorem unambiguous_cons_of_missing (hlookup : m.lookup (key q) = none)
    (hcompute : compute q = none) :
    Unambiguous key compute missing m (q :: queries) ↔
      Unambiguous key compute missing m queries := by
  constructor
  · intro h
    exact ⟨fun q' hq' => h.kept q' (List.mem_cons_of_mem q hq'),
      (List.pairwise_cons.mp h.shared).2⟩
  · intro h
    refine ⟨List.forall_mem_cons.mpr ⟨fun v hv => ?_, h.kept⟩,
      List.pairwise_cons.mpr ⟨fun q' _ _ v hv => ?_, h.shared⟩⟩
    · rw [hlookup] at hv
      cases hv
    · rw [hcompute] at hv
      cases hv

/-- What is found now has to serve every later query of the same key. -/
theorem unambiguous_cons_of_found {v : V} (hlookup : m.lookup (key q) = none)
    (hcompute : compute q = some v) :
    Unambiguous key compute missing m (q :: queries) ↔
      Unambiguous key compute missing (store (key q) v m) queries := by
  constructor
  · intro h
    have hshared := List.pairwise_cons.mp h.shared
    refine ⟨fun q' hq' v' hv' => ?_, hshared.2⟩
    rw [lookup_store] at hv'
    by_cases hkey : key q' = key q
    · rw [if_pos hkey] at hv'
      rw [← Option.some.inj hv']
      exact hshared.1 q' hq' hkey.symm v hcompute
    · rw [if_neg hkey] at hv'
      exact h.kept q' (List.mem_cons_of_mem q hq') v' hv'
  · intro h
    refine ⟨List.forall_mem_cons.mpr ⟨fun v' hv' => ?_, fun q' hq' v' hv' => ?_⟩,
      List.pairwise_cons.mpr ⟨fun q' hq' hkey v' hv' => ?_, h.shared⟩⟩
    · rw [hlookup] at hv'
      cases hv'
    · have hkey : key q' ≠ key q := by
        intro hkey
        rw [hkey, hlookup] at hv'
        cases hv'
      apply h.kept q' hq' v'
      rw [lookup_store, if_neg hkey]
      exact hv'
    · apply h.kept q' hq' v'
      rw [lookup_store, if_pos hkey.symm, ← hcompute, hv']

/-- One query: its own answer is right, and the cache after it serves the others. -/
theorem unambiguous_cons_iff :
    Unambiguous key compute missing m (q :: queries) ↔
      (cached key compute missing m q).1 = uncached compute missing q ∧
        Unambiguous key compute missing (cached key compute missing m q).2 queries := by
  unfold cached
  cases hlookup : m.lookup (key q) with
  | some v => exact unambiguous_cons_of_kept hlookup
  | none =>
      cases hcompute : compute q with
      | none =>
          have hanswer : missing = uncached compute missing q := by
            rw [uncached, hcompute, Option.getD_none]
          rw [unambiguous_cons_of_missing hlookup hcompute]
          exact (and_iff_right hanswer).symm
      | some v =>
          have hanswer : v = uncached compute missing q := by
            rw [uncached, hcompute, Option.getD_some]
          rw [unambiguous_cons_of_found hlookup hcompute]
          exact (and_iff_right hanswer).symm

/-- The cache cannot be noticed if and only if it is never ambiguous. -/
theorem cachedAnswers_eq_iff (m : GoMap V) (queries : List Q) :
    cachedAnswers key compute missing m queries = queries.map (uncached compute missing) ↔
      Unambiguous key compute missing m queries := by
  induction queries generalizing m with
  | nil => simp [cachedAnswers, unambiguous_nil]
  | cons q queries ih =>
      rw [cachedAnswers, List.map_cons, List.cons.injEq, ih, unambiguous_cons_iff]

/-- Queries with a key of their own are answered right from an empty cache. -/
theorem unambiguous_of_injective
    (hinjective : ∀ q ∈ queries, ∀ q' ∈ queries, key q = key q' → q = q') :
    Unambiguous key compute missing [] queries := by
  constructor
  · intro q _ v hv
    cases hv
  · apply List.pairwise_of_forall_mem_list
    intro q hq q' hq' hkey v hv
    rw [← hinjective q hq q' hq' hkey, uncached, hv, Option.getD_some]

end

end Iec61850.Go.GoMap
