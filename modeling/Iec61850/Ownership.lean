import Iec61850.HandleStore

/-!
# Things with one holder

Each thing that has been made and not released has one holder, and a holder holds at
most one thing.  A thing is made for a holder, goes from one holder to another, and is
released by the one that holds it.
-/

namespace Iec61850.Handles

variable {Value Holder : Type}

structure Owned (store : Store Value) (holding : Holder → Option ℕ) : Prop where
  fresh : store.Fresh
  held : ∀ h n, holding h = some n → 0 < n ∧ ∃ value, store.Holds n value
  unique : ∀ h h' n, holding h = some n → holding h' = some n → h = h'
  accounted : ∀ n, 0 < n → n ≤ store.made →
    (∃ h, holding h = some n) ∨ store.Released n ∧ store.contents n = none
  unmisused : store.misused = false

variable {store : Store Value} {holding holding' : Holder → Option ℕ} {h h' : Holder} {m n : ℕ}

theorem owned_empty : Owned ({} : Store Value) fun _ : Holder => none where
  fresh := Store.fresh_empty
  held := fun _ _ hh => by cases hh
  unique := fun _ _ _ hh => by cases hh
  accounted := fun n hpos hn => absurd hn (by simp only; omega)
  unmisused := rfl

namespace Owned

theorem releases_le (howned : Owned store holding) (hpos : 0 < n) : store.releases n ≤ 1 := by
  by_cases hmade : n ≤ store.made
  · rcases howned.accounted n hpos hmade with ⟨h, hh⟩ | ⟨hreleased, -⟩
    · obtain ⟨-, value, hholds⟩ := howned.held h n hh
      rw [hholds.unreleased]
      omega
    · rw [hreleased.once]
  · rw [(howned.fresh n (by omega)).2]
    omega

/-- What is there is what somebody holds. -/
theorem contents_isSome_iff (howned : Owned store holding) (hpos : 0 < n) :
    (store.contents n).isSome ↔ ∃ h, holding h = some n := by
  constructor
  · intro hthere
    by_cases hmade : n ≤ store.made
    · rcases howned.accounted n hpos hmade with hh | ⟨-, hgone⟩
      · exact hh
      · rw [hgone] at hthere
        cases hthere
    · rw [(howned.fresh n (by omega)).1] at hthere
      cases hthere
  · rintro ⟨h, hh⟩
    obtain ⟨-, value, hholds⟩ := howned.held h n hh
    rw [hholds.contents]
    rfl

theorem use_eq (howned : Owned store holding) (hh : holding h = some n) : store.use n = store := by
  obtain ⟨-, value, hholds⟩ := howned.held h n hh
  exact Store.use_eq hholds

theorem next_unheld (howned : Owned store holding) (h : Holder) :
    holding h ≠ some store.next := by
  intro hh
  obtain ⟨-, value, hholds⟩ := howned.held h store.next hh
  have hmade := hholds.made
  simp only [Store.next] at hmade
  omega

variable [DecidableEq Holder]

theorem make (howned : Owned store holding) (value : Value) (hfree : holding h = none) :
    Owned (store.make value) (Function.update holding h (some store.next)) where
  fresh := howned.fresh.make value
  held := by
    intro h' n hh'
    by_cases heq : h' = h
    · rw [heq, Function.update_self] at hh'
      obtain rfl := Option.some.inj hh'
      exact ⟨Nat.succ_pos _, value, Store.holds_make howned.fresh value⟩
    · rw [Function.update_of_ne heq] at hh'
      obtain ⟨hpos, value', hholds⟩ := howned.held h' n hh'
      exact ⟨hpos, value', hholds.make value⟩
  unique := by
    intro h₁ h₂ n hh₁ hh₂
    by_cases heq₁ : h₁ = h
    · by_cases heq₂ : h₂ = h
      · rw [heq₁, heq₂]
      · rw [heq₁, Function.update_self] at hh₁
        rw [Function.update_of_ne heq₂, ← hh₁] at hh₂
        exact absurd hh₂ (howned.next_unheld h₂)
    · rw [Function.update_of_ne heq₁] at hh₁
      by_cases heq₂ : h₂ = h
      · rw [heq₂, Function.update_self] at hh₂
        rw [← hh₂] at hh₁
        exact absurd hh₁ (howned.next_unheld h₁)
      · rw [Function.update_of_ne heq₂] at hh₂
        exact howned.unique h₁ h₂ n hh₁ hh₂
  accounted := by
    intro n hpos hmade
    by_cases hnext : n = store.next
    · exact Or.inl ⟨h, by rw [Function.update_self, hnext]⟩
    have hold : n ≤ store.made := by
      simp only [Store.make, Store.next] at hmade hnext
      omega
    rcases howned.accounted n hpos hold with ⟨h', hh'⟩ | ⟨hreleased, hgone⟩
    · refine Or.inl ⟨h', ?_⟩
      have hne : h' ≠ h := by
        intro heq
        rw [heq, hfree] at hh'
        cases hh'
      rw [Function.update_of_ne hne, hh']
    · refine Or.inr ⟨hreleased.make value, ?_⟩
      simp only [Store.make, Function.update_of_ne hnext]
      exact hgone
  unmisused := howned.unmisused

theorem release (howned : Owned store holding) (hh : holding h = some m) :
    Owned (store.release m) (Function.update holding h none) := by
  obtain ⟨-, value, hholds⟩ := howned.held h m hh
  have hothers : ∀ h' n, Function.update holding h none h' = some n →
      holding h' = some n ∧ n ≠ m := by
    intro h' n hh'
    by_cases heq : h' = h
    · rw [heq, Function.update_self] at hh'
      cases hh'
    · rw [Function.update_of_ne heq] at hh'
      refine ⟨hh', fun hsame => heq (howned.unique h' h m ?_ hh)⟩
      rw [hh', hsame]
  constructor
  · exact howned.fresh.release hholds.made
  · intro h' n hh'
    obtain ⟨hold, hne⟩ := hothers h' n hh'
    obtain ⟨hpos, value', hholds'⟩ := howned.held h' n hold
    exact ⟨hpos, value', hholds'.release hne⟩
  · intro h₁ h₂ n hh₁ hh₂
    exact howned.unique h₁ h₂ n (hothers h₁ n hh₁).1 (hothers h₂ n hh₂).1
  · intro n hpos hmade
    by_cases hsame : n = m
    · rw [hsame]
      exact Or.inr ⟨Store.released_release hholds, by simp [Store.release]⟩
    rcases howned.accounted n hpos hmade with ⟨h', hh'⟩ | ⟨hreleased, hgone⟩
    · refine Or.inl ⟨h', ?_⟩
      have hne : h' ≠ h := by
        intro heq
        rw [heq, hh] at hh'
        exact hsame (Option.some.inj hh').symm
      rw [Function.update_of_ne hne, hh']
    · refine Or.inr ⟨hreleased.release hsame, ?_⟩
      simp only [Store.release, Function.update_of_ne hsame]
      exact hgone
  · rw [Store.misused_release hholds]
    exact howned.unmisused

theorem move_some (howned : Owned store holding) (hh : holding h = some m)
    (hfree : holding h' = none) :
    Owned store (Function.update (Function.update holding h none) h' (some m)) := by
  have hback : ∀ k n, Function.update (Function.update holding h none) h' (some m) k = some n →
      k = h' ∧ n = m ∨ holding k = some n ∧ n ≠ m := by
    intro k n hk
    by_cases heq' : k = h'
    · rw [heq', Function.update_self] at hk
      exact Or.inl ⟨heq', (Option.some.inj hk).symm⟩
    rw [Function.update_of_ne heq'] at hk
    by_cases heq : k = h
    · rw [heq, Function.update_self] at hk
      cases hk
    rw [Function.update_of_ne heq] at hk
    refine Or.inr ⟨hk, fun hsame => heq (howned.unique k h m ?_ hh)⟩
    rw [hk, hsame]
  constructor
  · exact howned.fresh
  · intro k n hk
    rcases hback k n hk with ⟨-, rfl⟩ | ⟨hold, -⟩
    · exact howned.held h n hh
    · exact howned.held k n hold
  · intro k₁ k₂ n hk₁ hk₂
    rcases hback k₁ n hk₁ with ⟨rfl, rfl⟩ | ⟨hold₁, hne₁⟩
    · rcases hback k₂ n hk₂ with ⟨rfl, -⟩ | ⟨-, hne₂⟩
      · rfl
      · exact absurd rfl hne₂
    · rcases hback k₂ n hk₂ with ⟨-, rfl⟩ | ⟨hold₂, -⟩
      · exact absurd rfl hne₁
      · exact howned.unique k₁ k₂ n hold₁ hold₂
  · intro n hpos hmade
    rcases howned.accounted n hpos hmade with ⟨k, hk⟩ | hreleased
    · refine Or.inl ?_
      by_cases hsame : n = m
      · exact ⟨h', by rw [Function.update_self, hsame]⟩
      have hne' : k ≠ h' := by
        intro heq
        rw [heq, hfree] at hk
        cases hk
      have hne : k ≠ h := by
        intro heq
        rw [heq, hh] at hk
        exact hsame (Option.some.inj hk).symm
      exact ⟨k, by rw [Function.update_of_ne hne', Function.update_of_ne hne, hk]⟩
    · exact Or.inr hreleased
  · exact howned.unmisused

/-- What one holder has goes to another that has nothing. -/
theorem move (howned : Owned store holding) (h : Holder) (hfree : holding h' = none) :
    Owned store (Function.update (Function.update holding h none) h' (holding h)) := by
  cases hh : holding h with
  | none =>
      have hsame : Function.update holding h none = holding := by
        rw [← hh, Function.update_eq_self]
      rw [hsame, ← hfree, Function.update_eq_self]
      exact howned
  | some m => exact howned.move_some hh hfree

end Owned

end Iec61850.Handles
