import Mathlib.Data.Nat.Basic
import Mathlib.Logic.Function.Basic

/-!
# Handles and blocks that are released once

A table of handles to values, and blocks of memory that hold one handle each.
Handles and blocks are numbered in the order in which they are made and never
made again.  Using one that has been released is recorded, and so is how often
each has been released.
-/

namespace Iec61850.Handles

/-- Things of one kind that are made, looked up and released. -/
structure Store (Value : Type) where
  made : ℕ := 0
  contents : ℕ → Option Value := fun _ => none
  releases : ℕ → ℕ := fun _ => 0
  misused : Bool := false

variable {Value : Type}

namespace Store

/-- The number that the next thing gets; zero is never given. -/
def next (s : Store Value) : ℕ := s.made + 1

def make (s : Store Value) (value : Value) : Store Value :=
  { s with
    made := s.next
    contents := Function.update s.contents s.next (some value) }

/-- A use of what is not there, or no longer there, is a misuse. -/
def use (s : Store Value) (n : ℕ) : Store Value :=
  { s with misused := s.misused || (s.contents n).isNone }

def release (s : Store Value) (n : ℕ) : Store Value :=
  { s with
    contents := Function.update s.contents n none
    releases := Function.update s.releases n (s.releases n + 1)
    misused := s.misused || (s.contents n).isNone }

/-- It is there and has not been released. -/
structure Holds (s : Store Value) (n : ℕ) (value : Value) : Prop where
  contents : s.contents n = some value
  unreleased : s.releases n = 0
  made : n ≤ s.made

/-- It was there and has been released once. -/
structure Released (s : Store Value) (n : ℕ) : Prop where
  once : s.releases n = 1
  made : n ≤ s.made

/-- What has not been made has no content and no release. -/
def Fresh (s : Store Value) : Prop :=
  ∀ n, s.made < n → s.contents n = none ∧ s.releases n = 0

theorem fresh_empty : ({} : Store Value).Fresh := fun _ _ => ⟨rfl, rfl⟩

variable {s : Store Value} {n m : ℕ} {value value' : Value}

/-! ## Making -/

theorem Fresh.make (h : s.Fresh) (value : Value) : (s.make value).Fresh := by
  intro n hn
  have hlater : s.made < n := by simp only [Store.make, next] at hn; omega
  have hne : n ≠ s.next := by simp only [Store.make] at hn; omega
  obtain ⟨hcontents, hreleases⟩ := h n hlater
  refine ⟨?_, hreleases⟩
  simp only [Store.make, Function.update_of_ne hne]
  exact hcontents

theorem holds_make (h : s.Fresh) (value : Value) : (s.make value).Holds s.next value where
  contents := Function.update_self ..
  unreleased := (h s.next (Nat.lt_succ_self _)).2
  made := le_refl _

theorem Holds.make (h : s.Holds n value) (value' : Value) : (s.make value').Holds n value where
  contents := by
    have hne : n ≠ s.next := by have := h.made; simp only [next]; omega
    simp only [Store.make, Function.update_of_ne hne]
    exact h.contents
  unreleased := h.unreleased
  made := by have := h.made; simp only [Store.make, next]; omega

theorem Released.make (h : s.Released n) (value : Value) : (s.make value).Released n where
  once := h.once
  made := by have := h.made; simp only [Store.make, next]; omega

/-! ## Using -/

theorem use_eq (h : s.Holds n value) : s.use n = s := by
  obtain ⟨made, contents, releases, misused⟩ := s
  simp only [use, Store.mk.injEq, true_and]
  have hcontents : contents n = some value := h.contents
  simp [hcontents]

/-! ## Releasing -/

theorem Fresh.release (h : s.Fresh) (hn : n ≤ s.made) : (s.release n).Fresh := by
  intro m hm
  have hne : m ≠ n := by simp only [Store.release] at hm; omega
  obtain ⟨hcontents, hreleases⟩ := h m hm
  simp only [Store.release, Function.update_of_ne hne]
  exact ⟨hcontents, hreleases⟩

theorem released_release (h : s.Holds n value) : (s.release n).Released n where
  once := by simp [Store.release, h.unreleased]
  made := h.made

theorem misused_release (h : s.Holds n value) : (s.release n).misused = s.misused := by
  simp [Store.release, h.contents]

theorem Holds.release (h : s.Holds n value) (hne : n ≠ m) : (s.release m).Holds n value where
  contents := by
    simp only [Store.release, Function.update_of_ne hne]
    exact h.contents
  unreleased := by
    simp only [Store.release, Function.update_of_ne hne]
    exact h.unreleased
  made := h.made

theorem Released.release (h : s.Released n) (hne : n ≠ m) : (s.release m).Released n where
  once := by
    simp only [Store.release, Function.update_of_ne hne]
    exact h.once
  made := h.made

end Store

end Iec61850.Handles
