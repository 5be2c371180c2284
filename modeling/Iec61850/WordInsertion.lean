import Mathlib.Data.List.Basic

/-!
# Words inserted at a fixed place

A word is inserted behind a number of letters of a text.  If the text carries a
prefix, the insertion may keep the prefix and change only what stands behind
it, also when the place is inside the prefix.  Two insertions that change a
rest alike also change it alike when they are made once more.
-/

namespace Iec61850.Words

variable {α : Type*}

/-- The word `t` behind the first `k` letters. -/
def insertAt (t : List α) (k : ℕ) (w : List α) : List α :=
  w.take k ++ t ++ w.drop k

variable {t t' u w x : List α} {k k' : ℕ}

theorem length_insertAt (t : List α) (k : ℕ) (w : List α) :
    (insertAt t k w).length = w.length + t.length := by
  have hsplit := congrArg List.length (List.take_append_drop k w)
  rw [List.length_append] at hsplit
  simp only [insertAt, List.length_append]
  omega

/-- Behind the place of the insertion nothing changes. -/
theorem insertAt_append (hk : k ≤ w.length) :
    insertAt t k (w ++ x) = insertAt t k w ++ x := by
  rw [insertAt, insertAt, List.take_append_of_le_length hk, List.drop_append_of_le_length hk,
    List.append_assoc, List.append_assoc, List.append_assoc]

theorem insertAt_append_left (t : List α) (p w : List α) (k : ℕ) :
    insertAt t (p.length + k) (p ++ w) = p ++ insertAt t k w := by
  rw [insertAt, insertAt, List.take_length_add_append, List.drop_length_add_append]
  simp

/-- A text that starts with `x` after the insertion has been cut behind `x`, or
goes on with the word once more. -/
theorem insertAt_length (x y : List α) : insertAt t x.length (x ++ y) = x ++ t ++ y := by
  simp [insertAt]

/-- Two insertions that agree, one behind the other, move their words around
what stands between the places. -/
theorem exists_commuting_of_le (hkk' : k ≤ k') (hk' : k' ≤ w.length)
    (h : insertAt t k w = insertAt t' k' w) :
    ∃ x y z, w = x ++ (y ++ z) ∧ k = x.length ∧ k' = (x ++ y).length ∧ t ++ y = y ++ t' := by
  obtain ⟨x, y, z, rfl, rfl, rfl⟩ : ∃ x y z, w = x ++ (y ++ z) ∧ k = x.length ∧
      k' = (x ++ y).length := by
    refine ⟨w.take k, (w.drop k).take (k' - k), (w.drop k).drop (k' - k), ?_, ?_, ?_⟩
    · rw [List.take_append_drop, List.take_append_drop]
    · rw [List.length_take]
      omega
    · rw [List.length_append, List.length_take, List.length_take, List.length_drop]
      omega
  refine ⟨x, y, z, rfl, rfl, rfl, ?_⟩
  have hassoc : x ++ (y ++ z) = (x ++ y) ++ z := by simp
  rw [insertAt_length, hassoc, insertAt_length, List.append_assoc, List.append_assoc x y,
    List.append_assoc x] at h
  have hrest : (t ++ y) ++ z = (y ++ t') ++ z := by
    simpa using List.append_cancel_left h
  exact List.append_cancel_right hrest

theorem insertAt_twice_of_le (hkk' : k ≤ k') (hk' : k' ≤ w.length)
    (h : insertAt t k w = insertAt t' k' w) :
    insertAt t k (insertAt t k w) = insertAt t' k' (insertAt t' k' w) := by
  obtain ⟨x, y, z, rfl, rfl, rfl, hcommute⟩ := exists_commuting_of_le hkk' hk' h
  have hassoc : x ++ (y ++ z) = (x ++ y) ++ z := by simp
  have hagain : (x ++ y) ++ t' ++ z = (x ++ y) ++ (t' ++ z) := by simp
  have hfirst : x ++ t ++ (y ++ z) = x ++ (t ++ (y ++ z)) := by simp
  calc insertAt t x.length (insertAt t x.length (x ++ (y ++ z)))
      = x ++ (t ++ (t ++ y) ++ z) := by
        rw [insertAt_length, hfirst, insertAt_length]
        simp
    _ = x ++ ((y ++ t') ++ t' ++ z) := by
        rw [hcommute, ← List.append_assoc t, hcommute]
    _ = insertAt t' (x ++ y).length (insertAt t' (x ++ y).length (x ++ (y ++ z))) := by
        rw [hassoc, insertAt_length, hagain, insertAt_length]
        simp

/-- Two insertions that agree on a text agree when they are made twice. -/
theorem insertAt_twice (hk : k ≤ w.length) (hk' : k' ≤ w.length)
    (h : insertAt t k w = insertAt t' k' w) :
    insertAt t k (insertAt t k w) = insertAt t' k' (insertAt t' k' w) := by
  rcases Nat.le_total k k' with hle | hle
  · exact insertAt_twice_of_le hle hk' h
  · exact (insertAt_twice_of_le hle hk h.symm).symm

/-- An insertion that keeps the prefix `p` of a text is an insertion into the
rest, and changes the new rest in the same way. -/
theorem exists_insertAt_rest {p r : List α} (hk : k ≤ (p ++ w).length)
    (h : insertAt t k (p ++ w) = p ++ r) :
    ∃ t' k', k' ≤ w.length ∧ r = insertAt t' k' w ∧
      insertAt t k (p ++ r) = p ++ insertAt t' k' r := by
  by_cases hinside : k ≤ p.length
  · -- the place is inside the prefix: the word moves around the end of the prefix
    obtain ⟨a, v, rfl, rfl⟩ : ∃ a v, p = a ++ v ∧ k = a.length :=
      ⟨p.take k, p.drop k, by simp, by rw [List.length_take]; omega⟩
    have hshift : t ++ v ++ w = v ++ r := by
      rw [List.append_assoc a, insertAt_length] at h
      simp only [List.append_assoc] at h ⊢
      exact List.append_cancel_left h
    obtain ⟨t', ht', hr⟩ : ∃ t', t ++ v = v ++ t' ∧ r = t' ++ w := by
      rcases List.append_eq_append_iff.mp hshift with ⟨c, hv, hw⟩ | ⟨c, hv, hr⟩
      · have hlength := congrArg List.length hv
        simp only [List.length_append] at hlength
        have hc : c = [] := List.eq_nil_of_length_eq_zero (by omega)
        have ht : t = [] := List.eq_nil_of_length_eq_zero (by omega)
        refine ⟨[], by simp [ht], ?_⟩
        rw [hw, hc]
        rfl
      · exact ⟨c, hv, hr⟩
    refine ⟨t', 0, by omega, by simp [insertAt, hr], ?_⟩
    rw [List.append_assoc a, insertAt_length]
    calc a ++ t ++ (v ++ r) = a ++ (t ++ v ++ r) := by simp
      _ = a ++ (v ++ t' ++ r) := by rw [ht']
      _ = a ++ v ++ insertAt t' 0 r := by simp [insertAt]
  · obtain ⟨j, rfl⟩ : ∃ j, k = p.length + j := ⟨k - p.length, by omega⟩
    rw [List.length_append] at hk
    rw [insertAt_append_left] at h
    exact ⟨t, j, by omega, (List.append_cancel_left h).symm, insertAt_append_left t p r j⟩

/-- Insertions that keep the prefixes `p` and `q` of two texts with one rest,
and change the rest alike, do so once more. -/
theorem insertAt_alike_twice {p q r : List α} (hp : k ≤ (p ++ w).length)
    (hq : k' ≤ (q ++ w).length)
    (h : insertAt t k (p ++ w) = p ++ r) (h' : insertAt t' k' (q ++ w) = q ++ r) :
    ∃ r', insertAt t k (p ++ r) = p ++ r' ∧ insertAt t' k' (q ++ r) = q ++ r' := by
  obtain ⟨s, i, hi, hr, hagain⟩ := exists_insertAt_rest hp h
  obtain ⟨s', i', hi', hr', hagain'⟩ := exists_insertAt_rest hq h'
  have hsame := insertAt_twice hi hi' (hr.symm.trans hr')
  rw [← hr, ← hr'] at hsame
  exact ⟨insertAt s i r, hagain, by rw [hagain', hsame]⟩

/-! ## Another rest behind the place -/

/-- An insertion into a beginning of the text leaves the rest as it is. -/
theorem exists_insertAt_before {p r y : List α} (hk : k ≤ (p ++ x).length)
    (h : insertAt t k (p ++ (x ++ y)) = p ++ r) :
    ∃ s, insertAt t k (p ++ x) = p ++ s ∧ r = s ++ y := by
  rw [← List.append_assoc, insertAt_append hk] at h
  rcases List.append_eq_append_iff.mp h with ⟨s, hs, hy⟩ | ⟨s, hs, hr⟩
  · have hlength := congrArg List.length hs
    simp only [List.length_append, length_insertAt] at hlength
    have hnil : s = [] := List.eq_nil_of_length_eq_zero (by omega)
    subst hnil
    exact ⟨[], by simpa using hs.symm, by simpa using hy.symm⟩
  · exact ⟨s, hs, hr⟩

/-- Where the insertion keeps a letter of the text at its place, nothing has
been inserted before it. -/
theorem insertAt_ne_of_before [DecidableEq α] {p r y v : List α} {c : α} (ht : t ≠ [])
    (hc : c ∉ t) (hk : k ≤ (p ++ x).length)
    (h : insertAt t k (p ++ (x ++ c :: y)) = p ++ r) : r ≠ x ++ c :: v := by
  rintro rfl
  obtain ⟨s, hs, hr⟩ := exists_insertAt_before hk h
  have hlength := congrArg List.length hs
  rw [length_insertAt, List.length_append, List.length_append] at hlength
  have hpositive := List.length_pos_iff.mpr ht
  obtain ⟨s', rfl⟩ : ∃ s', s = x ++ c :: s' := by
    rcases List.append_eq_append_iff.mp hr with ⟨s', hs', hrest⟩ | ⟨s', hs', -⟩
    · cases s' with
      | nil =>
          rw [List.append_nil] at hs'
          subst hs'
          omega
      | cons a others =>
          obtain ⟨rfl, -⟩ := List.cons.inj hrest
          exact ⟨others, hs'⟩
    · have hshort := congrArg List.length hs'
      rw [List.length_append] at hshort
      omega
  have hcount := congrArg (List.count c) hs
  have hsplit := congrArg (List.count c) (List.take_append_drop k (p ++ x))
  rw [List.count_append] at hsplit
  simp only [insertAt, List.count_append, List.count_eq_zero_of_not_mem hc, List.count_cons_self]
    at hcount hsplit
  omega

end Iec61850.Words
