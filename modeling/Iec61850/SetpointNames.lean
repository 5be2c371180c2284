import Iec61850.ModelForest

/-!
# Names with `SE_`

The variable of an attribute of constraint SE carries `SE_` after nine bytes,
unless it starts with `<modelPrefix>_SE_`.  Names below the model prefix with
enough separators are cut in the same place as their parents, and with a prefix
of eight characters the cut is right behind the prefix.
-/

namespace Iec61850.Scl

open Go

/-- The name which `insertSE` returns when it does not panic. -/
def mangleSE (modelPrefix name : Str) : Str :=
  if hasPrefix name (modelPrefix ++ lit "_SE_") then name
  else name.take 9 ++ lit "SE_" ++ name.drop 9

theorem insertSE_eq_ok {modelPrefix name name' : Str}
    (h : insertSE modelPrefix name = .ok name') : name' = mangleSE modelPrefix name := by
  unfold insertSE at h
  unfold mangleSE
  split at h
  next hse =>
    rw [if_pos hse]
    exact (Except.ok.inj h).symm
  next hse =>
    rw [if_neg hse]
    split at h
    · cases h
    · exact (Except.ok.inj h).symm

/-- A name below the model prefix with at least `depth` further separators. -/
def InModel (modelPrefix : Str) (depth : ℕ) (name : Str) : Prop :=
  ∃ rest, name = joinName modelPrefix rest ∧ depth ≤ rest.count '_'

variable {modelPrefix : Str}

theorem inModel_joinName (rest : Str) : InModel modelPrefix 0 (joinName modelPrefix rest) :=
  ⟨rest, rfl, Nat.zero_le _⟩

theorem InModel.child {depth : ℕ} {parent : Str} (h : InModel modelPrefix depth parent)
    (name : Str) : InModel modelPrefix (depth + 1) (joinName parent name) := by
  obtain ⟨rest, rfl, hdepth⟩ := h
  refine ⟨joinName rest name, by simp [joinName], ?_⟩
  rw [joinName, List.count_append, List.count_cons_self]
  omega

theorem InModel.mono {depth depth' : ℕ} {name : Str} (hle : depth ≤ depth')
    (h : InModel modelPrefix depth' name) : InModel modelPrefix depth name := by
  obtain ⟨rest, hname, hdepth⟩ := h
  exact ⟨rest, hname, hle.trans hdepth⟩

/-- Two separators behind the prefix already decide whether the name starts
with `<modelPrefix>_SE_`. -/
theorem InModel.hasPrefix_joinName {parent : Str} (h : InModel modelPrefix 2 parent)
    (name : Str) :
    hasPrefix (joinName parent name) (modelPrefix ++ lit "_SE_") =
      hasPrefix parent (modelPrefix ++ lit "_SE_") := by
  obtain ⟨rest, rfl, hdepth⟩ := h
  have hcut : ∀ tail, hasPrefix (joinName modelPrefix tail) (modelPrefix ++ lit "_SE_") =
      hasPrefix tail (lit "SE_") := by
    intro tail
    rw [Bool.eq_iff_iff, hasPrefix_iff, hasPrefix_iff]
    have hhead : lit "_SE_" = '_' :: lit "SE_" := rfl
    rw [joinName, List.prefix_append_right_inj, hhead, List.cons_prefix_cons]
    simp
  have hjoin : joinName (joinName modelPrefix rest) name =
      joinName modelPrefix (joinName rest name) := by simp [joinName]
  rw [hjoin, hcut, hcut]
  match rest, hdepth with
  | [], hdepth => simp at hdepth
  | [a], hdepth =>
      have hle := List.count_le_length (a := '_') (l := [a])
      simp only [List.length_singleton] at hle
      omega
  | [a, b], hdepth =>
      have ha : a = '_' := by
        by_contra hne
        have hle := List.count_le_length (a := '_') (l := [b])
        rw [List.count_cons_of_ne hne, List.length_singleton] at *
        omega
      subst ha
      rfl
  | a :: b :: c :: others, _ => simp [hasPrefix, joinName, lit, List.isPrefixOf]

/-- Inserting `SE_` and appending a name commute. -/
theorem InModel.mangleSE_joinName {parent : Str} (h : InModel modelPrefix 2 parent)
    (hlength : 9 ≤ parent.length ∨ hasPrefix parent (modelPrefix ++ lit "_SE_") = true)
    (name : Str) :
    mangleSE modelPrefix (joinName parent name) =
      joinName (mangleSE modelPrefix parent) name := by
  unfold mangleSE
  rw [h.hasPrefix_joinName]
  split
  next => rfl
  next hse =>
    have hlength : 9 ≤ parent.length := hlength.resolve_right hse
    rw [joinName, List.take_append_of_le_length hlength,
      List.drop_append_of_le_length hlength]
    simp [joinName]

/-- Nothing is inserted a second time. -/
theorem mangleSE_append {name : Str} (h : hasPrefix name (modelPrefix ++ lit "_SE_") = true)
    (rest : Str) : mangleSE modelPrefix (name ++ rest) = name ++ rest := by
  have hlonger : hasPrefix (name ++ rest) (modelPrefix ++ lit "_SE_") = true := by
    rw [hasPrefix_iff] at h ⊢
    exact h.trans (List.prefix_append name rest)
  rw [mangleSE, if_pos hlonger]

/-- Behind a prefix of eight characters the ninth is the separator. -/
theorem hasPrefix_mangleSE (height : modelPrefix.length = 8) (rest : Str) :
    hasPrefix (mangleSE modelPrefix (joinName modelPrefix rest))
      (modelPrefix ++ lit "_SE_") = true := by
  unfold mangleSE
  split
  next hse => exact hse
  next =>
    have htake : (joinName modelPrefix rest).take 9 = modelPrefix ++ ['_'] := by
      rw [joinName, List.take_append, height, List.take_of_length_le (by omega)]
      simp
    rw [htake, hasPrefix_iff]
    refine ⟨(joinName modelPrefix rest).drop 9, ?_⟩
    simp [lit]

theorem InModel.nine_le_length {depth : ℕ} {name : Str} (h : InModel modelPrefix depth name)
    (height : modelPrefix.length = 8) : 9 ≤ name.length := by
  obtain ⟨rest, rfl, -⟩ := h
  simp [joinName, height]
  omega

end Iec61850.Scl
