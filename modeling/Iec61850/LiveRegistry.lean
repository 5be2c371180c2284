import Mathlib.Logic.Function.Basic

/-!
# Tables of live entries

A table holds an entry for an identifier as long as some owner holds the
identifier.  Owners take and give up identifiers, and the table is changed
along with them: the rules below say when it still agrees with the owners.
-/

namespace Iec61850.Registry

variable {Owner Id Entry : Type}

/-- The identifiers with an entry are those that some owner holds. -/
def Live (holds : Owner → Id → Prop) (table : Id → Option Entry) : Prop :=
  ∀ id, (table id).isSome = true ↔ ∃ owner, holds owner id

/-- The table without the entries of these identifiers. -/
def discard (gone : Id → Prop) [DecidablePred gone] (table : Id → Option Entry) :
    Id → Option Entry :=
  fun id => if gone id then none else table id

/-- The owners after one of them has taken an identifier. -/
def taken (holds : Owner → Id → Prop) (owner : Owner) (id : Id) : Owner → Id → Prop :=
  fun owner' id' => holds owner' id' ∨ (owner' = owner ∧ id' = id)

/-- The owners after some have given up identifiers. -/
def givenUp (holds removed : Owner → Id → Prop) : Owner → Id → Prop :=
  fun owner id => holds owner id ∧ ¬ removed owner id

variable {holds holds' removed : Owner → Id → Prop} {table : Id → Option Entry}

theorem live_congr (h : ∀ owner id, holds owner id ↔ holds' owner id) :
    Live holds table ↔ Live holds' table := by
  unfold Live
  simp only [h]

theorem live_empty (hholds : ∀ owner id, ¬ holds owner id) :
    Live holds (fun _ : Id => (none : Option Entry)) := by
  intro id
  simp [hholds]

theorem Live.not_holds (h : Live holds table) {id : Id} (hid : table id = none)
    (owner : Owner) : ¬ holds owner id := by
  intro howner
  have hsome := (h id).mpr ⟨owner, howner⟩
  rw [hid] at hsome
  simp at hsome

section Enter

variable [DecidableEq Id]

theorem Live.enter (h : Live holds table) (owner : Owner) (id : Id) (entry : Entry) :
    Live (taken holds owner id) (Function.update table id (some entry)) := by
  intro id'
  by_cases hid : id' = id
  · subst hid
    simp [taken]
  · rw [Function.update_of_ne hid, h id']
    simp [taken, hid]

/-- An entry under an identifier that was not in use changes nothing for the
others. -/
theorem live_enter_iff {owner : Owner} {id : Id} {entry : Entry}
    (hfresh : table id = none) (hheld : ∀ owner, ¬ holds owner id) :
    Live (taken holds owner id) (Function.update table id (some entry)) ↔
      Live holds table := by
  constructor
  · intro h id'
    by_cases hid : id' = id
    · subst hid
      simp [hfresh, hheld]
    · have hother := h id'
      rw [Function.update_of_ne hid] at hother
      rw [hother]
      simp [taken, hid]
  · intro h
    exact h.enter owner id entry

end Enter

/-- Entries may go exactly when nobody holds their identifiers any more. -/
theorem Live.discard_iff (h : Live holds table) (gone : Id → Prop) [DecidablePred gone] :
    Live (givenUp holds removed) (discard gone table) ↔
      (∀ id, gone id → ∀ owner, holds owner id → removed owner id) ∧
        ∀ id, ¬ gone id → (∃ owner, holds owner id) →
          ∃ owner, holds owner id ∧ ¬ removed owner id := by
  have hentry (id : Id) (hid : ¬ gone id) : discard gone table id = table id := if_neg hid
  have hnone (id : Id) (hid : gone id) : discard gone table id = none := if_pos hid
  constructor
  · intro hlive
    constructor
    · intro id hid owner howner
      by_contra hkept
      have hsome := (hlive id).mpr ⟨owner, howner, hkept⟩
      rw [hnone id hid] at hsome
      simp at hsome
    · intro id hid hheld
      apply (hlive id).mp
      rw [hentry id hid]
      exact (h id).mpr hheld
  · rintro ⟨hgone, hkept⟩ id
    by_cases hid : gone id
    · rw [hnone id hid]
      simp only [Option.isSome_none, Bool.false_eq_true, false_iff]
      rintro ⟨owner, howner, hremains⟩
      exact hremains (hgone id hid owner howner)
    · rw [hentry id hid, h id]
      constructor
      · exact hkept id hid
      · rintro ⟨owner, howner, -⟩
        exact ⟨owner, howner⟩

/-! ## Identifiers with one owner -/

/-- No two owners hold the same identifier. -/
def Unshared (holds : Owner → Id → Prop) : Prop :=
  ∀ owner owner' id, holds owner id → holds owner' id → owner = owner'

theorem Unshared.givenUp (h : Unshared holds) : Unshared (givenUp holds removed) :=
  fun owner owner' id howner howner' => h owner owner' id howner.1 howner'.1

theorem Unshared.taken (h : Unshared holds) {owner : Owner} {id : Id}
    (hheld : ∀ owner, ¬ holds owner id) : Unshared (taken holds owner id) := by
  rintro first second id' (hfirst | ⟨rfl, rfl⟩) (hsecond | ⟨hsame, hid⟩)
  · exact h first second id' hfirst hsecond
  · subst hid
    exact absurd hfirst (hheld first)
  · exact absurd hsecond (hheld second)
  · exact hsame.symm

theorem Unshared.congr (h : Unshared holds)
    (hiff : ∀ owner id, holds owner id ↔ holds' owner id) : Unshared holds' :=
  fun owner owner' id howner howner' =>
    h owner owner' id ((hiff owner id).mpr howner) ((hiff owner' id).mpr howner')

/-- When owners leave and the table stays, they must not have held anything. -/
theorem Live.leave_iff (h : Live holds table) (hunshared : Unshared holds)
    (leaving : Owner → Prop) :
    Live (givenUp holds fun owner _ => leaving owner) table ↔
      ∀ owner id, leaving owner → ¬ holds owner id := by
  have hall : discard (fun _ : Id => False) table = table := funext fun _ => if_neg not_false
  rw [← hall, h.discard_iff]
  constructor
  · rintro ⟨-, hkept⟩ owner id hleaving howner
    obtain ⟨other, hother, hstays⟩ := hkept id not_false ⟨owner, howner⟩
    obtain rfl := hunshared owner other id howner hother
    exact hstays hleaving
  · intro hnothing
    refine ⟨fun id hid => hid.elim, fun id _ ⟨owner, howner⟩ => ⟨owner, howner, ?_⟩⟩
    exact fun hleaving => hnothing owner id hleaving howner

/-- When owners leave, the entries of what they held go with them. -/
theorem Live.leave (h : Live holds table) (hunshared : Unshared holds)
    (leaving : Owner → Prop) {gone : Id → Prop} [DecidablePred gone]
    (hgone : ∀ id, gone id ↔ ∃ owner, leaving owner ∧ holds owner id) :
    Live (givenUp holds fun owner _ => leaving owner) (discard gone table) := by
  rw [h.discard_iff]
  constructor
  · intro id hid owner howner
    obtain ⟨other, hleaving, hother⟩ := (hgone id).mp hid
    rwa [hunshared owner other id howner hother]
  · rintro id hid ⟨owner, howner⟩
    refine ⟨owner, howner, fun hleaving => hid ?_⟩
    exact (hgone id).mpr ⟨owner, hleaving, howner⟩

end Iec61850.Registry
