import Mathlib.Data.Set.Lattice

/-!
# Names in the order of a text

A text is a list of items.  Each of them declares some names and uses others,
and a name must be known from elsewhere or declared further up.
-/

namespace Iec61850.Texts

variable {ι κ : Type*}

/-- Every item uses only names that are known or declared by an item before it. -/
def InOrder (uses declares : ι → List κ) (known : Set κ) : List ι → Prop
  | [] => True
  | item :: rest =>
      (∀ v ∈ uses item, v ∈ known) ∧
        InOrder uses declares (known ∪ {v | v ∈ declares item}) rest

variable {uses declares : ι → List κ} {known known' : Set κ} {items more : List ι}

theorem InOrder.mono (hsub : known ⊆ known') (h : InOrder uses declares known items) :
    InOrder uses declares known' items := by
  induction items generalizing known known' with
  | nil => trivial
  | cons item rest ih =>
      obtain ⟨hitem, hrest⟩ := h
      refine ⟨fun v hv => hsub (hitem v hv), ?_⟩
      exact ih (Set.union_subset_union_left _ hsub) hrest

/-- The items behind others may use what those declare. -/
theorem InOrder.append (h : InOrder uses declares known items)
    (hmore : InOrder uses declares (known ∪ {v | ∃ item ∈ items, v ∈ declares item}) more) :
    InOrder uses declares known (items ++ more) := by
  induction items generalizing known with
  | nil => simpa using hmore
  | cons item rest ih =>
      obtain ⟨hitem, hrest⟩ := h
      refine ⟨hitem, ih hrest (hmore.mono ?_)⟩
      rintro v (hv | ⟨declaring, hmem, hv⟩)
      · exact Or.inl (Or.inl hv)
      · rcases List.mem_cons.mp hmem with rfl | hmem
        · exact Or.inl (Or.inr hv)
        · exact Or.inr ⟨declaring, hmem, hv⟩

theorem inOrder_of_known (h : ∀ item ∈ items, ∀ v ∈ uses item, v ∈ known) :
    InOrder uses declares known items := by
  induction items generalizing known with
  | nil => trivial
  | cons item rest ih =>
      obtain ⟨hitem, hrest⟩ := List.forall_mem_cons.mp h
      exact ⟨hitem, ih fun other hother v hv => Or.inl (hrest other hother v hv)⟩

/-- Groups of items, each of which is in order by itself. -/
theorem inOrder_flatMap {α : Type*} {group : α → List ι} {xs : List α}
    (h : ∀ x ∈ xs, InOrder uses declares known (group x)) :
    InOrder uses declares known (xs.flatMap group) := by
  induction xs with
  | nil => trivial
  | cons x rest ih =>
      obtain ⟨hx, hrest⟩ := List.forall_mem_cons.mp h
      rw [List.flatMap_cons]
      exact hx.append ((ih hrest).mono Set.subset_union_left)

/-- Items behind the declarations of all they use. -/
theorem InOrder.append_of_declared (h : InOrder uses declares known items)
    (hmore : ∀ item ∈ more, ∀ v ∈ uses item,
      v ∈ known ∨ ∃ declaring ∈ items, v ∈ declares declaring) :
    InOrder uses declares known (items ++ more) :=
  h.append (inOrder_of_known hmore)

end Iec61850.Texts
