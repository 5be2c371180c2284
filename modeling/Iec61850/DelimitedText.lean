import Mathlib.Data.List.Basic

/-!
# Delimited texts

A word without delimiters that is followed by a delimiter, or by nothing, can be
told from what follows it.  So a path whose components stand each behind a
separator can be read back from its text.
-/

namespace Iec61850.Delimited

variable {C : Type} {stops : C → Prop}

/-- No element of the word is a delimiter. -/
def Free (stops : C → Prop) (word : List C) : Prop := ∀ c ∈ word, ¬ stops c

/-- What follows a word: nothing, or a text that starts with a delimiter. -/
def Ends (stops : C → Prop) (rest : List C) : Prop := ∀ c ∈ rest.head?, stops c

theorem ends_nil : Ends stops ([] : List C) := by
  intro c hc
  cases hc

theorem ends_cons {c : C} {rest : List C} : Ends stops (c :: rest) ↔ stops c := by
  simp [Ends]

theorem free_cons {c : C} {word : List C} :
    Free stops (c :: word) ↔ ¬ stops c ∧ Free stops word :=
  List.forall_mem_cons

/-- Two words that end at their first delimiters. -/
theorem append_inj_of_free {u v r s : List C} (hu : Free stops u) (hv : Free stops v)
    (hr : Ends stops r) (hs : Ends stops s) (h : u ++ r = v ++ s) : u = v ∧ r = s := by
  induction u generalizing v with
  | nil =>
      cases v with
      | nil => exact ⟨rfl, h⟩
      | cons d v =>
          have hhead : r = d :: (v ++ s) := h
          rw [hhead, ends_cons] at hr
          exact absurd hr (free_cons.mp hv).1
  | cons c u ih =>
      cases v with
      | nil =>
          have hhead : s = c :: (u ++ r) := h.symm
          rw [hhead, ends_cons] at hs
          exact absurd hs (free_cons.mp hu).1
      | cons d v =>
          rw [List.cons_append, List.cons_append, List.cons.injEq] at h
          have hrest := ih (free_cons.mp hu).2 (free_cons.mp hv).2 h.2
          exact ⟨by rw [h.1, hrest.1], hrest.2⟩

/-- Two words without the separator that stands behind them. -/
theorem append_cons_inj {c : C} {u v r s : List C} (hu : c ∉ u) (hv : c ∉ v)
    (h : u ++ c :: r = v ++ c :: s) : u = v ∧ r = s := by
  have hfree : ∀ {word : List C}, c ∉ word → Free (· = c) word :=
    fun hword d hd hstop => hword (hstop ▸ hd)
  obtain ⟨hsame, hrest⟩ := append_inj_of_free (hfree hu) (hfree hv) (ends_cons.mpr rfl)
    (ends_cons.mpr rfl) h
  exact ⟨hsame, (List.cons.inj hrest).2⟩

/-! ## Paths -/

/-- The components of a path, each behind the separator. -/
def joined (separator : C) (path : List (List C)) : List C :=
  path.flatMap fun component => separator :: component

section Joined

variable {separator : C} {path path' : List (List C)}

@[simp] theorem joined_nil : joined separator ([] : List (List C)) = [] := rfl

@[simp] theorem joined_cons (component : List C) (path : List (List C)) :
    joined separator (component :: path) =
      separator :: (component ++ joined separator path) := by
  rw [joined, List.flatMap_cons]
  rfl

theorem joined_append (path path' : List (List C)) :
    joined separator (path ++ path') = joined separator path ++ joined separator path' :=
  List.flatMap_append

theorem ends_joined (path : List (List C)) :
    Ends (· = separator) (joined separator path) := by
  cases path with
  | nil => exact ends_nil
  | cons component path =>
      rw [joined_cons]
      exact ends_cons.mpr rfl

/-- Without separators in its components a path can be read back. -/
theorem joined_inj (hpath : ∀ component ∈ path, separator ∉ component)
    (hpath' : ∀ component ∈ path', separator ∉ component)
    (h : joined separator path = joined separator path') : path = path' := by
  have hfree : ∀ component : List C, separator ∉ component → Free (· = separator) component :=
    fun component hcomponent c hc hstop => hcomponent (hstop ▸ hc)
  induction path generalizing path' with
  | nil =>
      cases path' with
      | nil => rfl
      | cons component path' => cases h
  | cons component path ih =>
      cases path' with
      | nil => cases h
      | cons component' path' =>
          obtain ⟨hown, hrest⟩ := List.forall_mem_cons.mp hpath
          obtain ⟨hown', hrest'⟩ := List.forall_mem_cons.mp hpath'
          rw [joined_cons, joined_cons, List.cons.injEq] at h
          obtain ⟨rfl, htail⟩ := append_inj_of_free (hfree _ hown) (hfree _ hown')
            (ends_joined path) (ends_joined path') h.2
          rw [ih hrest hrest' htail]

end Joined

/-! ## Items in brackets -/

section Items

variable {A : Type} {text : A → List C} {stops : C → Prop}

/-- Items that follow others, each behind the separator. -/
def following (text : A → List C) (separator : List C) (items : List A) : List C :=
  items.flatMap fun item => separator ++ text item

/-- Items with the separator between them. -/
def separated (text : A → List C) (separator : List C) : List A → List C
  | [] => []
  | item :: rest => text item ++ following text separator rest

/-- Wherever the text of the item is followed by a delimiter, both can be read. -/
def Recoverable (stops : C → Prop) (text : A → List C) (P : A → Prop) (item : A) : Prop :=
  ∀ other, P other → ∀ rest rest', Ends stops rest → Ends stops rest' →
    text item ++ rest = text other ++ rest' → item = other ∧ rest = rest'

variable {P : A → Prop} {c d : C} {separator close : List C} {items items' : List A}

theorem ends_following (hc : stops c) (hd : stops d) (rest : List C) :
    Ends stops (following text (c :: separator) items ++ (d :: close ++ rest)) := by
  cases items with
  | nil => exact ends_cons.mpr hd
  | cons item others => exact ends_cons.mpr hc

theorem following_inj (hc : stops c) (hd : stops d) (hne : c ≠ d)
    (hread : ∀ item ∈ items, Recoverable stops text P item) (hP : ∀ item ∈ items', P item)
    {rest rest' : List C}
    (h : following text (c :: separator) items ++ (d :: close ++ rest) =
      following text (c :: separator) items' ++ (d :: close ++ rest')) :
    items = items' ∧ rest = rest' := by
  induction items generalizing items' with
  | nil =>
      cases items' with
      | nil => exact ⟨rfl, List.append_cancel_left h⟩
      | cons item' others' => exact absurd (List.cons.inj h).1.symm hne
  | cons item others ih =>
      cases items' with
      | nil => exact absurd (List.cons.inj h).1 hne
      | cons item' others' =>
          obtain ⟨hitem, hothers⟩ := List.forall_mem_cons.mp hread
          obtain ⟨hitem', hothers'⟩ := List.forall_mem_cons.mp hP
          have hsplit : ∀ (a : A) (as : List A) (tail : List C),
              following text (c :: separator) (a :: as) ++ tail =
                (c :: separator) ++ (text a ++ (following text (c :: separator) as ++ tail)) := by
            intro a as tail
            simp [following]
          rw [hsplit, hsplit] at h
          obtain ⟨rfl, htail⟩ := hitem item' hitem' _ _ (ends_following hc hd rest)
            (ends_following hc hd rest') (List.append_cancel_left h)
          obtain ⟨rfl, hrest⟩ := ih hothers hothers' htail
          exact ⟨rfl, hrest⟩

/-- Items can be read where the separator differs from what closes, and no item starts as
what closes does. -/
theorem separated_inj (hc : stops c) (hd : stops d) (hne : c ≠ d)
    (hread : ∀ item ∈ items, Recoverable stops text P item) (hP : ∀ item ∈ items, P item)
    (hP' : ∀ item ∈ items', P item)
    (hstart : ∀ item, P item → ∀ rest, (text item ++ rest).head? ≠ some d)
    {rest rest' : List C}
    (h : separated text (c :: separator) items ++ (d :: close ++ rest) =
      separated text (c :: separator) items' ++ (d :: close ++ rest')) :
    items = items' ∧ rest = rest' := by
  cases items with
  | nil =>
      cases items' with
      | nil => exact ⟨rfl, List.append_cancel_left h⟩
      | cons item' others' =>
          rw [separated, separated, List.append_assoc] at h
          have hhead := hstart item' (hP' item' List.mem_cons_self)
            (following text (c :: separator) others' ++ (d :: close ++ rest'))
          rw [← h] at hhead
          exact absurd rfl hhead
  | cons item others =>
      cases items' with
      | nil =>
          rw [separated, separated, List.append_assoc] at h
          have hhead := hstart item (hP item List.mem_cons_self)
            (following text (c :: separator) others ++ (d :: close ++ rest))
          rw [h] at hhead
          exact absurd rfl hhead
      | cons item' others' =>
          obtain ⟨hitem, hothers⟩ := List.forall_mem_cons.mp hread
          obtain ⟨hitem', hothers'⟩ := List.forall_mem_cons.mp hP'
          rw [separated, separated, List.append_assoc, List.append_assoc] at h
          obtain ⟨rfl, htail⟩ := hitem item' hitem' _ _ (ends_following hc hd rest)
            (ends_following hc hd rest') h
          obtain ⟨rfl, hrest⟩ := following_inj hc hd hne hothers hothers' htail
          exact ⟨rfl, hrest⟩

end Items

end Iec61850.Delimited
