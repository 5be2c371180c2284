import Mathlib.Data.List.Nodup

/-!
# Trees with labelled edges

A nested value is a tree whose leaves hold the scalars and whose edges say which
component one goes to.  If the edges at every node have different labels, the leaves are
what the paths lead to, and no two leaves have one path.
-/

namespace Iec61850.Labelled

variable {A L : Type}

inductive Tree (A L : Type)
  | leaf (value : L)
  | node (children : List (A × Tree A L))

mutual

/-- The leaves from left to right, each with the path to it. -/
def Tree.leaves : Tree A L → List (List A × L)
  | .leaf value => [([], value)]
  | .node children => leavesBelow children

def leavesBelow : List (A × Tree A L) → List (List A × L)
  | [] => []
  | (label, child) :: rest =>
      (child.leaves.map fun leaf => (label :: leaf.1, leaf.2)) ++ leavesBelow rest

end

/-- The tree that a path leads to. -/
def Tree.follow [DecidableEq A] : Tree A L → List A → Option (Tree A L)
  | tree, [] => some tree
  | .leaf _, _ :: _ => none
  | .node children, label :: path =>
      match children.find? fun child => child.1 = label with
      | some child => child.2.follow path
      | none => none

/-- The edges at every node have different labels, and each satisfies `P`. -/
inductive Tree.Distinct (P : A → Prop) : Tree A L → Prop
  | leaf (value : L) : Tree.Distinct P (.leaf value)
  | node {children : List (A × Tree A L)} (hnodup : (children.map Prod.fst).Nodup)
      (hlabels : ∀ child ∈ children, P child.1)
      (hchildren : ∀ child ∈ children, child.2.Distinct P) : Tree.Distinct P (.node children)

variable {P : A → Prop}

theorem leavesBelow_eq_flatMap (children : List (A × Tree A L)) :
    leavesBelow children = children.flatMap fun child =>
      child.2.leaves.map fun leaf => (child.1 :: leaf.1, leaf.2) := by
  induction children with
  | nil => rfl
  | cons child rest ih => rw [leavesBelow, ih, List.flatMap_cons]

theorem leaves_node (children : List (A × Tree A L)) :
    (Tree.node children).leaves = leavesBelow children := by
  rw [Tree.leaves]

/-- Where the marks differ, a mark is found at the one element that has it. -/
theorem find?_eq_some_iff_of_nodup {B : Type} [DecidableEq B] {elements : List A} {mark : A → B}
    (hnodup : (elements.map mark).Nodup) {b : B} {a : A} :
    elements.find? (fun other => mark other = b) = some a ↔ a ∈ elements ∧ mark a = b := by
  induction elements with
  | nil => simp
  | cons first rest ih =>
      obtain ⟨hfirst, hrest⟩ := List.nodup_cons.mp hnodup
      have hother : a ∈ rest → mark a ≠ mark first :=
        fun ha heq => hfirst (heq ▸ List.mem_map_of_mem ha)
      by_cases hmark : mark first = b
      · rw [List.find?_cons_of_pos (by simpa using hmark), Option.some.injEq, List.mem_cons]
        constructor
        · intro heq
          exact ⟨Or.inl heq.symm, heq ▸ hmark⟩
        · rintro ⟨heq | ha, hb⟩
          · exact heq.symm
          · exact absurd (hb.trans hmark.symm) (hother ha)
      · rw [List.find?_cons_of_neg (by simpa using hmark), ih hrest, List.mem_cons]
        constructor
        · exact fun h => ⟨Or.inr h.1, h.2⟩
        · rintro ⟨rfl | ha, hb⟩
          · exact absurd hb hmark
          · exact ⟨ha, hb⟩

/-- Behind its first edge a path goes on in the child that the edge leads to. -/
theorem follow_cons_iff [DecidableEq A] {children : List (A × Tree A L)}
    (hnodup : (children.map Prod.fst).Nodup) {label : A} {path : List A} {tree : Tree A L} :
    (Tree.node children).follow (label :: path) = some tree ↔
      ∃ child, (label, child) ∈ children ∧ child.follow path = some tree := by
  rw [Tree.follow]
  constructor
  · intro hfollow
    split at hfollow
    next child hfind =>
      obtain ⟨hmem, hlabel⟩ := (find?_eq_some_iff_of_nodup hnodup).mp hfind
      exact ⟨child.2, hlabel ▸ hmem, hfollow⟩
    next => cases hfollow
  · intro hchild
    obtain ⟨child, hmem, hfollow⟩ := hchild
    have hfind := (find?_eq_some_iff_of_nodup hnodup (b := label)).mpr ⟨hmem, rfl⟩
    rw [hfind]
    exact hfollow

theorem mem_leavesBelow_iff {children : List (A × Tree A L)} {leaf : List A × L} :
    leaf ∈ leavesBelow children ↔
      ∃ child ∈ children, ∃ below ∈ child.2.leaves, (child.1 :: below.1, below.2) = leaf := by
  rw [leavesBelow_eq_flatMap, List.mem_flatMap]
  simp only [List.mem_map]

/-- The leaves are what the paths lead to. -/
theorem Tree.Distinct.mem_leaves_iff [DecidableEq A] {tree : Tree A L}
    (h : tree.Distinct P) {path : List A} {value : L} :
    (path, value) ∈ tree.leaves ↔ tree.follow path = some (.leaf value) := by
  induction h generalizing path with
  | leaf v =>
      rw [Tree.leaves, List.mem_singleton, Prod.mk.injEq]
      cases path with
      | nil => simp [Tree.follow, eq_comm]
      | cons label path => simp [Tree.follow]
  | @node children hnodup _ _ ih =>
      rw [leaves_node, mem_leavesBelow_iff]
      cases path with
      | nil => simp [Tree.follow]
      | cons label path =>
          rw [follow_cons_iff hnodup]
          constructor
          · rintro ⟨child, hchild, below, hbelow, heq⟩
            obtain ⟨hpath, rfl⟩ := Prod.mk.inj heq
            obtain ⟨rfl, rfl⟩ := List.cons.inj hpath
            exact ⟨child.2, hchild, (ih child hchild).mp hbelow⟩
          · rintro ⟨child, hchild, hfollow⟩
            exact ⟨(label, child), hchild, (path, value), (ih _ hchild).mpr hfollow, rfl⟩

/-- No two leaves have one path. -/
theorem Tree.Distinct.nodup_leaves {tree : Tree A L} (h : tree.Distinct P) :
    (tree.leaves.map Prod.fst).Nodup := by
  induction h with
  | leaf v => simp [Tree.leaves]
  | @node children hnodup hlabels hchildren ih =>
      rw [leaves_node]
      clear hlabels hchildren
      induction children with
      | nil => simp [leavesBelow]
      | cons child rest ihRest =>
          obtain ⟨hfirst, hrest⟩ := List.nodup_cons.mp hnodup
          have htail := ihRest hrest fun other hother =>
            ih other (List.mem_cons_of_mem child hother)
          have hpaths : (child.2.leaves.map fun leaf => (child.1 :: leaf.1, leaf.2)).map
              Prod.fst = (child.2.leaves.map Prod.fst).map (child.1 :: ·) := by
            rw [List.map_map, List.map_map]
            rfl
          rw [leavesBelow, List.map_append, hpaths, List.nodup_append']
          refine ⟨(ih child List.mem_cons_self).map (List.cons_injective), htail, ?_⟩
          intro path hpath hother
          obtain ⟨_, -, rfl⟩ := List.mem_map.mp hpath
          obtain ⟨leaf, hleaf, heq⟩ := List.mem_map.mp hother
          obtain ⟨other, hmem, below, -, rfl⟩ := mem_leavesBelow_iff.mp hleaf
          obtain ⟨hlabel, -⟩ := List.cons.inj heq
          exact hfirst (hlabel ▸ List.mem_map_of_mem hmem)

/-- The labels on the paths. -/
theorem Tree.Distinct.labels {tree : Tree A L} (h : tree.Distinct P) :
    ∀ leaf ∈ tree.leaves, ∀ label ∈ leaf.1, P label := by
  induction h with
  | leaf v => simp [Tree.leaves]
  | @node children _ hlabels _ ih =>
      intro leaf hleaf label hlabel
      rw [leaves_node] at hleaf
      obtain ⟨child, hchild, below, hbelow, rfl⟩ := mem_leavesBelow_iff.mp hleaf
      rcases List.mem_cons.mp hlabel with rfl | hlabel
      · exact hlabels child hchild
      · exact ih child hchild below hbelow label hlabel

/-- Texts of paths that can be told apart belong to one leaf each. -/
theorem Tree.Distinct.nodup_texts {B : Type} {tree : Tree A L} (h : tree.Distinct P)
    {text : List A → B}
    (htext : ∀ p q, (∀ a ∈ p, P a) → (∀ a ∈ q, P a) → text p = text q → p = q) :
    (tree.leaves.map fun leaf => text leaf.1).Nodup := by
  have hpaths : (tree.leaves.map fun leaf => text leaf.1) =
      (tree.leaves.map Prod.fst).map text := by
    rw [List.map_map]
    rfl
  rw [hpaths]
  refine List.Nodup.map_on (fun p hp q hq => ?_) h.nodup_leaves
  obtain ⟨leaf, hleaf, rfl⟩ := List.mem_map.mp hp
  obtain ⟨other, hother, rfl⟩ := List.mem_map.mp hq
  exact htext _ _ (h.labels leaf hleaf) (h.labels other hother)

end Iec61850.Labelled
