import Mathlib.Data.List.Nodup
import Mathlib.Data.List.Perm.Basic

/-!
# Forests linked by first child and next sibling

A forest is stored as a list of records, one for each node, which name their
parent, their next sibling and their first child by key.  If the keys are
distinct, following the pointers from the key of the first root rebuilds the
forest.
-/

namespace Iec61850.Linked

variable {α β K L : Type}

inductive RoseTree (α : Type) where
  | node (value : α) (children : List (RoseTree α))

def RoseTree.value : RoseTree α → α
  | .node value _ => value

/-- A forest is its first tree, the children of that tree, and the rest. -/
theorem forest_induction {motive : List (RoseTree α) → Prop} (nil : motive [])
    (cons : ∀ value children rest, motive children → motive rest →
      motive (.node value children :: rest)) :
    ∀ forest, motive forest
  | [] => nil
  | .node value children :: rest =>
      cons value children rest (forest_induction nil cons children)
        (forest_induction nil cons rest)

def preorder : List (RoseTree α) → List α
  | [] => []
  | .node value children :: rest => value :: (preorder children ++ preorder rest)

def mapForest (f : α → β) : List (RoseTree α) → List (RoseTree β)
  | [] => []
  | .node value children :: rest =>
      .node (f value) (mapForest f children) :: mapForest f rest

@[simp] theorem preorder_nil : preorder ([] : List (RoseTree α)) = [] := by
  simp [preorder]

@[simp] theorem preorder_cons (value : α) (children rest : List (RoseTree α)) :
    preorder (.node value children :: rest) =
      value :: (preorder children ++ preorder rest) := by
  simp [preorder]

@[simp] theorem mapForest_nil (f : α → β) : mapForest f [] = [] := by
  simp [mapForest]

@[simp] theorem mapForest_cons (f : α → β) (value : α) (children rest : List (RoseTree α)) :
    mapForest f (.node value children :: rest) =
      .node (f value) (mapForest f children) :: mapForest f rest := by
  simp [mapForest]

@[simp] theorem preorder_append (left right : List (RoseTree α)) :
    preorder (left ++ right) = preorder left ++ preorder right := by
  induction left with
  | nil => simp
  | cons tree rest ih =>
      cases tree with
      | node value children => simp [ih]

@[simp] theorem mapForest_append (f : α → β) (left right : List (RoseTree α)) :
    mapForest f (left ++ right) = mapForest f left ++ mapForest f right := by
  induction left with
  | nil => simp
  | cons tree rest ih =>
      cases tree with
      | node value children => simp [ih]

theorem preorder_mapForest (f : α → β) (forest : List (RoseTree α)) :
    preorder (mapForest f forest) = (preorder forest).map f := by
  induction forest using forest_induction with
  | nil => simp
  | cons value children rest ihc ihr => simp [ihc, ihr]

theorem mapForest_mapForest {γ : Type} (g : β → γ) (f : α → β) (forest : List (RoseTree α)) :
    mapForest g (mapForest f forest) = mapForest (g ∘ f) forest := by
  induction forest using forest_induction with
  | nil => simp
  | cons value children rest ihc ihr => simp [ihc, ihr]

theorem mapForest_map_node {ι : Type} (f : α → β) (xs : List ι) (value : ι → α)
    (children : ι → List (RoseTree α)) :
    mapForest f (xs.map fun x => .node (value x) (children x)) =
      xs.map fun x => .node (f (value x)) (mapForest f (children x)) := by
  induction xs with
  | nil => simp
  | cons x rest ih => simp [ih]

theorem preorder_map_node {ι : Type} (xs : List ι) (value : ι → α)
    (children : ι → List (RoseTree α)) :
    preorder (xs.map fun x => .node (value x) (children x)) =
      xs.flatMap fun x => value x :: preorder (children x) := by
  induction xs with
  | nil => simp
  | cons x rest ih => simp [ih]

/-! ## Records -/

structure Record (K L : Type) where
  key : K
  label : L
  parent : K
  sibling : Option K
  firstChild : Option K

/-- The key of the first root; the key of what follows for an empty forest. -/
def headKey (next : Option K) : List (RoseTree (K × L)) → Option K
  | [] => next
  | .node (key, _) _ :: _ => some key

/-- The records of a forest, still in tree form; the last root points to
`next`. -/
def link (parent : K) (next : Option K) : List (RoseTree (K × L)) →
    List (RoseTree (Record K L))
  | [] => []
  | .node (key, label) children :: rest =>
      .node ⟨key, label, parent, headKey next rest, headKey none children⟩
        (link key none children) :: link parent next rest

@[simp] theorem headKey_nil (next : Option K) :
    headKey next ([] : List (RoseTree (K × L))) = next := rfl

@[simp] theorem headKey_cons (next : Option K) (key : K) (label : L)
    (children rest : List (RoseTree (K × L))) :
    headKey next (.node (key, label) children :: rest) = some key := rfl

theorem headKey_append (next : Option K) (left right : List (RoseTree (K × L))) :
    headKey next (left ++ right) = headKey (headKey next right) left := by
  cases left with
  | nil => rfl
  | cons tree rest =>
      cases tree with
      | node pair children => rfl

@[simp] theorem link_nil (parent : K) (next : Option K) :
    link parent next ([] : List (RoseTree (K × L))) = [] := by
  simp [link]

@[simp] theorem link_cons (parent : K) (next : Option K) (key : K) (label : L)
    (children rest : List (RoseTree (K × L))) :
    link parent next (.node (key, label) children :: rest) =
      .node ⟨key, label, parent, headKey next rest, headKey none children⟩
        (link key none children) :: link parent next rest := by
  simp [link]

/-- Two lists of siblings form one chain: the first points on to the second. -/
theorem link_append (parent : K) (next : Option K) (left right : List (RoseTree (K × L))) :
    link parent next (left ++ right) =
      link parent (headKey next right) left ++ link parent next right := by
  induction left with
  | nil => simp
  | cons tree rest ih =>
      cases tree with
      | node pair children =>
          obtain ⟨key, label⟩ := pair
          simp [ih, headKey_append]

/-- Numbered siblings, such as the elements of an array. -/
theorem link_map_range (parent : K) (n : ℕ) (key : ℕ → K) (label : ℕ → L)
    (children : ℕ → List (RoseTree (K × L))) :
    link parent none ((List.range n).map fun i => .node (key i, label i) (children i)) =
      (List.range n).map fun i =>
        .node ⟨key i, label i, parent, if i + 1 < n then some (key (i + 1)) else none,
          headKey none (children i)⟩ (link (key i) none (children i)) := by
  have hsuffix : ∀ count first,
      link parent none ((List.range' first count).map fun i =>
        .node (key i, label i) (children i)) =
      (List.range' first count).map fun i =>
        .node ⟨key i, label i, parent,
          if i + 1 < first + count then some (key (i + 1)) else none,
          headKey none (children i)⟩ (link (key i) none (children i)) := by
    intro count
    induction count with
    | zero => simp
    | succ count ih =>
        intro first
        rw [List.range'_succ, List.map_cons, List.map_cons, link_cons, ih (first + 1)]
        have hbound : first + 1 + count = first + (count + 1) := by omega
        rw [hbound]
        congr 3
        cases count with
        | zero => simp
        | succ count => simp [List.range'_succ]
  have hwhole := hsuffix n 0
  rw [Nat.zero_add] at hwhole
  rwa [List.range_eq_range']

theorem mapForest_link (parent : K) (next : Option K) (forest : List (RoseTree (K × L))) :
    mapForest (fun r => (r.key, r.label)) (link parent next forest) = forest := by
  induction forest using forest_induction generalizing parent next with
  | nil => simp
  | cons pair children rest ihc ihr =>
      obtain ⟨key, label⟩ := pair
      simp [ihc, ihr]

theorem preorder_link_map_key (parent : K) (next : Option K)
    (forest : List (RoseTree (K × L))) :
    (preorder (link parent next forest)).map Record.key = (preorder forest).map Prod.fst := by
  conv_rhs => rw [← mapForest_link parent next forest, preorder_mapForest]
  simp

/-- Every record names the key above it as its parent. -/
inductive ParentsAgree : K → List (RoseTree (Record K L)) → Prop
  | nil {parent : K} : ParentsAgree parent []
  | cons {parent : K} {r : Record K L} {children rest : List (RoseTree (Record K L))}
      (hparent : r.parent = parent) (hchildren : ParentsAgree r.key children)
      (hrest : ParentsAgree parent rest) :
      ParentsAgree parent (.node r children :: rest)

theorem parentsAgree_link (parent : K) (next : Option K) (forest : List (RoseTree (K × L))) :
    ParentsAgree parent (link parent next forest) := by
  induction forest using forest_induction generalizing parent next with
  | nil =>
      rw [link_nil]
      exact ParentsAgree.nil
  | cons pair children rest ihc ihr =>
      obtain ⟨key, label⟩ := pair
      rw [link_cons]
      exact ParentsAgree.cons rfl (ihc key none) (ihr parent next)

/-! ## Following the pointers -/

section Walk

variable [DecidableEq K]

def lookup (records : List (Record K L)) (key : K) : Option (Record K L) :=
  records.find? fun r => r.key = key

/-- The forest below a pointer: the record, what is below its first child, and
what follows its sibling; `none` if a pointer names no record. -/
def walk (records : List (Record K L)) : ℕ → Option K → Option (List (RoseTree (Record K L)))
  | _, none => some []
  | 0, some _ => none
  | fuel + 1, some key => do
      let r ← lookup records key
      let children ← walk records fuel r.firstChild
      let rest ← walk records fuel r.sibling
      some (.node r children :: rest)

theorem lookup_of_mem {records : List (Record K L)} (hnodup : (records.map Record.key).Nodup)
    {r : Record K L} (hr : r ∈ records) : lookup records r.key = some r := by
  induction records with
  | nil => simp at hr
  | cons first rest ih =>
      rw [List.map_cons, List.nodup_cons] at hnodup
      rcases List.mem_cons.mp hr with rfl | hr
      · simp [lookup]
      · have hne : first.key ≠ r.key := by
          intro heq
          exact hnodup.1 (heq ▸ List.mem_map_of_mem hr)
        have hrest := ih hnodup.2 hr
        simpa [lookup, List.find?_cons, hne] using hrest

theorem walk_mono {records : List (Record K L)} {n m : ℕ} (hle : n ≤ m)
    {start : Option K} {forest : List (RoseTree (Record K L))}
    (h : walk records n start = some forest) : walk records m start = some forest := by
  induction n generalizing m start forest with
  | zero =>
      cases start with
      | none => cases m <;> simpa [walk] using h
      | some key => simp [walk] at h
  | succ n ih =>
      obtain ⟨m, rfl⟩ : ∃ k, m = k + 1 := ⟨m - 1, by omega⟩
      cases start with
      | none => simpa [walk] using h
      | some key =>
          simp only [walk, Option.bind_eq_bind, Option.bind_eq_some_iff] at h ⊢
          obtain ⟨r, hr, children, hchildren, rest, hrest, hforest⟩ := h
          have hle : n ≤ m := by omega
          exact ⟨r, hr, children, ih hle hchildren, rest, ih hle hrest, hforest⟩

/-- Walking over linked records continues, after the roots, with what `next`
leads to. -/
theorem walk_link_append {records : List (Record K L)} (parent : K) {next : Option K}
    {forest : List (RoseTree (K × L))} {tail : List (RoseTree (Record K L))}
    (hlookup : ∀ r ∈ preorder (link parent next forest), lookup records r.key = some r)
    (htail : ∃ n, walk records n next = some tail) :
    ∃ n, walk records n (headKey next forest) = some (link parent next forest ++ tail) := by
  induction forest using forest_induction generalizing parent next tail with
  | nil => simpa using htail
  | cons pair children rest ihc ihr =>
      obtain ⟨key, label⟩ := pair
      rw [link_cons, preorder_cons, List.forall_mem_cons] at hlookup
      obtain ⟨hroot, hbelow⟩ := hlookup
      obtain ⟨n, hn⟩ : ∃ n, walk records n (headKey none children) =
          some (link key none children) := by
        have hnone : ∃ n, walk records n none = some [] := ⟨0, rfl⟩
        simpa using ihc key (fun r hr => hbelow r (List.mem_append_left _ hr)) hnone
      obtain ⟨m, hm⟩ := ihr parent (fun r hr => hbelow r (List.mem_append_right _ hr)) htail
      refine ⟨max n m + 1, ?_⟩
      have hn' := walk_mono (Nat.le_max_left n m) hn
      have hm' := walk_mono (Nat.le_max_right n m) hm
      rw [headKey_cons, walk, hroot]
      simp [hn', hm']

/-- If the keys are distinct, the pointers lead back to the forest. -/
theorem walk_link (parent : K) {forest : List (RoseTree (K × L))}
    (hnodup : ((preorder forest).map Prod.fst).Nodup) :
    ∃ n, walk (preorder (link parent none forest)) n (headKey none forest) =
      some (link parent none forest) := by
  have hkeys : ((preorder (link parent none forest)).map Record.key).Nodup := by
    rwa [preorder_link_map_key]
  have hnone : ∃ n, walk (preorder (link parent none forest)) n none = some [] := ⟨0, rfl⟩
  simpa using walk_link_append parent (fun r hr => lookup_of_mem hkeys hr) hnone

end Walk

/-! ## No pointer leaves the forest -/

theorem mem_keys_of_headKey {next : Option K} {forest : List (RoseTree (K × L))} {key : K}
    (h : headKey next forest = some key) :
    key ∈ (preorder forest).map Prod.fst ∨ next = some key := by
  cases forest with
  | nil => exact Or.inr h
  | cons tree rest =>
      cases tree with
      | node pair children =>
          obtain ⟨first, label⟩ := pair
          obtain rfl := Option.some.inj h
          exact Or.inl (by simp)

/-- The targets of a record are keys of the forest, the given parent or the
given next sibling. -/
theorem targets_of_mem_link {parent : K} {next : Option K} {forest : List (RoseTree (K × L))}
    {r : Record K L} (hr : r ∈ preorder (link parent next forest)) :
    (r.parent = parent ∨ r.parent ∈ (preorder forest).map Prod.fst) ∧
    (∀ key, r.sibling = some key →
      key ∈ (preorder forest).map Prod.fst ∨ next = some key) ∧
    (∀ key, r.firstChild = some key → key ∈ (preorder forest).map Prod.fst) := by
  induction forest using forest_induction generalizing parent next with
  | nil => simp at hr
  | cons pair children rest ihc ihr =>
      obtain ⟨root, label⟩ := pair
      simp only [link_cons, preorder_cons, List.mem_cons, List.mem_append] at hr
      simp only [preorder_cons, List.map_cons, List.map_append, List.mem_cons,
        List.mem_append]
      rcases hr with rfl | hr | hr
      · refine ⟨Or.inl rfl, fun key hkey => ?_, fun key hkey => ?_⟩
        · rcases mem_keys_of_headKey hkey with hmem | hnext
          · exact Or.inl (Or.inr (Or.inr hmem))
          · exact Or.inr hnext
        · rcases mem_keys_of_headKey hkey with hmem | hnext
          · exact Or.inr (Or.inl hmem)
          · cases hnext
      · obtain ⟨hparent, hsibling, hfirst⟩ := ihc hr
        refine ⟨?_, fun key hkey => ?_, fun key hkey => Or.inr (Or.inl (hfirst key hkey))⟩
        · rcases hparent with hparent | hparent
          · exact Or.inr (Or.inl hparent)
          · exact Or.inr (Or.inr (Or.inl hparent))
        · rcases hsibling key hkey with hmem | hnext
          · exact Or.inl (Or.inr (Or.inl hmem))
          · cases hnext
      · obtain ⟨hparent, hsibling, hfirst⟩ := ihr hr
        refine ⟨?_, fun key hkey => ?_, fun key hkey => Or.inr (Or.inr (hfirst key hkey))⟩
        · rcases hparent with hparent | hparent
          · exact Or.inl hparent
          · exact Or.inr (Or.inr (Or.inr hparent))
        · rcases hsibling key hkey with hmem | hnext
          · exact Or.inl (Or.inr (Or.inr hmem))
          · exact Or.inr hnext

end Iec61850.Linked
