import Iec61850.ReadValues
import Mathlib.Data.List.Perm.Basic

/-!
# Values of another shape

`GetVariableTypeValues` walks through any value beside any specification.  A mismatch
is an error where the specification is of a composite and the value is not of the same
one; elsewhere the walk lets it pass.
-/

namespace Iec61850.Mms

open Go

variable {Scalar K : Type}

/-! ## Nodes that stand side by side -/

/-- A division of the types into kinds, in which arrays and structures are kinds of
their own: the scalars may be of one kind or of several. -/
structure Kinds (K : Type) where
  kind : MmsType → K
  array_of_kind : ∀ type, kind type = kind .array → type = .array
  struct_of_kind : ∀ type, kind type = kind .struct → type = .struct

/-- The specification and the value of a node below, each by its position. -/
inductive Aligned :
    MmsVariableSpec → MmsValue Scalar → MmsVariableSpec → MmsValue Scalar → Prop
  | here (spec : MmsVariableSpec) (val : MmsValue Scalar) : Aligned spec val spec val
  | element {spec element s : MmsVariableSpec} {val child v : MmsValue Scalar}
      (hspec : spec.type = .array) (hval : val.type = .array)
      (helement : spec.array.bind MmsArraySpec.element = some element)
      (hchild : some child ∈ val.elements) (hbelow : Aligned element child s v) :
      Aligned spec val s v
  | field {spec field s : MmsVariableSpec} {val child v : MmsValue Scalar}
      (hspec : spec.type = .struct) (hval : val.type = .struct)
      (hfield : (field, some child) ∈ spec.fields.zip val.elements)
      (hbelow : Aligned field child s v) : Aligned spec val s v

/-- As many elements as the specification says. -/
def SameCount (spec : MmsVariableSpec) (val : MmsValue Scalar) : Prop :=
  (spec.type = .array →
    ∀ array, spec.array = some array → array.elementCount = val.elements.length) ∧
  (spec.type = .struct → spec.fields.length = val.elements.length)

/-- The node is of the same kind and has as many elements. -/
def NodeMatches (kinds : Kinds K) (spec : MmsVariableSpec) (val : MmsValue Scalar) : Prop :=
  kinds.kind spec.type = kinds.kind val.type ∧ SameCount spec val

/-- The value matches its specification everywhere. -/
def Conforms (kinds : Kinds K) (spec : MmsVariableSpec) (val : MmsValue Scalar) : Prop :=
  ∀ s v, Aligned spec val s v → NodeMatches kinds s v

/-- At this node the walk ends with an error: the composite that is specified is not
there, or the specification lacks a part. -/
def NoticedAt (spec : MmsVariableSpec) (val : MmsValue Scalar) : Prop :=
  (spec.type.IsComposite ∧ val.type ≠ spec.type) ∨
  (spec.type = .array ∧ val.elements ≠ [] ∧ spec.array.bind MmsArraySpec.element = none) ∨
  (spec.type = .struct ∧ spec.struct = none)

/-- At this node a mismatch passes: the specification is of a scalar, or only the numbers
of elements differ. -/
def SlipsAt (kinds : Kinds K) (spec : MmsVariableSpec) (val : MmsValue Scalar) : Prop :=
  (¬ spec.type.IsComposite ∧ kinds.kind spec.type ≠ kinds.kind val.type) ∨
  (spec.type = val.type ∧ ¬ SameCount spec val)

def Noticed (spec : MmsVariableSpec) (val : MmsValue Scalar) : Prop :=
  ∃ s v, Aligned spec val s v ∧ NoticedAt s v

def Slips (kinds : Kinds K) (spec : MmsVariableSpec) (val : MmsValue Scalar) : Prop :=
  ∃ s v, Aligned spec val s v ∧ SlipsAt kinds s v

theorem noticedAt_array_iff {spec : MmsVariableSpec} (hspec : spec.type = .array)
    (elems : List (Option (MmsValue Scalar))) :
    NoticedAt spec ⟨.array, .elements elems⟩ ↔
      elems ≠ [] ∧ spec.array.bind MmsArraySpec.element = none := by
  have hstruct : spec.type ≠ .struct := by
    rw [hspec]
    decide
  unfold NoticedAt
  rw [or_iff_right (fun h => h.2 hspec.symm), or_iff_left (fun h => hstruct h.1)]
  exact and_iff_right hspec

theorem noticedAt_struct_iff {spec : MmsVariableSpec} (hspec : spec.type = .struct)
    (content : MmsContent Scalar (MmsValue Scalar)) :
    NoticedAt spec ⟨.struct, content⟩ ↔ spec.struct = none := by
  have harray : spec.type ≠ .array := by
    rw [hspec]
    decide
  unfold NoticedAt
  rw [or_iff_right (fun h => h.2 hspec.symm), or_iff_right (fun h => harray h.1)]
  exact and_iff_right hspec

theorem NodeMatches.not_slipsAt {kinds : Kinds K} {spec : MmsVariableSpec}
    {val : MmsValue Scalar} (h : NodeMatches kinds spec val) : ¬ SlipsAt kinds spec val := by
  intro hslips
  rcases hslips with ⟨-, hkind⟩ | ⟨-, hcount⟩
  · exact hkind h.1
  · exact hcount h.2

theorem nodeMatches_of_not {kinds : Kinds K} {spec : MmsVariableSpec} {val : MmsValue Scalar}
    (hnoticed : ¬ NoticedAt spec val) (hslips : ¬ SlipsAt kinds spec val) :
    NodeMatches kinds spec val := by
  by_cases hspec : spec.type.IsComposite
  · have htype : spec.type = val.type := by
      by_contra hne
      exact hnoticed (Or.inl ⟨hspec, Ne.symm hne⟩)
    have hcount : SameCount spec val := by
      by_contra hcount
      exact hslips (Or.inr ⟨htype, hcount⟩)
    exact ⟨congrArg kinds.kind htype, hcount⟩
  · have hkind : kinds.kind spec.type = kinds.kind val.type := by
      by_contra hkind
      exact hslips (Or.inl ⟨hspec, hkind⟩)
    have harray : spec.type ≠ .array := fun h => hspec (Or.inl h)
    have hstruct : spec.type ≠ .struct := fun h => hspec (Or.inr h)
    exact ⟨hkind, fun h => absurd h harray, fun h => absurd h hstruct⟩

/-- Where no mismatch is noticed, every mismatch slips. -/
theorem conforms_iff_of_not_noticed {kinds : Kinds K} {spec : MmsVariableSpec}
    {val : MmsValue Scalar} (hnoticed : ¬ Noticed spec val) :
    Conforms kinds spec val ↔ ¬ Slips kinds spec val := by
  constructor
  · rintro hconforms ⟨s, v, hbelow, hslips⟩
    exact (hconforms s v hbelow).not_slipsAt hslips
  · intro hslips s v hbelow
    exact nodeMatches_of_not (fun h => hnoticed ⟨s, v, hbelow, h⟩)
      (fun h => hslips ⟨s, v, hbelow, h⟩)

/-! ## Below a node -/

section

variable {spec : MmsVariableSpec} {children : List (MmsValue Scalar)}
variable {P : MmsVariableSpec → MmsValue Scalar → Prop}

/-- Only the node itself stands beside a specification that is not of its composite. -/
theorem Aligned.eq_of_ne {s : MmsVariableSpec} {val v : MmsValue Scalar}
    (h : Aligned spec val s v) (hne : ¬ (spec.type.IsComposite ∧ val.type = spec.type)) :
    s = spec ∧ v = val := by
  cases h with
  | here => exact ⟨rfl, rfl⟩
  | element hspec hval => exact absurd ⟨Or.inl hspec, hval.trans hspec.symm⟩ hne
  | field hspec hval => exact absurd ⟨Or.inr hspec, hval.trans hspec.symm⟩ hne

theorem exists_aligned_array (hspec : spec.type = .array) :
    (∃ s v, Aligned spec ⟨.array, .elements (children.map some)⟩ s v ∧ P s v) ↔
      P spec ⟨.array, .elements (children.map some)⟩ ∨
        ∃ element, spec.array.bind MmsArraySpec.element = some element ∧
          ∃ child ∈ children, ∃ s v, Aligned element child s v ∧ P s v := by
  constructor
  · rintro ⟨s, v, hbelow, hP⟩
    cases hbelow with
    | here => exact Or.inl hP
    | element _ _ helement hchild hbelow =>
        obtain ⟨child, hmem, heq⟩ := List.mem_map.mp hchild
        obtain rfl := Option.some.inj heq
        exact Or.inr ⟨_, helement, child, hmem, s, v, hbelow, hP⟩
    | field hstruct => exact absurd (hspec.symm.trans hstruct) (by decide)
  · rintro (hP | ⟨element, helement, child, hmem, s, v, hbelow, hP⟩)
    · exact ⟨spec, _, .here spec _, hP⟩
    · exact ⟨s, v, .element hspec rfl helement (List.mem_map_of_mem hmem) hbelow, hP⟩

theorem exists_aligned_struct (hspec : spec.type = .struct) :
    (∃ s v, Aligned spec ⟨.struct, .elements (children.map some)⟩ s v ∧ P s v) ↔
      P spec ⟨.struct, .elements (children.map some)⟩ ∨
        ∃ pair ∈ spec.fields.zip children, ∃ s v, Aligned pair.1 pair.2 s v ∧ P s v := by
  have hzip : spec.fields.zip (children.map some) =
      (spec.fields.zip children).map (Prod.map id some) := List.zip_map_right
  constructor
  · rintro ⟨s, v, hbelow, hP⟩
    cases hbelow with
    | here => exact Or.inl hP
    | element harray => exact absurd (hspec.symm.trans harray) (by decide)
    | field _ _ hfield hbelow =>
        rw [MmsValue.elements, hzip] at hfield
        obtain ⟨pair, hmem, heq⟩ := List.mem_map.mp hfield
        obtain ⟨hfst, hsnd⟩ := Prod.mk.inj heq
        obtain rfl := Option.some.inj hsnd
        obtain rfl := hfst
        exact Or.inr ⟨pair, hmem, s, v, hbelow, hP⟩
  · rintro (hP | ⟨pair, hmem, s, v, hbelow, hP⟩)
    · exact ⟨spec, _, .here spec _, hP⟩
    · have hfield : (pair.1, some pair.2) ∈ spec.fields.zip (children.map some) := by
        rw [hzip]
        exact List.mem_map.mpr ⟨pair, hmem, rfl⟩
      exact ⟨s, v, .field hspec rfl hfield hbelow, hP⟩

end

/-! ## Where the walk ends -/

theorem isOk_append {E A : Type} (x y : Except E (List A)) :
    (do
      let items ← x
      let others ← y
      return items ++ others).isOk = (x.isOk && y.isOk) := by
  cases x with
  | error err => rfl
  | ok items => cases y <;> rfl

theorem append_eq_ok {E A : Type} {x y : Except E (List A)} {result : List A}
    (h : (do
      let items ← x
      let others ← y
      return items ++ others) = .ok result) :
    ∃ items others, x = .ok items ∧ y = .ok others ∧ result = items ++ others := by
  cases x with
  | error err => cases h
  | ok items =>
      cases y with
      | error err => cases h
      | ok others => exact ⟨items, others, rfl, rfl, (Except.ok.inj h).symm⟩

section

variable {spec element : MmsVariableSpec} {children : List (MmsValue Scalar)}

theorem walkArray_isOk_iff (helement : spec.array.bind MmsArraySpec.element = some element)
    {P : MmsValue Scalar → Prop} (hchildren : ∀ child ∈ children, ∀ curRef curName,
      (walkValue element child curRef curName).isOk = true ↔ P child) (i : ℕ)
    (curRef curName : Str) :
    (walkArray spec (children.map some) i curRef curName).isOk = true ↔
      ∀ child ∈ children, P child := by
  induction children generalizing i with
  | nil => simp [walkArray, Except.isOk, Except.toBool]
  | cons child rest ih =>
      rw [List.map_cons, walkArray, helement]
      simp only [walk]
      rw [isOk_append, Bool.and_eq_true, hchildren child List.mem_cons_self,
        ih (fun other hother => hchildren other (List.mem_cons_of_mem _ hother)),
        List.forall_mem_cons]

theorem walkStructure_isOk_iff {fields : List MmsVariableSpec}
    {P : MmsVariableSpec × MmsValue Scalar → Prop}
    (hchildren : ∀ pair ∈ fields.zip children, ∀ curRef curName,
      (walkValue pair.1 pair.2 curRef curName).isOk = true ↔ P pair) (curRef curName : Str) :
    (walkStructure fields (children.map some) curRef curName).isOk = true ↔
      ∀ pair ∈ fields.zip children, P pair := by
  induction fields generalizing children with
  | nil => cases children <;> simp [walkStructure, Except.isOk, Except.toBool]
  | cons field fields ih =>
      cases children with
      | nil => simp [walkStructure, Except.isOk, Except.toBool]
      | cons child rest =>
          rw [List.map_cons, walkStructure]
          simp only [walk]
          rw [isOk_append, Bool.and_eq_true, hchildren (field, child) List.mem_cons_self,
            ih (fun pair hpair => hchildren pair (List.mem_cons_of_mem _ hpair)),
            List.zip_cons_cons, List.forall_mem_cons]

end

section

variable {spec : MmsVariableSpec} {children : List (MmsValue Scalar)}

theorem walkArray_isOk_iff_not_noticed (hspec : spec.type = .array)
    (hchildren : ∀ child ∈ children, ∀ spec curRef curName,
      (walkValue spec child curRef curName).isOk = true ↔ ¬ Noticed spec child)
    (curRef curName : Str) :
    (walkArray spec (children.map some) 0 curRef curName).isOk = true ↔
      ¬ Noticed spec ⟨.array, .elements (children.map some)⟩ := by
  unfold Noticed
  rw [exists_aligned_array hspec, noticedAt_array_iff hspec]
  cases helement : spec.array.bind MmsArraySpec.element with
  | none =>
      cases children with
      | nil => simp [walkArray, Except.isOk, Except.toBool]
      | cons child rest => simp [walkArray, Except.isOk, Except.toBool, helement]
  | some element =>
      rw [walkArray_isOk_iff helement (fun child hchild => hchildren child hchild element)]
      simp [Noticed]

theorem walkStructure_isOk_iff_not_noticed {fields : List MmsVariableSpec}
    (hspec : spec.type = .struct) (hfields : spec.struct = some ⟨fields⟩)
    (hchildren : ∀ child ∈ children, ∀ spec curRef curName,
      (walkValue spec child curRef curName).isOk = true ↔ ¬ Noticed spec child)
    (curRef curName : Str) :
    (walkStructure fields (children.map some) curRef curName).isOk = true ↔
      ¬ Noticed spec ⟨.struct, .elements (children.map some)⟩ := by
  have hspecFields : spec.fields = fields := by
    unfold MmsVariableSpec.fields
    rw [hfields]
  have hhere : ¬ NoticedAt spec ⟨.struct, .elements (children.map some)⟩ := by
    rw [noticedAt_struct_iff hspec, hfields]
    exact Option.some_ne_none _
  unfold Noticed
  rw [exists_aligned_struct hspec, or_iff_right hhere, hspecFields, walkStructure_isOk_iff
    (P := fun pair => ¬ Noticed pair.1 pair.2)
    (fun pair hpair => hchildren pair.2 (List.of_mem_zip hpair).2 pair.1)]
  simp only [Noticed, not_exists, not_and]

end

theorem walkValue_isOk_iff_of_leaf {spec : MmsVariableSpec} (hspec : ¬ spec.type.IsComposite)
    (val : MmsValue Scalar) (curRef curName : Str) :
    (walkValue spec val curRef curName).isOk = true ↔ ¬ Noticed spec val := by
  have harray : spec.type ≠ .array := fun h => hspec (Or.inl h)
  have hstruct : spec.type ≠ .struct := fun h => hspec (Or.inr h)
  apply iff_of_true
  · cases val
    unfold walkValue
    rw [if_neg harray, if_neg hstruct]
    rfl
  · rintro ⟨s, v, hbelow, hat⟩
    obtain ⟨rfl, rfl⟩ := hbelow.eq_of_ne fun h => hspec h.1
    rcases hat with ⟨h, -⟩ | ⟨h, -⟩ | ⟨h, -⟩
    · exact hspec h
    · exact harray h
    · exact hstruct h

theorem walkValue_isOk_iff_of_ne {spec : MmsVariableSpec} {val : MmsValue Scalar}
    (hspec : spec.type.IsComposite) (hne : val.type ≠ spec.type) (curRef curName : Str) :
    (walkValue spec val curRef curName).isOk = true ↔ ¬ Noticed spec val := by
  apply iff_of_false
  · cases val
    unfold walkValue
    rcases hspec with hspec | hspec
    · rw [hspec] at hne
      rw [if_pos hspec, if_pos hne]
      exact Bool.false_ne_true
    · have harray : spec.type ≠ .array := by
        rw [hspec]
        decide
      rw [hspec] at hne
      rw [if_neg harray, if_pos hspec, if_pos hne]
      exact Bool.false_ne_true
  · exact not_not_intro ⟨spec, val, .here spec val, Or.inl ⟨hspec, hne⟩⟩

/-- The walk succeeds where no mismatch is noticed. -/
theorem MmsValue.IsRead.walkValue_isOk_iff {val : MmsValue Scalar} (h : val.IsRead)
    (spec : MmsVariableSpec) (curRef curName : Str) :
    (walkValue spec val curRef curName).isOk = true ↔ ¬ Noticed spec val := by
  induction h generalizing spec curRef curName with
  | @composite type children htype hchildren ih =>
      by_cases hspec : spec.type.IsComposite
      · by_cases hne : type = spec.type
        · rcases hspec with harray | hstruct
          · obtain rfl := hne.trans harray
            rw [walkValue, if_pos harray, if_neg (by simp)]
            exact walkArray_isOk_iff_not_noticed harray ih curRef curName
          · have harray : spec.type ≠ .array := by
              rw [hstruct]
              decide
            obtain rfl := hne.trans hstruct
            rw [walkValue, if_neg harray, if_pos hstruct, if_neg (by simp)]
            cases hfields : spec.struct with
            | none =>
                apply iff_of_false
                · exact Bool.false_ne_true
                · exact not_not_intro ⟨spec, _, .here spec _,
                    (noticedAt_struct_iff hstruct _).mpr hfields⟩
            | some struct =>
                exact walkStructure_isOk_iff_not_noticed hstruct hfields ih curRef curName
        · exact walkValue_isOk_iff_of_ne hspec hne curRef curName
      · exact walkValue_isOk_iff_of_leaf hspec _ curRef curName
  | @scalar type value htype =>
      by_cases hspec : spec.type.IsComposite
      · have hne : type ≠ spec.type := fun h => htype (h ▸ hspec)
        exact walkValue_isOk_iff_of_ne hspec hne curRef curName
      · exact walkValue_isOk_iff_of_leaf hspec _ curRef curName

/-! ## What the walk lists -/

def itemContent (item : LeafValue Scalar) :
    MmsType × Except IedError (MmsContent Scalar (MmsValue Scalar)) := (item.type, item.value)

/-- The contents of the items that stand for these scalars. -/
def contentsOf (scalars : List (MmsValue Scalar)) :
    List (MmsType × Except IedError (MmsContent Scalar (MmsValue Scalar))) :=
  scalars.map fun leaf => (leaf.type, .ok leaf.value)

theorem contentsOf_append (scalars others : List (MmsValue Scalar)) :
    contentsOf (scalars ++ others) = contentsOf scalars ++ contentsOf others := List.map_append

section

variable {kinds : Kinds K} {spec : MmsVariableSpec} {children : List (MmsValue Scalar)}

theorem Conforms.element (h : Conforms kinds spec ⟨.array, .elements (children.map some)⟩)
    (hspec : spec.type = .array) {element : MmsVariableSpec}
    (helement : spec.array.bind MmsArraySpec.element = some element) {child : MmsValue Scalar}
    (hchild : child ∈ children) : Conforms kinds element child :=
  fun s v hbelow => h s v (.element hspec rfl helement (List.mem_map_of_mem hchild) hbelow)

theorem Conforms.field (h : Conforms kinds spec ⟨.struct, .elements (children.map some)⟩)
    (hspec : spec.type = .struct) {pair : MmsVariableSpec × MmsValue Scalar}
    (hpair : pair ∈ spec.fields.zip children) : Conforms kinds pair.1 pair.2 := by
  intro s v hbelow
  have hfield : (pair.1, some pair.2) ∈ spec.fields.zip (children.map some) := by
    rw [List.zip_map_right]
    exact List.mem_map.mpr ⟨pair, hpair, rfl⟩
  exact h s v (.field hspec rfl hfield hbelow)

theorem walkArray_contents (hchildren : ∀ child ∈ children, ∀ element,
      spec.array.bind MmsArraySpec.element = some element → ∀ curRef curName items,
        walkValue element child curRef curName = .ok items →
          items.map itemContent = contentsOf child.scalars) {i : ℕ} {curRef curName : Str}
    {items : List (LeafValue Scalar)}
    (hitems : walkArray spec (children.map some) i curRef curName = .ok items) :
    items.map itemContent = contentsOf (children.flatMap MmsValue.scalars) := by
  induction children generalizing i items with
  | nil =>
      rw [List.map_nil, walkArray] at hitems
      obtain rfl := Except.ok.inj hitems
      rfl
  | cons child rest ih =>
      rw [List.map_cons, walkArray] at hitems
      cases helement : spec.array.bind MmsArraySpec.element with
      | none =>
          rw [helement] at hitems
          cases hitems
      | some element =>
          rw [helement] at hitems
          simp only [walk] at hitems
          obtain ⟨first, others, hfirst, hothers, rfl⟩ := append_eq_ok hitems
          have hrest := ih (fun other hother => hchildren other (List.mem_cons_of_mem _ hother))
            hothers
          rw [List.map_append, List.flatMap_cons, contentsOf_append, hrest,
            hchildren child List.mem_cons_self element helement _ _ _ hfirst]

theorem walkStructure_contents {fields : List MmsVariableSpec}
    (hlength : fields.length = children.length)
    (hchildren : ∀ pair ∈ fields.zip children, ∀ curRef curName items,
      walkValue pair.1 pair.2 curRef curName = .ok items →
        items.map itemContent = contentsOf pair.2.scalars) {curRef curName : Str}
    {items : List (LeafValue Scalar)}
    (hitems : walkStructure fields (children.map some) curRef curName = .ok items) :
    items.map itemContent = contentsOf (children.flatMap MmsValue.scalars) := by
  induction children generalizing fields items with
  | nil =>
      rw [List.map_nil, walkStructure] at hitems
      obtain rfl := Except.ok.inj hitems
      rfl
  | cons child rest ih =>
      cases fields with
      | nil => cases hlength
      | cons field fields =>
          rw [List.map_cons, walkStructure] at hitems
          simp only [walk] at hitems
          obtain ⟨first, others, hfirst, hothers, rfl⟩ := append_eq_ok hitems
          have hrest := ih (Nat.succ.inj hlength)
            (fun pair hpair => hchildren pair (List.mem_cons_of_mem _ hpair)) hothers
          rw [List.map_append, List.flatMap_cons, contentsOf_append, hrest,
            hchildren (field, child) List.mem_cons_self _ _ _ hfirst]

end

/-- Of a value that conforms, the items hold the scalars from left to right. -/
theorem MmsValue.IsRead.walkValue_contents {kinds : Kinds K} {val : MmsValue Scalar}
    (h : val.IsRead) {spec : MmsVariableSpec} (hconforms : Conforms kinds spec val)
    {curRef curName : Str} {items : List (LeafValue Scalar)}
    (hitems : walkValue spec val curRef curName = .ok items) :
    items.map itemContent = contentsOf val.scalars := by
  have hkind := (hconforms spec val (.here spec val)).1
  induction h generalizing spec curRef curName items with
  | @composite type children htype _ ih =>
      rw [scalars_composite htype]
      rcases htype with rfl | rfl
      · have hspec : spec.type = .array := kinds.array_of_kind _ hkind
        rw [walkValue, if_pos hspec, if_neg (by simp)] at hitems
        apply walkArray_contents _ hitems
        intro child hchild element helement curRef curName items
        have hbelow := hconforms.element hspec helement hchild
        exact fun hitems => ih child hchild hbelow hitems (hbelow _ _ (.here _ _)).1
      · have hspec : spec.type = .struct := kinds.struct_of_kind _ hkind
        have harray : spec.type ≠ .array := by
          rw [hspec]
          decide
        have hlength := (hconforms spec _ (.here spec _)).2.2 hspec
        have hbelow (pair) (hpair : pair ∈ spec.fields.zip children) :=
          hconforms.field hspec hpair
        rw [walkValue, if_neg harray, if_pos hspec, if_neg (by simp)] at hitems
        cases hfields : spec.struct with
        | none =>
            rw [hfields] at hitems
            cases hitems
        | some struct =>
            have hspecFields : spec.fields = struct.elements := by
              unfold MmsVariableSpec.fields
              rw [hfields]
            rw [hfields] at hitems
            rw [hspecFields] at hlength hbelow
            apply walkStructure_contents _ _ hitems
            · simpa [MmsValue.elements] using hlength
            · intro pair hpair curRef curName items hitems
              exact ih pair.2 (List.of_mem_zip hpair).2 (hbelow pair hpair) hitems
                (hbelow pair hpair _ _ (.here _ _)).1
  | @scalar type value htype =>
      have hspec : ¬ spec.type.IsComposite := by
        rintro (hspec | hspec)
        · exact htype (Or.inl (kinds.array_of_kind _ (hkind.symm.trans (by rw [hspec]))))
        · exact htype (Or.inr (kinds.struct_of_kind _ (hkind.symm.trans (by rw [hspec]))))
      rw [scalars_of_not_isComposite htype]
      rw [walkValue, if_neg fun h => hspec (Or.inl h), if_neg fun h => hspec (Or.inr h)] at hitems
      obtain rfl := Except.ok.inj hitems
      rfl

mutual

/-- No scalar of a value is an array or a structure. -/
theorem not_isComposite_of_mem_scalars : (val : MmsValue Scalar) → ∀ leaf ∈ val.scalars,
    ¬ leaf.type.IsComposite
  | ⟨type, .elements elems⟩, leaf, hleaf => by
      rw [MmsValue.scalars] at hleaf
      by_cases htype : type.IsComposite
      · rw [if_pos htype] at hleaf
        exact not_isComposite_of_mem_scalarsOf elems leaf hleaf
      · rw [if_neg htype] at hleaf
        obtain rfl := List.mem_singleton.mp hleaf
        exact htype
  | ⟨type, .scalar value⟩, leaf, hleaf => by
      rw [MmsValue.scalars] at hleaf
      by_cases htype : type.IsComposite
      · rw [if_pos htype] at hleaf
        cases hleaf
      · rw [if_neg htype] at hleaf
        obtain rfl := List.mem_singleton.mp hleaf
        exact htype

theorem not_isComposite_of_mem_scalarsOf : (elems : List (Option (MmsValue Scalar))) →
    ∀ leaf ∈ scalarsOf elems, ¬ leaf.type.IsComposite
  | [], leaf, hleaf => by
      rw [scalarsOf] at hleaf
      cases hleaf
  | none :: rest, leaf, hleaf => by
      rw [scalarsOf] at hleaf
      exact not_isComposite_of_mem_scalarsOf rest leaf hleaf
  | some child :: rest, leaf, hleaf => by
      rw [scalarsOf] at hleaf
      rcases List.mem_append.mp hleaf with hleaf | hleaf
      · exact not_isComposite_of_mem_scalars child leaf hleaf
      · exact not_isComposite_of_mem_scalarsOf rest leaf hleaf

end

/-! ## What is returned -/

/-- Only scalars are returned, each scalar of the value once, and a mismatch is an
error. -/
structure Flattens {E : Type} (kinds : Kinds K) (spec : MmsVariableSpec) (val : MmsValue Scalar)
    (returned : Except E (List (LeafValue Scalar))) : Prop where
  scalars : ∀ items, returned = .ok items → ∀ item ∈ items, ¬ MmsType.IsComposite item.type
  once : ∀ items, returned = .ok items →
    (items.map itemContent).Perm (contentsOf val.scalars)
  mismatch : ¬ Conforms kinds spec val → ∃ err, returned = .error err

section

variable {E : Type} {kinds : Kinds K} {spec : MmsVariableSpec} {val : MmsValue Scalar}

theorem Flattens.of_error (err : E) : Flattens kinds spec val (.error err) where
  scalars _ hitems := nomatch hitems
  once _ hitems := nomatch hitems
  mismatch _ := ⟨err, rfl⟩

/-- What the walk returns is right if the value conforms. -/
theorem MmsValue.IsRead.flattens_ok_iff (h : val.IsRead) {curRef curName : Str}
    {items : List (LeafValue Scalar)} (hitems : walkValue spec val curRef curName = .ok items) :
    Flattens kinds spec val (.ok items : Except E (List (LeafValue Scalar))) ↔
      Conforms kinds spec val := by
  constructor
  · intro hflattens
    by_contra hconforms
    obtain ⟨err, herr⟩ := hflattens.mismatch hconforms
    cases herr
  · intro hconforms
    have hcontents := h.walkValue_contents hconforms hitems
    refine ⟨?_, ?_, fun hmismatch => absurd hconforms hmismatch⟩
    · intro items' hitems' item hitem
      obtain rfl := Except.ok.inj hitems'
      have hmem := List.mem_map_of_mem (f := itemContent) hitem
      rw [hcontents] at hmem
      obtain ⟨leaf, hleaf, heq⟩ := List.mem_map.mp hmem
      have htype : leaf.type = item.type := congrArg Prod.fst heq
      exact htype ▸ not_isComposite_of_mem_scalars val leaf hleaf
    · intro items' hitems'
      obtain rfl := Except.ok.inj hitems'
      rw [hcontents]

end

/-- A value that is read is flattened as it should be exactly when no mismatch slips,
or another one is noticed. -/
theorem getVariableTypeValues_flattens_iff {Float : Type} (kinds : Kinds K)
    (server : DataServer Float) {objectRef : Str} {fc : ℤ} {spec : MmsVariableSpec}
    {val : MmsValue (GoScalar Float)}
    (hspec : server.getVariableSpecification objectRef fc = .ok spec)
    (hval : server.readObject objectRef fc = .ok val) :
    Flattens kinds spec val (server.valueServer.getVariableTypeValues objectRef fc) ↔
      ¬ Slips kinds spec val ∨ Noticed spec val := by
  have hread := DataServer.isRead_of_readObject hval
  have hok := hread.walkValue_isOk_iff spec objectRef
    (if spec.name = [] then lastComponent objectRef else spec.name)
  unfold ValueServer.getVariableTypeValues
  simp only [DataServer.valueServer, hspec, hval, Except.mapError, bind, Except.bind, walk]
  cases hwalk : walkValue spec val objectRef
      (if spec.name = [] then lastComponent objectRef else spec.name) with
  | error err =>
      have hnoticed : Noticed spec val := by
        by_contra hnot
        rw [hwalk] at hok
        exact Bool.false_ne_true (hok.mpr hnot)
      exact iff_of_true (.of_error _) (Or.inr hnoticed)
  | ok items =>
      have hnoticed : ¬ Noticed spec val := hok.mp (by rw [hwalk]; rfl)
      rw [or_iff_left hnoticed, ← conforms_iff_of_not_noticed hnoticed]
      exact hread.flattens_ok_iff hwalk

/-! ## A leaf that is a structure -/

def shape (type : MmsType) : Option MmsType := if type.IsComposite then some type else none

theorem eq_of_shape_eq {type composite : MmsType} (hcomposite : composite.IsComposite)
    (h : shape type = shape composite) : type = composite := by
  unfold shape at h
  rw [if_pos hcomposite] at h
  by_cases htype : type.IsComposite
  · rw [if_pos htype] at h
    exact Option.some.inj h
  · rw [if_neg htype] at h
    cases h

/-- Arrays, structures and scalars. -/
def shapes : Kinds (Option MmsType) where
  kind := shape
  array_of_kind _ := eq_of_shape_eq (Or.inl rfl)
  struct_of_kind _ := eq_of_shape_eq (Or.inr rfl)

/-- The specification of an integer, and a structure with one integer. -/
def leafServer : DataServer Unit where
  getVariableSpecification _ _ := .ok { type := .integer, name := lit "stVal" }
  object _ _ := .ok ⟨.struct, [⟨.integer, [], sampleReadings 1⟩], sampleReadings 0⟩
  errorText _ := []

def leafStructure : MmsValue (GoScalar Unit) :=
  ⟨.struct, .elements ([⟨.integer, .scalar (.int64 1)⟩].map some)⟩

theorem getVariableTypeValues_flattens_iff_leaf :
    Flattens shapes { type := .integer, name := lit "stVal" } leafStructure
        (leafServer.valueServer.getVariableTypeValues (lit "LD0/GGIO1.Ind1") 0) ↔
      ¬ Slips shapes { type := .integer, name := lit "stVal" } leafStructure ∨
        Noticed { type := .integer, name := lit "stVal" } leafStructure :=
  getVariableTypeValues_flattens_iff shapes leafServer rfl rfl

/-- The structure itself is returned as an item. -/
theorem leafStructure_not_flattens :
    leafServer.readObject (lit "LD0/GGIO1.Ind1") 0 = .ok leafStructure ∧
    ¬ Flattens shapes { type := .integer, name := lit "stVal" } leafStructure
      (leafServer.valueServer.getVariableTypeValues (lit "LD0/GGIO1.Ind1") 0) := by
  refine ⟨rfl, ?_⟩
  intro h
  exact h.scalars _ rfl _ List.mem_cons_self (Or.inr rfl)

end Iec61850.Mms
