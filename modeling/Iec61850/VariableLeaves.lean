import Iec61850.DirectoryModel
import Iec61850.LabelledTrees
import Iec61850.VariableValues

/-!
# Leaves of a variable

`GetVariableTypeValues` walks through a variable specification and a value side by side
and lists the scalars it comes to, each with the reference that leads there.
-/

namespace Iec61850.Mms

open Go Labelled

/-! ## Specifications and values -/

abbrev MmsType := ℤ

def MmsType.array : MmsType := 0

/-- `Structure` -/
def MmsType.struct : MmsType := 1

def MmsType.IsComposite (type : MmsType) : Prop := type = array ∨ type = struct

instance (type : MmsType) : Decidable type.IsComposite :=
  inferInstanceAs (Decidable (type = MmsType.array ∨ type = MmsType.struct))

structure MmsArraySpec (Spec : Type) where
  elementCount : ℤ
  element : Option Spec

structure MmsStructureSpec (Spec : Type) where
  elements : List Spec

/-- A nil pointer is `none`. -/
structure MmsVariableSpec where
  type : MmsType
  name : Str := []
  array : Option (MmsArraySpec MmsVariableSpec) := none
  struct : Option (MmsStructureSpec MmsVariableSpec) := none

/-- What is stored in an `any`: a slice of value pointers, or something else. -/
inductive MmsContent (Scalar Child : Type)
  | elements (elems : List (Option Child))
  | scalar (value : Scalar)

structure MmsValue (Scalar : Type) where
  type : MmsType
  value : MmsContent Scalar (MmsValue Scalar)

variable {Scalar : Type}

/-- One leaf that is listed; its value is never an error here. -/
abbrev LeafValue (Scalar : Type) := VariableTypeValue (MmsContent Scalar (MmsValue Scalar))

/-! ## The walk -/

/-- `fmt.Sprintf("%s[%d]", s, i)` -/
def indexed (s : Str) (i : ℕ) : Str := s ++ lit "[" ++ itoa i ++ lit "]"

/-- The name of an element of an array. -/
def elementName (element : MmsVariableSpec) (curName : Str) (i : ℕ) : Str :=
  if element.name ≠ [] then element.name else indexed curName i

mutual

/-- The items that `walk` appends to `out`. -/
def walk (spec : Option MmsVariableSpec) :
    Option (MmsValue Scalar) → Str → Str → Except Str (List (LeafValue Scalar))
  | none, curRef, _ => .error (lit "nil spec or value for ref " ++ curRef)
  | some val, curRef, curName =>
      match spec with
      | none => .error (lit "nil spec or value for ref " ++ curRef)
      | some spec => walkValue spec val curRef curName

/-- The switch on the type of the specification. -/
def walkValue (spec : MmsVariableSpec) :
    MmsValue Scalar → Str → Str → Except Str (List (LeafValue Scalar))
  | ⟨type, value⟩, curRef, curName =>
      if spec.type = .array then
        if type ≠ .array then
          .error (lit "type mismatch at " ++ curRef ++ lit ": spec Array, value " ++
            lit (toString type))
        else
          match value with
          | .elements elems => walkArray spec elems 0 curRef curName
          | .scalar _ => .error (lit "unexpected value for array at " ++ curRef)
      else if spec.type = .struct then
        if type ≠ .struct then
          .error (lit "type mismatch at " ++ curRef ++ lit ": spec Structure, value " ++
            lit (toString type))
        else
          match value with
          | .elements elems =>
              match spec.struct with
              | some struct => walkStructure struct.elements elems curRef curName
              | none => .error (lit "structure spec missing children at " ++ curRef)
          | .scalar _ => .error (lit "unexpected value for structure at " ++ curRef)
      else
        let leafName := if spec.name = [] then curName else spec.name
        .ok [{ type := type, name := leafName, ref := curRef, value := .ok value }]

/-- The loop over the elements from the `i`-th on. -/
def walkArray (spec : MmsVariableSpec) : List (Option (MmsValue Scalar)) → ℕ → Str → Str →
    Except Str (List (LeafValue Scalar))
  | [], _, _, _ => .ok []
  | child :: rest, i, curRef, curName =>
      match spec.array.bind MmsArraySpec.element with
      | none => .error (lit "array spec missing element at " ++ curRef)
      | some element => do
          let items ← walk (some element) child (indexed curRef i)
            (elementName element curName i)
          let others ← walkArray spec rest (i + 1) curRef curName
          return items ++ others

/-- The loop over the children as far as there are both fields and values. -/
def walkStructure : List MmsVariableSpec → List (Option (MmsValue Scalar)) → Str → Str →
    Except Str (List (LeafValue Scalar))
  | _, [], _, _ => .ok []
  | fields, child :: rest, curRef, curName =>
      match fields with
      | [] => .ok []
      | childSpec :: fields => do
          let fieldName := childSpec.name
          let nextRef := if fieldName ≠ [] then curRef ++ lit "." ++ fieldName else curRef
          let nextName := if fieldName = [] then curName else fieldName
          let items ← walk (some childSpec) child nextRef nextName
          let others ← walkStructure fields rest curRef curName
          return items ++ others

end

/-- The last component of a reference. -/
def lastComponent (objectRef : Str) : Str :=
  match lastIndex objectRef '.' with
  | some idx => if idx + 1 < objectRef.length then objectRef.drop (idx + 1) else objectRef
  | none => objectRef

/-- What the two requests to the server come to; an error is its text. -/
structure ValueServer (Scalar : Type) where
  getVariableSpecification : Str → ℤ → Except Str MmsVariableSpec
  readObject : Str → ℤ → Except Str (MmsValue Scalar)

/-- The error of a request, or `fmt.Errorf("GetVariableTypeValues %q: %w", objectRef, err)`. -/
inductive TypeValuesError
  | request (err : Str)
  | walk (objectRef err : Str)

def ValueServer.getVariableTypeValues (server : ValueServer Scalar) (objectRef : Str) (fc : ℤ) :
    Except TypeValuesError (List (LeafValue Scalar)) := do
  let spec ← (server.getVariableSpecification objectRef fc).mapError .request
  let val ← (server.readObject objectRef fc).mapError .request
  let startName := if spec.name = [] then lastComponent objectRef else spec.name
  (walk (some spec) (some val) objectRef startName).mapError (.walk objectRef)

/-! ## Paths into a value -/

/-- One step into a composite value. -/
inductive PathStep
  | field (name : Str)
  | index (i : ℕ)
  deriving DecidableEq

def PathStep.text : PathStep → Str
  | .field name => '.' :: name
  | .index i => '[' :: (itoa i ++ [']'])

def pathText (path : List PathStep) : Str := path.flatMap PathStep.text

def MmsValue.elements (val : MmsValue Scalar) : List (Option (MmsValue Scalar)) :=
  match val.value with
  | .elements elems => elems
  | .scalar _ => []

def MmsVariableSpec.fields (spec : MmsVariableSpec) : List MmsVariableSpec :=
  match spec.struct with
  | some struct => struct.elements
  | none => []

/-- The specification and the value that one step leads to. -/
def component (spec : MmsVariableSpec) (val : MmsValue Scalar) :
    PathStep → Option (MmsVariableSpec × MmsValue Scalar)
  | .field name =>
      if spec.type = .struct then
        match (spec.fields.zip val.elements).find? fun pair => pair.1.name = name with
        | some (field, some child) => some (field, child)
        | _ => none
      else none
  | .index i =>
      if spec.type = .array then
        match spec.array.bind MmsArraySpec.element, val.elements[i]? with
        | some element, some (some child) => some (element, child)
        | _, _ => none
      else none

/-- The value that a path leads to. -/
def follow : MmsVariableSpec → MmsValue Scalar → List PathStep → Option (MmsValue Scalar)
  | _, val, [] => some val
  | spec, val, step :: path =>
      match component spec val step with
      | some (spec, val) => follow spec val path
      | none => none

mutual

/-- The scalars of a value from left to right. -/
def MmsValue.scalars : MmsValue Scalar → List (MmsValue Scalar)
  | ⟨type, .elements elems⟩ =>
      if type.IsComposite then scalarsOf elems else [⟨type, .elements elems⟩]
  | ⟨type, .scalar value⟩ => if type.IsComposite then [] else [⟨type, .scalar value⟩]

def scalarsOf : List (Option (MmsValue Scalar)) → List (MmsValue Scalar)
  | [] => []
  | none :: rest => scalarsOf rest
  | some child :: rest => child.scalars ++ scalarsOf rest

end

def IsPlainField (name : Str) : Prop := name ≠ [] ∧ '.' ∉ name ∧ '[' ∉ name ∧ ']' ∉ name

/-- The value has the shape that the specification says. -/
inductive Matches : MmsVariableSpec → MmsValue Scalar → Prop
  | scalar {spec : MmsVariableSpec} {val : MmsValue Scalar} (hspec : ¬ spec.type.IsComposite)
      (hval : ¬ val.type.IsComposite) : Matches spec val
  | array {spec element : MmsVariableSpec} {children : List (MmsValue Scalar)}
      (hspec : spec.type = .array)
      (helement : children ≠ [] → spec.array.bind MmsArraySpec.element = some element)
      (hchildren : ∀ child ∈ children, Matches element child) :
      Matches spec ⟨.array, .elements (children.map some)⟩
  | struct {spec : MmsVariableSpec} {fields : List MmsVariableSpec}
      {children : List (MmsValue Scalar)} (hspec : spec.type = .struct)
      (hfields : spec.struct = some ⟨fields⟩) (hlength : fields.length = children.length)
      (hnames : (fields.map MmsVariableSpec.name).Nodup)
      (hplain : ∀ field ∈ fields, IsPlainField field.name)
      (hchildren : ∀ pair ∈ fields.zip children, Matches pair.1 pair.2) :
      Matches spec ⟨.struct, .elements (children.map some)⟩

/-! ## The references can be told apart -/

def IsSeparator (c : Char) : Prop := c = '.' ∨ c = '[' ∨ c = ']'

/-- Texts are cut alike where the first separator stands. -/
theorem append_inj_of_separated {P : Char → Prop} {a b u v : Str} (ha : ∀ c ∈ a, ¬ P c)
    (hb : ∀ c ∈ b, ¬ P c) (hu : ∀ c ∈ u.head?, P c) (hv : ∀ c ∈ v.head?, P c)
    (h : a ++ u = b ++ v) : a = b ∧ u = v := by
  induction a generalizing b with
  | nil =>
      cases b with
      | nil => exact ⟨rfl, h⟩
      | cons d b =>
          have hhead : d ∈ u.head? := by
            rw [List.nil_append] at h
            rw [h]
            rfl
          exact absurd (hu d hhead) (hb d List.mem_cons_self)
  | cons c a ih =>
      cases b with
      | nil =>
          have hhead : c ∈ v.head? := by
            rw [List.nil_append] at h
            rw [← h]
            rfl
          exact absurd (hv c hhead) (ha c List.mem_cons_self)
      | cons d b =>
          obtain ⟨rfl, htail⟩ := List.cons.inj h
          obtain ⟨rfl, huv⟩ := ih (fun c hc => ha c (List.mem_cons_of_mem _ hc))
            (fun c hc => hb c (List.mem_cons_of_mem _ hc)) htail
          exact ⟨rfl, huv⟩

theorem not_isSeparator_of_mem_itoa {i : ℕ} {c : Char} (hc : c ∈ itoa i) : ¬ IsSeparator c := by
  have hdigit : c.isDigit = true := Nat.isDigit_of_mem_toDigits (by omega) (by omega) hc
  intro hseparator
  rcases hseparator with rfl | rfl | rfl <;> exact absurd hdigit (by decide)

/-- The names in the path have no separators. -/
def PathStep.IsPlain : PathStep → Prop
  | .field name => IsPlainField name
  | .index _ => True

theorem IsPlainField.not_isSeparator {name : Str} (h : IsPlainField name) :
    ∀ c ∈ name, ¬ IsSeparator c := by
  intro c hc hseparator
  obtain ⟨-, hdot, hopen, hclose⟩ := h
  rcases hseparator with rfl | rfl | rfl
  · exact hdot hc
  · exact hopen hc
  · exact hclose hc

theorem head?_pathText (path : List PathStep) : ∀ c ∈ (pathText path).head?, IsSeparator c := by
  intro c hc
  cases path with
  | nil => cases hc
  | cons step path =>
      cases step with
      | field name => exact Or.inl (Option.some.inj hc).symm
      | index i => exact Or.inr (Or.inl (Option.some.inj hc).symm)

theorem pathText_cons (step : PathStep) (path : List PathStep) :
    pathText (step :: path) = step.text ++ pathText path := List.flatMap_cons

/-- Different paths through plain names have different texts. -/
theorem pathText_injective {p q : List PathStep} (hp : ∀ step ∈ p, step.IsPlain)
    (hq : ∀ step ∈ q, step.IsPlain) (h : pathText p = pathText q) : p = q := by
  induction p generalizing q with
  | nil =>
      cases q with
      | nil => rfl
      | cons step q => cases step <;> cases h
  | cons step p ih =>
      cases q with
      | nil => cases step <;> cases h
      | cons step' q =>
          have hp' : ∀ step ∈ p, step.IsPlain := fun s hs => hp s (List.mem_cons_of_mem _ hs)
          have hq' : ∀ step ∈ q, step.IsPlain := fun s hs => hq s (List.mem_cons_of_mem _ hs)
          rw [pathText_cons, pathText_cons] at h
          cases step with
          | field name =>
              cases step' with
              | field name' =>
                  have hname : IsPlainField name := hp _ List.mem_cons_self
                  have hname' : IsPlainField name' := hq _ List.mem_cons_self
                  obtain ⟨rfl, htext⟩ := append_inj_of_separated hname.not_isSeparator
                    hname'.not_isSeparator (head?_pathText p) (head?_pathText q)
                    (List.cons.inj h).2
                  rw [ih hp' hq' htext]
              | index i => exact absurd (List.cons.inj h).1 (by decide)
          | index i =>
              cases step' with
              | field name => exact absurd (List.cons.inj h).1 (by decide)
              | index i' =>
                  have hbracket : itoa i ++ (']' :: pathText p) =
                      itoa i' ++ (']' :: pathText q) := by
                    simpa [PathStep.text] using h
                  have hclose (rest : Str) : ∀ c ∈ (']' :: rest).head?, IsSeparator c := by
                    intro c hc
                    exact Or.inr (Or.inr (Option.some.inj hc).symm)
                  obtain ⟨hindex, htext⟩ := append_inj_of_separated
                    (fun c hc => not_isSeparator_of_mem_itoa hc)
                    (fun c hc => not_isSeparator_of_mem_itoa hc)
                    (hclose _) (hclose _) hbracket
                  rw [itoa_injective hindex, ih hp' hq' (List.cons.inj htext).2]

/-! ## The tree of the leaves -/

mutual

/-- The value as a tree whose edges are labelled by the specification. -/
def aligned (spec : MmsVariableSpec) : MmsValue Scalar → Tree PathStep (MmsValue Scalar)
  | ⟨type, .scalar value⟩ => .leaf ⟨type, .scalar value⟩
  | ⟨type, .elements elems⟩ =>
      if spec.type = .array then
        match spec.array.bind MmsArraySpec.element with
        | some element => .node (alignedElements element elems 0)
        | none => .node []
      else if spec.type = .struct then .node (alignedFields spec.fields elems)
      else .leaf ⟨type, .elements elems⟩

def alignedElements (element : MmsVariableSpec) : List (Option (MmsValue Scalar)) → ℕ →
    List (PathStep × Tree PathStep (MmsValue Scalar))
  | [], _ => []
  | none :: rest, i => alignedElements element rest (i + 1)
  | some child :: rest, i =>
      (.index i, aligned element child) :: alignedElements element rest (i + 1)

def alignedFields : List MmsVariableSpec → List (Option (MmsValue Scalar)) →
    List (PathStep × Tree PathStep (MmsValue Scalar))
  | _, [] => []
  | [], _ => []
  | _ :: fields, none :: rest => alignedFields fields rest
  | field :: fields, some child :: rest =>
      (.field field.name, aligned field child) :: alignedFields fields rest

end

/-- The leaves of a value from left to right, each with the path to it. -/
def leavesAlong (spec : MmsVariableSpec) (val : MmsValue Scalar) :
    List (List PathStep × MmsValue Scalar) := (aligned spec val).leaves

theorem alignedElements_map_some (element : MmsVariableSpec) (children : List (MmsValue Scalar))
    (i : ℕ) :
    alignedElements element (children.map some) i =
      (children.zipIdx i).map fun entry => (.index entry.2, aligned element entry.1) := by
  induction children generalizing i with
  | nil => rw [List.map_nil, alignedElements, List.zipIdx_nil, List.map_nil]
  | cons child rest ih =>
      rw [List.map_cons, alignedElements, ih, List.zipIdx_cons, List.map_cons]

theorem alignedFields_map_some (fields : List MmsVariableSpec)
    (children : List (MmsValue Scalar)) :
    alignedFields fields (children.map some) =
      (fields.zip children).map fun entry => (.field entry.1.name, aligned entry.1 entry.2) := by
  induction fields generalizing children with
  | nil =>
      cases children with
      | nil => rw [List.map_nil, alignedFields, List.zip_nil_left, List.map_nil]
      | cons child rest => simp [alignedFields]
  | cons field fields ih =>
      cases children with
      | nil => rw [List.map_nil, alignedFields, List.zip_nil_right, List.map_nil]
      | cons child rest =>
          rw [List.map_cons, alignedFields, ih, List.zip_cons_cons, List.map_cons]

section

variable {spec : MmsVariableSpec}

theorem aligned_scalar {val : MmsValue Scalar} (hspec : ¬ spec.type.IsComposite) :
    aligned spec val = .leaf val := by
  have harray : spec.type ≠ .array := fun h => hspec (Or.inl h)
  have hstruct : spec.type ≠ .struct := fun h => hspec (Or.inr h)
  obtain ⟨type, content⟩ := val
  cases content with
  | scalar value => rw [aligned]
  | elements elems => rw [aligned, if_neg harray, if_neg hstruct]

theorem aligned_array {element : MmsVariableSpec} {children : List (MmsValue Scalar)}
    (hspec : spec.type = .array)
    (helement : children ≠ [] → spec.array.bind MmsArraySpec.element = some element) :
    aligned spec ⟨.array, .elements (children.map some)⟩ =
      .node (children.zipIdx.map fun entry => (.index entry.2, aligned element entry.1)) := by
  rw [aligned, if_pos hspec]
  cases children with
  | nil =>
      cases spec.array.bind MmsArraySpec.element with
      | none => rfl
      | some element' => simp [alignedElements]
  | cons child rest =>
      have harray := helement (List.cons_ne_nil child rest)
      simp only [harray, alignedElements_map_some]

theorem aligned_struct {fields : List MmsVariableSpec} {children : List (MmsValue Scalar)}
    (hspec : spec.type = .struct) (hfields : spec.struct = some ⟨fields⟩) :
    aligned spec ⟨.struct, .elements (children.map some)⟩ =
      .node ((fields.zip children).map fun entry =>
        (.field entry.1.name, aligned entry.1 entry.2)) := by
  have harray : spec.type ≠ .array := by
    rw [hspec]
    decide
  have hspecFields : spec.fields = fields := by
    unfold MmsVariableSpec.fields
    rw [hfields]
  rw [aligned, if_neg harray, if_pos hspec, alignedFields_map_some, hspecFields]

end

/-! ## The walk lists the leaves -/

/-- The item stands for the leaf that is reached from `ref`. -/
structure ItemAt (ref : Str) (item : LeafValue Scalar) (leaf : List PathStep × MmsValue Scalar) :
    Prop where
  ref : item.ref = ref ++ pathText leaf.1
  type : item.type = leaf.2.type
  value : item.value = .ok leaf.2.value

theorem ItemAt.step {ref : Str} {step : PathStep} {item : LeafValue Scalar}
    {leaf : List PathStep × MmsValue Scalar} (h : ItemAt (ref ++ step.text) item leaf) :
    ItemAt ref item (step :: leaf.1, leaf.2) where
  ref := by rw [h.ref, pathText_cons, List.append_assoc]
  type := h.type
  value := h.value

/-- Wherever it starts, the walk finds these leaves. -/
def Lists (run : Str → Str → Except Str (List (LeafValue Scalar)))
    (leaves : List (List PathStep × MmsValue Scalar)) : Prop :=
  ∀ curRef curName, ∃ items, run curRef curName = .ok items ∧
    List.Forall₂ (ItemAt curRef) items leaves

theorem ItemAt.steps {ref : Str} {step : PathStep} {items : List (LeafValue Scalar)}
    {leaves : List (List PathStep × MmsValue Scalar)}
    (h : List.Forall₂ (ItemAt (ref ++ step.text)) items leaves) :
    List.Forall₂ (ItemAt ref) items (leaves.map fun leaf => (step :: leaf.1, leaf.2)) :=
  List.forall₂_map_right_iff.mpr (h.imp fun _ _ hitem => hitem.step)

theorem indexed_eq (s : Str) (i : ℕ) : indexed s i = s ++ (PathStep.index i).text := by
  unfold indexed PathStep.text lit
  simp

theorem walkArray_lists {spec element : MmsVariableSpec} {children : List (MmsValue Scalar)}
    (helement : children ≠ [] → spec.array.bind MmsArraySpec.element = some element)
    (hchildren : ∀ child ∈ children,
      Lists (walkValue element child) (aligned element child).leaves) (i : ℕ) :
    Lists (walkArray spec (children.map some) i)
      (leavesBelow ((children.zipIdx i).map fun entry =>
        (.index entry.2, aligned element entry.1))) := by
  intro curRef curName
  induction children generalizing i with
  | nil => exact ⟨[], by rw [List.map_nil, walkArray], by simp [leavesBelow]⟩
  | cons child rest ih =>
      have harray := helement (List.cons_ne_nil child rest)
      obtain ⟨items, hitems, hleaves⟩ := hchildren child List.mem_cons_self (indexed curRef i)
        (elementName element curName i)
      obtain ⟨others, hothers, hrest⟩ := ih (fun _ => harray)
        (fun other hother => hchildren other (List.mem_cons_of_mem _ hother)) (i + 1)
      rw [indexed_eq] at hleaves
      refine ⟨items ++ others, ?_, ?_⟩
      · rw [List.map_cons, walkArray, harray]
        simp only [walk, hitems, hothers]
        rfl
      · rw [List.zipIdx_cons, List.map_cons, leavesBelow]
        exact List.rel_append (ItemAt.steps hleaves) hrest

theorem walkStructure_lists {fields : List MmsVariableSpec} {children : List (MmsValue Scalar)}
    (hplain : ∀ field ∈ fields, IsPlainField field.name)
    (hchildren : ∀ pair ∈ fields.zip children,
      Lists (walkValue pair.1 pair.2) (aligned pair.1 pair.2).leaves) :
    Lists (walkStructure fields (children.map some))
      (leavesBelow ((fields.zip children).map fun entry =>
        (.field entry.1.name, aligned entry.1 entry.2))) := by
  intro curRef curName
  induction fields generalizing children with
  | nil =>
      refine ⟨[], ?_, by simp [leavesBelow]⟩
      cases children with
      | nil => rw [List.map_nil, walkStructure]
      | cons child rest => rw [List.map_cons, walkStructure]
  | cons field fields ih =>
      cases children with
      | nil => exact ⟨[], by rw [List.map_nil, walkStructure], by simp [leavesBelow]⟩
      | cons child rest =>
          have hname : field.name ≠ [] := (hplain field List.mem_cons_self).1
          obtain ⟨items, hitems, hleaves⟩ := hchildren (field, child) List.mem_cons_self
            (curRef ++ (PathStep.field field.name).text) field.name
          obtain ⟨others, hothers, hrest⟩ := ih
            (fun other hother => hplain other (List.mem_cons_of_mem _ hother))
            (fun pair hpair => hchildren pair (List.mem_cons_of_mem _ hpair))
          have href : curRef ++ lit "." ++ field.name =
              curRef ++ (PathStep.field field.name).text := by
            simp [lit, PathStep.text]
          refine ⟨items ++ others, ?_, ?_⟩
          · rw [List.map_cons, walkStructure]
            simp only [walk, hname, ne_eq, not_false_eq_true, if_true, if_false, href, hitems,
              hothers]
            rfl
          · rw [List.zip_cons_cons, List.map_cons, leavesBelow]
            exact List.rel_append (ItemAt.steps hleaves) hrest

theorem Matches.walkValue_lists {spec : MmsVariableSpec} {val : MmsValue Scalar}
    (h : Matches spec val) : Lists (walkValue spec val) (aligned spec val).leaves := by
  induction h with
  | @scalar spec val hspec hval =>
      intro curRef curName
      have harray : spec.type ≠ .array := fun h => hspec (Or.inl h)
      have hstruct : spec.type ≠ .struct := fun h => hspec (Or.inr h)
      rw [aligned_scalar hspec, Tree.leaves]
      obtain ⟨type, value⟩ := val
      unfold walkValue
      rw [if_neg harray, if_neg hstruct]
      refine ⟨_, rfl, List.Forall₂.cons ⟨?_, rfl, rfl⟩ .nil⟩
      exact (List.append_nil curRef).symm
  | @array spec element children hspec helement _ ih =>
      rw [aligned_array hspec helement, leaves_node]
      intro curRef curName
      rw [walkValue, if_pos hspec, if_neg (by simp)]
      exact walkArray_lists helement ih 0 curRef curName
  | @struct spec fields children hspec hfields _ _ hplain _ ih =>
      have harray : spec.type ≠ .array := by
        rw [hspec]
        decide
      rw [aligned_struct hspec hfields, leaves_node]
      intro curRef curName
      rw [walkValue, if_neg harray, if_pos hspec, if_neg (by simp), hfields]
      exact walkStructure_lists hplain ih curRef curName

/-! ## The paths -/

theorem nodup_index (children : List (MmsValue Scalar)) (i : ℕ)
    (subtree : MmsValue Scalar → Tree PathStep (MmsValue Scalar)) :
    (((children.zipIdx i).map fun entry =>
      (PathStep.index entry.2, subtree entry.1)).map Prod.fst).Nodup := by
  have hlabels : ((children.zipIdx i).map fun entry =>
      (PathStep.index entry.2, subtree entry.1)).map Prod.fst =
        (List.range' i children.length).map PathStep.index := by
    rw [List.map_map, ← List.zipIdx_map_snd, List.map_map]
    rfl
  rw [hlabels]
  exact (List.nodup_range').map fun _ _ h => PathStep.index.inj h

theorem nodup_field {fields : List MmsVariableSpec} {children : List (MmsValue Scalar)}
    (hlength : fields.length = children.length)
    (hnames : (fields.map MmsVariableSpec.name).Nodup) :
    (((fields.zip children).map fun entry =>
      (PathStep.field entry.1.name, aligned entry.1 entry.2)).map Prod.fst).Nodup := by
  have hlabels : ((fields.zip children).map fun entry =>
      (PathStep.field entry.1.name, aligned entry.1 entry.2)).map Prod.fst =
        (fields.map MmsVariableSpec.name).map PathStep.field := by
    rw [List.map_map, List.map_map]
    have hfst : (fields.zip children).map Prod.fst = fields := List.map_fst_zip hlength.le
    nth_rewrite 2 [← hfst]
    rw [List.map_map]
    rfl
  rw [hlabels]
  exact hnames.map fun _ _ h => PathStep.field.inj h

/-- No two edges of a node have one label, and the names on them are plain. -/
theorem Matches.distinct {spec : MmsVariableSpec} {val : MmsValue Scalar}
    (h : Matches spec val) : (aligned spec val).Distinct PathStep.IsPlain := by
  induction h with
  | @scalar spec val hspec _ =>
      rw [aligned_scalar hspec]
      exact .leaf val
  | @array spec element children hspec helement _ ih =>
      rw [aligned_array hspec helement]
      refine .node (nodup_index children 0 _) ?_ ?_
      · intro child hchild
        obtain ⟨entry, -, rfl⟩ := List.mem_map.mp hchild
        trivial
      · intro child hchild
        obtain ⟨entry, hentry, rfl⟩ := List.mem_map.mp hchild
        exact ih entry.1 (List.fst_mem_of_mem_zipIdx hentry)
  | @struct spec fields children hspec hfields hlength hnames hplain _ ih =>
      rw [aligned_struct hspec hfields]
      refine .node (nodup_field hlength hnames) ?_ ?_
      · intro child hchild
        obtain ⟨entry, hentry, rfl⟩ := List.mem_map.mp hchild
        exact hplain entry.1 (List.of_mem_zip hentry).1
      · intro child hchild
        obtain ⟨entry, hentry, rfl⟩ := List.mem_map.mp hchild
        exact ih entry hentry

theorem scalarsOf_map_some (children : List (MmsValue Scalar)) :
    scalarsOf (children.map some) = children.flatMap MmsValue.scalars := by
  induction children with
  | nil => rw [List.map_nil, scalarsOf, List.flatMap_nil]
  | cons child rest ih => rw [List.map_cons, scalarsOf, ih, List.flatMap_cons]

theorem scalars_of_not_isComposite {val : MmsValue Scalar} (hval : ¬ val.type.IsComposite) :
    val.scalars = [val] := by
  obtain ⟨type, content⟩ := val
  cases content with
  | scalar value => rw [MmsValue.scalars, if_neg hval]
  | elements elems => rw [MmsValue.scalars, if_neg hval]

theorem scalars_composite {type : MmsType} (htype : type.IsComposite)
    (children : List (MmsValue Scalar)) :
    (MmsValue.mk type (.elements (children.map some))).scalars =
      children.flatMap MmsValue.scalars := by
  rw [MmsValue.scalars, if_pos htype, scalarsOf_map_some]

/-- The leaves below a node, when those of every child are known. -/
theorem map_snd_leavesBelow {α : Type} {entries : List α}
    {child : α → PathStep × Tree PathStep (MmsValue Scalar)} {val : α → MmsValue Scalar}
    (h : ∀ entry ∈ entries, (child entry).2.leaves.map Prod.snd = (val entry).scalars) :
    (leavesBelow (entries.map child)).map Prod.snd =
      (entries.map val).flatMap MmsValue.scalars := by
  induction entries with
  | nil => rfl
  | cons entry rest ih =>
      rw [List.map_cons, leavesBelow, List.map_append, List.map_map, List.map_cons,
        List.flatMap_cons, ih fun other hother => h other (List.mem_cons_of_mem _ hother),
        ← h entry List.mem_cons_self]
      rfl

/-- The leaves are the scalars of the value, from left to right. -/
theorem Matches.leaves_scalars {spec : MmsVariableSpec} {val : MmsValue Scalar}
    (h : Matches spec val) : (leavesAlong spec val).map Prod.snd = val.scalars := by
  unfold leavesAlong
  induction h with
  | @scalar spec val hspec hval =>
      rw [aligned_scalar hspec, scalars_of_not_isComposite hval, Tree.leaves]
      rfl
  | @array spec element children hspec helement _ ih =>
      rw [aligned_array hspec helement, leaves_node, scalars_composite (Or.inl rfl)]
      have hvals : children.zipIdx.map Prod.fst = children := List.zipIdx_map_fst 0 children
      nth_rewrite 2 [← hvals]
      exact map_snd_leavesBelow fun entry hentry =>
        ih entry.1 (List.fst_mem_of_mem_zipIdx hentry)
  | @struct spec fields children hspec hfields hlength _ _ _ ih =>
      rw [aligned_struct hspec hfields, leaves_node, scalars_composite (Or.inr rfl)]
      have hvals : (fields.zip children).map Prod.snd = children :=
        List.map_snd_zip hlength.ge
      nth_rewrite 2 [← hvals]
      exact map_snd_leavesBelow ih

/-! ## The paths lead to the leaves -/

theorem component_scalar {spec : MmsVariableSpec} {val : MmsValue Scalar}
    (hspec : ¬ spec.type.IsComposite) (step : PathStep) : component spec val step = none := by
  cases step with
  | field name => exact if_neg fun h => hspec (Or.inr h)
  | index i => exact if_neg fun h => hspec (Or.inl h)

theorem component_array {spec element : MmsVariableSpec} {children : List (MmsValue Scalar)}
    (hspec : spec.type = .array)
    (helement : children ≠ [] → spec.array.bind MmsArraySpec.element = some element)
    {step : PathStep} {next : MmsVariableSpec × MmsValue Scalar} :
    component spec ⟨.array, .elements (children.map some)⟩ step = some next ↔
      ∃ i, step = .index i ∧ children[i]? = some next.2 ∧ next.1 = element := by
  cases step with
  | field name =>
      have hstruct : spec.type ≠ .struct := by
        rw [hspec]
        decide
      simp [component, hstruct]
  | index i =>
      rw [component, if_pos hspec]
      simp only [MmsValue.elements, List.getElem?_map, PathStep.index.injEq, exists_eq_left']
      cases hchild : children[i]? with
      | none => simp
      | some child =>
          have hne : children ≠ [] := by
            rintro rfl
            cases hchild
          simp only [helement hne, Option.map_some, Option.some.injEq]
          constructor
          · rintro rfl
            exact ⟨rfl, rfl⟩
          · exact fun h => Prod.ext h.2.symm h.1

theorem component_struct {spec : MmsVariableSpec} {fields : List MmsVariableSpec}
    {children : List (MmsValue Scalar)} (hspec : spec.type = .struct)
    (hfields : spec.struct = some ⟨fields⟩) (hlength : fields.length = children.length)
    (hnames : (fields.map MmsVariableSpec.name).Nodup)
    {step : PathStep} {next : MmsVariableSpec × MmsValue Scalar} :
    component spec ⟨.struct, .elements (children.map some)⟩ step = some next ↔
      step = .field next.1.name ∧ next ∈ fields.zip children := by
  cases step with
  | index i =>
      have harray : spec.type ≠ .array := by
        rw [hspec]
        decide
      simp [component, harray]
  | field name =>
      have hspecFields : spec.fields = fields := by
        unfold MmsVariableSpec.fields
        rw [hfields]
      have hzip : fields.zip (children.map some) =
          (fields.zip children).map (Prod.map id some) := List.zip_map_right
      have hmarks : ((fields.zip children).map fun pair => pair.1.name).Nodup := by
        have hfst : (fields.zip children).map Prod.fst = fields := List.map_fst_zip hlength.le
        rw [← hfst, List.map_map] at hnames
        exact hnames
      have hfind := find?_eq_some_iff_of_nodup hmarks (b := name) (a := next)
      have hsame : ((fun pair => decide (pair.1.name = name)) ∘ Prod.map id some :
          MmsVariableSpec × MmsValue Scalar → Bool) =
            fun pair => decide (pair.1.name = name) := rfl
      rw [component, if_pos hspec, hspecFields]
      simp only [MmsValue.elements]
      rw [hzip, List.find?_map, hsame, PathStep.field.injEq, eq_comm (a := name), and_comm, ← hfind]
      cases hpair : (fields.zip children).find? fun pair => pair.1.name = name with
      | none => simp
      | some pair =>
          obtain ⟨field, child⟩ := pair
          simp

theorem follow_cons {spec : MmsVariableSpec} {val : MmsValue Scalar} {step : PathStep}
    {path : List PathStep} {leaf : MmsValue Scalar} :
    follow spec val (step :: path) = some leaf ↔
      ∃ next, component spec val step = some next ∧ follow next.1 next.2 path = some leaf := by
  rw [follow]
  cases component spec val step with
  | none => simp
  | some next => simp

/-- At a composite value itself there is no scalar. -/
theorem follow_nil_composite (spec : MmsVariableSpec) (leaf val : MmsValue Scalar)
    (hval : val.type.IsComposite) :
    ¬ (follow spec val [] = some leaf ∧ ¬ leaf.type.IsComposite) := by
  intro h
  obtain ⟨hleaf, hscalar⟩ := h
  obtain rfl := Option.some.inj hleaf
  exact hscalar hval

/-- What the tree of the leaves has at the end of a path is what the value has. -/
theorem Matches.follow_iff {spec : MmsVariableSpec} {val : MmsValue Scalar}
    (h : Matches spec val) {path : List PathStep} {leaf : MmsValue Scalar} :
    (aligned spec val).follow path = some (.leaf leaf) ↔
      follow spec val path = some leaf ∧ ¬ leaf.type.IsComposite := by
  induction h generalizing path with
  | @scalar spec val hspec hval =>
      rw [aligned_scalar hspec]
      cases path with
      | nil =>
          rw [Tree.follow, follow, Option.some.injEq, Option.some.injEq, Tree.leaf.injEq]
          exact ⟨fun heq => ⟨heq, heq ▸ hval⟩, fun heq => heq.1⟩
      | cons step path => simp [Tree.follow, follow, component_scalar hspec]
  | @array spec element children hspec helement _ ih =>
      rw [aligned_array hspec helement]
      cases path with
      | nil =>
          have hcomposite : MmsType.IsComposite .array := Or.inl rfl
          have hnone := follow_nil_composite spec leaf
            ⟨.array, .elements (children.map some)⟩ hcomposite
          constructor
          · intro htree
            cases Option.some.inj htree
          · exact fun hfollow => absurd hfollow hnone
      | cons step path =>
          rw [follow_cons_iff (nodup_index children 0 _), follow_cons]
          simp only [component_array hspec helement, List.mem_map, Prod.exists,
            List.mem_zipIdx_iff_getElem?]
          constructor
          · rintro ⟨tree, ⟨child, i, hchild, heq⟩, hfollow⟩
            obtain ⟨rfl, rfl⟩ := Prod.mk.inj heq
            obtain ⟨hleaf, hscalar⟩ := (ih child (List.mem_of_getElem? hchild)).mp hfollow
            exact ⟨⟨element, child, ⟨i, rfl, hchild, rfl⟩, hleaf⟩, hscalar⟩
          · rintro ⟨⟨_, child, ⟨i, rfl, hchild, rfl⟩, hleaf⟩, hscalar⟩
            exact ⟨_, ⟨child, i, hchild, rfl⟩,
              (ih child (List.mem_of_getElem? hchild)).mpr ⟨hleaf, hscalar⟩⟩
  | @struct spec fields children hspec hfields hlength hnames hplain _ ih =>
      rw [aligned_struct hspec hfields]
      cases path with
      | nil =>
          have hcomposite : MmsType.IsComposite .struct := Or.inr rfl
          have hnone := follow_nil_composite spec leaf
            ⟨.struct, .elements (children.map some)⟩ hcomposite
          constructor
          · intro htree
            cases Option.some.inj htree
          · exact fun hfollow => absurd hfollow hnone
      | cons step path =>
          rw [follow_cons_iff (nodup_field hlength hnames), follow_cons]
          simp only [component_struct hspec hfields hlength hnames, List.mem_map]
          constructor
          · rintro ⟨tree, ⟨next, hnext, heq⟩, hfollow⟩
            obtain ⟨rfl, rfl⟩ := Prod.mk.inj heq
            obtain ⟨hleaf, hscalar⟩ := (ih next hnext).mp hfollow
            exact ⟨⟨next, ⟨rfl, hnext⟩, hleaf⟩, hscalar⟩
          · rintro ⟨⟨next, ⟨rfl, hnext⟩, hleaf⟩, hscalar⟩
            exact ⟨_, ⟨next, hnext, rfl⟩, (ih next hnext).mpr ⟨hleaf, hscalar⟩⟩

/-- The scalars of a value that matches are listed from left to right, each once and
under a reference of its own, which says the path that leads to it. -/
theorem getVariableTypeValues_matching (server : ValueServer Scalar) {objectRef : Str} {fc : ℤ}
    {spec : MmsVariableSpec} {val : MmsValue Scalar}
    (hspec : server.getVariableSpecification objectRef fc = .ok spec)
    (hval : server.readObject objectRef fc = .ok val) (h : Matches spec val) :
    (leavesAlong spec val).map Prod.snd = val.scalars ∧
    (∀ path leaf, (path, leaf) ∈ leavesAlong spec val ↔
      follow spec val path = some leaf ∧ ¬ leaf.type.IsComposite) ∧
    ∃ items, server.getVariableTypeValues objectRef fc = .ok items ∧
      List.Forall₂ (ItemAt objectRef) items (leavesAlong spec val) ∧
      (items.map VariableTypeValue.ref).Nodup := by
  refine ⟨h.leaves_scalars, ?_, ?_⟩
  · intro path leaf
    exact h.distinct.mem_leaves_iff.trans h.follow_iff
  · obtain ⟨items, hitems, hleaves⟩ := h.walkValue_lists objectRef
      (if spec.name = [] then lastComponent objectRef else spec.name)
    refine ⟨items, ?_, hleaves, ?_⟩
    · unfold ValueServer.getVariableTypeValues
      rw [hspec, hval]
      simp only [Except.mapError, bind, Except.bind, walk, hitems]
    · have hrefs : items.map VariableTypeValue.ref =
          (leavesAlong spec val).map fun leaf => objectRef ++ pathText leaf.1 := by
        have heq := hleaves.imp fun item leaf (hitem : ItemAt objectRef item leaf) => hitem.ref
        exact List.forall₂_eq_eq_eq ▸ List.forall₂_map_left_iff.mpr
          (List.forall₂_map_right_iff.mpr heq)
      rw [hrefs]
      exact h.distinct.nodup_texts fun p q hp hq htext =>
        pathText_injective hp hq (List.append_cancel_left htext)

/-! ## An array of structures -/

def sampleHarmonic : MmsVariableSpec :=
  { type := .struct, name := lit "cVal",
    struct := some ⟨[{ type := 6, name := lit "mag" }, { type := 6, name := lit "ang" }]⟩ }

def sampleHarmonics : MmsVariableSpec :=
  { type := .struct, name := lit "HA1",
    struct := some ⟨[
      { type := .array, name := lit "phsA", array := some ⟨2, some sampleHarmonic⟩ },
      { type := 4, name := lit "numHar" }]⟩ }

def sampleVector (mag ang : ℤ) : MmsValue ℤ :=
  ⟨.struct, .elements ([⟨6, .scalar mag⟩, ⟨6, .scalar ang⟩].map some)⟩

def sampleSpectrum : MmsValue ℤ :=
  ⟨.struct, .elements ([⟨.array, .elements ([sampleVector 230 0, sampleVector 4 90].map some)⟩,
    ⟨4, .scalar 2⟩].map some)⟩

def sampleValueServer : ValueServer ℤ where
  getVariableSpecification _ _ := .ok sampleHarmonics
  readObject _ _ := .ok sampleSpectrum

instance (name : Str) : Decidable (IsPlainField name) :=
  inferInstanceAs (Decidable (name ≠ [] ∧ '.' ∉ name ∧ '[' ∉ name ∧ ']' ∉ name))

theorem not_isComposite_float : ¬ MmsType.IsComposite 6 := by decide

theorem sampleVector_matches (mag ang : ℤ) : Matches sampleHarmonic (sampleVector mag ang) := by
  refine .struct rfl rfl rfl (by decide) (by decide) ?_
  intro pair hpair
  simp only [List.zip_cons_cons, List.zip_nil_left, List.mem_cons, List.not_mem_nil,
    or_false] at hpair
  rcases hpair with rfl | rfl <;> exact .scalar not_isComposite_float not_isComposite_float

theorem sampleSpectrum_matches : Matches sampleHarmonics sampleSpectrum := by
  refine .struct rfl rfl rfl (by decide) (by decide) ?_
  intro pair hpair
  simp only [List.zip_cons_cons, List.zip_nil_left, List.mem_cons, List.not_mem_nil,
    or_false] at hpair
  rcases hpair with rfl | rfl
  · have hvectors : ∀ child ∈ [sampleVector 230 0, sampleVector 4 90],
        Matches sampleHarmonic child := by
      simp [sampleVector_matches]
    exact .array rfl (fun _ => rfl) hvectors
  · exact .scalar (by decide) (by decide)

theorem getVariableTypeValues_matching_sample :
    ∃ items, sampleValueServer.getVariableTypeValues (lit "LD0/MHAI1.HA1") 3 = .ok items ∧
      List.Forall₂ (ItemAt (lit "LD0/MHAI1.HA1")) items
        (leavesAlong sampleHarmonics sampleSpectrum) ∧
      (items.map VariableTypeValue.ref).Nodup :=
  (getVariableTypeValues_matching sampleValueServer rfl rfl sampleSpectrum_matches).2.2

end Iec61850.Mms
