import Iec61850.ParsedModel

/-!
# Assigning instance values

A `DAI` element changes the value and the short address of one attribute and
nothing else: the names, the types and the order of all nodes stay as the
builder has made them.  So what a `DAI` finds does not depend on the elements
before it.
-/

namespace Iec61850.Scl

open Go

variable {rt : Runtime}

/-! ## The first element with a property -/

theorem map_assignFirst {α β : Type} {f : α → β} {p : α → Bool} {a new : α} {as : List α}
    (hfind : as.find? p = some a) (hf : f new = f a) :
    (assignFirst p new as).map f = as.map f := by
  induction as with
  | nil => rfl
  | cons b rest ih =>
      rw [assignFirst]
      by_cases hb : p b = true
      · rw [List.find?_cons_of_pos hb] at hfind
        obtain rfl := Option.some.inj hfind
        simp [hb, hf]
      · rw [List.find?_cons_of_neg hb] at hfind
        simp [hb, ih hfind]

theorem find?_assignFirst {α : Type} {p : α → Bool} {a new : α} {as : List α}
    (hfind : as.find? p = some a) (hnew : p new = true) :
    (assignFirst p new as).find? p = some new := by
  induction as with
  | nil => cases hfind
  | cons b rest ih =>
      rw [assignFirst]
      by_cases hb : p b = true
      · simp [hb, hnew]
      · rw [List.find?_cons_of_neg hb] at hfind
        simp [hb, ih hfind]

/-- An assignment is not seen under another key. -/
theorem find?_assignFirst_of_ne {α : Type} {p q : α → Bool} {new : α} {as : List α}
    (hp : ∀ b, p b = true → q b = false) (hnew : q new = false) :
    (assignFirst p new as).find? q = as.find? q := by
  induction as with
  | nil => rfl
  | cons b rest ih =>
      rw [assignFirst]
      by_cases hb : p b = true
      · simp [hb, hp b hb, hnew]
      · simp [hb, List.find?_cons, ih]

theorem assignFirst_assignFirst {α : Type} {p : α → Bool} {new new' : α} {as : List α}
    (hnew : p new = true) :
    assignFirst p new' (assignFirst p new as) = assignFirst p new' as := by
  induction as with
  | nil => rfl
  | cons b rest ih =>
      by_cases hb : p b = true
      · simp [assignFirst, hb, hnew]
      · simp [assignFirst, hb, ih]

/-! ## What stays -/

/-- What decides how a `DAI` text is read. -/
structure AttributeShape where
  name : Str
  attributeType : AttributeType
  sclType : Option SclType

def DataAttribute.shape (da : DataAttribute) : AttributeShape :=
  ⟨da.name, da.attributeType, da.sclType⟩

/-- The names and types directly below a data object. -/
structure ObjectShape where
  name : Str
  dataAttributes : List AttributeShape
  subDataObjects : List Str

def DataObject.shape (node : DataObject) : ObjectShape :=
  ⟨node.name, node.dataAttributes.map DataAttribute.shape, node.subDataObjects.map (·.name)⟩

/-- What `GetChildByName` finds below a data object. -/
inductive ChildKind
  | missing
  | subDataObject
  | dataAttribute (shape : AttributeShape)

def ObjectShape.childKind (node : ObjectShape) (childName : Str) : ChildKind :=
  match node.dataAttributes.find? fun child => child.name = childName with
  | some child => .dataAttribute child
  | none => if childName ∈ node.subDataObjects then .subDataObject else .missing

/-- The text of the `DAI` is one that the attribute takes. -/
def ChildKind.Takes (rt : Runtime) (dai : DOINode) : ChildKind → Prop
  | .dataAttribute child => ∀ text, dai.val = some text →
      ∃ v, newDataModelValue rt child.attributeType child.sclType text = .ok v
  | _ => False

theorem find?_dataAttributes_shape (node : DataObject) (childName : Str) :
    (node.shape.dataAttributes.find? fun child => child.name = childName) =
      (node.dataAttributes.find? fun child => child.name = childName).map
        DataAttribute.shape := by
  rw [DataObject.shape, List.find?_map]
  rfl

theorem getChildByName_of_childKind (node : DataObject) (childName : Str) :
    match node.shape.childKind childName with
    | .missing => (DataModelNode.dataObject node).getChildByName childName = none
    | .subDataObject => ∃ sub,
        (DataModelNode.dataObject node).getChildByName childName = some (.dataObject sub)
    | .dataAttribute shape => ∃ da,
        (DataModelNode.dataObject node).getChildByName childName = some (.dataAttribute da) ∧
          da.shape = shape := by
  rw [ObjectShape.childKind, find?_dataAttributes_shape]
  cases hfind : node.dataAttributes.find? fun child => child.name = childName with
  | some da => exact ⟨da, by simp [DataModelNode.getChildByName, hfind], rfl⟩
  | none =>
      simp only [Option.map_none]
      by_cases hname : childName ∈ node.shape.subDataObjects
      · rw [if_pos hname]
        obtain ⟨sub, hsub, hsubName⟩ := List.mem_map.mp hname
        have hsome : (node.subDataObjects.find? fun child => child.name = childName).isSome := by
          rw [List.find?_isSome]
          exact ⟨sub, hsub, by simpa using hsubName⟩
        obtain ⟨found, hfound⟩ := Option.isSome_iff_exists.mp hsome
        exact ⟨found, by simp [DataModelNode.getChildByName, hfind, hfound]⟩
      · rw [if_neg hname]
        have hnone : (node.subDataObjects.find? fun child => child.name = childName) = none := by
          rw [List.find?_eq_none]
          intro sub hsub hsubName
          exact hname (List.mem_map.mpr ⟨sub, hsub, by simpa using hsubName⟩)
        simp [DataModelNode.getChildByName, hfind, hnone]

/-! ## One instance value -/

theorem setInstanceValue_eq_ok {daiNode : DOINode} {da da' : DataAttribute}
    (h : setInstanceValue rt daiNode da = .ok da') :
    da'.shape = da.shape ∧ da'.fc = da.fc ∧ da'.subDataAttributes = da.subDataAttributes ∧
      match daiNode.val with
      | none => da' = da
      | some text => ∃ v, newDataModelValue rt da.attributeType da.sclType text = .ok v ∧
          da'.value = some v := by
  rcases setInstanceValue_cases h with ⟨hval, rfl⟩ | ⟨text, v, hval, hv, rfl⟩
  · rw [hval]
    exact ⟨rfl, rfl, rfl, rfl⟩
  · rw [hval]
    exact ⟨rfl, rfl, rfl, v, hv, rfl⟩

theorem shape_parseDataAttributeNode {node assigned : DataObject} {daiNode : DOINode}
    (h : parseDataAttributeNode rt node daiNode = .ok assigned) :
    assigned.shape = node.shape := by
  obtain ⟨da, da', hfind, hda', rfl⟩ := parseDataAttributeNode_eq_ok h
  have hshape := (setInstanceValue_eq_ok hda').1
  simp only [DataObject.shape, map_assignFirst hfind hshape]

theorem shape_parseDataAttributeNodes {node assigned : DataObject} {doiNode : DOINode}
    (h : parseDataAttributeNodes rt doiNode node = .ok assigned) :
    assigned.shape = node.shape :=
  foldlM_invariant (P := fun after => after.shape = node.shape) h rfl
    fun _ _ _ _ hbefore hstep => (shape_parseDataAttributeNode hstep).trans hbefore

theorem shape_parseDOINode {objects assigned : List DataObject} {doiNode : DOINode}
    (h : parseDOINode rt objects doiNode = .ok assigned) :
    assigned.map DataObject.shape = objects.map DataObject.shape := by
  obtain ⟨node, node', hfind, hnode', rfl⟩ := parseDOINode_eq_ok h
  exact map_assignFirst hfind (shape_parseDataAttributeNodes hnode')

end Iec61850.Scl
