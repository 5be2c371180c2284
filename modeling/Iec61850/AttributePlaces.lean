import Iec61850.DefinedVariables

/-!
# The places of the model that become attribute definitions

Every definition of a data attribute belongs to a place of the model: a logical node,
the data objects around the attribute, the attribute of the innermost one from which it
descends, and what leads down from there.  The definitions stand in the file in the
order of these places.
-/

namespace Iec61850.Scl

open Go Linked

/-- The `objects` are those around the attribute, the innermost first; `path` leads from
the innermost one to the attribute.  An element of an array has an index. -/
structure DefinitionPlace where
  node : LogicalNode
  objects : List DataObject
  root : DataAttribute
  path : List Str
  dataAttribute : DataAttribute
  element : Option ℕ := none

def DefinitionPlace.isTransient (place : DefinitionPlace) : Bool :=
  place.objects.any DataObject.trans

/-- The part of the definition of a place that names no other variable. -/
def DefinitionPlace.label (rt : Runtime) (place : DefinitionPlace) : NodeLabel :=
  match place.element with
  | none => attributeLabel rt place.isTransient place.dataAttribute
  | some idx => elementLabel place.isTransient idx place.dataAttribute

section Places

variable (ln : LogicalNode)

/-- The places of some attributes below `root`, with everything below them. -/
def memberPlaces (objects : List DataObject) (root : DataAttribute) (path : List Str) :
    List DataAttribute → List DefinitionPlace
  | [] => []
  | da :: rest =>
      have := da.sizeOf_subDataAttributes
      let place : DefinitionPlace := {
        node := ln
        objects := objects
        root := root
        path := path ++ [da.name]
        dataAttribute := da }
      place ::
        ((if 0 < da.count then
          (List.range da.count.toNat).flatMap fun idx =>
            { place with element := some idx } ::
              memberPlaces objects root place.path da.subDataAttributes
        else memberPlaces objects root place.path da.subDataAttributes) ++
        memberPlaces objects root path rest)
  termination_by das => sizeOf das

def rootPlaces (objects : List DataObject) (das : List DataAttribute) :
    List DefinitionPlace :=
  das.flatMap fun root => memberPlaces ln objects root [] [root]

/-- The places in some data objects below `objects`. -/
def objectPlaces (objects : List DataObject) : List DataObject → List DefinitionPlace
  | [] => []
  | node :: rest =>
      have := node.sizeOf_subDataObjects
      objectPlaces (node :: objects) node.subDataObjects ++
        rootPlaces ln (node :: objects) node.dataAttributes ++
        objectPlaces objects rest
  termination_by nodes => sizeOf nodes

end Places

/-- The places of an access point. -/
def modelPlaces (devices : List LogicalDevice) : List DefinitionPlace :=
  devices.flatMap fun device =>
    device.logicalNodes.flatMap fun ln => objectPlaces ln [] ln.dataObjects

def NodeLabel.isAttribute (label : NodeLabel) : Bool :=
  match label.kind with
  | .dataAttribute .. => true
  | _ => false

/-- The definitions of data attributes, in the order of the file. -/
def GeneratedFiles.attributeDefinitions (files : GeneratedFiles) : List NodeDefinition :=
  files.nodeDefinitions.filter fun definition => definition.label.isAttribute

/-! ## The labels of the places -/

section Labels

variable {rt : Runtime} {ln : LogicalNode}

@[simp] theorem memberPlaces_nil (objects : List DataObject) (root : DataAttribute)
    (path : List Str) : memberPlaces ln objects root path [] = [] := by
  simp [memberPlaces]

@[simp] theorem objectPlaces_nil (objects : List DataObject) :
    objectPlaces ln objects [] = [] := by
  simp [objectPlaces]

@[simp] theorem rootPlaces_nil (objects : List DataObject) : rootPlaces ln objects [] = [] :=
  rfl

theorem rootPlaces_cons (objects : List DataObject) (root : DataAttribute)
    (rest : List DataAttribute) :
    rootPlaces ln objects (root :: rest) =
      memberPlaces ln objects root [] [root] ++ rootPlaces ln objects rest := rfl

theorem objectPlaces_cons (objects : List DataObject) (node : DataObject)
    (rest : List DataObject) :
    objectPlaces ln objects (node :: rest) =
      objectPlaces ln (node :: objects) node.subDataObjects ++
        rootPlaces ln (node :: objects) node.dataAttributes ++
        objectPlaces ln objects rest := by
  rw [objectPlaces]

theorem map_label_memberPlaces (objects : List DataObject) (root : DataAttribute)
    (path : List Str) (das : List DataAttribute) :
    (memberPlaces ln objects root path das).map (DefinitionPlace.label rt) =
      preorder (attributeForest rt (objects.any DataObject.trans) das) := by
  induction das using dataAttribute_induction generalizing path with
  | nil => simp
  | cons da rest ihm ihr =>
      rw [memberPlaces, attributeForest_cons, preorder_cons, List.map_cons, List.map_append,
        ihr]
      congr 2
      split
      · rw [preorder_map_node, List.map_flatMap]
        congr 1
        funext idx
        rw [List.map_cons, ihm]
        rfl
      · exact ihm _

theorem attributeForest_append (isTransient : Bool) (left right : List DataAttribute) :
    attributeForest rt isTransient (left ++ right) =
      attributeForest rt isTransient left ++ attributeForest rt isTransient right := by
  induction left with
  | nil => simp
  | cons da rest ih =>
      rw [List.cons_append, attributeForest_cons, attributeForest_cons, ih, List.cons_append]

theorem map_label_rootPlaces (objects : List DataObject) (das : List DataAttribute) :
    (rootPlaces ln objects das).map (DefinitionPlace.label rt) =
      preorder (attributeForest rt (objects.any DataObject.trans) das) := by
  induction das with
  | nil => simp
  | cons root rest ih =>
      have hsplit : attributeForest rt (objects.any DataObject.trans) ([root] ++ rest) = _ :=
        attributeForest_append (objects.any DataObject.trans) [root] rest
      rw [List.singleton_append] at hsplit
      rw [rootPlaces_cons, List.map_append, map_label_memberPlaces, ih, hsplit,
        preorder_append]

theorem isAttribute_of_mem_attributeForest {isTransient : Bool} {das : List DataAttribute}
    {label : NodeLabel} (h : label ∈ preorder (attributeForest rt isTransient das)) :
    label.isAttribute = true := by
  induction das using dataAttribute_induction with
  | nil => simp at h
  | cons da rest ihm ihr =>
      rw [attributeForest_cons, preorder_cons] at h
      rcases List.mem_cons.mp h with rfl | h
      · rfl
      · rcases List.mem_append.mp h with h | h
        · split at h
          · rw [preorder_map_node] at h
            obtain ⟨idx, -, h⟩ := List.mem_flatMap.mp h
            rcases List.mem_cons.mp h with rfl | h
            · rfl
            · exact ihm h
          · exact ihm h
        · exact ihr h

theorem map_label_objectPlaces (objects nodes : List DataObject) :
    (objectPlaces ln objects nodes).map (DefinitionPlace.label rt) =
      (preorder (objectForest rt (objects.any DataObject.trans) nodes)).filter
        NodeLabel.isAttribute := by
  induction nodes using dataObject_induction generalizing objects with
  | nil => simp
  | cons node rest ihm ihr =>
      have htransient : (node :: objects).any DataObject.trans =
          (objects.any DataObject.trans || node.trans) := by
        rw [List.any_cons, Bool.or_comm]
      have hattributes : (preorder (attributeForest rt
            (objects.any DataObject.trans || node.trans) node.dataAttributes)).filter
          NodeLabel.isAttribute = preorder (attributeForest rt
            (objects.any DataObject.trans || node.trans) node.dataAttributes) :=
        List.filter_eq_self.mpr fun _ hlabel => isAttribute_of_mem_attributeForest hlabel
      rw [objectPlaces_cons, objectForest_cons, preorder_cons, preorder_append,
        List.filter_cons_of_neg (by simp [NodeLabel.isAttribute, objectLabel]),
        List.filter_append, List.filter_append, List.map_append, List.map_append, ihm, ihr,
        map_label_rootPlaces, htransient, hattributes]

theorem map_label_modelPlaces (devices : List LogicalDevice) :
    (modelPlaces devices).map (DefinitionPlace.label rt) =
      (preorder (modelForest rt devices)).filter NodeLabel.isAttribute := by
  rw [modelPlaces, modelForest, preorder_map_node, List.map_flatMap, List.filter_flatMap]
  congr 1
  funext device
  rw [List.filter_cons_of_neg (by simp [NodeLabel.isAttribute, logicalDeviceLabel]),
    preorder_map_node, List.map_flatMap, List.filter_flatMap]
  congr 1
  funext ln
  rw [List.filter_cons_of_neg (by simp [NodeLabel.isAttribute, logicalNodeLabel]),
    map_label_objectPlaces]
  rfl

/-! ## What a place is made of -/

theorem mem_memberPlaces {objects : List DataObject} {root : DataAttribute}
    {P : DataAttribute → Prop} {path : List Str} {das : List DataAttribute}
    (hdas : ∀ da ∈ das, da.Everywhere P) {place : DefinitionPlace}
    (h : place ∈ memberPlaces ln objects root path das) :
    place.node = ln ∧ place.objects = objects ∧ place.root = root ∧ P place.dataAttribute := by
  induction das using dataAttribute_induction generalizing path with
  | nil => simp at h
  | cons da rest ihm ihr =>
      obtain ⟨hself, hsubs⟩ := DataAttribute.everywhere_iff.mp (hdas da List.mem_cons_self)
      rw [memberPlaces] at h
      rcases List.mem_cons.mp h with rfl | h
      · exact ⟨rfl, rfl, rfl, hself⟩
      · rcases List.mem_append.mp h with h | h
        · split at h
          · obtain ⟨idx, -, h⟩ := List.mem_flatMap.mp h
            rcases List.mem_cons.mp h with rfl | h
            · exact ⟨rfl, rfl, rfl, hself⟩
            · exact ihm hsubs h
          · exact ihm hsubs h
        · exact ihr (fun other hother => hdas other (List.mem_cons_of_mem da hother)) h

/-! ## The definitions of a run -/

variable {scl : SCL} {args : GeneratorArguments} {S : Selection scl args}
  {files : GeneratedFiles}

/-- The definitions of data attributes are those of the places of the model, in order. -/
theorem RunStages.attributeLabels
    (R : RunStages (S.generator rt) args.outFileName S.logicalDevices files) :
    files.attributeDefinitions.map NodeDefinition.label =
      (modelPlaces S.logicalDevices).map (DefinitionPlace.label rt) := by
  have hmangle (name name' : Str) (h : insertSE args.modelPrefix name = .ok name') :
      name' = mangleSE args.modelPrefix name := insertSE_eq_ok h
  have hnamed := printLogicalDeviceDefinitions_named hmangle R.model_eq
  have hlabels := congrArg (List.map Prod.snd) hnamed
  rw [List.map_append, List.map_map, ← preorder_mapForest, mapForest_namedDevices] at hlabels
  rw [GeneratedFiles.attributeDefinitions, map_label_modelPlaces, R.nodeDefinitions_eq]
  have hlabels : R.model.definitions.cOut.map NodeDefinition.label =
      preorder (modelForest rt S.logicalDevices) := hlabels
  rw [← hlabels, List.filter_map]
  rfl

theorem RunStages.definitions_places
    (R : RunStages (S.generator rt) args.outFileName S.logicalDevices files) :
    List.Forall₂ (fun definition place => definition.label = place.label rt)
      files.attributeDefinitions (modelPlaces S.logicalDevices) := by
  have hlabels : List.Forall₂ (· = ·) (files.attributeDefinitions.map NodeDefinition.label)
      ((modelPlaces S.logicalDevices).map (DefinitionPlace.label rt)) := by
    rw [List.forall₂_eq_eq_eq]
    exact R.attributeLabels
  rw [List.forall₂_map_left_iff, List.forall₂_map_right_iff] at hlabels
  exact hlabels

end Labels

end Iec61850.Scl
