import Iec61850.LinkedForest
import Iec61850.ParsedModel
import Iec61850.StaticModelGenerator

/-!
# The model tree and its linked definitions

The tree of devices, nodes, objects, attributes and array elements which the
generated model should be, and the same tree with the variable of each node.
The definitions that are printed are the linked records of the named tree,
provided the setting names (constraint SE) are inserted in one and the same
place wherever a node is named.
-/

namespace Iec61850.Scl

open Go Linked

/-! ## The model tree -/

theorem DataAttribute.sizeOf_subDataAttributes (da : DataAttribute) :
    sizeOf da.subDataAttributes < sizeOf da := by
  cases da
  simp only [DataAttribute.mk.sizeOf_spec]
  omega

theorem DataObject.sizeOf_subDataObjects (node : DataObject) :
    sizeOf node.subDataObjects < sizeOf node := by
  cases node
  simp only [DataObject.mk.sizeOf_spec]
  omega

/-- An array attribute has one child for each element, and every element its
own copy of the sub attributes. -/
def attributeForest (rt : Runtime) (isTransient : Bool) :
    List DataAttribute → List (RoseTree NodeLabel)
  | [] => []
  | da :: rest =>
      have := da.sizeOf_subDataAttributes
      .node (attributeLabel rt isTransient da)
        (if 0 < da.count then
          (List.range da.count.toNat).map fun idx =>
            .node (elementLabel isTransient idx da)
              (attributeForest rt isTransient da.subDataAttributes)
        else attributeForest rt isTransient da.subDataAttributes) ::
      attributeForest rt isTransient rest
  termination_by das => sizeOf das

/-- A data object has first its sub data objects and then its attributes as
children. -/
def objectForest (rt : Runtime) (isTransient : Bool) :
    List DataObject → List (RoseTree NodeLabel)
  | [] => []
  | node :: rest =>
      have := node.sizeOf_subDataObjects
      .node (objectLabel node)
        (objectForest rt (isTransient || node.trans) node.subDataObjects ++
          attributeForest rt (isTransient || node.trans) node.dataAttributes) ::
      objectForest rt isTransient rest
  termination_by nodes => sizeOf nodes

/-- The model tree of an access point. -/
def modelForest (rt : Runtime) (devices : List LogicalDevice) : List (RoseTree NodeLabel) :=
  devices.map fun device =>
    .node (logicalDeviceLabel device) (device.logicalNodes.map fun ln =>
      .node (logicalNodeLabel ln) (objectForest rt false ln.dataObjects))

/-! ## The named tree -/

/-- The variable of an attribute, for a given placement of `SE_`. -/
def setpointVariable (mangle : Str → Str) (fc name : Str) : Str :=
  if fc = lit "SE" then mangle name else name

section Named

variable (mangle : Str → Str) (rt : Runtime)

def namedAttributes (isTransient : Bool) (doName : Str) :
    List DataAttribute → List (RoseTree (Str × NodeLabel))
  | [] => []
  | da :: rest =>
      have := da.sizeOf_subDataAttributes
      let daName := setpointVariable mangle da.fc (joinName doName da.name)
      .node (daName, attributeLabel rt isTransient da)
        (if 0 < da.count then
          (List.range da.count.toNat).map fun idx =>
            .node (joinName daName (itoa idx), elementLabel isTransient idx da)
              (namedAttributes isTransient (joinName daName (itoa idx)) da.subDataAttributes)
        else namedAttributes isTransient daName da.subDataAttributes) ::
      namedAttributes isTransient doName rest
  termination_by das => sizeOf das

def namedObjects (isTransient : Bool) (parent : Str) :
    List DataObject → List (RoseTree (Str × NodeLabel))
  | [] => []
  | node :: rest =>
      have := node.sizeOf_subDataObjects
      let doName := joinName parent node.name
      .node (doName, objectLabel node)
        (namedObjects (isTransient || node.trans) doName node.subDataObjects ++
          namedAttributes mangle rt (isTransient || node.trans) doName
            node.dataAttributes) ::
      namedObjects isTransient parent rest
  termination_by nodes => sizeOf nodes

/-- The trees below an attribute whose variable is `daName`. -/
def namedChildren (isTransient : Bool) (daName : Str) (da : DataAttribute) :
    List (RoseTree (Str × NodeLabel)) :=
  if 0 < da.count then
    (List.range da.count.toNat).map fun idx =>
      .node (joinName daName (itoa idx), elementLabel isTransient idx da)
        (namedAttributes mangle rt isTransient (joinName daName (itoa idx))
          da.subDataAttributes)
  else namedAttributes mangle rt isTransient daName da.subDataAttributes

def namedNodes (ldName : Str) (nodes : List LogicalNode) :
    List (RoseTree (Str × NodeLabel)) :=
  nodes.map fun ln =>
    .node (joinName ldName ln.getName, logicalNodeLabel ln)
      (namedObjects mangle rt false (joinName ldName ln.getName) ln.dataObjects)

def namedDevices (modelPrefix : Str) (devices : List LogicalDevice) :
    List (RoseTree (Str × NodeLabel)) :=
  devices.map fun device =>
    .node (joinName modelPrefix device.inst, logicalDeviceLabel device)
      (namedNodes mangle rt (joinName modelPrefix device.inst) device.logicalNodes)

end Named

section Unnamed

variable {mangle : Str → Str} {rt : Runtime}

@[simp] theorem attributeForest_nil (isTransient : Bool) :
    attributeForest rt isTransient [] = [] := by
  simp [attributeForest]

theorem attributeForest_cons (isTransient : Bool) (da : DataAttribute)
    (rest : List DataAttribute) :
    attributeForest rt isTransient (da :: rest) =
      .node (attributeLabel rt isTransient da)
        (if 0 < da.count then
          (List.range da.count.toNat).map fun idx =>
            .node (elementLabel isTransient idx da)
              (attributeForest rt isTransient da.subDataAttributes)
        else attributeForest rt isTransient da.subDataAttributes) ::
      attributeForest rt isTransient rest := by
  rw [attributeForest]

@[simp] theorem objectForest_nil (isTransient : Bool) :
    objectForest rt isTransient [] = [] := by
  simp [objectForest]

theorem objectForest_cons (isTransient : Bool) (node : DataObject)
    (rest : List DataObject) :
    objectForest rt isTransient (node :: rest) =
      .node (objectLabel node)
        (objectForest rt (isTransient || node.trans) node.subDataObjects ++
          attributeForest rt (isTransient || node.trans) node.dataAttributes) ::
      objectForest rt isTransient rest := by
  rw [objectForest]

@[simp] theorem namedAttributes_nil (isTransient : Bool) (doName : Str) :
    namedAttributes mangle rt isTransient doName [] = [] := by
  simp [namedAttributes]

theorem namedAttributes_cons (isTransient : Bool) (doName : Str) (da : DataAttribute)
    (rest : List DataAttribute) :
    namedAttributes mangle rt isTransient doName (da :: rest) =
      .node (setpointVariable mangle da.fc (joinName doName da.name),
          attributeLabel rt isTransient da)
        (namedChildren mangle rt isTransient
          (setpointVariable mangle da.fc (joinName doName da.name)) da) ::
      namedAttributes mangle rt isTransient doName rest := by
  rw [namedAttributes, namedChildren]

@[simp] theorem namedObjects_nil (isTransient : Bool) (parent : Str) :
    namedObjects mangle rt isTransient parent [] = [] := by
  simp [namedObjects]

theorem namedObjects_cons (isTransient : Bool) (parent : Str) (node : DataObject)
    (rest : List DataObject) :
    namedObjects mangle rt isTransient parent (node :: rest) =
      .node (joinName parent node.name, objectLabel node)
        (namedObjects mangle rt (isTransient || node.trans) (joinName parent node.name)
            node.subDataObjects ++
          namedAttributes mangle rt (isTransient || node.trans)
            (joinName parent node.name) node.dataAttributes) ::
      namedObjects mangle rt isTransient parent rest := by
  rw [namedObjects]

theorem headKey_namedNodes (ldName : Str) (nodes : List LogicalNode) :
    headKey none (namedNodes mangle rt ldName nodes) =
      nodes.head?.map fun ln => joinName ldName ln.getName := by
  cases nodes <;> rfl

theorem headKey_namedDevices (modelPrefix : Str) (devices : List LogicalDevice) :
    headKey none (namedDevices mangle rt modelPrefix devices) =
      devices.head?.map fun device => joinName modelPrefix device.inst := by
  cases devices <;> rfl

theorem mapForest_namedAttributes (isTransient : Bool) (doName : Str)
    (das : List DataAttribute) :
    mapForest Prod.snd (namedAttributes mangle rt isTransient doName das) =
      attributeForest rt isTransient das := by
  induction das using dataAttribute_induction generalizing doName with
  | nil => simp
  | cons da rest ihm ihr =>
      rw [namedAttributes_cons, attributeForest_cons, mapForest_cons, ihr, namedChildren]
      congr 2
      split
      · simp [mapForest_map_node, ihm]
      · exact ihm _

theorem mapForest_namedObjects (isTransient : Bool) (parent : Str)
    (nodes : List DataObject) :
    mapForest Prod.snd (namedObjects mangle rt isTransient parent nodes) =
      objectForest rt isTransient nodes := by
  induction nodes using dataObject_induction generalizing isTransient parent with
  | nil => simp
  | cons node rest ihm ihr =>
      rw [namedObjects_cons, objectForest_cons, mapForest_cons, mapForest_append, ihm, ihr,
        mapForest_namedAttributes]

/-- Without the variables the named tree is the model tree. -/
theorem mapForest_namedDevices (modelPrefix : Str) (devices : List LogicalDevice) :
    mapForest Prod.snd (namedDevices mangle rt modelPrefix devices) =
      modelForest rt devices := by
  simp [namedDevices, namedNodes, modelForest, mapForest_map_node, mapForest_namedObjects]

end Unnamed

end Iec61850.Scl
