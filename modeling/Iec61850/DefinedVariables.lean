import Iec61850.LinkedDefinitions
import Iec61850.SetpointNames

/-!
# The variables that are defined

Whether or not the pointers agree with them, the variables of the definitions
are those of the named tree, in its order, and the list of variables from which
the macros are made is the same.
-/

namespace Iec61850.Scl

open Go Linked

/-- A definition without its pointers. -/
def NodeDefinition.named (d : NodeDefinition) : Str × NodeLabel :=
  (d.variableName, d.label)

variable {mangle : Str → Str} {ctx : PrintContext}

/-! ## Data attributes and data objects -/

section Named

variable (hmangle : ∀ name name', ctx.insertSE name = .ok name' → name' = mangle name)

include hmangle

theorem printDataAttributeDefinitions_named {isTransient : Bool} {doName : Str}
    {das : List DataAttribute} {out : Definitions}
    (h : printDataAttributeDefinitions ctx doName isTransient das = .ok out) :
    out.cOut.map NodeDefinition.named =
      preorder (namedAttributes mangle ctx.rt isTransient doName das) := by
  induction das using dataAttribute_induction generalizing doName out with
  | nil =>
      obtain rfl := Except.ok.inj h
      simp
  | cons da rest ihm ihr =>
      obtain ⟨daName, sibling, children, statements, others, hdaName, -, hchildren, -,
        hothers, rfl⟩ := printDataAttributeDefinitions_cons_ok h
      obtain rfl := setpointName_eq_ok hmangle hdaName
      have hbelow : children.cOut.map NodeDefinition.named = preorder (namedChildren mangle
          ctx.rt isTransient (setpointVariable mangle da.fc (joinName doName da.name)) da) := by
        unfold namedChildren
        rcases printAttributeChildren_ok hchildren with
          ⟨harray, elements, rfl, helements⟩ | ⟨harray, hsubs⟩
        · rw [if_pos harray, preorder_map_node]
          refine concat_map_cOut helements fun idx element _ helement => ?_
          obtain ⟨members, hmembers, helement⟩ := bind_eq_ok.mp helement
          obtain rfl := Except.ok.inj helement
          rw [Definitions.append_cOut, List.map_append, ihm hmembers]
          rfl
        · rw [if_neg harray]
          exact ihm hsubs
      rw [namedAttributes_cons, preorder_cons, ← hbelow, ← ihr hothers]
      simp [NodeDefinition.named, attributeNode]

theorem printDataObjectDefinitions_named {isTransient : Bool} {lnName sibling : Str}
    {nodes : List DataObject} {out : Definitions}
    (h : printDataObjectDefinitions ctx lnName sibling isTransient nodes = .ok out) :
    out.cOut.map NodeDefinition.named =
      preorder (namedObjects mangle ctx.rt isTransient lnName nodes) := by
  induction nodes using dataObject_induction generalizing lnName sibling isTransient out with
  | nil =>
      obtain rfl := Except.ok.inj h
      simp
  | cons node rest ihm ihr =>
      obtain ⟨first, objects, attributes, others, -, hobjects, hattributes, hothers, rfl⟩ :=
        printDataObjectDefinitions_cons_ok h
      have hattributes := printDataAttributeDefinitions_named hmangle hattributes
      rw [namedObjects_cons, preorder_cons, preorder_append, ← ihm hobjects, ← hattributes,
        ← ihr hothers]
      simp [NodeDefinition.named, objectNode]

/-! ## Logical nodes and devices -/

theorem printLogicalNodeDefinitions_named {blocks : ControlBlockContext}
    {deviceInst ldName : Str} {nodes : List LogicalNode} {out out' : DeviceModel}
    (h : printLogicalNodeDefinitions ctx blocks deviceInst ldName nodes out = .ok out') :
    out'.definitions.cOut.map NodeDefinition.named =
      out.definitions.cOut.map NodeDefinition.named ++
        preorder (namedNodes mangle ctx.rt ldName nodes) := by
  induction nodes generalizing out with
  | nil =>
      obtain rfl := Except.ok.inj h
      simp [namedNodes]
  | cons ln rest ih =>
      obtain ⟨between, hln, hrest⟩ := printLogicalNodeDefinitions_cons_ok h
      obtain ⟨firstChild, objects, -, hobjects, hbetween, -⟩ := printLogicalNodeDefinition_ok hln
      have hobjects := printDataObjectDefinitions_named hmangle hobjects
      have hsplit : namedNodes mangle ctx.rt ldName (ln :: rest) =
          .node (joinName ldName ln.getName, logicalNodeLabel ln)
            (namedObjects mangle ctx.rt false (joinName ldName ln.getName) ln.dataObjects) ::
          namedNodes mangle ctx.rt ldName rest := rfl
      rw [ih hrest, hbetween, hsplit, preorder_cons, ← hobjects]
      simp [NodeDefinition.named, logicalNodeNode]

theorem printLogicalDeviceDefinitions_named {blocks : ControlBlockContext}
    {modelPrefix : Str} {devices : List LogicalDevice} {out out' : DeviceModel}
    (h : printLogicalDeviceDefinitions ctx blocks modelPrefix devices out = .ok out') :
    out'.definitions.cOut.map NodeDefinition.named =
      out.definitions.cOut.map NodeDefinition.named ++
        preorder (namedDevices mangle ctx.rt modelPrefix devices) := by
  induction devices generalizing out with
  | nil =>
      obtain rfl := Except.ok.inj h
      simp [namedDevices]
  | cons device rest ih =>
      obtain ⟨between, hdevice, hrest⟩ := printLogicalDeviceDefinitions_cons_ok h
      obtain ⟨firstChild, -, hnodes⟩ := printLogicalDeviceDefinition_ok hdevice
      have hnodes := printLogicalNodeDefinitions_named hmangle hnodes
      have hsplit : namedDevices mangle ctx.rt modelPrefix (device :: rest) =
          .node (joinName modelPrefix device.inst, logicalDeviceLabel device)
            (namedNodes mangle ctx.rt (joinName modelPrefix device.inst)
              device.logicalNodes) ::
          namedDevices mangle ctx.rt modelPrefix rest := rfl
      rw [ih hrest, hnodes, hsplit, preorder_cons]
      simp [NodeDefinition.named, logicalDeviceNode]

end Named

/-! ## The list of variables -/

/-- The variables listed for the macros are the ones defined. -/
def Definitions.Listed (d : Definitions) : Prop :=
  d.variablesList = d.cOut.map NodeDefinition.variableName

theorem Definitions.listed_empty : Definitions.Listed {} := rfl

theorem Definitions.listed_ofNode (d : NodeDefinition) : (Definitions.ofNode d).Listed := rfl

theorem Definitions.listed_ofStatements (statements : List InitStatement) :
    (Definitions.ofStatements statements).Listed := rfl

theorem Definitions.Listed.append {a b : Definitions} (ha : a.Listed) (hb : b.Listed) :
    (a ++ b).Listed := by
  unfold Definitions.Listed at *
  rw [Definitions.append_variablesList, Definitions.append_cOut, ha, hb, List.map_append]

theorem Definitions.listed_concat {parts : List Definitions}
    (h : ∀ part ∈ parts, part.Listed) : (Definitions.concat parts).Listed := by
  induction parts with
  | nil => exact Definitions.listed_empty
  | cons part rest ih =>
      exact (h part (by simp)).append (ih fun other hother =>
        h other (List.mem_cons_of_mem part hother))

theorem listed_printDataAttributeDefinitions {isTransient : Bool} {doName : Str}
    {das : List DataAttribute} {out : Definitions}
    (h : printDataAttributeDefinitions ctx doName isTransient das = .ok out) : out.Listed := by
  induction das using dataAttribute_induction generalizing doName out with
  | nil =>
      obtain rfl := Except.ok.inj h
      exact Definitions.listed_empty
  | cons da rest ihm ihr =>
      obtain ⟨daName, sibling, children, statements, others, -, -, hchildren, -, hothers,
        rfl⟩ := printDataAttributeDefinitions_cons_ok h
      have hbelow : children.Listed := by
        rcases printAttributeChildren_ok hchildren with
          ⟨-, elements, rfl, helements⟩ | ⟨-, hsubs⟩
        · refine Definitions.listed_concat fun element helement => ?_
          obtain ⟨idx, -, helement⟩ := exists_of_mem_mapM_ok (mapM_eq_ok.mpr helements) helement
          obtain ⟨members, hmembers, helement⟩ := bind_eq_ok.mp helement
          obtain rfl := Except.ok.inj helement
          exact (Definitions.listed_ofNode _).append (ihm hmembers)
        · exact ihm hsubs
      exact (((Definitions.listed_ofNode _).append hbelow).append
        (Definitions.listed_ofStatements _)).append (ihr hothers)

theorem listed_printDataObjectDefinitions {isTransient : Bool} {lnName sibling : Str}
    {nodes : List DataObject} {out : Definitions}
    (h : printDataObjectDefinitions ctx lnName sibling isTransient nodes = .ok out) :
    out.Listed := by
  induction nodes using dataObject_induction generalizing lnName sibling isTransient out with
  | nil =>
      obtain rfl := Except.ok.inj h
      exact Definitions.listed_empty
  | cons node rest ihm ihr =>
      obtain ⟨first, objects, attributes, others, -, hobjects, hattributes, hothers, rfl⟩ :=
        printDataObjectDefinitions_cons_ok h
      exact (((Definitions.listed_ofNode _).append (ihm hobjects)).append
        (listed_printDataAttributeDefinitions hattributes)).append (ihr hothers)

theorem listed_printLogicalNodeDefinitions {blocks : ControlBlockContext}
    {deviceInst ldName : Str} {nodes : List LogicalNode} {out out' : DeviceModel}
    (h : printLogicalNodeDefinitions ctx blocks deviceInst ldName nodes out = .ok out')
    (hout : out.definitions.Listed) : out'.definitions.Listed := by
  induction nodes generalizing out with
  | nil =>
      obtain rfl := Except.ok.inj h
      exact hout
  | cons ln rest ih =>
      obtain ⟨between, hln, hrest⟩ := printLogicalNodeDefinitions_cons_ok h
      obtain ⟨firstChild, objects, -, hobjects, hbetween, -⟩ := printLogicalNodeDefinition_ok hln
      apply ih hrest
      rw [hbetween]
      exact hout.append ((Definitions.listed_ofNode _).append
        (listed_printDataObjectDefinitions hobjects))

theorem listed_printLogicalDeviceDefinitions {blocks : ControlBlockContext}
    {modelPrefix : Str} {devices : List LogicalDevice} {out out' : DeviceModel}
    (h : printLogicalDeviceDefinitions ctx blocks modelPrefix devices out = .ok out')
    (hout : out.definitions.Listed) : out'.definitions.Listed := by
  induction devices generalizing out with
  | nil =>
      obtain rfl := Except.ok.inj h
      exact hout
  | cons device rest ih =>
      obtain ⟨between, hdevice, hrest⟩ := printLogicalDeviceDefinitions_cons_ok h
      obtain ⟨firstChild, -, hnodes⟩ := printLogicalDeviceDefinition_ok hdevice
      apply ih hrest
      exact listed_printLogicalNodeDefinitions hnodes
        (hout.append (Definitions.listed_ofNode _))

/-! ## No variable is shorter than what it is built from -/

theorem length_le_mangleSE (modelPrefix name : Str) :
    name.length ≤ (mangleSE modelPrefix name).length := by
  unfold mangleSE
  split
  next => exact le_refl _
  next =>
    have hsplit := congrArg List.length (List.take_append_drop 9 name)
    rw [List.length_append] at hsplit
    simp only [List.length_append]
    omega

theorem length_le_setpointVariable (modelPrefix fc name : Str) :
    name.length ≤ (setpointVariable (mangleSE modelPrefix) fc name).length := by
  unfold setpointVariable
  split
  next => exact length_le_mangleSE modelPrefix name
  next => exact le_refl _

theorem length_le_joinName (parent name : Str) : parent.length ≤ (joinName parent name).length := by
  simp [joinName]

variable {modelPrefix : Str} {rt : Runtime}

theorem length_le_of_mem_namedAttributes {isTransient : Bool} {doName : Str}
    {das : List DataAttribute} {named : Str × NodeLabel}
    (h : named ∈ preorder (namedAttributes (mangleSE modelPrefix) rt isTransient doName das)) :
    doName.length ≤ named.1.length := by
  induction das using dataAttribute_induction generalizing doName with
  | nil => simp at h
  | cons da rest ihm ihr =>
      have hname : doName.length ≤ (setpointVariable (mangleSE modelPrefix) da.fc
          (joinName doName da.name)).length :=
        (length_le_joinName _ _).trans (length_le_setpointVariable _ _ _)
      rw [namedAttributes_cons, preorder_cons, List.mem_cons, List.mem_append] at h
      rcases h with rfl | h | h
      · exact hname
      · unfold namedChildren at h
        split at h
        · rw [preorder_map_node, List.mem_flatMap] at h
          obtain ⟨idx, -, h⟩ := h
          have helement := hname.trans (length_le_joinName _ (itoa idx))
          rcases List.mem_cons.mp h with rfl | h
          · exact helement
          · exact helement.trans (ihm h)
        · exact hname.trans (ihm h)
      · exact ihr h

theorem length_le_of_mem_namedObjects {isTransient : Bool} {lnName : Str}
    {nodes : List DataObject} {named : Str × NodeLabel}
    (h : named ∈ preorder (namedObjects (mangleSE modelPrefix) rt isTransient lnName nodes)) :
    lnName.length ≤ named.1.length := by
  induction nodes using dataObject_induction generalizing lnName isTransient with
  | nil => simp at h
  | cons node rest ihm ihr =>
      have hname := length_le_joinName lnName node.name
      rw [namedObjects_cons, preorder_cons, preorder_append, List.mem_cons, List.mem_append,
        List.mem_append] at h
      rcases h with rfl | (h | h) | h
      · exact hname
      · exact hname.trans (ihm h)
      · exact hname.trans (length_le_of_mem_namedAttributes h)
      · exact ihr h

theorem length_lt_of_mem_namedDevices {devices : List LogicalDevice} {named : Str × NodeLabel}
    (h : named ∈ preorder (namedDevices (mangleSE modelPrefix) rt modelPrefix devices)) :
    modelPrefix.length < named.1.length := by
  rw [namedDevices, preorder_map_node, List.mem_flatMap] at h
  obtain ⟨device, -, h⟩ := h
  have hdevice : modelPrefix.length < (joinName modelPrefix device.inst).length := by
    simp [joinName]
  rcases List.mem_cons.mp h with rfl | h
  · exact hdevice
  · rw [namedNodes, preorder_map_node, List.mem_flatMap] at h
    obtain ⟨ln, -, h⟩ := h
    have hnode := hdevice.trans_le (length_le_joinName _ ln.getName)
    rcases List.mem_cons.mp h with rfl | h
    · exact hnode
    · exact hnode.trans_le (length_le_of_mem_namedObjects h)

end Iec61850.Scl
