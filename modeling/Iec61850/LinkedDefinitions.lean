import Iec61850.GeneratorRun
import Iec61850.ModelForest

/-!
# Printed definitions are linked records

The definitions printed for the data model are the records of the named tree,
linked by parent, sibling and first child.  A node is named in up to four
places: in its own definition and as the sibling, the first child and the
parent of others.  For attributes of constraint SE these agree if inserting
`SE_` commutes with appending a name to the data object, and changes nothing
below an attribute that already carries it.
-/

namespace Iec61850.Scl

open Go Linked

/-- A definition as a linked record. -/
def NodeDefinition.record (d : NodeDefinition) : Record Str NodeLabel where
  key := d.variableName
  label := d.label
  parent := d.parent
  sibling := d.sibling
  firstChild := d.firstChild

/-! ## Inherited constraints -/

/-- At every depth the sub attributes of an attribute with a constraint have
the same constraint. -/
inductive FcInherited : DataAttribute → Prop
  | intro {da : DataAttribute}
      (hfc : da.fc ≠ [] → ∀ sub ∈ da.subDataAttributes, sub.fc = da.fc)
      (hsubs : ∀ sub ∈ da.subDataAttributes, FcInherited sub) : FcInherited da

theorem FcInherited.fc {da sub : DataAttribute} (h : FcInherited da) (hne : da.fc ≠ [])
    (hsub : sub ∈ da.subDataAttributes) : sub.fc = da.fc := by
  cases h with
  | intro hfc _ => exact hfc hne sub hsub

theorem FcInherited.sub {da sub : DataAttribute} (h : FcInherited da)
    (hsub : sub ∈ da.subDataAttributes) : FcInherited sub := by
  cases h with
  | intro _ hsubs => exact hsubs sub hsub

/-- The builder hands the constraint down to every depth. -/
theorem fcInherited_newDataAttribute {templates : DataTypeTemplates} {n : ℕ}
    {d : DataAttributeDefinition} {fc : Str} {parent : ParentNode} {da : DataAttribute}
    (h : newDataAttribute templates n d fc parent = .ok da) :
    FcInherited da ∧ (fc ≠ [] → da.fc = fc) := by
  induction n generalizing d fc parent da with
  | zero => cases h
  | succ n ih =>
      have hleaf : ∀ {a : DataAttribute}, a.subDataAttributes = [] →
          a.fc = attributeFc d.fc fc → FcInherited a ∧ (fc ≠ [] → a.fc = fc) := by
        intro a hsubs hfc
        refine ⟨FcInherited.intro (by simp [hsubs]) (by simp [hsubs]), fun hne => ?_⟩
        rw [hfc, attributeFc, if_neg hne]
      cases attributeCreated_of_ok h with
      | @constructed t subs htype hlookup hsubs =>
          have hmember : ∀ sub ∈ subs, FcInherited sub ∧
              (attributeFc d.fc fc ≠ [] → sub.fc = attributeFc d.fc fc) := by
            intro sub hsub
            obtain ⟨s, _, hs⟩ := exists_of_mem_mapM_ok hsubs hsub
            exact ih hs
          refine ⟨FcInherited.intro ?_ fun sub hsub => (hmember sub hsub).1, fun hne => ?_⟩
          · exact fun hne sub hsub => (hmember sub hsub).2 hne
          · change attributeFc d.fc fc = fc
            rw [attributeFc, if_neg hne]
      | enumerated htype hlookup => exact hleaf rfl rfl
      | basic hconstructed henumerated => exact hleaf rfl rfl

theorem fcInherited_setInstanceValue {rt : Runtime} {dai : DOINode} {da da' : DataAttribute}
    (h : setInstanceValue rt dai da = .ok da') (hda : FcInherited da) : FcInherited da' := by
  rcases setInstanceValue_cases h with ⟨-, rfl⟩ | ⟨text, v, -, -, rfl⟩
  · exact hda
  · exact FcInherited.intro (fun hne sub hsub => hda.fc hne hsub) fun sub hsub => hda.sub hsub

/-! ## Agreement of the places that insert `SE_` -/

/-- What the names of an attribute below `doName` have to satisfy. -/
structure SetpointAgrees (mangle : Str → Str) (doName : Str) (da : DataAttribute) :
    Prop where
  inherited : FcInherited da
  fc_ne_nil : da.fc ≠ []
  settled : da.fc = lit "SE" → ∀ name,
    mangle (joinName doName name) = joinName (mangle doName) name
  fixed : da.fc = lit "SE" → da.subDataAttributes ≠ [] → ∀ rest,
    mangle (mangle (joinName doName da.name) ++ rest) =
      mangle (joinName doName da.name) ++ rest

variable {mangle : Str → Str}

/-- Below an attribute, `SE_` is inserted nowhere. -/
theorem SetpointAgrees.member_fixed {doName : Str} {da sub : DataAttribute}
    (h : SetpointAgrees mangle doName da) (hsub : sub ∈ da.subDataAttributes)
    (hse : sub.fc = lit "SE") (rest : Str) :
    mangle (setpointVariable mangle da.fc (joinName doName da.name) ++ rest) =
      setpointVariable mangle da.fc (joinName doName da.name) ++ rest := by
  have hda : da.fc = lit "SE" := by rw [← hse, h.inherited.fc h.fc_ne_nil hsub]
  have hne : da.subDataAttributes ≠ [] := List.ne_nil_of_mem hsub
  rw [setpointVariable, if_pos hda]
  exact h.fixed hda hne rest

theorem SetpointAgrees.members {doName : Str} {da : DataAttribute}
    (h : SetpointAgrees mangle doName da) (rest : Str) :
    ∀ sub ∈ da.subDataAttributes, SetpointAgrees mangle
      (setpointVariable mangle da.fc (joinName doName da.name) ++ rest) sub := by
  intro sub hsub
  have hfixed := h.member_fixed hsub
  have hfc : sub.fc = da.fc := h.inherited.fc h.fc_ne_nil hsub
  refine ⟨h.inherited.sub hsub, ?_, fun hse name => ?_, fun hse _ tail => ?_⟩
  · rw [hfc]
    exact h.fc_ne_nil
  · rw [hfixed hse rest, joinName, List.append_assoc, hfixed hse]
  · rw [joinName, List.append_assoc, hfixed hse, List.append_assoc, hfixed hse]

theorem setpointVariable_joinName {doName : Str} {da : DataAttribute}
    (h : SetpointAgrees mangle doName da) :
    setpointVariable mangle da.fc (joinName doName da.name) =
      joinName (setpointVariable mangle da.fc doName) da.name := by
  unfold setpointVariable
  split
  next hse => exact h.settled hse da.name
  next => rfl

/-- What is read off the definitions of a loop is read off its iterations, one
after the other. -/
theorem concat_map_cOut {ι γ : Type} {f : ι → Outcome Definitions} {g : NodeDefinition → γ}
    {views : ι → List γ} {xs : List ι} {parts : List Definitions}
    (h : List.Forall₂ (fun x part => f x = .ok part) xs parts)
    (hpart : ∀ x part, x ∈ xs → f x = .ok part → part.cOut.map g = views x) :
    (Definitions.concat parts).cOut.map g = xs.flatMap views := by
  induction h with
  | nil => rfl
  | cons hx _ ih =>
      have hrest := ih fun x part hmem => hpart x part (List.mem_cons_of_mem _ hmem)
      simp [hrest, hpart _ _ (List.mem_cons_self ..) hx]

section Records

variable {ctx : PrintContext}

theorem headKey_namedAttributes {rt : Runtime} {isTransient : Bool} {doName : Str}
    {das : List DataAttribute} (h : ∀ da ∈ das, SetpointAgrees mangle doName da) :
    headKey none (namedAttributes mangle rt isTransient doName das) =
      das.head?.map fun da => joinName (setpointVariable mangle da.fc doName) da.name := by
  cases das with
  | nil => simp
  | cons da rest =>
      rw [namedAttributes_cons, headKey_cons, setpointVariable_joinName (h da (by simp))]
      rfl

/-- The first member of an attribute or of an element is named without a
further insertion. -/
theorem SetpointAgrees.headKey_members {doName : Str} {da : DataAttribute}
    (h : SetpointAgrees mangle doName da) (rt : Runtime) (isTransient : Bool) (rest : Str) :
    headKey none (namedAttributes mangle rt isTransient
      (setpointVariable mangle da.fc (joinName doName da.name) ++ rest)
      da.subDataAttributes) =
    da.subDataAttributes.head?.map fun sub =>
      joinName (setpointVariable mangle da.fc (joinName doName da.name) ++ rest)
        sub.name := by
  rw [headKey_namedAttributes (h.members rest)]
  cases hsubs : da.subDataAttributes with
  | nil => rfl
  | cons sub others =>
      have hsub : sub ∈ da.subDataAttributes := by simp [hsubs]
      simp only [List.head?_cons, Option.map_some, Option.some.injEq]
      congr 1
      nth_rewrite 1 [setpointVariable]
      split
      next hse => exact h.member_fixed hsub hse rest
      next => rfl

variable (hmangle : ∀ name name', ctx.insertSE name = .ok name' → name' = mangle name)

include hmangle

theorem setpointName_eq_ok {fc name name' : Str}
    (h : ctx.setpointName fc name = .ok name') : name' = setpointVariable mangle fc name := by
  unfold PrintContext.setpointName at h
  unfold setpointVariable
  split at h
  next hse =>
    rw [if_pos hse]
    exact hmangle name name' h
  next hse =>
    rw [if_neg hse]
    exact (Except.ok.inj h).symm

theorem attributeSibling_eq_ok (isTransient : Bool) {doName : Str}
    {rest : List DataAttribute} {sibling : Option Str}
    (hagree : ∀ da ∈ rest, SetpointAgrees mangle doName da)
    (h : attributeSibling ctx doName rest.head? = .ok sibling) :
    sibling = headKey none (namedAttributes mangle ctx.rt isTransient doName rest) := by
  rw [headKey_namedAttributes hagree]
  cases rest with
  | nil => exact (Except.ok.inj h).symm
  | cons next others =>
      obtain ⟨name, hname, hsibling⟩ := bind_eq_ok.mp h
      rw [← Except.ok.inj hsibling, setpointName_eq_ok hmangle hname]
      rfl

omit hmangle in
/-- The children of an attribute are linked below its variable. -/
theorem printAttributeChildren_records {isTransient : Bool} {daName : Str}
    {da : DataAttribute} {children : Definitions}
    (hmembers : ∀ rest out,
      printDataAttributeDefinitions ctx (daName ++ rest) isTransient da.subDataAttributes =
        .ok out →
      out.cOut.map NodeDefinition.record = preorder (link (daName ++ rest) none
        (namedAttributes mangle ctx.rt isTransient (daName ++ rest) da.subDataAttributes)))
    (hhead : ∀ rest, headKey none (namedAttributes mangle ctx.rt isTransient
        (daName ++ rest) da.subDataAttributes) =
      da.subDataAttributes.head?.map fun sub => joinName (daName ++ rest) sub.name)
    (h : printAttributeChildren ctx daName isTransient da = .ok children) :
    children.cOut.map NodeDefinition.record =
      preorder (link daName none (namedChildren mangle ctx.rt isTransient daName da)) := by
  unfold namedChildren
  rcases printAttributeChildren_ok h with ⟨harray, elements, rfl, helements⟩ | ⟨harray, hsubs⟩
  · rw [if_pos harray, link_map_range, preorder_map_node]
    refine concat_map_cOut helements fun idx element hidx helement => ?_
    obtain ⟨members, hmembersOk, helement⟩ := bind_eq_ok.mp helement
    obtain rfl := Except.ok.inj helement
    have hbelow := hmembers ('_' :: itoa idx) members hmembersOk
    have hfirst := hhead ('_' :: itoa idx)
    have hlast : (idx : ℤ) ≠ da.count - 1 ↔ idx + 1 < da.count.toNat := by
      have hidx := List.mem_range.mp hidx
      omega
    simp only [Definitions.append_cOut, Definitions.ofNode_cOut, List.map_cons,
      List.cons_append, List.nil_append]
    congr 1
    simp only [NodeDefinition.record, elementNode, joinName, hfirst, hlast]
  · rw [if_neg harray]
    have hbelow := hmembers [] children
    rw [List.append_nil] at hbelow
    exact hbelow hsubs

/-- The definitions of a list of attributes are the linked records of its
named tree. -/
theorem printDataAttributeDefinitions_records {isTransient : Bool} {doName : Str}
    {das : List DataAttribute} {out : Definitions}
    (hagree : ∀ da ∈ das, SetpointAgrees mangle doName da)
    (h : printDataAttributeDefinitions ctx doName isTransient das = .ok out) :
    out.cOut.map NodeDefinition.record =
      preorder (link doName none (namedAttributes mangle ctx.rt isTransient doName das)) := by
  induction das using dataAttribute_induction generalizing doName out with
  | nil =>
      obtain rfl := Except.ok.inj h
      simp
  | cons da rest ihm ihr =>
      obtain ⟨daName, sibling, children, statements, others, hdaName, hsibling, hchildren,
        -, hothers, rfl⟩ := printDataAttributeDefinitions_cons_ok h
      have hda := hagree da (by simp)
      have hagreeRest : ∀ other ∈ rest, SetpointAgrees mangle doName other :=
        fun other hother => hagree other (List.mem_cons_of_mem da hother)
      obtain rfl := setpointName_eq_ok hmangle hdaName
      have hsiblingKey := attributeSibling_eq_ok hmangle isTransient
        hagreeRest hsibling
      have hbelow := printAttributeChildren_records
        (fun rest out => ihm (hda.members rest)) (hda.headKey_members ctx.rt isTransient)
        hchildren
      have hfirstChild : (attributeNode ctx.rt
          (setpointVariable mangle da.fc (joinName doName da.name)) doName isTransient
          sibling da).firstChild = headKey none (namedChildren mangle ctx.rt isTransient
            (setpointVariable mangle da.fc (joinName doName da.name)) da) := by
        unfold namedChildren attributeNode
        split
        next harray =>
          obtain ⟨n, hn⟩ : ∃ n, da.count.toNat = n + 1 := ⟨da.count.toNat - 1, by omega⟩
          rw [hn, List.range_succ_eq_map]
          rfl
        next =>
          have hhead := hda.headKey_members ctx.rt isTransient []
          rw [List.append_nil] at hhead
          exact hhead.symm
      rw [namedAttributes_cons, link_cons, preorder_cons, ← ihr hagreeRest hothers, ← hbelow,
        ← hfirstChild, ← hsiblingKey]
      simp [NodeDefinition.record, attributeNode]

end Records

/-! ## Data objects -/

/-- The names of all attributes of a data object whose variable is `doName`. -/
inductive ObjectAgrees (mangle : Str → Str) : Str → DataObject → Prop
  | intro {doName : Str} {node : DataObject}
      (hattributes : ∀ da ∈ node.dataAttributes, SetpointAgrees mangle doName da)
      (hobjects : ∀ sub ∈ node.subDataObjects,
        ObjectAgrees mangle (joinName doName sub.name) sub) :
      ObjectAgrees mangle doName node

theorem ObjectAgrees.attributes {doName : Str} {node : DataObject}
    (h : ObjectAgrees mangle doName node) :
    ∀ da ∈ node.dataAttributes, SetpointAgrees mangle doName da := by
  cases h with
  | intro hattributes _ => exact hattributes

theorem ObjectAgrees.objects {doName : Str} {node : DataObject}
    (h : ObjectAgrees mangle doName node) :
    ∀ sub ∈ node.subDataObjects, ObjectAgrees mangle (joinName doName sub.name) sub := by
  cases h with
  | intro _ hobjects => exact hobjects

theorem joinName_ne_nil (parent name : Str) : joinName parent name ≠ [] := by
  simp [joinName]

theorem objectSibling_eq (mangle : Str → Str) (rt : Runtime) (isTransient : Bool)
    {lnName sibling : Str}
    (nodes : List DataObject) :
    objectSibling lnName sibling nodes =
      headKey (pointerTo sibling) (namedObjects mangle rt isTransient lnName nodes) := by
  cases nodes with
  | nil => rw [namedObjects_nil]; rfl
  | cons node rest => rw [namedObjects_cons]; rfl

section Objects

variable {ctx : PrintContext}
variable (hmangle : ∀ name name', ctx.insertSE name = .ok name' → name' = mangle name)

include hmangle

theorem firstAttributeName_eq_ok (isTransient : Bool) {doName name : Str}
    {das : List DataAttribute} (hagree : ∀ da ∈ das, SetpointAgrees mangle doName da)
    (h : firstAttributeName ctx doName das = .ok name) :
    pointerTo name =
      headKey none (namedAttributes mangle ctx.rt isTransient doName das) := by
  rw [headKey_namedAttributes hagree]
  cases das with
  | nil =>
      obtain rfl := Except.ok.inj h
      rfl
  | cons da rest =>
      obtain ⟨fDoName, hfDoName, hname⟩ := bind_eq_ok.mp h
      rw [← Except.ok.inj hname, setpointName_eq_ok hmangle hfDoName, pointerTo,
        if_neg (joinName_ne_nil _ _)]
      rfl

/-- The definitions of a list of data objects are the linked records of its
named tree; the last one points on to the attribute that follows. -/
theorem printDataObjectDefinitions_records {isTransient : Bool} {lnName sibling : Str}
    {nodes : List DataObject} {out : Definitions}
    (hagree : ∀ node ∈ nodes, ObjectAgrees mangle (joinName lnName node.name) node)
    (h : printDataObjectDefinitions ctx lnName sibling isTransient nodes = .ok out) :
    out.cOut.map NodeDefinition.record = preorder (link lnName (pointerTo sibling)
      (namedObjects mangle ctx.rt isTransient lnName nodes)) := by
  induction nodes using dataObject_induction generalizing lnName sibling isTransient out with
  | nil =>
      obtain rfl := Except.ok.inj h
      simp
  | cons node rest ihm ihr =>
      obtain ⟨firstName, objects, attributes, others, hfirstName, hobjects, hattributes,
        hothers, rfl⟩ := printDataObjectDefinitions_cons_ok h
      have hnode := hagree node (by simp)
      have hpointer := firstAttributeName_eq_ok hmangle (isTransient || node.trans)
        hnode.attributes hfirstName
      have hattributes := printDataAttributeDefinitions_records hmangle hnode.attributes
        hattributes
      have hobjects := ihm hnode.objects hobjects
      have hothers := ihr (fun other hother => hagree other (List.mem_cons_of_mem _ hother))
        hothers
      rw [namedObjects_cons, link_cons, preorder_cons, link_append, preorder_append,
        headKey_append, ← hpointer, ← hobjects, ← hattributes, ← hothers]
      simp [NodeDefinition.record, objectNode, List.append_assoc,
        objectSibling_eq mangle ctx.rt isTransient rest,
        objectSibling_eq mangle ctx.rt (isTransient || node.trans) node.subDataObjects]

/-! ## Logical nodes and devices -/

theorem printLogicalNodeDefinitions_records {blocks : ControlBlockContext}
    {deviceInst ldName : Str} {nodes : List LogicalNode} {out out' : DeviceModel}
    (hagree : ∀ ln ∈ nodes, ∀ node ∈ ln.dataObjects,
      ObjectAgrees mangle (joinName (joinName ldName ln.getName) node.name) node)
    (h : printLogicalNodeDefinitions ctx blocks deviceInst ldName nodes out = .ok out') :
    ∃ added, out'.definitions = out.definitions ++ added ∧
      added.cOut.map NodeDefinition.record =
        preorder (link ldName none (namedNodes mangle ctx.rt ldName nodes)) := by
  induction nodes generalizing out with
  | nil =>
      obtain rfl := Except.ok.inj h
      exact ⟨{}, (Definitions.append_empty _).symm, by simp [namedNodes]⟩
  | cons ln rest ih =>
      obtain ⟨between, hln, hrest⟩ := printLogicalNodeDefinitions_cons_ok h
      obtain ⟨firstChild, objects, hfirst, hobjects, hbetween, -⟩ :=
        printLogicalNodeDefinition_ok hln
      have hagreeRest := fun other hother => hagree other (List.mem_cons_of_mem ln hother)
      obtain ⟨others, hothers, hrecords⟩ := ih hagreeRest hrest
      have hobjects := printDataObjectDefinitions_records hmangle (hagree ln (by simp)) hobjects
      refine ⟨Definitions.ofNode (logicalNodeNode ldName rest.head? firstChild ln) ++
        objects ++ others, ?_, ?_⟩
      · rw [hothers, hbetween, Definitions.append_assoc]
      · have hchild : headKey none (namedObjects mangle ctx.rt false
              (joinName ldName ln.getName) ln.dataObjects) =
            some (joinName (joinName ldName ln.getName) firstChild.name) := by
          have hhead := first_eq_ok.mp hfirst
          cases hnodes : ln.dataObjects with
          | nil => simp [hnodes] at hhead
          | cons node others =>
              obtain rfl : node = firstChild := by simpa [hnodes] using hhead
              rw [namedObjects_cons]
              rfl
        have hsplit : namedNodes mangle ctx.rt ldName (ln :: rest) =
            .node (joinName ldName ln.getName, logicalNodeLabel ln)
              (namedObjects mangle ctx.rt false (joinName ldName ln.getName)
                ln.dataObjects) :: namedNodes mangle ctx.rt ldName rest := rfl
        have hnull : pointerTo [] = none := rfl
        rw [hnull] at hobjects
        rw [hsplit, link_cons, preorder_cons, ← hobjects, ← hrecords,
          headKey_namedNodes, hchild]
        simp [NodeDefinition.record, logicalNodeNode]

theorem printLogicalDeviceDefinitions_records {blocks : ControlBlockContext}
    {modelPrefix : Str} {devices : List LogicalDevice} {out out' : DeviceModel}
    (hagree : ∀ device ∈ devices, ∀ ln ∈ device.logicalNodes, ∀ node ∈ ln.dataObjects,
      ObjectAgrees mangle (joinName (joinName (joinName modelPrefix device.inst)
        ln.getName) node.name) node)
    (h : printLogicalDeviceDefinitions ctx blocks modelPrefix devices out = .ok out') :
    ∃ added, out'.definitions = out.definitions ++ added ∧
      added.cOut.map NodeDefinition.record =
        preorder (link modelPrefix none (namedDevices mangle ctx.rt modelPrefix devices)) := by
  induction devices generalizing out with
  | nil =>
      obtain rfl := Except.ok.inj h
      exact ⟨{}, (Definitions.append_empty _).symm, by simp [namedDevices]⟩
  | cons device rest ih =>
      obtain ⟨between, hdevice, hrest⟩ := printLogicalDeviceDefinitions_cons_ok h
      obtain ⟨firstChild, hfirst, hnodes⟩ := printLogicalDeviceDefinition_ok hdevice
      obtain ⟨nodes, hbetween, hnodes⟩ :=
        printLogicalNodeDefinitions_records hmangle (hagree device (by simp)) hnodes
      have hagreeRest := fun other hother => hagree other (List.mem_cons_of_mem device hother)
      obtain ⟨others, hothers, hrecords⟩ := ih hagreeRest hrest
      refine ⟨Definitions.ofNode (logicalDeviceNode modelPrefix rest.head? firstChild
        device) ++ nodes ++ others, ?_, ?_⟩
      · rw [hothers, hbetween, Definitions.append_assoc, Definitions.append_assoc,
          Definitions.append_assoc]
      · have hchild : headKey none (namedNodes mangle ctx.rt
              (joinName modelPrefix device.inst) device.logicalNodes) =
            some (joinName (joinName modelPrefix device.inst) firstChild.getName) := by
          rw [headKey_namedNodes, first_eq_ok.mp hfirst]
          rfl
        have hsplit : namedDevices mangle ctx.rt modelPrefix (device :: rest) =
            .node (joinName modelPrefix device.inst, logicalDeviceLabel device)
              (namedNodes mangle ctx.rt (joinName modelPrefix device.inst)
                device.logicalNodes) :: namedDevices mangle ctx.rt modelPrefix rest := rfl
        rw [hsplit, link_cons, preorder_cons, ← hnodes, ← hrecords,
          headKey_namedDevices, hchild]
        simp [NodeDefinition.record, logicalDeviceNode]

end Objects

end Iec61850.Scl
