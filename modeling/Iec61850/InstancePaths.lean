import Iec61850.InstanceValues

/-!
# Which instance values reach the model

The values which the `DOI`, `SDI` and `DAI` elements of a logical node give to
attributes, in document order, against the attributes which the parsed node
has at the same paths.
-/

namespace Iec61850.Scl

open Go

variable {rt : Runtime} {templates : DataTypeTemplates}

/-! ## The values of the document -/

/-- The text of a `Val`, and the names from the `DOI` down to the `DAI`. -/
structure Assignment where
  path : List Str
  text : Str
  deriving DecidableEq, Repr

def Assignment.below (name : Str) (a : Assignment) : Assignment :=
  { a with path := name :: a.path }

def directAssignment (dai : DOINode) : Option Assignment :=
  dai.val.map fun text => ⟨[dai.name], text⟩

/-! The decoded element keeps its `DAI` and `SDI` children in two lists.  Two
`DAI` elements with the same path are in the same list at every level, so the
order of those is the one of the document. -/

mutual

def DOINode.assignments : DOINode → List Assignment
  | ⟨name, _, _, sdiNodes, daiNodes⟩ =>
      (daiNodes.filterMap directAssignment ++ sdiAssignments sdiNodes).map
        (Assignment.below name)

def sdiAssignments : List DOINode → List Assignment
  | [] => []
  | sdi :: rest => sdi.assignments ++ sdiAssignments rest

end

theorem assignments_eq (node : DOINode) :
    node.assignments =
      (node.daiNodes.filterMap directAssignment ++ sdiAssignments node.sdiNodes).map
        (Assignment.below node.name) := by
  cases node
  rw [DOINode.assignments]

/-- The values of all `DOI` elements of a logical node. -/
def LogicalNode.assignments (ln : LogicalNode) : List Assignment :=
  ln.doiNodes.flatMap DOINode.assignments

/-! ## The attributes of the model -/

/-- The node reached from the logical node by `GetChildByName`, name by name. -/
def LogicalNode.nodeAt (ln : LogicalNode) : List Str → Option DataModelNode
  | [] => none
  | name :: names => do
      let dataObject ← ln.getChildByName name
      names.foldlM DataModelNode.getChildByName (.dataObject dataObject)

/-- Every attribute the document addresses exists in the parsed node and holds
the value of the last text for it. -/
def InstanceValuesReach (rt : Runtime) (source parsed : LogicalNode) : Prop :=
  ∀ before a after, source.assignments = before ++ a :: after →
    (∀ later ∈ after, later.path ≠ a.path) →
    ∃ da v, parsed.nodeAt a.path = some (.dataAttribute da) ∧
      newDataModelValue rt da.attributeType da.sclType a.text = .ok v ∧ da.value = some v

/-- No `DAI` with a `Val` stands below an `SDI`. -/
def NoNestedValues (source : LogicalNode) : Prop :=
  ∀ doi ∈ source.doiNodes, sdiAssignments doi.sdiNodes = []

/-! ## Nested attributes are never assigned -/

inductive DataAttribute.Unset : DataAttribute → Prop
  | intro {da : DataAttribute} (hvalue : da.value = none)
      (hsubs : ∀ sub ∈ da.subDataAttributes, sub.Unset) : da.Unset

theorem DataAttribute.Unset.value {da : DataAttribute} (h : da.Unset) : da.value = none := by
  cases h with
  | intro hvalue _ => exact hvalue

theorem DataAttribute.Unset.subs {da : DataAttribute} (h : da.Unset) :
    ∀ sub ∈ da.subDataAttributes, sub.Unset := by
  cases h with
  | intro _ hsubs => exact hsubs

theorem DataAttribute.Everywhere.unset {da : DataAttribute}
    (h : da.Everywhere fun sub => sub.value = none) : da.Unset := by
  induction h with
  | intro hself _ ih => exact .intro hself ih

theorem unset_newDataAttribute {n : ℕ} {d : DataAttributeDefinition} {fc : Str}
    {parent : ParentNode} {da : DataAttribute}
    (h : newDataAttribute templates n d fc parent = .ok da) : da.Unset :=
  (newDataAttribute_everywhere (Q := fun _ _ _ => True) (fun _ _ _ _ _ _ => rfl)
    (fun _ _ _ _ _ => trivial) trivial h).unset

/-- Below the attributes of the data object itself nothing has a value. -/
structure DataObject.UnsetBelow (node : DataObject) : Prop where
  attributes : ∀ da ∈ node.dataAttributes, ∀ sub ∈ da.subDataAttributes, sub.Unset
  objects : ∀ sub ∈ node.subDataObjects, sub.AllAttributes DataAttribute.Unset

theorem DataObject.AllAttributes.unsetBelow {node : DataObject}
    (h : node.AllAttributes DataAttribute.Unset) : node.UnsetBelow where
  attributes := fun da hda => (h.attributes da hda).subs
  objects := h.objects

theorem unsetBelow_parseDataAttributeNode {node assigned : DataObject} {daiNode : DOINode}
    (h : parseDataAttributeNode rt node daiNode = .ok assigned) (hnode : node.UnsetBelow) :
    assigned.UnsetBelow := by
  obtain ⟨da, da', hfind, hda', rfl⟩ := parseDataAttributeNode_eq_ok h
  obtain ⟨-, -, hsubs, -⟩ := setInstanceValue_eq_ok hda'
  refine ⟨fun other hother => ?_, hnode.objects⟩
  rcases mem_of_mem_assignFirst hother with rfl | hother
  · rw [hsubs]
    exact hnode.attributes da (List.mem_of_find?_eq_some hfind)
  · exact hnode.attributes other hother

theorem unsetBelow_parseDOINode {objects assigned : List DataObject} {doiNode : DOINode}
    (h : parseDOINode rt objects doiNode = .ok assigned)
    (hobjects : ∀ node ∈ objects, node.UnsetBelow) : ∀ node ∈ assigned, node.UnsetBelow := by
  obtain ⟨node, node', hfind, hnode', rfl⟩ := parseDOINode_eq_ok h
  have hnode : node'.UnsetBelow :=
    foldlM_invariant (P := DataObject.UnsetBelow) hnode'
      (hobjects node (List.mem_of_find?_eq_some hfind))
      fun _ _ _ _ hbefore hstep => unsetBelow_parseDataAttributeNode hstep hbefore
  intro other hother
  rcases mem_of_mem_assignFirst hother with rfl | hother
  · exact hnode
  · exact hobjects other hother

/-- A node below which nothing has a value, itself included. -/
def DataModelNode.Unset : DataModelNode → Prop
  | .dataObject node => node.AllAttributes DataAttribute.Unset
  | .dataAttribute da => da.Unset

theorem getChildByName_dataObject {node : DataObject} {name : Str} {child : DataModelNode}
    (h : (DataModelNode.dataObject node).getChildByName name = some child) :
    (∃ da ∈ node.dataAttributes, child = .dataAttribute da) ∨
      ∃ sub ∈ node.subDataObjects, child = .dataObject sub := by
  simp only [DataModelNode.getChildByName] at h
  split at h
  next da hfind =>
    exact Or.inl ⟨da, List.mem_of_find?_eq_some hfind, (Option.some.inj h).symm⟩
  next =>
    obtain ⟨sub, hfind, hchild⟩ := Option.map_eq_some_iff.mp h
    exact Or.inr ⟨sub, List.mem_of_find?_eq_some hfind, hchild.symm⟩

theorem getChildByName_dataAttribute {da : DataAttribute} {name : Str} {child : DataModelNode}
    (h : (DataModelNode.dataAttribute da).getChildByName name = some child) :
    ∃ sub ∈ da.subDataAttributes, child = .dataAttribute sub := by
  obtain ⟨sub, hfind, hchild⟩ := Option.map_eq_some_iff.mp h
  exact ⟨sub, List.mem_of_find?_eq_some hfind, hchild.symm⟩

theorem DataModelNode.Unset.child {node child : DataModelNode} (h : node.Unset) {name : Str}
    (hchild : node.getChildByName name = some child) : child.Unset := by
  cases node with
  | dataObject node =>
      rcases getChildByName_dataObject hchild with ⟨da, hda, rfl⟩ | ⟨sub, hsub, rfl⟩
      · exact DataObject.AllAttributes.attributes h da hda
      · exact DataObject.AllAttributes.objects h sub hsub
  | dataAttribute da =>
      obtain ⟨sub, hsub, rfl⟩ := getChildByName_dataAttribute hchild
      exact DataAttribute.Unset.subs h sub hsub

theorem DataModelNode.Unset.descendant {names : List Str} {node last : DataModelNode}
    (h : node.Unset) (hlast : names.foldlM DataModelNode.getChildByName node = some last) :
    last.Unset := by
  induction names generalizing node with
  | nil =>
      obtain rfl := Option.some.inj hlast
      exact h
  | cons name names ih =>
      obtain ⟨child, hchild, hrest⟩ := Option.bind_eq_some_iff.mp hlast
      exact ih (h.child hchild) hrest

theorem DataObject.UnsetBelow.grandchild {node : DataObject} (h : node.UnsetBelow)
    {name name' : Str} {child grandchild : DataModelNode}
    (hchild : (DataModelNode.dataObject node).getChildByName name = some child)
    (hgrandchild : child.getChildByName name' = some grandchild) : grandchild.Unset := by
  rcases getChildByName_dataObject hchild with ⟨da, hda, rfl⟩ | ⟨sub, hsub, rfl⟩
  · obtain ⟨below, hbelow, rfl⟩ := getChildByName_dataAttribute hgrandchild
    exact h.attributes da hda below hbelow
  · have hsubUnset : (DataModelNode.dataObject sub).Unset := h.objects sub hsub
    exact hsubUnset.child hgrandchild

/-- A path that leads through an `SDI` ends at an attribute without a value. -/
theorem value_eq_none_of_nodeAt {parsed : LogicalNode}
    (hparsed : ∀ node ∈ parsed.dataObjects, node.UnsetBelow) {name first second : Str}
    {names : List Str} {da : DataAttribute}
    (h : parsed.nodeAt (name :: first :: second :: names) = some (.dataAttribute da)) :
    da.value = none := by
  obtain ⟨node, hnode, h⟩ := Option.bind_eq_some_iff.mp h
  obtain ⟨child, hchild, h⟩ := Option.bind_eq_some_iff.mp h
  obtain ⟨grandchild, hgrandchild, h⟩ := Option.bind_eq_some_iff.mp h
  have hbelow := hparsed node (List.mem_of_find?_eq_some hnode)
  have hunset : (DataModelNode.dataAttribute da).Unset :=
    (hbelow.grandchild hchild hgrandchild).descendant h
  exact DataAttribute.Unset.value hunset

/-! ## One assignment after the other -/

/-- One `DAI` of the `DOI` with this name, on all data objects of the node. -/
def assignInstance (rt : Runtime) (objects : List DataObject) (doiDai : Str × DOINode) :
    Outcome (List DataObject) :=
  match objects.find? fun node => node.name = doiDai.1 with
  | none =>
      .error (.error (lit "missing data object with name \"" ++ doiDai.1 ++ lit "\""))
  | some node => do
      let assigned ← parseDataAttributeNode rt node doiDai.2
      pure (assignFirst (fun node => node.name = doiDai.1) assigned objects)

def DOINode.instances (doi : DOINode) : List (Str × DOINode) :=
  doi.daiNodes.map fun dai => (doi.name, dai)

theorem assignFirst_self {α : Type} {p : α → Bool} {a : α} {as : List α}
    (hfind : as.find? p = some a) : assignFirst p a as = as := by
  have hmap := map_assignFirst (f := id) hfind rfl
  simpa using hmap

theorem foldlM_assignInstance {name : Str} {dais : List DOINode} {objects : List DataObject}
    {node node' : DataObject} (hfind : objects.find? (fun node => node.name = name) = some node)
    (h : dais.foldlM (parseDataAttributeNode rt) node = .ok node') :
    (dais.map fun dai => (name, dai)).foldlM (assignInstance rt) objects =
      .ok (assignFirst (fun node => node.name = name) node' objects) := by
  induction dais generalizing objects node with
  | nil =>
      obtain rfl := Except.ok.inj h
      rw [assignFirst_self hfind]
      rfl
  | cons dai rest ih =>
      rw [List.foldlM_cons] at h
      obtain ⟨between, hbetween, hrest⟩ := bind_eq_ok.mp h
      have hname : between.name = name := by
        have hsame : between.name = node.name :=
          congrArg ObjectShape.name (shape_parseDataAttributeNode hbetween)
        rw [hsame]
        simpa using List.find?_some hfind
      have hstep : assignInstance rt objects (name, dai) =
          .ok (assignFirst (fun node => node.name = name) between objects) := by
        simp only [assignInstance, hfind]
        exact bind_eq_ok.mpr ⟨between, hbetween, rfl⟩
      have hkept : (assignFirst (fun node => node.name = name) between objects).find?
          (fun node => node.name = name) = some between :=
        find?_assignFirst hfind (by simpa using hname)
      have htail := ih hkept hrest
      rw [assignFirst_assignFirst (by simpa using hname)] at htail
      rw [List.map_cons, List.foldlM_cons, hstep, ok_bind, htail]

theorem foldlM_instances {doiNodes : List DOINode} {objects objects' : List DataObject}
    (h : doiNodes.foldlM (parseDOINode rt) objects = .ok objects') :
    (doiNodes.flatMap DOINode.instances).foldlM (assignInstance rt) objects = .ok objects' := by
  induction doiNodes generalizing objects with
  | nil => exact h
  | cons doi rest ih =>
      rw [List.foldlM_cons] at h
      obtain ⟨between, hbetween, hrest⟩ := bind_eq_ok.mp h
      obtain ⟨node, node', hfind, hnode', rfl⟩ := parseDOINode_eq_ok hbetween
      rw [List.flatMap_cons, List.foldlM_append, DOINode.instances,
        foldlM_assignInstance hfind hnode', ok_bind]
      exact ih hrest

/-- The attribute at a path of two names. -/
def attributeAt (objects : List DataObject) (name daName : Str) : Option DataAttribute :=
  (objects.find? fun node => node.name = name).bind fun node =>
    node.dataAttributes.find? fun da => da.name = daName

theorem attributeAt_assignInstance {objects objects' : List DataObject} {name : Str}
    {dai : DOINode} (h : assignInstance rt objects (name, dai) = .ok objects') :
    ∃ da da', attributeAt objects name dai.name = some da ∧
      setInstanceValue rt dai da = .ok da' ∧
      attributeAt objects' name dai.name = some da' := by
  unfold assignInstance at h
  split at h
  next => cases h
  next node hfind =>
    obtain ⟨node', hnode', h⟩ := bind_eq_ok.mp h
    obtain rfl := Except.ok.inj h
    obtain ⟨da, da', hda, hda', rfl⟩ := parseDataAttributeNode_eq_ok hnode'
    have hname : node.name = name := by simpa using List.find?_some hfind
    have hdaName : da'.name = dai.name := by
      have hshape : da'.name = da.name :=
        congrArg AttributeShape.name (setInstanceValue_eq_ok hda').1
      rw [hshape]
      simpa using List.find?_some hda
    refine ⟨da, da', ?_, hda', ?_⟩
    · rw [attributeAt, hfind, Option.bind_some, hda]
    · rw [attributeAt, find?_assignFirst hfind (by simpa using hname), Option.bind_some,
        find?_assignFirst hda (by simpa using hdaName)]

theorem attributeAt_assignInstance_of_ne {objects objects' : List DataObject} {name : Str}
    {dai : DOINode} (h : assignInstance rt objects (name, dai) = .ok objects')
    {name' daName' : Str} (hne : ¬ (name' = name ∧ daName' = dai.name)) :
    attributeAt objects' name' daName' = attributeAt objects name' daName' := by
  unfold assignInstance at h
  split at h
  next => cases h
  next node hfind =>
    obtain ⟨node', hnode', h⟩ := bind_eq_ok.mp h
    obtain rfl := Except.ok.inj h
    have hnodeName : node.name = name := by simpa using List.find?_some hfind
    have hname : node'.name = name := by
      rw [← hnodeName]
      exact congrArg ObjectShape.name (shape_parseDataAttributeNode hnode')
    obtain ⟨da, da', hda, hda', rfl⟩ := parseDataAttributeNode_eq_ok hnode'
    have hdaName : da'.name = dai.name := by
      have hshape : da'.name = da.name :=
        congrArg AttributeShape.name (setInstanceValue_eq_ok hda').1
      rw [hshape]
      simpa using List.find?_some hda
    by_cases hsame : name' = name
    · subst hsame
      have hother : daName' ≠ dai.name := fun heq => hne ⟨rfl, heq⟩
      rw [attributeAt, find?_assignFirst hfind (by simpa using hname), attributeAt, hfind,
        Option.bind_some, Option.bind_some]
      refine find?_assignFirst_of_ne ?_ ?_
      · intro other hotherName
        have hotherName : other.name = dai.name := by simpa using hotherName
        simpa [hotherName] using hother.symm
      · simpa [hdaName] using hother.symm
    · rw [attributeAt, attributeAt, find?_assignFirst_of_ne]
      · intro other hotherName
        have hotherName : other.name = name := by simpa using hotherName
        simpa [hotherName] using Ne.symm hsame
      · have hassigned : node.name ≠ name' := by
          rw [hnodeName]
          exact Ne.symm hsame
        simpa using hassigned

/-! ## The last text for an attribute stays -/

def instanceAssignment (doiDai : Str × DOINode) : Option Assignment :=
  (directAssignment doiDai.2).map (Assignment.below doiDai.1)

theorem instanceAssignment_eq_some {doiDai : Str × DOINode} {a : Assignment}
    (h : instanceAssignment doiDai = some a) :
    doiDai.2.val = some a.text ∧ a.path = [doiDai.1, doiDai.2.name] := by
  obtain ⟨direct, hdirect, rfl⟩ := Option.map_eq_some_iff.mp h
  obtain ⟨text, htext, rfl⟩ := Option.map_eq_some_iff.mp hdirect
  exact ⟨htext, rfl⟩

theorem attributeAt_foldlM {name daName : Str} {da : DataAttribute}
    {instances : List (Str × DOINode)} {objects objects' : List DataObject}
    (h : instances.foldlM (assignInstance rt) objects = .ok objects')
    (hda : attributeAt objects name daName = some da)
    (hlater : ∀ doiDai ∈ instances, ∀ a, instanceAssignment doiDai = some a →
      a.path ≠ [name, daName]) : attributeAt objects' name daName = some da := by
  refine foldlM_invariant (P := fun objects => attributeAt objects name daName = some da)
    h hda ?_
  rintro before after ⟨name', dai⟩ hmem hbefore hstep
  by_cases hsame : name = name' ∧ daName = dai.name
  · obtain ⟨rfl, rfl⟩ := hsame
    obtain ⟨found, assigned, hfound, hassigned, hafter⟩ := attributeAt_assignInstance hstep
    rw [hbefore] at hfound
    obtain rfl := Option.some.inj hfound
    have hval : dai.val = none := by
      cases hval : dai.val with
      | none => rfl
      | some text =>
          refine absurd rfl (hlater (name, dai) hmem ⟨[name, dai.name], text⟩ ?_)
          simp [instanceAssignment, directAssignment, hval, Assignment.below]
    have hkept := (setInstanceValue_eq_ok hassigned).2.2.2
    rw [hval] at hkept
    rw [hafter, hkept]
  · rw [attributeAt_assignInstance_of_ne hstep hsame, hbefore]

/-- The attribute of the last text holds the value parsed from it. -/
theorem attributeAt_last {instances : List (Str × DOINode)}
    {objects objects' : List DataObject}
    (h : instances.foldlM (assignInstance rt) objects = .ok objects')
    {before after : List Assignment} {a : Assignment}
    (hsplit : instances.filterMap instanceAssignment = before ++ a :: after)
    (hlast : ∀ later ∈ after, later.path ≠ a.path) :
    ∃ name daName da v, a.path = [name, daName] ∧
      attributeAt objects' name daName = some da ∧
      newDataModelValue rt da.attributeType da.sclType a.text = .ok v ∧
      da.value = some v := by
  obtain ⟨earlier, rest, rfl, -, hrest⟩ := List.filterMap_eq_append_iff.mp hsplit
  obtain ⟨skipped, doiDai, later, rfl, -, hdoiDai, hlater⟩ :=
    List.filterMap_eq_cons_iff.mp hrest
  obtain ⟨name, dai⟩ := doiDai
  obtain ⟨hval, hpath⟩ := instanceAssignment_eq_some hdoiDai
  rw [← List.append_assoc, List.foldlM_append] at h
  obtain ⟨between, hbetween, h⟩ := bind_eq_ok.mp h
  rw [List.foldlM_cons] at h
  obtain ⟨assigned, hassigned, h⟩ := bind_eq_ok.mp h
  obtain ⟨da, da', hda, hda', hafter⟩ := attributeAt_assignInstance hassigned
  obtain ⟨hshape, -, -, hvalue⟩ := setInstanceValue_eq_ok hda'
  rw [hval] at hvalue
  obtain ⟨v, hv, hda'Value⟩ := hvalue
  have htype : da'.attributeType = da.attributeType :=
    congrArg AttributeShape.attributeType hshape
  have hsclType : da'.sclType = da.sclType := congrArg AttributeShape.sclType hshape
  refine ⟨name, dai.name, da', v, hpath, ?_, by rw [htype, hsclType, hv], hda'Value⟩
  refine attributeAt_foldlM h hafter fun other hother b hb => ?_
  rw [← hpath]
  apply hlast
  rw [← hlater]
  exact List.mem_filterMap.mpr ⟨other, hother, hb⟩

/-! ## Logical nodes -/

theorem assignments_of_noNestedValues {ln : LogicalNode} (h : NoNestedValues ln) :
    ln.assignments = (ln.doiNodes.flatMap DOINode.instances).filterMap instanceAssignment := by
  have hdoi : ∀ doi ∈ ln.doiNodes,
      doi.assignments = doi.instances.filterMap instanceAssignment := by
    intro doi hmem
    rw [assignments_eq, h doi hmem, List.append_nil, DOINode.instances, List.filterMap_map,
      List.map_filterMap]
    rfl
  rw [LogicalNode.assignments, List.filterMap_flatMap]
  exact List.flatMap_congr hdoi

theorem exists_cons_of_mem_sdiAssignments {sdis : List DOINode} {a : Assignment}
    (h : a ∈ sdiAssignments sdis) : ∃ sdi ∈ sdis, a ∈ sdi.assignments := by
  induction sdis with
  | nil => simp [sdiAssignments] at h
  | cons sdi rest ih =>
      rw [sdiAssignments] at h
      rcases List.mem_append.mp h with h | h
      · exact ⟨sdi, by simp, h⟩
      · obtain ⟨other, hother, ha⟩ := ih h
        exact ⟨other, List.mem_cons_of_mem sdi hother, ha⟩

theorem path_eq_cons_of_mem {node : DOINode} {a : Assignment} (h : a ∈ node.assignments) :
    ∃ names, a.path = node.name :: names := by
  rw [assignments_eq] at h
  obtain ⟨b, -, rfl⟩ := List.mem_map.mp h
  exact ⟨b.path, rfl⟩

/-- A value below an `SDI` has a path of at least two names. -/
theorem path_of_mem_sdiAssignments {sdis : List DOINode} {a : Assignment}
    (h : a ∈ sdiAssignments sdis) : ∃ first second names, a.path = first :: second :: names := by
  obtain ⟨sdi, -, ha⟩ := exists_cons_of_mem_sdiAssignments h
  rw [assignments_eq] at ha
  obtain ⟨b, hb, rfl⟩ := List.mem_map.mp ha
  rcases List.mem_append.mp hb with hb | hb
  · obtain ⟨dai, -, hdai⟩ := List.mem_filterMap.mp hb
    obtain ⟨text, -, rfl⟩ := Option.map_eq_some_iff.mp hdai
    exact ⟨sdi.name, dai.name, [], rfl⟩
  · obtain ⟨below, -, hbelow⟩ := exists_cons_of_mem_sdiAssignments hb
    obtain ⟨names, hnames⟩ := path_eq_cons_of_mem hbelow
    exact ⟨sdi.name, below.name, names, by rw [Assignment.below, hnames]⟩

theorem exists_last_with_path {assignments : List Assignment} {a : Assignment}
    (h : a ∈ assignments) :
    ∃ before last after, assignments = before ++ last :: after ∧ last.path = a.path ∧
      ∀ later ∈ after, later.path ≠ last.path := by
  induction assignments generalizing a with
  | nil => simp at h
  | cons b rest ih =>
      by_cases hlater : ∃ c ∈ rest, c.path = a.path
      · obtain ⟨c, hc, hpath⟩ := hlater
        obtain ⟨before, last, after, rfl, hlastPath, hlast⟩ := ih hc
        exact ⟨b :: before, last, after, rfl, hlastPath.trans hpath, hlast⟩
      · have hb : b = a := by
          rcases List.mem_cons.mp h with rfl | ha
          · rfl
          · exact absurd ⟨a, ha, rfl⟩ hlater
        subst hb
        exact ⟨[], b, rest, rfl, rfl, fun later hmem hpath => hlater ⟨later, hmem, hpath⟩⟩

/-- What the parse of a logical node starts from and ends with. -/
theorem parseLogicalNode_objects {n : ℕ} {ln parsed : LogicalNode}
    (h : parseLogicalNode rt templates n ln = .ok parsed) :
    ∃ created, (∀ node ∈ created, node.AllAttributes DataAttribute.Unset) ∧
      ln.doiNodes.foldlM (parseDOINode rt) created = .ok parsed.dataObjects := by
  obtain ⟨t, created, checked, objects, -, hcreated, -, hobjects, rfl⟩ :=
    parseLogicalNode_eq_ok h
  refine ⟨created, fun node hnode => ?_, hobjects⟩
  obtain ⟨d, -, hd⟩ := exists_of_mem_mapM_ok hcreated hnode
  exact allAttributes_newDataObject
    (fun _ _ _ _ _ _ _ hda => unset_newDataAttribute hda) hd

theorem nodeAt_of_attributeAt {parsed : LogicalNode} {name daName : Str} {da : DataAttribute}
    (h : attributeAt parsed.dataObjects name daName = some da) :
    parsed.nodeAt [name, daName] = some (.dataAttribute da) := by
  obtain ⟨node, hnode, hda⟩ := Option.bind_eq_some_iff.mp h
  have hchild : (DataModelNode.dataObject node).getChildByName daName =
      some (.dataAttribute da) := by
    simp [DataModelNode.getChildByName, hda]
  simp [LogicalNode.nodeAt, LogicalNode.getChildByName, hnode, hchild]

theorem instanceValuesReach_iff {n : ℕ} {ln parsed : LogicalNode}
    (h : parseLogicalNode rt templates n ln = .ok parsed) :
    InstanceValuesReach rt ln parsed ↔ NoNestedValues ln := by
  obtain ⟨created, hunset, hobjects⟩ := parseLogicalNode_objects h
  constructor
  · intro hreach doi hdoi
    by_contra hnested
    obtain ⟨b, hb⟩ := List.exists_mem_of_ne_nil _ hnested
    obtain ⟨first, second, names, hpath⟩ := path_of_mem_sdiAssignments hb
    have ha : b.below doi.name ∈ ln.assignments := by
      refine List.mem_flatMap.mpr ⟨doi, hdoi, ?_⟩
      rw [assignments_eq]
      exact List.mem_map_of_mem (List.mem_append_right _ hb)
    obtain ⟨before, last, after, hsplit, hlastPath, hlast⟩ := exists_last_with_path ha
    obtain ⟨da, v, hda, -, hvalue⟩ := hreach before last after hsplit hlast
    rw [hlastPath, Assignment.below, hpath] at hda
    have hbelow : ∀ node ∈ parsed.dataObjects, node.UnsetBelow :=
      foldlM_invariant (P := fun objects => ∀ node ∈ objects, node.UnsetBelow) hobjects
        (fun node hnode => (hunset node hnode).unsetBelow)
        fun _ _ _ _ hbefore hstep => unsetBelow_parseDOINode hstep hbefore
    have hnone := value_eq_none_of_nodeAt hbelow hda
    rw [hnone] at hvalue
    cases hvalue
  · intro hnested before a after hsplit hlast
    rw [assignments_of_noNestedValues hnested] at hsplit
    obtain ⟨name, daName, da, v, hpath, hda, hv, hvalue⟩ :=
      attributeAt_last (foldlM_instances hobjects) hsplit hlast
    refine ⟨da, v, ?_, hv, hvalue⟩
    rw [hpath]
    exact nodeAt_of_attributeAt hda

/-! ## Documents -/

def AccessPoint.devices (ap : AccessPoint) : List LogicalDevice :=
  match ap.server with
  | some server => server.logicalDevices
  | none => []

def SCL.devices (scl : SCL) : List LogicalDevice :=
  scl.ieds.flatMap fun ied => ied.accessPoints.flatMap AccessPoint.devices

/-- The nodes of a document, before the parse. -/
def SCL.declaredNodes (scl : SCL) : List LogicalNode :=
  scl.devices.flatMap fun device => device.ln0.toList ++ device.lNodes

/-- The nodes of a model, after the parse. -/
def SCL.modelNodes (scl : SCL) : List LogicalNode :=
  scl.devices.flatMap LogicalDevice.logicalNodes

/-- A node of the document and the node of the model parsed from it. -/
def ParsedFrom (rt : Runtime) (templates : DataTypeTemplates) (fuel : ℕ)
    (source parsed : LogicalNode) : Prop :=
  ∃ resolved, resolveLogicalNode templates source = .ok resolved ∧
    parseLogicalNode rt templates fuel resolved = .ok parsed

theorem parsedFrom_of_device {fuel : ℕ} {source device : LogicalDevice}
    (h : parseLogicalDevice rt templates fuel source = .ok device) :
    List.Forall₂ (ParsedFrom rt templates fuel) (source.ln0.toList ++ source.lNodes)
      device.logicalNodes := by
  obtain ⟨resolved, hresolved, h⟩ := bind_eq_ok.mp h
  obtain ⟨nodes, hnodes, h⟩ := bind_eq_ok.mp h
  obtain rfl := Except.ok.inj h
  exact forall₂_of_mapM_mapM hresolved hnodes

theorem devices_of_accessPoint {fuel : ℕ} {source ap : AccessPoint}
    (h : parseAccessPoint rt templates fuel source = .ok ap) :
    List.Forall₂ (fun source device => parseLogicalDevice rt templates fuel source = .ok device)
      source.devices ap.devices := by
  obtain ⟨server, hserver, h⟩ := bind_eq_ok.mp h
  obtain ⟨devices, hdevices, h⟩ := bind_eq_ok.mp h
  obtain rfl := Except.ok.inj h
  have hsource : source.devices = server.logicalDevices := by
    cases hs : source.server with
    | none => simp [hs, deref] at hserver
    | some s =>
        rw [hs] at hserver
        obtain rfl := Except.ok.inj hserver
        simp [AccessPoint.devices, hs]
  rw [hsource]
  exact mapM_eq_ok.mp hdevices

/-- The nodes of the document and of the model correspond one for one. -/
theorem ParsedModel.parsedNodes (P : ParsedModel rt) :
    ∃ templates, List.Forall₂ (ParsedFrom rt templates P.fuel) P.document.declaredNodes
      P.model.modelNodes := by
  obtain ⟨_, templates, ieds, _, -, -, -, hieds, -, hmodel⟩ := P.stages
  refine ⟨templates, ?_⟩
  rw [hmodel]
  have hdevices : List.Forall₂
      (fun source device => parseLogicalDevice rt templates P.fuel source = .ok device)
      (P.document.ieds.flatMap fun ied => ied.accessPoints.flatMap AccessPoint.devices)
      (ieds.flatMap fun ied => ied.accessPoints.flatMap AccessPoint.devices) := by
    refine List.rel_flatMap (mapM_eq_ok.mp hieds) fun source ied hied => ?_
    obtain ⟨accessPoints, haps, hied⟩ := bind_eq_ok.mp hied
    obtain rfl := Except.ok.inj hied
    exact List.rel_flatMap (mapM_eq_ok.mp haps) fun source ap hap => devices_of_accessPoint hap
  exact List.rel_flatMap hdevices fun source device hdevice => parsedFrom_of_device hdevice

/-- For every logical node of an accepted document: the instance values of the
file reach the model, and every name that leads to one exists there, if and
only if none of them stands below an `SDI` element. -/
theorem instance_values_reach_iff (P : ParsedModel rt) :
    List.Forall₂
      (fun source parsed => InstanceValuesReach rt source parsed ↔ NoNestedValues source)
      P.document.declaredNodes P.model.modelNodes := by
  obtain ⟨templates, hnodes⟩ := P.parsedNodes
  refine hnodes.imp fun source parsed hparsed => ?_
  obtain ⟨resolved, hresolved, hparsed⟩ := hparsed
  have hdoi : resolved.doiNodes = source.doiNodes := by
    obtain ⟨t, -, rfl⟩ := resolveLogicalNode_eq_ok hresolved
    rfl
  have hiff := instanceValuesReach_iff hparsed
  simp only [InstanceValuesReach, NoNestedValues, LogicalNode.assignments, hdoi] at hiff ⊢
  exact hiff

/-- A node with a structured attribute and a value for its member. -/
def scaledTemplates : DataTypeTemplates where
  logicalNodeTypes := [{
    id := lit "GGIOT"
    dataObjectDefinitions := [{ name := lit "AnIn1", type := lit "MV" }] }]
  dataObjectTypes := [{
    id := lit "MV"
    dataAttributes := [
      { name := lit "mag", fc := lit "MX", bType := lit "Struct", type := lit "Vec" }] }]
  dataAttributeTypes := [{
    id := lit "Vec"
    subDataAttributes := [{ name := lit "i", bType := lit "INT32" }] }]

def scaledDevice : LogicalDevice where
  inst := lit "LD1"
  ln0 := some {
    lnClass := lit "GGIO"
    lnType := lit "GGIOT"
    inst := lit "1"
    doiNodes := [{
      name := lit "AnIn1"
      sdiNodes := [{
        name := lit "mag"
        daiNodes := [{ name := lit "i", val := some (lit "5") }] }] }] }

def scaledModel : ParsedModel plainRuntime :=
  ParsedModel.ofDocument plainRuntime 4 (documentOf scaledTemplates [scaledDevice])
    (by decide +kernel)

/-- The document is accepted, and `AnIn1.mag.i` has no value in the model. -/
theorem scaledModel_loses_value :
    ¬ List.Forall₂ (InstanceValuesReach plainRuntime) scaledModel.document.declaredNodes
      scaledModel.model.modelNodes := by
  intro hall
  have hone : scaledModel.model.modelNodes.length = 1 := by decide +kernel
  obtain ⟨parsed, hparsed⟩ := List.length_eq_one_iff.mp hone
  have hvalue : scaledModel.model.modelNodes.all (fun ln =>
      match ln.nodeAt [lit "AnIn1", lit "mag", lit "i"] with
      | some (.dataAttribute da) => da.value = none
      | some (.dataObject _) => true
      | none => true) = true := by decide +kernel
  rw [hparsed] at hall hvalue
  obtain ⟨hreach, -⟩ := List.forall₂_cons.mp hall
  obtain ⟨da, v, hda, -, hsome⟩ := hreach []
    ⟨[lit "AnIn1", lit "mag", lit "i"], lit "5"⟩ [] rfl (by simp)
  have hnone : da.value = none := by simpa [hda] using hvalue
  rw [hnone] at hsome
  cases hsome

end Iec61850.Scl
