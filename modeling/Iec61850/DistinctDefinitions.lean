import Iec61850.DataSetChains
import Iec61850.DistinctVariables

/-!
# Distinct definitions

The variables of a generated file are those of devices, nodes, data objects, attributes
and elements of arrays, of data sets and their entries, of control blocks and their
addresses, of logs, and of the model.  If the names of the model hold no separator and are
distinct below each parent, no variable is defined twice.
-/

namespace Iec61850.Scl

open Go Linked Delimited

/-- The variables that are defined; declarations do not count. -/
def CItem.defines : CItem → List Str
  | .externDeclaration _ => []
  | item => item.declares

/-- The variables that the `.c` file defines, in the order of the file. -/
def GeneratedFiles.definedVariables (files : GeneratedFiles) : List Str :=
  files.c.flatMap CItem.defines

/-! ## Distinct names of a model -/

/-- A node whose data objects and data sets have distinct names, and whose data objects
are not named as its control blocks are. -/
structure LogicalNode.Distinct (ln : LogicalNode) : Prop where
  name : '_' ∉ ln.getName
  dataObjects : DistinctObjects ln.dataObjects
  blocks : ∀ node ∈ ln.dataObjects, joinName [] node.name ∉ (createLNVariableNames [] ln).all
  dataSets : ∀ dataSet ∈ ln.dataSets, '_' ∉ dataSet.name
  dataSetNames : (ln.dataSets.map DataSet.name).Nodup

/-- Devices and nodes with distinct names; no device is named as the setpoints are
marked. -/
structure DistinctDevices (devices : List LogicalDevice) : Prop where
  inst : ∀ device ∈ devices, '_' ∉ device.inst ∧ device.inst ≠ SE
  insts : (devices.map LogicalDevice.inst).Nodup
  nodes : ∀ device ∈ devices, ∀ ln ∈ device.logicalNodes, ln.Distinct
  nodeNames : ∀ device ∈ devices, (device.logicalNodes.map LogicalNode.getName).Nodup

instance (ln : LogicalNode) : Decidable ln.Distinct :=
  decidable_of_iff
    ('_' ∉ ln.getName ∧ DistinctObjects ln.dataObjects ∧
      (∀ node ∈ ln.dataObjects, joinName [] node.name ∉ (createLNVariableNames [] ln).all) ∧
      (∀ dataSet ∈ ln.dataSets, '_' ∉ dataSet.name) ∧ (ln.dataSets.map DataSet.name).Nodup)
    ⟨fun ⟨hname, hobjects, hblocks, hsets, hsetNames⟩ =>
      ⟨hname, hobjects, hblocks, hsets, hsetNames⟩,
    fun h => ⟨h.name, h.dataObjects, h.blocks, h.dataSets, h.dataSetNames⟩⟩

instance (devices : List LogicalDevice) : Decidable (DistinctDevices devices) :=
  decidable_of_iff
    ((∀ device ∈ devices, '_' ∉ device.inst ∧ device.inst ≠ SE) ∧
      (devices.map LogicalDevice.inst).Nodup ∧
      (∀ device ∈ devices, ∀ ln ∈ device.logicalNodes, ln.Distinct) ∧
      ∀ device ∈ devices, (device.logicalNodes.map LogicalNode.getName).Nodup)
    ⟨fun ⟨hinst, hinsts, hnodes, hnodeNames⟩ => ⟨hinst, hinsts, hnodes, hnodeNames⟩,
    fun h => ⟨h.inst, h.insts, h.nodes, h.nodeNames⟩⟩

/-- The path of a logical node. -/
def PlacedNode.path (p : PlacedNode) : List Str := [p.device.inst, p.node.getName]

section Devices

variable {modelPrefix v : Str} {rt : Runtime} {devices : List LogicalDevice}

theorem variableName_eq_pathVariable (modelPrefix : Str) (p : PlacedNode) :
    p.variableName modelPrefix = pathVariable modelPrefix p.path := by
  rw [PlacedNode.variableName, joinName_eq_pathVariable p.device.inst,
    joinName_pathVariable]
  rfl

variable (h : DistinctDevices devices)

include h

theorem DistinctDevices.unseparated_path {p : PlacedNode} (hp : p ∈ placedNodes devices) :
    Unseparated p.path := by
  obtain ⟨hdevice, hnode⟩ := mem_placedNodes.mp hp
  exact List.forall_mem_cons.mpr ⟨(h.inst _ hdevice).1,
    unseparated_singleton.mpr (h.nodes _ hdevice _ hnode).name⟩

theorem DistinctDevices.path_head {p : PlacedNode} (hp : p ∈ placedNodes devices)
    (more : List Str) : (p.path ++ more).head? ≠ some SE := by
  intro hhead
  exact (h.inst _ (mem_placedNodes.mp hp).1).2 (Option.some.inj hhead)

theorem DistinctDevices.placedNode_eq {p q : PlacedNode} (hp : p ∈ placedNodes devices)
    (hq : q ∈ placedNodes devices) (hpath : p.path = q.path) : p = q := by
  obtain ⟨hdevice, hnode⟩ := mem_placedNodes.mp hp
  obtain ⟨hdevice', hnode'⟩ := mem_placedNodes.mp hq
  obtain ⟨hinst, hrest⟩ := List.cons.inj hpath
  have hname := (List.cons.inj hrest).1
  have hsame : p.device = q.device :=
    List.inj_on_of_nodup_map h.insts hdevice hdevice' hinst
  rw [← hsame] at hnode'
  have hnodes : p.node = q.node :=
    List.inj_on_of_nodup_map (h.nodeNames _ hdevice) hnode hnode' hname
  calc
    p = ⟨p.device, p.node⟩ := rfl
    _ = ⟨q.device, q.node⟩ := by rw [hsame, hnodes]
    _ = q := rfl

/-- What stands below components of two nodes stands below one component of one node. -/
theorem DistinctDevices.common_component {p q : PlacedNode} {name name' : Str}
    (hp : p ∈ placedNodes devices) (hq : q ∈ placedNodes devices) (hname : '_' ∉ name)
    (hname' : '_' ∉ name') (hv : BelowEither modelPrefix (p.path ++ [name]) v)
    (hv' : BelowEither modelPrefix (q.path ++ [name']) v) : p = q ∧ name = name' := by
  obtain ⟨tail, tail', hsame⟩ := hv.common hv'
    (unseparated_append.mpr ⟨h.unseparated_path hp, unseparated_singleton.mpr hname⟩)
    (unseparated_append.mpr ⟨h.unseparated_path hq, unseparated_singleton.mpr hname'⟩)
    (by simp) (by simp) (h.path_head hp _) (h.path_head hq _)
  obtain ⟨hinst, hrest⟩ := List.cons.inj hsame
  obtain ⟨hnode, hrest⟩ := List.cons.inj hrest
  have hpath : p.path = q.path := by
    rw [PlacedNode.path, PlacedNode.path, hinst, hnode]
  exact ⟨h.placedNode_eq hp hq hpath, (List.cons.inj hrest).1⟩

end Devices

/-! ## The nodes of the data model -/

section Nodes

variable {modelPrefix v : Str} {rt : Runtime} {devices : List LogicalDevice}

/-- The data objects of all nodes hand constraints down to their attributes. -/
def DevicesHandDown (devices : List LogicalDevice) : Prop :=
  ∀ p ∈ placedNodes devices, ObjectsHandDown p.node.dataObjects

/-- The variables of a logical node: its own and those of its data objects. -/
def nodeVariables (modelPrefix : Str) (rt : Runtime) (p : PlacedNode) : List Str :=
  p.variableName modelPrefix ::
    namesOf (namedObjects (mangleSE modelPrefix) rt false (p.variableName modelPrefix)
      p.node.dataObjects)

theorem namesOf_namedDevices_eq :
    namesOf (namedDevices (mangleSE modelPrefix) rt modelPrefix devices) =
      devices.flatMap fun device => joinName modelPrefix device.inst ::
        (device.logicalNodes.map fun ln => (⟨device, ln⟩ : PlacedNode)).flatMap
          (nodeVariables modelPrefix rt) := by
  rw [namesOf_namedDevices]
  simp only [namesOf_namedNodes, List.flatMap_map]
  rfl

variable (hlength : modelPrefix.length = 8) (hhand : DevicesHandDown devices)
  (h : DistinctDevices devices)

include hlength hhand h

theorem exists_object_of_mem_node {p : PlacedNode} (hp : p ∈ placedNodes devices)
    (hv : v ∈ namesOf (namedObjects (mangleSE modelPrefix) rt false
      (p.variableName modelPrefix) p.node.dataObjects)) :
    ∃ node ∈ p.node.dataObjects, BelowEither modelPrefix (p.path ++ [node.name]) v := by
  obtain ⟨hdevice, hnode⟩ := mem_placedNodes.mp hp
  rw [variableName_eq_pathVariable] at hv
  exact exists_below_of_mem_objects hlength (hhand p hp) (h.nodes _ hdevice _ hnode).dataObjects
    (h.unseparated_path hp) (by simp [PlacedNode.path]) hv

theorem belowEither_nodeVariables {p : PlacedNode} (hp : p ∈ placedNodes devices)
    (hv : v ∈ nodeVariables modelPrefix rt p) : BelowEither modelPrefix p.path v := by
  obtain ⟨hdevice, hnode⟩ := mem_placedNodes.mp hp
  rcases List.mem_cons.mp hv with rfl | hv
  · rw [variableName_eq_pathVariable]
    exact Or.inl (below_self ..)
  · obtain ⟨node, hobject, hbelow⟩ := exists_object_of_mem_node hlength hhand h hp hv
    apply hbelow.of_append
    exact unseparated_singleton.mpr
      ((h.nodes _ hdevice _ hnode).dataObjects.unseparated node hobject)

theorem nodup_nodeVariables {p : PlacedNode} (hp : p ∈ placedNodes devices) :
    (nodeVariables modelPrefix rt p).Nodup := by
  obtain ⟨hdevice, hnode⟩ := mem_placedNodes.mp hp
  have hdistinct := (h.nodes _ hdevice _ hnode).dataObjects
  apply List.nodup_cons.mpr
  constructor
  · intro hmem
    obtain ⟨node, hobject, hbelow⟩ := exists_object_of_mem_node hlength hhand h hp hmem
    rw [variableName_eq_pathVariable] at hbelow
    exact not_belowEither_component (h.unseparated_path hp)
      (hdistinct.unseparated node hobject) hbelow
  · rw [variableName_eq_pathVariable]
    apply nodup_namedObjects hlength (hhand p hp) hdistinct (h.unseparated_path hp)
      (by simp [PlacedNode.path])
    have hhead := h.path_head hp []
    rwa [List.append_nil] at hhead

theorem belowEither_deviceVariables {device : LogicalDevice} (hdevice : device ∈ devices)
    (hv : v ∈ (device.logicalNodes.map fun ln => (⟨device, ln⟩ : PlacedNode)).flatMap
      (nodeVariables modelPrefix rt)) :
    ∃ ln ∈ device.logicalNodes, BelowEither modelPrefix [device.inst, ln.getName] v := by
  obtain ⟨p, hp, hv⟩ := List.mem_flatMap.mp hv
  obtain ⟨ln, hln, rfl⟩ := List.mem_map.mp hp
  exact ⟨ln, hln, belowEither_nodeVariables hlength hhand h
    (mem_placedNodes.mpr ⟨hdevice, hln⟩) hv⟩

theorem nodup_deviceVariables {device : LogicalDevice} (hdevice : device ∈ devices) :
    (joinName modelPrefix device.inst ::
      (device.logicalNodes.map fun ln => (⟨device, ln⟩ : PlacedNode)).flatMap
        (nodeVariables modelPrefix rt)).Nodup := by
  have hinst := unseparated_singleton.mpr (h.inst _ hdevice).1
  have hplaced : ∀ ln ∈ device.logicalNodes, (⟨device, ln⟩ : PlacedNode) ∈ placedNodes devices :=
    fun ln hln => mem_placedNodes.mpr ⟨hdevice, hln⟩
  rw [List.nodup_cons, List.flatMap_map, List.nodup_flatMap]
  refine ⟨fun hmem => ?_, fun ln hln => ?_, ?_⟩
  · rw [← List.flatMap_map (f := fun ln => (⟨device, ln⟩ : PlacedNode))] at hmem
    obtain ⟨ln, hln, hbelow⟩ := belowEither_deviceVariables hlength hhand h hdevice hmem
    rw [joinName_eq_pathVariable] at hbelow
    exact not_belowEither_component hinst (h.nodes _ hdevice _ hln).name hbelow
  · exact nodup_nodeVariables hlength hhand h (hplaced ln hln)
  · apply (List.pairwise_map.mp (h.nodeNames _ hdevice)).imp_of_mem
    intro ln ln' hln hln' hne v hv hv'
    apply hne
    have hbelow : BelowEither modelPrefix ([device.inst] ++ [ln.getName]) v :=
      belowEither_nodeVariables hlength hhand h (hplaced ln hln) hv
    exact hbelow.component_eq
      (belowEither_nodeVariables hlength hhand h (hplaced ln' hln') hv') hinst
      (h.nodes _ hdevice _ hln).name (h.nodes _ hdevice _ hln').name
      (h.path_head (hplaced ln hln) []) (h.path_head (hplaced ln' hln') [])

theorem belowEither_device {device : LogicalDevice} (hdevice : device ∈ devices)
    (hv : v ∈ joinName modelPrefix device.inst ::
      (device.logicalNodes.map fun ln => (⟨device, ln⟩ : PlacedNode)).flatMap
        (nodeVariables modelPrefix rt)) : BelowEither modelPrefix [device.inst] v := by
  rcases List.mem_cons.mp hv with rfl | hv
  · rw [joinName_eq_pathVariable]
    exact Or.inl (below_self ..)
  · obtain ⟨ln, hln, hbelow⟩ := belowEither_deviceVariables hlength hhand h hdevice hv
    have hnode : BelowEither modelPrefix ([device.inst] ++ [ln.getName]) v := hbelow
    exact hnode.of_append (unseparated_singleton.mpr (h.nodes _ hdevice _ hln).name)

/-- Every node of the model is defined under a variable of its own. -/
theorem nodup_namedDevices :
    (namesOf (namedDevices (mangleSE modelPrefix) rt modelPrefix devices)).Nodup := by
  rw [namesOf_namedDevices_eq, List.nodup_flatMap]
  refine ⟨fun device hdevice => nodup_deviceVariables hlength hhand h hdevice, ?_⟩
  have hhead : ∀ device ∈ devices, [device.inst].head? ≠ some SE :=
    fun device hdevice hsame => (h.inst _ hdevice).2 (Option.some.inj hsame)
  apply (List.pairwise_map.mp h.insts).imp_of_mem
  intro device device' hdevice hdevice' hne v hv hv'
  have hbelow : BelowEither modelPrefix ([] ++ [device.inst]) v :=
    belowEither_device hlength hhand h hdevice hv
  apply hne
  exact hbelow.component_eq (belowEither_device hlength hhand h hdevice' hv')
    (by simp [Unseparated]) (h.inst _ hdevice).1 (h.inst _ hdevice').1 (hhead device hdevice)
    (hhead device' hdevice')

/-- The variables of the data model stand below the model prefix. -/
theorem below_of_mem_nodes
    (hv : v ∈ namesOf (namedDevices (mangleSE modelPrefix) rt modelPrefix devices)) :
    Below modelPrefix [] v := by
  rw [namesOf_namedDevices_eq] at hv
  obtain ⟨device, hdevice, hv⟩ := List.mem_flatMap.mp hv
  have hinst := unseparated_singleton.mpr (h.inst _ hdevice).1
  rcases belowEither_device hlength hhand h hdevice hv with hbelow | hbelow
  · have hroot : Below modelPrefix ([] ++ [device.inst]) v := hbelow
    exact hroot.of_append hinst
  · have hroot : Below modelPrefix ([] ++ (SE :: [device.inst])) v := hbelow
    exact hroot.of_append (unseparated_append.mpr ⟨unseparated_SE, hinst⟩)

end Nodes

/-! ## Groups of variables -/

section Groups

variable {modelPrefix v : Str} {devices : List LogicalDevice}

theorem Below.path_eq {path path' : List Str} (hv : Below modelPrefix path v)
    (hv' : Below modelPrefix path' v) (hpath : Unseparated path) (hpath' : Unseparated path')
    (hlength : path.length = path'.length) : path = path' := by
  obtain ⟨tail, tail', hsame⟩ := hv.common hv' hpath hpath'
  exact (List.append_inj hsame hlength).1

/-- Groups of variables that stand below different paths of one length. -/
theorem nodup_flatMap_below {α : Type} {xs : List α} {path : α → List Str} {n : ℕ}
    {group : α → List Str} (hpaths : xs.Pairwise fun x y => path x ≠ path y)
    (hplain : ∀ x ∈ xs, Unseparated (path x)) (hlength : ∀ x ∈ xs, (path x).length = n)
    (hbelow : ∀ x ∈ xs, ∀ v ∈ group x, Below modelPrefix (path x) v)
    (hnodup : ∀ x ∈ xs, (group x).Nodup) : (xs.flatMap group).Nodup := by
  rw [List.nodup_flatMap]
  refine ⟨hnodup, hpaths.imp_of_mem ?_⟩
  intro x y hx hy hne v hv hv'
  exact hne ((hbelow x hx v hv).path_eq (hbelow y hy v hv') (hplain x hx) (hplain y hy)
    ((hlength x hx).trans (hlength y hy).symm))

/-- The variable of a block comes with that of its address, if it has one. -/
theorem nodup_addressed {α : Type} {ds : List α} {name : α → Str} {address : α → Option Str}
    (hnames : (ds.map name).Nodup)
    (haddress : ∀ d ∈ ds, ∀ a ∈ address d, a = joinName (name d) (lit "address"))
    (hplaced : ∀ d ∈ ds, ∃ path, path.length = 3 ∧ Unseparated path ∧
      name d = pathVariable modelPrefix path) :
    (ds.flatMap fun d => (address d).toList ++ [name d]).Nodup := by
  have hsuffix : '_' ∉ lit "address" := by decide
  have hbelow : ∀ d ∈ ds, ∀ path : List Str, name d = pathVariable modelPrefix path →
      ∀ v ∈ (address d).toList ++ [name d], Below modelPrefix path v := by
    intro d hd path hpath v hv
    rcases List.mem_append.mp hv with hv | hv
    · rw [haddress d hd v (Option.mem_toList.mp hv), hpath, joinName_pathVariable]
      exact (below_self ..).of_append (unseparated_singleton.mpr hsuffix)
    · rw [List.mem_singleton.mp hv, hpath]
      exact below_self ..
  rw [List.nodup_flatMap]
  constructor
  · intro d hd
    obtain ⟨path, -, hplain, hpath⟩ := hplaced d hd
    cases ha : address d with
    | none => simp
    | some a =>
        have hne : a ≠ name d := by
          intro hsame
          rw [haddress d hd a ha, hpath, joinName_pathVariable] at hsame
          have hself := below_self modelPrefix (path ++ [lit "address"])
          rw [hsame] at hself
          exact not_below_component hplain hsuffix hself
        simpa using hne
  · apply (List.pairwise_map.mp hnames).imp_of_mem
    intro d d' hd hd' hne v hv hv'
    obtain ⟨path, hlength, hplain, hpath⟩ := hplaced d hd
    obtain ⟨path', hlength', hplain', hpath'⟩ := hplaced d' hd'
    apply hne
    rw [hpath, hpath', (hbelow d hd path hpath v hv).path_eq (hbelow d' hd' path' hpath' v hv')
      hplain hplain' (hlength.trans hlength'.symm)]

theorem DistinctDevices.pairwise_placedNodes (h : DistinctDevices devices) :
    (placedNodes devices).Pairwise fun p q => p.path ≠ q.path := by
  rw [placedNodes, List.pairwise_flatMap]
  constructor
  · intro device hdevice
    rw [List.pairwise_map]
    apply (List.pairwise_map.mp (h.nodeNames _ hdevice)).imp
    intro ln ln' hne hpath
    exact hne (List.cons.inj (List.cons.inj hpath).2).1
  · apply (List.pairwise_map.mp h.insts).imp
    intro device device' hne p hp q hq hpath
    obtain ⟨ln, -, rfl⟩ := List.mem_map.mp hp
    obtain ⟨ln', -, rfl⟩ := List.mem_map.mp hq
    exact hne (List.cons.inj hpath).1

end Groups

/-! ## Control blocks -/

/-- The path of a control block of the node; `tag` is how the names of its kind start. -/
def PlacedNode.BlockPath (p : PlacedNode) (tag : Str) (path : List Str) : Prop :=
  ∃ w, '_' ∉ w ∧ w.take 3 = tag ∧ joinName [] w ∈ (createLNVariableNames [] p.node).all ∧
    path = p.path ++ [w]

def BlockPath (devices : List LogicalDevice) (tag : Str) (path : List Str) : Prop :=
  ∃ p ∈ placedNodes devices, p.BlockPath tag path

/-- How the names of a kind start, and the names of that kind. -/
def blockKinds : List (Str × (VariableNames → List Str)) :=
  [(lit "rep", VariableNames.rcb), (lit "smv", VariableNames.smv),
    (lit "gse", VariableNames.gse), (lit "sgc", VariableNames.sgcb),
    (lit "lcb", VariableNames.lcb), (lit "log", VariableNames.log)]

section Blocks

variable {modelPrefix v tag tag' : Str} {rt : Runtime} {devices : List LogicalDevice}
  {path path' : List Str}

theorem BlockPath.length (hpath : BlockPath devices tag path) : path.length = 3 := by
  obtain ⟨p, -, w, -, -, -, rfl⟩ := hpath
  rfl

theorem BlockPath.unseparated (h : DistinctDevices devices)
    (hpath : BlockPath devices tag path) : Unseparated path := by
  obtain ⟨p, hp, w, hw, -, -, rfl⟩ := hpath
  exact unseparated_append.mpr ⟨h.unseparated_path hp, unseparated_singleton.mpr hw⟩

/-- Blocks of different kinds have no variable in common. -/
theorem BlockPath.tag_eq (h : DistinctDevices devices) (hpath : BlockPath devices tag path)
    (hpath' : BlockPath devices tag' path') (hv : Below modelPrefix path v)
    (hv' : Below modelPrefix path' v) : tag = tag' := by
  have hsame := hv.path_eq hv' (hpath.unseparated h) (hpath'.unseparated h)
    (hpath.length.trans hpath'.length.symm)
  obtain ⟨p, -, w, -, rfl, -, rfl⟩ := hpath
  obtain ⟨q, -, w', -, rfl, -, rfl⟩ := hpath'
  have hlast := congrArg List.getLast? hsame
  rw [List.getLast?_concat, List.getLast?_concat] at hlast
  rw [Option.some.inj hlast]

theorem blockPath_numberedName {p : PlacedNode} {kind : String} {i : ℕ}
    (hkind : '_' ∉ lit kind) (hlength : 3 ≤ (lit kind).length)
    (hmem : numberedName [] kind i ∈ (createLNVariableNames [] p.node).all) :
    ∃ path, p.BlockPath ((lit kind).take 3) path ∧
      numberedName (p.variableName modelPrefix) kind i = pathVariable modelPrefix path := by
  refine ⟨p.path ++ [lit kind ++ itoa i], ⟨_, underscore_not_mem_kind hkind i, ?_, hmem, rfl⟩,
    ?_⟩
  · rw [List.take_append_of_le_length hlength]
  · rw [← joinName_pathVariable, ← variableName_eq_pathVariable]
    rfl

/-- The names of a kind that is numbered. -/
theorem blockPath_of_mem_numberedNames {p : PlacedNode} {kind : String} {count predicted : ℕ}
    (hkind : '_' ∉ lit kind) (hlength : 3 ≤ (lit kind).length) (hle : count ≤ predicted)
    (hall : ∀ u ∈ numberedNames [] kind predicted, u ∈ (createLNVariableNames [] p.node).all)
    (hv : v ∈ numberedNames (p.variableName modelPrefix) kind count) :
    ∃ path, p.BlockPath ((lit kind).take 3) path ∧ v = pathVariable modelPrefix path := by
  obtain ⟨i, hi, rfl⟩ := List.mem_map.mp hv
  apply blockPath_numberedName hkind hlength
  apply hall
  refine List.mem_map.mpr ⟨i, ?_, rfl⟩
  rw [List.mem_range] at hi ⊢
  omega

/-- No variable of the data model stands below that of a control block. -/
theorem not_below_block_of_mem_nodes (hlength : modelPrefix.length = 8)
    (hhand : DevicesHandDown devices) (h : DistinctDevices devices)
    (hpath : BlockPath devices tag path)
    (hv : v ∈ namesOf (namedDevices (mangleSE modelPrefix) rt modelPrefix devices)) :
    ¬ Below modelPrefix path v := by
  intro hbelow
  obtain ⟨p, hp, w, hw, -, hname, rfl⟩ := hpath
  have hplain := h.unseparated_path hp
  rw [namesOf_namedDevices_eq] at hv
  obtain ⟨device, hdevice, hv⟩ := List.mem_flatMap.mp hv
  have hshort : ∀ shorter : List Str, Unseparated shorter → shorter.length < 3 →
      v ≠ pathVariable modelPrefix shorter := by
    rintro shorter hshorter hlt rfl
    obtain ⟨tail, htail, hsame⟩ := hbelow
    have hlonger := unseparated_append.mpr
      ⟨unseparated_append.mpr ⟨hplain, unseparated_singleton.mpr hw⟩, htail⟩
    have hlengths := congrArg List.length (pathVariable_inj hshorter hlonger hsame)
    simp only [List.length_append, PlacedNode.path, List.length_cons, List.length_nil] at hlengths
    omega
  rcases List.mem_cons.mp hv with hv | hv
  · rw [joinName_eq_pathVariable] at hv
    exact hshort _ (unseparated_singleton.mpr (h.inst _ hdevice).1) (by simp) hv
  · obtain ⟨q, hq, hv⟩ := List.mem_flatMap.mp hv
    obtain ⟨ln, hln, rfl⟩ := List.mem_map.mp hq
    have hq : (⟨device, ln⟩ : PlacedNode) ∈ placedNodes devices :=
      mem_placedNodes.mpr ⟨hdevice, hln⟩
    rcases List.mem_cons.mp hv with hv | hv
    · rw [variableName_eq_pathVariable] at hv
      exact hshort _ (h.unseparated_path hq) (by simp [PlacedNode.path]) hv
    · obtain ⟨node, hnode, hobject⟩ := exists_object_of_mem_node hlength hhand h hq hv
      have hmembers := h.nodes _ hdevice _ hln
      obtain ⟨rfl, rfl⟩ := h.common_component hp hq hw
        (hmembers.dataObjects.unseparated node hnode) (Or.inl hbelow) hobject
      exact hmembers.blocks node hnode hname

end Blocks

section PrintedBlocks

variable {rt : Runtime} {scl : SCL} {args : GeneratorArguments} {S : Selection scl args}
  {v : Str}

theorem mem_all_of_kind {names : VariableNames} {kind : Str × (VariableNames → List Str)}
    (hkind : kind ∈ blockKinds) (hv : v ∈ kind.2 names) : v ∈ names.all := by
  simp only [blockKinds, List.mem_cons, List.not_mem_nil, or_false] at hkind
  rcases hkind with rfl | rfl | rfl | rfl | rfl | rfl <;> simp [VariableNames.all, hv]

/-- The names of each kind that are printed for a node are paths of that kind, and
distinct. -/
theorem printedNames_kind {kind : Str × (VariableNames → List Str)} (hkind : kind ∈ blockKinds)
    (p : PlacedNode) :
    (kind.2 (S.printedNames p)).Nodup ∧ ∀ v ∈ kind.2 (S.printedNames p),
      ∃ path, p.BlockPath kind.1 path ∧ v = pathVariable args.modelPrefix path := by
  have hall := fun u (hu : u ∈ kind.2 (createLNVariableNames [] p.node)) =>
    mem_all_of_kind hkind hu
  simp only [blockKinds, List.mem_cons, List.not_mem_nil, or_false] at hkind
  rcases hkind with rfl | rfl | rfl | rfl | rfl | rfl
  · exact ⟨nodup_numberedNames (by decide) _, fun v hv =>
      blockPath_of_mem_numberedNames (by decide) (by decide) le_rfl hall hv⟩
  · exact ⟨nodup_numberedNames (by decide) _, fun v hv =>
      blockPath_of_mem_numberedNames (by decide) (by decide) le_rfl hall hv⟩
  · exact ⟨nodup_numberedNames (by decide) _, fun v hv =>
      blockPath_of_mem_numberedNames (by decide) (by decide) List.countP_le_length hall hv⟩
  · have hlength : ((S.printedNames p).sgcb).length ≤ 1 := by
      simp [Selection.printedNames]
    refine ⟨List.nodup_iff_count_le_one.mpr fun u => List.count_le_length.trans hlength, ?_⟩
    intro v hv
    obtain ⟨sgcb, hsgcb, rfl⟩ := List.mem_map.mp (List.mem_of_mem_take hv)
    refine ⟨p.path ++ [lit "sgcb"], ⟨_, by decide, by decide, ?_, rfl⟩, ?_⟩
    · exact hall _ (List.mem_map.mpr ⟨sgcb, hsgcb, rfl⟩)
    · rw [← joinName_pathVariable, ← variableName_eq_pathVariable]
      rfl
  · exact ⟨nodup_numberedNames (by decide) _, fun v hv =>
      blockPath_of_mem_numberedNames (by decide) (by decide) le_rfl hall hv⟩
  · exact ⟨nodup_numberedNames (by decide) _, fun v hv =>
      blockPath_of_mem_numberedNames (by decide) (by decide) le_rfl hall hv⟩

/-- The names of each kind that are printed for all nodes. -/
def Selection.kindNames (S : Selection scl args) (kind : Str × (VariableNames → List Str)) :
    List Str :=
  (placedNodes S.logicalDevices).flatMap fun p => kind.2 (S.printedNames p)

theorem blockPath_of_mem_kindNames {kind : Str × (VariableNames → List Str)}
    (hkind : kind ∈ blockKinds) (hv : v ∈ S.kindNames kind) :
    ∃ path, BlockPath S.logicalDevices kind.1 path ∧
      v = pathVariable args.modelPrefix path := by
  obtain ⟨p, hp, hv⟩ := List.mem_flatMap.mp hv
  obtain ⟨path, hpath, hvariable⟩ := (printedNames_kind hkind p).2 v hv
  exact ⟨path, ⟨p, hp, hpath⟩, hvariable⟩

theorem nodup_kindNames (h : DistinctDevices S.logicalDevices)
    {kind : Str × (VariableNames → List Str)} (hkind : kind ∈ blockKinds) :
    (S.kindNames kind).Nodup := by
  apply @nodup_flatMap_below args.modelPrefix _ _ _ 2 _ h.pairwise_placedNodes
  · exact fun p hp => h.unseparated_path hp
  · exact fun p _ => rfl
  · intro p hp v hv
    obtain ⟨path, ⟨w, hw, -, -, rfl⟩, rfl⟩ := (printedNames_kind hkind p).2 v hv
    exact (below_self ..).of_append (unseparated_singleton.mpr hw)
  · exact fun p _ => (printedNames_kind hkind p).1

end PrintedBlocks

/-! ## Addresses -/

/-- The variable of an address is that of its block with `_address` behind it. -/
structure ControlBlockBuffers.Addressed (out : ControlBlockBuffers) : Prop where
  gse : ∀ d ∈ out.gseControlBlocks, ∀ a ∈ d.address,
    a.addressName = joinName d.blockName (lit "address")
  smv : ∀ d ∈ out.smvControlBlocks, ∀ a ∈ d.dstAddress,
    a.addressName = joinName d.blockName (lit "address")

section Addresses

variable {blocks : ControlBlockContext} {lnPrefix : Str} {ln : LogicalNode}
  {out out' : ControlBlockBuffers}

theorem addressName_addressDefinition {blockName : Str} {address : Option PhyComAddress} :
    ∀ a ∈ address.map (addressDefinition blockName),
      a.addressName = joinName blockName (lit "address") := by
  intro a ha
  obtain ⟨declared, -, rfl⟩ := Option.map_eq_some_iff.mp ha
  simp [addressDefinition, joinName, lit]

theorem addressed_printGSEControlBlocks {ldName : Str} (hout : out.Addressed)
    (h : printGSEControlBlocks blocks ldName lnPrefix ln out = .ok out') : out'.Addressed := by
  obtain ⟨part, -, h⟩ := bind_eq_ok.mp h
  obtain ⟨⟨n, after⟩, hloop, h⟩ := bind_eq_ok.mp h
  obtain rfl := Except.ok.inj h
  apply foldlM_invariant (P := fun state : ℕ × ControlBlockBuffers => state.2.Addressed) hloop hout
  rintro ⟨m, before⟩ state control _ hbefore hcontrol
  obtain ⟨connectedAP, -, hcontrol⟩ := bind_eq_ok.mp hcontrol
  split at hcontrol
  next =>
    obtain rfl := Except.ok.inj hcontrol
    exact hbefore
  next =>
    obtain rfl := Except.ok.inj hcontrol
    exact { hbefore with gse := forall_mem_concat hbefore.gse addressName_addressDefinition }

theorem addressed_printSVControlBlocks {ldName : Str} (hout : out.Addressed)
    (h : printSVControlBlocks blocks ldName lnPrefix ln out = .ok out') : out'.Addressed := by
  obtain ⟨part, -, hloop⟩ := bind_eq_ok.mp h
  apply foldlM_invariant hloop hout
  intro before after numbered _ hbefore hblock
  obtain ⟨connectedAP, -, hblock⟩ := bind_eq_ok.mp hblock
  obtain ⟨smvOpts, -, hblock⟩ := bind_eq_ok.mp hblock
  obtain rfl := Except.ok.inj hblock
  exact { hbefore with smv := forall_mem_concat hbefore.smv addressName_addressDefinition }

theorem addressed_printControlBlocks {deviceInst ldName : Str} (hout : out.Addressed)
    (h : printControlBlocks blocks deviceInst ldName lnPrefix ln out = .ok out') :
    out'.Addressed := by
  obtain ⟨reports, hreports, h⟩ := bind_eq_ok.mp h
  obtain ⟨between, hgse, h⟩ := bind_eq_ok.mp h
  obtain ⟨after, hsv, h⟩ := bind_eq_ok.mp h
  obtain rfl := Except.ok.inj h
  have hreports : reports.Addressed := by
    obtain ⟨added, rfl⟩ := printReportControlBlocks_appends hreports
    exact ⟨hout.gse, hout.smv⟩
  have hlogs : (printLogs blocks lnPrefix ln
      (printLogControlBlocks blocks deviceInst lnPrefix ln reports)).Addressed := by
    obtain ⟨lcbs, hlcbs⟩ := printLogControlBlocks_appends blocks deviceInst lnPrefix ln reports
    obtain ⟨logs, hlogs⟩ := printLogs_appends blocks lnPrefix ln
      (printLogControlBlocks blocks deviceInst lnPrefix ln reports)
    rw [hlogs, hlcbs]
    exact ⟨hreports.gse, hreports.smv⟩
  have hafter := addressed_printSVControlBlocks (addressed_printGSEControlBlocks hlogs hgse) hsv
  obtain ⟨sgcbs, hsgcbs⟩ := printSettingControlBlock_appends blocks lnPrefix ln after
  rw [hsgcbs]
  exact ⟨hafter.gse, hafter.smv⟩

end Addresses

/-! ## The buffers of a run -/

/-- The variables of a block and of its address, in the order of their definitions. -/
def addressedNames {α : Type} (address : α → Option PhyComAddressDefinition) (name : α → Str)
    (ds : List α) : List Str :=
  ds.flatMap fun d => ((address d).map PhyComAddressDefinition.addressName).toList ++ [name d]

/-- What each buffer defines, with the start of the names of its kind. -/
def ControlBlockBuffers.definedGroups (out : ControlBlockBuffers) : List (Str × List Str) :=
  [(lit "rep", out.reportControlBlocks.map ReportControlBlockDefinition.blockName),
    (lit "smv", addressedNames SVControlBlockDefinition.dstAddress
      SVControlBlockDefinition.blockName out.smvControlBlocks),
    (lit "gse", addressedNames GSEControlBlockDefinition.address
      GSEControlBlockDefinition.blockName out.gseControlBlocks),
    (lit "sgc", out.settingGroupControlBlocks.map SettingGroupControlBlockDefinition.blockName),
    (lit "lcb", out.logControlBlocks.map LogControlBlockDefinition.blockName),
    (lit "log", out.logs.map LogDefinition.logName)]

theorem flatMap_defines_externs (type : DeclaredType) (names : List Str) :
    (externDeclarations type names).flatMap CItem.defines = [] := by
  simp [externDeclarations, CItem.defines]

theorem flatMap_defines_addressed {α : Type} {item : α → CItem} {group : α → List CItem}
    {address : α → Option PhyComAddressDefinition} {name : α → Str}
    (hgroup : ∀ d, group d = ((address d).map CItem.phyComAddress).toList ++ [item d])
    (hitem : ∀ d, (item d).defines = [name d]) (ds : List α) :
    (ds.flatMap group).flatMap CItem.defines = addressedNames address name ds := by
  rw [List.flatMap_assoc, addressedNames]
  refine List.flatMap_congr fun d _ => ?_
  rw [hgroup, List.flatMap_append, List.flatMap_singleton, hitem]
  cases address d with
  | _ => rfl

theorem flatMap_defines_map {α : Type} {item : α → CItem} {name : α → Str}
    (hitem : ∀ d, (item d).defines = [name d]) (ds : List α) :
    (ds.map item).flatMap CItem.defines = ds.map name := by
  rw [List.flatMap_map, ← List.flatMap_pure_eq_map]
  exact List.flatMap_congr fun d _ => hitem d

theorem flatMap_defines_printBuffers (names : VariableNames) (buffers : ControlBlockBuffers) :
    (printBuffers names buffers).flatMap CItem.defines =
      (buffers.definedGroups.map Prod.snd).flatten := by
  simp only [printBuffers, List.flatMap_append, flatMap_defines_externs, List.nil_append,
    @flatMap_defines_addressed _ CItem.svControlBlock svItems
      SVControlBlockDefinition.dstAddress _ (fun _ => rfl) (fun _ => rfl),
    @flatMap_defines_addressed _ CItem.gseControlBlock gseItems
      GSEControlBlockDefinition.address _ (fun _ => rfl) (fun _ => rfl),
    @flatMap_defines_map _ CItem.reportControlBlock _ (fun _ => rfl),
    @flatMap_defines_map _ CItem.settingGroupControlBlock _ (fun _ => rfl),
    @flatMap_defines_map _ CItem.logControlBlock _ (fun _ => rfl),
    @flatMap_defines_map _ CItem.log _ (fun _ => rfl)]
  simp [ControlBlockBuffers.definedGroups]

section Run

variable {rt : Runtime} {scl : SCL} {args : GeneratorArguments} {S : Selection scl args}
  {files : GeneratedFiles} {v : Str}

theorem RunStages.addressed
    (R : RunStages (S.generator rt) args.outFileName S.logicalDevices files) :
    R.model.buffers.Addressed := by
  apply foldlM_invariant (printLogicalDeviceDefinitions_buffers R.model_eq)
  · constructor <;> exact fun d hd => absurd hd List.not_mem_nil
  · intro before after p _ hbefore hprinted
    exact addressed_printControlBlocks hbefore hprinted

/-- A buffer holds the blocks of its kind under the names that are printed. -/
theorem map_eq_kindNames {ρ : Type} {k : ρ → Str} {s : ρ → Option Str} {names : List Str}
    {kind : Str × (VariableNames → List Str)} {records : List ρ} (hnil : kind.2 {} = [])
    (happend : ∀ a b, kind.2 (a ++ b) = kind.2 a ++ kind.2 b)
    (hgrows : Grows k s names
      (kind.2 (((placedNodes S.logicalDevices).map S.printedNames).foldr (· ++ ·) {})) []
      records) : records.map k = S.kindNames kind := by
  have hkeys := hgrows.keys_eq
  rwa [projection_foldr_append hnil happend, List.flatMap_map] at hkeys

/-- What a group of blocks defines: every variable once, and each below a path of the
kind. -/
structure GroupDefined (S : Selection scl args) (group : Str × List Str) : Prop where
  nodup : group.2.Nodup
  below : ∀ v ∈ group.2, ∃ path, BlockPath S.logicalDevices group.1 path ∧
    Below args.modelPrefix path v

theorem groupDefined_kindNames (h : DistinctDevices S.logicalDevices)
    (kind : Str × (VariableNames → List Str)) (hkind : kind ∈ blockKinds) {names : List Str}
    (hnames : names = S.kindNames kind) : GroupDefined S (kind.1, names) := by
  subst hnames
  refine ⟨nodup_kindNames h hkind, fun v hv => ?_⟩
  obtain ⟨path, hpath, rfl⟩ := blockPath_of_mem_kindNames hkind hv
  exact ⟨path, hpath, below_self ..⟩

theorem groupDefined_addressed (h : DistinctDevices S.logicalDevices)
    (kind : Str × (VariableNames → List Str)) (hkind : kind ∈ blockKinds) {α : Type}
    {address : α → Option PhyComAddressDefinition} {name : α → Str} {ds : List α}
    (hnames : ds.map name = S.kindNames kind)
    (haddress : ∀ d ∈ ds, ∀ a ∈ address d, a.addressName = joinName (name d) (lit "address")) :
    GroupDefined S (kind.1, addressedNames address name ds) := by
  have hplaced : ∀ d ∈ ds, ∃ path, BlockPath S.logicalDevices kind.1 path ∧
      name d = pathVariable args.modelPrefix path := fun d hd =>
    blockPath_of_mem_kindNames hkind (hnames ▸ List.mem_map_of_mem hd)
  have haddresses : ∀ d ∈ ds, ∀ a ∈ (address d).map PhyComAddressDefinition.addressName,
      a = joinName (name d) (lit "address") := by
    intro d hd a ha
    obtain ⟨definition, hdefinition, rfl⟩ := Option.map_eq_some_iff.mp ha
    exact haddress d hd definition hdefinition
  constructor
  · apply @nodup_addressed args.modelPrefix _ _ _ _ _ haddresses
    · intro d hd
      obtain ⟨path, hpath, hvariable⟩ := hplaced d hd
      exact ⟨path, hpath.length, hpath.unseparated h, hvariable⟩
    · rw [hnames]
      exact nodup_kindNames h hkind
  · intro v hv
    obtain ⟨d, hd, hv⟩ := List.mem_flatMap.mp hv
    obtain ⟨path, hpath, hvariable⟩ := hplaced d hd
    refine ⟨path, hpath, ?_⟩
    rcases List.mem_append.mp hv with hv | hv
    · rw [haddresses d hd v (Option.mem_toList.mp hv), hvariable, joinName_pathVariable]
      exact (below_self ..).of_append (unseparated_singleton.mpr (by decide))
    · rw [List.mem_singleton.mp hv, hvariable]
      exact below_self ..

theorem RunStages.groupDefined
    (R : RunStages (S.generator rt) args.outFileName S.logicalDevices files)
    (h : DistinctDevices S.logicalDevices)
    (hsingle : ∀ p ∈ placedNodes S.logicalDevices, ∀ rcb ∈ p.node.reportControlBlocks,
      rcb.Single) :
    ∀ group ∈ R.model.buffers.definedGroups, GroupDefined S group := by
  have hadds := R.adds hsingle
  have haddressed := R.addressed
  simp only [ControlBlockBuffers.definedGroups, List.forall_mem_cons]
  refine ⟨?_, ?_, ?_, ?_, ?_, ?_, fun _ hgroup => absurd hgroup List.not_mem_nil⟩
  · exact groupDefined_kindNames h (lit "rep", VariableNames.rcb) (by simp [blockKinds])
      (map_eq_kindNames rfl (fun _ _ => rfl) hadds.rcb)
  · exact groupDefined_addressed h (lit "smv", VariableNames.smv) (by simp [blockKinds])
      (map_eq_kindNames rfl (fun _ _ => rfl) hadds.smv) haddressed.smv
  · exact groupDefined_addressed h (lit "gse", VariableNames.gse) (by simp [blockKinds])
      (map_eq_kindNames rfl (fun _ _ => rfl) hadds.gse) haddressed.gse
  · exact groupDefined_kindNames h (lit "sgc", VariableNames.sgcb) (by simp [blockKinds])
      (map_eq_kindNames rfl (fun _ _ => rfl) hadds.sgcb)
  · exact groupDefined_kindNames h (lit "lcb", VariableNames.lcb) (by simp [blockKinds])
      (map_eq_kindNames rfl (fun _ _ => rfl) hadds.lcb)
  · exact groupDefined_kindNames h (lit "log", VariableNames.log) (by simp [blockKinds])
      (map_eq_kindNames rfl (fun _ _ => rfl) hadds.log)

end Run

end Iec61850.Scl
