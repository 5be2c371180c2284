import Iec61850.LinkedDefinitions
import Iec61850.SetpointNames

/-!
# The emitted pointer graph

For a model prefix of eight characters `SE_` is inserted right behind the
prefix.  Then all places that name a node agree, and following `firstChild` and
`sibling` from `IedModel` over the emitted definitions rebuilds the model tree.
-/

namespace Iec61850.Scl

open Go Linked

variable {modelPrefix : Str}

/-! ## Agreement for prefixes of eight characters -/

theorem setpointAgrees_of_length {doName : Str} {da : DataAttribute}
    (hlength : modelPrefix.length = 8) (hname : InModel modelPrefix 2 doName)
    (hinherited : FcInherited da) (hfc : da.fc ≠ []) :
    SetpointAgrees (mangleSE modelPrefix) doName da where
  inherited := hinherited
  fc_ne_nil := hfc
  settled := fun _ name =>
    hname.mangleSE_joinName (Or.inl (hname.nine_le_length hlength)) name
  fixed := by
    intro _ _ rest
    obtain ⟨tail, htail, -⟩ := hname.child da.name
    rw [htail]
    exact mangleSE_append (hasPrefix_mangleSE hlength tail) rest

theorem objectAgrees_of_length {node : DataObject} (hlength : modelPrefix.length = 8)
    (hattributes : node.AllAttributes fun da => FcInherited da ∧ da.fc ≠ [])
    {doName : Str} (hname : InModel modelPrefix 2 doName) :
    ObjectAgrees (mangleSE modelPrefix) doName node := by
  induction hattributes generalizing doName with
  | intro hattributes _ ih =>
      refine ObjectAgrees.intro (fun da hda => ?_) fun sub hsub => ?_
      · exact setpointAgrees_of_length hlength hname (hattributes da hda).1
          (hattributes da hda).2
      · exact ih sub hsub ((hname.child sub.name).mono (by omega))

variable {rt : Runtime}

theorem ParsedDevices.fcInherited {templates : DataTypeTemplates} {fuel : ℕ}
    {devices : List LogicalDevice} (h : ParsedDevices rt templates fuel devices)
    {device : LogicalDevice} (hdevice : device ∈ devices) {ln : LogicalNode}
    (hln : ln ∈ device.logicalNodes) :
    ∀ node ∈ ln.dataObjects, node.AllAttributes FcInherited := by
  obtain ⟨source, resolved, -, hparsed⟩ := h.parsedNode hdevice hln
  exact allAttributes_parseLogicalNode
    (fun _ _ _ _ _ _ _ hda => (fcInherited_newDataAttribute hda).1)
    (fun _ _ _ hda' hda => fcInherited_setInstanceValue hda' hda) hparsed

/-! ## The walk over the emitted definitions -/

/-- Every data attribute directly below a data object has a constraint. -/
def HasConstraints (devices : List LogicalDevice) : Prop :=
  ∀ device ∈ devices, ∀ ln ∈ device.logicalNodes, ∀ node ∈ ln.dataObjects,
    node.AllAttributes fun da => da.fc ≠ []

theorem newDataAttribute_fc {templates : DataTypeTemplates} {n : ℕ}
    {d : DataAttributeDefinition} {fc : Str} {parent : ParentNode} {da : DataAttribute}
    (h : newDataAttribute templates n d fc parent = .ok da) : da.fc = attributeFc d.fc fc := by
  obtain ⟨_, _, rfl⟩ := newDataAttribute_shape h
  rfl

/-- Every `DA` element of a `DOType` has an `fc`. -/
def SCL.definitionsHaveConstraints (scl : SCL) : Bool :=
  match scl.dataTypeTemplates with
  | none => true
  | some templates => templates.typeDeclarations.all fun declaration =>
      match declaration with
      | .dataObjectType o => o.dataAttributes.all fun d => d.fc ≠ []
      | _ => true

theorem hasConstraints_of_definitions {P : ParsedModel rt} {args : GeneratorArguments}
    (S : Selection P.model args) (h : P.model.definitionsHaveConstraints = true) :
    HasConstraints S.logicalDevices := by
  obtain ⟨templates, htemplates, hdevices⟩ := S.parsedDevices
  have hfc : ∀ o, .dataObjectType o ∈ templates.typeDeclarations →
      ∀ d ∈ o.dataAttributes, d.fc ≠ [] := by
    intro o ho d hd
    rw [SCL.definitionsHaveConstraints, htemplates] at h
    have hobject := List.all_eq_true.mp h _ ho
    simpa using List.all_eq_true.mp hobject d hd
  intro device hdevice ln hln
  obtain ⟨source, resolved, -, hparsed⟩ := hdevices.parsedNode hdevice hln
  refine allAttributes_parseLogicalNode (fun o ho d hd m fc da hda => ?_) ?_ hparsed
  · rw [newDataAttribute_fc hda, attributeFc]
    split
    · exact hfc o ho d hd
    · assumption
  · intro dai da da' hda' hda
    rcases setInstanceValue_cases hda' with ⟨-, rfl⟩ | ⟨text, v, -, -, rfl⟩
    · exact hda
    · exact hda

variable {args : GeneratorArguments}

theorem RunStages.records_eq {P : ParsedModel rt} {S : Selection P.model args}
    {files : GeneratedFiles}
    (R : RunStages (S.generator rt) args.outFileName S.logicalDevices files)
    (hlength : args.modelPrefix.length = 8) (hfc : HasConstraints S.logicalDevices) :
    files.nodeDefinitions.map NodeDefinition.record =
      preorder (link args.modelPrefix none
        (namedDevices (mangleSE args.modelPrefix) rt args.modelPrefix S.logicalDevices)) := by
  obtain ⟨templates, -, hdevices⟩ := S.parsedDevices
  have hagree : ∀ device ∈ S.logicalDevices, ∀ ln ∈ device.logicalNodes,
      ∀ node ∈ ln.dataObjects, ObjectAgrees (mangleSE args.modelPrefix)
        (joinName (joinName (joinName args.modelPrefix device.inst) ln.getName) node.name)
        node := by
    intro device hdevice ln hln node hnode
    have hattributes := (hdevices.fcInherited hdevice hln node hnode).and
      (hfc device hdevice ln hln node hnode)
    exact objectAgrees_of_length hlength hattributes
      (((inModel_joinName device.inst).child ln.getName).child node.name)
  obtain ⟨added, hadded, hrecords⟩ := printLogicalDeviceDefinitions_records
    (fun name name' => insertSE_eq_ok) hagree R.model_eq
  rw [R.nodeDefinitions_eq, hadded]
  exact hrecords

/-- Following the pointers from `IedModel` over the emitted definitions visits
each of them once, in the order of the file, and rebuilds the model tree; every
parent pointer is the tree parent, and no pointer names an undefined variable. -/
theorem emitted_pointers_rebuild_model (P : ParsedModel rt) (args : GeneratorArguments)
    (S : Selection P.model args) (files : GeneratedFiles)
    (hgenerate : generate rt P.model args = .ok files)
    (hlength : args.modelPrefix.length = 8)
    (hfc : HasConstraints S.logicalDevices)
    (hdistinct : (files.nodeDefinitions.map NodeDefinition.variableName).Nodup) :
    ∃ model forest fuel,
      files.iedModels = [model] ∧
      walk (files.nodeDefinitions.map NodeDefinition.record) fuel
        (some model.firstChild) = some forest ∧
      preorder forest = files.nodeDefinitions.map NodeDefinition.record ∧
      mapForest Record.label forest = modelForest rt S.logicalDevices ∧
      ParentsAgree model.modelName forest ∧
      ∀ d ∈ files.nodeDefinitions,
        (d.parent = model.modelName ∨
          d.parent ∈ files.nodeDefinitions.map NodeDefinition.variableName) ∧
        (∀ target, d.sibling = some target ∨ d.firstChild = some target →
          target ∈ files.nodeDefinitions.map NodeDefinition.variableName) := by
  obtain ⟨R⟩ := S.stages hgenerate
  have hrecords := R.records_eq hlength hfc
  let named := namedDevices (mangleSE args.modelPrefix) rt args.modelPrefix S.logicalDevices
  have hkeys : files.nodeDefinitions.map NodeDefinition.variableName =
      (preorder named).map Prod.fst := by
    rw [← preorder_link_map_key args.modelPrefix none named, ← hrecords, List.map_map]
    rfl
  rw [hkeys] at hdistinct
  obtain ⟨fuel, hwalk⟩ := walk_link args.modelPrefix hdistinct
  have hstart : headKey none named =
      some (joinName args.modelPrefix R.firstDevice.inst) := by
    rw [headKey_namedDevices, first_eq_ok.mp R.firstDevice_eq]
    rfl
  refine ⟨_, link args.modelPrefix none named, fuel, R.iedModels_eq, ?_, hrecords.symm, ?_,
    parentsAgree_link _ _ _, ?_⟩
  · rw [hrecords]
    change walk _ fuel (some (joinName args.modelPrefix R.firstDevice.inst)) = _
    rw [← hstart]
    exact hwalk
  · have hlabels : (Record.label : Record Str NodeLabel → NodeLabel) =
        Prod.snd ∘ fun r => (r.key, r.label) := rfl
    rw [hlabels, ← mapForest_mapForest, mapForest_link, mapForest_namedDevices]
  · intro d hd
    have hmem : d.record ∈ preorder (link args.modelPrefix none named) := by
      rw [← hrecords]
      exact List.mem_map_of_mem hd
    obtain ⟨hparent, hsibling, hfirst⟩ := targets_of_mem_link hmem
    rw [hkeys]
    refine ⟨hparent, fun target htarget => ?_⟩
    rcases htarget with htarget | htarget
    · exact (hsibling target htarget).resolve_right (by simp)
    · exact hfirst target htarget

/-- A setting with two members, an array of such structures, and a sub data
object. -/
def settingTemplates : DataTypeTemplates where
  logicalNodeTypes := [{
    id := lit "LN0T"
    dataObjectDefinitions := [{ name := lit "Mod", type := lit "INC" }] }]
  dataObjectTypes := [
    { id := lit "INC"
      dataAttributes := [
        { name := lit "stVal", fc := lit "ST", bType := lit "INT32", val := some (lit "5") },
        { name := lit "set", fc := lit "SE", bType := lit "Struct", type := lit "S" },
        { name := lit "arr", fc := lit "MX", bType := lit "Struct", type := lit "S",
          count := 2 }]
      subDataObjects := [{ name := lit "sub", type := lit "SUB" }] },
    { id := lit "SUB"
      dataAttributes := [{ name := lit "q", fc := lit "SE", bType := lit "Quality" }] }]
  dataAttributeTypes := [{
    id := lit "S"
    subDataAttributes := [
      { name := lit "a", bType := lit "INT8" }, { name := lit "b", bType := lit "INT8" }] }]

def settingDevice : LogicalDevice where
  inst := lit "LD1"
  ln0 := some { lnClass := lit "LLN0", lnType := lit "LN0T" }

def settingModel : ParsedModel plainRuntime :=
  ParsedModel.ofDocument plainRuntime 4 (documentOf settingTemplates [settingDevice])
    (by decide +kernel)

theorem generate_settingModel : (generate plainRuntime settingModel.model {}).isOk = true := by
  decide +kernel

theorem emitted_pointers_rebuild_settingModel :
    ∃ S : Selection settingModel.model {}, ∃ files model forest fuel,
      generate plainRuntime settingModel.model {} = .ok files ∧
      files.iedModels = [model] ∧
      walk (files.nodeDefinitions.map NodeDefinition.record) fuel
        (some model.firstChild) = some forest ∧
      preorder forest = files.nodeDefinitions.map NodeDefinition.record ∧
      mapForest Record.label forest = modelForest plainRuntime S.logicalDevices := by
  have hgenerate := eq_ok_resultOf _ generate_settingModel
  obtain ⟨S⟩ := exists_selection_of_generate hgenerate
  have hdistinct : ((resultOf _ generate_settingModel).nodeDefinitions.map
      NodeDefinition.variableName).Nodup := by decide +kernel
  obtain ⟨model, forest, fuel, hmodel, hwalk, horder, hlabels, -⟩ :=
    emitted_pointers_rebuild_model settingModel {} S _ hgenerate (by decide)
      (hasConstraints_of_definitions S (by decide +kernel)) hdistinct
  exact ⟨S, _, model, forest, fuel, hgenerate, hmodel, hwalk, horder, hlabels⟩

end Iec61850.Scl
