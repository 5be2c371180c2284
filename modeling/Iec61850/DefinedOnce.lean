import Iec61850.DistinctDefinitions
import Iec61850.PointerGraph

/-!
# Each variable is defined once

The data sets have a prefix of their own, so that their variables meet neither those of
the data model nor those of the control blocks.
-/

namespace Iec61850.Scl

open Go Linked Delimited

/-! ## Data sets -/

/-- What the variables of data sets start with. -/
def dataSetPrefix (modelPrefix : Str) : Str := modelPrefix ++ lit "ds"

def PlacedDataSet.path (p : PlacedDataSet) : List Str :=
  [p.device.inst, p.node.getName, p.dataSet.name]

/-- The variables that are defined for a data set: those of its entries, and its own. -/
def PlacedDataSet.variables (modelPrefix : Str) (p : PlacedDataSet) : List Str :=
  numberedNames (p.variableName modelPrefix) "fcda" p.dataSet.fcda.length ++
    [p.variableName modelPrefix]

section DataSets

variable {rt : Runtime} {modelPrefix v : Str} {devices : List LogicalDevice}
  {p : PlacedDataSet}

theorem PlacedDataSet.variableName_eq_pathVariable (modelPrefix : Str) (p : PlacedDataSet) :
    p.variableName modelPrefix = pathVariable (dataSetPrefix modelPrefix) p.path := by
  have hprefix : modelPrefix ++ lit "ds" = dataSetPrefix modelPrefix := rfl
  rw [PlacedDataSet.variableName, hprefix, joinName_eq_pathVariable p.device.inst,
    joinName_pathVariable, joinName_pathVariable]
  rfl

theorem flatMap_defines_printDataSet {next : Option Str} {items : List CItem}
    (h : printDataSet rt (p.variableName modelPrefix) next p = .ok items) :
    items.flatMap CItem.defines = p.variables modelPrefix := by
  obtain ⟨entries, hentries, h⟩ := bind_eq_ok.mp h
  obtain rfl := Except.ok.inj h
  have hkeys := (chain_entries (by omega) hentries).keys_eq
  rw [← List.range_eq_range'] at hkeys
  have hdeclared : ((List.range p.dataSet.fcda.length).map fun i =>
      CItem.externDeclaration ⟨.dataSetEntry, entryName (p.variableName modelPrefix) i⟩).flatMap
        CItem.defines = [] := by
    simp [CItem.defines]
  have hentry : ∀ e : DataSetEntryDefinition, (CItem.dataSetEntry e).defines = [e.entryName] :=
    fun _ => rfl
  rw [List.flatMap_append, List.flatMap_append, hdeclared, List.nil_append,
    flatMap_defines_map hentry, hkeys]
  rfl

theorem flatMap_defines_printPlacedDataSets {placed : List PlacedDataSet} {items : List CItem}
    (h : printPlacedDataSets rt (placed.map (PlacedDataSet.variableName modelPrefix)) placed =
      .ok items) :
    items.flatMap CItem.defines = placed.flatMap (PlacedDataSet.variables modelPrefix) := by
  induction placed generalizing items with
  | nil =>
      obtain rfl := Except.ok.inj h
      rfl
  | cons p rest ih =>
      obtain ⟨name, hname, h⟩ := bind_eq_ok.mp h
      obtain rfl := Except.ok.inj hname
      obtain ⟨own, hown, h⟩ := bind_eq_ok.mp h
      obtain ⟨others, hothers, h⟩ := bind_eq_ok.mp h
      obtain rfl := Except.ok.inj h
      rw [List.flatMap_append, flatMap_defines_printDataSet hown, ih hothers, List.flatMap_cons]

theorem flatMap_defines_printDataSets {items : List CItem}
    (h : printDataSets rt modelPrefix devices = .ok items) :
    items.flatMap CItem.defines =
      (placedDataSets devices).flatMap (PlacedDataSet.variables modelPrefix) := by
  obtain ⟨sets, hsets, h⟩ := bind_eq_ok.mp h
  have hdeclared : ((dataSetNames modelPrefix devices).map fun name =>
      CItem.externDeclaration ⟨.dataSet, name⟩).flatMap CItem.defines = [] := by
    simp [CItem.defines]
  rw [← Except.ok.inj h, List.flatMap_append, hdeclared,
    flatMap_defines_printPlacedDataSets hsets, List.nil_append]

/-- Nothing stands both below the prefix of data sets and below that of the model. -/
theorem not_below_of_below_dataSetPrefix {path path' : List Str}
    (hv : Below (dataSetPrefix modelPrefix) path v) : ¬ Below modelPrefix path' v := by
  rintro ⟨tail', -, hvariable⟩
  obtain ⟨tail, -, rfl⟩ := hv
  rw [pathVariable, pathVariable, dataSetPrefix, List.append_assoc] at hvariable
  have htails := List.append_cancel_left hvariable
  cases hmore : path' ++ tail' with
  | nil =>
      rw [hmore] at htails
      cases htails
  | cons name rest =>
      rw [hmore, joined_cons] at htails
      exact absurd (List.cons.inj htails).1 (by decide)

theorem below_of_mem_variables (hv : v ∈ p.variables modelPrefix) :
    Below (dataSetPrefix modelPrefix) p.path v := by
  rcases List.mem_append.mp hv with hv | hv
  · obtain ⟨i, -, rfl⟩ := List.mem_map.mp hv
    have hname : numberedName (p.variableName modelPrefix) "fcda" i =
        joinName (p.variableName modelPrefix) (lit "fcda" ++ itoa i) := rfl
    rw [hname, p.variableName_eq_pathVariable, joinName_pathVariable]
    apply (below_self ..).of_append
    exact unseparated_singleton.mpr (underscore_not_mem_kind (by decide) i)
  · rw [List.mem_singleton.mp hv, p.variableName_eq_pathVariable]
    exact below_self ..

theorem PlacedDataSet.nodup_variables (p : PlacedDataSet) :
    (p.variables modelPrefix).Nodup := by
  rw [PlacedDataSet.variables, List.nodup_append']
  refine ⟨nodup_numberedNames (by decide) _, List.nodup_singleton _, ?_⟩
  intro v hv hown
  obtain ⟨i, -, rfl⟩ := List.mem_map.mp hv
  have hlength := congrArg List.length (List.mem_singleton.mp hown)
  simp only [numberedName, List.length_append, List.length_cons] at hlength
  omega

theorem mem_placedDataSets :
    p ∈ placedDataSets devices ↔
      p.device ∈ devices ∧ p.node ∈ p.device.logicalNodes ∧ p.dataSet ∈ p.node.dataSets := by
  rw [placedDataSets, List.mem_flatMap]
  constructor
  · rintro ⟨device, hdevice, hp⟩
    obtain ⟨node, hnode, hp⟩ := List.mem_flatMap.mp hp
    obtain ⟨dataSet, hdataSet, rfl⟩ := List.mem_map.mp hp
    exact ⟨hdevice, hnode, hdataSet⟩
  · rintro ⟨hdevice, hnode, hdataSet⟩
    exact ⟨p.device, hdevice, List.mem_flatMap.mpr
      ⟨p.node, hnode, List.mem_map.mpr ⟨p.dataSet, hdataSet, rfl⟩⟩⟩

variable (h : DistinctDevices devices)

include h

theorem DistinctDevices.unseparated_dataSet (hp : p ∈ placedDataSets devices) :
    Unseparated p.path := by
  obtain ⟨hdevice, hnode, hdataSet⟩ := mem_placedDataSets.mp hp
  have hdistinct := h.nodes _ hdevice _ hnode
  exact List.forall_mem_cons.mpr ⟨(h.inst _ hdevice).1, List.forall_mem_cons.mpr
    ⟨hdistinct.name, unseparated_singleton.mpr (hdistinct.dataSets _ hdataSet)⟩⟩

theorem DistinctDevices.pairwise_placedDataSets :
    (placedDataSets devices).Pairwise fun p q => p.path ≠ q.path := by
  rw [placedDataSets, List.pairwise_flatMap]
  constructor
  · intro device hdevice
    rw [List.pairwise_flatMap]
    constructor
    · intro ln hln
      rw [List.pairwise_map]
      apply (List.pairwise_map.mp (h.nodes _ hdevice _ hln).dataSetNames).imp
      intro dataSet dataSet' hne hpath
      exact hne (List.cons.inj (List.cons.inj (List.cons.inj hpath).2).2).1
    · apply (List.pairwise_map.mp (h.nodeNames _ hdevice)).imp
      intro ln ln' hne p hp q hq hpath
      obtain ⟨dataSet, -, rfl⟩ := List.mem_map.mp hp
      obtain ⟨dataSet', -, rfl⟩ := List.mem_map.mp hq
      exact hne (List.cons.inj (List.cons.inj hpath).2).1
  · apply (List.pairwise_map.mp h.insts).imp
    intro device device' hne p hp q hq hpath
    obtain ⟨ln, -, hp⟩ := List.mem_flatMap.mp hp
    obtain ⟨dataSet, -, rfl⟩ := List.mem_map.mp hp
    obtain ⟨ln', -, hq⟩ := List.mem_flatMap.mp hq
    obtain ⟨dataSet', -, rfl⟩ := List.mem_map.mp hq
    exact hne (List.cons.inj hpath).1

theorem nodup_dataSetVariables :
    ((placedDataSets devices).flatMap (PlacedDataSet.variables modelPrefix)).Nodup := by
  apply @nodup_flatMap_below (dataSetPrefix modelPrefix) _ _ _ 3 _ h.pairwise_placedDataSets
  · exact fun p hp => h.unseparated_dataSet hp
  · exact fun p _ => rfl
  · exact fun p _ v hv => below_of_mem_variables hv
  · exact fun p _ => p.nodup_variables

end DataSets

/-! ## The file -/

section File

variable {rt : Runtime} {scl : SCL} {args : GeneratorArguments} {S : Selection scl args}
  {files : GeneratedFiles} {v : Str}

theorem RunStages.definedVariables_eq
    (R : RunStages (S.generator rt) args.outFileName S.logicalDevices files) :
    files.definedVariables =
      (placedDataSets S.logicalDevices).flatMap (PlacedDataSet.variables args.modelPrefix) ++
        (S.nodeNames rt ++ ((R.model.buffers.definedGroups.map Prod.snd).flatten ++
          [args.modelPrefix])) := by
  have hnode : ∀ d : NodeDefinition, (CItem.node d).defines = [d.variableName] := fun _ => rfl
  have hdataSets := flatMap_defines_printDataSets R.dataSets_eq
  rw [GeneratedFiles.definedVariables, R.c_eq]
  simp only [List.flatMap_append, List.flatMap_cons, List.flatMap_nil,
    hdataSets, flatMap_defines_map hnode, R.variableNames_eq, flatMap_defines_printBuffers]
  simp [CItem.defines, CItem.declares, printIedModel, Selection.generator]

/-- What a control block defines stands below the model prefix, and is not the model. -/
theorem GroupDefined.below_root {group : Str × List Str} (hgroup : GroupDefined S group)
    (h : DistinctDevices S.logicalDevices) (hv : v ∈ group.2) :
    Below args.modelPrefix [] v ∧ v ≠ args.modelPrefix := by
  obtain ⟨path, hpath, hbelow⟩ := hgroup.below v hv
  constructor
  · have hroot : Below args.modelPrefix ([] ++ path) v := hbelow
    exact hroot.of_append (hpath.unseparated h)
  · rintro rfl
    obtain ⟨tail, -, hvariable⟩ := hbelow
    have hlength := congrArg List.length hvariable
    have hpos : 0 < (joined '_' (path ++ tail)).length := by
      cases hmore : path ++ tail with
      | nil =>
          have hthree := hpath.length
          rw [(List.append_eq_nil_iff.mp hmore).1] at hthree
          cases hthree
      | cons name rest => simp
    rw [pathVariable, List.length_append] at hlength
    omega

theorem nodup_definedGroups (h : DistinctDevices S.logicalDevices)
    {groups : List (Str × List Str)} (hgroups : ∀ group ∈ groups, GroupDefined S group)
    (htags : groups.map Prod.fst = blockKinds.map Prod.fst) :
    (groups.map Prod.snd).flatten.Nodup := by
  have hkinds : (groups.map Prod.fst).Nodup := by
    rw [htags]
    decide
  rw [List.nodup_flatten]
  constructor
  · intro names hnames
    obtain ⟨group, hgroup, rfl⟩ := List.mem_map.mp hnames
    exact (hgroups group hgroup).nodup
  · rw [List.pairwise_map]
    apply (List.pairwise_map.mp hkinds).imp_of_mem
    intro group group' hgroup hgroup' hne v hv hv'
    obtain ⟨path, hpath, hbelow⟩ := (hgroups group hgroup).below v hv
    obtain ⟨path', hpath', hbelow'⟩ := (hgroups group' hgroup').below v hv'
    exact hne (hpath.tag_eq h hpath' hbelow hbelow')

end File

/-- Names without separators that are distinct below each parent give a file that defines
no variable twice: no device, node, data object, attribute, element of an array, data set,
entry, control block, address or log, and not the model. -/
theorem defined_variables_distinct {rt : Runtime} (P : ParsedModel rt)
    (args : GeneratorArguments) (S : Selection P.model args) (files : GeneratedFiles)
    (hgenerate : generate rt P.model args = .ok files)
    (hlength : args.modelPrefix.length = 8) (hfc : HasConstraints S.logicalDevices)
    (hdistinct : DistinctDevices S.logicalDevices) : files.definedVariables.Nodup := by
  obtain ⟨R⟩ := S.stages hgenerate
  obtain ⟨templates, -, hdevices⟩ := S.parsedDevices
  have hhand : DevicesHandDown S.logicalDevices := by
    intro p hp node hnode
    obtain ⟨hdevice, hln⟩ := mem_placedNodes.mp hp
    exact (hdevices.fcInherited hdevice hln node hnode).and (hfc _ hdevice _ hln node hnode)
  have hgroups := R.groupDefined hdistinct S.single
  have hgroup : ∀ v ∈ (R.model.buffers.definedGroups.map Prod.snd).flatten,
      ∃ group ∈ R.model.buffers.definedGroups, GroupDefined S group ∧ v ∈ group.2 := by
    intro v hv
    obtain ⟨names, hnames, hv⟩ := List.mem_flatten.mp hv
    obtain ⟨group, hmem, rfl⟩ := List.mem_map.mp hnames
    exact ⟨group, hmem, hgroups group hmem, hv⟩
  have hnodes : ∀ v ∈ S.nodeNames rt, Below args.modelPrefix [] v := fun v hv =>
    below_of_mem_nodes hlength hhand hdistinct hv
  rw [R.definedVariables_eq]
  apply List.nodup_append'.mpr
  refine ⟨nodup_dataSetVariables hdistinct, List.nodup_append'.mpr ⟨?_, ?_, ?_⟩, ?_⟩
  · exact nodup_namedDevices hlength hhand hdistinct
  · apply List.nodup_append'.mpr
    refine ⟨nodup_definedGroups hdistinct hgroups rfl, List.nodup_singleton _, ?_⟩
    intro v hv hmodel
    obtain ⟨group, -, hdefined, hv⟩ := hgroup v hv
    exact (hdefined.below_root hdistinct hv).2 (List.mem_singleton.mp hmodel)
  · intro v hv hrest
    rcases List.mem_append.mp hrest with hrest | hrest
    · obtain ⟨group, -, hdefined, hv'⟩ := hgroup v hrest
      obtain ⟨path, hpath, hbelow⟩ := hdefined.below v hv'
      exact not_below_block_of_mem_nodes hlength hhand hdistinct hpath hv hbelow
    · have hlt := length_lt_of_mem_nodeNames hv
      rw [List.mem_singleton.mp hrest] at hlt
      exact absurd hlt (lt_irrefl _)
  · intro v hv hrest
    obtain ⟨p, -, hv⟩ := List.mem_flatMap.mp hv
    have hapart : ¬ Below args.modelPrefix [] v :=
      not_below_of_below_dataSetPrefix (below_of_mem_variables hv)
    apply hapart
    rcases List.mem_append.mp hrest with hrest | hrest
    · exact hnodes v hrest
    · rcases List.mem_append.mp hrest with hrest | hrest
      · obtain ⟨group, -, hdefined, hv'⟩ := hgroup v hrest
        exact (hdefined.below_root hdistinct hv').1
      · rw [List.mem_singleton.mp hrest]
        have hself := below_self args.modelPrefix []
        rwa [pathVariable, joined_nil, List.append_nil] at hself

/-- A device with settings, two data sets and control blocks of every printed kind. -/
def fullDevice : LogicalDevice where
  inst := lit "LD1"
  ln0 := some {
    lnClass := lit "LLN0"
    lnType := lit "LN0T"
    dataSets := [
      { name := lit "dataset1", fcda := [measurementMember, measurementMember] },
      { name := lit "reserve" }]
    reportControlBlocks := [{ name := lit "events", rptEnabled := some { maxStr := lit "3" } }]
    logControlBlocks := [{ name := lit "eventLog" }]
    logs := [{}]
    smvControlBlocks := [
      { name := lit "sv1", smpModStr := lit "SmpPerSec", smvOpts := some {} }]
    settingGroupControlBlocks := [{ numOfSGs := 2 }] }

def fullDocument : SCL where
  ieds := (documentOf settingTemplates [fullDevice]).ieds
  dataTypeTemplates := some settingTemplates
  communication := some {
    subNetworks := [{ connectedAP := [stationConnectedAP (lit "IED1") (lit "0001")] }] }

def fullModel : ParsedModel plainRuntime :=
  ParsedModel.ofDocument plainRuntime 4 fullDocument (by decide +kernel)

theorem generate_fullModel : (generate plainRuntime fullModel.model {}).isOk = true := by
  decide +kernel

theorem selectedDevices_fullModel : (selectedDevices fullModel.model {}).isOk = true := by
  decide +kernel

theorem defined_variables_distinct_fullModel :
    ∃ files, generate plainRuntime fullModel.model {} = .ok files ∧
      files.definedVariables.Nodup := by
  have hgenerate := eq_ok_resultOf _ generate_fullModel
  obtain ⟨S, hdevices⟩ :=
    exists_selection_of_devices hgenerate (eq_ok_resultOf _ selectedDevices_fullModel)
  have hdistinct : DistinctDevices S.logicalDevices := by
    rw [hdevices]
    decide +kernel
  exact ⟨_, hgenerate, defined_variables_distinct fullModel {} S _ hgenerate (by decide)
    (hasConstraints_of_definitions S (by decide +kernel)) hdistinct⟩

end Iec61850.Scl
