import Iec61850.GeneratorRun

/-!
# Members of data sets

An FCDA designates a logical node by device instance, prefix, class and node
instance.  The entry which the generator prints for it is compared with the
name under which the model knows that node.
-/

namespace Iec61850.Scl

open Go

variable {rt : Runtime}

structure Designates (fcda : FCDA) (device : LogicalDevice) (ln : LogicalNode) : Prop where
  ldInst : fcda.ldInst = device.inst
  nodePrefix : fcda.nodePrefix = ln.nodePrefix
  lnClass : fcda.lnClass = ln.lnClass
  lnInst : fcda.lnInst = ln.inst

/-- The data object and, if there is one, the attribute, with `$` for `.`. -/
def memberPath (fcda : FCDA) : Str :=
  toMmsString
    (if fcda.daName = [] then fcda.doName else fcda.doName ++ '.' :: fcda.daName)

/-- The entry names the device and, under the node's own name, the member. -/
structure RefersTo (entry : DataSetEntryDefinition) (fcda : FCDA) (device : LogicalDevice)
    (ln : LogicalNode) : Prop where
  logicalDeviceName : entry.logicalDeviceName = device.inst
  variableName : entry.mmsVariableName =
    ln.getName ++ lit "$" ++ fcda.fc ++ lit "$" ++ memberPath fcda

/-- The members of all data sets of these devices, in document order. -/
def dataSetMembers (devices : List LogicalDevice) : List FCDA :=
  (placedDataSets devices).flatMap fun p => p.dataSet.fcda

/-! ## The printed entries -/

theorem fcdaVariableName_eq (fcda : FCDA) :
    fcdaVariableName fcda =
      fcda.nodePrefix ++ fcda.lnClass ++ fcda.ldInst ++
        (lit "$" ++ fcda.fc ++ lit "$" ++ memberPath fcda) := by
  by_cases hda : fcda.daName = []
  · simp [fcdaVariableName, memberPath, hda]
  · simp [fcdaVariableName, memberPath, toMmsString, replaceAll, hda, lit]

/-- What an entry holds of the FCDA it is printed for. -/
structure EntryOf (fcda : FCDA) (entry : DataSetEntryDefinition) : Prop where
  logicalDeviceName : entry.logicalDeviceName = fcda.ldInst
  variableName : entry.mmsVariableName = fcdaVariableName fcda

/-- The entry is printed for the FCDA, in some place of some data set. -/
def PrintedEntry (rt : Runtime) (fcda : FCDA) (entry : DataSetEntryDefinition) : Prop :=
  ∃ name n i, printDataSetEntry rt name n (fcda, i) = .ok entry

theorem PrintedEntry.entryOf {fcda : FCDA} {entry : DataSetEntryDefinition}
    (h : PrintedEntry rt fcda entry) : EntryOf fcda entry := by
  obtain ⟨name, n, i, h⟩ := h
  obtain ⟨⟨arrayIndex, componentName⟩, -, h⟩ := bind_eq_ok.mp h
  obtain rfl := Except.ok.inj h
  exact ⟨rfl, rfl⟩

theorem filterMap_dataSetEntry_map (entries : List DataSetEntryDefinition) :
    (entries.map CItem.dataSetEntry).filterMap CItem.dataSetEntry? = entries := by
  have hsome : CItem.dataSetEntry? ∘ CItem.dataSetEntry = some := rfl
  rw [List.filterMap_map, hsome, List.filterMap_some]

theorem printDataSet_entries {name : Str} {next : Option Str} {p : PlacedDataSet}
    {items : List CItem} (h : printDataSet rt name next p = .ok items) :
    List.Forall₂ (PrintedEntry rt) p.dataSet.fcda (items.filterMap CItem.dataSetEntry?) := by
  obtain ⟨entries, hentries, h⟩ := bind_eq_ok.mp h
  obtain rfl := Except.ok.inj h
  have hown : List.Forall₂ (fun numbered : FCDA × ℕ => PrintedEntry rt numbered.1)
      p.dataSet.fcda.zipIdx entries :=
    (mapM_eq_ok.mp hentries).imp fun numbered entry hentry => ⟨name, _, numbered.2, hentry⟩
  have hfcdas : List.Forall₂ (PrintedEntry rt) (p.dataSet.fcda.zipIdx.map Prod.fst) entries :=
    List.forall₂_map_left_iff.mpr hown
  rw [List.zipIdx_map_fst] at hfcdas
  have hdeclared : ∀ indices : List ℕ, (indices.map fun i =>
      CItem.externDeclaration ⟨.dataSetEntry, entryName name i⟩).filterMap
        CItem.dataSetEntry? = [] := by
    intro indices
    simp [List.filterMap_map, CItem.dataSetEntry?]
  have hset (d : DataSetDefinition) : CItem.dataSetEntry? (.dataSet d) = none := rfl
  simpa only [List.filterMap_append, hdeclared, filterMap_dataSetEntry_map, hset,
    List.filterMap_cons, List.filterMap_nil, List.nil_append, List.append_nil] using hfcdas

theorem printPlacedDataSets_entries {names : List Str} {placed : List PlacedDataSet}
    {items : List CItem} (h : printPlacedDataSets rt names placed = .ok items) :
    List.Forall₂ (PrintedEntry rt) (placed.flatMap fun p => p.dataSet.fcda)
      (items.filterMap CItem.dataSetEntry?) := by
  induction placed generalizing names items with
  | nil =>
      obtain rfl := Except.ok.inj h
      exact .nil
  | cons p rest ih =>
      obtain ⟨name, -, h⟩ := bind_eq_ok.mp h
      obtain ⟨own, hown, h⟩ := bind_eq_ok.mp h
      obtain ⟨others, hothers, h⟩ := bind_eq_ok.mp h
      obtain rfl := Except.ok.inj h
      rw [List.flatMap_cons, List.filterMap_append]
      exact List.rel_append (printDataSet_entries hown) (ih hothers)

theorem RunStages.dataSetEntries_eq {s : StaticModelGenerator} {outFileName : Str}
    {devices : List LogicalDevice} {files : GeneratedFiles}
    (R : RunStages s outFileName devices files) :
    files.dataSetEntries = R.dataSets.filterMap CItem.dataSetEntry? := by
  have hnodes (nodes : List NodeDefinition) :
      (nodes.map CItem.node).filterMap CItem.dataSetEntry? = [] := by
    simp [List.filterMap_map, CItem.dataSetEntry?]
  have hbuffers (names : VariableNames) (buffers : ControlBlockBuffers) :
      (printBuffers names buffers).filterMap CItem.dataSetEntry? = [] := by
    rw [List.filterMap_eq_nil_iff]
    intro item hitem
    cases item with
    | dataSetEntry d =>
        simp [printBuffers, externDeclarations, svItems, gseItems] at hitem
    | _ => rfl
  rw [GeneratedFiles.dataSetEntries, R.c_eq]
  simp [List.filterMap_cons, List.filterMap_append, hnodes, hbuffers, CItem.dataSetEntry?]

/-- The entries of a file are printed for the members one for one. -/
theorem RunStages.printedEntries {s : StaticModelGenerator} {outFileName : Str}
    {devices : List LogicalDevice} {files : GeneratedFiles}
    (R : RunStages s outFileName devices files) :
    List.Forall₂ (PrintedEntry s.rt) (dataSetMembers devices) files.dataSetEntries := by
  obtain ⟨sets, hsets, hitems⟩ := bind_eq_ok.mp R.dataSets_eq
  have hentries := printPlacedDataSets_entries hsets
  rw [R.dataSetEntries_eq, ← Except.ok.inj hitems, List.filterMap_append]
  have hdeclared : (List.map (fun name => CItem.externDeclaration ⟨.dataSet, name⟩)
      (dataSetNames s.modelPrefix devices)).filterMap CItem.dataSetEntry? = [] := by
    simp [List.filterMap_map, CItem.dataSetEntry?]
  rw [hdeclared]
  exact hentries

/-- The instance printed after the class is the one of the device, so the name
is that of the node only if the two instances are the same text. -/
theorem refersTo_iff {fcda : FCDA} {entry : DataSetEntryDefinition} {device : LogicalDevice}
    {ln : LogicalNode} (hentry : EntryOf fcda entry) (hnode : Designates fcda device ln) :
    RefersTo entry fcda device ln ↔ ln.inst = device.inst := by
  have hprinted : entry.mmsVariableName =
      ln.nodePrefix ++ ln.lnClass ++ device.inst ++
        (lit "$" ++ fcda.fc ++ lit "$" ++ memberPath fcda) := by
    rw [hentry.variableName, fcdaVariableName_eq, hnode.nodePrefix, hnode.lnClass,
      hnode.ldInst]
  have hintended : ln.getName ++ lit "$" ++ fcda.fc ++ lit "$" ++ memberPath fcda =
      ln.nodePrefix ++ ln.lnClass ++ ln.inst ++
        (lit "$" ++ fcda.fc ++ lit "$" ++ memberPath fcda) := by
    simp [LogicalNode.getName]
  constructor
  · intro hrefers
    have hsame := hrefers.variableName
    rw [hprinted, hintended] at hsame
    exact (List.append_cancel_left (List.append_cancel_right hsame)).symm
  · intro hinst
    refine ⟨hentry.logicalDeviceName.trans hnode.ldInst, ?_⟩
    rw [hprinted, hintended, hinst]

/-- For every member of every data set and every node it designates: the entry
printed for the member refers to that node if and only if the node and its
device have the same instance. -/
theorem dataSetEntries_refer_iff (P : ParsedModel rt) (args : GeneratorArguments)
    (S : Selection P.model args) (files : GeneratedFiles)
    (hgenerate : generate rt P.model args = .ok files) :
    List.Forall₂
      (fun fcda entry => ∀ device ln, Designates fcda device ln →
        (RefersTo entry fcda device ln ↔ ln.inst = device.inst))
      (dataSetMembers S.logicalDevices) files.dataSetEntries := by
  obtain ⟨R⟩ := S.stages hgenerate
  exact R.printedEntries.imp fun fcda entry hentry device ln hnode =>
    refersTo_iff hentry.entryOf hnode

/-- A device with a measurement node, and a data set with one of its values. -/
def measurementTemplates : DataTypeTemplates where
  logicalNodeTypes := [
    { id := lit "LN0T"
      dataObjectDefinitions := [{ name := lit "Mod", type := lit "INC" }] },
    { id := lit "MMXUT"
      dataObjectDefinitions := [{ name := lit "Mod", type := lit "INC" }] }]
  dataObjectTypes := [
    { id := lit "INC"
      dataAttributes := [{ name := lit "q", fc := lit "ST", bType := lit "Quality" }] }]

def measurementMember : FCDA where
  ldInst := lit "Inverter"
  lnClass := lit "MMXU"
  lnInst := lit "1"
  fc := lit "ST"
  doName := lit "Mod"
  daName := lit "q"

def measurementDevice : LogicalDevice where
  inst := lit "Inverter"
  ln0 := some {
    lnClass := lit "LLN0"
    lnType := lit "LN0T"
    dataSets := [{ name := lit "dataset1", fcda := [measurementMember] }] }
  lNodes := [{ lnClass := lit "MMXU", lnType := lit "MMXUT", inst := lit "1" }]

def measurementModel : ParsedModel plainRuntime :=
  ParsedModel.ofDocument plainRuntime 4 (documentOf measurementTemplates [measurementDevice])
    (by decide +kernel)

theorem generate_measurementModel :
    (generate plainRuntime measurementModel.model {}).isOk = true := by
  decide +kernel

theorem selectedDevices_measurementModel :
    (selectedDevices measurementModel.model {}).isOk = true := by
  decide +kernel

theorem dataSetEntries_refer_iff_measurementModel :
    ∃ S : Selection measurementModel.model {}, ∃ files,
      generate plainRuntime measurementModel.model {} = .ok files ∧
      List.Forall₂
        (fun fcda entry => ∀ device ln, Designates fcda device ln →
          (RefersTo entry fcda device ln ↔ ln.inst = device.inst))
        (dataSetMembers S.logicalDevices) files.dataSetEntries := by
  have hgenerate := eq_ok_resultOf _ generate_measurementModel
  obtain ⟨S⟩ := exists_selection_of_generate hgenerate
  exact ⟨S, _, hgenerate, dataSetEntries_refer_iff measurementModel {} S _ hgenerate⟩

/-- The member designates the node `MMXU1`, and its entry is printed under the
name `MMXUInverter$ST$Mod$q`. -/
theorem measurementMember_not_referred :
    ∃ S : Selection measurementModel.model {}, ∃ files,
      generate plainRuntime measurementModel.model {} = .ok files ∧
      ¬ List.Forall₂
        (fun fcda entry => ∀ device ∈ S.logicalDevices, ∀ ln ∈ device.logicalNodes,
          Designates fcda device ln → RefersTo entry fcda device ln)
        (dataSetMembers S.logicalDevices) files.dataSetEntries := by
  have hgenerate := eq_ok_resultOf _ generate_measurementModel
  obtain ⟨S, hdevices⟩ :=
    exists_selection_of_devices hgenerate (eq_ok_resultOf _ selectedDevices_measurementModel)
  refine ⟨S, _, hgenerate, fun hall => ?_⟩
  have hmembers : dataSetMembers S.logicalDevices = [measurementMember] := by
    rw [hdevices]
    decide +kernel
  have hnode : S.logicalDevices.any (fun device => device.logicalNodes.any fun ln =>
      device.inst = lit "Inverter" && ln.nodePrefix = [] && ln.lnClass = lit "MMXU" &&
        ln.inst = lit "1") = true := by
    rw [hdevices]
    decide +kernel
  have hentries : (resultOf _ generate_measurementModel).dataSetEntries.all
      (fun entry => entry.mmsVariableName ≠ lit "MMXU1$ST$Mod$q") = true := by
    decide +kernel
  simp only [List.any_eq_true, List.all_eq_true, Bool.and_eq_true, decide_eq_true_eq]
    at hnode hentries
  obtain ⟨device, hdevice, ln, hln, ⟨⟨hinst, hprefix⟩, hclass⟩, hlnInst⟩ := hnode
  rw [hmembers] at hall
  obtain ⟨entry, rest, hrefers, -, hfiles⟩ := List.forall₂_cons_left_iff.mp hall
  have hentry : entry ∈ (resultOf _ generate_measurementModel).dataSetEntries := by
    rw [hfiles]
    exact List.mem_cons_self ..
  have hname := (hrefers device hdevice ln hln
    ⟨hinst.symm, hprefix.symm, hclass.symm, hlnInst.symm⟩).variableName
  apply hentries entry hentry
  rw [hname]
  simp only [LogicalNode.getName, hprefix, hclass, hlnInst]
  decide

end Iec61850.Scl
