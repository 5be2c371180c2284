import Iec61850.ControlBlockChains
import Iec61850.DataSetMembers

/-!
# Chains of data sets and of their entries

The names of the data sets are listed before they are printed, and the names of
the entries are made where they are needed: for the declaration, for the
definition, for the pointer of the entry before it, and for the pointer of the
data set, which is printed whether or not there is a first entry.
-/

namespace Iec61850.Scl

open Go Linked

variable {rt : Runtime} {scl : SCL} {args : GeneratorArguments}

def CItem.dataSet? : CItem → Option DataSetDefinition
  | .dataSet d => some d
  | _ => none

def GeneratedFiles.dataSetDefinitions (files : GeneratedFiles) : List DataSetDefinition :=
  files.c.filterMap CItem.dataSet?

/-- The definition is that of this data set, and from its pointer the entries
printed for the members are visited, in their order. -/
structure GeneratedFiles.DefinesDataSet (files : GeneratedFiles) (p : PlacedDataSet)
    (d : DataSetDefinition) : Prop where
  logicalDeviceName : d.logicalDeviceName = p.device.inst
  name : d.name = p.node.getName ++ lit "$" ++ p.dataSet.name
  visits : ∃ entries,
    Visits DataSetEntryDefinition.entryName DataSetEntryDefinition.sibling
      files.dataSetEntries (some d.fcdas) entries ∧
    entries.length = d.elementCount ∧ List.Forall₂ EntryOf p.dataSet.fcda entries

/-- From the pointer of the model the data sets of the devices are visited, all
of them and in their order, and from each of them its entries. -/
def GeneratedFiles.DataSetsComplete (files : GeneratedFiles) (devices : List LogicalDevice) :
    Prop :=
  ∃ iedModel, files.iedModels = [iedModel] ∧
    Visits DataSetDefinition.dataSetName DataSetDefinition.sibling files.dataSetDefinitions
      iedModel.dataSets files.dataSetDefinitions ∧
    List.Forall₂ files.DefinesDataSet (placedDataSets devices) files.dataSetDefinitions

/-! ## One data set -/

theorem entryName_eq (dataSetVariableName : Str) (i : ℕ) :
    entryName dataSetVariableName i = numberedName dataSetVariableName "fcda" i := by
  simp [entryName, numberedName, lit]

/-- What is printed for a data set: its definition and its entries. -/
structure PrintedDataSet (modelPrefix : Str) (p : PlacedDataSet) (d : DataSetDefinition)
    (entries : List DataSetEntryDefinition) : Prop where
  logicalDeviceName : d.logicalDeviceName = p.device.inst
  name : d.name = p.node.getName ++ lit "$" ++ p.dataSet.name
  dataSetName : d.dataSetName = p.variableName modelPrefix
  elementCount : d.elementCount = p.dataSet.fcda.length
  fcdas : d.fcdas = numberedName (p.variableName modelPrefix) "fcda" 0
  entriesOf : List.Forall₂ EntryOf p.dataSet.fcda entries
  chain : Chain DataSetEntryDefinition.entryName DataSetEntryDefinition.sibling
    (numberedNames (p.variableName modelPrefix) "fcda" p.dataSet.fcda.length) entries
    (numberedNames (p.variableName modelPrefix) "fcda" p.dataSet.fcda.length).head?

/-- The entries from the `m`-th on; each points to the one after it, up to the
number of members. -/
theorem chain_entries {name : Str} {fcdas : List FCDA} {m count : ℕ}
    {entries : List DataSetEntryDefinition} (hcount : count = m + fcdas.length)
    (h : (fcdas.zipIdx m).mapM (printDataSetEntry rt name count) = .ok entries) :
    Chain DataSetEntryDefinition.entryName DataSetEntryDefinition.sibling
      ((List.range' m fcdas.length).map (numberedName name "fcda")) entries
      (if m < count then some (numberedName name "fcda" m) else none) := by
  induction fcdas generalizing m entries with
  | nil =>
      obtain rfl := Except.ok.inj h
      have hlast : ¬ m < count := by
        rw [hcount, List.length_nil]
        omega
      rw [if_neg hlast]
      exact chain_nil
  | cons fcda rest ih =>
      rw [List.zipIdx_cons, List.mapM_cons] at h
      obtain ⟨entry, hentry, h⟩ := bind_eq_ok.mp h
      obtain ⟨others, hothers, h⟩ := bind_eq_ok.mp h
      obtain rfl := Except.ok.inj h
      rw [List.length_cons] at hcount
      have hrest := ih (by omega) hothers
      obtain ⟨⟨arrayIndex, componentName⟩, -, hentry⟩ := bind_eq_ok.mp hentry
      obtain rfl := Except.ok.inj hentry
      have hmore : m < count := by omega
      rw [if_pos hmore, List.length_cons, List.range'_succ, List.map_cons]
      apply hrest.cons
      · exact entryName_eq name m
      · simp only [entryName_eq]

theorem printDataSet_printed {modelPrefix : Str} {next : Option Str} {p : PlacedDataSet}
    {items : List CItem}
    (h : printDataSet rt (p.variableName modelPrefix) next p = .ok items) :
    ∃ d entries, PrintedDataSet modelPrefix p d entries ∧ d.sibling = next ∧
      items.filterMap CItem.dataSet? = [d] ∧
      items.filterMap CItem.dataSetEntry? = entries := by
  have hentriesOf := (printDataSet_entries h).imp fun _ _ hentry => hentry.entryOf
  obtain ⟨entries, hentries, h⟩ := bind_eq_ok.mp h
  obtain rfl := Except.ok.inj h
  have hchain := chain_entries (by omega) hentries
  have hdeclared {γ : Type} (f : CItem → Option γ) (hf : ∀ e, f (.externDeclaration e) = none) :
      ((List.range p.dataSet.fcda.length).map fun i => CItem.externDeclaration
        ⟨.dataSetEntry, entryName (p.variableName modelPrefix) i⟩).filterMap f = [] := by
    simp [List.filterMap_map, hf]
  have hfound (d : DataSetDefinition) : ((List.range p.dataSet.fcda.length).map (fun i =>
        CItem.externDeclaration ⟨.dataSetEntry, entryName (p.variableName modelPrefix) i⟩) ++
      entries.map CItem.dataSetEntry ++ [CItem.dataSet d]).filterMap CItem.dataSetEntry? =
        entries := by
    rw [List.filterMap_append, List.filterMap_append, filterMap_dataSetEntry_map,
      hdeclared CItem.dataSetEntry? fun _ => rfl, List.nil_append]
    exact List.append_nil entries
  refine ⟨⟨p.variableName modelPrefix, p.device.inst, p.node.getName ++ lit "$" ++ p.dataSet.name,
    p.dataSet.fcda.length, entryName (p.variableName modelPrefix) 0, next⟩, entries, ?_, rfl, ?_,
    hfound _⟩
  · rw [hfound] at hentriesOf
    refine ⟨rfl, rfl, rfl, rfl, entryName_eq .., hentriesOf, ?_⟩
    rw [← List.range_eq_range'] at hchain
    exact ⟨hchain.keys_eq, hchain.pointsAlong, rfl⟩
  · rw [List.filterMap_append, List.filterMap_append, hdeclared CItem.dataSet? fun _ => rfl]
    simp [List.filterMap_map, CItem.dataSet?]

/-! ## All data sets -/

theorem printPlacedDataSets_printed {modelPrefix : Str} {placed : List PlacedDataSet}
    {items : List CItem}
    (h : printPlacedDataSets rt (placed.map (PlacedDataSet.variableName modelPrefix)) placed =
      .ok items) :
    ∃ printed : List (DataSetDefinition × List DataSetEntryDefinition),
      List.Forall₂ (fun p result => PrintedDataSet modelPrefix p result.1 result.2)
        placed printed ∧
      items.filterMap CItem.dataSet? = printed.map Prod.fst ∧
      items.filterMap CItem.dataSetEntry? = printed.flatMap Prod.snd ∧
      Chain DataSetDefinition.dataSetName DataSetDefinition.sibling
        (placed.map (PlacedDataSet.variableName modelPrefix)) (printed.map Prod.fst)
        (placed.map (PlacedDataSet.variableName modelPrefix)).head? := by
  induction placed generalizing items with
  | nil =>
      obtain rfl := Except.ok.inj h
      exact ⟨[], .nil, rfl, rfl, chain_nil⟩
  | cons p rest ih =>
      obtain ⟨name, hname, h⟩ := bind_eq_ok.mp h
      obtain rfl := Except.ok.inj hname
      obtain ⟨own, hown, h⟩ := bind_eq_ok.mp h
      obtain ⟨others, hothers, h⟩ := bind_eq_ok.mp h
      obtain rfl := Except.ok.inj h
      obtain ⟨printed, hprinted, hsets, hentries, hchain⟩ := ih hothers
      obtain ⟨d, entries, hd, hnext, hset, hown⟩ := printDataSet_printed hown
      refine ⟨(d, entries) :: printed, .cons hd hprinted, ?_, ?_, ?_⟩
      · rw [List.filterMap_append, hset, hsets]
        rfl
      · rw [List.filterMap_append, hown, hentries, List.flatMap_cons]
      · exact hchain.cons hd.dataSetName hnext

theorem RunStages.dataSetDefinitions_eq {s : StaticModelGenerator} {outFileName : Str}
    {devices : List LogicalDevice} {files : GeneratedFiles}
    (R : RunStages s outFileName devices files) :
    files.dataSetDefinitions = R.dataSets.filterMap CItem.dataSet? := by
  have hnodes (nodes : List NodeDefinition) :
      (nodes.map CItem.node).filterMap CItem.dataSet? = [] := by
    simp [List.filterMap_map, CItem.dataSet?]
  have hbuffers (names : VariableNames) (buffers : ControlBlockBuffers) :
      (printBuffers names buffers).filterMap CItem.dataSet? = [] := by
    rw [List.filterMap_eq_nil_iff]
    intro item hitem
    cases item with
    | dataSet d => simp [printBuffers, externDeclarations, svItems, gseItems] at hitem
    | _ => rfl
  rw [GeneratedFiles.dataSetDefinitions, R.c_eq]
  simp [List.filterMap_cons, List.filterMap_append, hnodes, hbuffers, CItem.dataSet?]

theorem RunStages.printedDataSets {s : StaticModelGenerator} {outFileName : Str}
    {devices : List LogicalDevice} {files : GeneratedFiles}
    (R : RunStages s outFileName devices files) :
    ∃ printed : List (DataSetDefinition × List DataSetEntryDefinition),
      List.Forall₂ (fun p result => PrintedDataSet s.modelPrefix p result.1 result.2)
        (placedDataSets devices) printed ∧
      files.dataSetDefinitions = printed.map Prod.fst ∧
      files.dataSetEntries = printed.flatMap Prod.snd ∧
      Chain DataSetDefinition.dataSetName DataSetDefinition.sibling
        (dataSetNames s.modelPrefix devices) files.dataSetDefinitions
        (dataSetNames s.modelPrefix devices).head? := by
  obtain ⟨items, hitems, hall⟩ := bind_eq_ok.mp R.dataSets_eq
  obtain ⟨printed, hprinted, hsets, hentries, hchain⟩ := printPlacedDataSets_printed hitems
  have hdefinitions : files.dataSetDefinitions = printed.map Prod.fst := by
    rw [R.dataSetDefinitions_eq, ← Except.ok.inj hall, List.filterMap_append, hsets]
    simp [List.filterMap_map, CItem.dataSet?]
  refine ⟨printed, hprinted, hdefinitions, ?_, ?_⟩
  · rw [R.dataSetEntries_eq, ← Except.ok.inj hall, List.filterMap_append, hentries]
    simp [List.filterMap_map, CItem.dataSetEntry?]
  · rw [hdefinitions]
    exact hchain

/-! ## When the chains are complete -/

theorem map_entryName_flatMap {modelPrefix : Str} {placed : List PlacedDataSet}
    {printed : List (DataSetDefinition × List DataSetEntryDefinition)}
    (h : List.Forall₂ (fun p result => PrintedDataSet modelPrefix p result.1 result.2)
      placed printed) :
    (printed.flatMap Prod.snd).map DataSetEntryDefinition.entryName =
      placed.flatMap fun p =>
        numberedNames (p.variableName modelPrefix) "fcda" p.dataSet.fcda.length := by
  induction h with
  | nil => rfl
  | cons hfirst _ ih =>
      rw [List.flatMap_cons, List.map_append, ih, hfirst.chain.keys_eq, List.flatMap_cons]

theorem PrintedDataSet.definesDataSet {modelPrefix : Str} {files : GeneratedFiles}
    {p : PlacedDataSet} {d : DataSetDefinition} {entries : List DataSetEntryDefinition}
    (h : PrintedDataSet modelPrefix p d entries) (hfcda : p.dataSet.fcda ≠ [])
    (hsubset : entries ⊆ files.dataSetEntries)
    (hnodup : (files.dataSetEntries.map DataSetEntryDefinition.entryName).Nodup) :
    files.DefinesDataSet p d where
  logicalDeviceName := h.logicalDeviceName
  name := h.name
  visits := by
    have hhead : (numberedNames (p.variableName modelPrefix) "fcda"
        p.dataSet.fcda.length).head? = some d.fcdas := by
      have hpos : p.dataSet.fcda.length ≠ 0 := by simpa using hfcda
      rw [h.fcdas, numberedNames, List.head?_map, List.head?_range, if_neg hpos,
        Option.map_some]
    have hvisits := h.chain.visits_of_subset hsubset hnodup
    rw [hhead] at hvisits
    refine ⟨entries, hvisits, ?_, h.entriesOf⟩
    rw [h.elementCount]
    exact h.entriesOf.length_eq.symm

/-- A data set without members points to an entry all the same. -/
theorem GeneratedFiles.DefinesDataSet.fcda_ne_nil {files : GeneratedFiles} {p : PlacedDataSet}
    {d : DataSetDefinition} (h : files.DefinesDataSet p d) : p.dataSet.fcda ≠ [] := by
  intro hnil
  obtain ⟨entries, hvisits, -, hentries⟩ := h.visits
  rw [hnil] at hentries
  cases hentries
  cases hvisits

theorem data_sets_complete_iff (P : ParsedModel rt) (args : GeneratorArguments)
    (S : Selection P.model args) (files : GeneratedFiles)
    (hgenerate : generate rt P.model args = .ok files) :
    files.DataSetsComplete S.logicalDevices ↔
      (∀ p ∈ placedDataSets S.logicalDevices, p.dataSet.fcda ≠ []) ∧
      ((placedDataSets S.logicalDevices).map
        (PlacedDataSet.variableName args.modelPrefix)).Nodup := by
  obtain ⟨R⟩ := S.stages hgenerate
  obtain ⟨printed, hprinted, hsets, hentries, hchain⟩ := R.printedDataSets
  constructor
  · rintro ⟨iedModel, hmodel, hvisits, hall⟩
    rw [R.iedModels_eq, List.cons.injEq] at hmodel
    rw [← hmodel.1] at hvisits
    refine ⟨?_, hchain.visits_iff.mp hvisits⟩
    intro p hp
    obtain ⟨d, -, hd⟩ := exists_mem_of_forall₂ hall hp
    exact hd.fcda_ne_nil
  · rintro ⟨hfcda, hnodup⟩
    refine ⟨_, R.iedModels_eq, hchain.visits_iff.mpr hnodup, ?_⟩
    have hnames : (files.dataSetEntries.map DataSetEntryDefinition.entryName).Nodup := by
      rw [hentries, map_entryName_flatMap hprinted, nodup_flatMap_numberedNames (by decide)]
      exact hnodup.sublist (List.filter_sublist.map _)
    rw [hsets, List.forall₂_map_right_iff]
    have hmem : ∀ p ∈ placedDataSets S.logicalDevices, ∀ result ∈ printed,
        PrintedDataSet args.modelPrefix p result.1 result.2 →
          files.DefinesDataSet p result.1 := by
      intro p hp result hresult hown
      apply hown.definesDataSet (hfcda p hp) _ hnames
      rw [hentries]
      intro entry hentry
      exact List.mem_flatMap.mpr ⟨result, hresult, hentry⟩
    exact forall₂_imp_of_mem hprinted hmem

/-- A device with a data set that has no members. -/
def reserveDevice : LogicalDevice where
  inst := lit "Inverter"
  ln0 := some {
    lnClass := lit "LLN0"
    lnType := lit "LN0T"
    dataSets := [
      { name := lit "dataset1", fcda := [measurementMember, measurementMember] },
      { name := lit "reserve" }] }
  lNodes := [{ lnClass := lit "MMXU", lnType := lit "MMXUT", inst := lit "1" }]

def reserveModel : ParsedModel plainRuntime :=
  ParsedModel.ofDocument plainRuntime 4 (documentOf measurementTemplates [reserveDevice])
    (by decide +kernel)

theorem generate_reserveModel : (generate plainRuntime reserveModel.model {}).isOk = true := by
  decide +kernel

theorem selectedDevices_reserveModel :
    (selectedDevices reserveModel.model {}).isOk = true := by
  decide +kernel

theorem data_sets_complete_iff_reserveModel :
    ∃ S : Selection reserveModel.model {}, ∃ files,
      generate plainRuntime reserveModel.model {} = .ok files ∧
      (files.DataSetsComplete S.logicalDevices ↔
        (∀ p ∈ placedDataSets S.logicalDevices, p.dataSet.fcda ≠ []) ∧
        ((placedDataSets S.logicalDevices).map
          (PlacedDataSet.variableName (lit "iedModel"))).Nodup) := by
  have hgenerate := eq_ok_resultOf _ generate_reserveModel
  obtain ⟨S⟩ := exists_selection_of_generate hgenerate
  exact ⟨S, _, hgenerate, data_sets_complete_iff reserveModel {} S _ hgenerate⟩

/-- The data set `reserve` points to an entry that is not there. -/
theorem reserveModel_data_sets_not_complete :
    ∃ S : Selection reserveModel.model {}, ∃ files,
      generate plainRuntime reserveModel.model {} = .ok files ∧
      ¬ files.DataSetsComplete S.logicalDevices := by
  have hgenerate := eq_ok_resultOf _ generate_reserveModel
  obtain ⟨S, hdevices⟩ :=
    exists_selection_of_devices hgenerate (eq_ok_resultOf _ selectedDevices_reserveModel)
  refine ⟨S, _, hgenerate, ?_⟩
  rintro ⟨iedModel, -, -, hall⟩
  have hempty : (placedDataSets S.logicalDevices).any (fun p => p.dataSet.fcda = []) = true := by
    rw [hdevices]
    decide +kernel
  obtain ⟨p, hp, hnil⟩ := List.any_eq_true.mp hempty
  obtain ⟨d, -, hd⟩ := exists_mem_of_forall₂ hall hp
  exact hd.fcda_ne_nil (of_decide_eq_true hnil)

end Iec61850.Scl
