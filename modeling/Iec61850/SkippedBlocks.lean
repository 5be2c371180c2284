import Iec61850.ControlBlockChains

/-!
# Control blocks that are listed and not printed

Every GOOSE control block and every setting group of the model has a name in
the lists from which the pointers and the `extern` declarations are made.  A
GOOSE control block without a `GSE` element is not printed, and of the setting
groups of a logical node only the first is.  The chains are complete exactly
where nothing has been left out.
-/

namespace Iec61850.Scl

open Go Linked

variable {rt : Runtime} {scl : SCL} {args : GeneratorArguments}

/-! ## Lengths -/

theorem length_flatMap_of_le {α β : Type} {f g : α → List β} {xs : List α}
    (hle : ∀ x ∈ xs, (f x).length ≤ (g x).length) :
    (xs.flatMap f).length ≤ (xs.flatMap g).length ∧
      ((xs.flatMap f).length = (xs.flatMap g).length →
        ∀ x ∈ xs, (f x).length = (g x).length) := by
  induction xs with
  | nil => simp
  | cons x rest ih =>
      obtain ⟨hfirst, hrest⟩ := List.forall_mem_cons.mp hle
      obtain ⟨hlength, hsame⟩ := ih hrest
      simp only [List.flatMap_cons, List.length_append, List.forall_mem_cons]
      refine ⟨by omega, fun heq => ⟨by omega, ?_⟩⟩
      apply hsame
      omega

/-! ## Declarations -/

def CItem.externNamed? (type : DeclaredType) : CItem → Option Str
  | .externDeclaration d => if d.type = type then some d.name else none
  | _ => none

/-- The variables declared `extern` with this type, in the order of the file. -/
def GeneratedFiles.externNames (files : GeneratedFiles) (type : DeclaredType) : List Str :=
  files.c.filterMap (CItem.externNamed? type)

def DeclaredType.ofDataSets : DeclaredType → Bool
  | .dataSet | .dataSetEntry => true
  | _ => false

theorem externNamed_printPlacedDataSets {type : DeclaredType} (htype : type.ofDataSets = false)
    {names : List Str} {placed : List PlacedDataSet} {items : List CItem}
    (h : printPlacedDataSets rt names placed = .ok items) :
    items.filterMap (CItem.externNamed? type) = [] := by
  have hentry : DeclaredType.dataSetEntry ≠ type := by
    rintro rfl
    cases htype
  induction placed generalizing names items with
  | nil =>
      obtain rfl := Except.ok.inj h
      rfl
  | cons p rest ih =>
      obtain ⟨name, -, h⟩ := bind_eq_ok.mp h
      obtain ⟨own, hown, h⟩ := bind_eq_ok.mp h
      obtain ⟨others, hothers, h⟩ := bind_eq_ok.mp h
      obtain rfl := Except.ok.inj h
      obtain ⟨entries, -, hown⟩ := bind_eq_ok.mp hown
      rw [List.filterMap_append, ih hothers, ← Except.ok.inj hown]
      simp [List.filterMap_append, List.filterMap_map, CItem.externNamed?, hentry]

theorem externNamed_externDeclarations (type other : DeclaredType) (names : List Str) :
    (externDeclarations other names).filterMap (CItem.externNamed? type) =
      if other = type then names else [] := by
  unfold externDeclarations
  rw [List.filterMap_map]
  by_cases h : other = type
  · simp [CItem.externNamed?, h]
  · simp [CItem.externNamed?, h]

/-- Of the types that are not for data sets, the file declares what is declared
before the buffers. -/
theorem RunStages.externNames_eq {s : StaticModelGenerator} {outFileName : Str}
    {devices : List LogicalDevice} {files : GeneratedFiles}
    (R : RunStages s outFileName devices files) {type : DeclaredType}
    (htype : type.ofDataSets = false) :
    files.externNames type =
      (printBuffers (createLNSubVariableList s.modelPrefix devices) R.model.buffers).filterMap
        (CItem.externNamed? type) := by
  have hset : DeclaredType.dataSet ≠ type := by
    rintro rfl
    cases htype
  have hsets : R.dataSets.filterMap (CItem.externNamed? type) = [] := by
    obtain ⟨items, hitems, hall⟩ := bind_eq_ok.mp R.dataSets_eq
    rw [← Except.ok.inj hall, List.filterMap_append,
      externNamed_printPlacedDataSets htype hitems]
    simp [List.filterMap_map, CItem.externNamed?, hset]
  have hnodes (nodes : List NodeDefinition) :
      (nodes.map CItem.node).filterMap (CItem.externNamed? type) = [] := by
    simp [List.filterMap_map, CItem.externNamed?]
  rw [GeneratedFiles.externNames, R.c_eq]
  simp [List.filterMap_cons, List.filterMap_append, hsets, hnodes, CItem.externNamed?]

theorem externNamed_printBuffers (type : DeclaredType) (names : VariableNames)
    (buffers : ControlBlockBuffers) :
    (printBuffers names buffers).filterMap (CItem.externNamed? type) =
      ((externDeclarations .reportControlBlock names.rcb ++
        externDeclarations .svControlBlock names.smv ++
        externDeclarations .gseControlBlock names.gse ++
        externDeclarations .settingGroupControlBlock names.sgcb ++
        externDeclarations .logControlBlock names.lcb ++
        externDeclarations .log names.log).filterMap (CItem.externNamed? type)) := by
  have hsv (ds : List SVControlBlockDefinition) :
      (ds.flatMap svItems).filterMap (CItem.externNamed? type) = [] := by
    rw [List.filterMap_eq_nil_iff]
    intro item hitem
    obtain ⟨d, -, hd⟩ := List.mem_flatMap.mp hitem
    cases item with
    | externDeclaration e => simp [svItems] at hd
    | _ => rfl
  have hgse (ds : List GSEControlBlockDefinition) :
      (ds.flatMap gseItems).filterMap (CItem.externNamed? type) = [] := by
    rw [List.filterMap_eq_nil_iff]
    intro item hitem
    obtain ⟨d, -, hd⟩ := List.mem_flatMap.mp hitem
    cases item with
    | externDeclaration e => simp [gseItems] at hd
    | _ => rfl
  simp [printBuffers, List.filterMap_append, List.filterMap_map, hsv, hgse,
    CItem.externNamed?, Function.comp_def]

theorem RunStages.externNames_gse {s : StaticModelGenerator} {outFileName : Str}
    {devices : List LogicalDevice} {files : GeneratedFiles}
    (R : RunStages s outFileName devices files) :
    files.externNames .gseControlBlock = (createLNSubVariableList s.modelPrefix devices).gse := by
  rw [R.externNames_eq rfl, externNamed_printBuffers]
  simp [List.filterMap_append, externNamed_externDeclarations]

theorem RunStages.externNames_sgcb {s : StaticModelGenerator} {outFileName : Str}
    {devices : List LogicalDevice} {files : GeneratedFiles}
    (R : RunStages s outFileName devices files) :
    files.externNames .settingGroupControlBlock =
      (createLNSubVariableList s.modelPrefix devices).sgcb := by
  rw [R.externNames_eq rfl, externNamed_printBuffers]
  simp [List.filterMap_append, externNamed_externDeclarations]

/-- The variables of the nodes that have control elements of a kind. -/
def blockOwners {α : Type} (controls : LogicalNode → List α) (modelPrefix : Str)
    (devices : List LogicalDevice) : List Str :=
  ((placedNodes devices).filter fun p => (controls p.node).length ≠ 0).map
    (PlacedNode.variableName modelPrefix)

/-! ## GOOSE control blocks -/

/-- From the pointer of the model the GOOSE control blocks of the file are
visited, all of them and in their order, and every declared one is defined. -/
def GeneratedFiles.GseChainComplete (files : GeneratedFiles) : Prop :=
  ∃ iedModel, files.iedModels = [iedModel] ∧
    Visits GSEControlBlockDefinition.blockName GSEControlBlockDefinition.sibling
      files.gseControlBlocks iedModel.gseCBs files.gseControlBlocks ∧
    ∀ name ∈ files.externNames .gseControlBlock,
      ∃ block ∈ files.gseControlBlocks, block.blockName = name

variable {S : Selection scl args}

/-- The variables of the GOOSE control blocks that are printed. -/
def Selection.printedGseNames (S : Selection scl args) : List Str :=
  (placedNodes S.logicalDevices).flatMap fun p =>
    numberedNames (p.variableName args.modelPrefix) "gse"
      (p.node.gseControlBlocks.countP fun control =>
        (S.locatedGSE p.device control.name).isSome)

theorem gseNames_eq (modelPrefix : Str) (devices : List LogicalDevice) :
    (createLNSubVariableList modelPrefix devices).gse =
      (placedNodes devices).flatMap fun p =>
        numberedNames (p.variableName modelPrefix) "gse" p.node.gseControlBlocks.length := by
  rw [createLNSubVariableList_eq,
    projection_foldr_append (f := VariableNames.gse) rfl fun _ _ => rfl, List.flatMap_map]
  rfl

theorem nodup_gseNames_iff (modelPrefix : Str) (devices : List LogicalDevice) :
    (createLNSubVariableList modelPrefix devices).gse.Nodup ↔
      (blockOwners LogicalNode.gseControlBlocks modelPrefix devices).Nodup := by
  rw [gseNames_eq, nodup_flatMap_numberedNames (by decide)]
  rfl

theorem length_printedGseNames_le (p : PlacedNode) :
    (numberedNames (p.variableName args.modelPrefix) "gse"
      (p.node.gseControlBlocks.countP fun control =>
        (S.locatedGSE p.device control.name).isSome)).length ≤
    (numberedNames (p.variableName args.modelPrefix) "gse"
      p.node.gseControlBlocks.length).length := by
  rw [length_numberedNames, length_numberedNames]
  exact List.countP_le_length

theorem gse_located_of_length_eq
    (h : S.printedGseNames.length =
      (createLNSubVariableList args.modelPrefix S.logicalDevices).gse.length) :
    ∀ p ∈ placedNodes S.logicalDevices, ∀ control ∈ p.node.gseControlBlocks,
      (S.locatedGSE p.device control.name).isSome := by
  rw [gseNames_eq] at h
  intro p hp
  have hlength := (length_flatMap_of_le fun p _ => length_printedGseNames_le p).2 h p hp
  rw [length_numberedNames, length_numberedNames] at hlength
  exact List.countP_eq_length.mp hlength

theorem printedGseNames_eq_iff :
    S.printedGseNames = (createLNSubVariableList args.modelPrefix S.logicalDevices).gse ↔
      ∀ p ∈ placedNodes S.logicalDevices, ∀ control ∈ p.node.gseControlBlocks,
        (S.locatedGSE p.device control.name).isSome := by
  constructor
  · intro h
    exact gse_located_of_length_eq (congrArg List.length h)
  · intro hlocated
    rw [gseNames_eq]
    apply List.flatMap_congr
    intro p hp
    rw [List.countP_eq_length.mpr (hlocated p hp)]

theorem gse_chain_complete_iff (P : ParsedModel rt) (args : GeneratorArguments)
    (S : Selection P.model args) (files : GeneratedFiles)
    (hgenerate : generate rt P.model args = .ok files) :
    files.GseChainComplete ↔
      (∀ p ∈ placedNodes S.logicalDevices, ∀ control ∈ p.node.gseControlBlocks,
        (S.locatedGSE p.device control.name).isSome) ∧
      (blockOwners LogicalNode.gseControlBlocks args.modelPrefix S.logicalDevices).Nodup := by
  obtain ⟨R⟩ := S.stages hgenerate
  have hgrows := (R.adds S.single).gse
  rw [projection_foldr_append (f := VariableNames.gse) rfl fun _ _ => rfl,
    List.flatMap_map, ← R.gseControlBlocks_eq] at hgrows
  change Grows _ _ _ S.printedGseNames [] _ at hgrows
  have hle : S.printedGseNames.length ≤
      (createLNSubVariableList args.modelPrefix S.logicalDevices).gse.length := by
    rw [gseNames_eq]
    exact (length_flatMap_of_le fun p _ => length_printedGseNames_le p).1
  have hvisits := hgrows.visits_iff rfl hle fun h =>
    printedGseNames_eq_iff.mpr (gse_located_of_length_eq h)
  rw [printedGseNames_eq_iff, nodup_gseNames_iff] at hvisits
  constructor
  · rintro ⟨iedModel, hmodel, hcomplete, -⟩
    rw [R.iedModels_eq, List.cons.injEq] at hmodel
    rw [← hmodel.1] at hcomplete
    exact hvisits.mp hcomplete
  · intro hcondition
    refine ⟨_, R.iedModels_eq, hvisits.mpr hcondition, ?_⟩
    intro name hname
    have hprinted : name ∈ files.gseControlBlocks.map GSEControlBlockDefinition.blockName := by
      rw [hgrows.keys_eq, printedGseNames_eq_iff.mpr hcondition.1]
      rw [R.externNames_gse] at hname
      exact hname
    exact List.mem_map.mp hprinted

/-- The GOOSE control block of the bay has no `GSE` element. -/
theorem gse_chain_complete_iff_bayModel :
    ∃ S : Selection bayModel.model {}, ∃ files,
      generate plainRuntime bayModel.model {} = .ok files ∧
      (files.GseChainComplete ↔
        (∀ p ∈ placedNodes S.logicalDevices, ∀ control ∈ p.node.gseControlBlocks,
          (S.locatedGSE p.device control.name).isSome) ∧
        (blockOwners LogicalNode.gseControlBlocks (lit "iedModel") S.logicalDevices).Nodup) := by
  have hgenerate := eq_ok_resultOf _ generate_bayModel
  obtain ⟨S⟩ := exists_selection_of_generate hgenerate
  exact ⟨S, _, hgenerate, gse_chain_complete_iff bayModel {} S _ hgenerate⟩

theorem bayModel_gse_not_complete :
    ∃ files, generate plainRuntime bayModel.model {} = .ok files ∧
      ¬ files.GseChainComplete := by
  refine ⟨_, eq_ok_resultOf _ generate_bayModel, ?_⟩
  rintro ⟨iedModel, -, -, hdefined⟩
  have hdeclared : lit "iedModel_LD1_LLN0_gse0" ∈
      (resultOf _ generate_bayModel).externNames .gseControlBlock := by
    decide +kernel
  obtain ⟨block, hblock, -⟩ := hdefined _ hdeclared
  have hprinted : (resultOf _ generate_bayModel).gseControlBlocks = [] := by decide +kernel
  rw [hprinted] at hblock
  cases hblock

/-! ## Setting groups -/

def GeneratedFiles.SettingGroupChainComplete (files : GeneratedFiles) : Prop :=
  ∃ iedModel, files.iedModels = [iedModel] ∧
    VisitsEach SettingGroupControlBlockDefinition.blockName
      SettingGroupControlBlockDefinition.sibling files.settingGroupControlBlocks
      iedModel.sgcbs ∧
    ∀ name ∈ files.externNames .settingGroupControlBlock,
      ∃ block ∈ files.settingGroupControlBlocks, block.blockName = name

theorem settingGroupNames_eq (modelPrefix : Str) (devices : List LogicalDevice) :
    (createLNSubVariableList modelPrefix devices).sgcb =
      (placedNodes devices).flatMap fun p =>
        (createLNVariableNames (p.variableName modelPrefix) p.node).sgcb := by
  rw [createLNSubVariableList_eq,
    projection_foldr_append (f := VariableNames.sgcb) rfl fun _ _ => rfl, List.flatMap_map]

/-- The variables of the setting groups that are printed. -/
def printedSettingGroupNames (modelPrefix : Str) (devices : List LogicalDevice) : List Str :=
  (placedNodes devices).flatMap fun p =>
    (createLNVariableNames (p.variableName modelPrefix) p.node).sgcb.take 1

/-- There is one for each owner. -/
theorem printedSettingGroupNames_eq (modelPrefix : Str) (devices : List LogicalDevice) :
    printedSettingGroupNames modelPrefix devices =
      (blockOwners LogicalNode.settingGroupControlBlocks modelPrefix devices).map
        (· ++ lit "_sgcb") := by
  unfold printedSettingGroupNames blockOwners
  induction placedNodes devices with
  | nil => rfl
  | cons p rest ih =>
      rw [List.flatMap_cons, ih]
      cases hcontrols : p.node.settingGroupControlBlocks with
      | nil => simp [createLNVariableNames, hcontrols]
      | cons sgcb others => simp [createLNVariableNames, hcontrols]

theorem length_take_one_le (names : List Str) : (names.take 1).length ≤ names.length := by
  rw [List.length_take]
  exact Nat.min_le_right ..

theorem settingGroups_single_of_length_eq {modelPrefix : Str} {devices : List LogicalDevice}
    (h : (printedSettingGroupNames modelPrefix devices).length =
      (createLNSubVariableList modelPrefix devices).sgcb.length) :
    ∀ p ∈ placedNodes devices, p.node.settingGroupControlBlocks.length ≤ 1 := by
  rw [settingGroupNames_eq] at h
  intro p hp
  have hlength := (length_flatMap_of_le fun p _ => length_take_one_le _).2 h p hp
  rw [List.length_take, createLNVariableNames, List.length_map] at hlength
  omega

theorem printedSettingGroupNames_eq_iff {modelPrefix : Str} {devices : List LogicalDevice} :
    printedSettingGroupNames modelPrefix devices =
      (createLNSubVariableList modelPrefix devices).sgcb ↔
    ∀ p ∈ placedNodes devices, p.node.settingGroupControlBlocks.length ≤ 1 := by
  constructor
  · intro h
    exact settingGroups_single_of_length_eq (congrArg List.length h)
  · intro hsingle
    rw [settingGroupNames_eq]
    apply List.flatMap_congr
    intro p hp
    apply List.take_of_length_le
    rw [createLNVariableNames, List.length_map]
    exact hsingle p hp

end Iec61850.Scl
