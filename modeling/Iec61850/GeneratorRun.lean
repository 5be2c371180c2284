import Iec61850.ParsedModel
import Iec61850.StaticModelGenerator

/-!
# Runs of the generator

What a run of `Generate` works on, the stages a run that writes its files has
gone through, and how the definitions and the buffers grow from one logical
node to the next.
-/

namespace Iec61850.Scl

open Go

/-- The IED, the access point and the devices that the arguments select. -/
structure Selection (scl : SCL) (args : GeneratorArguments) where
  ied : IED
  accessPoint : AccessPoint
  logicalDevices : List LogicalDevice
  selectIed_eq : selectIed scl args.iedName = .ok (some ied)
  selectAccessPoint_eq : selectAccessPoint ied args.apName = .ok (some accessPoint)
  server_eq : accessPoint.server = some ⟨logicalDevices⟩

variable {rt : Runtime} {scl : SCL} {args : GeneratorArguments}

def Selection.connectedAP (S : Selection scl args) : Option ConnectedAP :=
  scl.communication.bind fun communication =>
    communication.getConnectedAP S.accessPoint.name

def Selection.generator (S : Selection scl args) (rt : Runtime) : StaticModelGenerator where
  rt := rt
  scl := scl
  modelPrefix := args.modelPrefix
  initializeOnce := args.initializeOnce
  ied := S.ied
  accessPoint := S.accessPoint
  connectedAP := S.connectedAP

theorem Selection.generate_eq (S : Selection scl args) :
    generate rt scl args = (S.generator rt).print args.outFileName := by
  unfold generate
  rw [S.selectIed_eq, ok_bind]
  simp only
  rw [S.selectAccessPoint_eq, ok_bind]
  rfl

theorem deref_eq_ok {α : Type} {a? : Option α} {a : α} :
    deref a? = .ok a ↔ a? = some a := by
  cases a? with
  | none => simp [deref]
  | some b => simp [deref]

theorem exists_selection_of_generate {files : GeneratedFiles}
    (h : generate rt scl args = .ok files) : Nonempty (Selection scl args) := by
  unfold generate at h
  obtain ⟨ied?, hied, h⟩ := bind_eq_ok.mp h
  cases ied? with
  | none => cases h
  | some ied =>
      obtain ⟨selected, hselected, h⟩ := bind_eq_ok.mp h
      obtain ⟨ap, hap, h⟩ := bind_eq_ok.mp h
      obtain ⟨server, hserver, -⟩ := bind_eq_ok.mp h
      obtain rfl := deref_eq_ok.mp hap
      exact ⟨{
        ied := ied
        accessPoint := ap
        logicalDevices := server.logicalDevices
        selectIed_eq := hied
        selectAccessPoint_eq := hselected
        server_eq := deref_eq_ok.mp hserver }⟩

/-- The devices the arguments select, for documents that can be evaluated. -/
def selectedDevices (scl : SCL) (args : GeneratorArguments) : Outcome (List LogicalDevice) := do
  let ied ← selectIed scl args.iedName
  let ied ← deref ied
  let accessPoint ← selectAccessPoint ied args.apName
  let accessPoint ← deref accessPoint
  let server ← deref accessPoint.server
  pure server.logicalDevices

theorem Selection.selectedDevices_eq (S : Selection scl args) :
    selectedDevices scl args = .ok S.logicalDevices := by
  simp [selectedDevices, S.selectIed_eq, S.selectAccessPoint_eq, S.server_eq, deref]

theorem exists_selection_of_devices {rt : Runtime} {files : GeneratedFiles}
    {devices : List LogicalDevice} (hgenerate : generate rt scl args = .ok files)
    (hdevices : selectedDevices scl args = .ok devices) :
    ∃ S : Selection scl args, S.logicalDevices = devices := by
  obtain ⟨S⟩ := exists_selection_of_generate hgenerate
  have hsame := S.selectedDevices_eq.symm.trans hdevices
  exact ⟨S, Except.ok.inj hsame⟩

theorem Selection.ied_mem (S : Selection scl args) : S.ied ∈ scl.ieds := by
  have h := S.selectIed_eq
  unfold selectIed at h
  split at h
  next =>
    obtain ⟨ied, hied, hsome⟩ := bind_eq_ok.mp h
    obtain rfl := Option.some.inj (Except.ok.inj hsome)
    cases hieds : scl.ieds with
    | nil => rw [hieds] at hied; cases hied
    | cons first rest =>
        rw [hieds] at hied
        obtain rfl := Except.ok.inj hied
        exact List.mem_cons_self ..
  next => exact List.mem_of_find?_eq_some (Except.ok.inj h)

theorem Selection.ied_name (S : Selection scl args) (hname : args.iedName ≠ []) :
    S.ied.name = args.iedName := by
  have h := S.selectIed_eq
  rw [selectIed, if_neg hname] at h
  simpa using List.find?_some (Except.ok.inj h)

theorem Selection.accessPoint_mem (S : Selection scl args) :
    S.accessPoint ∈ S.ied.accessPoints := by
  have h := S.selectAccessPoint_eq
  unfold selectAccessPoint at h
  split at h
  next =>
    obtain ⟨ap, hap, hsome⟩ := bind_eq_ok.mp h
    obtain rfl := Option.some.inj (Except.ok.inj hsome)
    cases haps : S.ied.accessPoints with
    | nil => rw [haps] at hap; cases hap
    | cons first rest =>
        rw [haps] at hap
        obtain rfl := Except.ok.inj hap
        exact List.mem_cons_self ..
  next => exact List.mem_of_find?_eq_some (Except.ok.inj h)

/-- The selected devices of a parsed model have been parsed. -/
theorem Selection.parsedDevices {P : ParsedModel rt} (S : Selection P.model args) :
    ∃ templates, P.model.dataTypeTemplates = some templates ∧
      ParsedDevices rt templates P.fuel S.logicalDevices := by
  obtain ⟨templates, devices, htemplates, hserver, hdevices⟩ :=
    P.server S.ied_mem S.accessPoint_mem
  rw [S.server_eq] at hserver
  obtain rfl : S.logicalDevices = devices := by simpa using hserver
  exact ⟨templates, htemplates, hdevices⟩

/-! ## The stages of a run -/

/-- The intermediate results of a run that writes its files. -/
structure RunStages (s : StaticModelGenerator) (outFileName : Str)
    (devices : List LogicalDevice) (files : GeneratedFiles) where
  externs : List ExternDeclaration
  dataSets : List CItem
  model : DeviceModel
  firstDevice : LogicalDevice
  defines : List PointerDefine
  externs_eq : printForwardDeclarations s.printContext s.modelPrefix devices = .ok externs
  dataSets_eq : printDataSets s.rt s.modelPrefix devices = .ok dataSets
  model_eq : printLogicalDeviceDefinitions s.printContext
    (s.controlBlockContext (createLNSubVariableList s.modelPrefix devices)) s.modelPrefix
    devices {} = .ok model
  firstDevice_eq : first devices = .ok firstDevice
  defines_eq : model.definitions.variablesList.mapM
    (printVariablePointerDefine s.rt s.modelPrefix) = .ok defines
  files_eq : files = {
    c := .initializerPrototype ::
      (dataSets ++ model.definitions.cOut.map .node ++
        printBuffers (createLNSubVariableList s.modelPrefix devices) model.buffers ++
        [.iedModel (printIedModel s firstDevice (dataSetNames s.modelPrefix devices)
          (createLNSubVariableList s.modelPrefix devices))]) ++
      [.initializer model.definitions.initializerBuffer]
    h := {
      hDefineName := hDefineName s.rt outFileName
      externs := externs
      defines := defines } }

theorem Selection.stages (S : Selection scl args) {files : GeneratedFiles}
    (h : generate rt scl args = .ok files) :
    Nonempty (RunStages (S.generator rt) args.outFileName S.logicalDevices files) := by
  rw [S.generate_eq] at h
  unfold StaticModelGenerator.print at h
  obtain ⟨server, hserver, h⟩ := bind_eq_ok.mp h
  have hserver := deref_eq_ok.mp hserver
  change S.accessPoint.server = some server at hserver
  rw [S.server_eq] at hserver
  obtain rfl := Option.some.inj hserver
  obtain ⟨externs, hexterns, h⟩ := bind_eq_ok.mp h
  obtain ⟨⟨items, definitions⟩, hitems, h⟩ := bind_eq_ok.mp h
  obtain ⟨defines, hdefines, h⟩ := bind_eq_ok.mp h
  unfold printDeviceModelDefinitions at hitems
  obtain ⟨dataSets, hdataSets, hitems⟩ := bind_eq_ok.mp hitems
  obtain ⟨model, hmodel, hitems⟩ := bind_eq_ok.mp hitems
  obtain ⟨firstDevice, hfirst, hitems⟩ := bind_eq_ok.mp hitems
  obtain ⟨rfl, rfl⟩ := Prod.mk.inj (Except.ok.inj hitems)
  exact ⟨{
    externs := externs
    dataSets := dataSets
    model := model
    firstDevice := firstDevice
    defines := defines
    externs_eq := hexterns
    dataSets_eq := hdataSets
    model_eq := hmodel
    firstDevice_eq := hfirst
    defines_eq := hdefines
    files_eq := (Except.ok.inj h).symm }⟩

/-! ## The node definitions of the file -/

/-- The items printed for data sets and control blocks. -/
def CItem.isAuxiliary : CItem → Bool
  | .initializerPrototype | .node _ | .iedModel _ | .initializer _ => false
  | _ => true

/-- The items printed for data sets. -/
def CItem.ofDataSets : CItem → Bool
  | .externDeclaration _ | .dataSetEntry _ | .dataSet _ => true
  | _ => false

theorem isAuxiliary_of_ofDataSets {item : CItem} (h : item.ofDataSets) :
    item.isAuxiliary := by
  cases item <;> first | rfl | cases h

theorem ofDataSets_of_printDataSet {name : Str} {next : Option Str} {p : PlacedDataSet}
    {items : List CItem} (h : printDataSet rt name next p = .ok items) :
    ∀ item ∈ items, item.ofDataSets := by
  obtain ⟨entries, -, h⟩ := bind_eq_ok.mp h
  obtain rfl := Except.ok.inj h
  intro item hitem
  simp only [List.mem_append, List.mem_map, List.mem_singleton] at hitem
  rcases hitem with (⟨i, -, rfl⟩ | ⟨entry, -, rfl⟩) | rfl <;> rfl

theorem ofDataSets_of_printPlacedDataSets {names : List Str}
    {placed : List PlacedDataSet} {items : List CItem}
    (h : printPlacedDataSets rt names placed = .ok items) :
    ∀ item ∈ items, item.ofDataSets := by
  induction placed generalizing names items with
  | nil =>
      obtain rfl := Except.ok.inj h
      simp
  | cons p rest ih =>
      obtain ⟨name, -, h⟩ := bind_eq_ok.mp h
      obtain ⟨own, hown, h⟩ := bind_eq_ok.mp h
      obtain ⟨others, hothers, h⟩ := bind_eq_ok.mp h
      obtain rfl := Except.ok.inj h
      intro item hitem
      rcases List.mem_append.mp hitem with hitem | hitem
      · exact ofDataSets_of_printDataSet hown item hitem
      · exact ih hothers item hitem

theorem ofDataSets_of_printDataSets {modelPrefix : Str} {devices : List LogicalDevice}
    {items : List CItem} (h : printDataSets rt modelPrefix devices = .ok items) :
    ∀ item ∈ items, item.ofDataSets := by
  obtain ⟨sets, hsets, h⟩ := bind_eq_ok.mp h
  obtain rfl := Except.ok.inj h
  intro item hitem
  rcases List.mem_append.mp hitem with hitem | hitem
  · obtain ⟨name, -, rfl⟩ := List.mem_map.mp hitem
    rfl
  · exact ofDataSets_of_printPlacedDataSets hsets item hitem

theorem isAuxiliary_of_printDataSets {modelPrefix : Str} {devices : List LogicalDevice}
    {items : List CItem} (h : printDataSets rt modelPrefix devices = .ok items) :
    ∀ item ∈ items, item.isAuxiliary :=
  fun item hitem => isAuxiliary_of_ofDataSets (ofDataSets_of_printDataSets h item hitem)

theorem isAuxiliary_printBuffers (names : VariableNames) (buffers : ControlBlockBuffers) :
    ∀ item ∈ printBuffers names buffers, item.isAuxiliary := by
  intro item hitem
  simp only [printBuffers, externDeclarations, svItems, gseItems, List.mem_append,
    List.mem_map, List.mem_flatMap, Option.mem_toList, Option.map_eq_some_iff,
    List.mem_singleton] at hitem
  aesop

theorem filterMap_eq_nil {β : Type} {f : CItem → Option β} {kind : CItem → Bool}
    {items : List CItem} (hf : ∀ item : CItem, kind item → f item = none)
    (h : ∀ item ∈ items, kind item) : items.filterMap f = [] :=
  List.filterMap_eq_nil_iff.mpr fun item hitem => hf item (h item hitem)

theorem RunStages.c_eq {s : StaticModelGenerator} {outFileName : Str}
    {devices : List LogicalDevice} {files : GeneratedFiles}
    (R : RunStages s outFileName devices files) :
    files.c = .initializerPrototype ::
      (R.dataSets ++ R.model.definitions.cOut.map .node ++
        printBuffers (createLNSubVariableList s.modelPrefix devices) R.model.buffers ++
        [.iedModel (printIedModel s R.firstDevice (dataSetNames s.modelPrefix devices)
          (createLNSubVariableList s.modelPrefix devices))]) ++
      [.initializer R.model.definitions.initializerBuffer] :=
  congrArg GeneratedFiles.c R.files_eq

theorem RunStages.nodeDefinitions_eq {s : StaticModelGenerator} {outFileName : Str}
    {devices : List LogicalDevice} {files : GeneratedFiles}
    (R : RunStages s outFileName devices files) :
    files.nodeDefinitions = R.model.definitions.cOut := by
  have hnode : ∀ item : CItem, item.isAuxiliary → item.node? = none := by
    intro item hitem
    cases item <;> first | rfl | cases hitem
  have hsets := filterMap_eq_nil hnode
    (isAuxiliary_of_printDataSets R.dataSets_eq)
  have hbuffers := filterMap_eq_nil hnode
    (isAuxiliary_printBuffers (createLNSubVariableList s.modelPrefix devices)
      R.model.buffers)
  rw [GeneratedFiles.nodeDefinitions, R.c_eq]
  have hdefinitions : CItem.node? ∘ CItem.node = some := rfl
  simp [List.filterMap_cons, List.filterMap_append, hsets, hbuffers, CItem.node?,
    hdefinitions]

theorem RunStages.iedModels_eq {s : StaticModelGenerator} {outFileName : Str}
    {devices : List LogicalDevice} {files : GeneratedFiles}
    (R : RunStages s outFileName devices files) :
    files.iedModels = [printIedModel s R.firstDevice (dataSetNames s.modelPrefix devices)
      (createLNSubVariableList s.modelPrefix devices)] := by
  have hmodel : ∀ item : CItem, item.isAuxiliary → item.iedModel? = none := by
    intro item hitem
    cases item <;> first | rfl | cases hitem
  have hsets := filterMap_eq_nil hmodel
    (isAuxiliary_of_printDataSets R.dataSets_eq)
  have hbuffers := filterMap_eq_nil hmodel
    (isAuxiliary_printBuffers (createLNSubVariableList s.modelPrefix devices)
      R.model.buffers)
  rw [GeneratedFiles.iedModels, R.c_eq]
  simp [List.filterMap_cons, List.filterMap_append, hsets, hbuffers, CItem.iedModel?]

/-! ## What one logical node and one device add -/

variable {ctx : PrintContext} {blocks : ControlBlockContext}

theorem printLogicalNodeDefinition_ok {deviceInst ldName : Str} {next : Option LogicalNode}
    {ln : LogicalNode} {out out' : DeviceModel}
    (h : printLogicalNodeDefinition ctx blocks deviceInst ldName next ln out = .ok out') :
    ∃ firstChild objects, first ln.dataObjects = .ok firstChild ∧
      printDataObjectDefinitions ctx (joinName ldName ln.getName) [] false
        ln.dataObjects = .ok objects ∧
      out'.definitions = out.definitions ++
        (Definitions.ofNode (logicalNodeNode ldName next firstChild ln) ++ objects) ∧
      printControlBlocks blocks deviceInst ldName (joinName ldName ln.getName) ln
        out.buffers = .ok out'.buffers := by
  unfold printLogicalNodeDefinition at h
  obtain ⟨firstChild, hfirst, h⟩ := bind_eq_ok.mp h
  obtain ⟨objects, hobjects, h⟩ := bind_eq_ok.mp h
  obtain ⟨buffers, hbuffers, h⟩ := bind_eq_ok.mp h
  obtain rfl := Except.ok.inj h
  exact ⟨firstChild, objects, hfirst, hobjects, rfl, hbuffers⟩

theorem printLogicalNodeDefinitions_cons_ok {deviceInst ldName : Str} {ln : LogicalNode}
    {rest : List LogicalNode} {out out' : DeviceModel}
    (h : printLogicalNodeDefinitions ctx blocks deviceInst ldName (ln :: rest) out =
      .ok out') :
    ∃ between,
      printLogicalNodeDefinition ctx blocks deviceInst ldName rest.head? ln out =
        .ok between ∧
      printLogicalNodeDefinitions ctx blocks deviceInst ldName rest between = .ok out' :=
  bind_eq_ok.mp h

theorem printLogicalDeviceDefinition_ok {modelPrefix : Str} {next : Option LogicalDevice}
    {device : LogicalDevice} {out out' : DeviceModel}
    (h : printLogicalDeviceDefinition ctx blocks modelPrefix next device out = .ok out') :
    ∃ firstChild, first device.logicalNodes = .ok firstChild ∧
      printLogicalNodeDefinitions ctx blocks device.inst (joinName modelPrefix device.inst)
        device.logicalNodes
        { out with
          definitions := out.definitions ++
            Definitions.ofNode (logicalDeviceNode modelPrefix next firstChild device) } =
        .ok out' :=
  bind_eq_ok.mp h

theorem printLogicalDeviceDefinitions_cons_ok {modelPrefix : Str} {device : LogicalDevice}
    {rest : List LogicalDevice} {out out' : DeviceModel}
    (h : printLogicalDeviceDefinitions ctx blocks modelPrefix (device :: rest) out =
      .ok out') :
    ∃ between,
      printLogicalDeviceDefinition ctx blocks modelPrefix rest.head? device out =
        .ok between ∧
      printLogicalDeviceDefinitions ctx blocks modelPrefix rest between = .ok out' :=
  bind_eq_ok.mp h

theorem first_eq_ok {α : Type} {as : List α} {a : α} :
    first as = .ok a ↔ as.head? = some a := by
  cases as with
  | nil => simp [first]
  | cons b rest => simp [first]

end Iec61850.Scl
