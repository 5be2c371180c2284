import Iec61850.CommunicationAddresses
import Iec61850.PlainBlocks

/-!
# The strings of a model in the generated C

A run is safe if every text it prints that quotes a string is read back as C
into what the generator meant: each string as one literal of exactly this
value, and nothing else between the words of the declaration.  The generator
escapes nothing, so this depends on the strings of the model alone.
-/

namespace Iec61850.Scl

open Go CSource

/-! ## Reading a file back -/

/-- The texts are read into what they were meant to be; the buffers of the
control blocks are printed as formats. -/
structure GeneratedFiles.StringsReadBack (files : GeneratedFiles) : Prop where
  verbatim : ∀ segments ∈ files.verbatimTexts,
    CSource.read false (source segments) = some (items segments)
  buffers : ∀ segments ∈ files.bufferTexts,
    CSource.read false (printf (source segments)) = some (items segments)

theorem GeneratedFiles.stringsReadBack_iff (files : GeneratedFiles) :
    files.StringsReadBack ↔
      (∀ segments ∈ files.verbatimTexts, PlainText false segments) ∧
        ∀ segments ∈ files.bufferTexts, PlainText true segments := by
  have hverbatim (segments : List Segment) :=
    (Prints.verbatim (source segments)).reads_back_iff
  have hformatted (segments : List Segment) :=
    (prints_printf (source segments)).reads_back_iff
  constructor
  · rintro ⟨hverbatims, hbuffers⟩
    exact ⟨fun segments hmem => (hverbatim segments).mp (hverbatims segments hmem),
      fun segments hmem => (hformatted segments).mp (hbuffers segments hmem)⟩
  · rintro ⟨hverbatims, hbuffers⟩
    exact ⟨fun segments hmem => (hverbatim segments).mpr (hverbatims segments hmem),
      fun segments hmem => (hformatted segments).mpr (hbuffers segments hmem)⟩

/-! ## The condition on the model -/

variable {rt : Runtime} {scl : SCL} {args : GeneratorArguments}

/-- What goes into identifiers is a word of C, what is quoted outside the
control blocks has no quote, backslash or line break, and what is quoted in a
control block has no percent sign either. -/
structure Selection.PlainStrings (S : Selection scl args) : Prop where
  modelPrefix : IsName args.modelPrefix
  iedName : IsClean S.ied.name
  devices : ∀ device ∈ S.logicalDevices, device.Plain
  dataSets : ∀ p ∈ placedDataSets S.logicalDevices, p.dataSet.Plain
  blocks : ∀ p ∈ placedNodes S.logicalDevices, p.node.BlocksPlain p.device.inst fun cbName =>
    (S.locatedGSE p.device cbName).isSome

/-! ## Names of control blocks -/

theorem VariableNames.plain_append {a b : VariableNames} (ha : a.Plain) (hb : b.Plain) :
    (a ++ b).Plain where
  rcb := List.forall_mem_append.mpr ⟨ha.rcb, hb.rcb⟩
  lcb := List.forall_mem_append.mpr ⟨ha.lcb, hb.lcb⟩
  log := List.forall_mem_append.mpr ⟨ha.log, hb.log⟩
  gse := List.forall_mem_append.mpr ⟨ha.gse, hb.gse⟩
  smv := List.forall_mem_append.mpr ⟨ha.smv, hb.smv⟩
  sgcb := List.forall_mem_append.mpr ⟨ha.sgcb, hb.sgcb⟩

theorem isName_of_mem_numberedNames {lnPrefix : Str} {kind : String} {count : ℕ}
    (hnode : IsName lnPrefix) (hkind : IsName (lit kind)) :
    ∀ v ∈ numberedNames lnPrefix kind count, IsName v := by
  intro v hv
  obtain ⟨i, -, rfl⟩ := List.mem_map.mp hv
  exact isName_numberedName.mpr ⟨hnode, hkind⟩

theorem plain_createLNVariableNames {lnPrefix : Str} (ln : LogicalNode)
    (hnode : IsName lnPrefix) : (createLNVariableNames lnPrefix ln).Plain where
  rcb := isName_of_mem_numberedNames hnode (by decide)
  lcb := isName_of_mem_numberedNames hnode (by decide)
  log := isName_of_mem_numberedNames hnode (by decide)
  gse := isName_of_mem_numberedNames hnode (by decide)
  smv := isName_of_mem_numberedNames hnode (by decide)
  sgcb := by
    intro v hv
    obtain ⟨i, -, rfl⟩ := List.mem_map.mp hv
    exact isName_append.mpr ⟨hnode, by decide⟩

theorem isName_placedNode {modelPrefix : Str} {devices : List LogicalDevice}
    (hmodelPrefix : IsName modelPrefix) (hdevices : ∀ device ∈ devices, device.Plain)
    {p : PlacedNode} (hp : p ∈ placedNodes devices) : IsName (p.variableName modelPrefix) := by
  obtain ⟨device, hdevice, hp⟩ := List.mem_flatMap.mp hp
  obtain ⟨ln, hln, rfl⟩ := List.mem_map.mp hp
  simp [PlacedNode.variableName, hmodelPrefix, (hdevices device hdevice).inst,
    ((hdevices device hdevice).nodes ln hln).name]

theorem isName_placedDataSet {devices : List LogicalDevice}
    (hdevices : ∀ device ∈ devices, device.Plain) :
    ∀ p ∈ placedDataSets devices, IsName p.device.inst ∧ IsName p.node.getName := by
  intro p hp
  obtain ⟨device, hdevice, hp⟩ := List.mem_flatMap.mp hp
  obtain ⟨ln, hln, hp⟩ := List.mem_flatMap.mp hp
  obtain ⟨dataSet, -, rfl⟩ := List.mem_map.mp hp
  exact ⟨(hdevices device hdevice).inst, ((hdevices device hdevice).nodes ln hln).name⟩

theorem isName_of_mem_dataSetNames {modelPrefix : Str} {devices : List LogicalDevice}
    (hmodelPrefix : IsName modelPrefix) (hdevices : ∀ device ∈ devices, device.Plain)
    (hdataSets : ∀ p ∈ placedDataSets devices, p.dataSet.Plain) :
    ∀ v ∈ dataSetNames modelPrefix devices, IsName v := by
  intro v hv
  obtain ⟨p, hp, rfl⟩ := List.mem_map.mp hv
  obtain ⟨hdevice, hnode⟩ := isName_placedDataSet hdevices p hp
  exact isName_dataSetVariable hmodelPrefix hdevice hnode (hdataSets p hp).name

theorem plain_createLNSubVariableList {modelPrefix : Str} {devices : List LogicalDevice}
    (hmodelPrefix : IsName modelPrefix) (hdevices : ∀ device ∈ devices, device.Plain) :
    (createLNSubVariableList modelPrefix devices).Plain := by
  unfold createLNSubVariableList
  refine List.foldrRecOn (motive := VariableNames.Plain) _ _ ?_ ?_
  · constructor <;> simp
  · intro names hnames own hown
    refine VariableNames.plain_append ?_ hnames
    obtain ⟨device, hdevice, hown⟩ := List.mem_flatMap.mp hown
    obtain ⟨ln, hln, rfl⟩ := List.mem_map.mp hown
    have hp : (⟨device, ln⟩ : PlacedNode) ∈ placedNodes devices :=
      List.mem_flatMap.mpr ⟨device, hdevice, List.mem_map_of_mem hln⟩
    exact plain_createLNVariableNames ln (isName_placedNode hmodelPrefix hdevices hp)

/-! ## The texts of a run -/

section Stages

variable {s : StaticModelGenerator} {outFileName : Str} {devices : List LogicalDevice}
  {files : GeneratedFiles}

theorem plain_printIedModel {firstDevice : LogicalDevice} (hmodelPrefix : IsName s.modelPrefix)
    (hfirst : IsName firstDevice.inst) {dataSets : List Str} (hdataSets : ∀ v ∈ dataSets, IsName v)
    {names : VariableNames} (hnames : names.Plain) :
    PlainText false (printIedModel s firstDevice dataSets names).text ↔ IsClean s.ied.name := by
  have hhead {vs : List Str} (hvs : ∀ v ∈ vs, IsName v) : ∀ v ∈ vs.head?, IsName v :=
    fun v hv => hvs v (List.mem_of_head? hv)
  simp only [plain_iedModel, printIedModel, quotable_false, isName_joinName, List.forall_mem_cons]
  refine ⟨fun h => h.2.1, fun h => ⟨hmodelPrefix, h, ⟨hmodelPrefix, hfirst⟩, hhead hdataSets,
    hhead hnames.rcb, hhead hnames.gse, hhead hnames.smv, hhead hnames.sgcb, hhead hnames.lcb,
    hhead hnames.log, by simp⟩⟩

theorem plainItems_nodes {nodes : List NodeDefinition} :
    PlainItems (nodes.map .node) ↔ ∀ d ∈ nodes, PlainText false d.text := by
  constructor
  · intro h d hd
    exact h _ (List.mem_map_of_mem hd) _ rfl
  · intro h item hitem segments htext
    obtain ⟨d, hd, rfl⟩ := List.mem_map.mp hitem
    obtain rfl := Option.some.inj htext
    exact h d hd

theorem plainItems_of_text_eq_none {items : List CItem} (h : ∀ item ∈ items, item.text = none) :
    PlainItems items := by
  intro item hitem segments htext
  rw [h item hitem] at htext
  cases htext

theorem text_printBuffers (names : VariableNames) (buffers : ControlBlockBuffers) :
    ∀ item ∈ printBuffers names buffers, item.text = none := by
  intro item hitem
  simp only [printBuffers, externDeclarations, svItems, gseItems, List.mem_append,
    List.mem_map, List.mem_flatMap, Option.mem_toList, Option.map_eq_some_iff,
    List.mem_singleton] at hitem
  aesop

theorem RunStages.initializers_eq (R : RunStages s outFileName devices files) :
    files.c.flatMap CItem.initializers = R.model.definitions.initializerBuffer := by
  have hauxiliary {items : List CItem} (h : ∀ item ∈ items, item.isAuxiliary) :
      items.flatMap CItem.initializers = [] := by
    refine List.flatMap_eq_nil_iff.mpr fun item hitem => ?_
    have hkind := h item hitem
    cases item <;> first | rfl | cases hkind
  have hnodes (nodes : List NodeDefinition) :
      (nodes.map CItem.node).flatMap CItem.initializers = [] := by
    simp [List.flatMap_map, CItem.initializers]
  have hsets := hauxiliary (isAuxiliary_of_printDataSets R.dataSets_eq)
  have hbuffers := hauxiliary (isAuxiliary_printBuffers
    (createLNSubVariableList s.modelPrefix devices) R.model.buffers)
  rw [R.c_eq]
  simp [List.flatMap_append, hsets, hnodes, hbuffers, CItem.initializers]

theorem plainItems_cons {item : CItem} {items : List CItem} :
    PlainItems (item :: items) ↔
      (∀ segments ∈ item.text, PlainText false segments) ∧ PlainItems items :=
  List.forall_mem_cons

/-- The texts printed with constant formats, part by part. -/
theorem RunStages.plain_verbatimTexts (R : RunStages s outFileName devices files) :
    (∀ segments ∈ files.verbatimTexts, PlainText false segments) ↔
      PlainItems R.dataSets ∧ R.model.definitions.Plain ∧
        PlainText false (printIedModel s R.firstDevice (dataSetNames s.modelPrefix devices)
          (createLNSubVariableList s.modelPrefix devices)).text := by
  have hfiltered {α : Type} (f : α → Option (List Segment)) (as : List α) :
      (∀ segments ∈ as.filterMap f, PlainText false segments) ↔
        ∀ a ∈ as, ∀ segments ∈ f a, PlainText false segments := by
    simp only [List.mem_filterMap, forall_exists_index, and_imp]
    exact ⟨fun h a ha segments hf => h segments a ha hf, fun h segments a ha hf =>
      h a ha segments hf⟩
  have hitems : (∀ item ∈ files.c, ∀ segments ∈ item.text, PlainText false segments) ↔
      PlainItems files.c := Iff.rfl
  have hbuffers := plainItems_of_text_eq_none (text_printBuffers
    (createLNSubVariableList s.modelPrefix devices) R.model.buffers)
  have hnil : PlainItems [] := by simp [PlainItems]
  rw [GeneratedFiles.verbatimTexts, List.forall_mem_append, hfiltered, hfiltered, hitems,
    R.initializers_eq, R.c_eq]
  simp only [plainItems_append, plainItems_cons, plainItems_nodes, CItem.text, hbuffers, hnil,
    List.cons_append]
  constructor
  · rintro ⟨⟨-, ⟨⟨⟨hsets, hnodes⟩, -⟩, hmodel, -⟩, -⟩, hstatements⟩
    exact ⟨hsets, ⟨hnodes, hstatements⟩, hmodel _ rfl⟩
  · rintro ⟨hsets, ⟨hnodes, hstatements⟩, hmodel⟩
    refine ⟨⟨by simp, ⟨⟨⟨hsets, hnodes⟩, trivial⟩, ?_, trivial⟩, by simp⟩, hstatements⟩
    rintro segments hsegments
    obtain rfl := Option.some.inj hsegments
    exact hmodel

/-- A projection that selects control blocks without an address of their own. -/
theorem RunStages.filterMap_unaddressed (R : RunStages s outFileName devices files) {β : Type}
    {f : CItem → Option β} (hdataSets : ∀ item : CItem, item.ofDataSets → f item = none)
    (hother : ∀ item : CItem, ¬ item.isAuxiliary → f item = none)
    (haddress : ∀ d, f (.phyComAddress d) = none) (hsv : ∀ d, f (.svControlBlock d) = none)
    (hgse : ∀ d, f (.gseControlBlock d) = none) :
    files.c.filterMap f =
      (R.model.buffers.reportControlBlocks.map CItem.reportControlBlock ++
        R.model.buffers.settingGroupControlBlocks.map CItem.settingGroupControlBlock ++
        R.model.buffers.logControlBlocks.map CItem.logControlBlock ++
        R.model.buffers.logs.map CItem.log).filterMap f := by
  have hexterns (type : DeclaredType) (names : List Str) :
      (externDeclarations type names).filterMap f = [] := by
    refine filterMap_eq_nil hdataSets fun item hitem => ?_
    obtain ⟨name, -, rfl⟩ := List.mem_map.mp hitem
    rfl
  have hsvs (ds : List SVControlBlockDefinition) : (ds.flatMap svItems).filterMap f = [] := by
    rw [List.filterMap_eq_nil_iff]
    intro item hitem
    simp only [svItems, List.mem_flatMap, List.mem_append, Option.mem_toList,
      Option.map_eq_some_iff, List.mem_singleton] at hitem
    obtain ⟨d, -, ⟨address, -, rfl⟩ | rfl⟩ := hitem
    · exact haddress address
    · exact hsv d
  have hgses (ds : List GSEControlBlockDefinition) : (ds.flatMap gseItems).filterMap f = [] := by
    rw [List.filterMap_eq_nil_iff]
    intro item hitem
    simp only [gseItems, List.mem_flatMap, List.mem_append, Option.mem_toList,
      Option.map_eq_some_iff, List.mem_singleton] at hitem
    obtain ⟨d, -, ⟨address, -, rfl⟩ | rfl⟩ := hitem
    · exact haddress address
    · exact hgse d
  rw [R.filterMap_buffers hdataSets hother]
  simp only [printBuffers, List.filterMap_append, hexterns, hsvs, hgses, List.nil_append,
    List.append_nil]

theorem RunStages.reportControlBlocks_eq (R : RunStages s outFileName devices files) :
    files.c.filterMap CItem.reportControlBlock? = R.model.buffers.reportControlBlocks := by
  rw [R.filterMap_unaddressed]
  · simp [List.filterMap_append, List.filterMap_map, CItem.reportControlBlock?,
      Function.comp_def]
  · intro item hitem
    cases item <;> first | rfl | cases hitem
  · intro item hitem
    cases item <;> first | rfl | exact absurd rfl hitem
  all_goals exact fun _ => rfl

theorem RunStages.logControlBlocks_eq (R : RunStages s outFileName devices files) :
    files.c.filterMap CItem.logControlBlock? = R.model.buffers.logControlBlocks := by
  rw [R.filterMap_unaddressed]
  · simp [List.filterMap_append, List.filterMap_map, CItem.logControlBlock?, Function.comp_def]
  · intro item hitem
    cases item <;> first | rfl | cases hitem
  · intro item hitem
    cases item <;> first | rfl | exact absurd rfl hitem
  all_goals exact fun _ => rfl

theorem RunStages.logs_eq (R : RunStages s outFileName devices files) :
    files.c.filterMap CItem.log? = R.model.buffers.logs := by
  rw [R.filterMap_unaddressed]
  · simp [List.filterMap_append, List.filterMap_map, CItem.log?, Function.comp_def]
  · intro item hitem
    cases item <;> first | rfl | cases hitem
  · intro item hitem
    cases item <;> first | rfl | exact absurd rfl hitem
  all_goals exact fun _ => rfl

theorem RunStages.plain_bufferTexts (R : RunStages s outFileName devices files) :
    (∀ segments ∈ files.bufferTexts, PlainText true segments) ↔ R.model.buffers.Plain := by
  have hbreak : PlainText true [code "\n"] := by simpa using plain_code (by decide)
  have hflat {α : Type} (f : α → List Segment) (as : List α) :
      PlainText true (as.flatMap f ++ [code "\n"]) ↔ ∀ a ∈ as, PlainText true (f a) := by
    rw [plainText_append, and_iff_left hbreak]
    exact List.forall_mem_flatMap
  rw [GeneratedFiles.bufferTexts, List.forall_mem_map]
  simp only [List.forall_mem_cons, hflat, R.reportControlBlocks_eq, R.svControlBlocks_eq,
    R.gseControlBlocks_eq, R.logControlBlocks_eq, R.logs_eq]
  constructor
  · rintro ⟨hreports, hsmv, hgse, hlogControls, hlogs, -⟩
    exact ⟨hreports, hlogControls, hlogs, hgse, hsmv⟩
  · rintro ⟨hreports, hlogControls, hlogs, hgse, hsmv⟩
    exact ⟨hreports, hsmv, hgse, hlogControls, hlogs, by simp⟩

theorem plain_printDataSets {modelPrefix : Str} {devices : List LogicalDevice}
    {items : List CItem} (hmodelPrefix : IsName modelPrefix)
    (hdevices : ∀ device ∈ devices, device.Plain)
    (h : printDataSets rt modelPrefix devices = .ok items) :
    PlainItems items ↔ ∀ p ∈ placedDataSets devices, p.dataSet.Plain := by
  obtain ⟨own, hown, h⟩ := bind_eq_ok.mp h
  obtain rfl := Except.ok.inj h
  rw [plainItems_append,
    plain_printPlacedDataSets hmodelPrefix (isName_placedDataSet hdevices) hown]
  exact and_iff_right plainItems_map_declaration

end Stages

/-! ## The whole run -/

section Run

variable {S : Selection scl args} {files : GeneratedFiles}

theorem plain_printPlacedBlocks {names : VariableNames} (hnames : names.Plain)
    {p : PlacedNode} (hnode : IsName (p.variableName args.modelPrefix))
    {out out' : ControlBlockBuffers}
    (h : printPlacedBlocks ((S.generator rt).controlBlockContext names) args.modelPrefix out
      p = .ok out') :
    out'.Plain ↔ out.Plain ∧
      p.node.BlocksPlain p.device.inst fun cbName => (S.locatedGSE p.device cbName).isSome := by
  obtain ⟨part, hpart⟩ := deviceComponent_ok args.modelPrefix p.device.inst
  have hlocated (cbName : Str) : S.locatedGSE p.device cbName =
      S.connectedAP.bind fun connectedAP => connectedAP.lookupGSE part cbName := by
    cases hconnected : S.connectedAP with
    | none => simp [Selection.locatedGSE, Selection.located, hconnected]
    | some connectedAP =>
        simp [Selection.locatedGSE, Selection.located, hconnected, deviceComponent_eq_ok hpart,
          lookupGSE_eq]
  simp only [hlocated]
  exact plain_printControlBlocks hnames hnode hpart h

theorem RunStages.plain_buffers
    (R : RunStages (S.generator rt) args.outFileName S.logicalDevices files)
    (hmodelPrefix : IsName args.modelPrefix)
    (hdevices : ∀ device ∈ S.logicalDevices, device.Plain) :
    R.model.buffers.Plain ↔ ∀ p ∈ placedNodes S.logicalDevices,
      p.node.BlocksPlain p.device.inst fun cbName => (S.locatedGSE p.device cbName).isSome := by
  have hnames := plain_createLNSubVariableList hmodelPrefix hdevices
  have hempty : ControlBlockBuffers.Plain {} := by constructor <;> simp
  rw [foldlM_iff_forall (printLogicalDeviceDefinitions_buffers R.model_eq)
    fun _ _ p hp => plain_printPlacedBlocks hnames (isName_placedNode hmodelPrefix hdevices hp)]
  exact and_iff_right hempty

/-- The strings of a run are read back if and only if they are plain. -/
theorem RunStages.stringsReadBack_iff
    (R : RunStages (S.generator rt) args.outFileName S.logicalDevices files) :
    files.StringsReadBack ↔ S.PlainStrings := by
  have hfirst : R.firstDevice ∈ S.logicalDevices :=
    List.mem_of_head? (first_eq_ok.mp R.firstDevice_eq)
  have hnonempty : S.logicalDevices ≠ [] := List.ne_nil_of_mem hfirst
  have hmangles : (S.generator rt).printContext.Mangles := ⟨args.modelPrefix, rfl⟩
  have hdefinitions := plain_printLogicalDeviceDefinitions hmangles R.model_eq
  rw [GeneratedFiles.stringsReadBack_iff, R.plain_verbatimTexts, R.plain_bufferTexts,
    hdefinitions]
  have hmodel (hmodelPrefix : IsName args.modelPrefix)
      (hdevices : ∀ device ∈ S.logicalDevices, device.Plain)
      (hdataSets : ∀ p ∈ placedDataSets S.logicalDevices, p.dataSet.Plain) :=
    plain_printIedModel (s := S.generator rt) hmodelPrefix (hdevices _ hfirst).inst
      (isName_of_mem_dataSetNames hmodelPrefix hdevices hdataSets)
      (plain_createLNSubVariableList hmodelPrefix hdevices)
  constructor
  · rintro ⟨⟨hsets, ⟨-, hmodelPrefix, hdevices⟩, hied⟩, hbuffers⟩
    have hmodelPrefix := hmodelPrefix hnonempty
    have hsets := (plain_printDataSets hmodelPrefix hdevices R.dataSets_eq).mp hsets
    exact ⟨hmodelPrefix, (hmodel hmodelPrefix hdevices hsets).mp hied, hdevices, hsets,
      (R.plain_buffers hmodelPrefix hdevices).mp hbuffers⟩
  · intro h
    refine ⟨⟨(plain_printDataSets h.modelPrefix h.devices R.dataSets_eq).mpr h.dataSets,
      ⟨Definitions.plain_empty, fun _ => h.modelPrefix, h.devices⟩,
      (hmodel h.modelPrefix h.devices h.dataSets).mpr h.iedName⟩,
      (R.plain_buffers h.modelPrefix h.devices).mpr h.blocks⟩

end Run

/-- Every text of the generated files that quotes a string is read as C into
what was meant, if and only if the strings of the selected access point and the
arguments are plain. -/
theorem generated_strings_read_back_iff (P : ParsedModel rt) (args : GeneratorArguments)
    (S : Selection P.model args) (files : GeneratedFiles)
    (hgenerate : generate rt P.model args = .ok files) :
    files.StringsReadBack ↔ S.PlainStrings := by
  obtain ⟨R⟩ := S.stages hgenerate
  exact R.stringsReadBack_iff

theorem generated_strings_read_back_iff_stationModel :
    ∃ S : Selection stationModel.model { iedName := lit "IED2" }, ∃ files,
      generate plainRuntime stationModel.model { iedName := lit "IED2" } = .ok files ∧
        (files.StringsReadBack ↔ S.PlainStrings) := by
  have hgenerate := eq_ok_resultOf _ generate_stationModel
  obtain ⟨S⟩ := exists_selection_of_generate hgenerate
  exact ⟨S, _, hgenerate, generated_strings_read_back_iff stationModel _ S _ hgenerate⟩

/-- A name plate with the value of its vendor in the instance. -/
def namePlateTemplates : DataTypeTemplates where
  logicalNodeTypes := [{
    id := lit "LN0T"
    dataObjectDefinitions := [{ name := lit "NamPlt", type := lit "LPL" }] }]
  dataObjectTypes := [{
    id := lit "LPL"
    dataAttributes := [{ name := lit "vendor", fc := lit "DC", bType := lit "VisString255" }] }]

def namePlateDevice : LogicalDevice where
  inst := lit "LD1"
  ln0 := some {
    lnClass := lit "LLN0"
    lnType := lit "LN0T"
    doiNodes := [{
      name := lit "NamPlt"
      daiNodes := [{ name := lit "vendor", val := some (lit "12\" pumps") }] }] }

def namePlateModel : ParsedModel plainRuntime :=
  ParsedModel.ofDocument plainRuntime 4 (documentOf namePlateTemplates [namePlateDevice])
    (by decide +kernel)

theorem generate_namePlateModel :
    (generate plainRuntime namePlateModel.model {}).isOk = true := by
  decide +kernel

/-- The double quote in the value of the vendor closes the literal. -/
theorem namePlateModel_not_read_back :
    ∃ files, generate plainRuntime namePlateModel.model {} = .ok files ∧
      ¬ files.StringsReadBack := by
  refine ⟨_, eq_ok_resultOf _ generate_namePlateModel, fun hfiles => ?_⟩
  have hbroken : (resultOf _ generate_namePlateModel).verbatimTexts.any (fun segments =>
      CSource.read false (source segments) ≠ some (items segments)) = true := by
    decide +kernel
  obtain ⟨segments, hmem, hne⟩ := List.any_eq_true.mp hbroken
  exact of_decide_eq_true hne (hfiles.verbatim segments hmem)

end Iec61850.Scl
