import Iec61850.ControlBlockRun
import Iec61850.DataModelSafety
import Iec61850.DataSetMembers
import Iec61850.DefinedVariables
import Iec61850.GoFuel
import Iec61850.PointerGraph

/-!
# When the generator comes back

`Generate` reports an error for an unknown IED and for an array index in a data
set that is not a number.  Whatever else a model lacks makes it panic: here is
what it must have.
-/

namespace Iec61850.Scl

open Go

variable {rt : Runtime} {blocks : ControlBlockContext}

/-! ## Control blocks -/

def ReportControl.clientLNs (rcb : ReportControl) : List ClientLN :=
  match rcb.rptEnabled with
  | some rptEnabled => rptEnabled.clientLNs
  | none => []

/-- The instances of the block are reserved for no client by name. -/
def ReportControl.NoNamedClients (rcb : ReportControl) : Prop :=
  rcb.indexed = true → ∀ client ∈ rcb.clientLNs.take rcb.maxInstances, client.iedName = []

/-- What the control blocks of a node read is there. -/
structure BlocksSafe (communication : Option Communication) (connectedAP : Option ConnectedAP)
    (ln : LogicalNode) : Prop where
  clients : ∀ rcb ∈ ln.reportControlBlocks, communication.isSome = true ∨ rcb.NoNamedClients
  goose : ∀ control ∈ ln.gseControlBlocks, connectedAP.isSome = true
  sampledValues : ∀ control ∈ ln.smvControlBlocks,
    connectedAP.isSome = true ∧ control.smvOpts.isSome = true

theorem panicsUnless_reservedClient (clientLNs : List ClientLN) (i : ℕ) :
    PanicsUnless
      (∀ client, clientLNs[i]? = some client →
        blocks.communication.isSome = true ∨ client.iedName = [])
      (reservedClient blocks clientLNs i) := by
  unfold reservedClient
  cases clientLNs[i]? with
  | none => exact (PanicsUnless.of_ok _).congr (by simp)
  | some client =>
      simp only [Option.some.injEq, forall_eq']
      by_cases hname : client.iedName = []
      · rw [if_pos hname]
        exact (PanicsUnless.of_ok _).congr (by simp [hname])
      · rw [if_neg hname]
        refine ((panicsUnless_deref blocks.communication).bind (q := True) fun c _ => ?_).congr
          (by simp [hname])
        repeat' split
        all_goals exact PanicsUnless.of_ok _

theorem mem_take_iff_getElem? {α : Type} {as : List α} {n : ℕ} {a : α} :
    a ∈ as.take n ↔ ∃ i < n, as[i]? = some a := by
  rw [List.mem_iff_getElem?]
  refine exists_congr fun i => ?_
  rw [List.getElem?_take]
  split
  next hlt => simp [hlt]
  next hge => simp [hge]

theorem panicsUnless_reportInstances (rcb : ReportControl) :
    PanicsUnless (blocks.communication.isSome = true ∨ rcb.NoNamedClients)
      (reportInstances blocks rcb) := by
  unfold reportInstances ReportControl.NoNamedClients
  by_cases hindexed : rcb.indexed = true
  · rw [if_pos hindexed]
    have hclients : PanicsUnless _ ((List.range rcb.maxInstances).mapM fun i => do
        let client ← reservedClient blocks rcb.clientLNs i
        pure { rcb := rcb, index := twoDigits (i + 1), client := client : ReportInstance }) :=
      PanicsUnless.mapM fun i _ => (panicsUnless_reservedClient rcb.clientLNs i).map
    refine hclients.congr ?_
    simp only [hindexed, forall_const, mem_take_iff_getElem?, List.mem_range]
    constructor
    · intro h
      by_cases hcommunication : blocks.communication.isSome = true
      · exact Or.inl hcommunication
      · refine Or.inr fun client ⟨i, hi, hclient⟩ => ?_
        exact (h i hi client hclient).resolve_left hcommunication
    · rintro h i hi client hclient
      exact h.imp_right fun hnames => hnames client ⟨i, hi, hclient⟩
  · rw [if_neg hindexed]
    exact (PanicsUnless.of_ok _).congr (by simp [hindexed])

theorem panicsUnless_printReportControlBlocks (lnPrefix : Str) (ln : LogicalNode)
    (out : ControlBlockBuffers) :
    PanicsUnless
      (∀ rcb ∈ ln.reportControlBlocks,
        blocks.communication.isSome = true ∨ rcb.NoNamedClients)
      (printReportControlBlocks blocks lnPrefix ln out) :=
  (PanicsUnless.mapM fun rcb _ => panicsUnless_reportInstances rcb).map

/-- The variable of a device has a second component. -/
theorem deviceComponent_ok (modelPrefix inst : Str) :
    ∃ component, deviceComponent (joinName modelPrefix inst) = .ok component := by
  unfold deviceComponent
  have hlength : 1 < (split '_' (joinName modelPrefix inst)).length := by
    rw [length_split, joinName, List.count_append, List.count_cons_self]
    omega
  rw [List.getElem?_eq_getElem hlength]
  exact ⟨_, rfl⟩

theorem panicsUnless_printGSEControlBlock (device lnPrefix : Str)
    (state : ℕ × ControlBlockBuffers) (control : GSEControl) :
    PanicsUnless (blocks.connectedAP.isSome = true)
      (printGSEControlBlock blocks device lnPrefix state control) := by
  unfold printGSEControlBlock
  refine ((panicsUnless_deref _).bind fun connectedAP _ => ?_).congr (and_iff_left trivial)
  cases connectedAP.lookupGSE device control.name with
  | none => exact PanicsUnless.of_ok _
  | some gse => exact PanicsUnless.of_ok _

theorem panicsUnless_printGSEControlBlocks (modelPrefix inst lnPrefix : Str)
    (ln : LogicalNode) (out : ControlBlockBuffers) :
    PanicsUnless (∀ control ∈ ln.gseControlBlocks, blocks.connectedAP.isSome = true)
      (printGSEControlBlocks blocks (joinName modelPrefix inst) lnPrefix ln out) := by
  unfold printGSEControlBlocks
  obtain ⟨device, hdevice⟩ := deviceComponent_ok modelPrefix inst
  rw [hdevice, ok_bind]
  refine PanicsUnless.map (PanicsUnless.foldlM (fun state control _ => ?_) _)
  exact panicsUnless_printGSEControlBlock device lnPrefix state control

theorem panicsUnless_printSVControlBlock (device lnPrefix : Str) (out : ControlBlockBuffers)
    (numbered : SampledValueControl × ℕ) :
    PanicsUnless (blocks.connectedAP.isSome = true ∧ numbered.1.smvOpts.isSome = true)
      (printSVControlBlock blocks device lnPrefix out numbered) :=
  (panicsUnless_deref _).bind fun _ _ => (panicsUnless_deref _).map

theorem forall_mem_zipIdx_iff {α : Type} {as : List α} {p : α → Prop} :
    (∀ numbered ∈ as.zipIdx, p numbered.1) ↔ ∀ a ∈ as, p a := by
  constructor
  · intro h a ha
    obtain ⟨i, hi, rfl⟩ := List.getElem_of_mem ha
    exact h (as[i], i) (List.mem_zipIdx_iff_getElem?.mpr (List.getElem?_eq_getElem hi))
  · intro h numbered hnumbered
    exact h numbered.1 (List.fst_mem_of_mem_zipIdx hnumbered)

theorem panicsUnless_printSVControlBlocks (modelPrefix inst lnPrefix : Str)
    (ln : LogicalNode) (out : ControlBlockBuffers) :
    PanicsUnless
      (∀ control ∈ ln.smvControlBlocks,
        blocks.connectedAP.isSome = true ∧ control.smvOpts.isSome = true)
      (printSVControlBlocks blocks (joinName modelPrefix inst) lnPrefix ln out) := by
  unfold printSVControlBlocks
  obtain ⟨device, hdevice⟩ := deviceComponent_ok modelPrefix inst
  rw [hdevice, ok_bind]
  refine (PanicsUnless.foldlM (fun out numbered _ => ?_) out).congr forall_mem_zipIdx_iff
  exact panicsUnless_printSVControlBlock device lnPrefix out numbered

theorem panicsUnless_printControlBlocks (deviceInst modelPrefix inst lnPrefix : Str)
    (ln : LogicalNode) (out : ControlBlockBuffers) :
    PanicsUnless (BlocksSafe blocks.communication blocks.connectedAP ln)
      (printControlBlocks blocks deviceInst (joinName modelPrefix inst) lnPrefix ln out) := by
  unfold printControlBlocks
  refine ((panicsUnless_printReportControlBlocks lnPrefix ln out).bind fun out _ =>
    (panicsUnless_printGSEControlBlocks modelPrefix inst lnPrefix ln _).bind fun out _ =>
      (panicsUnless_printSVControlBlocks modelPrefix inst lnPrefix ln out).map).congr ?_
  constructor
  · rintro ⟨hclients, hgoose, hsampledValues⟩
    exact ⟨hclients, hgoose, hsampledValues⟩
  · rintro ⟨hclients, hgoose, hsampledValues⟩
    exact ⟨hclients, hgoose, hsampledValues⟩

/-! ## Devices and logical nodes -/

/-- What is printed for a logical node is there. -/
structure NodeSafe (modelPrefix : Str) (templates : Option DataTypeTemplates)
    (communication : Option Communication) (connectedAP : Option ConnectedAP)
    (device : LogicalDevice) (ln : LogicalNode) : Prop where
  dataObjects : ln.dataObjects ≠ []
  objects : ObjectsSafe modelPrefix templates
    (definedObjects modelPrefix (joinName (joinName modelPrefix device.inst) ln.getName)
      ln.dataObjects) ln.dataObjects
  blocks : BlocksSafe communication connectedAP ln

variable {modelPrefix : Str} {ctx : PrintContext}

theorem panicsUnless_printLogicalNodeDefinition (hctx : ctx.insertSE = insertSE modelPrefix)
    (deviceInst : Str) (device : LogicalDevice) (next : Option LogicalNode) (ln : LogicalNode)
    (out : DeviceModel) :
    PanicsUnless
      (NodeSafe modelPrefix ctx.templates blocks.communication blocks.connectedAP device ln)
      (printLogicalNodeDefinition ctx blocks deviceInst (joinName modelPrefix device.inst)
        next ln out) := by
  unfold printLogicalNodeDefinition
  refine ((panicsUnless_first ln.dataObjects).bind fun _ _ =>
    (panicsUnless_printDataObjectDefinitions hctx _ [] false ln.dataObjects).bind fun _ _ =>
      (panicsUnless_printControlBlocks deviceInst modelPrefix device.inst _ ln
        out.buffers).map).congr ?_
  constructor
  · rintro ⟨hdataObjects, hobjects, hblocks⟩
    exact ⟨hdataObjects, hobjects, hblocks⟩
  · rintro ⟨hdataObjects, hobjects, hblocks⟩
    exact ⟨hdataObjects, hobjects, hblocks⟩

theorem panicsUnless_printLogicalNodeDefinitions (hctx : ctx.insertSE = insertSE modelPrefix)
    (deviceInst : Str) (device : LogicalDevice) (nodes : List LogicalNode)
    (out : DeviceModel) :
    PanicsUnless
      (∀ ln ∈ nodes,
        NodeSafe modelPrefix ctx.templates blocks.communication blocks.connectedAP device ln)
      (printLogicalNodeDefinitions ctx blocks deviceInst (joinName modelPrefix device.inst)
        nodes out) := by
  induction nodes generalizing out with
  | nil => exact (PanicsUnless.of_ok out).congr (by simp)
  | cons ln rest ih =>
      exact ((panicsUnless_printLogicalNodeDefinition hctx deviceInst device rest.head? ln
        out).bind fun out _ => ih out).congr List.forall_mem_cons.symm

theorem panicsUnless_printLogicalDeviceDefinitions
    (hctx : ctx.insertSE = insertSE modelPrefix) (devices : List LogicalDevice)
    (hnodes : ∀ device ∈ devices, device.logicalNodes ≠ []) (out : DeviceModel) :
    PanicsUnless
      (∀ device ∈ devices, ∀ ln ∈ device.logicalNodes,
        NodeSafe modelPrefix ctx.templates blocks.communication blocks.connectedAP device ln)
      (printLogicalDeviceDefinitions ctx blocks modelPrefix devices out) := by
  induction devices generalizing out with
  | nil => exact (PanicsUnless.of_ok out).congr (by simp)
  | cons device rest ih =>
      obtain ⟨hdevice, hrest⟩ := List.forall_mem_cons.mp hnodes
      have hown (out : DeviceModel) : PanicsUnless _
          (printLogicalDeviceDefinition ctx blocks modelPrefix rest.head? device out) :=
        ((panicsUnless_first device.logicalNodes).bind fun _ _ =>
          panicsUnless_printLogicalNodeDefinitions hctx device.inst device
            device.logicalNodes _).congr (and_iff_right hdevice)
      exact ((hown out).bind fun out _ => ih hrest out).congr (by rw [List.forall_mem_cons])

/-! ## Data sets -/

/-- An opening bracket in the name of a member is closed after it. -/
def BracketsClosed (name : Str) : Prop :=
  ∀ start, index name '(' = some start → ∃ stop, index name ')' = some stop ∧ start < stop

/-- What stands between the brackets is a number. -/
def IndexReadable (rt : Runtime) (name : Str) : Prop :=
  ∀ start, index name '(' = some start → ∀ stop, index name ')' = some stop →
    ∃ i, rt.castToIntE ((name.take stop).drop (start + 1)) = .ok i

/-- The member has a name whose index, if it has one, can be cut out. -/
def MemberSafe (fcda : FCDA) : Prop :=
  BracketsClosed (fcdaVariableName fcda)

def MemberReadable (rt : Runtime) (fcda : FCDA) : Prop :=
  MemberSafe fcda ∧ IndexReadable rt (fcdaVariableName fcda)

theorem returns_fcdaArrayIndex_iff (name : Str) :
    Returns (fcdaArrayIndex rt name) ↔ BracketsClosed name := by
  unfold fcdaArrayIndex BracketsClosed
  cases index name '(' with
  | none => simp
  | some start =>
      cases index name ')' with
      | none => simp [slice]
      | some stop =>
          simp only [Option.some.injEq, forall_eq', exists_eq_left', slice]
          by_cases hlt : start + 1 ≤ stop
          · simp only [if_pos hlt, ok_bind, returns_bind_iff, returns_passError, returns_pure]
            exact iff_of_true (by simp) hlt
          · simp only [if_neg hlt, error_bind]
            exact iff_of_false (not_returns_panic _) hlt

theorem passError_eq_ok {α : Type} {r : Except Str α} {a : α} :
    passError r = .ok a ↔ r = .ok a := by
  cases r <;> simp [passError]

theorem exists_fcdaArrayIndex_ok_iff (name : Str) :
    (∃ found, fcdaArrayIndex rt name = .ok found) ↔
      BracketsClosed name ∧ IndexReadable rt name := by
  unfold fcdaArrayIndex BracketsClosed IndexReadable
  cases index name '(' with
  | none => simp [pure, Except.pure]
  | some start =>
      cases index name ')' with
      | none => simp [slice]
      | some stop =>
          simp only [Option.some.injEq, forall_eq', exists_eq_left', slice]
          by_cases hlt : start + 1 ≤ stop
          · simp only [if_pos hlt, ok_bind, bind_eq_ok, passError_eq_ok]
            constructor
            · rintro ⟨found, i, hi, -⟩
              exact ⟨hlt, i, hi⟩
            · rintro ⟨-, i, hi⟩
              exact ⟨_, i, hi, rfl⟩
          · simp only [if_neg hlt, error_bind]
            exact iff_of_false (by simp) fun h => hlt h.1

theorem returns_printDataSetEntry_iff {name : Str} {n : ℕ} (numbered : FCDA × ℕ) :
    Returns (printDataSetEntry rt name n numbered) ↔ MemberSafe numbered.1 := by
  unfold printDataSetEntry MemberSafe
  rw [← @returns_fcdaArrayIndex_iff rt, returns_bind_iff]
  exact and_iff_left fun found _ => returns_pure _

theorem exists_printDataSetEntry_ok_iff (name : Str) (n : ℕ) (numbered : FCDA × ℕ) :
    (∃ entry, printDataSetEntry rt name n numbered = .ok entry) ↔
      MemberReadable rt numbered.1 := by
  unfold printDataSetEntry MemberReadable MemberSafe
  rw [← exists_fcdaArrayIndex_ok_iff]
  constructor
  · rintro ⟨entry, h⟩
    obtain ⟨found, hfound, -⟩ := bind_eq_ok.mp h
    exact ⟨found, hfound⟩
  · rintro ⟨found, hfound⟩
    exact ⟨_, bind_eq_ok.mpr ⟨found, hfound, rfl⟩⟩

theorem returns_printDataSet_iff (name : Str) (next : Option Str) (p : PlacedDataSet) :
    Returns (printDataSet rt name next p) ↔
      AllReached (MemberReadable rt) MemberSafe p.dataSet.fcda := by
  unfold printDataSet
  rw [returns_bind_iff, returns_mapM_iff]
  simp only [returns_printDataSetEntry_iff, exists_printDataSetEntry_ok_iff, returns_pure,
    implies_true, and_true]
  rw [← allReached_map_iff, List.zipIdx_map_fst]

theorem exists_printDataSet_ok_iff (name : Str) (next : Option Str) (p : PlacedDataSet) :
    (∃ items, printDataSet rt name next p = .ok items) ↔
      ∀ fcda ∈ p.dataSet.fcda, MemberReadable rt fcda := by
  rw [← forall_mem_zipIdx_iff]
  simp only [← exists_printDataSetEntry_ok_iff name p.dataSet.fcda.length]
  rw [← exists_mapM_ok_iff]
  constructor
  · rintro ⟨items, h⟩
    obtain ⟨entries, hentries, -⟩ := bind_eq_ok.mp h
    exact ⟨entries, hentries⟩
  · rintro ⟨entries, hentries⟩
    exact ⟨_, bind_eq_ok.mpr ⟨entries, hentries, rfl⟩⟩

theorem returns_printPlacedDataSets_iff {names : List Str} {placed : List PlacedDataSet}
    (hlength : placed.length ≤ names.length) :
    Returns (printPlacedDataSets rt names placed) ↔
      AllReached (MemberReadable rt) MemberSafe (placed.flatMap fun p => p.dataSet.fcda) := by
  induction placed generalizing names with
  | nil => simp [printPlacedDataSets]
  | cons p rest ih =>
      cases names with
      | nil => simp at hlength
      | cons name others =>
          have hrest : rest.length ≤ others.length := by simpa using hlength
          rw [List.flatMap_cons, allReached_append_iff, ← ih hrest,
            ← returns_printDataSet_iff name others.head?,
            ← exists_printDataSet_ok_iff name others.head?]
          simp only [printPlacedDataSets, first, ok_bind, List.tail_cons, returns_bind_iff,
            returns_pure, implies_true, and_true, forall_exists_index]

theorem exists_printPlacedDataSets_ok_iff {names : List Str} {placed : List PlacedDataSet}
    (hlength : placed.length ≤ names.length) :
    (∃ items, printPlacedDataSets rt names placed = .ok items) ↔
      ∀ fcda ∈ placed.flatMap (fun p => p.dataSet.fcda), MemberReadable rt fcda := by
  induction placed generalizing names with
  | nil => simp [printPlacedDataSets, pure, Except.pure]
  | cons p rest ih =>
      cases names with
      | nil => simp at hlength
      | cons name others =>
          have hrest : rest.length ≤ others.length := by simpa using hlength
          rw [List.flatMap_cons, List.forall_mem_append, ← ih hrest,
            ← exists_printDataSet_ok_iff name others.head?]
          simp only [printPlacedDataSets, first, ok_bind, List.tail_cons, bind_eq_ok]
          constructor
          · rintro ⟨items, own, hown, more, hmore, -⟩
            exact ⟨⟨own, hown⟩, more, hmore⟩
          · rintro ⟨⟨own, hown⟩, more, hmore⟩
            exact ⟨own ++ more, own, hown, more, hmore, rfl⟩

theorem length_dataSetNames (modelPrefix : Str) (devices : List LogicalDevice) :
    (placedDataSets devices).length ≤ (dataSetNames modelPrefix devices).length := by
  rw [dataSetNames, List.length_map]

theorem returns_printDataSets_iff (modelPrefix : Str) (devices : List LogicalDevice) :
    Returns (printDataSets rt modelPrefix devices) ↔
      AllReached (MemberReadable rt) MemberSafe (dataSetMembers devices) := by
  unfold printDataSets dataSetMembers
  rw [← returns_printPlacedDataSets_iff (length_dataSetNames modelPrefix devices),
    returns_bind_iff]
  exact and_iff_left fun items _ => returns_pure _

theorem exists_printDataSets_ok_iff (modelPrefix : Str) (devices : List LogicalDevice) :
    (∃ items, printDataSets rt modelPrefix devices = .ok items) ↔
      ∀ fcda ∈ dataSetMembers devices, MemberReadable rt fcda := by
  unfold printDataSets dataSetMembers
  rw [← exists_printPlacedDataSets_ok_iff (length_dataSetNames modelPrefix devices)]
  constructor
  · rintro ⟨items, h⟩
    obtain ⟨sets, hsets, -⟩ := bind_eq_ok.mp h
    exact ⟨sets, hsets⟩
  · rintro ⟨sets, hsets⟩
    exact ⟨_, bind_eq_ok.mpr ⟨sets, hsets, rfl⟩⟩

/-! ## The run as a whole -/

/-- Every macro can be printed: no variable is shorter than the model prefix. -/
theorem exists_defines_ok {s : StaticModelGenerator} {devices : List LogicalDevice}
    {names : VariableNames} {model : DeviceModel}
    (hmodel : printLogicalDeviceDefinitions s.printContext (s.controlBlockContext names)
      s.modelPrefix devices {} = .ok model) :
    ∃ defines, model.definitions.variablesList.mapM
      (printVariablePointerDefine s.rt s.modelPrefix) = .ok defines := by
  have hlisted : model.definitions.Listed :=
    listed_printLogicalDeviceDefinitions hmodel Definitions.listed_empty
  have hnamed := printLogicalDeviceDefinitions_named
    (fun _ _ => insertSE_eq_ok) hmodel
  rw [exists_mapM_ok_iff, hlisted]
  intro name hname
  obtain ⟨d, hd, rfl⟩ := List.mem_map.mp hname
  have hmem : d.named ∈ model.definitions.cOut.map NodeDefinition.named :=
    List.mem_map_of_mem hd
  rw [hnamed] at hmem
  have hlength : s.modelPrefix.length < d.variableName.length :=
    length_lt_of_mem_namedDevices hmem
  unfold printVariablePointerDefine
  rw [if_neg (by omega)]
  exact ⟨_, rfl⟩

/-- What a run on the selected devices reads is there. -/
structure Selection.Safe {scl : SCL} {args : GeneratorArguments} (rt : Runtime)
    (S : Selection scl args) : Prop where
  declarations : ∀ name ∈ declaredSetpoints args.modelPrefix S.logicalDevices,
    Cuttable args.modelPrefix name
  members : AllReached (MemberReadable rt) MemberSafe (dataSetMembers S.logicalDevices)
  nodes : (∀ fcda ∈ dataSetMembers S.logicalDevices, MemberReadable rt fcda) →
    ∀ device ∈ S.logicalDevices, ∀ ln ∈ device.logicalNodes,
      NodeSafe args.modelPrefix scl.dataTypeTemplates scl.communication S.connectedAP device ln

/-- The IED is unknown, or the selected IED has the access point and its devices
are safe. -/
def GenerateSafe (rt : Runtime) (scl : SCL) (args : GeneratorArguments) : Prop :=
  selectIed scl args.iedName = .ok none ∨ ∃ S : Selection scl args, S.Safe rt

theorem returns_printDeviceModelDefinitions_iff {s : StaticModelGenerator}
    {devices : List LogicalDevice} (hdevices : devices ≠ [])
    (hnodes : ∀ device ∈ devices, device.logicalNodes ≠ []) :
    Returns (printDeviceModelDefinitions s devices) ↔
      AllReached (MemberReadable s.rt) MemberSafe (dataSetMembers devices) ∧
        ((∀ fcda ∈ dataSetMembers devices, MemberReadable s.rt fcda) →
          ∀ device ∈ devices, ∀ ln ∈ device.logicalNodes,
            NodeSafe s.modelPrefix s.scl.dataTypeTemplates s.scl.communication s.connectedAP
              device ln) := by
  have hprinted := @panicsUnless_printLogicalDeviceDefinitions
    (s.controlBlockContext (createLNSubVariableList s.modelPrefix devices)) s.modelPrefix
    s.printContext rfl devices hnodes {}
  obtain ⟨firstDevice, hfirst⟩ := (panicsUnless_first devices).yields hdevices
  unfold printDeviceModelDefinitions
  rw [returns_bind_iff, returns_printDataSets_iff,
    ← exists_printDataSets_ok_iff s.modelPrefix devices, forall_exists_index]
  refine and_congr_right fun _ => forall_congr' fun dataSets => ?_
  refine imp_congr_right fun _ => ?_
  refine (hprinted.returns_bind_iff (q := True) fun model _ => ?_).trans (and_iff_left trivial)
  rw [hfirst, ok_bind]
  exact iff_of_true (returns_pure _) trivial

/-- The run on the selected devices. -/
theorem Selection.print_returns_iff {P : ParsedModel rt} {args : GeneratorArguments}
    (S : Selection P.model args) :
    Returns ((S.generator rt).print args.outFileName) ↔ S.Safe rt := by
  obtain ⟨templates, -, hparsed⟩ := S.parsedDevices
  have hexterns := @panicsUnless_printForwardDeclarations args.modelPrefix
    (S.generator rt).printContext rfl S.logicalDevices
  have hmodel := returns_printDeviceModelDefinitions_iff (s := S.generator rt)
    hparsed.ne_nil fun device => hparsed.logicalNodes_ne_nil
  unfold StaticModelGenerator.print
  have hserver : deref (S.generator rt).accessPoint.server = .ok ⟨S.logicalDevices⟩ := by
    rw [show (S.generator rt).accessPoint.server = some ⟨S.logicalDevices⟩ from S.server_eq]
    rfl
  rw [hserver, ok_bind]
  refine (hexterns.returns_bind_iff
    (q := Returns (printDeviceModelDefinitions (S.generator rt) S.logicalDevices))
    fun externs _ => ?_).trans ?_
  · rw [returns_bind_iff]
    refine and_iff_left ?_
    rintro ⟨items, definitions⟩ hitems
    obtain ⟨dataSets, -, hitems⟩ := bind_eq_ok.mp hitems
    obtain ⟨model, hprinted, hitems⟩ := bind_eq_ok.mp hitems
    obtain ⟨firstDevice, -, hitems⟩ := bind_eq_ok.mp hitems
    obtain ⟨-, rfl⟩ := Prod.mk.inj (Except.ok.inj hitems)
    obtain ⟨defines, hdefines⟩ := exists_defines_ok hprinted
    simp only [hdefines, ok_bind, returns_pure]
  · rw [hmodel]
    constructor
    · rintro ⟨hdeclarations, hmembers, hnodes⟩
      exact ⟨hdeclarations, hmembers, hnodes⟩
    · rintro ⟨hdeclarations, hmembers, hnodes⟩
      exact ⟨hdeclarations, hmembers, hnodes⟩

theorem Selection.unique {scl : SCL} {args : GeneratorArguments} (S S' : Selection scl args) :
    S = S' := by
  obtain ⟨ied, accessPoint, devices, hied, hap, hserver⟩ := S
  obtain ⟨ied', accessPoint', devices', hied', hap', hserver'⟩ := S'
  obtain rfl : ied = ied' := by simpa [hied] using hied'
  obtain rfl : accessPoint = accessPoint' := by simpa [hap] using hap'
  obtain rfl : devices = devices' := by simpa [hserver] using hserver'
  rfl

theorem panicsUnless_selectIed (scl : SCL) (iedName : Str) :
    PanicsUnless (iedName = [] → scl.ieds ≠ []) (selectIed scl iedName) := by
  unfold selectIed
  split
  next hname => exact (panicsUnless_first scl.ieds).map.congr (by simp [hname])
  next hname => exact (PanicsUnless.of_ok _).congr (by simp [hname])

theorem panicsUnless_selectAccessPoint (ied : IED) (apName : Str) :
    PanicsUnless (apName = [] → ied.accessPoints ≠ []) (selectAccessPoint ied apName) := by
  unfold selectAccessPoint
  split
  next hname => exact (panicsUnless_first ied.accessPoints).map.congr (by simp [hname])
  next hname => exact (PanicsUnless.of_ok _).congr (by simp [hname])

/-- Without an IED, an access point of it and its server there is only the error
for an unknown IED. -/
theorem returns_iff_of_not_selected {scl : SCL} {args : GeneratorArguments}
    (hselection : ¬ Nonempty (Selection scl args)) :
    Returns (generate rt scl args) ↔ selectIed scl args.iedName = .ok none := by
  unfold generate
  cases hied : selectIed scl args.iedName with
  | error stop =>
      obtain ⟨fault, rfl⟩ := (panicsUnless_selectIed scl args.iedName).panic_of_error hied
      simp
  | ok ied? =>
      cases ied? with
      | none => simp
      | some ied =>
          refine iff_of_false ?_ (by simp)
          cases hap : selectAccessPoint ied args.apName with
          | error stop =>
              obtain ⟨fault, rfl⟩ :=
                (panicsUnless_selectAccessPoint ied args.apName).panic_of_error hap
              simp [hap]
          | ok ap? =>
              cases ap? with
              | none => simp [hap, deref]
              | some ap =>
                  cases hserver : ap.server with
                  | none => simp [hap, deref, StaticModelGenerator.print, hserver]
                  | some server =>
                      exact absurd ⟨⟨ied, ap, server.logicalDevices, hied, hap, hserver⟩⟩
                        hselection

/-- `Generate` comes back with the files or an error if and only if the IED is
unknown or all that it reads of the selected devices is there. -/
theorem generate_returns_iff (P : ParsedModel rt) (args : GeneratorArguments) :
    Returns (generate rt P.model args) ↔ GenerateSafe rt P.model args := by
  unfold GenerateSafe
  by_cases hselection : Nonempty (Selection P.model args)
  · obtain ⟨S⟩ := hselection
    rw [S.generate_eq, S.print_returns_iff]
    constructor
    · exact fun h => Or.inr ⟨S, h⟩
    · rintro (hnone | ⟨S', hS'⟩)
      · have hsome := S.selectIed_eq
        rw [hnone] at hsome
        cases hsome
      · rwa [S.unique S']
  · have hsafe : (∃ S : Selection P.model args, S.Safe rt) ↔ False :=
      iff_of_false (fun ⟨S, _⟩ => hselection ⟨S⟩) id
    rw [hsafe, or_false]
    exact returns_iff_of_not_selected hselection

/-- The measurement model has an access point `AP1`, but none of this name. -/
theorem generate_unknown_accessPoint_panics :
    Panics (generate plainRuntime measurementModel.model { apName := lit "AP2" }) := by
  decide +kernel

end Iec61850.Scl
