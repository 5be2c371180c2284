import Iec61850.CommunicationAddresses
import Iec61850.RenamedModels

/-!
# Data sets and control blocks under two prefixes

The names of data sets and control blocks are the model prefix and a rest.
What the communication section says of a GOOSE or sampled value control is
found with a part of the device variable, which may lie in the prefix; all
other texts are printed alike.
-/

namespace Iec61850.Scl

open Go

variable {p q : Str} {rt : Runtime}

/-! ## Data sets -/

theorem entryName_append (p name : Str) (i : ℕ) :
    entryName (p ++ name) i = p ++ entryName name i := by
  simp [entryName]

theorem bothCarry_printDataSetEntry (name : Str) (n : ℕ) (numbered : FCDA × ℕ) :
    BothCarry DataSetEntryDefinition.mapNames p q (printDataSetEntry rt (p ++ name) n numbered)
      (printDataSetEntry rt (q ++ name) n numbered) := by
  refine BothCarry.bind_same fun found _ => .pure ?_
  refine ⟨⟨entryName name numbered.2, numbered.1.ldInst, fcdaVariableName numbered.1, found.1,
    found.2, if numbered.2 + 1 < n then some (entryName name (numbered.2 + 1)) else none⟩, ?_, ?_⟩
  all_goals
    simp only [DataSetEntryDefinition.mapNames, entryName_append]
    split <;> rfl

theorem bothCarry_printDataSet (name : Str) (next : Option Str) (placed : PlacedDataSet) :
    BothCarry (fun f => List.map (CItem.mapNames f)) p q
      (printDataSet rt (p ++ name) (next.map (p ++ ·)) placed)
      (printDataSet rt (q ++ name) (next.map (q ++ ·)) placed) := by
  refine (BothCarry.mapM_same (m := DataSetEntryDefinition.mapNames) fun numbered _ =>
    bothCarry_printDataSetEntry name _ numbered).bind fun entries _ _ => .pure ?_
  refine ⟨(List.range placed.dataSet.fcda.length).map (fun i =>
      CItem.externDeclaration ⟨.dataSetEntry, entryName name i⟩) ++
    entries.map .dataSetEntry ++ [.dataSet ⟨name, placed.device.inst,
      placed.node.getName ++ lit "$" ++ placed.dataSet.name, placed.dataSet.fcda.length,
      entryName name 0, next⟩], ?_, ?_⟩ <;>
    simp [CItem.mapNames, ExternDeclaration.mapNames, DataSetDefinition.mapNames,
      entryName_append, Function.comp_def]

theorem bothCarry_printPlacedDataSets (names : List Str) (placed : List PlacedDataSet) :
    BothCarry (fun f => List.map (CItem.mapNames f)) p q
      (printPlacedDataSets rt (names.map (p ++ ·)) placed)
      (printPlacedDataSets rt (names.map (q ++ ·)) placed) := by
  induction placed generalizing names with
  | nil => exact .pure .list_nil
  | cons dataSet rest ih =>
      cases names with
      | nil =>
          intro a _ ha
          cases ha
      | cons name others =>
          simp only [printPlacedDataSets, List.map_cons, first, ok_bind, List.tail_cons,
            List.head?_map]
          exact (bothCarry_printDataSet name others.head? dataSet).bind fun items _ _ =>
            (ih others).bind fun more _ _ => .pure ⟨items ++ more, by simp, by simp⟩

theorem variableName_eq_append (p : Str) (placed : PlacedDataSet) :
    placed.variableName p = p ++ placed.variableName [] := by
  simp [PlacedDataSet.variableName, joinName]

theorem dataSetNames_eq (p : Str) (devices : List LogicalDevice) :
    dataSetNames p devices = (dataSetNames [] devices).map (p ++ ·) := by
  simp only [dataSetNames, List.map_map]
  exact List.map_congr_left fun placed _ => variableName_eq_append p placed

theorem bothCarry_printDataSets (devices : List LogicalDevice) :
    BothCarry (fun f => List.map (CItem.mapNames f)) p q (printDataSets rt p devices)
      (printDataSets rt q devices) := by
  unfold printDataSets
  rw [dataSetNames_eq p, dataSetNames_eq q]
  refine (bothCarry_printPlacedDataSets _ _).bind fun items _ _ => .pure ?_
  refine ⟨(dataSetNames [] devices).map (fun name => .externDeclaration ⟨.dataSet, name⟩) ++
    items, ?_, ?_⟩ <;>
    simp [CItem.mapNames, ExternDeclaration.mapNames, Function.comp_def]

/-! ## The names of control blocks -/

theorem numberedName_append (p u : Str) (kind : String) (n : ℕ) :
    numberedName (p ++ u) kind n = p ++ numberedName u kind n := by
  simp [numberedName]

theorem mapNames_createLNVariableNames (p u : Str) (ln : LogicalNode) :
    createLNVariableNames (p ++ u) ln = (createLNVariableNames u ln).mapNames (p ++ ·) := by
  simp [createLNVariableNames, VariableNames.mapNames, numberedNames, numberedName_append,
    Function.comp_def]

theorem mapNames_createLNSubVariableList (p : Str) (devices : List LogicalDevice) :
    createLNSubVariableList p devices =
      (createLNSubVariableList [] devices).mapNames (p ++ ·) := by
  have hfold : ∀ parts : List VariableNames,
      (parts.map (VariableNames.mapNames (p ++ ·))).foldr (· ++ ·) ({} : VariableNames) =
        (parts.foldr (· ++ ·) ({} : VariableNames)).mapNames (p ++ ·) := by
    intro parts
    induction parts with
    | nil => rfl
    | cons part rest ih => simp [ih]
  have hnames : (devices.flatMap fun ld => ld.logicalNodes.map fun ln =>
        createLNVariableNames (joinName (joinName p ld.inst) ln.getName) ln) =
      (devices.flatMap fun ld => ld.logicalNodes.map fun ln =>
        createLNVariableNames (joinName (joinName [] ld.inst) ln.getName) ln).map
          (VariableNames.mapNames (p ++ ·)) := by
    rw [List.map_flatMap]
    congr 1
    funext device
    rw [List.map_map]
    refine List.map_congr_left fun ln _ => ?_
    rw [joinName_eq_append p, joinName_append, mapNames_createLNVariableNames]
    rfl
  unfold createLNSubVariableList
  rw [hnames, hfold]

/-! ## Control blocks -/

/-- The context of control blocks whose variables carry a prefix. -/
def ControlBlockContext.mapNames (f : Str → Str) (blocks : ControlBlockContext) :
    ControlBlockContext :=
  { blocks with names := blocks.names.mapNames f }

variable {blocks : ControlBlockContext} {u : Str}

theorem mapNames_printReportControlBlockInstance (n : ℕ) (inst : ReportInstance)
    (out : ControlBlockBuffers) :
    printReportControlBlockInstance (blocks.mapNames (p ++ ·)) (p ++ u) n inst
        (out.mapNames (p ++ ·)) =
      (printReportControlBlockInstance blocks u n inst out).mapNames (p ++ ·) := by
  simp [printReportControlBlockInstance, ControlBlockBuffers.mapNames,
    ReportControlBlockDefinition.mapNames, ControlBlockContext.mapNames, VariableNames.mapNames,
    numberedName_append]

theorem bothCarry_printReportControlBlocks (ln : LogicalNode) (out : ControlBlockBuffers) :
    BothCarry ControlBlockBuffers.mapNames p q
      (printReportControlBlocks (blocks.mapNames (p ++ ·)) (p ++ u) ln (out.mapNames (p ++ ·)))
      (printReportControlBlocks (blocks.mapNames (q ++ ·)) (q ++ u) ln
        (out.mapNames (q ++ ·))) := by
  refine BothCarry.bind_same (x := ln.reportControlBlocks.mapM (reportInstances blocks))
    fun instances _ => .pure ?_
  refine ⟨instances.flatten.zipIdx.foldl (fun out numbered =>
    printReportControlBlockInstance blocks u numbered.2 numbered.1 out) out, ?_, ?_⟩
  · exact List.foldl_hom _ fun out numbered =>
      mapNames_printReportControlBlockInstance numbered.2 numbered.1 out
  · exact List.foldl_hom _ fun out numbered =>
      mapNames_printReportControlBlockInstance numbered.2 numbered.1 out

theorem mapNames_printLogControlBlocks (p deviceInst : Str) (ln : LogicalNode)
    (out : ControlBlockBuffers) :
    printLogControlBlocks (blocks.mapNames (p ++ ·)) deviceInst (p ++ u) ln
        (out.mapNames (p ++ ·)) =
      (printLogControlBlocks blocks deviceInst u ln out).mapNames (p ++ ·) := by
  refine List.foldl_hom _ ?_
  rintro out ⟨lcb, n⟩
  simp [printLogControlBlock, ControlBlockBuffers.mapNames, LogControlBlockDefinition.mapNames,
    ControlBlockContext.mapNames, VariableNames.mapNames, numberedName_append]

theorem mapNames_printLogs (p : Str) (ln : LogicalNode) (out : ControlBlockBuffers) :
    printLogs (blocks.mapNames (p ++ ·)) (p ++ u) ln (out.mapNames (p ++ ·)) =
      (printLogs blocks u ln out).mapNames (p ++ ·) := by
  refine List.foldl_hom _ ?_
  rintro out ⟨log, n⟩
  simp [printLog, ControlBlockBuffers.mapNames, LogDefinition.mapNames,
    ControlBlockContext.mapNames, VariableNames.mapNames, numberedName_append]

theorem mapNames_printSettingControlBlock (p : Str) (ln : LogicalNode)
    (out : ControlBlockBuffers) :
    printSettingControlBlock (blocks.mapNames (p ++ ·)) (p ++ u) ln (out.mapNames (p ++ ·)) =
      (printSettingControlBlock blocks u ln out).mapNames (p ++ ·) := by
  unfold printSettingControlBlock
  cases ln.settingGroupControlBlocks with
  | nil => rfl
  | cons sgcb rest =>
      simp [ControlBlockBuffers.mapNames, SettingGroupControlBlockDefinition.mapNames,
        ControlBlockContext.mapNames, VariableNames.mapNames]

/-! ## GOOSE and sampled values -/

theorem addressDefinition_append (p name : Str) (address : PhyComAddress) :
    (addressDefinition name address).mapNames (p ++ ·) = addressDefinition (p ++ name) address := by
  simp [addressDefinition, PhyComAddressDefinition.mapNames]

/-- What is printed of an address are its parameters. -/
theorem map_addressDefinition_congr {address address' : Option PhyComAddress} (name : Str)
    (h : address.map PhyComAddress.parameters = address'.map PhyComAddress.parameters) :
    address.map (addressDefinition name) = address'.map (addressDefinition name) := by
  have hprinted : addressDefinition name =
      (fun a : AddressParameters => (⟨name ++ lit "_address", a.vlanPriority, a.vlanId, a.appId,
        a.macAddress⟩ : PhyComAddressDefinition)) ∘ PhyComAddress.parameters := rfl
  rw [hprinted, ← Option.map_map, ← Option.map_map, h]

/-- Two device parts under which a GOOSE control finds the same parameters. -/
def GseAlike (blocks : ControlBlockContext) (part part' cbName : Str) : Prop :=
  ∀ connectedAP, blocks.connectedAP = some connectedAP →
    (connectedAP.lookupGSE part cbName).map GSE.parameters =
      (connectedAP.lookupGSE part' cbName).map GSE.parameters

/-- Two device parts under which a sampled value control finds the same address. -/
def SmvAlike (blocks : ControlBlockContext) (part part' cbName : Str) : Prop :=
  ∀ connectedAP, blocks.connectedAP = some connectedAP →
    ((connectedAP.lookupSMV part cbName).bind SMV.address).map PhyComAddress.parameters =
      ((connectedAP.lookupSMV part' cbName).bind SMV.address).map PhyComAddress.parameters

def mapCounted (f : Str → Str) (state : ℕ × ControlBlockBuffers) : ℕ × ControlBlockBuffers :=
  (state.1, state.2.mapNames f)

theorem bothCarry_printGSEControlBlock {part part' : Str} {control : GSEControl}
    (halike : GseAlike blocks part part' control.name) (state : ℕ × ControlBlockBuffers) :
    BothCarry mapCounted p q
      (printGSEControlBlock (blocks.mapNames (p ++ ·)) part (p ++ u) (mapCounted (p ++ ·) state)
        control)
      (printGSEControlBlock (blocks.mapNames (q ++ ·)) part' (q ++ u) (mapCounted (q ++ ·) state)
        control) := by
  refine BothCarry.bind_same (x := deref blocks.connectedAP) fun connectedAP hconnected => ?_
  have hsame := halike connectedAP (deref_eq_ok.mp hconnected)
  cases hleft : connectedAP.lookupGSE part control.name with
  | none =>
      have hright : connectedAP.lookupGSE part' control.name = none := by
        rw [hleft, Option.map_none] at hsame
        exact Option.map_eq_none_iff.mp hsame.symm
      rw [hright]
      exact .pure ⟨state, rfl, rfl⟩
  | some gse =>
      obtain ⟨gse', hright, hparameters⟩ : ∃ gse',
          connectedAP.lookupGSE part' control.name = some gse' ∧
            gse'.parameters = gse.parameters := by
        rw [hleft, Option.map_some] at hsame
        exact Option.map_eq_some_iff.mp hsame.symm
      obtain ⟨haddress, hmin, hmax⟩ := GseParameters.mk.inj hparameters
      rw [hright]
      refine .pure ⟨(state.1 + 1, { state.2 with
        gseControlBlocks := state.2.gseControlBlocks ++ [{
          blockName := numberedName u "gse" state.1
          parent := u
          name := control.name
          appId := quoted control.appID
          dataSet := quoted control.datSet
          confRev := control.confRev
          fixedOffs := control.fixedOffs
          address := gse.address.map (addressDefinition (numberedName u "gse" state.1))
          minTime := gse.minTime
          maxTime := gse.maxTime
          sibling := blocks.names.gse[state.2.gseControlBlocks.length + 1]? }] }), ?_, ?_⟩
      · simp [mapCounted, ControlBlockBuffers.mapNames, GSEControlBlockDefinition.mapNames,
          ControlBlockContext.mapNames, VariableNames.mapNames, numberedName_append,
          Function.comp_def, addressDefinition_append]
      · rw [hmin, hmax, map_addressDefinition_congr _ haddress]
        simp [mapCounted, ControlBlockBuffers.mapNames, GSEControlBlockDefinition.mapNames,
          ControlBlockContext.mapNames, VariableNames.mapNames, numberedName_append,
          Function.comp_def, addressDefinition_append]

theorem bothCarry_printSVControlBlock {part part' : Str}
    {numbered : SampledValueControl × ℕ}
    (halike : SmvAlike blocks part part' numbered.1.name) (out : ControlBlockBuffers) :
    BothCarry ControlBlockBuffers.mapNames p q
      (printSVControlBlock (blocks.mapNames (p ++ ·)) part (p ++ u) (out.mapNames (p ++ ·))
        numbered)
      (printSVControlBlock (blocks.mapNames (q ++ ·)) part' (q ++ u) (out.mapNames (q ++ ·))
        numbered) := by
  refine BothCarry.bind_same (x := deref blocks.connectedAP) fun connectedAP hconnected => ?_
  have hsame := halike connectedAP (deref_eq_ok.mp hconnected)
  refine BothCarry.bind_same fun smvOpts _ => .pure ?_
  refine ⟨{ out with
    smvControlBlocks := out.smvControlBlocks ++ [{
      blockName := numberedName u "smv" numbered.2
      parent := u
      name := numbered.1.name
      svId := quoted numbered.1.smvID
      dataSet := quoted numbered.1.datSet
      optFlds := smvOpts.getIntValue
      smpMod := numbered.1.smpMod
      smpRate := numbered.1.smpRate
      confRev := numbered.1.confRev
      dstAddress := ((connectedAP.lookupSMV part numbered.1.name).bind (·.address)).map
        (addressDefinition (numberedName u "smv" numbered.2))
      unicast := !numbered.1.multicast
      noASDU := numbered.1.nofASDU
      sibling := blocks.names.smv[out.smvControlBlocks.length + 1]? }] }, ?_, ?_⟩
  · simp [ControlBlockBuffers.mapNames, SVControlBlockDefinition.mapNames,
      ControlBlockContext.mapNames, VariableNames.mapNames, numberedName_append,
      Function.comp_def, addressDefinition_append]
  · rw [← map_addressDefinition_congr _ hsame]
    simp [ControlBlockBuffers.mapNames, SVControlBlockDefinition.mapNames,
      ControlBlockContext.mapNames, VariableNames.mapNames, numberedName_append,
      Function.comp_def, addressDefinition_append]

/-- What the control blocks of a node find under the two device variables. -/
structure BlocksAlike (blocks : ControlBlockContext) (p q : Str) (device : LogicalDevice)
    (ln : LogicalNode) : Prop where
  goose : ∀ control ∈ ln.gseControlBlocks, ∀ part part', devicePart p device = some part →
    devicePart q device = some part' → GseAlike blocks part part' control.name
  sampledValues : ∀ control ∈ ln.smvControlBlocks, ∀ part part',
    devicePart p device = some part → devicePart q device = some part' →
      SmvAlike blocks part part' control.name

variable {device : LogicalDevice} {ln : LogicalNode}

theorem bothCarry_printGSEControlBlocks (halike : BlocksAlike blocks p q device ln)
    (out : ControlBlockBuffers) :
    BothCarry ControlBlockBuffers.mapNames p q
      (printGSEControlBlocks (blocks.mapNames (p ++ ·)) (joinName p device.inst) (p ++ u) ln
        (out.mapNames (p ++ ·)))
      (printGSEControlBlocks (blocks.mapNames (q ++ ·)) (joinName q device.inst) (q ++ u) ln
        (out.mapNames (q ++ ·))) := by
  obtain ⟨part, hpart⟩ := deviceComponent_ok p device.inst
  obtain ⟨part', hpart'⟩ := deviceComponent_ok q device.inst
  unfold printGSEControlBlocks
  rw [hpart, hpart', ok_bind, ok_bind]
  refine BothCarry.bind (m := mapCounted) (BothCarry.foldlM (n := mapCounted)
    (fun control hcontrol state => ?_) (0, out)) fun state _ _ => .pure ⟨state.2, rfl, rfl⟩
  exact bothCarry_printGSEControlBlock (halike.goose control hcontrol part part'
    (deviceComponent_eq_ok hpart) (deviceComponent_eq_ok hpart')) state

theorem bothCarry_printSVControlBlocks (halike : BlocksAlike blocks p q device ln)
    (out : ControlBlockBuffers) :
    BothCarry ControlBlockBuffers.mapNames p q
      (printSVControlBlocks (blocks.mapNames (p ++ ·)) (joinName p device.inst) (p ++ u) ln
        (out.mapNames (p ++ ·)))
      (printSVControlBlocks (blocks.mapNames (q ++ ·)) (joinName q device.inst) (q ++ u) ln
        (out.mapNames (q ++ ·))) := by
  obtain ⟨part, hpart⟩ := deviceComponent_ok p device.inst
  obtain ⟨part', hpart'⟩ := deviceComponent_ok q device.inst
  unfold printSVControlBlocks
  rw [hpart, hpart', ok_bind, ok_bind]
  refine BothCarry.foldlM (fun numbered hnumbered out => ?_) out
  exact bothCarry_printSVControlBlock (halike.sampledValues numbered.1
    (List.fst_mem_of_mem_zipIdx hnumbered) part part' (deviceComponent_eq_ok hpart)
    (deviceComponent_eq_ok hpart')) out

theorem bothCarry_printControlBlocks (halike : BlocksAlike blocks p q device ln)
    (deviceInst : Str) (out : ControlBlockBuffers) :
    BothCarry ControlBlockBuffers.mapNames p q
      (printControlBlocks (blocks.mapNames (p ++ ·)) deviceInst (joinName p device.inst) (p ++ u)
        ln (out.mapNames (p ++ ·)))
      (printControlBlocks (blocks.mapNames (q ++ ·)) deviceInst (joinName q device.inst) (q ++ u)
        ln (out.mapNames (q ++ ·))) := by
  unfold printControlBlocks
  refine (bothCarry_printReportControlBlocks ln out).bind fun reports _ _ => ?_
  rw [mapNames_printLogControlBlocks, mapNames_printLogs, mapNames_printLogControlBlocks,
    mapNames_printLogs]
  refine (bothCarry_printGSEControlBlocks halike _).bind fun between _ _ => ?_
  refine (bothCarry_printSVControlBlocks halike between).bind fun after _ _ => .pure ?_
  exact ⟨printSettingControlBlock blocks u ln after,
    mapNames_printSettingControlBlock p ln after, mapNames_printSettingControlBlock q ln after⟩

end Iec61850.Scl
