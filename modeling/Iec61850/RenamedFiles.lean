import Iec61850.RenamedBlocks

/-!
# Renamed files

The files generated with two model prefixes.  Where `SE_` is inserted alike and
the communication section is read alike, they are one pair of files with either
prefix in front of its names; a macro has the upper case of the prefix in front.
-/

namespace Iec61850.Scl

open Go

variable {p q : Str} {rt : Runtime} {ctx : PrintContext} {blocks : ControlBlockContext}

/-! ## Devices and logical nodes -/

/-- What a node reads under the two prefixes. -/
structure NodeAlike (blocks : ControlBlockContext) (p q : Str) (device : LogicalDevice)
    (ln : LogicalNode) : Prop where
  setpoints : ∀ w ∈ objectSetpoints memberParents
    (joinName (joinName [] device.inst) ln.getName) ln.dataObjects, SetpointPlace p q w
  blocks : BlocksAlike blocks p q device ln

theorem bothCarry_printLogicalNodeDefinition {device : LogicalDevice} {ln : LogicalNode}
    (halike : NodeAlike blocks p q device ln) (next : Option LogicalNode) (out : DeviceModel) :
    BothCarry DeviceModel.mapNames p q
      (printLogicalNodeDefinition (ctx.withPrefix p) (blocks.mapNames (p ++ ·)) device.inst
        (joinName p device.inst) next ln (out.mapNames (p ++ ·)))
      (printLogicalNodeDefinition (ctx.withPrefix q) (blocks.mapNames (q ++ ·)) device.inst
        (joinName q device.inst) next ln (out.mapNames (q ++ ·))) := by
  have hnode : InModel [] 1 (joinName (joinName [] device.inst) ln.getName) :=
    (inModel_joinName device.inst).child ln.getName
  have hname : ∀ o, joinName (joinName o device.inst) ln.getName =
      o ++ joinName (joinName [] device.inst) ln.getName := by simp [joinName]
  unfold printLogicalNodeDefinition
  refine BothCarry.bind_same fun firstChild _ => ?_
  rw [hname p, hname q]
  refine (bothCarry_printDataObjectDefinitions hnode ⟨none, rfl, rfl⟩
    fun w hw _ _ => halike.setpoints w hw).bind fun objects _ _ => ?_
  refine (bothCarry_printControlBlocks halike.blocks device.inst out.buffers).bind
    fun buffers _ _ => .pure ?_
  refine ⟨⟨out.definitions ++ (Definitions.ofNode (logicalNodeNode (joinName [] device.inst) next
    firstChild ln) ++ objects), buffers⟩, ?_, ?_⟩ <;>
    simp [DeviceModel.mapNames, logicalNodeNode, NodeDefinition.mapNames, joinName,
      Function.comp_def]

theorem bothCarry_printLogicalNodeDefinitions {device : LogicalDevice}
    {nodes : List LogicalNode} (halike : ∀ ln ∈ nodes, NodeAlike blocks p q device ln)
    (out : DeviceModel) :
    BothCarry DeviceModel.mapNames p q
      (printLogicalNodeDefinitions (ctx.withPrefix p) (blocks.mapNames (p ++ ·)) device.inst
        (joinName p device.inst) nodes (out.mapNames (p ++ ·)))
      (printLogicalNodeDefinitions (ctx.withPrefix q) (blocks.mapNames (q ++ ·)) device.inst
        (joinName q device.inst) nodes (out.mapNames (q ++ ·))) := by
  induction nodes generalizing out with
  | nil => exact .pure ⟨out, rfl, rfl⟩
  | cons ln rest ih =>
      obtain ⟨hln, hrest⟩ := List.forall_mem_cons.mp halike
      exact (bothCarry_printLogicalNodeDefinition hln rest.head? out).bind
        fun between _ _ => ih hrest between

theorem bothCarry_printLogicalDeviceDefinitions {devices : List LogicalDevice}
    (halike : ∀ device ∈ devices, ∀ ln ∈ device.logicalNodes, NodeAlike blocks p q device ln)
    (out : DeviceModel) :
    BothCarry DeviceModel.mapNames p q
      (printLogicalDeviceDefinitions (ctx.withPrefix p) (blocks.mapNames (p ++ ·)) p devices
        (out.mapNames (p ++ ·)))
      (printLogicalDeviceDefinitions (ctx.withPrefix q) (blocks.mapNames (q ++ ·)) q devices
        (out.mapNames (q ++ ·))) := by
  induction devices generalizing out with
  | nil => exact .pure ⟨out, rfl, rfl⟩
  | cons device rest ih =>
      obtain ⟨hdevice, hrest⟩ := List.forall_mem_cons.mp halike
      refine BothCarry.bind (m := DeviceModel.mapNames) ?_ fun between _ _ => ih hrest between
      unfold printLogicalDeviceDefinition
      refine BothCarry.bind_same fun firstChild _ => ?_
      have hstart : ∀ o : Str, ({ out.mapNames (o ++ ·) with
            definitions := (out.mapNames (o ++ ·)).definitions ++
              Definitions.ofNode (logicalDeviceNode o rest.head? firstChild device) } :
              DeviceModel) =
          ({ out with
            definitions := out.definitions ++
              Definitions.ofNode (logicalDeviceNode [] rest.head? firstChild device) } :
              DeviceModel).mapNames (o ++ ·) := by
        intro o
        simp [DeviceModel.mapNames, logicalDeviceNode, NodeDefinition.mapNames, joinName,
          Function.comp_def]
      simp only [hstart]
      exact bothCarry_printLogicalNodeDefinitions hdevice _

/-! ## The files -/

theorem mapM_printVariablePointerDefine (rt : Runtime) (p : Str) (rests : List Str) :
    (rests.map (p ++ ·)).mapM (printVariablePointerDefine rt p) =
      .ok (rests.map fun r => ⟨rt.toUpper p ++ r, p ++ r⟩) := by
  induction rests with
  | nil => rfl
  | cons r rest ih =>
      have hr : printVariablePointerDefine rt p (p ++ r) =
          .ok ⟨rt.toUpper p ++ r, p ++ r⟩ := by
        simp [printVariablePointerDefine, pure, Except.pure]
      rw [List.map_cons, List.mapM_cons, hr, ok_bind, ih]
      rfl

theorem mapNames_printIedModel (s : StaticModelGenerator) (firstDevice : LogicalDevice)
    (dataSets : List Str) (names : VariableNames) :
    printIedModel s firstDevice (dataSets.map (s.modelPrefix ++ ·))
        (names.mapNames (s.modelPrefix ++ ·)) =
      (printIedModel { s with modelPrefix := [] } firstDevice dataSets names).mapNames
        (s.modelPrefix ++ ·) := by
  simp [printIedModel, IedModelDefinition.mapNames, VariableNames.mapNames, joinName]

theorem mapNames_printBuffers (f : Str → Str) (names : VariableNames)
    (buffers : ControlBlockBuffers) :
    printBuffers (names.mapNames f) (buffers.mapNames f) =
      (printBuffers names buffers).map (CItem.mapNames f) := by
  have hsv : ∀ d : SVControlBlockDefinition,
      svItems (d.mapNames f) = (svItems d).map (CItem.mapNames f) := by
    intro d
    cases haddress : d.dstAddress <;>
      simp [svItems, SVControlBlockDefinition.mapNames, haddress, CItem.mapNames]
  have hgse : ∀ d : GSEControlBlockDefinition,
      gseItems (d.mapNames f) = (gseItems d).map (CItem.mapNames f) := by
    intro d
    cases haddress : d.address <;>
      simp [gseItems, GSEControlBlockDefinition.mapNames, haddress, CItem.mapNames]
  simp [printBuffers, externDeclarations, VariableNames.mapNames, ControlBlockBuffers.mapNames,
    CItem.mapNames, ExternDeclaration.mapNames, Function.comp_def, List.flatMap_map,
    List.map_flatMap, hsv, hgse]

/-- One pair of files with `p` and with `q` in front of all names. -/
def Renamed (rt : Runtime) (p q : Str) (files files' : GeneratedFiles) : Prop :=
  ∃ rests : GeneratedFiles, files = rests.mapNames (rt.toUpper p ++ ·) (p ++ ·) ∧
    files' = rests.mapNames (rt.toUpper q ++ ·) (q ++ ·)

section Stages

variable {scl : SCL} {args : GeneratorArguments}

def GeneratorArguments.withPrefix (args : GeneratorArguments) (modelPrefix : Str) :
    GeneratorArguments :=
  { args with modelPrefix := modelPrefix }

/-- The same IED, access point and devices under another prefix. -/
def Selection.withPrefix (S : Selection scl args) (modelPrefix : Str) :
    Selection scl (args.withPrefix modelPrefix) :=
  ⟨S.ied, S.accessPoint, S.logicalDevices, S.selectIed_eq, S.selectAccessPoint_eq, S.server_eq⟩

/-- The context of the control blocks with the rests of their names. -/
def Selection.restContext (rt : Runtime) (S : Selection scl args) : ControlBlockContext :=
  (S.generator rt).controlBlockContext (createLNSubVariableList [] S.logicalDevices)

theorem Selection.controlBlockContext_eq (S : Selection scl args) (p : Str) :
    ((S.withPrefix p).generator rt).controlBlockContext
        (createLNSubVariableList p S.logicalDevices) =
      (S.restContext rt).mapNames (p ++ ·) := by
  rw [mapNames_createLNSubVariableList]
  rfl

variable {S : Selection scl args} {files files' : GeneratedFiles} {outFileName : Str}

/-- The names of a run are those of its template. -/
theorem RunStages.eq_mapNames
    (R : RunStages ((S.withPrefix p).generator rt) outFileName S.logicalDevices files)
    {externs : List ExternDeclaration} {dataSets : List CItem} {model : DeviceModel}
    {firstDevice : LogicalDevice} (hfirst : R.firstDevice = firstDevice)
    (hexterns : R.externs = externs.map (ExternDeclaration.mapNames (p ++ ·)))
    (hdataSets : R.dataSets = dataSets.map (CItem.mapNames (p ++ ·)))
    (hmodel : R.model = model.mapNames (p ++ ·)) :
    files = GeneratedFiles.mapNames (rt.toUpper p ++ ·) (p ++ ·) {
      c := .initializerPrototype ::
        (dataSets ++ model.definitions.cOut.map .node ++
          printBuffers (createLNSubVariableList [] S.logicalDevices) model.buffers ++
          [.iedModel (printIedModel ((S.withPrefix []).generator rt) firstDevice
            (dataSetNames [] S.logicalDevices) (createLNSubVariableList [] S.logicalDevices))]) ++
        [.initializer model.definitions.initializerBuffer]
      h := {
        hDefineName := hDefineName rt outFileName
        externs := externs
        defines := model.definitions.variablesList.map fun r => ⟨r, r⟩ } } := by
  have hdefines := R.defines_eq
  rw [hmodel] at hdefines
  have hprinted := mapM_printVariablePointerDefine rt p model.definitions.variablesList
  have hsame := Except.ok.inj (hdefines.symm.trans hprinted)
  have hied := mapNames_printIedModel ((S.withPrefix p).generator rt) firstDevice
    (dataSetNames [] S.logicalDevices) (createLNSubVariableList [] S.logicalDevices)
  refine R.files_eq.trans ?_
  rw [hsame, hexterns, hdataSets, hmodel, hfirst]
  have hmodelPrefix : ((S.withPrefix p).generator rt).modelPrefix = p := rfl
  have hgenerator : ({ (S.withPrefix p).generator rt with modelPrefix := [] } :
      StaticModelGenerator) = (S.withPrefix []).generator rt := rfl
  rw [hmodelPrefix] at hied ⊢
  rw [hgenerator] at hied
  rw [dataSetNames_eq p, mapNames_createLNSubVariableList p, hied]
  simp [GeneratedFiles.mapNames, DeviceModel.mapNames, mapNames_printBuffers,
    Definitions.mapNames, CItem.mapNames, PointerDefine.mapNames, Function.comp_def]
  rfl

theorem RunStages.renamed
    (R : RunStages ((S.withPrefix p).generator rt) outFileName S.logicalDevices files)
    (R' : RunStages ((S.withPrefix q).generator rt) outFileName S.logicalDevices files')
    (halike : ∀ device ∈ S.logicalDevices, ∀ ln ∈ device.logicalNodes,
      NodeAlike (S.restContext rt) p q device ln) (hp : p ≠ []) (hq : q ≠ []) :
    Renamed rt p q files files' := by
  have hdeclared : ∀ device ∈ S.logicalDevices, ∀ ln ∈ device.logicalNodes,
      ∀ w ∈ objectSetpoints declaredParents (joinName (joinName [] device.inst) ln.getName)
        ln.dataObjects, Cuttable p (p ++ w) → Cuttable q (q ++ w) → SetpointPlace p q w :=
    fun device hdevice ln hln => declared_objectPlaces hp hq
      ((inModel_joinName device.inst).child ln.getName)
      (halike device hdevice ln hln).setpoints
  obtain ⟨externs, hexterns, hexterns'⟩ :=
    @bothCarry_printForwardDeclarations p q (S.generator rt).printContext _ hdeclared _ _
      R.externs_eq R'.externs_eq
  obtain ⟨dataSets, hdataSets, hdataSets'⟩ :=
    bothCarry_printDataSets S.logicalDevices _ _ R.dataSets_eq R'.dataSets_eq
  have hmodels := @bothCarry_printLogicalDeviceDefinitions p q (S.generator rt).printContext
    (S.restContext rt) _ halike {}
  have hleft := R.model_eq
  have hright := R'.model_eq
  rw [← S.controlBlockContext_eq p, ← S.controlBlockContext_eq q] at hmodels
  obtain ⟨model, hmodel, hmodel'⟩ := hmodels _ _ hleft hright
  have hfirst : R'.firstDevice = R.firstDevice :=
    Except.ok.inj (R'.firstDevice_eq.symm.trans R.firstDevice_eq)
  exact ⟨_, R.eq_mapNames rfl hexterns hdataSets hmodel,
    R'.eq_mapNames hfirst hexterns' hdataSets' hmodel'⟩

end Stages

end Iec61850.Scl
