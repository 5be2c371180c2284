import Iec61850.ControlBlockRun

/-!
# Addresses of GOOSE and sampled value control blocks

The generator finds the communication parameters of a control block in three
steps: the connected access point by the name of the access point alone, the
name of the device by splitting its variable name, and the element by device
and block name.  The element it finds is compared with the elements which the
file has for the selected IED, its access point, the device and the block.
-/

namespace Iec61850.Scl

open Go

variable {rt : Runtime} {scl : SCL} {args : GeneratorArguments}

/-! ## The elements meant by the file -/

def SCL.connectedAPs (scl : SCL) : List ConnectedAP :=
  match scl.communication with
  | some communication => communication.subNetworks.flatMap (·.connectedAP)
  | none => []

/-- The connected access points of the selected IED and access point. -/
structure Selection.Connects (S : Selection scl args) (connectedAP : ConnectedAP) :
    Prop where
  mem : connectedAP ∈ scl.connectedAPs
  iedName : connectedAP.iedName = S.ied.name
  apName : connectedAP.apName = S.accessPoint.name

/-- An element of one kind for a device and a control block. -/
def Selection.HasElement {α : Type} (S : Selection scl args)
    (elements : ConnectedAP → List α) (key : α → Str × Str) (device : LogicalDevice)
    (cbName : Str) (a : α) : Prop :=
  ∃ connectedAP, S.Connects connectedAP ∧ a ∈ elements connectedAP ∧
    key a = (device.inst, cbName)

def GSE.key (gse : GSE) : Str × Str := (gse.ldInst, gse.cbName)

def SMV.key (smv : SMV) : Str × Str := (smv.ldInst, smv.cbName)

def Selection.HasGSE (S : Selection scl args) : LogicalDevice → Str → GSE → Prop :=
  S.HasElement ConnectedAP.gesNodes GSE.key

def Selection.HasSMV (S : Selection scl args) : LogicalDevice → Str → SMV → Prop :=
  S.HasElement ConnectedAP.smvNodes SMV.key

structure AddressParameters where
  vlanPriority : ℤ
  vlanId : ℤ
  appId : ℤ
  macAddress : List ℤ
  deriving DecidableEq, Repr

structure GseParameters where
  address : Option AddressParameters
  minTime : ℤ
  maxTime : ℤ
  deriving DecidableEq, Repr

def PhyComAddress.parameters (address : PhyComAddress) : AddressParameters :=
  ⟨address.vlanPriority, address.vlanId, address.appId, address.macAddress⟩

def PhyComAddressDefinition.parameters (d : PhyComAddressDefinition) : AddressParameters :=
  ⟨d.vlanPriority, d.vlanId, d.appId, d.macAddress⟩

def GSE.parameters (gse : GSE) : GseParameters :=
  ⟨gse.address.map PhyComAddress.parameters, gse.minTime, gse.maxTime⟩

def GSEControlBlockDefinition.parameters (d : GSEControlBlockDefinition) : GseParameters :=
  ⟨d.address.map PhyComAddressDefinition.parameters, d.minTime, d.maxTime⟩

/-! ## What is printed for a control -/

/-- A GOOSE control block has the parameters of its own element, and is left
out exactly when it has none. -/
def GseAddressed (S : Selection scl args) (device : LogicalDevice) (control : GSEControl) :
    Option GSEControlBlockDefinition → Prop
  | some block => ∃ gse, S.HasGSE device control.name gse ∧ block.parameters = gse.parameters
  | none => ¬ ∃ gse, S.HasGSE device control.name gse

/-- A sampled value control block has the address of its own element, and none
exactly when it has no element. -/
def SmvAddressed (S : Selection scl args) (device : LogicalDevice)
    (control : SampledValueControl) (block : SVControlBlockDefinition) : Prop :=
  match block.dstAddress with
  | some address => ∃ smv, S.HasSMV device control.name smv ∧
      smv.address.map PhyComAddress.parameters = some address.parameters
  | none => ¬ ∃ smv, S.HasSMV device control.name smv

/-- The block is the one printed for this control of this node. -/
structure PrintedForGSE (modelPrefix : Str) (p : PlacedNode) (control : GSEControl)
    (block : GSEControlBlockDefinition) : Prop where
  parent : block.parent = p.variableName modelPrefix
  name : block.name = control.name

structure PrintedForSMV (modelPrefix : Str) (p : PlacedNode) (control : SampledValueControl)
    (block : SVControlBlockDefinition) : Prop where
  parent : block.parent = p.variableName modelPrefix
  name : block.name = control.name

/-! ## The keys of the generator -/

/-- The text between the first two underscores of the device variable. -/
def devicePart (modelPrefix : Str) (device : LogicalDevice) : Option Str :=
  (split '_' (joinName modelPrefix device.inst))[1]?

/-- The element found under the keys of the generator. -/
def Selection.located {α : Type} (S : Selection scl args) (elements : ConnectedAP → List α)
    (key : α → Str × Str) (device : LogicalDevice) (cbName : Str) : Option α := do
  let connectedAP ← S.connectedAP
  let part ← devicePart args.modelPrefix device
  (elements connectedAP).find? fun a => key a = (part, cbName)

def Selection.locatedGSE (S : Selection scl args) : LogicalDevice → Str → Option GSE :=
  S.located ConnectedAP.gesNodes GSE.key

def Selection.locatedSMV (S : Selection scl args) : LogicalDevice → Str → Option SMV :=
  S.located ConnectedAP.smvNodes SMV.key

/-- The connected access point found by the access point's name is the only one
of the selected IED, and the part of the device variable is the device. -/
structure Selection.KeysAgree (S : Selection scl args) (device : LogicalDevice) : Prop where
  only : ∀ connectedAP, S.Connects connectedAP ↔ S.connectedAP = some connectedAP
  device : devicePart args.modelPrefix device = some device.inst

/-! ## Lookups -/

theorem lookupGSE_eq (connectedAP : ConnectedAP) (device cbName : Str) :
    connectedAP.lookupGSE device cbName =
      connectedAP.gesNodes.find? fun gse => gse.key = (device, cbName) := by
  simp [ConnectedAP.lookupGSE, GSE.key]

theorem lookupSMV_eq (connectedAP : ConnectedAP) (device cbName : Str) :
    connectedAP.lookupSMV device cbName =
      connectedAP.smvNodes.find? fun smv => smv.key = (device, cbName) := by
  simp [ConnectedAP.lookupSMV, SMV.key]

theorem Selection.KeysAgree.located_eq {α : Type} {S : Selection scl args}
    {device : LogicalDevice} (h : S.KeysAgree device) {connectedAP : ConnectedAP}
    (hconnected : S.connectedAP = some connectedAP) (elements : ConnectedAP → List α)
    (key : α → Str × Str) (cbName : Str) :
    S.located elements key device cbName =
      (elements connectedAP).find? fun a => key a = (device.inst, cbName) := by
  simp [Selection.located, hconnected, h.device]

/-- Where the keys agree, the element found is one of the file's own elements. -/
theorem Selection.KeysAgree.hasElement {α : Type} {S : Selection scl args}
    {device : LogicalDevice} (h : S.KeysAgree device) {elements : ConnectedAP → List α}
    {key : α → Str × Str} {cbName : Str} {a : α}
    (hlocated : S.located elements key device cbName = some a) :
    S.HasElement elements key device cbName a := by
  cases hconnected : S.connectedAP with
  | none => simp [Selection.located, hconnected] at hlocated
  | some connectedAP =>
      rw [h.located_eq hconnected] at hlocated
      have hconnects := (h.only connectedAP).mpr hconnected
      have hkey : key a = (device.inst, cbName) := by simpa using List.find?_some hlocated
      exact ⟨connectedAP, hconnects, List.mem_of_find?_eq_some hlocated, hkey⟩

/-- Where the keys agree, nothing is found only if there is no element. -/
theorem Selection.KeysAgree.not_hasElement {α : Type} {S : Selection scl args}
    {device : LogicalDevice} (h : S.KeysAgree device) {elements : ConnectedAP → List α}
    {key : α → Str × Str} {cbName : Str}
    (hlocated : S.located elements key device cbName = none) :
    ¬ ∃ a, S.HasElement elements key device cbName a := by
  rintro ⟨a, connectedAP, hconnects, ha, hkey⟩
  have hconnected := (h.only connectedAP).mp hconnects
  rw [h.located_eq hconnected, List.find?_eq_none] at hlocated
  exact hlocated a ha (by simpa using hkey)

/-! ## The printed blocks -/

variable {S : Selection scl args}

theorem deviceComponent_eq_ok {device : LogicalDevice} {modelPrefix part : Str}
    (h : deviceComponent (joinName modelPrefix device.inst) = .ok part) :
    devicePart modelPrefix device = some part := by
  unfold deviceComponent at h
  unfold devicePart
  split at h
  next part' hpart => exact hpart.trans (congrArg some (Except.ok.inj h))
  next => cases h

/-- What is printed for a GOOSE control: the parameters of the element that is
found, or nothing. -/
def GseResult (S : Selection scl args) (p : PlacedNode) (control : GSEControl)
    (result : Option GSEControlBlockDefinition) : Prop :=
  Option.Rel
    (fun gse block => PrintedForGSE args.modelPrefix p control block ∧
      block.parameters = gse.parameters)
    (S.locatedGSE p.device control.name) result

theorem parameters_addressDefinition (blockName : Str) (address : PhyComAddress) :
    (addressDefinition blockName address).parameters = address.parameters := rfl

theorem printGSEControlBlock_result {names : VariableNames} {p : PlacedNode} {part : Str}
    {n n' : ℕ} {out out' : ControlBlockBuffers} {control : GSEControl}
    (hpart : devicePart args.modelPrefix p.device = some part)
    (h : printGSEControlBlock ((S.generator rt).controlBlockContext names) part
      (p.variableName args.modelPrefix) (n, out) control = .ok (n', out')) :
    ∃ result, out'.gseControlBlocks = out.gseControlBlocks ++ Option.toList result ∧
      GseResult S p control result := by
  obtain ⟨connectedAP, hconnected, h⟩ := bind_eq_ok.mp h
  have hconnected : S.connectedAP = some connectedAP := deref_eq_ok.mp hconnected
  have hlocated : S.locatedGSE p.device control.name =
      connectedAP.lookupGSE part control.name := by
    rw [lookupGSE_eq]
    simp [Selection.locatedGSE, Selection.located, hconnected, hpart]
  split at h
  next hnone =>
    obtain ⟨-, rfl⟩ := Prod.mk.inj (Except.ok.inj h)
    refine ⟨none, by simp, ?_⟩
    rw [GseResult, hlocated, hnone]
    exact .none
  next gse hsome =>
    obtain ⟨-, rfl⟩ := Prod.mk.inj (Except.ok.inj h)
    refine ⟨some _, rfl, ?_⟩
    rw [GseResult, hlocated, hsome]
    refine .some ⟨⟨rfl, rfl⟩, ?_⟩
    simp [GSEControlBlockDefinition.parameters, GSE.parameters, Function.comp_def,
      parameters_addressDefinition]

/-- What is printed for a sampled value control: a block with the address of
the element that is found, if it has one. -/
structure SmvResult (S : Selection scl args) (p : PlacedNode) (control : SampledValueControl)
    (block : SVControlBlockDefinition) : Prop where
  printed : PrintedForSMV args.modelPrefix p control block
  address : block.dstAddress.map PhyComAddressDefinition.parameters =
    ((S.locatedSMV p.device control.name).bind SMV.address).map PhyComAddress.parameters

theorem printSVControlBlock_result {names : VariableNames} {p : PlacedNode} {part : Str}
    {out out' : ControlBlockBuffers} {numbered : SampledValueControl × ℕ}
    (hpart : devicePart args.modelPrefix p.device = some part)
    (h : printSVControlBlock ((S.generator rt).controlBlockContext names) part
      (p.variableName args.modelPrefix) out numbered = .ok out') :
    ∃ block, out'.smvControlBlocks = out.smvControlBlocks ++ [block] ∧
      SmvResult S p numbered.1 block := by
  obtain ⟨connectedAP, hconnected, h⟩ := bind_eq_ok.mp h
  obtain ⟨smvOpts, -, h⟩ := bind_eq_ok.mp h
  obtain rfl := Except.ok.inj h
  have hconnected : S.connectedAP = some connectedAP := deref_eq_ok.mp hconnected
  have hlocated : S.locatedSMV p.device numbered.1.name =
      connectedAP.lookupSMV part numbered.1.name := by
    rw [lookupSMV_eq]
    simp [Selection.locatedSMV, Selection.located, hconnected, hpart]
  refine ⟨_, rfl, ⟨rfl, rfl⟩, ?_⟩
  rw [hlocated]
  simp [Function.comp_def, parameters_addressDefinition]

theorem printPlacedBlocks_gse {names : VariableNames} {p : PlacedNode}
    {out out' : ControlBlockBuffers}
    (h : printPlacedBlocks ((S.generator rt).controlBlockContext names) args.modelPrefix out
      p = .ok out') :
    ∃ results : List (Option GSEControlBlockDefinition),
      out'.gseControlBlocks = out.gseControlBlocks ++ results.flatMap Option.toList ∧
        List.Forall₂ (GseResult S p) p.node.gseControlBlocks results := by
  obtain ⟨before, between, _, hbefore, hgse, -, -, hafter, -⟩ := printControlBlocks_ok h
  obtain ⟨part, hpart, hgse⟩ := bind_eq_ok.mp hgse
  obtain ⟨⟨n, last⟩, hloop, hgse⟩ := bind_eq_ok.mp hgse
  obtain rfl := Except.ok.inj hgse
  have hpart := deviceComponent_eq_ok hpart
  obtain ⟨addeds, haddeds, hall⟩ := foldlM_appends
    (g := fun state : ℕ × ControlBlockBuffers => state.2.gseControlBlocks)
    (T := fun control added => ∃ result, added = Option.toList result ∧
      GseResult S p control result) hloop
    (by
      rintro ⟨m, b⟩ ⟨m', b'⟩ control - hcontrol
      obtain ⟨result, hresult, hlocated⟩ := printGSEControlBlock_result hpart hcontrol
      exact ⟨_, hresult, result, rfl, hlocated⟩)
  obtain ⟨results, hresults, hlocated⟩ := exists_results_of_appends hall
  refine ⟨results, ?_, hlocated⟩
  rw [hafter, ← hbefore, ← hresults]
  exact haddeds

theorem printPlacedBlocks_smv {names : VariableNames} {p : PlacedNode}
    {out out' : ControlBlockBuffers}
    (h : printPlacedBlocks ((S.generator rt).controlBlockContext names) args.modelPrefix out
      p = .ok out') :
    ∃ results : List SVControlBlockDefinition,
      out'.smvControlBlocks = out.smvControlBlocks ++ results.flatMap (fun d => [d]) ∧
        List.Forall₂ (SmvResult S p) p.node.smvControlBlocks results := by
  obtain ⟨before, between, last, hbefore, hgse, hbetween, hsv, -, hafter⟩ :=
    printControlBlocks_ok h
  obtain ⟨part, hpart, hloop⟩ := bind_eq_ok.mp hsv
  have hpart := deviceComponent_eq_ok hpart
  obtain ⟨addeds, haddeds, hall⟩ := foldlM_appends
    (g := ControlBlockBuffers.smvControlBlocks)
    (T := fun (numbered : SampledValueControl × ℕ) added => ∃ block, added = [block] ∧
      SmvResult S p numbered.1 block) hloop
    (by
      intro b b' numbered _ hcontrol
      obtain ⟨block, hblock, hlocated⟩ := printSVControlBlock_result hpart hcontrol
      exact ⟨_, hblock, block, rfl, hlocated⟩)
  obtain ⟨results, hresults, hlocated⟩ := exists_results_of_appends hall
  refine ⟨results, ?_, ?_⟩
  · rw [hafter, ← hbetween, ← hresults]
    exact haddeds
  · have hcontrols := List.forall₂_map_left_iff.mpr hlocated
    rwa [List.zipIdx_map_fst] at hcontrols

/-! ## The blocks of the files -/

/-- A projection that selects only control blocks reads the buffers. -/
theorem RunStages.filterMap_buffers {s : StaticModelGenerator} {outFileName : Str}
    {devices : List LogicalDevice} {files : GeneratedFiles}
    (R : RunStages s outFileName devices files) {β : Type} {f : CItem → Option β}
    (hdataSets : ∀ item : CItem, item.ofDataSets → f item = none)
    (hother : ∀ item : CItem, ¬ item.isAuxiliary → f item = none) :
    files.c.filterMap f =
      (printBuffers (createLNSubVariableList s.modelPrefix devices) R.model.buffers).filterMap
        f := by
  have hsets := filterMap_eq_nil hdataSets (ofDataSets_of_printDataSets R.dataSets_eq)
  have hnodes (nodes : List NodeDefinition) : (nodes.map CItem.node).filterMap f = [] := by
    rw [List.filterMap_eq_nil_iff]
    intro item hitem
    obtain ⟨d, -, rfl⟩ := List.mem_map.mp hitem
    exact hother (.node d) (by simp [CItem.isAuxiliary])
  have hprototype := hother .initializerPrototype (by simp [CItem.isAuxiliary])
  have hmodel (d : IedModelDefinition) := hother (.iedModel d) (by simp [CItem.isAuxiliary])
  have hinitializer (statements : List InitStatement) :=
    hother (.initializer statements) (by simp [CItem.isAuxiliary])
  rw [R.c_eq]
  simp [List.filterMap_append, hsets, hnodes, hprototype, hmodel,
    hinitializer]

theorem RunStages.gseControlBlocks_eq {s : StaticModelGenerator} {outFileName : Str}
    {devices : List LogicalDevice} {files : GeneratedFiles}
    (R : RunStages s outFileName devices files) :
    files.gseControlBlocks = R.model.buffers.gseControlBlocks := by
  have hown : ∀ d, (gseItems d).filterMap CItem.gseControlBlock? = [d] := by
    intro d
    cases haddress : d.address <;>
      simp [gseItems, haddress, List.filterMap_cons, CItem.gseControlBlock?]
  have hsv : ∀ d, (svItems d).filterMap CItem.gseControlBlock? = [] := by
    intro d
    cases haddress : d.dstAddress <;> simp [svItems, haddress, CItem.gseControlBlock?]
  rw [GeneratedFiles.gseControlBlocks, R.filterMap_buffers]
  · simp [printBuffers, externDeclarations, List.filterMap_append, List.filterMap_map,
      List.filterMap_flatMap, hown, hsv, CItem.gseControlBlock?, Function.comp_def]
  · intro item hitem
    cases item <;> first | rfl | cases hitem
  · intro item hitem
    cases item <;> first | rfl | exact absurd rfl hitem

theorem RunStages.svControlBlocks_eq {s : StaticModelGenerator} {outFileName : Str}
    {devices : List LogicalDevice} {files : GeneratedFiles}
    (R : RunStages s outFileName devices files) :
    files.svControlBlocks = R.model.buffers.smvControlBlocks := by
  have hown : ∀ d, (svItems d).filterMap CItem.svControlBlock? = [d] := by
    intro d
    cases haddress : d.dstAddress <;>
      simp [svItems, haddress, List.filterMap_cons, CItem.svControlBlock?]
  have hgse : ∀ d, (gseItems d).filterMap CItem.svControlBlock? = [] := by
    intro d
    cases haddress : d.address <;> simp [gseItems, haddress, CItem.svControlBlock?]
  rw [GeneratedFiles.svControlBlocks, R.filterMap_buffers]
  · simp [printBuffers, externDeclarations, List.filterMap_append, List.filterMap_map,
      List.filterMap_flatMap, hown, hgse, CItem.svControlBlock?, Function.comp_def]
  · intro item hitem
    cases item <;> first | rfl | cases hitem
  · intro item hitem
    cases item <;> first | rfl | exact absurd rfl hitem

/-! ## The whole run -/

theorem RunStages.gseResults {files : GeneratedFiles}
    (R : RunStages (S.generator rt) args.outFileName S.logicalDevices files) :
    ∃ results : List (Option GSEControlBlockDefinition),
      files.gseControlBlocks = results.flatMap Option.toList ∧
      List.Forall₂
        (fun (placed : PlacedNode × GSEControl) result => GseResult S placed.1 placed.2 result)
        (placedControls LogicalNode.gseControlBlocks S.logicalDevices) results := by
  obtain ⟨addeds, haddeds, hall⟩ := foldlM_appends
    (g := ControlBlockBuffers.gseControlBlocks)
    (T := fun (p : PlacedNode) added => ∃ results : List (Option GSEControlBlockDefinition),
      added = results.flatMap Option.toList ∧
        List.Forall₂ (GseResult S p) p.node.gseControlBlocks results)
    (printLogicalDeviceDefinitions_buffers R.model_eq)
    (by
      intro b b' p _ hp
      obtain ⟨results, hresults, hlocated⟩ := printPlacedBlocks_gse hp
      exact ⟨_, hresults, results, rfl, hlocated⟩)
  obtain ⟨results, hresults, hlocated⟩ := exists_results hall
  refine ⟨results, ?_, hlocated⟩
  rw [R.gseControlBlocks_eq, haddeds, hresults]
  rfl

theorem RunStages.smvResults {files : GeneratedFiles}
    (R : RunStages (S.generator rt) args.outFileName S.logicalDevices files) :
    List.Forall₂
      (fun (placed : PlacedNode × SampledValueControl) block =>
        SmvResult S placed.1 placed.2 block)
      (placedControls LogicalNode.smvControlBlocks S.logicalDevices)
      files.svControlBlocks := by
  obtain ⟨addeds, haddeds, hall⟩ := foldlM_appends
    (g := ControlBlockBuffers.smvControlBlocks)
    (T := fun (p : PlacedNode) added => ∃ results : List SVControlBlockDefinition,
      added = results.flatMap (fun d => [d]) ∧
        List.Forall₂ (SmvResult S p) p.node.smvControlBlocks results)
    (printLogicalDeviceDefinitions_buffers R.model_eq)
    (by
      intro b b' p _ hp
      obtain ⟨results, hresults, hlocated⟩ := printPlacedBlocks_smv hp
      exact ⟨_, hresults, results, rfl, hlocated⟩)
  obtain ⟨results, hresults, hlocated⟩ := exists_results hall
  have hblocks : files.svControlBlocks = results := by
    rw [R.svControlBlocks_eq, haddeds, hresults]
    simp
  rw [hblocks]
  exact hlocated

/-! ## When the address is the right one -/

/-- The cases in which a GOOSE control gets the right parameters: the keys are
the right ones, or they are not and the result is right all the same. -/
inductive GseRight (S : Selection scl args) (device : LogicalDevice) (cbName : Str) : Prop
  | keysAgree (h : S.KeysAgree device)
  | unlisted (hlocated : S.locatedGSE device cbName = none)
      (hown : ¬ ∃ own, S.HasGSE device cbName own)
  | twin (gse own : GSE) (hlocated : S.locatedGSE device cbName = some gse)
      (hown : S.HasGSE device cbName own) (hparameters : gse.parameters = own.parameters)

/-- For a sampled value control the element must also have an address. -/
inductive SmvRight (S : Selection scl args) (device : LogicalDevice) (cbName : Str) : Prop
  | keysAgree (h : S.KeysAgree device)
      (haddress : ∀ own, S.HasSMV device cbName own → own.address.isSome)
  | unlisted (hlocated : (S.locatedSMV device cbName).bind SMV.address = none)
      (hown : ¬ ∃ own, S.HasSMV device cbName own)
  | twin (smv own : SMV) (address : PhyComAddress)
      (hlocated : S.locatedSMV device cbName = some smv) (haddress : smv.address = some address)
      (hown : S.HasSMV device cbName own)
      (hparameters : own.address.map PhyComAddress.parameters = some address.parameters)

theorem gseAddressed_iff {p : PlacedNode} {control : GSEControl}
    {result : Option GSEControlBlockDefinition} (h : GseResult S p control result) :
    GseAddressed S p.device control result ↔ GseRight S p.device control.name := by
  unfold GseResult at h
  cases hlocated : S.locatedGSE p.device control.name with
  | none =>
      rw [hlocated] at h
      cases h with
      | none =>
          constructor
          · intro hown
            exact .unlisted hlocated hown
          · intro hright
            cases hright with
            | keysAgree hkeys => exact hkeys.not_hasElement hlocated
            | unlisted _ hown => exact hown
            | twin _ _ hsome => rw [hlocated] at hsome; cases hsome
  | some gse =>
      rw [hlocated] at h
      cases h with
      | some hblock =>
          obtain ⟨-, hparameters⟩ := hblock
          constructor
          · rintro ⟨own, hown, hsame⟩
            exact .twin gse own hlocated hown (hparameters.symm.trans hsame)
          · intro hright
            cases hright with
            | keysAgree hkeys => exact ⟨gse, hkeys.hasElement hlocated, hparameters⟩
            | unlisted hnone => rw [hlocated] at hnone; cases hnone
            | twin gse' own hsome hown hsame =>
                rw [hlocated] at hsome
                obtain rfl := Option.some.inj hsome
                exact ⟨own, hown, hparameters.trans hsame⟩

theorem smvAddressed_iff {p : PlacedNode} {control : SampledValueControl}
    {block : SVControlBlockDefinition} (h : SmvResult S p control block) :
    SmvAddressed S p.device control block ↔ SmvRight S p.device control.name := by
  have hprinted := h.address
  unfold SmvAddressed
  cases haddress : (S.locatedSMV p.device control.name).bind SMV.address with
  | none =>
      have hnone : block.dstAddress = none := by simpa [haddress] using hprinted
      rw [hnone]
      constructor
      · intro hown
        exact .unlisted haddress hown
      · intro hright
        cases hright with
        | keysAgree hkeys hsome =>
            cases hlocated : S.locatedSMV p.device control.name with
            | none => exact hkeys.not_hasElement hlocated
            | some smv =>
                have hmissing : smv.address = none := by simpa [hlocated] using haddress
                have hisSome := hsome smv (hkeys.hasElement hlocated)
                rw [hmissing] at hisSome
                cases hisSome
        | unlisted _ hown => exact hown
        | twin smv own address hlocated hsome =>
            rw [hlocated, Option.bind_some, hsome] at haddress
            cases haddress
  | some address =>
      rw [haddress, Option.map_some] at hprinted
      obtain ⟨d, hd, hparameters⟩ := Option.map_eq_some_iff.mp hprinted
      obtain ⟨smv, hlocated, hsmv⟩ := Option.bind_eq_some_iff.mp haddress
      rw [hd]
      simp only [hparameters]
      constructor
      · rintro ⟨own, hown, hsame⟩
        exact .twin smv own address hlocated hsmv hown hsame
      · intro hright
        cases hright with
        | keysAgree hkeys _ =>
            exact ⟨smv, hkeys.hasElement hlocated, by rw [hsmv, Option.map_some]⟩
        | unlisted hnone =>
            rw [haddress] at hnone
            cases hnone
        | twin smv' own address' hsome hsmv' hown hsame =>
            rw [hlocated] at hsome
            obtain rfl := Option.some.inj hsome
            rw [hsmv] at hsmv'
            obtain rfl := Option.some.inj hsmv'
            exact ⟨own, hown, hsame⟩

def stationTemplates : DataTypeTemplates where
  logicalNodeTypes := [{
    id := lit "LN0T"
    dataObjectDefinitions := [{ name := lit "Mod", type := lit "INC" }] }]
  dataObjectTypes := [{
    id := lit "INC"
    dataAttributes := [{ name := lit "q", fc := lit "ST", bType := lit "Quality" }] }]

def stationIed (name : Str) : IED where
  name := name
  accessPoints := [{
    name := lit "AP1"
    server := some {
      logicalDevices := [{
        inst := lit "LD1"
        ln0 := some {
          lnClass := lit "LLN0"
          lnType := lit "LN0T"
          smvControlBlocks := [{
            name := lit "sv1"
            smpModStr := lit "SmpPerSec"
            smvOpts := some {} }] } }] } }]

def stationConnectedAP (iedName appId : Str) : ConnectedAP where
  iedName := iedName
  apName := lit "AP1"
  smvNodes := [{
    ldInst := lit "LD1"
    cbName := lit "sv1"
    address := some { addressParameters := [{ type := lit "APPID", value := appId }] } }]

/-- Two IEDs of the same structure, each with its own address for its sampled values. -/
def stationDocument : SCL where
  ieds := [stationIed (lit "IED1"), stationIed (lit "IED2")]
  dataTypeTemplates := some stationTemplates
  communication := some {
    subNetworks := [{
      connectedAP := [
        stationConnectedAP (lit "IED1") (lit "0001"),
        stationConnectedAP (lit "IED2") (lit "0002")] }] }

def stationModel : ParsedModel plainRuntime :=
  ParsedModel.ofDocument plainRuntime 4 stationDocument (by decide +kernel)

theorem generate_stationModel :
    (generate plainRuntime stationModel.model { iedName := lit "IED2" }).isOk = true := by
  decide +kernel

/-- The parameters which the first IED's element has after the parse. -/
def foreignParameters : AddressParameters := ⟨4, 0, 1, [1, 12, 205, 1, 0, 0]⟩

end Iec61850.Scl
