import Iec61850.GeneratorRun

/-!
# The control blocks and initializers of a run

A run prints the control blocks and the initializers node by node, in the order
of the devices and their nodes.  Each print function appends to its own buffer
and leaves the other buffers as they are.
-/

namespace Iec61850.Scl

open Go

variable {ctx : PrintContext} {blocks : ControlBlockContext}

/-- A logical node with the device it belongs to. -/
structure PlacedNode where
  device : LogicalDevice
  node : LogicalNode

def placedNodes (devices : List LogicalDevice) : List PlacedNode :=
  devices.flatMap fun device => device.logicalNodes.map fun node => ⟨device, node⟩

def PlacedNode.variableName (modelPrefix : Str) (p : PlacedNode) : Str :=
  joinName (joinName modelPrefix p.device.inst) p.node.getName

/-- The print functions for the control blocks of one node of the model. -/
def printPlacedBlocks (blocks : ControlBlockContext) (modelPrefix : Str)
    (out : ControlBlockBuffers) (p : PlacedNode) : Outcome ControlBlockBuffers :=
  printControlBlocks blocks p.device.inst (joinName modelPrefix p.device.inst)
    (p.variableName modelPrefix) p.node out

theorem printLogicalNodeDefinitions_buffers {modelPrefix : Str} {device : LogicalDevice}
    {nodes : List LogicalNode} {out out' : DeviceModel}
    (h : printLogicalNodeDefinitions ctx blocks device.inst
      (joinName modelPrefix device.inst) nodes out = .ok out') :
    (nodes.map fun node => (⟨device, node⟩ : PlacedNode)).foldlM
      (printPlacedBlocks blocks modelPrefix) out.buffers = .ok out'.buffers := by
  induction nodes generalizing out with
  | nil =>
      obtain rfl := Except.ok.inj h
      rfl
  | cons ln rest ih =>
      obtain ⟨between, hln, hrest⟩ := printLogicalNodeDefinitions_cons_ok h
      obtain ⟨_, _, _, _, _, hbuffers⟩ := printLogicalNodeDefinition_ok hln
      rw [List.map_cons, List.foldlM_cons]
      exact bind_eq_ok.mpr ⟨between.buffers, hbuffers, ih hrest⟩

/-- The buffers of a run, as one loop over all nodes. -/
theorem printLogicalDeviceDefinitions_buffers {modelPrefix : Str}
    {devices : List LogicalDevice} {out out' : DeviceModel}
    (h : printLogicalDeviceDefinitions ctx blocks modelPrefix devices out = .ok out') :
    (placedNodes devices).foldlM (printPlacedBlocks blocks modelPrefix) out.buffers =
      .ok out'.buffers := by
  induction devices generalizing out with
  | nil =>
      obtain rfl := Except.ok.inj h
      rfl
  | cons device rest ih =>
      obtain ⟨between, hdevice, hrest⟩ := printLogicalDeviceDefinitions_cons_ok h
      obtain ⟨_, _, hnodes⟩ := printLogicalDeviceDefinition_ok hdevice
      have hbuffers := printLogicalNodeDefinitions_buffers hnodes
      rw [placedNodes, List.flatMap_cons, List.foldlM_append]
      exact bind_eq_ok.mpr ⟨between.buffers, hbuffers, ih hrest⟩

theorem printLogicalNodeDefinitions_initializers {modelPrefix : Str} {device : LogicalDevice}
    {nodes : List LogicalNode} {out out' : DeviceModel}
    (h : printLogicalNodeDefinitions ctx blocks device.inst
      (joinName modelPrefix device.inst) nodes out = .ok out') :
    ∃ groups, List.Forall₂ (fun (p : PlacedNode) objects =>
        printDataObjectDefinitions ctx (p.variableName modelPrefix) [] false p.node.dataObjects =
          .ok objects) (nodes.map fun node => ⟨device, node⟩) groups ∧
      out'.definitions.initializerBuffer = out.definitions.initializerBuffer ++
        groups.flatMap Definitions.initializerBuffer := by
  induction nodes generalizing out with
  | nil =>
      obtain rfl := Except.ok.inj h
      exact ⟨[], .nil, (List.append_nil _).symm⟩
  | cons ln rest ih =>
      obtain ⟨between, hln, hrest⟩ := printLogicalNodeDefinitions_cons_ok h
      obtain ⟨_, objects, -, hobjects, hdefinitions, -⟩ := printLogicalNodeDefinition_ok hln
      obtain ⟨groups, hgroups, hbuffer⟩ := ih hrest
      refine ⟨objects :: groups, .cons hobjects hgroups, ?_⟩
      rw [hbuffer, hdefinitions]
      simp

/-- The initializers of a run, those of the data objects of one node after the other. -/
theorem printLogicalDeviceDefinitions_initializers {modelPrefix : Str}
    {devices : List LogicalDevice} {out out' : DeviceModel}
    (h : printLogicalDeviceDefinitions ctx blocks modelPrefix devices out = .ok out') :
    ∃ groups, List.Forall₂ (fun p objects =>
        printDataObjectDefinitions ctx (p.variableName modelPrefix) [] false p.node.dataObjects =
          .ok objects) (placedNodes devices) groups ∧
      out'.definitions.initializerBuffer = out.definitions.initializerBuffer ++
        groups.flatMap Definitions.initializerBuffer := by
  induction devices generalizing out with
  | nil =>
      obtain rfl := Except.ok.inj h
      exact ⟨[], .nil, (List.append_nil _).symm⟩
  | cons device rest ih =>
      obtain ⟨between, hdevice, hrest⟩ := printLogicalDeviceDefinitions_cons_ok h
      obtain ⟨_, _, hnodes⟩ := printLogicalDeviceDefinition_ok hdevice
      obtain ⟨own, hown, hbetween⟩ := printLogicalNodeDefinitions_initializers hnodes
      obtain ⟨groups, hgroups, hbuffer⟩ := ih hrest
      refine ⟨own ++ groups, List.rel_append hown hgroups, ?_⟩
      rw [hbuffer, hbetween]
      simp

/-! ## Each kind has its own buffer -/

variable {lnPrefix : Str} {ln : LogicalNode} {out out' : ControlBlockBuffers}

theorem printReportControlBlocks_appends
    (h : printReportControlBlocks blocks lnPrefix ln out = .ok out') :
    ∃ added, out' =
      { out with reportControlBlocks := out.reportControlBlocks ++ added } := by
  obtain ⟨instances, -, h⟩ := bind_eq_ok.mp h
  obtain rfl := Except.ok.inj h
  refine List.foldlRecOn (motive := fun before : ControlBlockBuffers => ∃ added, before =
    { out with reportControlBlocks := out.reportControlBlocks ++ added }) _ _ ⟨[], by simp⟩ ?_
  rintro _ ⟨added, rfl⟩ inst -
  exact ⟨added ++ [_], by
    rw [← List.append_assoc]
    rfl⟩

theorem printLogControlBlocks_appends (blocks : ControlBlockContext)
    (deviceInst lnPrefix : Str) (ln : LogicalNode) (out : ControlBlockBuffers) :
    ∃ added, printLogControlBlocks blocks deviceInst lnPrefix ln out =
      { out with logControlBlocks := out.logControlBlocks ++ added } := by
  refine List.foldlRecOn (motive := fun before : ControlBlockBuffers => ∃ added, before =
    { out with logControlBlocks := out.logControlBlocks ++ added }) _ _ ⟨[], by simp⟩ ?_
  rintro _ ⟨added, rfl⟩ lcb -
  exact ⟨added ++ [_], by
    rw [← List.append_assoc]
    rfl⟩

theorem printLogs_appends (blocks : ControlBlockContext) (lnPrefix : Str)
    (ln : LogicalNode) (out : ControlBlockBuffers) :
    ∃ added, printLogs blocks lnPrefix ln out = { out with logs := out.logs ++ added } := by
  refine List.foldlRecOn (motive := fun before : ControlBlockBuffers => ∃ added, before =
    { out with logs := out.logs ++ added }) _ _ ⟨[], by simp⟩ ?_
  rintro _ ⟨added, rfl⟩ log -
  exact ⟨added ++ [_], by
    rw [← List.append_assoc]
    rfl⟩

theorem printGSEControlBlock_appends {device : Str} {n n' : ℕ} {control : GSEControl}
    (h : printGSEControlBlock blocks device lnPrefix (n, out) control = .ok (n', out')) :
    ∃ added, out' = { out with gseControlBlocks := out.gseControlBlocks ++ added } := by
  obtain ⟨connectedAP, -, h⟩ := bind_eq_ok.mp h
  split at h
  next =>
    obtain ⟨-, rfl⟩ := Prod.mk.inj (Except.ok.inj h)
    exact ⟨[], by simp⟩
  next =>
    obtain ⟨-, rfl⟩ := Prod.mk.inj (Except.ok.inj h)
    exact ⟨[_], rfl⟩

theorem printGSEControlBlocks_appends {ldName : Str}
    (h : printGSEControlBlocks blocks ldName lnPrefix ln out = .ok out') :
    ∃ added, out' = { out with gseControlBlocks := out.gseControlBlocks ++ added } := by
  obtain ⟨device, -, h⟩ := bind_eq_ok.mp h
  obtain ⟨⟨n, after⟩, hloop, h⟩ := bind_eq_ok.mp h
  obtain rfl := Except.ok.inj h
  refine foldlM_invariant (P := fun state => ∃ added, state.2 =
    { out with gseControlBlocks := out.gseControlBlocks ++ added }) hloop ⟨[], by simp⟩ ?_
  rintro ⟨m, _⟩ ⟨m', after⟩ control - ⟨added, rfl⟩ hcontrol
  obtain ⟨more, rfl⟩ := printGSEControlBlock_appends hcontrol
  exact ⟨added ++ more, by simp⟩

theorem printSVControlBlock_appends {device : Str} {numbered : SampledValueControl × ℕ}
    (h : printSVControlBlock blocks device lnPrefix out numbered = .ok out') :
    ∃ added, out' = { out with smvControlBlocks := out.smvControlBlocks ++ added } := by
  obtain ⟨connectedAP, -, h⟩ := bind_eq_ok.mp h
  obtain ⟨smvOpts, -, h⟩ := bind_eq_ok.mp h
  obtain rfl := Except.ok.inj h
  exact ⟨[_], rfl⟩

theorem printSVControlBlocks_appends {ldName : Str}
    (h : printSVControlBlocks blocks ldName lnPrefix ln out = .ok out') :
    ∃ added, out' = { out with smvControlBlocks := out.smvControlBlocks ++ added } := by
  obtain ⟨device, -, hloop⟩ := bind_eq_ok.mp h
  refine foldlM_invariant (P := fun after => ∃ added, after =
    { out with smvControlBlocks := out.smvControlBlocks ++ added }) hloop ⟨[], by simp⟩ ?_
  rintro _ after control - ⟨added, rfl⟩ hcontrol
  obtain ⟨more, rfl⟩ := printSVControlBlock_appends hcontrol
  exact ⟨added ++ more, by simp⟩

theorem printSettingControlBlock_appends (blocks : ControlBlockContext) (lnPrefix : Str)
    (ln : LogicalNode) (out : ControlBlockBuffers) :
    ∃ added, printSettingControlBlock blocks lnPrefix ln out =
      { out with
        settingGroupControlBlocks := out.settingGroupControlBlocks ++ added } := by
  unfold printSettingControlBlock
  split
  next => exact ⟨[], by simp⟩
  next => exact ⟨[_], rfl⟩

/-- The two calls that read the communication section, each with the buffer it
starts from. -/
theorem printControlBlocks_ok {deviceInst ldName : Str}
    (h : printControlBlocks blocks deviceInst ldName lnPrefix ln out = .ok out') :
    ∃ before between after,
      before.gseControlBlocks = out.gseControlBlocks ∧
      printGSEControlBlocks blocks ldName lnPrefix ln before = .ok between ∧
      between.smvControlBlocks = out.smvControlBlocks ∧
      printSVControlBlocks blocks ldName lnPrefix ln between = .ok after ∧
      out'.gseControlBlocks = between.gseControlBlocks ∧
      out'.smvControlBlocks = after.smvControlBlocks := by
  obtain ⟨reports, hreports, h⟩ := bind_eq_ok.mp h
  obtain ⟨between, hgse, h⟩ := bind_eq_ok.mp h
  obtain ⟨after, hsv, h⟩ := bind_eq_ok.mp h
  obtain rfl := Except.ok.inj h
  obtain ⟨_, rfl⟩ := printReportControlBlocks_appends hreports
  obtain ⟨_, hlcbs⟩ := printLogControlBlocks_appends blocks deviceInst lnPrefix ln
    { out with reportControlBlocks := out.reportControlBlocks ++ _ }
  obtain ⟨_, hlogs⟩ := printLogs_appends blocks lnPrefix ln
    (printLogControlBlocks blocks deviceInst lnPrefix ln
      { out with reportControlBlocks := out.reportControlBlocks ++ _ })
  obtain ⟨_, hbetween⟩ := printGSEControlBlocks_appends hgse
  obtain ⟨_, hafter⟩ := printSVControlBlocks_appends hsv
  obtain ⟨_, hsetting⟩ := printSettingControlBlock_appends blocks lnPrefix ln after
  refine ⟨_, between, after, ?_, hgse, ?_, hsv, ?_, ?_⟩
  · rw [hlogs, hlcbs]
  · rw [hbetween, hlogs, hlcbs]
  · rw [hsetting, hafter]
  · rw [hsetting]

/-- The report control blocks come first. -/
theorem printControlBlocks_reports {deviceInst ldName : Str}
    (h : printControlBlocks blocks deviceInst ldName lnPrefix ln out = .ok out') :
    ∃ reports, printReportControlBlocks blocks lnPrefix ln out = .ok reports ∧
      out'.reportControlBlocks = reports.reportControlBlocks := by
  obtain ⟨reports, hreports, h⟩ := bind_eq_ok.mp h
  obtain ⟨between, hgse, h⟩ := bind_eq_ok.mp h
  obtain ⟨after, hsv, h⟩ := bind_eq_ok.mp h
  obtain rfl := Except.ok.inj h
  obtain ⟨_, hlcbs⟩ := printLogControlBlocks_appends blocks deviceInst lnPrefix ln reports
  obtain ⟨_, hlogs⟩ := printLogs_appends blocks lnPrefix ln
    (printLogControlBlocks blocks deviceInst lnPrefix ln reports)
  obtain ⟨_, hbetween⟩ := printGSEControlBlocks_appends hgse
  obtain ⟨_, hafter⟩ := printSVControlBlocks_appends hsv
  obtain ⟨_, hsetting⟩ := printSettingControlBlock_appends blocks lnPrefix ln after
  refine ⟨reports, hreports, ?_⟩
  rw [hsetting, hafter, hbetween, hlogs, hlcbs]

theorem printControlBlocks_logControls {deviceInst ldName : Str}
    (h : printControlBlocks blocks deviceInst ldName lnPrefix ln out = .ok out') :
    ∃ before, before.logControlBlocks = out.logControlBlocks ∧
      out'.logControlBlocks =
        (printLogControlBlocks blocks deviceInst lnPrefix ln before).logControlBlocks := by
  obtain ⟨reports, hreports, h⟩ := bind_eq_ok.mp h
  obtain ⟨between, hgse, h⟩ := bind_eq_ok.mp h
  obtain ⟨after, hsv, h⟩ := bind_eq_ok.mp h
  obtain rfl := Except.ok.inj h
  obtain ⟨_, hbefore⟩ := printReportControlBlocks_appends hreports
  obtain ⟨_, hlogs⟩ := printLogs_appends blocks lnPrefix ln
    (printLogControlBlocks blocks deviceInst lnPrefix ln reports)
  obtain ⟨_, hbetween⟩ := printGSEControlBlocks_appends hgse
  obtain ⟨_, hafter⟩ := printSVControlBlocks_appends hsv
  obtain ⟨_, hsetting⟩ := printSettingControlBlock_appends blocks lnPrefix ln after
  refine ⟨reports, ?_, ?_⟩
  · rw [hbefore]
  · rw [hsetting, hafter, hbetween, hlogs]

/-! ## Controls and what is printed for them -/

/-- The control elements of one kind, with the nodes they belong to. -/
def placedControls {α : Type} (controls : LogicalNode → List α)
    (devices : List LogicalDevice) : List (PlacedNode × α) :=
  (placedNodes devices).flatMap fun p => (controls p.node).map fun control => (p, control)

/-- What the iterations of a loop have appended, as a list of results. -/
theorem exists_results_of_appends {α β γ : Type} {emit : β → List γ} {R : α → β → Prop}
    {xs : List α} {addeds : List (List γ)}
    (h : List.Forall₂ (fun x added => ∃ result, added = emit result ∧ R x result) xs
      addeds) :
    ∃ results : List β, addeds.flatten = results.flatMap emit ∧ List.Forall₂ R xs results := by
  induction h with
  | nil => exact ⟨[], rfl, .nil⟩
  | cons hown _ ih =>
      obtain ⟨own, rfl, hR⟩ := hown
      obtain ⟨others, hothers, hall⟩ := ih
      exact ⟨own :: others, by rw [List.flatten_cons, hothers, List.flatMap_cons],
        .cons hR hall⟩

/-- Results that are related node by node are related control by control. -/
theorem exists_results {α β γ : Type} {controls : LogicalNode → List α}
    {emit : β → List γ} {R : PlacedNode → α → β → Prop} {nodes : List PlacedNode}
    {addeds : List (List γ)}
    (h : List.Forall₂ (fun p added => ∃ results : List β, added = results.flatMap emit ∧
      List.Forall₂ (R p) (controls p.node) results) nodes addeds) :
    ∃ results : List β, addeds.flatten = results.flatMap emit ∧
      List.Forall₂ (fun (placed : PlacedNode × α) result => R placed.1 placed.2 result)
        (nodes.flatMap fun p => (controls p.node).map fun control => (p, control))
        results := by
  induction h with
  | nil => exact ⟨[], rfl, .nil⟩
  | cons hown _ ih =>
      obtain ⟨own, rfl, hR⟩ := hown
      obtain ⟨others, hothers, hall⟩ := ih
      refine ⟨own ++ others, ?_, ?_⟩
      · rw [List.flatten_cons, hothers, List.flatMap_append]
      · rw [List.flatMap_cons]
        refine List.rel_append ?_ hall
        exact List.forall₂_map_left_iff.mpr hR

end Iec61850.Scl
