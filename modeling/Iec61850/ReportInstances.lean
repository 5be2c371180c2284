import Iec61850.ControlBlockChains

/-!
# Instances of report control blocks

Every `ReportControl` element of a node is printed as a group of blocks, one
for each of its instances.  The blocks of a group differ in their index and in
the client they are reserved for.
-/

namespace Iec61850.Scl

open Go

variable {rt : Runtime} {scl : SCL} {args : GeneratorArguments}

/-! ## What an instance is printed with -/

/-- The fields that come from the element, without the variables and the client. -/
structure ReportContent where
  name : Str
  rptId : Option Str
  buffered : Bool
  dataSet : Option Str
  confRef : Str
  trgOps : ℤ
  options : ℤ
  bufferTime : ℤ
  intPeriod : Str
  deriving DecidableEq

def ReportControlBlockDefinition.content (d : ReportControlBlockDefinition) : ReportContent where
  name := d.name
  rptId := d.rptId
  buffered := d.buffered
  dataSet := d.dataSet
  confRef := d.confRef
  trgOps := d.trgOps
  options := d.options
  bufferTime := d.bufferTime
  intPeriod := d.intPeriod

def ReportControl.content (hasOwner : Bool) (rcb : ReportControl) (index : Str) :
    ReportContent where
  name := rcb.name ++ index
  rptId := quoted rcb.rptID
  buffered := rcb.buffered
  dataSet := quoted rcb.datSet
  confRef := if rcb.confRev = [] then lit "0" else rcb.confRev
  trgOps := reportTriggerOptions hasOwner rcb
  options := reportOptionFields rcb
  bufferTime := rcb.bufTime
  intPeriod := if rcb.intgPd = [] then lit "0" else rcb.intgPd

def indexTexts (count : ℕ) : List Str :=
  (List.range count).map fun i => twoDigits (i + 1)

def ReportControl.instanceIndices (rcb : ReportControl) : List Str :=
  if rcb.indexed then indexTexts rcb.maxInstances else [[]]

theorem ReportControl.length_instanceIndices {rcb : ReportControl} (hsingle : rcb.Single) :
    rcb.instanceIndices.length = rcb.maxInstances := by
  rw [instanceIndices]
  split
  next => simp [indexTexts]
  next hindexed => simp [hsingle (by simpa using hindexed)]

/-! ## The printed blocks -/

variable {ctx : ControlBlockContext} {lnPrefix : Str} {ln : LogicalNode}
  {out out' : ControlBlockBuffers}

structure PrintedInstance (ctx : ControlBlockContext) (lnPrefix : Str) (inst : ReportInstance)
    (block : ReportControlBlockDefinition) : Prop where
  parent : block.parent = lnPrefix
  content : block.content = inst.rcb.content ctx.hasOwner inst.index
  client : block.clientReservation = inst.client

/-- The blocks are those of the element, instance by instance. -/
structure PrintedReport (ctx : ControlBlockContext) (lnPrefix : Str) (rcb : ReportControl)
    (printed : List ReportControlBlockDefinition) : Prop where
  parents : ∀ block ∈ printed, block.parent = lnPrefix
  contents : printed.map ReportControlBlockDefinition.content =
    rcb.instanceIndices.map (rcb.content ctx.hasOwner)
  clients : rcb.indexed = true →
    List.Forall₂ (fun i block => reservedClient ctx rcb.clientLNs i =
      .ok block.clientReservation) (List.range rcb.maxInstances) printed

theorem reportInstances_contents {rcb : ReportControl} {instances : List ReportInstance}
    (h : reportInstances ctx rcb = .ok instances) :
    instances.map (fun inst => inst.rcb.content ctx.hasOwner inst.index) =
      rcb.instanceIndices.map (rcb.content ctx.hasOwner) := by
  unfold reportInstances at h
  split at h
  next hindexed =>
    rw [ReportControl.instanceIndices, if_pos hindexed, indexTexts, List.map_map, eq_comm,
      ← List.forall₂_eq_eq_eq, List.forall₂_map_left_iff, List.forall₂_map_right_iff]
    apply (mapM_eq_ok.mp h).imp
    intro i inst hinst
    obtain ⟨client, -, hinst⟩ := bind_eq_ok.mp hinst
    obtain rfl := Except.ok.inj hinst
    rfl
  next hindexed =>
    obtain rfl := Except.ok.inj h
    rw [ReportControl.instanceIndices, if_neg hindexed]
    rfl

theorem reportInstances_clients {rcb : ReportControl} {instances : List ReportInstance}
    (hindexed : rcb.indexed = true) (h : reportInstances ctx rcb = .ok instances) :
    List.Forall₂ (fun i inst => reservedClient ctx rcb.clientLNs i = .ok inst.client)
      (List.range rcb.maxInstances) instances := by
  rw [reportInstances, if_pos hindexed] at h
  apply (mapM_eq_ok.mp h).imp
  intro i inst hinst
  obtain ⟨client, hclient, hinst⟩ := bind_eq_ok.mp hinst
  obtain rfl := Except.ok.inj hinst
  exact hclient

theorem PrintedReport.of_instances {rcb : ReportControl} {instances : List ReportInstance}
    {printed : List ReportControlBlockDefinition}
    (hinstances : reportInstances ctx rcb = .ok instances)
    (hprinted : List.Forall₂ (PrintedInstance ctx lnPrefix) instances printed) :
    PrintedReport ctx lnPrefix rcb printed where
  parents := by
    intro block hblock
    obtain ⟨inst, -, hinst⟩ := exists_mem_of_forall₂ hprinted.flip hblock
    exact hinst.parent
  contents := by
    rw [← reportInstances_contents hinstances, eq_comm, ← List.forall₂_eq_eq_eq,
      List.forall₂_map_left_iff, List.forall₂_map_right_iff]
    exact hprinted.imp fun _ _ hinst => hinst.content.symm
  clients := by
    intro hindexed
    have hclients := reportInstances_clients hindexed hinstances
    rw [List.forall₂_iff_get] at hclients hprinted ⊢
    obtain ⟨hlength, hclients⟩ := hclients
    obtain ⟨hlength', hprinted⟩ := hprinted
    refine ⟨hlength.trans hlength', fun i hi hi' => ?_⟩
    rw [hclients i hi (by omega), (hprinted i (by omega) hi').client]

theorem PrintedReport.length_eq {rcb : ReportControl}
    {printed : List ReportControlBlockDefinition} (h : PrintedReport ctx lnPrefix rcb printed)
    (hsingle : rcb.Single) : printed.length = rcb.maxInstances := by
  have hlength := congrArg List.length h.contents
  rwa [List.length_map, List.length_map, rcb.length_instanceIndices hsingle] at hlength

theorem length_flatten_reports {rcbs : List ReportControl}
    {groups : List (List ReportControlBlockDefinition)} (hsingle : ∀ rcb ∈ rcbs, rcb.Single)
    (h : List.Forall₂ (PrintedReport ctx lnPrefix) rcbs groups) :
    groups.flatten.length = (rcbs.map ReportControl.maxInstances).sum := by
  induction h with
  | nil => rfl
  | cons hfirst _ ih =>
      obtain ⟨hown, hothers⟩ := List.forall_mem_cons.mp hsingle
      rw [List.flatten_cons, List.length_append, List.map_cons, List.sum_cons,
        hfirst.length_eq hown, ih hothers]

theorem contents_flatten_reports {rcbs : List ReportControl}
    {groups : List (List ReportControlBlockDefinition)}
    (h : List.Forall₂ (PrintedReport ctx lnPrefix) rcbs groups) :
    groups.flatten.map ReportControlBlockDefinition.content =
      rcbs.flatMap fun rcb => rcb.instanceIndices.map (rcb.content ctx.hasOwner) := by
  induction h with
  | nil => rfl
  | cons hfirst _ ih =>
      rw [List.flatten_cons, List.map_append, List.flatMap_cons, hfirst.contents, ih]

/-- The groups which a flattened list of groups is related to. -/
theorem exists_groups_of_flatten {α β γ : Type} {R : α → List β → Prop} {T : β → γ → Prop}
    {xs : List α} {yss : List (List β)} {zs : List γ} (hxs : List.Forall₂ R xs yss)
    (hzs : List.Forall₂ T yss.flatten zs) :
    ∃ zss : List (List γ), zs = zss.flatten ∧
      List.Forall₂ (fun x zs => ∃ ys, R x ys ∧ List.Forall₂ T ys zs) xs zss := by
  induction hxs generalizing zs with
  | nil =>
      cases hzs
      exact ⟨[], rfl, .nil⟩
  | cons hfirst _ ih =>
      rw [List.flatten_cons] at hzs
      have hown := List.forall₂_take_append _ _ _ hzs.flip
      have hothers := List.forall₂_drop_append _ _ _ hzs.flip
      obtain ⟨zss, hzss, hall⟩ := ih hothers.flip
      exact ⟨_ :: zss, by rw [List.flatten_cons, ← hzss, List.take_append_drop],
        .cons ⟨_, hfirst, hown.flip⟩ hall⟩

theorem printReportControlBlocks_printed
    (h : printReportControlBlocks ctx lnPrefix ln out = .ok out') :
    ∃ groups : List (List ReportControlBlockDefinition),
      out'.reportControlBlocks = out.reportControlBlocks ++ groups.flatten ∧
      List.Forall₂ (PrintedReport ctx lnPrefix) ln.reportControlBlocks groups := by
  obtain ⟨instances, hinstances, h⟩ := bind_eq_ok.mp h
  have hfold : instances.flatten.zipIdx.foldlM
      (fun b (numbered : ReportInstance × ℕ) => (pure (printReportControlBlockInstance ctx
        lnPrefix numbered.2 numbered.1 b) : Outcome ControlBlockBuffers)) out = .ok out' := by
    rw [List.foldlM_pure]
    exact h
  obtain ⟨addeds, haddeds, hall⟩ := foldlM_appends
    (g := ControlBlockBuffers.reportControlBlocks)
    (T := fun (numbered : ReportInstance × ℕ) added => ∃ block, added = [block] ∧
      PrintedInstance ctx lnPrefix numbered.1 block) hfold
    (by
      intro b b' numbered _ hb'
      obtain rfl := Except.ok.inj hb'
      exact ⟨_, rfl, _, rfl, rfl, rfl, rfl⟩)
  obtain ⟨added, hadded, hprinted⟩ := exists_results_of_appends hall
  have hprinted := List.forall₂_map_left_iff.mpr hprinted
  rw [List.zipIdx_map_fst] at hprinted
  obtain ⟨groups, hgroups, hreports⟩ :=
    exists_groups_of_flatten (mapM_eq_ok.mp hinstances) hprinted
  refine ⟨groups, ?_, hreports.imp ?_⟩
  · rw [haddeds, hadded, hgroups]
    simp
  · rintro rcb printed ⟨own, hown, hblocks⟩
    exact .of_instances hown hblocks

/-! ## The whole run -/

variable {S : Selection scl args}

/-- The context in which the control blocks of a run are printed. -/
def Selection.blockContext (rt : Runtime) (S : Selection scl args) : ControlBlockContext :=
  (S.generator rt).controlBlockContext
    (createLNSubVariableList args.modelPrefix S.logicalDevices)

/-- The report control blocks of the file in groups, one for each node. -/
structure ReportsByNode (S : Selection scl args) (files : GeneratedFiles)
    (groups : List (List ReportControlBlockDefinition)) : Prop where
  flatten : files.reportControlBlocks = groups.flatten
  owned : List.Forall₂
    (fun (p : PlacedNode) blocks =>
      (∀ block ∈ blocks, block.parent = p.variableName args.modelPrefix) ∧
      blocks.length = (p.node.reportControlBlocks.map ReportControl.maxInstances).sum)
    (placedNodes S.logicalDevices) groups

/-- The report control blocks of the file in groups, one for each element. -/
structure ReportsByElement (S : Selection scl args) (files : GeneratedFiles)
    (groups : List (List ReportControlBlockDefinition)) : Prop where
  flatten : files.reportControlBlocks = groups.flatten
  owned : List.Forall₂
    (fun (placed : PlacedNode × ReportControl) blocks =>
      (∀ block ∈ blocks, block.parent = placed.1.variableName args.modelPrefix) ∧
      blocks.length = placed.2.maxInstances)
    (placedControls LogicalNode.reportControlBlocks S.logicalDevices) groups

/-- The report control blocks of the file, node by node and element by element. -/
theorem RunStages.reportGroups {files : GeneratedFiles}
    (R : RunStages (S.generator rt) args.outFileName S.logicalDevices files) :
    ∃ nodes : List (List (List ReportControlBlockDefinition)),
      files.reportControlBlocks = (nodes.map List.flatten).flatten ∧
      List.Forall₂
        (fun (p : PlacedNode) groups => List.Forall₂
          (PrintedReport (S.blockContext rt) (p.variableName args.modelPrefix))
          p.node.reportControlBlocks groups)
        (placedNodes S.logicalDevices) nodes := by
  obtain ⟨addeds, haddeds, hall⟩ := foldlM_appends
    (g := ControlBlockBuffers.reportControlBlocks)
    (T := fun (p : PlacedNode) added => ∃ groups : List (List ReportControlBlockDefinition),
      added = groups.flatten ∧ List.Forall₂
        (PrintedReport (S.blockContext rt) (p.variableName args.modelPrefix))
        p.node.reportControlBlocks groups)
    (printLogicalDeviceDefinitions_buffers R.model_eq)
    (by
      intro b b' p _ hp
      obtain ⟨reports, hreports, hafter⟩ := printControlBlocks_reports hp
      obtain ⟨groups, hgroups, hprinted⟩ := printReportControlBlocks_printed hreports
      exact ⟨groups.flatten, hafter.trans hgroups, groups, rfl, hprinted⟩)
  obtain ⟨nodes, hnodes, hprinted⟩ := exists_results_of_appends hall
  refine ⟨nodes, ?_, hprinted⟩
  rw [GeneratedFiles.reportControlBlocks, R.reportControlBlocks_eq, haddeds, hnodes]
  rfl

theorem Selection.reportsByNode {P : ParsedModel rt} (S : Selection P.model args)
    {files : GeneratedFiles} (hgenerate : generate rt P.model args = .ok files) :
    ∃ groups, ReportsByNode S files groups ∧
      List.Forall₂
        (fun (p : PlacedNode) blocks =>
          blocks.map ReportControlBlockDefinition.content =
            p.node.reportControlBlocks.flatMap fun rcb =>
              rcb.instanceIndices.map (rcb.content (S.generator rt).hasOwner))
        (placedNodes S.logicalDevices) groups := by
  obtain ⟨R⟩ := S.stages hgenerate
  obtain ⟨nodes, hnodes, hprinted⟩ := R.reportGroups
  refine ⟨nodes.map List.flatten, ⟨hnodes, ?_⟩, ?_⟩
  · rw [List.forall₂_map_right_iff]
    apply forall₂_imp_of_mem hprinted
    intro p hp groups _ hgroups
    refine ⟨?_, length_flatten_reports (S.single p hp) hgroups⟩
    intro block hblock
    obtain ⟨printed, hprinted, hblock⟩ := List.mem_flatten.mp hblock
    obtain ⟨rcb, -, hreport⟩ := exists_mem_of_forall₂ hgroups.flip hprinted
    exact hreport.parents block hblock
  · rw [List.forall₂_map_right_iff]
    exact hprinted.imp fun p groups hgroups => contents_flatten_reports hgroups

theorem Selection.reportsByElement {P : ParsedModel rt} (S : Selection P.model args)
    {files : GeneratedFiles} (hgenerate : generate rt P.model args = .ok files) :
    ∃ groups, ReportsByElement S files groups ∧
      List.Forall₂
        (fun (placed : PlacedNode × ReportControl) blocks =>
          PrintedReport (S.blockContext rt) (placed.1.variableName args.modelPrefix) placed.2
            blocks)
        (placedControls LogicalNode.reportControlBlocks S.logicalDevices) groups := by
  obtain ⟨R⟩ := S.stages hgenerate
  obtain ⟨nodes, hnodes, hprinted⟩ := R.reportGroups
  have haddeds : List.Forall₂
      (fun (p : PlacedNode) (added : List ReportControlBlockDefinition) =>
        ∃ groups : List (List ReportControlBlockDefinition), added = groups.flatMap id ∧
          List.Forall₂ (PrintedReport (S.blockContext rt) (p.variableName args.modelPrefix))
            p.node.reportControlBlocks groups)
      (placedNodes S.logicalDevices) (nodes.map List.flatten) := by
    rw [List.forall₂_map_right_iff]
    exact hprinted.imp fun p groups hgroups => ⟨groups, List.flatMap_id.symm, hgroups⟩
  obtain ⟨groups, hflatten, hreports⟩ := exists_results haddeds
  refine ⟨groups, ⟨?_, ?_⟩, hreports⟩
  · rw [hnodes, hflatten, List.flatMap_id]
  · apply forall₂_imp_of_mem hreports
    intro placed hplaced blocks _ hblocks
    obtain ⟨p, hp, hcontrol⟩ := List.mem_flatMap.mp hplaced
    obtain ⟨rcb, hrcb, rfl⟩ := List.mem_map.mp hcontrol
    exact ⟨hblocks.parents, hblocks.length_eq (S.single p hp rcb hrcb)⟩

end Iec61850.Scl
