import Iec61850.ControlBlockChains

/-!
# Log references

A log control block names a log by device, node and log name.  The generator
puts the reference together from the attributes of the `LogControl` element;
it is compared with the reference to the node which the element designates.
-/

namespace Iec61850.Scl

open Go

variable {rt : Runtime} {scl : SCL} {args : GeneratorArguments}

/-- The node of the log; the enclosing device and `LLN0` where the device and the
class are omitted. -/
structure LogControl.Designates (lcb : LogControl) (enclosing device : LogicalDevice)
    (ln : LogicalNode) : Prop where
  ldInst : device.inst = if lcb.ldInst = [] then enclosing.inst else lcb.ldInst
  nodePrefix : ln.nodePrefix = lcb.nodePrefix
  lnClass : ln.lnClass = if lcb.lnClass = [] then lit "LLN0" else lcb.lnClass
  lnInst : ln.inst = lcb.lnInst

/-- The reference to a log of a node. -/
def referenceToLog (device : LogicalDevice) (ln : LogicalNode) (logName : Str) : Str :=
  device.inst ++ lit "/" ++ ln.getName ++ lit "$" ++ logName

/-! ## The printed blocks -/

/-- The block is the one printed for this element of this node. -/
structure PrintedForLog (modelPrefix : Str) (p : PlacedNode) (lcb : LogControl)
    (block : LogControlBlockDefinition) : Prop where
  parent : block.parent = p.variableName modelPrefix
  name : block.name = lcb.name
  logRef : block.logRef =
    if lcb.logName = [] then none else some (logReference p.device.inst lcb)

theorem printLogControlBlocks_printed {blocks : ControlBlockContext} {modelPrefix : Str}
    (p : PlacedNode) (out : ControlBlockBuffers) :
    ∃ added, (printLogControlBlocks blocks p.device.inst (p.variableName modelPrefix) p.node
        out).logControlBlocks = out.logControlBlocks ++ added ∧
      List.Forall₂ (PrintedForLog modelPrefix p) p.node.logControlBlocks added := by
  have hfold : p.node.logControlBlocks.zipIdx.foldlM
      (fun b numbered => (pure (printLogControlBlock blocks p.device.inst
        (p.variableName modelPrefix) b numbered) : Outcome ControlBlockBuffers)) out =
      .ok (printLogControlBlocks blocks p.device.inst (p.variableName modelPrefix) p.node
        out) :=
    List.foldlM_pure
  obtain ⟨addeds, haddeds, hall⟩ := foldlM_appends
    (g := ControlBlockBuffers.logControlBlocks)
    (T := fun (numbered : LogControl × ℕ) added => ∃ block, added = [block] ∧
      PrintedForLog modelPrefix p numbered.1 block) hfold
    (by
      intro b b' numbered _ hb'
      obtain rfl := Except.ok.inj hb'
      exact ⟨_, rfl, _, rfl, rfl, rfl, rfl⟩)
  obtain ⟨added, hadded, hprinted⟩ := exists_results_of_appends hall
  refine ⟨added, ?_, ?_⟩
  · rw [haddeds, hadded]
    simp
  · have hcontrols := List.forall₂_map_left_iff.mpr hprinted
    rwa [List.zipIdx_map_fst] at hcontrols

variable {S : Selection scl args}

theorem RunStages.printedForLogs {files : GeneratedFiles}
    (R : RunStages (S.generator rt) args.outFileName S.logicalDevices files) :
    List.Forall₂
      (fun (placed : PlacedNode × LogControl) block =>
        PrintedForLog args.modelPrefix placed.1 placed.2 block)
      (placedControls LogicalNode.logControlBlocks S.logicalDevices)
      files.logControlBlocks := by
  obtain ⟨addeds, haddeds, hall⟩ := foldlM_appends
    (g := ControlBlockBuffers.logControlBlocks)
    (T := fun (p : PlacedNode) added => ∃ results : List LogControlBlockDefinition,
      added = results.flatMap (fun d => [d]) ∧
        List.Forall₂ (PrintedForLog args.modelPrefix p) p.node.logControlBlocks results)
    (printLogicalDeviceDefinitions_buffers R.model_eq)
    (by
      intro b b' p _ hp
      obtain ⟨before, hbefore, hafter⟩ := printControlBlocks_logControls hp
      obtain ⟨added, hadded, hprinted⟩ := printLogControlBlocks_printed p before
      refine ⟨added, ?_, added, by simp, hprinted⟩
      rw [hafter, ← hbefore]
      exact hadded)
  obtain ⟨results, hresults, hprinted⟩ := exists_results hall
  have hblocks : files.logControlBlocks = results := by
    rw [GeneratedFiles.logControlBlocks, R.logControlBlocks_eq, haddeds, hresults]
    simp
  rw [hblocks]
  exact hprinted

/-! ## When the reference is the right one -/

/-- The class alone stands for the node only if it is there and neither a prefix
nor an instance is. -/
theorem lnClass_eq_getName_iff {lcb : LogControl} {enclosing device : LogicalDevice}
    {ln : LogicalNode} (h : lcb.Designates enclosing device ln) :
    lcb.lnClass = ln.getName ↔
      lcb.lnClass ≠ [] ∧ lcb.nodePrefix = [] ∧ lcb.lnInst = [] := by
  have hname : ln.getName = lcb.nodePrefix ++
      (if lcb.lnClass = [] then lit "LLN0" else lcb.lnClass) ++ lcb.lnInst := by
    rw [LogicalNode.getName, h.nodePrefix, h.lnClass, h.lnInst]
  rw [hname]
  by_cases hclass : lcb.lnClass = []
  · rw [if_pos hclass, hclass]
    simp [lit]
  · rw [if_neg hclass]
    constructor
    · intro heq
      have hlength := congrArg List.length heq
      simp only [List.length_append] at hlength
      have hnodePrefix : lcb.nodePrefix.length = 0 := by omega
      have hinst : lcb.lnInst.length = 0 := by omega
      exact ⟨hclass, List.length_eq_zero_iff.mp hnodePrefix, List.length_eq_zero_iff.mp hinst⟩
    · rintro ⟨-, hnodePrefix, hinst⟩
      simp [hnodePrefix, hinst]

theorem logReference_eq_iff {lcb : LogControl} {enclosing device : LogicalDevice}
    {ln : LogicalNode} (h : lcb.Designates enclosing device ln) :
    logReference enclosing.inst lcb = referenceToLog device ln lcb.logName ↔
      lcb.lnClass ≠ [] ∧ lcb.nodePrefix = [] ∧ lcb.lnInst = [] := by
  rw [← lnClass_eq_getName_iff h, logReference, referenceToLog, ← h.ldInst]
  simp only [List.append_assoc, List.append_cancel_left_eq]
  exact List.append_left_inj _

/-- A device whose log control block leaves out the class of its own `LLN0`. -/
def eventLogDevice : LogicalDevice where
  inst := lit "Inverter"
  ln0 := some {
    lnClass := lit "LLN0"
    lnType := lit "LN0T"
    logControlBlocks := [{ name := lit "EventLog", logName := lit "EventLog" }] }

def eventLogModel : ParsedModel plainRuntime :=
  ParsedModel.ofDocument plainRuntime 4 (documentOf measurementTemplates [eventLogDevice])
    (by decide +kernel)

theorem generate_eventLogModel : (generate plainRuntime eventLogModel.model {}).isOk = true := by
  decide +kernel

theorem selectedDevices_eventLogModel :
    (selectedDevices eventLogModel.model {}).isOk = true := by
  decide +kernel

end Iec61850.Scl
