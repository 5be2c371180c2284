import Iec61850.PointerChains
import Iec61850.StringLiterals

/-!
# Chains of control blocks

The variable names of all control blocks are listed before any block is
printed, and a block points to the name after its own position in the buffer.
The lists of names are compared with the names under which the blocks are
printed, buffer by buffer, from one print function to the next.
-/

namespace Iec61850.Scl

open Go Linked

variable {rt : Runtime} {scl : SCL} {args : GeneratorArguments}

/-! ## The blocks of the files -/

def GeneratedFiles.reportControlBlocks (files : GeneratedFiles) :
    List ReportControlBlockDefinition :=
  files.c.filterMap CItem.reportControlBlock?

def GeneratedFiles.logControlBlocks (files : GeneratedFiles) : List LogControlBlockDefinition :=
  files.c.filterMap CItem.logControlBlock?

def GeneratedFiles.logs (files : GeneratedFiles) : List LogDefinition :=
  files.c.filterMap CItem.log?

def CItem.settingGroupControlBlock? : CItem → Option SettingGroupControlBlockDefinition
  | .settingGroupControlBlock d => some d
  | _ => none

def GeneratedFiles.settingGroupControlBlocks (files : GeneratedFiles) :
    List SettingGroupControlBlockDefinition :=
  files.c.filterMap CItem.settingGroupControlBlock?

theorem RunStages.settingGroupControlBlocks_eq {s : StaticModelGenerator} {outFileName : Str}
    {devices : List LogicalDevice} {files : GeneratedFiles}
    (R : RunStages s outFileName devices files) :
    files.settingGroupControlBlocks = R.model.buffers.settingGroupControlBlocks := by
  rw [GeneratedFiles.settingGroupControlBlocks, R.filterMap_unaddressed]
  · simp [List.filterMap_append, List.filterMap_map, CItem.settingGroupControlBlock?,
      Function.comp_def]
  · intro item hitem
    cases item <;> first | rfl | cases hitem
  · intro item hitem
    cases item <;> first | rfl | exact absurd rfl hitem
  all_goals exact fun _ => rfl

/-! ## Names of numbered variables -/

theorem underscore_not_mem_kind {kind : String} (hkind : '_' ∉ lit kind) (i : ℕ) :
    '_' ∉ lit kind ++ itoa i := by
  rw [List.mem_append, not_or]
  exact ⟨hkind, underscore_not_mem_itoa i⟩

theorem numberedName_inj {a b : Str} {kind : String} {i j : ℕ} (hkind : '_' ∉ lit kind)
    (h : numberedName a kind i = numberedName b kind j) : a = b ∧ i = j := by
  obtain ⟨hparent, hnumber⟩ := append_cons_inj_of_not_mem (underscore_not_mem_kind hkind i)
    (underscore_not_mem_kind hkind j) h
  exact ⟨hparent, itoa_injective (List.append_cancel_left hnumber)⟩

theorem nodup_numberedNames {lnPrefix : Str} {kind : String} (hkind : '_' ∉ lit kind)
    (count : ℕ) : (numberedNames lnPrefix kind count).Nodup := by
  apply List.Nodup.map _ List.nodup_range
  intro i j h
  exact (numberedName_inj hkind h).2

/-- The variables of the blocks are distinct when their owners are. -/
theorem nodup_flatMap_numberedNames {α : Type} {kind : String} (hkind : '_' ∉ lit kind)
    (v : α → Str) (count : α → ℕ) (xs : List α) :
    (xs.flatMap fun x => numberedNames (v x) kind (count x)).Nodup ↔
      ((xs.filter fun x => count x ≠ 0).map v).Nodup := by
  induction xs with
  | nil => simp
  | cons x rest ih =>
      by_cases hcount : count x = 0
      · simpa [List.flatMap_cons, hcount, numberedNames] using ih
      · have hdisjoint : (numberedNames (v x) kind (count x)).Disjoint
            (rest.flatMap fun y => numberedNames (v y) kind (count y)) ↔
            v x ∉ (rest.filter fun y => count y ≠ 0).map v := by
          simp only [List.disjoint_left, numberedNames, List.mem_map, List.mem_flatMap,
            List.mem_range, List.mem_filter, decide_eq_true_eq]
          constructor
          · rintro hall ⟨y, ⟨hy, hne⟩, hv⟩
            apply hall ⟨0, by omega, rfl⟩
            exact ⟨y, hy, 0, by omega, by rw [hv]⟩
          · rintro hnot _ ⟨i, -, rfl⟩ ⟨y, hy, j, hj, hsame⟩
            obtain ⟨hv, -⟩ := numberedName_inj hkind hsame
            exact hnot ⟨y, ⟨hy, by omega⟩, hv⟩
        rw [List.flatMap_cons, List.nodup_append', hdisjoint, ih,
          List.filter_cons_of_pos (by simpa using hcount), List.map_cons, List.nodup_cons]
        constructor
        · rintro ⟨-, hrest, hx⟩
          exact ⟨hx, hrest⟩
        · rintro ⟨hx, hrest⟩
          exact ⟨nodup_numberedNames hkind _, hrest, hx⟩

theorem length_numberedNames (lnPrefix : Str) (kind : String) (count : ℕ) :
    (numberedNames lnPrefix kind count).length = count := by
  rw [numberedNames, List.length_map, List.length_range]

/-! ## What a print function adds to the buffers -/

theorem VariableNames.append_eq (a b : VariableNames) :
    a ++ b = ⟨a.rcb ++ b.rcb, a.lcb ++ b.lcb, a.log ++ b.log, a.gse ++ b.gse, a.smv ++ b.smv,
      a.sgcb ++ b.sgcb⟩ := rfl

/-- Each buffer is continued by blocks under the names `added`, which point
along `names`. -/
structure Adds (names added : VariableNames) (out out' : ControlBlockBuffers) : Prop where
  rcb : Grows ReportControlBlockDefinition.blockName ReportControlBlockDefinition.sibling
    names.rcb added.rcb out.reportControlBlocks out'.reportControlBlocks
  lcb : Grows LogControlBlockDefinition.blockName LogControlBlockDefinition.sibling
    names.lcb added.lcb out.logControlBlocks out'.logControlBlocks
  log : Grows LogDefinition.logName LogDefinition.sibling names.log added.log out.logs out'.logs
  gse : Grows GSEControlBlockDefinition.blockName GSEControlBlockDefinition.sibling
    names.gse added.gse out.gseControlBlocks out'.gseControlBlocks
  smv : Grows SVControlBlockDefinition.blockName SVControlBlockDefinition.sibling
    names.smv added.smv out.smvControlBlocks out'.smvControlBlocks
  sgcb : Grows SettingGroupControlBlockDefinition.blockName
    SettingGroupControlBlockDefinition.sibling names.sgcb added.sgcb
    out.settingGroupControlBlocks out'.settingGroupControlBlocks

theorem Adds.refl (names : VariableNames) (out : ControlBlockBuffers) : Adds names {} out out :=
  ⟨.refl .., .refl .., .refl .., .refl .., .refl .., .refl ..⟩

theorem Adds.trans {names added more : VariableNames} {out between out' : ControlBlockBuffers}
    (h : Adds names added out between) (h' : Adds names more between out') :
    Adds names (added ++ more) out out' where
  rcb := h.rcb.trans h'.rcb
  lcb := h.lcb.trans h'.lcb
  log := h.log.trans h'.log
  gse := h.gse.trans h'.gse
  smv := h.smv.trans h'.smv
  sgcb := h.sgcb.trans h'.sgcb

theorem Adds.foldlM {α : Type} {names : VariableNames} {added : α → VariableNames}
    {f : ControlBlockBuffers → α → Outcome ControlBlockBuffers} {xs : List α}
    {out out' : ControlBlockBuffers} (h : xs.foldlM f out = .ok out')
    (hstep : ∀ b b', ∀ x ∈ xs, f b x = .ok b' → Adds names (added x) b b') :
    Adds names ((xs.map added).foldr (· ++ ·) {}) out out' := by
  induction xs generalizing out with
  | nil =>
      obtain rfl := Except.ok.inj h
      exact Adds.refl names out
  | cons x rest ih =>
      rw [List.foldlM_cons] at h
      obtain ⟨between, hx, hrest⟩ := bind_eq_ok.mp h
      have hfirst := hstep out between x List.mem_cons_self hx
      exact hfirst.trans (ih hrest fun b b' y hy => hstep b b' y (List.mem_cons_of_mem x hy))

section Loops

variable {α β K ρ : Type} {key : ρ → K} {next : ρ → Option K} {keys : List K}

/-- A loop that adds one record for each element. -/
theorem grows_foldlM {f : β → α → Outcome β} {g : β → List ρ} {n : α → K} {xs : List α}
    {b c : β} (h : xs.foldlM f b = .ok c)
    (hstep : ∀ b' c', ∀ x ∈ xs, f b' x = .ok c' → Grows key next keys [n x] (g b') (g c')) :
    Grows key next keys (xs.map n) (g b) (g c) := by
  induction xs generalizing b with
  | nil =>
      obtain rfl := Except.ok.inj h
      exact Grows.refl keys (g b)
  | cons x rest ih =>
      rw [List.foldlM_cons] at h
      obtain ⟨b', hb', hrest⟩ := bind_eq_ok.mp h
      have hfirst := hstep b b' x List.mem_cons_self hb'
      exact hfirst.trans (ih hrest fun d e y hy => hstep d e y (List.mem_cons_of_mem x hy))

theorem grows_foldl {f : β → α → β} {g : β → List ρ} {n : α → K} {xs : List α} {b : β}
    (hstep : ∀ b', ∀ x ∈ xs, Grows key next keys [n x] (g b') (g (f b' x))) :
    Grows key next keys (xs.map n) (g b) (g (xs.foldl f b)) := by
  have hfold : xs.foldlM (fun b' x => (pure (f b' x) : Outcome β)) b = .ok (xs.foldl f b) :=
    List.foldlM_pure
  apply grows_foldlM hfold
  intro b' c' x hx hc'
  obtain rfl := Except.ok.inj hc'
  exact hstep b' x hx

end Loops

/-- The names of blocks that are numbered in the order of their elements. -/
theorem map_numberedName_zipIdx {α : Type} (lnPrefix : Str) (kind : String) (xs : List α) :
    xs.zipIdx.map (fun numbered => numberedName lnPrefix kind numbered.2) =
      numberedNames lnPrefix kind xs.length := by
  have hindices : xs.zipIdx.map Prod.snd = List.range xs.length := by
    rw [List.zipIdx_map_snd, List.range_eq_range']
  rw [numberedNames, ← hindices, List.map_map]
  rfl

/-! ## One print function after the other -/

variable {ctx : ControlBlockContext} {lnPrefix : Str} {ln : LogicalNode}
  {out out' : ControlBlockBuffers}

/-- A block that is not indexed has one instance; the parser sees to it. -/
def ReportControl.Single (rcb : ReportControl) : Prop :=
  rcb.indexed = false → rcb.maxInstances = 1

theorem length_reportInstances {rcb : ReportControl} {instances : List ReportInstance}
    (hsingle : rcb.Single) (h : reportInstances ctx rcb = .ok instances) :
    instances.length = rcb.maxInstances := by
  unfold reportInstances at h
  split at h
  next =>
    have hlength := (mapM_eq_ok.mp h).length_eq
    rw [List.length_range] at hlength
    exact hlength.symm
  next hindexed =>
    obtain rfl := Except.ok.inj h
    rw [hsingle (by simpa using hindexed)]
    rfl

theorem length_flatten_reportInstances {rcbs : List ReportControl}
    {instances : List (List ReportInstance)} (hsingle : ∀ rcb ∈ rcbs, rcb.Single)
    (h : rcbs.mapM (reportInstances ctx) = .ok instances) :
    instances.flatten.length = (rcbs.map ReportControl.maxInstances).sum := by
  have hall := mapM_eq_ok.mp h
  clear h
  induction hall with
  | nil => rfl
  | cons hfirst _ ih =>
      obtain ⟨hown, hrest⟩ := List.forall_mem_cons.mp hsingle
      rw [List.flatten_cons, List.length_append, List.map_cons, List.sum_cons, ih hrest,
        length_reportInstances hown hfirst]

theorem printReportControlBlocks_adds (hsingle : ∀ rcb ∈ ln.reportControlBlocks, rcb.Single)
    (h : printReportControlBlocks ctx lnPrefix ln out = .ok out') :
    Adds ctx.names { rcb := (createLNVariableNames lnPrefix ln).rcb } out out' := by
  obtain ⟨added, hadded⟩ := printReportControlBlocks_appends h
  obtain ⟨instances, hinstances, h⟩ := bind_eq_ok.mp h
  have hgrows : Grows ReportControlBlockDefinition.blockName
      ReportControlBlockDefinition.sibling ctx.names.rcb
      (instances.flatten.zipIdx.map fun numbered => numberedName lnPrefix "report" numbered.2)
      out.reportControlBlocks out'.reportControlBlocks := by
    rw [← Except.ok.inj h]
    apply grows_foldl (g := ControlBlockBuffers.reportControlBlocks)
    intro b' numbered hnumbered
    exact Grows.append_singleton rfl rfl rfl
  rw [map_numberedName_zipIdx, length_flatten_reportInstances hsingle hinstances] at hgrows
  rw [hadded] at hgrows ⊢
  exact { Adds.refl ctx.names out with rcb := hgrows }

theorem printLogControlBlocks_adds (ctx : ControlBlockContext) (deviceInst lnPrefix : Str)
    (ln : LogicalNode) (out : ControlBlockBuffers) :
    Adds ctx.names { lcb := (createLNVariableNames lnPrefix ln).lcb } out
      (printLogControlBlocks ctx deviceInst lnPrefix ln out) := by
  obtain ⟨added, hadded⟩ := printLogControlBlocks_appends ctx deviceInst lnPrefix ln out
  have hgrows : Grows LogControlBlockDefinition.blockName LogControlBlockDefinition.sibling
      ctx.names.lcb
      (ln.logControlBlocks.zipIdx.map fun numbered => numberedName lnPrefix "lcb" numbered.2)
      out.logControlBlocks
      (printLogControlBlocks ctx deviceInst lnPrefix ln out).logControlBlocks := by
    apply grows_foldl (g := ControlBlockBuffers.logControlBlocks)
    intro b' numbered hnumbered
    exact Grows.append_singleton rfl rfl rfl
  rw [map_numberedName_zipIdx] at hgrows
  rw [hadded] at hgrows ⊢
  exact { Adds.refl ctx.names out with lcb := hgrows }

theorem printLogs_adds (ctx : ControlBlockContext) (lnPrefix : Str) (ln : LogicalNode)
    (out : ControlBlockBuffers) :
    Adds ctx.names { log := (createLNVariableNames lnPrefix ln).log } out
      (printLogs ctx lnPrefix ln out) := by
  obtain ⟨added, hadded⟩ := printLogs_appends ctx lnPrefix ln out
  have hgrows : Grows LogDefinition.logName LogDefinition.sibling ctx.names.log
      (ln.logs.zipIdx.map fun numbered => numberedName lnPrefix "log" numbered.2)
      out.logs (printLogs ctx lnPrefix ln out).logs := by
    apply grows_foldl (g := ControlBlockBuffers.logs)
    intro b' numbered hnumbered
    exact Grows.append_singleton rfl rfl rfl
  rw [map_numberedName_zipIdx] at hgrows
  rw [hadded] at hgrows ⊢
  exact { Adds.refl ctx.names out with log := hgrows }

/-- The text between the first two underscores of the device variable, as a key
for the elements of the connected access point. -/
def ControlBlockContext.findsGSE (ctx : ControlBlockContext) (logicalDeviceName : Str)
    (control : GSEControl) : Bool :=
  (ctx.connectedAP.bind fun connectedAP =>
    connectedAP.lookupGSE logicalDeviceName control.name).isSome

/-- The loop numbers the blocks it prints, not the controls. -/
theorem printGSEControlBlock_grows {logicalDeviceName : Str} {controls : List GSEControl}
    {n n' : ℕ}
    (h : controls.foldlM (printGSEControlBlock ctx logicalDeviceName lnPrefix) (n, out) =
      .ok (n', out')) :
    Grows GSEControlBlockDefinition.blockName GSEControlBlockDefinition.sibling ctx.names.gse
      ((List.range' n (controls.countP (ctx.findsGSE logicalDeviceName))).map
        (numberedName lnPrefix "gse"))
      out.gseControlBlocks out'.gseControlBlocks := by
  induction controls generalizing n out with
  | nil =>
      obtain rfl := (Prod.mk.inj (Except.ok.inj h)).2
      exact .refl ..
  | cons control rest ih =>
      rw [List.foldlM_cons] at h
      obtain ⟨⟨m, between⟩, hcontrol, hrest⟩ := bind_eq_ok.mp h
      obtain ⟨connectedAP, hconnected, hcontrol⟩ := bind_eq_ok.mp hcontrol
      have hconnected := deref_eq_ok.mp hconnected
      cases hlookup : connectedAP.lookupGSE logicalDeviceName control.name with
      | none =>
          rw [hlookup] at hcontrol
          obtain ⟨rfl, rfl⟩ := Prod.mk.inj (Except.ok.inj hcontrol)
          have hmissed : ctx.findsGSE logicalDeviceName control = false := by
            simp [ControlBlockContext.findsGSE, hconnected, hlookup]
          rw [List.countP_cons_of_neg (by simp [hmissed])]
          exact ih hrest
      | some gse =>
          rw [hlookup] at hcontrol
          obtain ⟨rfl, rfl⟩ := Prod.mk.inj (Except.ok.inj hcontrol)
          have hfound : ctx.findsGSE logicalDeviceName control = true := by
            simp [ControlBlockContext.findsGSE, hconnected, hlookup]
          rw [List.countP_cons_of_pos hfound, List.range'_succ, List.map_cons,
            ← List.singleton_append]
          apply Grows.trans _ (ih hrest)
          exact Grows.append_singleton rfl rfl rfl

theorem printGSEControlBlocks_adds {ldName part : Str}
    (hpart : deviceComponent ldName = .ok part)
    (h : printGSEControlBlocks ctx ldName lnPrefix ln out = .ok out') :
    Adds ctx.names
      { gse := numberedNames lnPrefix "gse" (ln.gseControlBlocks.countP (ctx.findsGSE part)) }
      out out' := by
  obtain ⟨added, hadded⟩ := printGSEControlBlocks_appends h
  unfold printGSEControlBlocks at h
  rw [hpart, ok_bind] at h
  obtain ⟨⟨n, after⟩, hloop, h⟩ := bind_eq_ok.mp h
  obtain rfl := Except.ok.inj h
  have hgrows := printGSEControlBlock_grows hloop
  rw [← List.range_eq_range'] at hgrows
  rw [hadded] at hgrows ⊢
  exact { Adds.refl ctx.names out with gse := hgrows }

theorem printSVControlBlocks_adds {ldName : Str}
    (h : printSVControlBlocks ctx ldName lnPrefix ln out = .ok out') :
    Adds ctx.names { smv := (createLNVariableNames lnPrefix ln).smv } out out' := by
  obtain ⟨added, hadded⟩ := printSVControlBlocks_appends h
  obtain ⟨part, -, hloop⟩ := bind_eq_ok.mp h
  have hgrows : Grows SVControlBlockDefinition.blockName SVControlBlockDefinition.sibling
      ctx.names.smv
      (ln.smvControlBlocks.zipIdx.map fun numbered => numberedName lnPrefix "smv" numbered.2)
      out.smvControlBlocks out'.smvControlBlocks := by
    apply grows_foldlM (g := ControlBlockBuffers.smvControlBlocks) hloop
    intro b b' numbered _ hblock
    obtain ⟨connectedAP, -, hblock⟩ := bind_eq_ok.mp hblock
    obtain ⟨smvOpts, -, hblock⟩ := bind_eq_ok.mp hblock
    obtain rfl := Except.ok.inj hblock
    exact Grows.append_singleton rfl rfl rfl
  rw [map_numberedName_zipIdx] at hgrows
  rw [hadded] at hgrows ⊢
  exact { Adds.refl ctx.names out with smv := hgrows }

theorem printSettingControlBlock_adds (ctx : ControlBlockContext) (lnPrefix : Str)
    (ln : LogicalNode) (out : ControlBlockBuffers) :
    Adds ctx.names { sgcb := (createLNVariableNames lnPrefix ln).sgcb.take 1 } out
      (printSettingControlBlock ctx lnPrefix ln out) := by
  unfold printSettingControlBlock createLNVariableNames
  cases ln.settingGroupControlBlocks with
  | nil => exact Adds.refl ctx.names out
  | cons sgcb rest =>
      exact { Adds.refl ctx.names out with sgcb := .append_singleton rfl rfl rfl }

/-! ## One node after the other -/

variable {S : Selection scl args}

/-- The names under which the control blocks of a node are printed: of GOOSE
control blocks those which are found, of setting groups the first one. -/
def Selection.printedNames (S : Selection scl args) (p : PlacedNode) : VariableNames :=
  let lnNames := createLNVariableNames (p.variableName args.modelPrefix) p.node
  { lnNames with
    gse := numberedNames (p.variableName args.modelPrefix) "gse"
      (p.node.gseControlBlocks.countP fun control =>
        (S.locatedGSE p.device control.name).isSome)
    sgcb := lnNames.sgcb.take 1 }

theorem findsGSE_eq {names : VariableNames} {device : LogicalDevice} {part : Str}
    (hpart : devicePart args.modelPrefix device = some part) (control : GSEControl) :
    ((S.generator rt).controlBlockContext names).findsGSE part control =
      (S.locatedGSE device control.name).isSome := by
  have hconnected : ((S.generator rt).controlBlockContext names).connectedAP = S.connectedAP :=
    rfl
  rw [ControlBlockContext.findsGSE, hconnected]
  cases h : S.connectedAP with
  | none => simp [Selection.locatedGSE, Selection.located, h]
  | some connectedAP =>
      simp [Selection.locatedGSE, Selection.located, h, hpart, lookupGSE_eq]

theorem printPlacedBlocks_adds {names : VariableNames} {p : PlacedNode}
    (hsingle : ∀ rcb ∈ p.node.reportControlBlocks, rcb.Single)
    (h : printPlacedBlocks ((S.generator rt).controlBlockContext names) args.modelPrefix out
      p = .ok out') : Adds names (S.printedNames p) out out' := by
  obtain ⟨reports, hreports, h⟩ := bind_eq_ok.mp h
  obtain ⟨between, hgse, h⟩ := bind_eq_ok.mp h
  obtain ⟨after, hsv, h⟩ := bind_eq_ok.mp h
  obtain rfl := Except.ok.inj h
  obtain ⟨part, hpart, -⟩ := bind_eq_ok.mp hgse
  have hfinds : ((S.generator rt).controlBlockContext names).findsGSE part =
      fun control => (S.locatedGSE p.device control.name).isSome :=
    funext (findsGSE_eq (deviceComponent_eq_ok hpart))
  have hreports := printReportControlBlocks_adds hsingle hreports
  have hlcbs := printLogControlBlocks_adds ((S.generator rt).controlBlockContext names)
    p.device.inst (p.variableName args.modelPrefix) p.node reports
  have hlogs := printLogs_adds ((S.generator rt).controlBlockContext names)
    (p.variableName args.modelPrefix) p.node
    (printLogControlBlocks ((S.generator rt).controlBlockContext names) p.device.inst
      (p.variableName args.modelPrefix) p.node reports)
  have hgse := printGSEControlBlocks_adds hpart hgse
  have hsv := printSVControlBlocks_adds hsv
  have hsetting := printSettingControlBlock_adds ((S.generator rt).controlBlockContext names)
    (p.variableName args.modelPrefix) p.node after
  rw [hfinds] at hgse
  have hall := ((((hreports.trans hlcbs).trans hlogs).trans hgse).trans hsv).trans hsetting
  simp only [VariableNames.append_eq, List.append_nil, List.nil_append] at hall
  exact hall

/-! ## The whole run -/

theorem projection_foldr_append {f : VariableNames → List Str} (hnil : f {} = [])
    (happend : ∀ a b, f (a ++ b) = f a ++ f b) (all : List VariableNames) :
    f (all.foldr (· ++ ·) {}) = all.flatMap f := by
  induction all with
  | nil => exact hnil
  | cons names rest ih => rw [List.foldr_cons, happend, ih, List.flatMap_cons]

theorem createLNSubVariableList_eq (modelPrefix : Str) (devices : List LogicalDevice) :
    createLNSubVariableList modelPrefix devices =
      ((placedNodes devices).map fun p =>
        createLNVariableNames (p.variableName modelPrefix) p.node).foldr (· ++ ·) {} := by
  rw [placedNodes, List.map_flatMap]
  simp only [List.map_map]
  rfl

theorem RunStages.adds {files : GeneratedFiles}
    (R : RunStages (S.generator rt) args.outFileName S.logicalDevices files)
    (hsingle : ∀ p ∈ placedNodes S.logicalDevices, ∀ rcb ∈ p.node.reportControlBlocks,
      rcb.Single) :
    Adds (createLNSubVariableList args.modelPrefix S.logicalDevices)
      (((placedNodes S.logicalDevices).map S.printedNames).foldr (· ++ ·) {})
      {} R.model.buffers := by
  apply Adds.foldlM (printLogicalDeviceDefinitions_buffers R.model_eq)
  intro b b' p hp hprint
  exact printPlacedBlocks_adds (hsingle p hp) hprint

/-! ## Parsed report control blocks -/

theorem parseLogicalNode_reportControlBlocks {templates : DataTypeTemplates} {fuel : ℕ}
    {ln parsed : LogicalNode} (h : parseLogicalNode rt templates fuel ln = .ok parsed) :
    ln.reportControlBlocks.mapM (parseReportControl rt) = .ok parsed.reportControlBlocks := by
  obtain ⟨t, created, checked, objects, -, -, hchecked, -, rfl⟩ := parseLogicalNode_eq_ok h
  exact (parseControlBlocks_eq_ok hchecked).1

theorem single_parseReportControl {rcb parsed : ReportControl}
    (h : parseReportControl rt rcb = .ok parsed) : parsed.Single := by
  intro hindexed
  unfold parseReportControl at h
  cases hrptEnabled : rcb.rptEnabled with
  | none =>
      simp only [hrptEnabled] at h
      obtain rfl := Except.ok.inj h
      simp only [ReportControl.maxInstances]
  | some rptEnabled =>
      simp only [hrptEnabled] at h
      generalize (if rcb.indexedStr = [] then true else rt.castToBool rcb.indexedStr) = indexed
        at h
      obtain ⟨max, -, h⟩ := bind_eq_ok.mp h
      split at h
      next => cases h
      next hallowed =>
        obtain rfl := Except.ok.inj h
        have hmax : max = 1 := by
          by_contra hne
          exact hallowed ⟨hindexed, hne⟩
        simp [ReportControl.maxInstances, hmax]

theorem mem_placedNodes {devices : List LogicalDevice} {p : PlacedNode} :
    p ∈ placedNodes devices ↔ p.device ∈ devices ∧ p.node ∈ p.device.logicalNodes := by
  rw [placedNodes, List.mem_flatMap]
  constructor
  · rintro ⟨device, hdevice, hp⟩
    obtain ⟨node, hnode, rfl⟩ := List.mem_map.mp hp
    exact ⟨hdevice, hnode⟩
  · intro h
    exact ⟨p.device, h.1, List.mem_map.mpr ⟨p.node, h.2, rfl⟩⟩

theorem Selection.single {P : ParsedModel rt} (S : Selection P.model args) :
    ∀ p ∈ placedNodes S.logicalDevices, ∀ rcb ∈ p.node.reportControlBlocks, rcb.Single := by
  intro p hp rcb hrcb
  obtain ⟨templates, -, hdevices⟩ := S.parsedDevices
  obtain ⟨hdevice, hnode⟩ := mem_placedNodes.mp hp
  obtain ⟨source, resolved, -, hparsed⟩ := hdevices.parsedNode hdevice hnode
  have hreports := parseLogicalNode_reportControlBlocks hparsed
  obtain ⟨declared, -, hdeclared⟩ := exists_of_mem_mapM_ok hreports hrcb
  exact single_parseReportControl hdeclared

/-! ## Chains -/

/-- The blocks of a kind that prints all of its names form a chain under them. -/
theorem chain_of_grows {ρ : Type} {k : ρ → Str} {s : ρ → Option Str}
    {f : VariableNames → List Str} {records : List ρ} (hnil : f {} = [])
    (happend : ∀ a b, f (a ++ b) = f a ++ f b)
    (hprinted : ∀ p ∈ placedNodes S.logicalDevices, f (S.printedNames p) =
      f (createLNVariableNames (p.variableName args.modelPrefix) p.node))
    (hgrows : Grows k s (f (createLNSubVariableList args.modelPrefix S.logicalDevices))
      (f (((placedNodes S.logicalDevices).map S.printedNames).foldr (· ++ ·) {})) [] records) :
    Chain k s (f (createLNSubVariableList args.modelPrefix S.logicalDevices)) records
      (f (createLNSubVariableList args.modelPrefix S.logicalDevices)).head? := by
  have hnames : f (((placedNodes S.logicalDevices).map S.printedNames).foldr (· ++ ·) {}) =
      f (createLNSubVariableList args.modelPrefix S.logicalDevices) := by
    rw [createLNSubVariableList_eq, projection_foldr_append hnil happend,
      projection_foldr_append hnil happend, List.flatMap_map, List.flatMap_map]
    exact List.flatMap_congr hprinted
  rw [hnames] at hgrows
  exact hgrows.chain rfl

/-- A device with two control blocks of almost every kind.  Only the second sampled value
control block has an address. -/
def bayDevice : LogicalDevice where
  inst := lit "LD1"
  ln0 := some {
    lnClass := lit "LLN0"
    lnType := lit "LN0T"
    reportControlBlocks := [
      { name := lit "events", rptEnabled := some { maxStr := lit "3" } },
      { name := lit "status", indexedStr := lit "false" }]
    logControlBlocks := [{ name := lit "eventLog" }, { name := lit "statusLog" }]
    logs := [{}]
    gseControlBlocks := [{ name := lit "gcb0" }]
    smvControlBlocks := [
      { name := lit "sv0", smpModStr := lit "SmpPerSec", smvOpts := some {} },
      { name := lit "sv1", smpModStr := lit "SmpPerSec", smvOpts := some {} }]
    settingGroupControlBlocks := [{ numOfSGs := 2 }, { numOfSGs := 4 }] }

def bayDocument : SCL where
  ieds := (documentOf stationTemplates [bayDevice]).ieds
  dataTypeTemplates := some stationTemplates
  communication := some {
    subNetworks := [{ connectedAP := [stationConnectedAP (lit "IED1") (lit "0001")] }] }

def bayModel : ParsedModel plainRuntime :=
  ParsedModel.ofDocument plainRuntime 4 bayDocument (by decide +kernel)

theorem generate_bayModel : (generate plainRuntime bayModel.model {}).isOk = true := by
  decide +kernel

/-- Three instances of the indexed block and one of the other. -/
example : (resultOf _ generate_bayModel).reportControlBlocks.map
    (fun block => (block.name, block.sibling.isSome)) =
      [(lit "events01", true), (lit "events02", true), (lit "events03", true),
        (lit "status", false)] := by
  decide +kernel

end Iec61850.Scl
