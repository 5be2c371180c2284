import Iec61850.ControlBlockRun
import Iec61850.DataSetMembers
import Iec61850.GeneratorSafety
import Iec61850.PlainModels

/-!
# Data sets and control blocks whose texts are plain

The strings which data sets and control blocks must have so that what is
printed for them is plain.  The control blocks go through a second print with
their buffer, which replaces percent signs.
-/

namespace Iec61850.Scl

open Go CSource

variable {rt : Runtime}

/-! ## Data sets -/

structure DataSet.Plain (dataSet : DataSet) : Prop where
  name : IsName dataSet.name
  members : ∀ fcda ∈ dataSet.fcda, IsClean (fcdaVariableName fcda)

/-- The texts printed for a list of items are plain. -/
def PlainItems (items : List CItem) : Prop :=
  ∀ item ∈ items, ∀ segments ∈ item.text, PlainText false segments

theorem plainItems_append {items others : List CItem} :
    PlainItems (items ++ others) ↔ PlainItems items ∧ PlainItems others :=
  List.forall_mem_append

theorem plainItems_map_declaration {α : Type} {f : α → ExternDeclaration} {as : List α} :
    PlainItems (as.map fun a => .externDeclaration (f a)) := by
  intro item hitem segments htext
  obtain ⟨a, -, rfl⟩ := List.mem_map.mp hitem
  cases htext

@[simp] theorem isClean_append {s t : Str} : IsClean (s ++ t) ↔ IsClean s ∧ IsClean t :=
  List.forall_mem_append

theorem quotable_false {s : Str} : Quotable false s ↔ IsClean s :=
  and_iff_left fun h => absurd h (by decide)

theorem isClean_of_mem {s t : Str} (ht : IsClean t) (h : ∀ c ∈ s, c ∈ t) : IsClean s :=
  fun c hc => ht c (h c hc)

theorem fcdaArrayIndex_component {name component : Str} {arrayIndex : ℤ}
    (h : fcdaArrayIndex rt name = .ok (arrayIndex, some component)) :
    ∀ c ∈ component, c ∈ name := by
  unfold fcdaArrayIndex at h
  split at h
  next => cases h
  next =>
    obtain ⟨arrayIndexStr, -, h⟩ := bind_eq_ok.mp h
    obtain ⟨n, -, h⟩ := bind_eq_ok.mp h
    obtain ⟨-, hcomponent⟩ := Prod.mk.inj (Except.ok.inj h)
    split at hcomponent
    next rest hrest =>
      unfold quoted at hcomponent
      split at hcomponent
      · cases hcomponent
      · obtain rfl := Option.some.inj hcomponent
        intro c hc
        exact List.mem_of_mem_drop (hrest ▸ List.mem_cons_of_mem _ hc)
    next => cases hcomponent

theorem isName_entryName {name : Str} {i : ℕ} : IsName (entryName name i) ↔ IsName name := by
  have hfcda : IsName (lit "_fcda") := by decide
  simp [entryName, hfcda]

theorem plain_printDataSetEntry {name : Str} {n i : ℕ} {fcda : FCDA}
    {entry : DataSetEntryDefinition} (hname : IsName name)
    (h : printDataSetEntry rt name n (fcda, i) = .ok entry) :
    PlainText false entry.text ↔ IsClean (fcdaVariableName fcda) := by
  obtain ⟨⟨arrayIndex, componentName⟩, hindex, h⟩ := bind_eq_ok.mp h
  obtain rfl := Except.ok.inj h
  simp only [plain_dataSetEntry, isName_entryName, quotable_false]
  constructor
  · rintro ⟨-, -, hclean, -⟩
    exact hclean
  · intro hclean
    refine ⟨hname, ?_, hclean, ?_, ?_⟩
    · refine isClean_of_mem hclean fun c hc => ?_
      rw [fcdaVariableName_eq]
      simp [show c ∈ fcda.ldInst from hc]
    · rintro component rfl
      exact isClean_of_mem hclean (fcdaArrayIndex_component hindex)
    · intro v hv
      split at hv
      · obtain rfl := Option.some.inj hv
        exact isName_entryName.mpr hname
      · cases hv

/-- A data set of a plain node is printed plainly exactly if it is plain and
the next one has a plain name. -/
theorem plain_printDataSet {modelPrefix : Str} {next : Option Str} {p : PlacedDataSet}
    {items : List CItem} (hmodel : IsName modelPrefix) (hdevice : IsName p.device.inst)
    (hnode : IsName p.node.getName)
    (h : printDataSet rt (p.variableName modelPrefix) next p = .ok items) :
    PlainItems items ↔ p.dataSet.Plain ∧ ∀ v ∈ next, IsName v := by
  obtain ⟨entries, hentries, h⟩ := bind_eq_ok.mp h
  obtain rfl := Except.ok.inj h
  have hds : IsName (lit "ds") := by decide
  have hvariable : IsName (p.variableName modelPrefix) ↔ IsName p.dataSet.name := by
    simp [PlacedDataSet.variableName, hmodel, hds, hdevice, hnode]
  have hentry : IsName p.dataSet.name → (PlainItems (entries.map .dataSetEntry) ↔
      ∀ fcda ∈ p.dataSet.fcda, IsClean (fcdaVariableName fcda)) := by
    intro hname
    constructor
    · intro hplain fcda hfcda
      rw [← List.zipIdx_map_fst 0 p.dataSet.fcda] at hfcda
      obtain ⟨numbered, hnumbered, rfl⟩ := List.mem_map.mp hfcda
      obtain ⟨entry, hmem, hentry⟩ := exists_mem_of_forall₂ (mapM_eq_ok.mp hentries) hnumbered
      exact (plain_printDataSetEntry (hvariable.mpr hname) hentry).mp
        (hplain _ (List.mem_map_of_mem hmem) _ rfl)
    · intro hclean item hitem segments htext
      obtain ⟨entry, hmem, rfl⟩ := List.mem_map.mp hitem
      obtain rfl := Option.some.inj htext
      obtain ⟨numbered, hnumbered, hentry⟩ :=
        exists_mem_of_forall₂ (mapM_eq_ok.mp hentries).flip hmem
      refine (plain_printDataSetEntry (hvariable.mpr hname) hentry).mpr (hclean _ ?_)
      rw [← List.zipIdx_map_fst 0 p.dataSet.fcda]
      exact List.mem_map_of_mem hnumbered
  rw [plainItems_append, plainItems_append]
  constructor
  · rintro ⟨⟨-, hentries⟩, hset⟩
    obtain ⟨hname, -, -, -, hnext⟩ :=
      (plain_dataSet _).mp (hset _ (List.mem_singleton_self _) _ rfl)
    have hname := hvariable.mp hname
    exact ⟨⟨hname, (hentry hname).mp hentries⟩, hnext⟩
  · rintro ⟨⟨hname, hmembers⟩, hnext⟩
    refine ⟨⟨plainItems_map_declaration, (hentry hname).mpr hmembers⟩, ?_⟩
    intro item hitem segments htext
    obtain rfl := List.mem_singleton.mp hitem
    obtain rfl := Option.some.inj htext
    have hdollar : IsClean (lit "$") := by decide
    rw [plain_dataSet]
    refine ⟨hvariable.mpr hname, quotable_of_isName hdevice, quotable_false.mpr ?_,
      isName_entryName.mpr (hvariable.mpr hname), hnext⟩
    simp [isClean_of_isName hnode, isClean_of_isName hname, hdollar]

theorem isName_dataSetVariable {modelPrefix : Str} {p : PlacedDataSet}
    (hmodel : IsName modelPrefix) (hdevice : IsName p.device.inst)
    (hnode : IsName p.node.getName) (hname : IsName p.dataSet.name) :
    IsName (p.variableName modelPrefix) := by
  have hds : IsName (lit "ds") := by decide
  simp [PlacedDataSet.variableName, hmodel, hds, hdevice, hnode, hname]

theorem plain_printPlacedDataSets {modelPrefix : Str} {placed : List PlacedDataSet}
    {items : List CItem} (hmodel : IsName modelPrefix)
    (hplaced : ∀ p ∈ placed, IsName p.device.inst ∧ IsName p.node.getName)
    (h : printPlacedDataSets rt (placed.map (PlacedDataSet.variableName modelPrefix)) placed =
      .ok items) : PlainItems items ↔ ∀ p ∈ placed, p.dataSet.Plain := by
  induction placed generalizing items with
  | nil =>
      obtain rfl := Except.ok.inj h
      simp [PlainItems]
  | cons p rest ih =>
      obtain ⟨name, hname, h⟩ := bind_eq_ok.mp h
      obtain rfl := Option.some.inj (first_eq_ok.mp hname)
      obtain ⟨own, hown, h⟩ := bind_eq_ok.mp h
      obtain ⟨others, hothers, h⟩ := bind_eq_ok.mp h
      obtain rfl := Except.ok.inj h
      obtain ⟨hself, hrest⟩ := List.forall_mem_cons.mp hplaced
      rw [plainItems_append, plain_printDataSet hmodel hself.1 hself.2 hown, ih hrest hothers,
        List.forall_mem_cons]
      refine ⟨fun hplain => ⟨hplain.1.1, hplain.2⟩, fun hplain => ⟨⟨hplain.1, ?_⟩, hplain.2⟩⟩
      intro v hv
      rw [List.map_cons, List.tail_cons, List.head?_map] at hv
      obtain ⟨next, hnext, rfl⟩ := Option.map_eq_some_iff.mp hv
      have hmem := List.mem_of_head? hnext
      exact isName_dataSetVariable hmodel (hrest next hmem).1 (hrest next hmem).2
        (hplain.2 next hmem).name

/-! ## Conditions on control blocks -/

/-- The revision and the integrity period of a report are printed without quotes. -/
structure ReportControl.Plain (rcb : ReportControl) : Prop where
  name : Quotable true rcb.name
  rptID : Quotable true rcb.rptID
  datSet : Quotable true rcb.datSet
  confRev : IsName rcb.confRev
  intgPd : IsName rcb.intgPd

/-- An indexed control without instances is not printed. -/
def ReportControl.HasInstance (rcb : ReportControl) : Prop :=
  rcb.indexed = true → 0 < rcb.maxInstances

structure LogControl.Plain (deviceInst : Str) (lcb : LogControl) : Prop where
  name : Quotable true lcb.name
  datSet : Quotable true lcb.datSet
  logRef : lcb.logName ≠ [] → Quotable true (logReference deviceInst lcb)

structure GSEControl.Plain (control : GSEControl) : Prop where
  name : Quotable true control.name
  appID : Quotable true control.appID
  datSet : Quotable true control.datSet

structure SampledValueControl.Plain (control : SampledValueControl) : Prop where
  name : Quotable true control.name
  smvID : Quotable true control.smvID
  datSet : Quotable true control.datSet

/-- The control blocks of a node; a GOOSE control is printed if its element of
the communication section is found. -/
structure LogicalNode.BlocksPlain (deviceInst : Str) (found : Str → Prop) (ln : LogicalNode) :
    Prop where
  reports : ∀ rcb ∈ ln.reportControlBlocks, rcb.HasInstance → rcb.Plain
  logControls : ∀ lcb ∈ ln.logControlBlocks, lcb.Plain deviceInst
  logs : ∀ log ∈ ln.logs, Quotable true log.name
  gseControls : ∀ control ∈ ln.gseControlBlocks, found control.name → control.Plain
  smvControls : ∀ control ∈ ln.smvControlBlocks, control.Plain

/-! ## Buffers -/

structure ControlBlockBuffers.Plain (out : ControlBlockBuffers) : Prop where
  reports : ∀ d ∈ out.reportControlBlocks, PlainText true d.text
  logControls : ∀ d ∈ out.logControlBlocks, PlainText true d.text
  logs : ∀ d ∈ out.logs, PlainText true d.text
  gseControls : ∀ d ∈ out.gseControlBlocks, PlainText true d.text
  smvControls : ∀ d ∈ out.smvControlBlocks, PlainText true d.text

structure VariableNames.Plain (names : VariableNames) : Prop where
  rcb : ∀ v ∈ names.rcb, IsName v
  lcb : ∀ v ∈ names.lcb, IsName v
  log : ∀ v ∈ names.log, IsName v
  gse : ∀ v ∈ names.gse, IsName v
  smv : ∀ v ∈ names.smv, IsName v
  sgcb : ∀ v ∈ names.sgcb, IsName v

variable {blocks : ControlBlockContext} {lnPrefix : Str}

theorem isName_of_getElem? {names : List Str} (hnames : ∀ v ∈ names, IsName v) (i : ℕ) :
    ∀ v ∈ names[i]?, IsName v :=
  fun v hv => hnames v (List.mem_of_getElem? hv)

@[simp] theorem quotable_nil {formatted : Bool} : Quotable formatted [] :=
  ⟨fun _ hc => absurd hc List.not_mem_nil, fun _ hmem => absurd hmem List.not_mem_nil⟩

theorem quotable_quoted {formatted : Bool} {s : Str} :
    (∀ t ∈ quoted s, Quotable formatted t) ↔ Quotable formatted s := by
  unfold quoted
  split
  next hnil => simp [hnil]
  next => simp

theorem quotable_append {formatted : Bool} {s t : Str} :
    Quotable formatted (s ++ t) ↔ Quotable formatted s ∧ Quotable formatted t := by
  simp only [Quotable, isClean_append, IsUnformatted, List.mem_append, not_or]
  tauto

/-- An attribute printed as `0` when it is empty. -/
theorem isName_orZero {s : Str} : IsName (if s = [] then lit "0" else s) ↔ IsName s := by
  have hzero : IsName (lit "0") := by decide
  split
  next hnil => simp [hnil, hzero]
  next => rfl

/-! ## Reports -/

theorem isName_twoDigits (n : ℕ) : IsName (twoDigits n) := by
  have hzero : isWordChar '0' = true := by decide
  unfold twoDigits
  split <;> simp [hzero]

theorem plain_printReportControlBlockInstance (hnames : blocks.names.Plain)
    (hnode : IsName lnPrefix) {inst : ReportInstance} (hindex : IsName inst.index)
    (reportNumber : ℕ) (out : ControlBlockBuffers) :
    (printReportControlBlockInstance blocks lnPrefix reportNumber inst out).Plain ↔
      out.Plain ∧ inst.rcb.Plain := by
  have hreport : IsName (lit "report") := by decide
  have hsibling := isName_of_getElem? hnames.rcb (out.reportControlBlocks.length + 1)
  have hquotable : Quotable true inst.index := quotable_of_isName hindex
  constructor
  · rintro ⟨hreports, hlogControls, hlogs, hgse, hsmv⟩
    obtain ⟨hreports, hown⟩ := List.forall_mem_append.mp hreports
    have hplain := hown _ (List.mem_singleton_self _)
    simp only [plain_reportControlBlock, quotable_quoted, quotable_append, isName_orZero] at hplain
    obtain ⟨-, -, hname, hrptID, hdatSet, hconfRev, hintgPd, -⟩ := hplain
    exact ⟨⟨hreports, hlogControls, hlogs, hgse, hsmv⟩,
      ⟨hname.1, hrptID, hdatSet, hconfRev, hintgPd⟩⟩
  · rintro ⟨hout, hrcb⟩
    refine ⟨List.forall_mem_append.mpr ⟨hout.reports, List.forall_mem_singleton.mpr ?_⟩,
      hout.logControls, hout.logs, hout.gseControls, hout.smvControls⟩
    simp only [plain_reportControlBlock, quotable_quoted, quotable_append, isName_orZero]
    exact ⟨isName_numberedName.mpr ⟨hnode, hreport⟩, hnode, ⟨hrcb.name, hquotable⟩,
      hrcb.rptID, hrcb.datSet, hrcb.confRev, hrcb.intgPd, hsibling⟩

theorem reportInstances_eq_ok {rcb : ReportControl} {instances : List ReportInstance}
    (h : reportInstances blocks rcb = .ok instances) :
    (∀ inst ∈ instances, inst.rcb = rcb ∧ IsName inst.index) ∧
      (rcb.HasInstance → instances ≠ []) ∧ (instances ≠ [] → rcb.HasInstance) := by
  unfold reportInstances at h
  unfold ReportControl.HasInstance
  split at h
  next hindexed =>
    have hlength := (mapM_eq_ok.mp h).length_eq
    rw [List.length_range] at hlength
    refine ⟨fun inst hinst => ?_, fun hpos hnil => ?_, fun hne _ => ?_⟩
    · obtain ⟨i, -, hi⟩ := exists_of_mem_mapM_ok h hinst
      obtain ⟨client, -, hi⟩ := bind_eq_ok.mp hi
      obtain rfl := Except.ok.inj hi
      exact ⟨rfl, isName_twoDigits _⟩
    · have hpos := hpos hindexed
      rw [hnil, List.length_nil] at hlength
      omega
    · rw [hlength]
      exact List.length_pos_iff.mpr hne
  next hindexed =>
    obtain rfl := Except.ok.inj h
    simp [hindexed]

theorem plain_printReportControlBlocks (hnames : blocks.names.Plain) (hnode : IsName lnPrefix)
    {ln : LogicalNode} {out out' : ControlBlockBuffers}
    (h : printReportControlBlocks blocks lnPrefix ln out = .ok out') :
    out'.Plain ↔ out.Plain ∧ ∀ rcb ∈ ln.reportControlBlocks, rcb.HasInstance → rcb.Plain := by
  obtain ⟨instances, hinstances, h⟩ := bind_eq_ok.mp h
  obtain rfl := Except.ok.inj h
  have hflatten : ∀ inst ∈ instances.flatten, IsName inst.index := by
    intro inst hinst
    obtain ⟨own, hown, hinst⟩ := List.mem_flatten.mp hinst
    obtain ⟨rcb, -, hrcb⟩ := exists_of_mem_mapM_ok hinstances hown
    exact ((reportInstances_eq_ok hrcb).1 inst hinst).2
  refine (foldl_iff_forall (P := ControlBlockBuffers.Plain)
    (C := fun numbered : ReportInstance × ℕ => numbered.1.rcb.Plain) ?_).trans ?_
  · rintro before ⟨inst, reportNumber⟩ hmem
    exact plain_printReportControlBlockInstance hnames hnode
      (hflatten inst (List.fst_mem_of_mem_zipIdx hmem)) reportNumber before
  · refine and_congr_right fun _ => ?_
    rw [forall_mem_zipIdx_iff (p := fun inst : ReportInstance => inst.rcb.Plain)]
    constructor
    · intro hall rcb hrcb hhas
      obtain ⟨own, hown, hinst⟩ := exists_mem_of_forall₂ (mapM_eq_ok.mp hinstances) hrcb
      obtain ⟨hself, hne, -⟩ := reportInstances_eq_ok hinst
      obtain ⟨inst, hmem⟩ := List.exists_mem_of_ne_nil own (hne hhas)
      rw [← (hself inst hmem).1]
      exact hall inst (List.mem_flatten.mpr ⟨own, hown, hmem⟩)
    · intro hall inst hinst
      obtain ⟨own, hown, hmem⟩ := List.mem_flatten.mp hinst
      obtain ⟨rcb, hrcb, hinst⟩ := exists_of_mem_mapM_ok hinstances hown
      obtain ⟨hself, -, hhas⟩ := reportInstances_eq_ok hinst
      rw [(hself inst hmem).1]
      exact hall rcb hrcb (hhas (List.ne_nil_of_mem hmem))

/-! ## Logs, GOOSE and sampled values -/

theorem plain_printLogControlBlock (hnames : blocks.names.Plain) (hnode : IsName lnPrefix)
    (deviceInst : Str) (numbered : LogControl × ℕ) (out : ControlBlockBuffers) :
    (printLogControlBlock blocks deviceInst lnPrefix out numbered).Plain ↔
      out.Plain ∧ numbered.1.Plain deviceInst := by
  obtain ⟨lcb, lcbNumber⟩ := numbered
  have hlcb : IsName (lit "lcb") := by decide
  have hsibling := isName_of_getElem? hnames.lcb (out.logControlBlocks.length + 1)
  have hlogRef : (∀ s ∈ (if lcb.logName = [] then none else some (logReference deviceInst lcb)),
      Quotable true s) ↔ (lcb.logName ≠ [] → Quotable true (logReference deviceInst lcb)) := by
    split
    next hnil => simp [hnil]
    next hne => simp [hne]
  constructor
  · rintro ⟨hreports, hlogControls, hlogs, hgse, hsmv⟩
    obtain ⟨hlogControls, hown⟩ := List.forall_mem_append.mp hlogControls
    have hplain := hown _ (List.mem_singleton_self _)
    simp only [plain_logControlBlock, quotable_quoted, hlogRef] at hplain
    obtain ⟨-, -, hname, hdatSet, hlogRef, -⟩ := hplain
    exact ⟨⟨hreports, hlogControls, hlogs, hgse, hsmv⟩, ⟨hname, hdatSet, hlogRef⟩⟩
  · rintro ⟨hout, hplain⟩
    refine ⟨hout.reports,
      List.forall_mem_append.mpr ⟨hout.logControls, List.forall_mem_singleton.mpr ?_⟩,
      hout.logs, hout.gseControls, hout.smvControls⟩
    simp only [plain_logControlBlock, quotable_quoted, hlogRef]
    exact ⟨isName_numberedName.mpr ⟨hnode, hlcb⟩, hnode, hplain.name, hplain.datSet,
      hplain.logRef, hsibling⟩

theorem plain_printLog (hnames : blocks.names.Plain) (hnode : IsName lnPrefix)
    (numbered : Log × ℕ) (out : ControlBlockBuffers) :
    (printLog blocks lnPrefix out numbered).Plain ↔
      out.Plain ∧ Quotable true numbered.1.name := by
  obtain ⟨log, logNumber⟩ := numbered
  have hlog : IsName (lit "log") := by decide
  have hsibling := isName_of_getElem? hnames.log (out.logs.length + 1)
  constructor
  · rintro ⟨hreports, hlogControls, hlogs, hgse, hsmv⟩
    obtain ⟨hlogs, hown⟩ := List.forall_mem_append.mp hlogs
    have hplain := hown _ (List.mem_singleton_self _)
    rw [plain_log] at hplain
    exact ⟨⟨hreports, hlogControls, hlogs, hgse, hsmv⟩, hplain.2.2.1⟩
  · rintro ⟨hout, hname⟩
    refine ⟨hout.reports, hout.logControls,
      List.forall_mem_append.mpr ⟨hout.logs, List.forall_mem_singleton.mpr ?_⟩,
      hout.gseControls, hout.smvControls⟩
    rw [plain_log]
    exact ⟨isName_numberedName.mpr ⟨hnode, hlog⟩, hnode, hname, hsibling⟩

theorem isName_addressDefinition {blockName : Str} {address : Option PhyComAddress}
    (hname : IsName blockName) :
    ∀ d ∈ address.map (addressDefinition blockName), IsName d.addressName := by
  intro d hd
  obtain ⟨a, -, rfl⟩ := Option.map_eq_some_iff.mp hd
  have haddress : IsName (lit "_address") := by decide
  simp [addressDefinition, hname, haddress]

theorem plain_printGSEControlBlock (hnames : blocks.names.Plain) (hnode : IsName lnPrefix)
    {device : Str} {state after : ℕ × ControlBlockBuffers} {control : GSEControl}
    (h : printGSEControlBlock blocks device lnPrefix state control = .ok after) :
    after.2.Plain ↔ state.2.Plain ∧
      ((blocks.connectedAP.bind fun ap => ap.lookupGSE device control.name).isSome →
        control.Plain) := by
  obtain ⟨gseControlNumber, out⟩ := state
  obtain ⟨connectedAP, hconnected, h⟩ := bind_eq_ok.mp h
  rw [deref_eq_ok.mp hconnected, Option.bind_some]
  split at h
  next hnone =>
    obtain rfl := Except.ok.inj h
    simp [hnone]
  next gse hsome =>
    obtain rfl := Except.ok.inj h
    have hgse : IsName (lit "gse") := by decide
    have hblock : IsName (numberedName lnPrefix "gse" gseControlNumber) :=
      isName_numberedName.mpr ⟨hnode, hgse⟩
    have hsibling := isName_of_getElem? hnames.gse (out.gseControlBlocks.length + 1)
    simp only [hsome, Option.isSome_some, forall_const]
    constructor
    · rintro ⟨hreports, hlogControls, hlogs, hgse, hsmv⟩
      obtain ⟨hgse, hown⟩ := List.forall_mem_append.mp hgse
      have hplain := hown _ (List.mem_singleton_self _)
      simp only [plain_gseControlBlock, quotable_quoted] at hplain
      obtain ⟨-, -, hname, happID, hdatSet, -⟩ := hplain
      exact ⟨⟨hreports, hlogControls, hlogs, hgse, hsmv⟩, ⟨hname, happID, hdatSet⟩⟩
    · rintro ⟨hout, hcontrol⟩
      refine ⟨hout.reports, hout.logControls, hout.logs,
        List.forall_mem_append.mpr ⟨hout.gseControls, List.forall_mem_singleton.mpr ?_⟩,
        hout.smvControls⟩
      simp only [plain_gseControlBlock, quotable_quoted]
      exact ⟨hblock, hnode, hcontrol.name, hcontrol.appID, hcontrol.datSet,
        isName_addressDefinition hblock, hsibling⟩

theorem plain_printSVControlBlock (hnames : blocks.names.Plain) (hnode : IsName lnPrefix)
    {device : Str} {numbered : SampledValueControl × ℕ} {out out' : ControlBlockBuffers}
    (h : printSVControlBlock blocks device lnPrefix out numbered = .ok out') :
    out'.Plain ↔ out.Plain ∧ numbered.1.Plain := by
  obtain ⟨svCB, smvControlNumber⟩ := numbered
  obtain ⟨connectedAP, -, h⟩ := bind_eq_ok.mp h
  obtain ⟨smvOpts, -, h⟩ := bind_eq_ok.mp h
  obtain rfl := Except.ok.inj h
  have hsmv : IsName (lit "smv") := by decide
  have hblock : IsName (numberedName lnPrefix "smv" smvControlNumber) :=
    isName_numberedName.mpr ⟨hnode, hsmv⟩
  have hsibling := isName_of_getElem? hnames.smv (out.smvControlBlocks.length + 1)
  constructor
  · rintro ⟨hreports, hlogControls, hlogs, hgse, hsmv⟩
    obtain ⟨hsmv, hown⟩ := List.forall_mem_append.mp hsmv
    have hplain := hown _ (List.mem_singleton_self _)
    simp only [plain_svControlBlock, quotable_quoted] at hplain
    obtain ⟨-, -, hname, hsmvID, hdatSet, -⟩ := hplain
    exact ⟨⟨hreports, hlogControls, hlogs, hgse, hsmv⟩, ⟨hname, hsmvID, hdatSet⟩⟩
  · rintro ⟨hout, hcontrol⟩
    refine ⟨hout.reports, hout.logControls, hout.logs, hout.gseControls,
      List.forall_mem_append.mpr ⟨hout.smvControls, List.forall_mem_singleton.mpr ?_⟩⟩
    simp only [plain_svControlBlock, quotable_quoted]
    exact ⟨hblock, hnode, hcontrol.name, hcontrol.smvID, hcontrol.datSet,
      isName_addressDefinition hblock, hsibling⟩

theorem plain_printSettingControlBlock (ln : LogicalNode) (out : ControlBlockBuffers) :
    (printSettingControlBlock blocks lnPrefix ln out).Plain ↔ out.Plain := by
  unfold printSettingControlBlock
  split
  · rfl
  · exact ⟨fun h => ⟨h.reports, h.logControls, h.logs, h.gseControls, h.smvControls⟩,
      fun h => ⟨h.reports, h.logControls, h.logs, h.gseControls, h.smvControls⟩⟩

/-! ## All control blocks -/

theorem plain_printControlBlocks (hnames : blocks.names.Plain) (hnode : IsName lnPrefix)
    {deviceInst ldName device : Str} (hdevice : deviceComponent ldName = .ok device)
    {ln : LogicalNode} {out out' : ControlBlockBuffers}
    (h : printControlBlocks blocks deviceInst ldName lnPrefix ln out = .ok out') :
    out'.Plain ↔ out.Plain ∧ ln.BlocksPlain deviceInst fun name =>
      (blocks.connectedAP.bind fun ap => ap.lookupGSE device name).isSome := by
  obtain ⟨reports, hreports, h⟩ := bind_eq_ok.mp h
  obtain ⟨gse, hgse, h⟩ := bind_eq_ok.mp h
  obtain ⟨smv, hsmv, h⟩ := bind_eq_ok.mp h
  obtain rfl := Except.ok.inj h
  rw [printGSEControlBlocks, hdevice, ok_bind] at hgse
  obtain ⟨⟨gseControlNumber, afterGse⟩, hgseLoop, hdone⟩ := bind_eq_ok.mp hgse
  obtain rfl := Except.ok.inj hdone
  rw [printSVControlBlocks, hdevice, ok_bind] at hsmv
  have hsmvPlain := foldlM_iff_forall (P := ControlBlockBuffers.Plain)
    (C := fun numbered : SampledValueControl × ℕ => numbered.1.Plain) hsmv
    fun _ _ _ _ => plain_printSVControlBlock hnames hnode
  have hgsePlain := foldlM_iff_forall (P := fun state : ℕ × ControlBlockBuffers => state.2.Plain)
    hgseLoop fun _ _ _ _ => plain_printGSEControlBlock hnames hnode
  have hlogsPlain (before : ControlBlockBuffers) :
      (printLogs blocks lnPrefix ln before).Plain ↔ before.Plain ∧
        ∀ numbered ∈ ln.logs.zipIdx, Quotable true numbered.1.name :=
    foldl_iff_forall fun _ numbered _ => plain_printLog hnames hnode numbered _
  have hlogControlsPlain (before : ControlBlockBuffers) :
      (printLogControlBlocks blocks deviceInst lnPrefix ln before).Plain ↔ before.Plain ∧
        ∀ numbered ∈ ln.logControlBlocks.zipIdx, numbered.1.Plain deviceInst :=
    foldl_iff_forall fun _ numbered _ =>
      plain_printLogControlBlock hnames hnode deviceInst numbered _
  rw [plain_printSettingControlBlock, hsmvPlain, hgsePlain, hlogsPlain, hlogControlsPlain,
    plain_printReportControlBlocks hnames hnode hreports,
    forall_mem_zipIdx_iff (p := fun control : SampledValueControl => control.Plain),
    forall_mem_zipIdx_iff (p := fun log : Log => Quotable true log.name),
    forall_mem_zipIdx_iff (p := fun lcb : LogControl => lcb.Plain deviceInst)]
  constructor
  · rintro ⟨⟨⟨⟨⟨hout, hreports⟩, hlogControls⟩, hlogs⟩, hgse⟩, hsmv⟩
    exact ⟨hout, ⟨hreports, hlogControls, hlogs, hgse, hsmv⟩⟩
  · rintro ⟨hout, hblocks⟩
    exact ⟨⟨⟨⟨⟨hout, hblocks.reports⟩, hblocks.logControls⟩, hblocks.logs⟩,
      hblocks.gseControls⟩, hblocks.smvControls⟩

end Iec61850.Scl
