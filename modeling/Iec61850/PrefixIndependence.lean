import Iec61850.ArrayReferences
import Iec61850.CLexemes
import Iec61850.PrefixReadings

/-!
# When the output does not depend on the prefix

`Generate` with two prefixes that are C identifiers: the output is one output
with either prefix in front of its names, without a panic and without a macro
that is named like a variable, if and only if the runs come back, `SE_` is
inserted alike at all settings, the communication section is read alike for all
controls, and both prefixes have a lower case letter.
-/

namespace Iec61850.Scl

open Go

variable {p q : Str} {rt : Runtime}

/-! ## Macros and variables -/

def InitialValue.declares : InitialValue → List Str
  | .octetString valueName _ => [valueName]
  | _ => []

/-- The variables an item declares, with those inside the initializer. -/
def CItem.variables : CItem → List Str
  | .initializer statements => statements.flatMap fun statement => statement.value.declares
  | item => item.declares

def GeneratedFiles.variables (files : GeneratedFiles) : List Str :=
  files.headerNames ++ files.c.flatMap CItem.variables

/-- The names that are given to `#define`. -/
def GeneratedFiles.macros (files : GeneratedFiles) : List Str :=
  files.h.hDefineName :: files.h.defines.map PointerDefine.macroName

def GeneratedFiles.MacrosApart (files : GeneratedFiles) : Prop :=
  ∀ name ∈ files.macros, name ∉ files.variables

theorem mem_variables_mapNames {upper f : Str → Str} {rests : GeneratedFiles} {name : Str}
    (h : name ∈ (rests.mapNames upper f).variables) : ∃ r, name = f r := by
  unfold GeneratedFiles.variables at h
  rcases List.mem_append.mp h with h | h
  · unfold GeneratedFiles.headerNames GeneratedFiles.mapNames at h
    simp only [List.map_map, List.mem_map] at h
    obtain ⟨d, -, rfl⟩ := h
    exact ⟨d.name, rfl⟩
  · obtain ⟨item, hitem, hname⟩ := List.mem_flatMap.mp h
    obtain ⟨rest, -, rfl⟩ := List.mem_map.mp hitem
    cases rest with
    | initializerPrototype => cases hname
    | initializer statements =>
        obtain ⟨statement, hstatement, hname⟩ := List.mem_flatMap.mp hname
        obtain ⟨s, -, rfl⟩ := List.mem_map.mp hstatement
        obtain ⟨target, once, value⟩ := s
        cases value with
        | octetString valueName bytes => exact ⟨valueName, List.mem_singleton.mp hname⟩
        | _ => cases hname
    | _ => exact ⟨_, List.mem_singleton.mp hname⟩

/-- A C identifier. -/
structure IsIdentifier (s : Str) : Prop where
  first : ∃ c rest, s = c :: rest ∧ c.isDigit = false
  letters : ∀ c ∈ s, CSource.isWordChar c = true

theorem IsIdentifier.ne_nil (h : IsIdentifier p) : p ≠ [] := by
  obtain ⟨c, rest, rfl, -⟩ := h.first
  exact List.cons_ne_nil c rest

theorem isAscii_of_le {c last : Char} (h : c.val ≤ last.val) (hlast : last.toNat < 128) :
    isAscii c = true := by
  have hle : c.toNat ≤ last.toNat := UInt32.le_iff_toNat_le.mp h
  exact decide_eq_true (Nat.lt_of_le_of_lt hle hlast)

theorem isAscii_of_isWordChar {c : Char} (h : CSource.isWordChar c = true) :
    isAscii c = true := by
  have hletter : c.isAlphanum = true ∨ c = '_' := by simpa [CSource.isWordChar] using h
  rcases hletter with halphanum | rfl
  · rcases (Bool.or_eq_true _ _).mp halphanum with halpha | hdigit
    · rcases (Bool.or_eq_true _ _).mp halpha with hupper | hlower
      · have hbounds : 'A'.val ≤ c.val ∧ c.val ≤ 'Z'.val := of_decide_eq_true hupper
        exact isAscii_of_le hbounds.2 (by decide)
      · have hbounds := (Bool.and_eq_true _ _).mp hlower
        exact isAscii_of_le (of_decide_eq_true hbounds.2) (by decide)
    · have hbounds := (Bool.and_eq_true _ _).mp hdigit
      exact isAscii_of_le (of_decide_eq_true hbounds.2) (by decide)
  · rfl

theorem IsIdentifier.toUpper_eq (h : IsIdentifier p) (rt : Runtime) :
    rt.toUpper p = asciiUpper p := by
  rw [Runtime.toUpper, if_pos]
  exact List.all_eq_true.mpr fun c hc => isAscii_of_isWordChar (h.letters c hc)

theorem IsIdentifier.length_toUpper (h : IsIdentifier p) (rt : Runtime) :
    (rt.toUpper p).length = p.length := by
  rw [h.toUpper_eq, asciiUpper, List.length_map]

theorem IsIdentifier.exists_lower (h : IsIdentifier p) (hupper : rt.toUpper p ≠ p) :
    ∃ c ∈ p, 'a' ≤ c ∧ c ≤ 'z' := by
  by_contra hnone
  apply hupper
  rw [h.toUpper_eq, asciiUpper]
  conv_rhs => rw [← List.map_id p]
  refine List.map_congr_left fun c hc => ?_
  rw [if_neg fun hlower => hnone ⟨c, hc, hlower⟩]
  rfl

/-- The letters of a component are letters of the text. -/
theorem mem_of_mem_split {c d : Char} {s part : Str} (hpart : part ∈ split c s)
    (hd : d ∈ part) : d ∈ s := by
  induction s generalizing part with
  | nil =>
      obtain rfl := List.mem_singleton.mp hpart
      exact hd
  | cons e rest ih =>
      simp only [split] at hpart
      split at hpart
      next =>
        rcases List.mem_cons.mp hpart with rfl | hpart
        · cases hd
        · exact List.mem_cons_of_mem e (ih hpart hd)
      next =>
        split at hpart
        next hrest => exact absurd hrest (split_ne_nil c rest)
        next own parts hrest =>
          rw [hrest] at ih
          rcases List.mem_cons.mp hpart with rfl | hpart
          · rcases List.mem_cons.mp hd with rfl | hd
            · exact List.mem_cons_self
            · exact List.mem_cons_of_mem e (ih List.mem_cons_self hd)
          · exact List.mem_cons_of_mem e (ih (List.mem_cons_of_mem _ hpart) hd)

/-- The macro of the header has no lower case letter. -/
theorem hDefineName_not_lower {outFileName : Str}
    (hupper : ∀ c ∈ rt.toUpper outFileName, ¬ ('a' ≤ c ∧ c ≤ 'z')) :
    ∀ c ∈ hDefineName rt outFileName, ¬ ('a' ≤ c ∧ c ≤ 'z') := by
  have hreplace : ∀ (s : Str) (old : Char), (∀ c ∈ s, ¬ ('a' ≤ c ∧ c ≤ 'z')) →
      ∀ c ∈ replaceAll s old '_', ¬ ('a' ≤ c ∧ c ≤ 'z') := by
    intro s old hs c hc
    obtain ⟨d, hd, rfl⟩ := List.mem_map.mp hc
    split
    · decide
    · exact hs d hd
  have htext : ∀ c ∈ replaceAll (replaceAll (rt.toUpper outFileName) '.' '_') '-' '_' ++
      lit "_H_", ¬ ('a' ≤ c ∧ c ≤ 'z') :=
    List.forall_mem_append.mpr ⟨hreplace _ _ (hreplace _ _ hupper), by decide⟩
  intro c hc
  unfold hDefineName afterLastSlash at hc
  rw [List.getLastD_eq_getLast?] at hc
  cases hlast : (split '/' (replaceAll (replaceAll (rt.toUpper outFileName) '.' '_') '-' '_' ++
      lit "_H_")).getLast? with
  | none =>
      rw [hlast] at hc
      cases hc
  | some part =>
      rw [hlast] at hc
      exact htext c (mem_of_mem_split (List.mem_of_getLast? hlast) hc)

/-- Macros differ from variables in the upper case of the prefix. -/
theorem macrosApart_mapNames (hp : IsIdentifier p) (hupper : rt.toUpper p ≠ p)
    {rests : GeneratedFiles} (hdefine : ∀ c ∈ rests.h.hDefineName, ¬ ('a' ≤ c ∧ c ≤ 'z')) :
    (rests.mapNames (rt.toUpper p ++ ·) (p ++ ·)).MacrosApart := by
  intro name hmacro hvariable
  obtain ⟨r, rfl⟩ := mem_variables_mapNames hvariable
  rcases List.mem_cons.mp hmacro with hname | hmacro
  · obtain ⟨c, hc, hlower⟩ := hp.exists_lower hupper
    have hmem : c ∈ rests.h.hDefineName := by
      have hsame : rests.h.hDefineName = p ++ r := hname.symm
      rw [hsame]
      exact List.mem_append_left r hc
    exact hdefine c hmem hlower
  · obtain ⟨d, hd, hname⟩ := List.mem_map.mp hmacro
    obtain ⟨rest, -, rfl⟩ := List.mem_map.mp hd
    have hsame : rt.toUpper p ++ rest.macroName = p ++ r := hname
    exact hupper (List.append_inj_left hsame (hp.length_toUpper rt))

/-! ## Two runs -/

/-- The claims about two runs: both come back, both finish or neither does, and
what they print are the same files with either prefix, macros apart. -/
structure ParametricRuns (rt : Runtime) (p q : Str) (run run' : Outcome GeneratedFiles) :
    Prop where
  left : Returns run
  right : Returns run'
  finishes : (∃ files, run = .ok files) ↔ ∃ files', run' = .ok files'
  renamed : ∀ files files', run = .ok files → run' = .ok files' →
    Renamed rt p q files files' ∧ files.MacrosApart ∧ files'.MacrosApart

/-- What the two runs read in the same way. -/
structure Selection.PrefixesAlike {scl : SCL} {args : GeneratorArguments} (rt : Runtime)
    (S : Selection scl args) (p q : Str) : Prop where
  setpoints : ∀ device ∈ S.logicalDevices, ∀ ln ∈ device.logicalNodes,
    ∀ w ∈ objectSetpoints memberParents (joinName (joinName [] device.inst) ln.getName)
      ln.dataObjects, InsertedAlike p q w
  goose : ∀ placed ∈ placedControls LogicalNode.gseControlBlocks S.logicalDevices,
    ((S.withPrefix p).locatedGSE placed.1.device placed.2.name).map GSE.parameters =
      ((S.withPrefix q).locatedGSE placed.1.device placed.2.name).map GSE.parameters
  sampledValues : ∀ placed ∈ placedControls LogicalNode.smvControlBlocks S.logicalDevices,
    (((S.withPrefix p).locatedSMV placed.1.device placed.2.name).bind SMV.address).map
        PhyComAddress.parameters =
      (((S.withPrefix q).locatedSMV placed.1.device placed.2.name).bind SMV.address).map
        PhyComAddress.parameters
  upper : rt.toUpper p ≠ p
  upper' : rt.toUpper q ≠ q

section Runs

variable {scl : SCL} {args : GeneratorArguments} {S : Selection scl args}
  {files files' : GeneratedFiles}

/-- The macro of the first device is its variable if the prefix has no lower case
letter. -/
theorem RunStages.toUpper_ne
    (R : RunStages ((S.withPrefix p).generator rt) args.outFileName S.logicalDevices files)
    (h : files.MacrosApart) : rt.toUpper p ≠ p := by
  intro hupper
  obtain ⟨device, hdevice⟩ : ∃ device, device ∈ S.logicalDevices :=
    ⟨_, List.mem_of_head? (first_eq_ok.mp R.firstDevice_eq)⟩
  have hnames := RunStages.variableNames_eq (S := S.withPrefix p) R
  have hmem : joinName p device.inst ∈
      R.model.definitions.cOut.map NodeDefinition.variableName := by
    rw [hnames]
    have hsame : (S.withPrefix p).nodeNames rt =
        namesOf (namedDevices (mangleSE p) rt p S.logicalDevices) := rfl
    rw [hsame, namesOf_namedDevices]
    exact List.mem_flatMap.mpr ⟨device, hdevice, List.mem_cons_self⟩
  have hlisted : R.model.definitions.Listed :=
    listed_printLogicalDeviceDefinitions R.model_eq Definitions.listed_empty
  have hdefine : printVariablePointerDefine rt p (joinName p device.inst) =
      .ok ⟨joinName p device.inst, joinName p device.inst⟩ := by
    simp [printVariablePointerDefine, joinName, hupper, pure, Except.pure]
  have hmacro : joinName p device.inst ∈ files.macros := by
    rw [← hlisted] at hmem
    obtain ⟨d, hd, hprinted⟩ := exists_mem_of_forall₂ (mapM_eq_ok.mp R.defines_eq) hmem
    obtain rfl := Except.ok.inj (hdefine.symm.trans hprinted)
    rw [R.files_eq]
    exact List.mem_cons_of_mem _ (List.mem_map.mpr ⟨_, hd, rfl⟩)
  apply h _ hmacro
  obtain ⟨d, hd, hname⟩ := List.mem_map.mp hmem
  have hitem : CItem.node d ∈ files.c := by
    rw [R.c_eq]
    simp [hd]
  rw [GeneratedFiles.variables, ← hname]
  exact List.mem_append_right _ (List.mem_flatMap.mpr ⟨_, hitem, List.mem_singleton_self _⟩)

/-- Files that are renamed have been printed from alike readings. -/
theorem RunStages.prefixesAlike
    (R : RunStages ((S.withPrefix p).generator rt) args.outFileName S.logicalDevices files)
    (R' : RunStages ((S.withPrefix q).generator rt) args.outFileName S.logicalDevices files')
    (h : Renamed rt p q files files') (hleft : files.MacrosApart) (hright : files'.MacrosApart) :
    S.PrefixesAlike rt p q := by
  have hnames := h.nodeNames
  rw [R.nodeDefinitions_eq, R'.nodeDefinitions_eq,
    RunStages.variableNames_eq (S := S.withPrefix p) R,
    RunStages.variableNames_eq (S := S.withPrefix q) R'] at hnames
  exact {
    setpoints := insertedAlike_of_deviceNames hnames
    goose := Renamed.gseAlike R R' h
    sampledValues := Renamed.smvAlike R R' h
    upper := R.toUpper_ne hleft
    upper' := R'.toUpper_ne hright }

theorem mem_placedControls {α : Type} {controls : LogicalNode → List α}
    {devices : List LogicalDevice} {device : LogicalDevice} (hdevice : device ∈ devices)
    {ln : LogicalNode} (hln : ln ∈ device.logicalNodes) {control : α}
    (hcontrol : control ∈ controls ln) :
    ((⟨device, ln⟩ : PlacedNode), control) ∈ placedControls controls devices :=
  List.mem_flatMap.mpr ⟨⟨device, ln⟩, mem_placedNodes.mpr ⟨hdevice, hln⟩,
    List.mem_map_of_mem hcontrol⟩

/-- Alike readings, node by node. -/
theorem Selection.PrefixesAlike.nodeAlike (h : S.PrefixesAlike rt p q)
    (hleft : ∀ device ∈ S.logicalDevices, ∀ ln ∈ device.logicalNodes, NodeSafe p
      scl.dataTypeTemplates scl.communication S.connectedAP device ln)
    (hright : ∀ device ∈ S.logicalDevices, ∀ ln ∈ device.logicalNodes, NodeSafe q
      scl.dataTypeTemplates scl.communication S.connectedAP device ln) :
    ∀ device ∈ S.logicalDevices, ∀ ln ∈ device.logicalNodes,
      NodeAlike (S.restContext rt) p q device ln := by
  intro device hdevice ln hln
  have hnode : InModel [] 1 (joinName (joinName [] device.inst) ln.getName) :=
    (inModel_joinName device.inst).child ln.getName
  have hname : ∀ o, joinName (joinName o device.inst) ln.getName =
      o ++ joinName (joinName [] device.inst) ln.getName := by simp [joinName]
  constructor
  · intro w hw
    have hcutp := (hleft device hdevice ln hln).objects.1
    have hcutq := (hright device hdevice ln hln).objects.1
    rw [hname] at hcutp hcutq
    exact {
      rooted := rooted_of_mem_objectSetpoints parentsBelow_memberParents hnode w hw
      left := hcutp _ (mem_definedObjects w hw)
      right := hcutq _ (mem_definedObjects w hw)
      alike := h.setpoints device hdevice ln hln w hw }
  · constructor
    · intro control hcontrol part part' hpart hpart' connectedAP hconnected
      have hsame := h.goose _ (mem_placedControls hdevice hln hcontrol)
      have hlocated : ∀ (o part : Str), devicePart o device = some part →
          (S.withPrefix o).locatedGSE device control.name =
            connectedAP.lookupGSE part control.name := by
        intro o part hpart
        have hpart : devicePart (args.withPrefix o).modelPrefix device = some part := hpart
        have hconnected : (S.withPrefix o).connectedAP = some connectedAP := hconnected
        rw [lookupGSE_eq]
        simp [Selection.locatedGSE, Selection.located, hconnected, hpart]
      rw [hlocated p part hpart, hlocated q part' hpart'] at hsame
      exact hsame
    · intro control hcontrol part part' hpart hpart' connectedAP hconnected
      have hsame := h.sampledValues _ (mem_placedControls hdevice hln hcontrol)
      have hlocated : ∀ (o part : Str), devicePart o device = some part →
          (S.withPrefix o).locatedSMV device control.name =
            connectedAP.lookupSMV part control.name := by
        intro o part hpart
        have hpart : devicePart (args.withPrefix o).modelPrefix device = some part := hpart
        have hconnected : (S.withPrefix o).connectedAP = some connectedAP := hconnected
        rw [lookupSMV_eq]
        simp [Selection.locatedSMV, Selection.located, hconnected, hpart]
      rw [hlocated p part hpart, hlocated q part' hpart'] at hsame
      exact hsame

end Runs

/-! ## The output and the prefix -/

section Main

variable {args : GeneratorArguments} {P : ParsedModel rt}

theorem Selection.safe_of_generateSafe (S : Selection P.model args)
    (h : GenerateSafe rt P.model (args.withPrefix p)) : (S.withPrefix p).Safe rt := by
  rcases h with hnone | ⟨S', hS'⟩
  · have hsome := (S.withPrefix p).selectIed_eq
    rw [hnone] at hsome
    cases hsome
  · rwa [S'.unique (S.withPrefix p)] at hS'

/-- A run that finishes has a selection, whatever the prefix. -/
theorem exists_selection_withPrefix {files : GeneratedFiles}
    (h : generate rt P.model (args.withPrefix p) = .ok files) :
    Nonempty (Selection P.model args) := by
  obtain ⟨S⟩ := exists_selection_of_generate h
  exact ⟨⟨S.ied, S.accessPoint, S.logicalDevices, S.selectIed_eq, S.selectAccessPoint_eq,
    S.server_eq⟩⟩

end Main

/-- Two runs whose prefixes are C identifiers: both come back and print one
output, with macros apart from variables, if and only if both have what they
read, and where they finish they read it alike. -/
theorem generate_parametric_iff (P : ParsedModel rt) (args : GeneratorArguments) (p q : Str)
    (hp : IsIdentifier p) (hq : IsIdentifier q)
    (hupper : ∀ c ∈ rt.toUpper args.outFileName, ¬ ('a' ≤ c ∧ c ≤ 'z')) :
    ParametricRuns rt p q (generate rt P.model (args.withPrefix p))
        (generate rt P.model (args.withPrefix q)) ↔
      GenerateSafe rt P.model (args.withPrefix p) ∧
      GenerateSafe rt P.model (args.withPrefix q) ∧
      ∀ S : Selection P.model args,
        (∀ fcda ∈ dataSetMembers S.logicalDevices, MemberReadable rt fcda) →
          S.PrefixesAlike rt p q := by
  constructor
  · intro h
    have hsafe := (generate_returns_iff P (args.withPrefix p)).mp h.left
    have hsafe' := (generate_returns_iff P (args.withPrefix q)).mp h.right
    refine ⟨hsafe, hsafe', fun S hmembers => ?_⟩
    obtain ⟨files, hfiles⟩ := (S.withPrefix p).finishes_iff.mpr
      ⟨S.safe_of_generateSafe hsafe, hmembers⟩
    obtain ⟨files', hfiles'⟩ := (S.withPrefix q).finishes_iff.mpr
      ⟨S.safe_of_generateSafe hsafe', hmembers⟩
    obtain ⟨hrenamed, hapart, hapart'⟩ := h.renamed files files' hfiles hfiles'
    obtain ⟨R⟩ := (S.withPrefix p).stages hfiles
    obtain ⟨R'⟩ := (S.withPrefix q).stages hfiles'
    exact RunStages.prefixesAlike R R' hrenamed hapart hapart'
  · rintro ⟨hsafe, hsafe', halike⟩
    have hmembers : ∀ (S : Selection P.model args) (o : Str) (files : GeneratedFiles),
        generate rt P.model (args.withPrefix o) = .ok files →
          ∀ fcda ∈ dataSetMembers S.logicalDevices, MemberReadable rt fcda :=
      fun S o files hfiles => ((S.withPrefix o).finishes_iff.mp ⟨files, hfiles⟩).2
    constructor
    · exact (generate_returns_iff P (args.withPrefix p)).mpr hsafe
    · exact (generate_returns_iff P (args.withPrefix q)).mpr hsafe'
    · constructor
      · rintro ⟨files, hfiles⟩
        obtain ⟨S⟩ := exists_selection_withPrefix hfiles
        exact (S.withPrefix q).finishes_iff.mpr
          ⟨S.safe_of_generateSafe hsafe', hmembers S p files hfiles⟩
      · rintro ⟨files, hfiles⟩
        obtain ⟨S⟩ := exists_selection_withPrefix hfiles
        exact (S.withPrefix p).finishes_iff.mpr
          ⟨S.safe_of_generateSafe hsafe, hmembers S q files hfiles⟩
    · intro files files' hfiles hfiles'
      obtain ⟨S⟩ := exists_selection_withPrefix hfiles
      have hread := hmembers S p files hfiles
      have h := halike S hread
      obtain ⟨R⟩ := (S.withPrefix p).stages hfiles
      obtain ⟨R'⟩ := (S.withPrefix q).stages hfiles'
      obtain ⟨rests, hleft, hright⟩ := RunStages.renamed R R'
        (h.nodeAlike ((S.safe_of_generateSafe hsafe).nodes hread)
          ((S.safe_of_generateSafe hsafe').nodes hread)) hp.ne_nil hq.ne_nil
      have hdefine : rests.h.hDefineName = hDefineName rt args.outFileName := by
        have hfile := congrArg (fun files : GeneratedFiles => files.h.hDefineName)
          (R.files_eq.symm.trans hleft)
        exact hfile.symm
      have hlower := hDefineName_not_lower hupper
      rw [← hdefine] at hlower
      refine ⟨⟨rests, hleft, hright⟩, ?_, ?_⟩
      · rw [hleft]
        exact macrosApart_mapNames hp h.upper hlower
      · rw [hright]
        exact macrosApart_mapNames hq h.upper' hlower

theorem generate_settingModel_sclModel :
    (generate plainRuntime settingModel.model
      (GeneratorArguments.withPrefix {} (lit "sclModel"))).isOk = true := by
  decide +kernel

theorem selectedDevices_settingModel :
    (selectedDevices settingModel.model {}).isOk = true := by
  decide +kernel

/-- The default prefix. -/
theorem withPrefix_iedModel :
    GeneratorArguments.withPrefix {} (lit "iedModel") = {} := rfl

/-- Two prefixes of eight characters, for a model with a setting and an array. -/
theorem generate_parametric_iff_settingModel :
    ParametricRuns plainRuntime (lit "iedModel") (lit "sclModel")
      (generate plainRuntime settingModel.model {})
      (generate plainRuntime settingModel.model
        (GeneratorArguments.withPrefix {} (lit "sclModel"))) := by
  have hgenerate := eq_ok_resultOf _ generate_settingModel
  have hgenerate' := eq_ok_resultOf _ generate_settingModel_sclModel
  have hidentifier : IsIdentifier (lit "iedModel") := ⟨⟨'i', lit "edModel", rfl, rfl⟩,
    by decide +kernel⟩
  have hidentifier' : IsIdentifier (lit "sclModel") := ⟨⟨'s', lit "clModel", rfl, rfl⟩,
    by decide +kernel⟩
  have hiff := generate_parametric_iff settingModel {} _ _ hidentifier hidentifier'
    (by decide +kernel)
  rw [withPrefix_iedModel] at hiff
  have hsafe : GenerateSafe plainRuntime settingModel.model {} := by
    rw [← generate_returns_iff, hgenerate]
    exact returns_ok _
  have hsafe' : GenerateSafe plainRuntime settingModel.model
      (GeneratorArguments.withPrefix {} (lit "sclModel")) := by
    rw [← generate_returns_iff, hgenerate']
    exact returns_ok _
  refine hiff.mpr ⟨hsafe, hsafe', fun S _ => ?_⟩
  obtain ⟨S', hdevices⟩ :=
    exists_selection_of_devices hgenerate (eq_ok_resultOf _ selectedDevices_settingModel)
  obtain rfl := S'.unique S
  have hgoose : placedControls LogicalNode.gseControlBlocks S'.logicalDevices = [] := by
    rw [hdevices, List.eq_nil_iff_length_eq_zero]
    decide +kernel
  have hsampledValues : placedControls LogicalNode.smvControlBlocks S'.logicalDevices = [] := by
    rw [hdevices, List.eq_nil_iff_length_eq_zero]
    decide +kernel
  exact {
    setpoints := fun _ _ _ _ w _ => insertedAlike_of_length_eq (by decide +kernel)
      (by decide +kernel) w
    goose := by simp [hgoose]
    sampledValues := by simp [hsampledValues]
    upper := by decide +kernel
    upper' := by decide +kernel }

theorem generate_settingModel_model :
    (generate plainRuntime settingModel.model
      (GeneratorArguments.withPrefix {} (lit "model"))).isOk = true := by
  decide +kernel

/-- With a prefix of five characters `SE_` is inserted behind the device. -/
theorem settingModel_not_parametric :
    ¬ ParametricRuns plainRuntime (lit "iedModel") (lit "model")
      (generate plainRuntime settingModel.model {})
      (generate plainRuntime settingModel.model
        (GeneratorArguments.withPrefix {} (lit "model"))) := by
  intro h
  obtain ⟨hrenamed, -, -⟩ := h.renamed _ _ (eq_ok_resultOf _ generate_settingModel)
    (eq_ok_resultOf _ generate_settingModel_model)
  obtain ⟨rests, hleft, hright⟩ := hrenamed.nodeNames
  have hdrop : ∀ o : Str, (rests.map (o ++ ·)).map (List.drop o.length) = rests := by
    intro o
    simp [Function.comp_def]
  have hsame := (congrArg (List.map (List.drop (lit "iedModel").length)) hleft).trans
    ((hdrop _).trans ((hdrop _).symm.trans
      (congrArg (List.map (List.drop (lit "model").length)) hright).symm))
  revert hsame
  decide +kernel

end Iec61850.Scl
