import Iec61850.EnumeratedValues
import Iec61850.GeneratorRun
import Iec61850.TypesInUse

/-!
# Models and generated files that do not depend on a declaration

The generator looks up a type for the open ordinal of a default value.  These types are
in use, so declarations that agree on the types in use give the same generated files.
-/

namespace Iec61850.Scl

open Go

variable {rt : Runtime} {templates templates' : DataTypeTemplates} {used : Str → Prop}

/-! ## Default values -/

/-- The enumeration of an open ordinal is in use. -/
def DataAttributeDefinition.DefaultUsed (used : Str → Prop) (d : DataAttributeDefinition) :
    Prop :=
  ∀ v, d.value = some v → v.enumType ≠ [] → used v.enumType

abbrev DataAttribute.DefaultsUsed (used : Str → Prop) (da : DataAttribute) : Prop :=
  da.Everywhere fun sub => sub.definition.DefaultUsed used

theorem newDataAttribute_defaultsUsed (hclosed : Closed templates used) {n : ℕ}
    {d : DataAttributeDefinition} (htype : d.attributeType.IsDeclared → used d.type)
    (hdefault : d.DefaultUsed used) {fc : Str} {parent : ParentNode} {da : DataAttribute}
    (h : newDataAttribute templates n d fc parent = .ok da) : da.DefaultsUsed used := by
  induction n generalizing d fc parent da with
  | zero => cases h
  | succ n ih =>
      cases attributeCreated_of_ok h with
      | constructed hconstructed hlookup hsubs =>
          refine .intro hdefault fun sub hsub => ?_
          obtain ⟨member, hmember, hcreated⟩ := exists_of_mem_mapM_ok hsubs hsub
          have hused := htype (Or.inl hconstructed)
          apply ih _ _ hcreated
          · exact hclosed.attributes _ _ hused hlookup member hmember
          · exact hclosed.defaults _ _ hused hlookup member hmember
      | enumerated henumerated hlookup =>
          exact .intro hdefault (by simp [attributeOfDefinition])
      | basic hconstructed henumerated =>
          exact .intro hdefault (by simp [attributeOfDefinition])

theorem newDataObject_defaultsUsed (hclosed : Closed templates used) {n : ℕ}
    {d : DataObjectDefinition} (hd : used d.type) {node : DataObject}
    (h : newDataObject templates n d = .ok node) :
    node.AllAttributes (DataAttribute.DefaultsUsed used) := by
  induction n generalizing d node with
  | zero => cases h
  | succ n ih =>
      obtain ⟨t, attributes, objects, hlookup, hattributes, hobjects, rfl⟩ :=
        newDataObject_eq_ok h
      constructor
      · have hnew : ∀ definition ∈ (SclType.dataObjectType t).daDefinitions, ∀ fc da,
            newDataAttribute templates n definition fc .dataObject = .ok da →
              da.DefaultsUsed used := by
          intro definition hmem fc da hda
          apply newDataAttribute_defaultsUsed hclosed _ _ hda
          · exact hclosed.attributes _ _ hd hlookup definition hmem
          · exact hclosed.defaults _ _ hd hlookup definition hmem
        exact forall_createDataAttributes hnew hattributes
      · intro sub hsub
        obtain ⟨definition, hmem, hcreated⟩ := exists_of_mem_mapM_ok hobjects hsub
        exact ih (hclosed.objects _ _ hd hlookup definition hmem) hcreated

/-- An instance value leaves the definition and the members of the attribute alone. -/
theorem setInstanceValue_defaultsUsed {dai : DOINode} {da da' : DataAttribute}
    (h : setInstanceValue rt dai da = .ok da') (hda : da.DefaultsUsed used) :
    da'.DefaultsUsed used := by
  rcases setInstanceValue_cases h with ⟨-, rfl⟩ | ⟨text, v, -, -, rfl⟩
  · exact hda
  · obtain ⟨hself, hsubs⟩ := DataAttribute.everywhere_iff.mp hda
    exact .intro hself hsubs

def LogicalNode.DefaultsUsed (used : Str → Prop) (ln : LogicalNode) : Prop :=
  ∀ node ∈ ln.dataObjects, node.AllAttributes (DataAttribute.DefaultsUsed used)

theorem parseLogicalNode_defaultsUsed (hclosed : Closed templates used) {n : ℕ}
    {source resolved ln : LogicalNode} (hsource : used source.lnType)
    (hresolved : resolveLogicalNode templates source = .ok resolved)
    (hparsed : parseLogicalNode rt templates n resolved = .ok ln) : ln.DefaultsUsed used := by
  obtain ⟨t, hlookup, rfl⟩ := resolveLogicalNode_eq_ok hresolved
  obtain ⟨nodeType, created, checked, objects, htype, hcreated, -, hobjects, rfl⟩ :=
    parseLogicalNode_eq_ok hparsed
  obtain rfl := Option.some.inj htype
  have hnew : ∀ node ∈ created, node.AllAttributes (DataAttribute.DefaultsUsed used) := by
    intro node hnode
    obtain ⟨definition, hmem, hnode⟩ := exists_of_mem_mapM_ok hcreated hnode
    exact newDataObject_defaultsUsed hclosed
      (hclosed.objects _ _ hsource hlookup definition hmem) hnode
  refine foldlM_invariant
    (P := fun nodes => ∀ node ∈ nodes, node.AllAttributes (DataAttribute.DefaultsUsed used))
    hobjects hnew ?_
  intro before after doi _ hbefore hstep
  exact allAttributes_parseDOINode (fun _ _ _ => setInstanceValue_defaultsUsed) hstep hbefore

/-- In the model that `Parse` returns every enumeration of an open ordinal is in use. -/
theorem parse_defaultsUsed {n : ℕ} {scl model : SCL} {declared : DataTypeTemplates}
    (hdeclared : parseTypeDeclarations rt declared = .ok templates)
    (hclosed : Closed templates used) (hnodes : ∀ ln ∈ scl.nodes, used ln.lnType)
    (h : parse rt n (scl.withTypes declared) = .ok model) {ied : IED} (hied : ied ∈ model.ieds)
    {ap : AccessPoint} (hap : ap ∈ ied.accessPoints) {server : Server}
    (hserver : ap.server = some server) {device : LogicalDevice}
    (hdevice : device ∈ server.logicalDevices) {ln : LogicalNode}
    (hln : ln ∈ device.logicalNodes) : ln.DefaultsUsed used := by
  obtain ⟨source, types, ieds, communication, -, hsource, htypes, hieds, -, hmodel⟩ :=
    (ParsedModel.mk (scl.withTypes declared) n model h).stages
  obtain rfl := Option.some.inj hsource
  obtain rfl := Except.ok.inj (hdeclared.symm.trans htypes)
  have hmem : ied ∈ ieds := by
    have hsame : model.ieds = ieds := congrArg SCL.ieds hmodel
    rwa [hsame] at hied
  obtain ⟨sourceIed, hsourceIed, hparsedIed⟩ := exists_of_mem_mapM_ok hieds hmem
  obtain ⟨accessPoints, haccessPoints, hied'⟩ := bind_eq_ok.mp hparsedIed
  obtain rfl := Except.ok.inj hied'
  obtain ⟨sourceAp, hsourceAp, hparsedAp⟩ := exists_of_mem_mapM_ok haccessPoints hap
  obtain ⟨sourceServer, hsourceServer, hrest⟩ := bind_eq_ok.mp hparsedAp
  obtain ⟨devices, hdevices, hap'⟩ := bind_eq_ok.mp hrest
  obtain rfl := Except.ok.inj hap'
  obtain rfl := Option.some.inj hserver
  have hsourceServer : sourceAp.server = some sourceServer := by
    cases hs : sourceAp.server with
    | none => simp [hs, deref] at hsourceServer
    | some s => simpa [hs, deref] using hsourceServer
  obtain ⟨sourceDevice, hsourceDevice, hparsedDevice⟩ := exists_of_mem_mapM_ok hdevices hdevice
  obtain ⟨resolved, hresolved, hrest⟩ := bind_eq_ok.mp hparsedDevice
  obtain ⟨nodes, hparsedNodes, hdevice'⟩ := bind_eq_ok.mp hrest
  obtain rfl := Except.ok.inj hdevice'
  obtain ⟨node, hnode, hparsedNode⟩ := exists_of_mem_mapM_ok hparsedNodes hln
  obtain ⟨sourceNode, hsourceNode, hresolve⟩ := exists_of_mem_mapM_ok hresolved hnode
  have hplaced : sourceNode ∈ scl.nodes :=
    SCL.mem_nodes hsourceIed hsourceAp hsourceServer hsourceDevice hsourceNode
  exact parseLogicalNode_defaultsUsed hclosed (hnodes _ hplaced) hresolve hparsedNode

/-! ## Printing -/

section Printing

variable {ctx : PrintContext}

def PrintContext.withTypes (ctx : PrintContext) (templates : DataTypeTemplates) : PrintContext :=
  { ctx with templates := some templates }

theorem initialValue_agree (hagree : AgreeOn used templates templates') {da : DataAttribute}
    (hda : da.definition.DefaultUsed used) :
    initialValue (ctx.withTypes templates') da = initialValue (ctx.withTypes templates) da := by
  unfold initialValue
  cases da.value with
  | some value => rfl
  | none =>
      cases hvalue : da.definition.value with
      | none => rfl
      | some value =>
          have hupdate : value.updateEnumOrdValue (some templates') =
              value.updateEnumOrdValue (some templates) := by
            unfold DataModelValue.updateEnumOrdValue
            by_cases henum : value.enumType = []
            · rw [if_pos henum, if_pos henum]
            · rw [if_neg henum, if_neg henum]
              simp only [deref, ok_bind, hagree value.enumType (hda value hvalue henum)]
          simp only [PrintContext.withTypes, hupdate]

theorem printDataAttributeDefinitions_agree (hagree : AgreeOn used templates templates')
    (isTransient : Bool) {das : List DataAttribute} (doName : Str)
    (hdas : ∀ da ∈ das, da.DefaultsUsed used) :
    printDataAttributeDefinitions (ctx.withTypes templates') doName isTransient das =
      printDataAttributeDefinitions (ctx.withTypes templates) doName isTransient das := by
  induction das using dataAttribute_induction generalizing doName with
  | nil => rfl
  | cons da rest ihm ihr =>
      obtain ⟨hda, hrest⟩ := List.forall_mem_cons.mp hdas
      obtain ⟨hself, hsubs⟩ := DataAttribute.everywhere_iff.mp hda
      have hmembers := fun name => ihm name hsubs
      have hchildren : ∀ daName,
          printAttributeChildren (ctx.withTypes templates') daName isTransient da =
            printAttributeChildren (ctx.withTypes templates) daName isTransient da := by
        intro daName
        unfold printAttributeChildren printElement
        simp only [hmembers]
      have hvalue : ∀ daName, printInitialValue (ctx.withTypes templates') daName da =
          printInitialValue (ctx.withTypes templates) daName da := by
        intro daName
        unfold printInitialValue
        rw [initialValue_agree hagree hself]
        rfl
      rw [printDataAttributeDefinitions, printDataAttributeDefinitions,
        printDataAttributeDefinition_eq, printDataAttributeDefinition_eq, ihr doName hrest]
      simp only [hchildren, hvalue]
      rfl

theorem printDataObjectDefinitions_agree (hagree : AgreeOn used templates templates')
    {nodes : List DataObject} (lnName sibling : Str) (isTransient : Bool)
    (hnodes : ∀ node ∈ nodes, node.AllAttributes (DataAttribute.DefaultsUsed used)) :
    printDataObjectDefinitions (ctx.withTypes templates') lnName sibling isTransient nodes =
      printDataObjectDefinitions (ctx.withTypes templates) lnName sibling isTransient nodes := by
  induction nodes using dataObject_induction generalizing lnName sibling isTransient with
  | nil => rfl
  | cons node rest ihs ihr =>
      obtain ⟨hnode, hrest⟩ := List.forall_mem_cons.mp hnodes
      have hobjects := fun name sibling isTransient => ihs name sibling isTransient hnode.objects
      have hattributes : ∀ name isTransient,
          printDataAttributeDefinitions (ctx.withTypes templates') name isTransient
              node.dataAttributes =
            printDataAttributeDefinitions (ctx.withTypes templates) name isTransient
              node.dataAttributes := by
        intro name isTransient
        exact printDataAttributeDefinitions_agree hagree isTransient name hnode.attributes
      rw [printDataObjectDefinitions, printDataObjectDefinitions,
        printDataObjectDefinition_eq, printDataObjectDefinition_eq, ihr lnName sibling _ hrest]
      simp only [hobjects, hattributes]
      rfl

theorem printLogicalNodeDefinitions_agree (hagree : AgreeOn used templates templates')
    {blocks : ControlBlockContext} {deviceInst ldName : Str} {nodes : List LogicalNode}
    (hnodes : ∀ ln ∈ nodes, ln.DefaultsUsed used) (out : DeviceModel) :
    printLogicalNodeDefinitions (ctx.withTypes templates') blocks deviceInst ldName nodes out =
      printLogicalNodeDefinitions (ctx.withTypes templates) blocks deviceInst ldName nodes out := by
  induction nodes generalizing out with
  | nil => rfl
  | cons ln rest ih =>
      obtain ⟨hln, hrest⟩ := List.forall_mem_cons.mp hnodes
      have hobjects : ∀ lnName,
          printDataObjectDefinitions (ctx.withTypes templates') lnName [] false ln.dataObjects =
            printDataObjectDefinitions (ctx.withTypes templates) lnName [] false
              ln.dataObjects := by
        intro lnName
        exact printDataObjectDefinitions_agree hagree lnName [] false hln
      rw [printLogicalNodeDefinitions, printLogicalNodeDefinitions]
      simp only [printLogicalNodeDefinition, hobjects, ih hrest]

def LogicalDevice.DefaultsUsed (used : Str → Prop) (device : LogicalDevice) : Prop :=
  ∀ ln ∈ device.logicalNodes, ln.DefaultsUsed used

theorem printLogicalDeviceDefinitions_agree (hagree : AgreeOn used templates templates')
    {blocks : ControlBlockContext} {modelPrefix : Str} {devices : List LogicalDevice}
    (hdevices : ∀ device ∈ devices, device.DefaultsUsed used) (out : DeviceModel) :
    printLogicalDeviceDefinitions (ctx.withTypes templates') blocks modelPrefix devices out =
      printLogicalDeviceDefinitions (ctx.withTypes templates) blocks modelPrefix devices out := by
  induction devices generalizing out with
  | nil => rfl
  | cons device rest ih =>
      obtain ⟨hdevice, hrest⟩ := List.forall_mem_cons.mp hdevices
      have hnodes : ∀ ldName out,
          printLogicalNodeDefinitions (ctx.withTypes templates') blocks device.inst ldName
              device.logicalNodes out =
            printLogicalNodeDefinitions (ctx.withTypes templates) blocks device.inst ldName
              device.logicalNodes out := by
        intro ldName out
        exact printLogicalNodeDefinitions_agree hagree hdevice out
      rw [printLogicalDeviceDefinitions, printLogicalDeviceDefinitions]
      simp only [printLogicalDeviceDefinition, hnodes, ih hrest]

/-! ## Forward declarations -/

theorem printDataObjectForwardDeclarationsByDA_types (doName : Str) (das : List DataAttribute)
    (daNameMap : List Str) :
    printDataObjectForwardDeclarationsByDA (ctx.withTypes templates') doName das daNameMap =
      printDataObjectForwardDeclarationsByDA (ctx.withTypes templates) doName das
        daNameMap := by
  induction das using dataAttribute_induction generalizing doName daNameMap with
  | nil => rfl
  | cons da rest ihm ihr =>
      rw [printDataObjectForwardDeclarationsByDA, printDataObjectForwardDeclarationsByDA,
        declareDataAttribute_eq, declareDataAttribute_eq]
      simp only [ihm, ihr]
      rfl

theorem printDataObjectForwardDeclarationsByDO_types (parent : Str) (nodes : List DataObject)
    (doNameMap : List Str) :
    printDataObjectForwardDeclarationsByDO (ctx.withTypes templates') parent nodes doNameMap =
      printDataObjectForwardDeclarationsByDO (ctx.withTypes templates) parent nodes
        doNameMap := by
  induction nodes using dataObject_induction generalizing parent doNameMap with
  | nil => rfl
  | cons node rest ihs ihr =>
      have hattributes : ∀ doName,
          printDataObjectForwardDeclarationsByDA (ctx.withTypes templates') doName
              node.dataAttributes [] =
            printDataObjectForwardDeclarationsByDA (ctx.withTypes templates) doName
              node.dataAttributes [] := by
        intro doName
        exact printDataObjectForwardDeclarationsByDA_types doName node.dataAttributes []
      rw [printDataObjectForwardDeclarationsByDO, printDataObjectForwardDeclarationsByDO,
        declareDataObject_eq, declareDataObject_eq]
      simp only [hattributes, ihs, ihr]

theorem printForwardDeclarations_types (modelPrefix : Str) (devices : List LogicalDevice) :
    printForwardDeclarations (ctx.withTypes templates') modelPrefix devices =
      printForwardDeclarations (ctx.withTypes templates) modelPrefix devices := by
  have hobjects : ∀ parent nodes,
      printDataObjectForwardDeclarationsByDO (ctx.withTypes templates') parent nodes [] =
        printDataObjectForwardDeclarationsByDO (ctx.withTypes templates) parent nodes [] := by
    intro parent nodes
    exact printDataObjectForwardDeclarationsByDO_types parent nodes []
  unfold printForwardDeclarations printLogicalDeviceForwardDeclarations
    printLogicalNodeForwardDeclarations
  simp only [hobjects]

end Printing

/-! ## Files -/

def StaticModelGenerator.withTypes (s : StaticModelGenerator) (templates : DataTypeTemplates) :
    StaticModelGenerator :=
  { s with scl := s.scl.withTypes templates }

section Files

variable (s : StaticModelGenerator)

@[simp] theorem StaticModelGenerator.withTypes_modelPrefix :
    (s.withTypes templates).modelPrefix = s.modelPrefix := rfl

@[simp] theorem StaticModelGenerator.withTypes_printContext :
    (s.withTypes templates).printContext = s.printContext.withTypes templates := rfl

@[simp] theorem StaticModelGenerator.withTypes_controlBlockContext (names : VariableNames) :
    (s.withTypes templates).controlBlockContext names = s.controlBlockContext names := rfl

theorem printDeviceModelDefinitions_agree (hagree : AgreeOn used templates templates')
    {devices : List LogicalDevice} (hdevices : ∀ device ∈ devices, device.DefaultsUsed used) :
    printDeviceModelDefinitions (s.withTypes templates') devices =
      printDeviceModelDefinitions (s.withTypes templates) devices := by
  have hdefinitions : ∀ blocks : ControlBlockContext,
      printLogicalDeviceDefinitions (s.printContext.withTypes templates') blocks
          s.modelPrefix devices {} =
        printLogicalDeviceDefinitions (s.printContext.withTypes templates) blocks
          s.modelPrefix devices {} := by
    intro blocks
    exact printLogicalDeviceDefinitions_agree hagree hdevices {}
  unfold printDeviceModelDefinitions
  simp only [StaticModelGenerator.withTypes_printContext,
    StaticModelGenerator.withTypes_controlBlockContext,
    StaticModelGenerator.withTypes_modelPrefix, hdefinitions]
  rfl

theorem print_agree (hagree : AgreeOn used templates templates') (outFileName : Str)
    {devices : List LogicalDevice} (hserver : s.accessPoint.server = some ⟨devices⟩)
    (hdevices : ∀ device ∈ devices, device.DefaultsUsed used) :
    (s.withTypes templates').print outFileName = (s.withTypes templates).print outFileName := by
  have hforward :
      printForwardDeclarations (s.printContext.withTypes templates') s.modelPrefix devices =
        printForwardDeclarations (s.printContext.withTypes templates) s.modelPrefix devices :=
    printForwardDeclarations_types s.modelPrefix devices
  have hdefinitions := printDeviceModelDefinitions_agree s hagree hdevices
  have hpoint : ∀ templates, (s.withTypes templates).accessPoint.server = some ⟨devices⟩ :=
    fun _ => hserver
  unfold StaticModelGenerator.print
  simp only [hpoint, deref, ok_bind, StaticModelGenerator.withTypes_printContext,
    StaticModelGenerator.withTypes_modelPrefix, hforward, hdefinitions]
  rfl

end Files

def Selection.withTypes {model : SCL} {args : GeneratorArguments} (S : Selection model args)
    (templates : DataTypeTemplates) : Selection (model.withTypes templates) args :=
  { S with }

/-- Without a selection there is nothing in which the runs could differ. -/
theorem generate_withTypes {model : SCL} {args : GeneratorArguments}
    (hselected : Selection model args →
      generate rt (model.withTypes templates') args =
        generate rt (model.withTypes templates) args) :
    generate rt (model.withTypes templates') args =
      generate rt (model.withTypes templates) args := by
  have hied : ∀ templates,
      selectIed (model.withTypes templates) args.iedName = selectIed model args.iedName :=
    fun _ => rfl
  unfold generate
  rw [hied, hied]
  cases hselectIed : selectIed model args.iedName with
  | error stop => simp only [error_bind]
  | ok ied? =>
      cases ied? with
      | none => simp only [ok_bind]
      | some ied =>
          simp only [ok_bind]
          cases hselectAp : selectAccessPoint ied args.apName with
          | error stop => simp only [error_bind]
          | ok ap? =>
              cases ap? with
              | none => simp only [ok_bind, deref, error_bind]
              | some ap =>
                  cases hserver : ap.server with
                  | none =>
                      simp only [ok_bind, deref, StaticModelGenerator.print, hserver, error_bind]
                  | some server =>
                      have hrun := hselected ⟨ied, ap, server.logicalDevices, hselectIed,
                        hselectAp, hserver⟩
                      simpa [generate, hied, hselectIed, hselectAp] using hrun

/-- The model keeps the parsed type declarations. -/
theorem parse_ok_withTypes {n : ℕ} {scl model : SCL} {declared : DataTypeTemplates}
    (hdeclared : parseTypeDeclarations rt declared = .ok templates)
    (h : parse rt n (scl.withTypes declared) = .ok model) : model.withTypes templates = model := by
  obtain ⟨source, types, ieds, communication, -, hsource, htypes, -, -, hmodel⟩ :=
    (ParsedModel.mk (scl.withTypes declared) n model h).stages
  obtain rfl := Option.some.inj hsource
  obtain rfl := Except.ok.inj (hdeclared.symm.trans htypes)
  dsimp only at hmodel
  rw [hmodel]
  rfl

/-- The command `genmodel` on a decoded document. -/
def runGenModel (rt : Runtime) (n : ℕ) (scl : SCL) (args : GeneratorArguments) :
    Outcome GeneratedFiles := do
  let model ← parse rt n scl
  generate rt model args

theorem runGenModel_agree (rt : Runtime) (n : ℕ) (scl : SCL) (args : GeneratorArguments)
    {declared declared' : DataTypeTemplates}
    (hdeclared : parseTypeDeclarations rt declared = .ok templates)
    (hdeclared' : parseTypeDeclarations rt declared' = .ok templates')
    (hclosed : Closed templates used) (hnodes : ∀ ln ∈ scl.nodes, used ln.lnType)
    (hagree : AgreeOn used templates templates') :
    runGenModel rt n (scl.withTypes declared') args =
      runGenModel rt n (scl.withTypes declared) args := by
  unfold runGenModel
  rw [parse_withTypes rt n scl hdeclared hdeclared' hclosed hnodes hagree]
  cases hparse : parse rt n (scl.withTypes declared) with
  | error stop => rfl
  | ok model =>
      have hrun : generate rt (model.withTypes templates') args =
          generate rt (model.withTypes templates) args := by
        apply generate_withTypes
        intro S
        rw [(S.withTypes templates').generate_eq, (S.withTypes templates).generate_eq]
        apply print_agree (S.generator rt) hagree args.outFileName S.server_eq
        intro device hdevice ln hln
        exact parse_defaultsUsed hdeclared hclosed hnodes hparse S.ied_mem S.accessPoint_mem
          S.server_eq hdevice hln
      rw [parse_ok_withTypes hdeclared hparse] at hrun
      exact hrun

/-- Only the types in use decide which files are generated, and whether there are any. -/
theorem runGenModel_types_in_use (rt : Runtime) (n : ℕ) (scl : SCL) (args : GeneratorArguments)
    {declared declared' templates templates' : DataTypeTemplates}
    (hdeclared : parseTypeDeclarations rt declared = .ok templates)
    (hdeclared' : parseTypeDeclarations rt declared' = .ok templates')
    (hagree : AgreeOn (InUse templates scl.nodes) templates templates') :
    runGenModel rt n (scl.withTypes declared') args =
      runGenModel rt n (scl.withTypes declared) args :=
  runGenModel_agree rt n scl args hdeclared hdeclared' (closed_inUse templates scl.nodes)
    (fun _ hln => .node hln) hagree

/-- The types of a document and, around them, types that it does not use. -/
def spareTemplates : DataTypeTemplates where
  logicalNodeTypes := (healthTemplates (some (lit "3"))).logicalNodeTypes
  dataObjectTypes := { id := lit "SPARE" } :: (healthTemplates (some (lit "3"))).dataObjectTypes
  enumTypes := [{ id := lit "SpareKind" }, healthKind]

def healthIds : List Str := [lit "LN0T", lit "ENS", lit "HealthKind"]

theorem parseTypeDeclarations_health :
    (parseTypeDeclarations plainRuntime (healthTemplates (some (lit "3")))).isOk = true := by
  decide +kernel

theorem parseTypeDeclarations_spare :
    (parseTypeDeclarations plainRuntime spareTemplates).isOk = true := by
  decide +kernel

theorem closed_healthIds :
    Closed (resultOf _ parseTypeDeclarations_health) fun id => id ∈ healthIds := by
  apply closed_of_declarations
  decide +kernel

theorem agreeOn_healthIds :
    AgreeOn (fun id => id ∈ healthIds) (resultOf _ parseTypeDeclarations_health)
      (resultOf _ parseTypeDeclarations_spare) := by
  unfold AgreeOn
  decide +kernel

theorem runGenModel_types_in_use_health :
    let scl := documentOf {} [healthDevice []]
    let files := runGenModel plainRuntime 4 (scl.withTypes (healthTemplates (some (lit "3")))) {}
    files.isOk = true ∧ runGenModel plainRuntime 4 (scl.withTypes spareTemplates) {} = files := by
  refine ⟨by decide +kernel, ?_⟩
  have hdeclared := eq_ok_resultOf _ parseTypeDeclarations_health
  have hdeclared' := eq_ok_resultOf _ parseTypeDeclarations_spare
  apply runGenModel_types_in_use plainRuntime 4 _ {} hdeclared hdeclared'
  intro id hid
  apply agreeOn_healthIds id
  exact hid.of_closed closed_healthIds (by decide +kernel)

end Iec61850.Scl
