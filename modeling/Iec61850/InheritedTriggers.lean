import Iec61850.AttributePlaces
import Iec61850.EnumeratedValues

/-!
# Trigger options from the definition to the file

The trigger options of an attribute are those of the `DA` element it descends from, and
whether its object is transient is decided by all data objects around it.  Both are
handed down separately, by the model builder and by the generator.
-/

namespace Iec61850.Scl

open Go

variable {rt : Runtime} {templates declared : DataTypeTemplates}

/-! ## Declared data objects -/

/-- What a `DA` element says about triggers. -/
def DataAttributeDefinition.declaredTriggers (d : DataAttributeDefinition) :
    TriggerOptions where
  dchg := d.dchgTrigger
  qchg := d.qchgTrigger
  dupd := d.dupdTrigger

/-- The attribute comes from a `DA` element of the type, and it and all its members have
the triggers of that element. -/
structure DataAttribute.DescendsFrom (da : DataAttribute) (o : DataObjectType) : Prop where
  definition : da.definition ∈ o.dataAttributes
  triggers : da.Everywhere fun sub =>
    sub.triggerOptions = some da.definition.declaredTriggers

/-- The object has the name, the transience and the type of its declaration. -/
structure DataObject.InstanceOf (node : DataObject) (templates : DataTypeTemplates)
    (definition : DataObjectDefinition) (o : DataObjectType) : Prop where
  name : node.name = definition.name
  trans : node.trans = definition.transient
  type : templates.lookupType definition.type = some (.dataObjectType o)

/-- The tree below the object unfolds its declaration. -/
inductive DataObject.DeclaredBy (templates : DataTypeTemplates) :
    DataObjectDefinition → DataObject → Prop
  | intro {definition : DataObjectDefinition} {node : DataObject} {o : DataObjectType}
      (hinstance : node.InstanceOf templates definition o)
      (hattributes : ∀ da ∈ node.dataAttributes, da.DescendsFrom o)
      (hlength : o.subDataObjects.length = node.subDataObjects.length)
      (hobjects : ∀ pair ∈ o.subDataObjects.zip node.subDataObjects,
        DataObject.DeclaredBy templates pair.1 pair.2) :
      DataObject.DeclaredBy templates definition node

theorem DataObject.DeclaredBy.unfold {definition : DataObjectDefinition} {node : DataObject}
    (h : DataObject.DeclaredBy templates definition node) :
    ∃ o, node.InstanceOf templates definition o ∧
      (∀ da ∈ node.dataAttributes, da.DescendsFrom o) ∧
      List.Forall₂ (DataObject.DeclaredBy templates) o.subDataObjects node.subDataObjects := by
  cases h with
  | intro hinstance hattributes hlength hobjects =>
      exact ⟨_, hinstance, hattributes,
        List.forall₂_iff_zip.mpr ⟨hlength, fun hpair => hobjects _ hpair⟩⟩

theorem DataObject.DeclaredBy.of_objects {definition : DataObjectDefinition}
    {node : DataObject} {o : DataObjectType}
    (hinstance : node.InstanceOf templates definition o)
    (hattributes : ∀ da ∈ node.dataAttributes, da.DescendsFrom o)
    (hobjects : List.Forall₂ (DataObject.DeclaredBy templates) o.subDataObjects
      node.subDataObjects) : DataObject.DeclaredBy templates definition node := by
  obtain ⟨hlength, hzip⟩ := List.forall₂_iff_zip.mp hobjects
  exact .intro hinstance hattributes hlength fun _ hpair => hzip hpair

/-! ## The builder -/

theorem parseDefinition_triggers {source d : DataAttributeDefinition}
    (h : parseDefinition rt source = .ok d) : d.triggerOptions = some d.declaredTriggers := by
  obtain ⟨attributeType, -, h⟩ := bind_eq_ok.mp h
  dsimp only at h
  split at h
  · obtain rfl := Except.ok.inj h
    rfl
  · split at h
    · obtain rfl := Except.ok.inj h
      rfl
    · obtain ⟨v, -, h⟩ := bind_eq_ok.mp h
      obtain rfl := Except.ok.inj h
      rfl

theorem newDataAttribute_definition {n : ℕ} {d : DataAttributeDefinition} {fc : Str}
    {parent : ParentNode} {da : DataAttribute}
    (h : newDataAttribute templates n d fc parent = .ok da) : da.definition = d := by
  obtain ⟨_, _, rfl⟩ := newDataAttribute_shape h
  rfl

/-- The trigger options of the root are handed down to every depth. -/
theorem triggers_newDataAttribute {n : ℕ} {d : DataAttributeDefinition} {fc : Str}
    {parent : ParentNode} {da : DataAttribute}
    (h : newDataAttribute templates n d fc parent = .ok da) :
    da.Everywhere fun sub => sub.triggerOptions = attributeTriggerOptions d parent := by
  apply newDataAttribute_everywhere (Q := fun member _ parent' =>
    attributeTriggerOptions member parent' = attributeTriggerOptions d parent) ?_ ?_ rfl h
  · intro member fc' parent' hsame _ _
    exact hsame
  · intro member fc' parent' hsame _
    exact hsame

theorem descendsFrom_newDataAttribute {n : ℕ} {o : DataObjectType}
    {d : DataAttributeDefinition} (hd : d ∈ o.dataAttributes)
    (htriggers : d.triggerOptions = some d.declaredTriggers) {fc : Str} {da : DataAttribute}
    (h : newDataAttribute templates n d fc .dataObject = .ok da) : da.DescendsFrom o := by
  have hdefinition := newDataAttribute_definition h
  have hdown := triggers_newDataAttribute h
  refine ⟨hdefinition ▸ hd, ?_⟩
  rw [hdefinition, ← htriggers]
  exact hdown

/-- The types of data objects carry the triggers of their `DA` elements. -/
def TriggersParsed (templates : DataTypeTemplates) : Prop :=
  ∀ o, .dataObjectType o ∈ templates.typeDeclarations →
    ∀ d ∈ o.dataAttributes, d.triggerOptions = some d.declaredTriggers

theorem triggersParsed (h : parseTypeDeclarations rt declared = .ok templates) :
    TriggersParsed templates := by
  intro o ho d hd
  obtain ⟨source, -, hparsed⟩ := parsedDefinition_of_declared h ho d hd
  exact parseDefinition_triggers hparsed

theorem declaredBy_newDataObject (htriggers : TriggersParsed templates) {n : ℕ}
    {definition : DataObjectDefinition} {node : DataObject}
    (h : newDataObject templates n definition = .ok node) :
    DataObject.DeclaredBy templates definition node := by
  induction n generalizing definition node with
  | zero => cases h
  | succ n ih =>
      obtain ⟨o, attributes, objects, hlookup, hattributes, hobjects, rfl⟩ :=
        newDataObject_eq_ok h
      have hcreate : ∀ d ∈ (SclType.dataObjectType o).daDefinitions, ∀ fc da,
          newDataAttribute templates n d fc .dataObject = .ok da → da.DescendsFrom o :=
        fun d hd fc da hda => descendsFrom_newDataAttribute hd
          (htriggers o (lookupType_mem hlookup) d hd) hda
      exact .of_objects ⟨rfl, rfl, hlookup⟩
        (forall_createDataAttributes hcreate hattributes)
        ((mapM_eq_ok.mp hobjects).imp fun _ _ => ih)

/-! ## Instance values -/

theorem descendsFrom_setInstanceValue {dai : DOINode} {da da' : DataAttribute}
    {o : DataObjectType} (h : setInstanceValue rt dai da = .ok da')
    (hda : da.DescendsFrom o) : da'.DescendsFrom o := by
  rcases setInstanceValue_cases h with ⟨-, rfl⟩ | ⟨text, v, -, -, rfl⟩
  · exact hda
  · obtain ⟨hself, hsubs⟩ := DataAttribute.everywhere_iff.mp hda.triggers
    exact ⟨hda.definition, .intro hself hsubs⟩

theorem forall₂_assignFirst {α β : Type} {R : α → β → Prop} {p : β → Bool} {b b' : β}
    {as : List α} {bs : List β} (h : List.Forall₂ R as bs) (hfind : bs.find? p = some b)
    (hb : ∀ a, R a b → R a b') : List.Forall₂ R as (assignFirst p b' bs) := by
  induction h with
  | nil => cases hfind
  | @cons a c as bs hhead htail ih =>
      rw [assignFirst]
      by_cases hc : p c = true
      · rw [List.find?_cons_of_pos hc] at hfind
        obtain rfl := Option.some.inj hfind
        rw [if_pos hc]
        exact .cons (hb a hhead) htail
      · rw [List.find?_cons_of_neg hc] at hfind
        rw [if_neg hc]
        exact .cons hhead (ih hfind)

theorem declaredBy_parseDataAttributeNode {node assigned : DataObject} {dai : DOINode}
    (h : parseDataAttributeNode rt node dai = .ok assigned)
    {definition : DataObjectDefinition}
    (hnode : DataObject.DeclaredBy templates definition node) :
    DataObject.DeclaredBy templates definition assigned := by
  obtain ⟨da, da', hfound, hda', rfl⟩ := parseDataAttributeNode_eq_ok h
  obtain ⟨o, hinstance, hattributes, hobjects⟩ := hnode.unfold
  refine .of_objects ⟨hinstance.name, hinstance.trans, hinstance.type⟩ ?_ hobjects
  intro other hother
  rcases mem_of_mem_assignFirst hother with rfl | hother
  · exact descendsFrom_setInstanceValue hda' (hattributes da (List.mem_of_find?_eq_some hfound))
  · exact hattributes other hother

theorem declaredBy_parseDOINode {definitions : List DataObjectDefinition}
    {objects assigned : List DataObject} {doi : DOINode}
    (h : parseDOINode rt objects doi = .ok assigned)
    (hobjects : List.Forall₂ (DataObject.DeclaredBy templates) definitions objects) :
    List.Forall₂ (DataObject.DeclaredBy templates) definitions assigned := by
  obtain ⟨node, node', hfind, hnode', rfl⟩ := parseDOINode_eq_ok h
  refine forall₂_assignFirst hobjects hfind fun definition hnode => ?_
  refine foldlM_invariant (P := DataObject.DeclaredBy templates definition) hnode' hnode ?_
  intro before after dai _ hbefore hstep
  exact declaredBy_parseDataAttributeNode hstep hbefore

/-- The data objects of a node unfold the `DO` elements of its type. -/
def LogicalNode.Declared (templates : DataTypeTemplates) (ln : LogicalNode) : Prop :=
  ∃ t : LogicalNodeType, templates.lookupType ln.lnType = some (.logicalNodeType t) ∧
    List.Forall₂ (DataObject.DeclaredBy templates) t.dataObjectDefinitions ln.dataObjects

theorem declared_parseLogicalNode (htriggers : TriggersParsed templates) {n : ℕ}
    {source resolved parsed : LogicalNode}
    (hresolved : resolveLogicalNode templates source = .ok resolved)
    (h : parseLogicalNode rt templates n resolved = .ok parsed) :
    parsed.Declared templates := by
  obtain ⟨t, hlookup, rfl⟩ := resolveLogicalNode_eq_ok hresolved
  obtain ⟨nodeType, created, checked, objects, htype, hcreated, hchecked, hobjects, rfl⟩ :=
    parseLogicalNode_eq_ok h
  obtain rfl : t = .logicalNodeType nodeType := Option.some.inj htype
  refine ⟨nodeType, ?_, ?_⟩
  · obtain ⟨-, hlnType, -⟩ := parseControlBlocks_eq_ok hchecked
    change templates.lookupType checked.lnType = _
    rw [hlnType]
    exact hlookup
  · have hbuilt := (mapM_eq_ok.mp hcreated).imp fun _ _ hnode =>
      declaredBy_newDataObject htriggers hnode
    refine foldlM_invariant (P := List.Forall₂ (DataObject.DeclaredBy templates)
      nodeType.dataObjectDefinitions) hobjects hbuilt ?_
    intro before after doi _ hbefore hstep
    exact declaredBy_parseDOINode hstep hbefore

/-! ## The emitted definitions -/

/-- The objects of a place, the innermost first, are declared one in the type of the next
and the outermost in the type of the logical node; `o` is the type of the innermost. -/
inductive DeclaredChain (templates : DataTypeTemplates) (t : LogicalNodeType) :
    List DataObject → DataObjectType → Prop
  | outermost {definition : DataObjectDefinition} {node : DataObject} {o : DataObjectType}
      (hdefinition : definition ∈ t.dataObjectDefinitions)
      (hinstance : node.InstanceOf templates definition o) :
      DeclaredChain templates t [node] o
  | inner {around : List DataObject} {outer : DataObjectType}
      {definition : DataObjectDefinition} {node : DataObject} {o : DataObjectType}
      (hchain : DeclaredChain templates t around outer)
      (hdefinition : definition ∈ outer.subDataObjects)
      (hinstance : node.InstanceOf templates definition o) :
      DeclaredChain templates t (node :: around) o

def NodeLabel.triggers (label : NodeLabel) : List TriggerFlag :=
  match label.kind with
  | .dataAttribute _ _ _ _ triggers _ => triggers
  | _ => []

/-- The triggers of a definition are those of the `DA` element its place descends from,
and `TRANSIENT` is one of them if a data object around it is transient. -/
structure TriggersInherited (templates : DataTypeTemplates) (label : NodeLabel)
    (place : DefinitionPlace) : Prop where
  descent : ∃ t o, templates.lookupType place.node.lnType = some (.logicalNodeType t) ∧
    DeclaredChain templates t place.objects o ∧ place.root.definition ∈ o.dataAttributes
  dataChanged : .dataChanged ∈ label.triggers ↔ place.root.definition.dchgTrigger = true
  dataUpdate : .dataUpdate ∈ label.triggers ↔ place.root.definition.dupdTrigger = true
  qualityChanged : .qualityChanged ∈ label.triggers ↔ place.root.definition.qchgTrigger = true
  transient : .transient ∈ label.triggers ↔ ∃ node ∈ place.objects, node.trans = true

/-- What holds of a place of a declared node. -/
structure DefinitionPlace.Traced (place : DefinitionPlace) (templates : DataTypeTemplates) :
    Prop where
  descent : ∃ t o, templates.lookupType place.node.lnType = some (.logicalNodeType t) ∧
    DeclaredChain templates t place.objects o ∧ place.root.definition ∈ o.dataAttributes
  triggers : place.dataAttribute.triggerOptions =
    some place.root.definition.declaredTriggers

theorem DefinitionPlace.triggers_label (place : DefinitionPlace) :
    (place.label rt).triggers =
      attributeTriggers place.dataAttribute.triggerOptions place.isTransient := by
  unfold DefinitionPlace.label
  split <;> rfl

theorem mem_attributeTriggers {options : TriggerOptions} {isTransient : Bool}
    {flag : TriggerFlag} :
    flag ∈ attributeTriggers (some options) isTransient ↔
      match flag with
      | .dataChanged => options.dchg = true
      | .dataUpdate => options.dupd = true
      | .qualityChanged => options.qchg = true
      | .transient => isTransient = true := by
  cases flag <;> simp [attributeTriggers, List.mem_ite_nil_right]

theorem DefinitionPlace.Traced.inherited {place : DefinitionPlace}
    (h : place.Traced templates) : TriggersInherited templates (place.label rt) place := by
  have htriggers : (place.label rt).triggers = _ := place.triggers_label
  rw [h.triggers] at htriggers
  refine ⟨h.descent, ?_, ?_, ?_, ?_⟩
  · rw [htriggers, mem_attributeTriggers]
    rfl
  · rw [htriggers, mem_attributeTriggers]
    rfl
  · rw [htriggers, mem_attributeTriggers]
    rfl
  · rw [htriggers, mem_attributeTriggers]
    exact List.any_eq_true

variable {ln : LogicalNode}

theorem traced_rootPlaces {t : LogicalNodeType} {o : DataObjectType}
    {objects : List DataObject} {das : List DataAttribute}
    (hnode : templates.lookupType ln.lnType = some (.logicalNodeType t))
    (hchain : DeclaredChain templates t objects o)
    (hdas : ∀ da ∈ das, da.DescendsFrom o) :
    ∀ place ∈ rootPlaces ln objects das, place.Traced templates := by
  intro place hplace
  obtain ⟨root, hroot, hplace⟩ := List.mem_flatMap.mp hplace
  have hdescends := hdas root hroot
  have hself : ∀ da ∈ [root], da.Everywhere fun sub =>
      sub.triggerOptions = some root.definition.declaredTriggers := by
    intro da hda
    obtain rfl := List.mem_singleton.mp hda
    exact hdescends.triggers
  obtain ⟨hln, hobjects, hplaceRoot, htriggers⟩ := mem_memberPlaces hself hplace
  refine ⟨⟨t, o, ?_, ?_, ?_⟩, ?_⟩
  · rw [hln]
    exact hnode
  · rw [hobjects]
    exact hchain
  · rw [hplaceRoot]
    exact hdescends.definition
  · rw [hplaceRoot]
    exact htriggers

theorem traced_objectPlaces {t : LogicalNodeType}
    (hnode : templates.lookupType ln.lnType = some (.logicalNodeType t))
    {objects nodes : List DataObject} {definitions : List DataObjectDefinition}
    (hnodes : List.Forall₂ (DataObject.DeclaredBy templates) definitions nodes)
    (hchain : ∀ definition ∈ definitions, ∀ node o,
      node.InstanceOf templates definition o → DeclaredChain templates t (node :: objects) o) :
    ∀ place ∈ objectPlaces ln objects nodes, place.Traced templates := by
  induction nodes using dataObject_induction generalizing objects definitions with
  | nil => simp
  | cons node rest ihm ihr =>
      cases hnodes with
      | @cons definition _ others _ hfirst hrest =>
          obtain ⟨o, hinstance, hattributes, hobjects⟩ := hfirst.unfold
          have hself := hchain definition List.mem_cons_self node o hinstance
          intro place hplace
          rw [objectPlaces_cons] at hplace
          rcases List.mem_append.mp hplace with hplace | hplace
          · rcases List.mem_append.mp hplace with hplace | hplace
            · exact ihm hobjects (fun d hd sub o' hsub => .inner hself hd hsub) place hplace
            · exact traced_rootPlaces hnode hself hattributes place hplace
          · exact ihr hrest (fun d hd => hchain d (List.mem_cons_of_mem definition hd))
              place hplace

theorem LogicalNode.Declared.traced (h : ln.Declared templates) :
    ∀ place ∈ objectPlaces ln [] ln.dataObjects, place.Traced templates := by
  obtain ⟨t, hnode, hobjects⟩ := h
  exact traced_objectPlaces hnode hobjects fun d hd node o hinstance =>
    .outermost hd hinstance

variable {args : GeneratorArguments} {files : GeneratedFiles}

theorem traced_modelPlaces {P : ParsedModel rt} (S : Selection P.model args)
    (htemplates : P.model.dataTypeTemplates = some templates) :
    ∀ place ∈ modelPlaces S.logicalDevices, place.Traced templates := by
  obtain ⟨declared, templates', ieds, communication, -, -, hparsed, -, -, hmodel⟩ := P.stages
  obtain ⟨templates'', htemplates'', hdevices⟩ := S.parsedDevices
  obtain rfl : templates = templates'' := Option.some.inj (htemplates.symm.trans htemplates'')
  obtain rfl : templates' = templates := by
    rw [hmodel] at htemplates
    exact Option.some.inj htemplates
  intro place hplace
  obtain ⟨device, hdevice, hplace⟩ := List.mem_flatMap.mp hplace
  obtain ⟨ln, hln, hplace⟩ := List.mem_flatMap.mp hplace
  obtain ⟨source, resolved, hresolved, hnode⟩ := hdevices.parsedNode hdevice hln
  exact (declared_parseLogicalNode (triggersParsed hparsed) hresolved hnode).traced place hplace

/-- The definitions of data attributes are those of the places of the model, and each has
the triggers that the `DA` element and the data objects of its place declare. -/
theorem emitted_triggers_inherited {P : ParsedModel rt} (S : Selection P.model args)
    (hgenerate : generate rt P.model args = .ok files) :
    ∃ templates, P.model.dataTypeTemplates = some templates ∧
      List.Forall₂ (fun definition place => definition.label = place.label rt ∧
          TriggersInherited templates definition.label place)
        files.attributeDefinitions (modelPlaces S.logicalDevices) := by
  obtain ⟨R⟩ := S.stages hgenerate
  obtain ⟨templates, htemplates, -⟩ := S.parsedDevices
  refine ⟨templates, htemplates, ?_⟩
  apply forall₂_imp_of_mem R.definitions_places
  intro definition _ place hplace hlabel
  refine ⟨hlabel, ?_⟩
  rw [hlabel]
  exact (traced_modelPlaces S htemplates place hplace).inherited

/-- A transient data object around another one with an array of structures. -/
def harmonicsTemplates : DataTypeTemplates where
  logicalNodeTypes := [{
    id := lit "LN0T"
    dataObjectDefinitions := [{
      name := lit "Har", type := lit "HWYE", transient := true }] }]
  dataObjectTypes := [
    { id := lit "HWYE"
      subDataObjects := [{ name := lit "phsA", type := lit "HCMV" }] },
    { id := lit "HCMV"
      dataAttributes := [{
        name := lit "har", fc := lit "MX", bType := lit "Struct", type := lit "Vector"
        count := 2, dchgTrigger := true, qchgTrigger := true }] }]
  dataAttributeTypes := [{
    id := lit "Vector"
    subDataAttributes := [
      { name := lit "mag", bType := lit "INT32", dupdTrigger := true }] }]

def harmonicsModel : ParsedModel plainRuntime :=
  ParsedModel.ofDocument plainRuntime 4
    (documentOf harmonicsTemplates [{
      inst := lit "LD1"
      ln0 := some { lnClass := lit "LLN0", lnType := lit "LN0T" } }])
    (by decide +kernel)

theorem generate_harmonicsModel :
    (generate plainRuntime harmonicsModel.model {}).isOk = true := by
  decide +kernel

theorem emitted_triggers_inherited_harmonicsModel :
    ∃ S : Selection harmonicsModel.model {}, ∃ files templates,
      generate plainRuntime harmonicsModel.model {} = .ok files ∧
      List.Forall₂ (fun definition place => definition.label = place.label plainRuntime ∧
          TriggersInherited templates definition.label place)
        files.attributeDefinitions (modelPlaces S.logicalDevices) := by
  have hgenerate := eq_ok_resultOf _ generate_harmonicsModel
  obtain ⟨S⟩ := exists_selection_of_generate hgenerate
  obtain ⟨templates, -, hinherited⟩ := emitted_triggers_inherited S hgenerate
  exact ⟨S, _, templates, hgenerate, hinherited⟩

end Iec61850.Scl
