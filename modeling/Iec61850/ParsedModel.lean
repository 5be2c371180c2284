import Iec61850.SclParser

/-!
# Facts about parsed models

What the generator may rely on in a model returned by `Parse`: every access
point has a server, every device a logical node, and every attribute is an
attribute as instantiated from its definition, up to its instance value.
-/

namespace Iec61850.Scl

open Go

/-! ## Induction over the trees of the data model -/

/-- A list of attributes is its first attribute, the sub attributes of that
one, and the rest. -/
theorem dataAttribute_induction {motive : List DataAttribute → Prop} (nil : motive [])
    (cons : ∀ da rest, motive da.subDataAttributes → motive rest → motive (da :: rest)) :
    ∀ das, motive das
  | [] => nil
  | ⟨name, fc, type, count, value, sAddr, subDataAttributes, sclType, trgOps, d⟩ :: rest =>
      cons ⟨name, fc, type, count, value, sAddr, subDataAttributes, sclType, trgOps, d⟩ rest
        (dataAttribute_induction nil cons subDataAttributes)
        (dataAttribute_induction nil cons rest)

theorem dataObject_induction {motive : List DataObject → Prop} (nil : motive [])
    (cons : ∀ node rest, motive node.subDataObjects → motive rest → motive (node :: rest)) :
    ∀ nodes, motive nodes
  | [] => nil
  | ⟨name, count, isTrans, dataAttributes, subDataObjects⟩ :: rest =>
      cons ⟨name, count, isTrans, dataAttributes, subDataObjects⟩ rest
        (dataObject_induction nil cons subDataObjects)
        (dataObject_induction nil cons rest)

/-- The property holds of every attribute directly below the data object or
one of its sub data objects. -/
inductive DataObject.AllAttributes (P : DataAttribute → Prop) : DataObject → Prop
  | intro {node : DataObject} (hattributes : ∀ da ∈ node.dataAttributes, P da)
      (hobjects : ∀ sub ∈ node.subDataObjects, sub.AllAttributes P) :
      node.AllAttributes P

theorem DataObject.allAttributes_iff {P : DataAttribute → Prop} {node : DataObject} :
    node.AllAttributes P ↔
      (∀ da ∈ node.dataAttributes, P da) ∧ ∀ sub ∈ node.subDataObjects, sub.AllAttributes P := by
  constructor
  · intro h
    cases h with
    | intro hattributes hobjects => exact ⟨hattributes, hobjects⟩
  · rintro ⟨hattributes, hobjects⟩
    exact .intro hattributes hobjects

theorem DataObject.AllAttributes.attributes {P : DataAttribute → Prop} {node : DataObject}
    (h : node.AllAttributes P) : ∀ da ∈ node.dataAttributes, P da := by
  cases h with
  | intro hattributes _ => exact hattributes

theorem DataObject.AllAttributes.objects {P : DataAttribute → Prop} {node : DataObject}
    (h : node.AllAttributes P) : ∀ sub ∈ node.subDataObjects, sub.AllAttributes P := by
  cases h with
  | intro _ hobjects => exact hobjects

/-- The property holds of the attribute and of every attribute below it. -/
inductive DataAttribute.Everywhere (P : DataAttribute → Prop) : DataAttribute → Prop
  | intro {da : DataAttribute} (hself : P da)
      (hsubs : ∀ sub ∈ da.subDataAttributes, sub.Everywhere P) : da.Everywhere P

theorem DataAttribute.everywhere_iff {P : DataAttribute → Prop} {da : DataAttribute} :
    da.Everywhere P ↔ P da ∧ ∀ sub ∈ da.subDataAttributes, sub.Everywhere P := by
  constructor
  · intro h
    cases h with
    | intro hself hsubs => exact ⟨hself, hsubs⟩
  · rintro ⟨hself, hsubs⟩
    exact .intro hself hsubs

theorem DataObject.AllAttributes.imp {P Q : DataAttribute → Prop} (hPQ : ∀ da, P da → Q da)
    {node : DataObject} (h : node.AllAttributes P) : node.AllAttributes Q := by
  induction h with
  | intro hattributes _ ih => exact .intro (fun da hda => hPQ da (hattributes da hda)) ih

theorem DataObject.AllAttributes.and {P Q : DataAttribute → Prop} {node : DataObject}
    (hP : node.AllAttributes P) (hQ : node.AllAttributes Q) :
    node.AllAttributes fun da => P da ∧ Q da := by
  induction hP with
  | intro hattributes _ ih =>
      refine DataObject.AllAttributes.intro (fun da hda => ?_) fun sub hsub => ?_
      · exact ⟨hattributes da hda, hQ.attributes da hda⟩
      · exact ih sub hsub (hQ.objects sub hsub)

theorem DataAttribute.Everywhere.imp {P Q : DataAttribute → Prop} (hPQ : ∀ da, P da → Q da)
    {da : DataAttribute} (h : da.Everywhere P) : da.Everywhere Q := by
  induction h with
  | intro hself _ ih => exact .intro (hPQ _ hself) ih

theorem DataAttribute.Everywhere.and {P Q : DataAttribute → Prop} {da : DataAttribute}
    (hP : da.Everywhere P) (hQ : da.Everywhere Q) : da.Everywhere fun da => P da ∧ Q da := by
  induction hP with
  | intro hself _ ih =>
      obtain ⟨hQself, hQsubs⟩ := DataAttribute.everywhere_iff.mp hQ
      exact .intro ⟨hself, hQself⟩ fun sub hsub => ih sub hsub (hQsubs sub hsub)

/-! ## From definitions to attributes -/

section Instantiation

variable {rt : Runtime} {templates : DataTypeTemplates} {P : DataAttribute → Prop}

/-- The attribute is that of its definition, but for the type it refers to and its sub
attributes. -/
theorem newDataAttribute_shape {n : ℕ} {d : DataAttributeDefinition} {fc : Str}
    {parent : ParentNode} {da : DataAttribute}
    (h : newDataAttribute templates n d fc parent = .ok da) :
    ∃ sclType subs, da = { attributeOfDefinition d fc parent with
      sclType := sclType
      subDataAttributes := subs } := by
  cases n with
  | zero => cases h
  | succ n =>
      cases attributeCreated_of_ok h with
      | constructed htype hlookup hsubs => exact ⟨_, _, rfl⟩
      | enumerated htype hlookup => exact ⟨_, [], rfl⟩
      | basic hconstructed henumerated => exact ⟨none, [], rfl⟩

/-- What holds of every attribute on its own, for the definitions, constraints and parents
that the builder passes on from a call, holds everywhere in the tree of the call. -/
theorem newDataAttribute_everywhere
    {Q : DataAttributeDefinition → Str → ParentNode → Prop}
    (hself : ∀ d fc parent, Q d fc parent → ∀ sclType subs,
      P { attributeOfDefinition d fc parent with
        sclType := sclType
        subDataAttributes := subs })
    (hmember : ∀ d fc parent, Q d fc parent → ∀ member,
      Q member (attributeFc d.fc fc) (.dataAttribute (attributeTriggerOptions d parent)))
    {n : ℕ} {d : DataAttributeDefinition} {fc : Str} {parent : ParentNode}
    {da : DataAttribute} (hcall : Q d fc parent)
    (h : newDataAttribute templates n d fc parent = .ok da) : da.Everywhere P := by
  induction n generalizing d fc parent da with
  | zero => cases h
  | succ n ih =>
      cases attributeCreated_of_ok h with
      | constructed htype hlookup hsubs =>
          refine .intro (hself d fc parent hcall _ _) fun sub hsub => ?_
          obtain ⟨member, -, hcreated⟩ := exists_of_mem_mapM_ok hsubs hsub
          exact ih (hmember d fc parent hcall member) hcreated
      | enumerated htype hlookup =>
          exact .intro (hself d fc parent hcall _ []) (by simp [attributeOfDefinition])
      | basic hconstructed henumerated =>
          exact .intro (hself d fc parent hcall none []) (by simp [attributeOfDefinition])

theorem mem_of_replaceSetpoint {added da : DataAttribute} {attributes replaced : List DataAttribute}
    (h : replaceSetpoint added attributes = some replaced) (hda : da ∈ replaced) :
    da ∈ attributes ∨ da = added := by
  induction attributes generalizing replaced with
  | nil => simp [replaceSetpoint] at h
  | cons first rest ih =>
      rw [replaceSetpoint] at h
      split at h
      · obtain rfl := Option.some.inj h
        rcases List.mem_cons.mp hda with rfl | hda
        · exact Or.inr rfl
        · exact Or.inl (List.mem_cons_of_mem _ hda)
      · obtain ⟨others, hothers, rfl⟩ := Option.map_eq_some_iff.mp h
        rcases List.mem_cons.mp hda with rfl | hda
        · exact Or.inl (by simp)
        · exact (ih hothers hda).imp_left (List.mem_cons_of_mem _)

theorem mem_of_addDataAttribute {attributes : List DataAttribute} {added da : DataAttribute}
    (h : da ∈ addDataAttribute attributes added) : da ∈ attributes ∨ da = added := by
  unfold addDataAttribute at h
  split at h
  next replaced hreplaced => exact mem_of_replaceSetpoint hreplaced h
  next => simpa using h

/-- What holds of every attribute the builder can make holds of the attributes
of a data object. -/
theorem forall_createDataAttributes {n : ℕ} {sclType : SclType} {attributes : List DataAttribute}
    (hcreate : ∀ d ∈ sclType.daDefinitions, ∀ fc da,
      newDataAttribute templates n d fc .dataObject = .ok da → P da)
    (h : createDataAttributes (newDataAttribute templates n) sclType = .ok attributes) :
    ∀ da ∈ attributes, P da := by
  refine foldlM_invariant (P := fun das => ∀ da ∈ das, P da) h (by simp) ?_
  intro before after d hd hbefore hstep
  have hadd : ∀ das added, (∀ da ∈ das, P da) → P added →
      ∀ da ∈ addDataAttribute das added, P da := by
    intro das added hdas hadded da hda
    rcases mem_of_addDataAttribute hda with hda | rfl
    · exact hdas da hda
    · exact hadded
  unfold createDataAttribute at hstep
  split at hstep
  · obtain ⟨twin, htwin, hrest⟩ := bind_eq_ok.mp hstep
    obtain ⟨added, hadded, hafter⟩ := bind_eq_ok.mp hrest
    obtain rfl := Except.ok.inj hafter
    refine hadd _ _ ?_ (hcreate d hd _ _ hadded)
    intro da hda
    rcases List.mem_append.mp hda with hda | hda
    · exact hbefore da hda
    · obtain rfl : da = twin := by simpa using hda
      exact hcreate d hd _ _ htwin
  · obtain ⟨added, hadded, hafter⟩ := bind_eq_ok.mp hstep
    obtain rfl := Except.ok.inj hafter
    exact hadd _ _ hbefore (hcreate d hd _ _ hadded)

theorem allAttributes_newDataObject {n : ℕ} {definition : DataObjectDefinition}
    {node : DataObject}
    (hcreate : ∀ o, .dataObjectType o ∈ templates.typeDeclarations →
      ∀ d ∈ o.dataAttributes, ∀ m fc da,
        newDataAttribute templates m d fc .dataObject = .ok da → P da)
    (h : newDataObject templates n definition = .ok node) : node.AllAttributes P := by
  induction n generalizing definition node with
  | zero => cases h
  | succ n ih =>
      obtain ⟨o, attributes, objects, hlookup, hattributes, hobjects, rfl⟩ :=
        newDataObject_eq_ok h
      have hdefinitions : ∀ d ∈ (SclType.dataObjectType o).daDefinitions, ∀ fc da,
          newDataAttribute templates n d fc .dataObject = .ok da → P da :=
        fun d hd fc da => hcreate o (lookupType_mem hlookup) d hd n fc da
      constructor
      · exact forall_createDataAttributes hdefinitions hattributes
      · intro sub hsub
        obtain ⟨d, _, hd⟩ := exists_of_mem_mapM_ok hobjects hsub
        exact ih hd

/-! ## The steps of the parser -/

theorem resolveLogicalNode_eq_ok {ln resolved : LogicalNode}
    (h : resolveLogicalNode templates ln = .ok resolved) :
    ∃ t, templates.lookupType ln.lnType = some t ∧
      resolved = { ln with sclType := some t } := by
  unfold resolveLogicalNode at h
  split at h
  next => cases h
  next t hlookup => exact ⟨t, hlookup, (Except.ok.inj h).symm⟩

theorem parseControlBlocks_eq_ok {ln checked : LogicalNode}
    (h : parseControlBlocks rt ln = .ok checked) :
    ln.reportControlBlocks.mapM (parseReportControl rt) = .ok checked.reportControlBlocks ∧
      checked.lnType = ln.lnType ∧ checked.doiNodes = ln.doiNodes := by
  obtain ⟨reports, hreports, h⟩ := bind_eq_ok.mp h
  obtain ⟨gses, -, h⟩ := bind_eq_ok.mp h
  obtain ⟨smvs, -, h⟩ := bind_eq_ok.mp h
  split at h
  next => cases h
  next =>
    obtain rfl := Except.ok.inj h
    exact ⟨hreports, rfl, rfl⟩

theorem mem_dataAttributes_of_getChildByName {node : DataObject} {name : Str}
    {da : DataAttribute}
    (h : (DataModelNode.dataObject node).getChildByName name = some (.dataAttribute da)) :
    node.dataAttributes.find? (fun child => child.name = name) = some da := by
  simp only [DataModelNode.getChildByName] at h
  split at h
  next child hchild =>
    obtain rfl : child = da := by simpa using h
    exact hchild
  next => simp at h

theorem setInstanceValue_cases {daiNode : DOINode} {da da' : DataAttribute}
    (h : setInstanceValue rt daiNode da = .ok da') :
    (daiNode.val = none ∧ da' = da) ∨
      ∃ text v, daiNode.val = some text ∧
        newDataModelValue rt da.attributeType da.sclType text = .ok v ∧
        da' = { da with
          value := some v
          shortAddress := if daiNode.sAddr = [] then da.shortAddress else daiNode.sAddr } := by
  unfold setInstanceValue at h
  cases hval : daiNode.val with
  | none =>
      rw [hval] at h
      exact Or.inl ⟨rfl, (Except.ok.inj h).symm⟩
  | some text =>
      rw [hval] at h
      obtain ⟨v, hv, h⟩ := bind_eq_ok.mp h
      exact Or.inr ⟨text, v, rfl, hv, (Except.ok.inj h).symm⟩

/-- The attribute which an accepted `DAI` assigns to. -/
theorem parseDataAttributeNode_eq_ok {node assigned : DataObject} {daiNode : DOINode}
    (h : parseDataAttributeNode rt node daiNode = .ok assigned) :
    ∃ da da', node.dataAttributes.find? (fun child => child.name = daiNode.name) = some da ∧
      setInstanceValue rt daiNode da = .ok da' ∧
      assigned = { node with
        dataAttributes :=
          assignFirst (fun da => da.name = daiNode.name) da' node.dataAttributes } := by
  unfold parseDataAttributeNode at h
  split at h
  next => cases h
  next => cases h
  next da hchild =>
    obtain ⟨da', hda', hassigned⟩ := bind_eq_ok.mp h
    exact ⟨da, da', mem_dataAttributes_of_getChildByName hchild, hda',
      (Except.ok.inj hassigned).symm⟩

theorem parseDOINode_eq_ok {objects assigned : List DataObject} {doiNode : DOINode}
    (h : parseDOINode rt objects doiNode = .ok assigned) :
    ∃ node node', objects.find? (fun node => node.name = doiNode.name) = some node ∧
      parseDataAttributeNodes rt doiNode node = .ok node' ∧
      assigned = assignFirst (fun node => node.name = doiNode.name) node' objects := by
  unfold parseDOINode at h
  split at h
  next => cases h
  next node hfind =>
    obtain ⟨node', hnode', hassigned⟩ := bind_eq_ok.mp h
    exact ⟨node, node', hfind, hnode', (Except.ok.inj hassigned).symm⟩

theorem parseLogicalNode_eq_ok {n : ℕ} {ln parsed : LogicalNode}
    (h : parseLogicalNode rt templates n ln = .ok parsed) :
    ∃ t created checked objects, ln.sclType = some (.logicalNodeType t) ∧
      t.dataObjectDefinitions.mapM (newDataObject templates n) = .ok created ∧
      parseControlBlocks rt ln = .ok checked ∧
      ln.doiNodes.foldlM (parseDOINode rt) created = .ok objects ∧
      parsed = { checked with dataObjects := objects } := by
  unfold parseLogicalNode at h
  split at h
  next t htype =>
    obtain ⟨created, hcreated, h⟩ := bind_eq_ok.mp h
    obtain ⟨checked, hchecked, h⟩ := bind_eq_ok.mp h
    obtain ⟨objects, hobjects, h⟩ := bind_eq_ok.mp h
    exact ⟨t, created, checked, objects, htype, hcreated, hchecked, hobjects,
      (Except.ok.inj h).symm⟩
  next => cases h

/-! ## Instance values -/

theorem mem_of_mem_assignFirst {α : Type} {p : α → Bool} {new a : α} {as : List α}
    (h : a ∈ assignFirst p new as) : a = new ∨ a ∈ as := by
  induction as with
  | nil => simp [assignFirst] at h
  | cons b rest ih =>
      rw [assignFirst] at h
      split at h
      · rcases List.mem_cons.mp h with rfl | h
        · exact Or.inl rfl
        · exact Or.inr (List.mem_cons_of_mem _ h)
      · rcases List.mem_cons.mp h with rfl | h
        · exact Or.inr (by simp)
        · exact (ih h).imp_right (List.mem_cons_of_mem _)

theorem allAttributes_parseDataAttributeNode {node assigned : DataObject} {daiNode : DOINode}
    (hassign : ∀ da da', setInstanceValue rt daiNode da = .ok da' → P da → P da')
    (h : parseDataAttributeNode rt node daiNode = .ok assigned)
    (hnode : node.AllAttributes P) : assigned.AllAttributes P := by
  obtain ⟨da, da', hfound, hda', rfl⟩ := parseDataAttributeNode_eq_ok h
  have hda : P da := hnode.attributes da (List.mem_of_find?_eq_some hfound)
  refine DataObject.AllAttributes.intro ?_ hnode.objects
  intro other hother
  rcases mem_of_mem_assignFirst hother with rfl | hother
  · exact hassign da _ hda' hda
  · exact hnode.attributes other hother

theorem allAttributes_parseDOINode {objects assigned : List DataObject} {doiNode : DOINode}
    (hassign : ∀ dai da da', setInstanceValue rt dai da = .ok da' → P da → P da')
    (h : parseDOINode rt objects doiNode = .ok assigned)
    (hobjects : ∀ node ∈ objects, node.AllAttributes P) :
    ∀ node ∈ assigned, node.AllAttributes P := by
  obtain ⟨node, node', hfind, hnode', rfl⟩ := parseDOINode_eq_ok h
  have hnode : node'.AllAttributes P := by
    refine foldlM_invariant (P := DataObject.AllAttributes P) hnode'
      (hobjects node (List.mem_of_find?_eq_some hfind)) ?_
    intro before after dai _ hbefore hstep
    exact allAttributes_parseDataAttributeNode (hassign dai) hstep hbefore
  intro other hother
  rcases mem_of_mem_assignFirst hother with rfl | hother
  · exact hnode
  · exact hobjects other hother

/-- What holds of every attribute the builder can make and survives the
assignment of an instance value holds of a parsed node. -/
theorem allAttributes_parseLogicalNode {n : ℕ} {ln parsed : LogicalNode}
    (hcreate : ∀ o, .dataObjectType o ∈ templates.typeDeclarations →
      ∀ d ∈ o.dataAttributes, ∀ m fc da,
        newDataAttribute templates m d fc .dataObject = .ok da → P da)
    (hassign : ∀ dai da da', setInstanceValue rt dai da = .ok da' → P da → P da')
    (h : parseLogicalNode rt templates n ln = .ok parsed) :
    ∀ node ∈ parsed.dataObjects, node.AllAttributes P := by
  obtain ⟨t, created, checked, objects, -, hcreated, -, hobjects, rfl⟩ :=
    parseLogicalNode_eq_ok h
  refine foldlM_invariant (P := fun nodes => ∀ node ∈ nodes, node.AllAttributes P)
    hobjects ?_ ?_
  · intro node hnode
    obtain ⟨d, _, hd⟩ := exists_of_mem_mapM_ok hcreated hnode
    exact allAttributes_newDataObject hcreate hd
  · intro before after doi _ hbefore hstep
    exact allAttributes_parseDOINode hassign hstep hbefore

end Instantiation

/-! ## Parsed documents -/

/-- A document that `Parse` accepts, and the model it returns. -/
structure ParsedModel (rt : Runtime) where
  document : SCL
  fuel : ℕ
  model : SCL
  accepted : parse rt fuel document = .ok model

/-- The model of a document whose parse has been evaluated. -/
def ParsedModel.ofDocument (rt : Runtime) (fuel : ℕ) (document : SCL)
    (h : (parse rt fuel document).isOk = true) : ParsedModel rt where
  document := document
  fuel := fuel
  model := resultOf (parse rt fuel document) h
  accepted := eq_ok_resultOf _ h

/-- A document with one IED, one access point and these devices. -/
def documentOf (templates : DataTypeTemplates) (devices : List LogicalDevice) : SCL where
  ieds := [{
    name := lit "IED1"
    accessPoints := [{
      name := lit "AP1"
      server := some { logicalDevices := devices } }] }]
  dataTypeTemplates := some templates

variable {rt : Runtime}

/-- The stages of an accepted document. -/
theorem ParsedModel.stages (P : ParsedModel rt) :
    ∃ declared templates ieds communication,
      P.document.validate = true ∧
      P.document.dataTypeTemplates = some declared ∧
      parseTypeDeclarations rt declared = .ok templates ∧
      P.document.ieds.mapM (parseIed rt templates P.fuel) = .ok ieds ∧
      parseCommunication rt P.document.communication = .ok communication ∧
      P.model = { P.document with
        dataTypeTemplates := some templates
        ieds := ieds
        communication := communication } := by
  have h := P.accepted
  unfold parse at h
  split at h
  next => cases h
  next hvalid =>
    obtain ⟨declared, hdeclared, h⟩ := bind_eq_ok.mp h
    obtain ⟨templates, htemplates, h⟩ := bind_eq_ok.mp h
    obtain ⟨ieds, hieds, h⟩ := bind_eq_ok.mp h
    obtain ⟨communication, hcommunication, h⟩ := bind_eq_ok.mp h
    have hdeclared : P.document.dataTypeTemplates = some declared := by
      cases hd : P.document.dataTypeTemplates with
      | none => simp [hd, deref] at hdeclared
      | some t => simpa [hd, deref] using hdeclared
    refine ⟨declared, templates, ieds, communication, by simpa using hvalid, hdeclared,
      htemplates, hieds, hcommunication, ?_⟩
    exact (Except.ok.inj h).symm

/-- The devices of an access point come from devices of the document. -/
structure ParsedDevices (rt : Runtime) (templates : DataTypeTemplates) (fuel : ℕ)
    (devices : List LogicalDevice) : Prop where
  ne_nil : devices ≠ []
  parsed : ∀ device ∈ devices, ∃ source : LogicalDevice,
    source.ln0.isSome ∧ parseLogicalDevice rt templates fuel source = .ok device

theorem ParsedModel.server (P : ParsedModel rt) {ied : IED} (hied : ied ∈ P.model.ieds)
    {ap : AccessPoint} (hap : ap ∈ ied.accessPoints) :
    ∃ templates devices, P.model.dataTypeTemplates = some templates ∧
      ap.server = some ⟨devices⟩ ∧ ParsedDevices rt templates P.fuel devices := by
  obtain ⟨declared, templates, ieds, communication, hvalid, -, -, hieds, -, hmodel⟩ := P.stages
  rw [hmodel] at hied ⊢
  obtain ⟨sourceIed, hsourceIed, hparsedIed⟩ := exists_of_mem_mapM_ok hieds hied
  obtain ⟨accessPoints, haccessPoints, hied'⟩ := bind_eq_ok.mp hparsedIed
  obtain rfl := Except.ok.inj hied'
  obtain ⟨sourceAp, hsourceAp, hparsedAp⟩ := exists_of_mem_mapM_ok haccessPoints hap
  obtain ⟨server, hserver, hrest⟩ := bind_eq_ok.mp hparsedAp
  obtain ⟨devices, hdevices, hap'⟩ := bind_eq_ok.mp hrest
  obtain rfl := Except.ok.inj hap'
  have hserver : sourceAp.server = some server := by
    cases hs : sourceAp.server with
    | none => simp [hs, deref] at hserver
    | some s => simpa [hs, deref] using hserver
  have hnonzero : server.logicalDevices ≠ [] ∧
      ∀ device ∈ server.logicalDevices, device.ln0.isSome := by
    simp only [SCL.validate, Bool.and_eq_true, List.all_eq_true] at hvalid
    have hvalidAp := hvalid.2 sourceIed hsourceIed sourceAp hsourceAp
    rw [hserver] at hvalidAp
    simpa using hvalidAp
  refine ⟨templates, devices, rfl, rfl, ?_, ?_⟩
  · intro hnil
    have hlength := (mapM_eq_ok.mp hdevices).length_eq
    rw [hnil] at hlength
    exact hnonzero.1 (List.length_eq_zero_iff.mp hlength)
  · intro device hdevice
    obtain ⟨source, hsource, hparsed⟩ := exists_of_mem_mapM_ok hdevices hdevice
    exact ⟨source, hnonzero.2 source hsource, hparsed⟩

theorem ParsedDevices.logicalNodes_ne_nil {templates : DataTypeTemplates} {fuel : ℕ}
    {devices : List LogicalDevice} (h : ParsedDevices rt templates fuel devices)
    {device : LogicalDevice} (hdevice : device ∈ devices) : device.logicalNodes ≠ [] := by
  obtain ⟨source, hln0, hparsed⟩ := h.parsed device hdevice
  obtain ⟨resolved, hresolved, hrest⟩ := bind_eq_ok.mp hparsed
  obtain ⟨nodes, hnodes, hdevice'⟩ := bind_eq_ok.mp hrest
  obtain rfl := Except.ok.inj hdevice'
  intro hnil
  have hlength := (mapM_eq_ok.mp hresolved).length_eq
  have hlength' := (mapM_eq_ok.mp hnodes).length_eq
  rw [show nodes = [] from hnil, List.length_nil] at hlength'
  obtain ⟨ln0, hln0⟩ := Option.isSome_iff_exists.mp hln0
  rw [hln0, Option.toList_some, List.length_append, List.length_singleton] at hlength
  omega

/-- A logical node of the model is a node of the document after its type has
been resolved. -/
theorem ParsedDevices.parsedNode {templates : DataTypeTemplates} {fuel : ℕ}
    {devices : List LogicalDevice} (h : ParsedDevices rt templates fuel devices)
    {device : LogicalDevice} (hdevice : device ∈ devices) {ln : LogicalNode}
    (hln : ln ∈ device.logicalNodes) :
    ∃ source resolved, resolveLogicalNode templates source = .ok resolved ∧
      parseLogicalNode rt templates fuel resolved = .ok ln := by
  obtain ⟨source, _, hparsed⟩ := h.parsed device hdevice
  obtain ⟨resolved, hresolved, hrest⟩ := bind_eq_ok.mp hparsed
  obtain ⟨nodes, hnodes, hdevice'⟩ := bind_eq_ok.mp hrest
  obtain rfl := Except.ok.inj hdevice'
  obtain ⟨node, hnode, hln'⟩ := exists_of_mem_mapM_ok hnodes hln
  obtain ⟨sourceNode, _, hresolve⟩ := exists_of_mem_mapM_ok hresolved hnode
  exact ⟨sourceNode, node, hresolve, hln'⟩

end Iec61850.Scl
