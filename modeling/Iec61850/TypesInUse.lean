import Iec61850.ParsedModel

/-!
# The types that a document uses

The parser looks up the types of the logical nodes, and from there the types of data
objects, of structured and of enumerated attributes.  Declarations that are not reached
in this way do not matter to the model, nor does the place of a declaration among the
others.
-/

namespace Iec61850.Scl

open Go

section Congruence

variable {α β : Type}

theorem mapM_congr {f g : α → Outcome β} {xs : List α} (h : ∀ x ∈ xs, f x = g x) :
    xs.mapM f = xs.mapM g := by
  induction xs with
  | nil => rfl
  | cons x rest ih =>
      obtain ⟨hx, hrest⟩ := List.forall_mem_cons.mp h
      rw [List.mapM_cons, List.mapM_cons, hx, ih hrest]

theorem foldlM_congr {f g : β → α → Outcome β} {xs : List α}
    (h : ∀ x ∈ xs, ∀ b, f b x = g b x) (b : β) : xs.foldlM f b = xs.foldlM g b := by
  induction xs generalizing b with
  | nil => rfl
  | cons x rest ih =>
      obtain ⟨hx, hrest⟩ := List.forall_mem_cons.mp h
      rw [List.foldlM_cons, List.foldlM_cons, hx]
      apply bind_congr
      intro next
      exact ih hrest next

end Congruence

/-! ## References -/

/-- The attributes whose type id is looked up. -/
def AttributeType.IsDeclared (type : AttributeType) : Prop :=
  type = .constructed ∨ type = .enumerated

instance (type : AttributeType) : Decidable type.IsDeclared :=
  inferInstanceAs (Decidable (_ ∨ _))

def SclType.objectDefinitions : SclType → List DataObjectDefinition
  | .logicalNodeType t => t.dataObjectDefinitions
  | .dataObjectType t => t.subDataObjects
  | _ => []

/-- The ids that a document uses, from the logical nodes down. -/
inductive InUse (templates : DataTypeTemplates) (nodes : List LogicalNode) : Str → Prop
  | node {ln : LogicalNode} (hln : ln ∈ nodes) : InUse templates nodes ln.lnType
  | ofObject {id : Str} {t : SclType} {d : DataObjectDefinition} (hid : InUse templates nodes id)
      (hlookup : templates.lookupType id = some t) (hd : d ∈ t.objectDefinitions) :
      InUse templates nodes d.type
  | ofAttribute {id : Str} {t : SclType} {d : DataAttributeDefinition}
      (hid : InUse templates nodes id) (hlookup : templates.lookupType id = some t)
      (hd : d ∈ t.daDefinitions) (htype : d.attributeType.IsDeclared) :
      InUse templates nodes d.type
  | ofDefault {id : Str} {t : SclType} {d : DataAttributeDefinition} {v : DataModelValue}
      (hid : InUse templates nodes id) (hlookup : templates.lookupType id = some t)
      (hd : d ∈ t.daDefinitions) (hv : d.value = some v) (henum : v.enumType ≠ []) :
      InUse templates nodes v.enumType

/-- A set of ids that holds what its types refer to. -/
structure Closed (templates : DataTypeTemplates) (used : Str → Prop) : Prop where
  objects : ∀ id t, used id → templates.lookupType id = some t →
    ∀ d ∈ t.objectDefinitions, used d.type
  attributes : ∀ id t, used id → templates.lookupType id = some t →
    ∀ d ∈ t.daDefinitions, d.attributeType.IsDeclared → used d.type
  defaults : ∀ id t, used id → templates.lookupType id = some t →
    ∀ d ∈ t.daDefinitions, ∀ v, d.value = some v → v.enumType ≠ [] → used v.enumType

theorem closed_of_declarations {templates : DataTypeTemplates} {used : Str → Prop}
    (h : ∀ t ∈ templates.typeDeclarations, (∀ d ∈ t.objectDefinitions, used d.type) ∧
      ∀ d ∈ t.daDefinitions, (d.attributeType.IsDeclared → used d.type) ∧
        ∀ v ∈ d.value, v.enumType ≠ [] → used v.enumType) : Closed templates used where
  objects := fun _ t _ hlookup d hd => (h t (lookupType_mem hlookup)).1 d hd
  attributes := fun _ t _ hlookup d hd => ((h t (lookupType_mem hlookup)).2 d hd).1
  defaults := fun _ t _ hlookup d hd => ((h t (lookupType_mem hlookup)).2 d hd).2

theorem closed_inUse (templates : DataTypeTemplates) (nodes : List LogicalNode) :
    Closed templates (InUse templates nodes) where
  objects := fun _ _ hid hlookup _ hd => .ofObject hid hlookup hd
  attributes := fun _ _ hid hlookup _ hd htype => .ofAttribute hid hlookup hd htype
  defaults := fun _ _ hid hlookup _ hd _ hv henum => .ofDefault hid hlookup hd hv henum

theorem InUse.of_closed {templates : DataTypeTemplates} {nodes : List LogicalNode}
    {used : Str → Prop} (hclosed : Closed templates used)
    (hnodes : ∀ ln ∈ nodes, used ln.lnType) {id : Str} (h : InUse templates nodes id) :
    used id := by
  induction h with
  | node hln => exact hnodes _ hln
  | ofObject _ hlookup hd ih => exact hclosed.objects _ _ ih hlookup _ hd
  | ofAttribute _ hlookup hd htype ih => exact hclosed.attributes _ _ ih hlookup _ hd htype
  | ofDefault _ hlookup hd hv henum ih => exact hclosed.defaults _ _ ih hlookup _ hd _ hv henum

/-! ## Instantiation -/

section Instantiation

variable {rt : Runtime} {templates templates' : DataTypeTemplates} {used : Str → Prop}

/-- The declarations say the same of the ids in use. -/
def AgreeOn (used : Str → Prop) (templates templates' : DataTypeTemplates) : Prop :=
  ∀ id, used id → templates'.lookupType id = templates.lookupType id

theorem newDataAttribute_agree (hclosed : Closed templates used)
    (hagree : AgreeOn used templates templates') (n : ℕ) {d : DataAttributeDefinition}
    (hd : d.attributeType.IsDeclared → used d.type) (fc : Str) (parent : ParentNode) :
    newDataAttribute templates' n d fc parent = newDataAttribute templates n d fc parent := by
  induction n generalizing d fc parent with
  | zero => rfl
  | succ n ih =>
      simp only [newDataAttribute]
      by_cases hconstructed : (attributeOfDefinition d fc parent).attributeType = .constructed
      · rw [if_pos hconstructed, if_pos hconstructed]
        have hused : used d.type := hd (Or.inl hconstructed)
        unfold createConstructedAttribute
        have hsame := hagree (attributeOfDefinition d fc parent).definition.type hused
        rw [hsame]
        split
        next => rfl
        next t hlookup =>
          have hmembers : ∀ member ∈ t.subDataAttributes, ∀ fc parent,
              newDataAttribute templates' n member fc parent =
                newDataAttribute templates n member fc parent := by
            intro member hmember fc parent
            apply ih
            exact hclosed.attributes _ _ hused hlookup member hmember
          rw [mapM_congr fun member hmember => hmembers member hmember _ _]
        next => rfl
      rw [if_neg hconstructed, if_neg hconstructed]
      by_cases henumerated : (attributeOfDefinition d fc parent).attributeType = .enumerated
      · rw [if_pos henumerated, if_pos henumerated]
        unfold createEnumeratedAttribute
        have hsame := hagree (attributeOfDefinition d fc parent).definition.type
          (hd (Or.inr henumerated))
        rw [hsame]
      · rw [if_neg henumerated, if_neg henumerated]

theorem createDataAttributes_agree (hclosed : Closed templates used)
    (hagree : AgreeOn used templates templates') (n : ℕ) {id : Str} (hid : used id) {t : SclType}
    (hlookup : templates.lookupType id = some t) :
    createDataAttributes (newDataAttribute templates' n) t =
      createDataAttributes (newDataAttribute templates n) t := by
  unfold createDataAttributes
  apply foldlM_congr
  intro d hd attributes
  have hcreate := newDataAttribute_agree hclosed hagree n (hclosed.attributes id t hid hlookup d hd)
  unfold createDataAttribute
  rw [hcreate, hcreate]

theorem newDataObject_agree (hclosed : Closed templates used)
    (hagree : AgreeOn used templates templates') (n : ℕ) {d : DataObjectDefinition}
    (hd : used d.type) : newDataObject templates' n d = newDataObject templates n d := by
  induction n generalizing d with
  | zero => rfl
  | succ n ih =>
      rw [newDataObject, newDataObject, hagree d.type hd]
      cases hlookup : templates.lookupType d.type with
      | none => rfl
      | some t =>
          have hobjects : createSubDataObjects (newDataObject templates' n) t =
              createSubDataObjects (newDataObject templates n) t := by
            cases t with
            | dataObjectType t =>
                exact mapM_congr fun sub hsub => ih (hclosed.objects _ _ hd hlookup sub hsub)
            | _ => rfl
          simp only [createDataAttributes_agree hclosed hagree n hd hlookup, hobjects]

/-! ## Parsing -/

theorem parseLogicalNode_agree (hclosed : Closed templates used)
    (hagree : AgreeOn used templates templates') (n : ℕ) {source ln : LogicalNode}
    (hsource : used source.lnType) (hresolved : resolveLogicalNode templates source = .ok ln) :
    parseLogicalNode rt templates' n ln = parseLogicalNode rt templates n ln := by
  obtain ⟨t, hlookup, rfl⟩ := resolveLogicalNode_eq_ok hresolved
  unfold parseLogicalNode
  cases t with
  | logicalNodeType t =>
      have hobjects : t.dataObjectDefinitions.mapM (newDataObject templates' n) =
          t.dataObjectDefinitions.mapM (newDataObject templates n) := by
        apply mapM_congr
        intro d hd
        exact newDataObject_agree hclosed hagree n (hclosed.objects _ _ hsource hlookup d hd)
      simp only [hobjects]
  | _ => rfl

theorem parseLogicalDevice_agree (hclosed : Closed templates used)
    (hagree : AgreeOn used templates templates') (n : ℕ) {lDevice : LogicalDevice}
    (hnodes : ∀ ln ∈ lDevice.ln0.toList ++ lDevice.lNodes, used ln.lnType) :
    parseLogicalDevice rt templates' n lDevice = parseLogicalDevice rt templates n lDevice := by
  have hresolve : (lDevice.ln0.toList ++ lDevice.lNodes).mapM (resolveLogicalNode templates') =
      (lDevice.ln0.toList ++ lDevice.lNodes).mapM (resolveLogicalNode templates) := by
    apply mapM_congr
    intro ln hln
    unfold resolveLogicalNode
    rw [hagree ln.lnType (hnodes ln hln)]
  unfold parseLogicalDevice
  rw [hresolve]
  cases hresolved : (lDevice.ln0.toList ++ lDevice.lNodes).mapM
      (resolveLogicalNode templates) with
  | error stop => simp only [error_bind]
  | ok resolved =>
      have hparse : resolved.mapM (parseLogicalNode rt templates' n) =
          resolved.mapM (parseLogicalNode rt templates n) := by
        apply mapM_congr
        intro ln hln
        obtain ⟨source, hsource, hln⟩ := exists_of_mem_mapM_ok hresolved hln
        exact parseLogicalNode_agree hclosed hagree n (hnodes source hsource) hln
      simp only [ok_bind, hparse]

/-- The logical nodes of a document. -/
def SCL.nodes (scl : SCL) : List LogicalNode :=
  scl.ieds.flatMap fun ied => ied.accessPoints.flatMap fun ap =>
    ap.server.toList.flatMap fun server => server.logicalDevices.flatMap fun lDevice =>
      lDevice.ln0.toList ++ lDevice.lNodes

theorem SCL.mem_nodes {scl : SCL} {ied : IED} (hied : ied ∈ scl.ieds) {ap : AccessPoint}
    (hap : ap ∈ ied.accessPoints) {server : Server} (hserver : ap.server = some server)
    {lDevice : LogicalDevice} (hdevice : lDevice ∈ server.logicalDevices) {ln : LogicalNode}
    (hln : ln ∈ lDevice.ln0.toList ++ lDevice.lNodes) : ln ∈ scl.nodes := by
  have hmem : server ∈ ap.server.toList := by simp [hserver]
  exact List.mem_flatMap.mpr ⟨ied, hied, List.mem_flatMap.mpr ⟨ap, hap,
    List.mem_flatMap.mpr ⟨server, hmem, List.mem_flatMap.mpr ⟨lDevice, hdevice, hln⟩⟩⟩⟩

theorem parseIeds_agree (hclosed : Closed templates used)
    (hagree : AgreeOn used templates templates') (n : ℕ) {scl : SCL}
    (hnodes : ∀ ln ∈ scl.nodes, used ln.lnType) :
    scl.ieds.mapM (parseIed rt templates' n) = scl.ieds.mapM (parseIed rt templates n) := by
  apply mapM_congr
  intro ied hied
  have hpoints : ied.accessPoints.mapM (parseAccessPoint rt templates' n) =
      ied.accessPoints.mapM (parseAccessPoint rt templates n) := by
    apply mapM_congr
    intro ap hap
    unfold parseAccessPoint
    cases hserver : ap.server with
    | none => simp only [deref, error_bind]
    | some server =>
        have hdevices : server.logicalDevices.mapM (parseLogicalDevice rt templates' n) =
            server.logicalDevices.mapM (parseLogicalDevice rt templates n) := by
          apply mapM_congr
          intro lDevice hdevice
          apply parseLogicalDevice_agree hclosed hagree
          intro ln hln
          exact hnodes ln (SCL.mem_nodes hied hap hserver hdevice hln)
        simp only [deref, ok_bind, hdevices]
  unfold parseIed
  rw [hpoints]

end Instantiation

/-! ## Documents -/

def SCL.withTypes (scl : SCL) (templates : DataTypeTemplates) : SCL :=
  { scl with dataTypeTemplates := some templates }

theorem parse_withTypes (rt : Runtime) (n : ℕ) (scl : SCL)
    {declared declared' templates templates' : DataTypeTemplates} {used : Str → Prop}
    (hdeclared : parseTypeDeclarations rt declared = .ok templates)
    (hdeclared' : parseTypeDeclarations rt declared' = .ok templates')
    (hclosed : Closed templates used) (hnodes : ∀ ln ∈ scl.nodes, used ln.lnType)
    (hagree : AgreeOn used templates templates') :
    parse rt n (scl.withTypes declared') =
      (parse rt n (scl.withTypes declared)).map fun model => model.withTypes templates' := by
  have hieds : scl.ieds.mapM (parseIed rt templates' n) =
      scl.ieds.mapM (parseIed rt templates n) :=
    parseIeds_agree hclosed hagree n hnodes
  have hvalidate : (scl.withTypes declared').validate = (scl.withTypes declared).validate := rfl
  unfold parse
  rw [hvalidate]
  split
  next => rfl
  next =>
    simp only [SCL.withTypes, deref, ok_bind, hdeclared, hdeclared', hieds]
    cases scl.ieds.mapM (parseIed rt templates n) with
    | error stop => simp only [error_bind, Except.map]
    | ok ieds =>
        cases parseCommunication rt scl.communication with
        | error stop => simp only [ok_bind, error_bind, Except.map]
        | ok communication => simp only [ok_bind, Except.map, pure, Except.pure]

end Iec61850.Scl
