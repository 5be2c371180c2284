import Iec61850.InstanceValues
import Iec61850.InstantiationTermination

/-!
# When the parser comes back

`Parse` works through the document in order and stops at the first error.  It
comes back with a model or an error exactly when, among the elements it comes
to before an error, every access point has a server, every data object
definition unfolds, and no `DAI` names a sub data object.
-/

namespace Iec61850.Scl

open Go

variable {rt : Runtime} {templates : DataTypeTemplates}

/-! ## Stages that always come back -/

theorem returns_mapM {α β : Type} {f : α → Outcome β} (hf : ∀ x, Returns (f x))
    (xs : List α) : Returns (xs.mapM f) :=
  returns_mapM_iff.mpr fun x _ => hf x

theorem returns_foldlM_of_forall {α β : Type} {f : β → α → Outcome β}
    (hf : ∀ b x, Returns (f b x)) (xs : List α) (b : β) : Returns (xs.foldlM f b) := by
  induction xs generalizing b with
  | nil => simp
  | cons x rest ih =>
      rw [List.foldlM_cons]
      exact returns_bind (hf b x) fun c _ => ih c

theorem returns_createAttributeTypeFromScl (typeString : Str) :
    Returns (createAttributeTypeFromScl typeString) := by
  unfold createAttributeTypeFromScl
  split <;> simp

theorem returns_parseDefinition (d : DataAttributeDefinition) :
    Returns (parseDefinition rt d) := by
  unfold parseDefinition
  refine returns_bind (returns_createAttributeTypeFromScl _) fun type _ => ?_
  simp only
  split
  · simp
  · split
    · simp
    · next henumerated =>
        refine returns_bind ?_ fun _ _ => returns_pure _
        exact returns_newDataModelValue fun h => absurd h henumerated

theorem returns_parseTypeDeclarations (declared : DataTypeTemplates) :
    Returns (parseTypeDeclarations rt declared) := by
  have hdefinitions (ds : List DataAttributeDefinition) :
      Returns (parseDataAttributeDefinition rt ds) :=
    returns_mapM returns_parseDefinition ds
  unfold parseTypeDeclarations
  refine returns_bind (returns_mapM (fun t => ?_) _) fun _ _ => ?_
  · exact returns_bind (hdefinitions _) fun _ _ => returns_pure _
  refine returns_bind (returns_mapM (fun t => ?_) _) fun _ _ => returns_pure _
  exact returns_bind (hdefinitions _) fun _ _ => returns_pure _

theorem returns_parseReportControl (rcb : ReportControl) :
    Returns (parseReportControl rt rcb) := by
  unfold parseReportControl
  simp only
  split
  · simp
  · refine returns_bind ?_ fun max _ => ?_
    · split
      · simp
      · exact returns_passError _
    · repeat' split
      all_goals simp

theorem returns_parseControlBlocks (ln : LogicalNode) :
    Returns (parseControlBlocks rt ln) := by
  have hgse (scb : GSEControl) : Returns (parseGSEControl scb) := by
    unfold parseGSEControl
    split <;> simp
  have hsmv (scb : SampledValueControl) : Returns (parseSampledValueControl scb) := by
    unfold parseSampledValueControl
    repeat' split
    all_goals simp
  unfold parseControlBlocks
  refine returns_bind (returns_mapM returns_parseReportControl _) fun _ _ => ?_
  refine returns_bind (returns_mapM hgse _) fun _ _ => ?_
  refine returns_bind (returns_mapM hsmv _) fun _ _ => ?_
  split <;> simp

theorem returns_parseMacAddress (value : Str) : Returns (parseMacAddress value) := by
  unfold parseMacAddress
  simp only
  split
  · simp
  · refine returns_mapM (fun element => ?_) _
    split <;> simp

theorem returns_parseBoundedHex (name value : Str) (bound : ℤ) :
    Returns (parseBoundedHex name value bound) := by
  unfold parseBoundedHex
  repeat' split
  all_goals simp

theorem returns_parseAddressParameter (address : PhyComAddress) (p : AddressParameter) :
    Returns (parseAddressParameter address p) := by
  unfold parseAddressParameter
  split
  · exact returns_bind (returns_parseBoundedHex _ _ _) fun _ _ => returns_pure _
  split
  · split <;> simp
  split
  · exact returns_bind (returns_parseBoundedHex _ _ _) fun _ _ => returns_pure _
  split
  · exact returns_bind (returns_parseMacAddress _) fun _ _ => returns_pure _
  · simp

theorem returns_parseAddress (address : Option PhyComAddress) :
    Returns (parseAddress address) := by
  cases address with
  | none => simp [parseAddress]
  | some address =>
      refine returns_bind ?_ fun _ _ => returns_pure _
      unfold parsePhyComAddress
      split
      · simp
      · refine returns_bind ?_ fun _ _ => returns_pure _
        exact returns_foldlM_of_forall returns_parseAddressParameter _ _

theorem returns_parseCommunication (communication : Option Communication) :
    Returns (parseCommunication rt communication) := by
  have htime (text : Option Str) : Returns (parseTime rt text) := by
    cases text with
    | none => simp [parseTime]
    | some value => exact returns_passError _
  have hgse (node : GSE) : Returns (parseGSE rt node) :=
    returns_bind (htime _) fun _ _ => returns_bind (htime _) fun _ _ =>
      returns_bind (returns_parseAddress _) fun _ _ => returns_pure _
  have hsmv (node : SMV) : Returns (parseSMV node) :=
    returns_bind (returns_parseAddress _) fun _ _ => returns_pure _
  have hconnected (connectedAP : ConnectedAP) : Returns (parseConnectedAP rt connectedAP) :=
    returns_bind (returns_mapM hgse _) fun _ _ =>
      returns_bind (returns_mapM hsmv _) fun _ _ => returns_pure _
  have hsubNetwork (subNetwork : SubNetwork) : Returns (parseSubNetwork rt subNetwork) :=
    returns_bind (returns_mapM hconnected _) fun _ _ => returns_pure _
  cases communication with
  | none => simp [parseCommunication]
  | some communication =>
      exact returns_bind (returns_mapM hsubNetwork _) fun _ _ => returns_pure _

/-! ## Instance values -/

/-- An enumerated attribute knows its enumeration. -/
def AttributeShape.Settled (shape : AttributeShape) : Prop :=
  shape.attributeType = .enumerated → ∃ e, shape.sclType = some (.enumerationType e)

def ObjectShape.Settled (node : ObjectShape) : Prop :=
  ∀ shape ∈ node.dataAttributes, shape.Settled

theorem returns_setInstanceValue {daiNode : DOINode} {da : DataAttribute}
    (hsettled : da.shape.Settled) : Returns (setInstanceValue rt daiNode da) := by
  unfold setInstanceValue
  split
  · simp
  · refine returns_bind ?_ fun _ _ => returns_pure _
    exact returns_newDataModelValue hsettled

theorem returns_parseDataAttributeNode_iff {node : DataObject} {daiNode : DOINode}
    (hsettled : node.shape.Settled) :
    Returns (parseDataAttributeNode rt node daiNode) ↔
      node.shape.childKind daiNode.name ≠ .subDataObject := by
  have hfound := getChildByName_of_childKind node daiNode.name
  unfold parseDataAttributeNode
  cases hkind : node.shape.childKind daiNode.name with
  | missing =>
      rw [hkind] at hfound
      simp [hfound]
  | subDataObject =>
      rw [hkind] at hfound
      obtain ⟨sub, hsub⟩ := hfound
      simp [hsub]
  | dataAttribute shape =>
      rw [hkind] at hfound
      obtain ⟨da, hda, rfl⟩ := hfound
      have hmem : da ∈ node.dataAttributes :=
        List.mem_of_find?_eq_some (mem_dataAttributes_of_getChildByName hda)
      rw [hda]
      refine iff_of_true (returns_bind ?_ fun _ _ => returns_pure _) (by simp)
      exact returns_setInstanceValue (hsettled da.shape (List.mem_map_of_mem hmem))

theorem parseDataAttributeNode_ok_iff {node : DataObject} {daiNode : DOINode} :
    (∃ node', parseDataAttributeNode rt node daiNode = .ok node') ↔
      (node.shape.childKind daiNode.name).Takes rt daiNode := by
  have hfound := getChildByName_of_childKind node daiNode.name
  unfold parseDataAttributeNode
  cases hkind : node.shape.childKind daiNode.name with
  | missing =>
      rw [hkind] at hfound
      simp [hfound, ChildKind.Takes]
  | subDataObject =>
      rw [hkind] at hfound
      obtain ⟨sub, hsub⟩ := hfound
      simp [hsub, ChildKind.Takes]
  | dataAttribute shape =>
      rw [hkind] at hfound
      obtain ⟨da, hda, rfl⟩ := hfound
      simp only [hda, ChildKind.Takes, setInstanceValue, DataAttribute.shape]
      cases hval : daiNode.val with
      | none => simp
      | some text =>
          simp only [Option.some.injEq, forall_eq']
          constructor
          · rintro ⟨node', h⟩
            obtain ⟨da', hda', -⟩ := bind_eq_ok.mp h
            obtain ⟨v, hv, -⟩ := bind_eq_ok.mp hda'
            exact ⟨v, hv⟩
          · rintro ⟨v, hv⟩
            simp [hv]

/-- The loop over the `DAI` elements comes to none that names a sub data
object. -/
def ObjectShape.Safe (rt : Runtime) (node : ObjectShape) (doiNode : DOINode) : Prop :=
  AllReached (fun dai => (node.childKind dai.name).Takes rt dai)
    (fun dai => node.childKind dai.name ≠ .subDataObject) doiNode.daiNodes

theorem returns_parseDataAttributeNodes_iff {node : DataObject} {doiNode : DOINode}
    (hsettled : node.shape.Settled) :
    Returns (parseDataAttributeNodes rt doiNode node) ↔ node.shape.Safe rt doiNode := by
  refine returns_foldlM (I := fun after => after.shape = node.shape) ?_ ?_ ?_ rfl
  · intro after dai hafter
    rw [← hafter]
    exact parseDataAttributeNode_ok_iff
  · intro after dai hafter
    rw [← hafter] at hsettled ⊢
    exact returns_parseDataAttributeNode_iff hsettled
  · intro after dai after' hafter hstep
    exact (shape_parseDataAttributeNode hstep).trans hafter

theorem parseDataAttributeNodes_ok_iff {node : DataObject} {doiNode : DOINode} :
    (∃ node', parseDataAttributeNodes rt doiNode node = .ok node') ↔
      ∀ dai ∈ doiNode.daiNodes, (node.shape.childKind dai.name).Takes rt dai := by
  refine exists_foldlM_ok_iff (I := fun after => after.shape = node.shape) ?_ ?_ rfl
  · intro after dai hafter
    rw [← hafter]
    exact parseDataAttributeNode_ok_iff
  · intro after dai after' hafter hstep
    exact (shape_parseDataAttributeNode hstep).trans hafter

/-! The same for the `DOI` elements, over the data objects of a node. -/

def InstanceTaken (rt : Runtime) (objects : List ObjectShape) (doiNode : DOINode) : Prop :=
  ∃ node, objects.find? (fun node => node.name = doiNode.name) = some node ∧
    ∀ dai ∈ doiNode.daiNodes, (node.childKind dai.name).Takes rt dai

def InstanceSafe (rt : Runtime) (objects : List ObjectShape) (doiNode : DOINode) : Prop :=
  ∀ node, objects.find? (fun node => node.name = doiNode.name) = some node →
    node.Safe rt doiNode

theorem find?_shape (objects : List DataObject) (name : Str) :
    ((objects.map DataObject.shape).find? fun node => node.name = name) =
      (objects.find? fun node => node.name = name).map DataObject.shape := by
  rw [List.find?_map]
  rfl

theorem parseDOINode_ok_iff {objects : List DataObject} {doiNode : DOINode} :
    (∃ objects', parseDOINode rt objects doiNode = .ok objects') ↔
      InstanceTaken rt (objects.map DataObject.shape) doiNode := by
  simp only [InstanceTaken, find?_shape]
  unfold parseDOINode
  cases objects.find? fun node => node.name = doiNode.name with
  | none => simp
  | some node =>
      simp only [Option.map_some, Option.some.injEq, exists_eq_left']
      rw [← parseDataAttributeNodes_ok_iff]
      constructor
      · rintro ⟨objects', h⟩
        obtain ⟨node', hnode', -⟩ := bind_eq_ok.mp h
        exact ⟨node', hnode'⟩
      · rintro ⟨node', hnode'⟩
        exact ⟨_, bind_eq_ok.mpr ⟨node', hnode', rfl⟩⟩

theorem returns_parseDOINode_iff {objects : List DataObject} {doiNode : DOINode}
    (hsettled : ∀ node ∈ objects.map DataObject.shape, node.Settled) :
    Returns (parseDOINode rt objects doiNode) ↔
      InstanceSafe rt (objects.map DataObject.shape) doiNode := by
  simp only [InstanceSafe, find?_shape]
  unfold parseDOINode
  cases hfind : objects.find? fun node => node.name = doiNode.name with
  | none => simp
  | some node =>
      simp only [Option.map_some, Option.some.injEq, forall_eq', returns_bind_iff,
        returns_pure, implies_true, and_true]
      apply returns_parseDataAttributeNodes_iff
      exact hsettled _ (List.mem_map_of_mem (List.mem_of_find?_eq_some hfind))

/-- The loop over the `DOI` elements comes to no `DAI` that names a sub data
object. -/
def InstancesSafe (rt : Runtime) (objects : List ObjectShape) (doiNodes : List DOINode) :
    Prop :=
  AllReached (InstanceTaken rt objects) (InstanceSafe rt objects) doiNodes

theorem returns_parseDOINodes_iff {created : List DataObject} {doiNodes : List DOINode}
    (hsettled : ∀ node ∈ created.map DataObject.shape, node.Settled) :
    Returns (doiNodes.foldlM (parseDOINode rt) created) ↔
      InstancesSafe rt (created.map DataObject.shape) doiNodes := by
  refine returns_foldlM
    (I := fun objects => objects.map DataObject.shape = created.map DataObject.shape)
    ?_ ?_ ?_ rfl
  · intro objects doi hobjects
    rw [← hobjects]
    exact parseDOINode_ok_iff
  · intro objects doi hobjects
    rw [← hobjects] at hsettled ⊢
    exact returns_parseDOINode_iff hsettled
  · intro objects doi objects' hobjects hstep
    exact (shape_parseDOINode hstep).trans hobjects

/-! ## The created data objects -/

theorem settled_newDataAttribute {n : ℕ} {d : DataAttributeDefinition} {fc : Str}
    {parent : ParentNode} {da : DataAttribute}
    (h : newDataAttribute templates n d fc parent = .ok da) : da.shape.Settled := by
  cases n with
  | zero => cases h
  | succ n =>
      intro henumerated
      cases attributeCreated_of_ok h with
      | constructed htype hlookup hsubs =>
          simp [DataAttribute.shape, attributeOfDefinition, htype] at henumerated
      | @enumerated e htype hlookup => exact ⟨e, rfl⟩
      | basic hconstructed hother => exact absurd henumerated hother

theorem settled_of_created {n : ℕ} {ds : List DataObjectDefinition}
    {created : List DataObject} (h : ds.mapM (newDataObject templates n) = .ok created) :
    ∀ node ∈ created.map DataObject.shape, node.Settled := by
  intro node hnode
  obtain ⟨object, hobject, rfl⟩ := List.mem_map.mp hnode
  obtain ⟨d, -, hd⟩ := exists_of_mem_mapM_ok h hobject
  have hsettled : object.AllAttributes fun da => da.shape.Settled :=
    allAttributes_newDataObject (fun _ _ _ _ _ _ _ hda => settled_newDataAttribute hda) hd
  intro shape hshape
  obtain ⟨da, hda, rfl⟩ := List.mem_map.mp hshape
  exact hsettled.attributes da hda

/-! ## Logical nodes -/

/-- What a logical node, after its type has been resolved, must satisfy for its
parse to come back: the definitions it comes to unfold, and its instance
values are safe for the data objects created from them. -/
structure LogicalNodeSafe (rt : Runtime) (templates : DataTypeTemplates)
    (ln : LogicalNode) : Prop where
  unfolds : ∀ t, ln.sclType = some (.logicalNodeType t) →
    AllReached (ObjectBuilds templates) (fun d => (Call.dataObject d).Unfolds templates)
      t.dataObjectDefinitions
  instances : ∀ t created, ln.sclType = some (.logicalNodeType t) →
    Yields (fun n => t.dataObjectDefinitions.mapM (newDataObject templates n)) created →
    (∃ checked, parseControlBlocks rt ln = .ok checked) →
    InstancesSafe rt (created.map DataObject.shape) ln.doiNodes

theorem fuelled_mapM_newDataObject (ds : List DataObjectDefinition) :
    Fuelled fun n => ds.mapM (newDataObject templates n) :=
  Fuelled.mapM fuelled_newDataObject ds

theorem fuelled_parseLogicalNode (ln : LogicalNode) :
    Fuelled fun n => parseLogicalNode rt templates n ln := by
  unfold parseLogicalNode
  split
  · exact (fuelled_mapM_newDataObject _).bind fun created => Fuelled.const _
  · exact Fuelled.const _

theorem finishes_mapM_newDataObject_iff {ds : List DataObjectDefinition} :
    Finishes (fun n => ds.mapM (newDataObject templates n)) ↔
      AllReached (ObjectBuilds templates)
        (fun d => (Call.dataObject d).Unfolds templates) ds := by
  have hsucceeds : (fun d => Succeeds fun n => newDataObject templates n d) =
      ObjectBuilds templates := by
    funext d
    exact propext ⟨fun ⟨_, _, hn⟩ => objectBuilds_of_newDataObject hn, fun h => h.succeeds⟩
  have hfinishes : (fun d => Finishes fun n => newDataObject templates n d) =
      fun d => (Call.dataObject d).Unfolds templates := by
    funext d
    exact propext (Call.finishes_iff_unfolds (c := .dataObject d))
  rw [finishes_mapM_iff fuelled_newDataObject, hsucceeds, hfinishes]

theorem returns_completeLogicalNode_iff {n : ℕ} {ln : LogicalNode}
    {ds : List DataObjectDefinition} {created : List DataObject}
    (hcreated : ds.mapM (newDataObject templates n) = .ok created) :
    Returns (completeLogicalNode rt ln created) ↔
      ((∃ checked, parseControlBlocks rt ln = .ok checked) →
        InstancesSafe rt (created.map DataObject.shape) ln.doiNodes) := by
  simp only [completeLogicalNode, returns_bind_iff, returns_parseControlBlocks, true_and,
    returns_pure, implies_true, and_true,
    returns_parseDOINodes_iff (settled_of_created hcreated), forall_exists_index]

theorem finishes_parseLogicalNode_iff {ln : LogicalNode} :
    Finishes (fun n => parseLogicalNode rt templates n ln) ↔
      LogicalNodeSafe rt templates ln := by
  by_cases htype : ∃ t, ln.sclType = some (.logicalNodeType t)
  · obtain ⟨t, ht⟩ := htype
    have hparse : (fun n => parseLogicalNode rt templates n ln) = fun n =>
        t.dataObjectDefinitions.mapM (newDataObject templates n) >>=
          completeLogicalNode rt ln := by
      funext n
      simp only [parseLogicalNode, ht]
    rw [hparse, finishes_bind_const_iff (fuelled_mapM_newDataObject _),
      finishes_mapM_newDataObject_iff]
    constructor
    · rintro ⟨hunfolds, hinstances⟩
      constructor
      · intro t' ht'
        rw [ht] at ht'
        cases ht'
        exact hunfolds
      · rintro t' created ht' ⟨n, hn⟩
        rw [ht] at ht'
        cases ht'
        exact (returns_completeLogicalNode_iff hn).mp (hinstances created ⟨n, hn⟩)
    · intro h
      refine ⟨h.unfolds t ht, fun created hyields => ?_⟩
      obtain ⟨n, hn⟩ := hyields
      exact (returns_completeLogicalNode_iff hn).mpr (h.instances t created ht ⟨n, hn⟩)
  · refine iff_of_true ⟨0, ?_⟩ ⟨fun t ht => absurd ⟨t, ht⟩ htype,
      fun t _ ht => absurd ⟨t, ht⟩ htype⟩
    unfold parseLogicalNode
    split
    next t ht => exact absurd ⟨t, ht⟩ htype
    next => simp

/-! ## Devices, access points, IEDs -/

/-- All nodes of a device are resolved before the first is parsed. -/
def LogicalDeviceSafe (rt : Runtime) (templates : DataTypeTemplates)
    (lDevice : LogicalDevice) : Prop :=
  ∀ resolved,
    (lDevice.ln0.toList ++ lDevice.lNodes).mapM (resolveLogicalNode templates) = .ok resolved →
    AllReached (fun ln => Succeeds fun n => parseLogicalNode rt templates n ln)
      (LogicalNodeSafe rt templates) resolved

/-- The access point has a server, and the devices the parser comes to are
safe. -/
def AccessPointSafe (rt : Runtime) (templates : DataTypeTemplates)
    (ap : AccessPoint) : Prop :=
  ∃ server, ap.server = some server ∧
    AllReached (fun lDevice => Succeeds fun n => parseLogicalDevice rt templates n lDevice)
      (LogicalDeviceSafe rt templates) server.logicalDevices

def IedSafe (rt : Runtime) (templates : DataTypeTemplates) (ied : IED) : Prop :=
  AllReached (fun ap => Succeeds fun n => parseAccessPoint rt templates n ap)
    (AccessPointSafe rt templates) ied.accessPoints

/-- A document is safe if it is not valid, or if its type declarations are
rejected, or if the IEDs the parser comes to are safe. -/
def DocumentSafe (rt : Runtime) (scl : SCL) : Prop :=
  ∀ declared templates, scl.validate = true → scl.dataTypeTemplates = some declared →
    parseTypeDeclarations rt declared = .ok templates →
    AllReached (fun ied => Succeeds fun n => parseIed rt templates n ied)
      (IedSafe rt templates) scl.ieds

theorem fuelled_parseLogicalDevice (lDevice : LogicalDevice) :
    Fuelled fun n => parseLogicalDevice rt templates n lDevice :=
  (Fuelled.const _).bind fun resolved =>
    (Fuelled.mapM fuelled_parseLogicalNode resolved).bind fun _ => Fuelled.const _

theorem fuelled_parseAccessPoint (ap : AccessPoint) :
    Fuelled fun n => parseAccessPoint rt templates n ap :=
  (Fuelled.const _).bind fun server =>
    (Fuelled.mapM fuelled_parseLogicalDevice server.logicalDevices).bind fun _ =>
      Fuelled.const _

theorem fuelled_parseIed (ied : IED) : Fuelled fun n => parseIed rt templates n ied :=
  (Fuelled.mapM fuelled_parseAccessPoint ied.accessPoints).bind fun _ => Fuelled.const _

theorem finishes_parseLogicalDevice_iff {lDevice : LogicalDevice} :
    Finishes (fun n => parseLogicalDevice rt templates n lDevice) ↔
      LogicalDeviceSafe rt templates lDevice := by
  unfold parseLogicalDevice LogicalDeviceSafe
  rw [finishes_const_bind_iff]
  have hresolves (ln : LogicalNode) : Returns (resolveLogicalNode templates ln) := by
    unfold resolveLogicalNode
    split <;> simp [missingTypeDeclaration]
  have hnodes : (fun ln => Finishes fun n => parseLogicalNode rt templates n ln) =
      LogicalNodeSafe rt templates := by
    funext ln
    exact propext finishes_parseLogicalNode_iff
  have hloop (resolved : List LogicalNode) :
      Finishes (fun n => do
        let logicalNodes ← resolved.mapM (parseLogicalNode rt templates n)
        pure { lDevice with logicalNodes := logicalNodes }) ↔
      AllReached (fun ln => Succeeds fun n => parseLogicalNode rt templates n ln)
        (LogicalNodeSafe rt templates) resolved := by
    rw [finishes_bind_pure_iff, finishes_mapM_iff fuelled_parseLogicalNode, hnodes]
  simp only [hloop, returns_mapM hresolves, true_and]

theorem finishes_parseAccessPoint_iff {ap : AccessPoint} :
    Finishes (fun n => parseAccessPoint rt templates n ap) ↔
      AccessPointSafe rt templates ap := by
  have hdevices : (fun lDevice => Finishes fun n => parseLogicalDevice rt templates n lDevice) =
      LogicalDeviceSafe rt templates := by
    funext lDevice
    exact propext finishes_parseLogicalDevice_iff
  unfold parseAccessPoint AccessPointSafe
  cases hserver : ap.server with
  | none =>
      simp only [deref, error_bind, finishes_const]
      simp
  | some server =>
      simp only [deref, ok_bind, Option.some.injEq, exists_eq_left']
      rw [finishes_bind_pure_iff, finishes_mapM_iff fuelled_parseLogicalDevice, hdevices]

theorem finishes_parseIed_iff {ied : IED} :
    Finishes (fun n => parseIed rt templates n ied) ↔ IedSafe rt templates ied := by
  have haps : (fun ap => Finishes fun n => parseAccessPoint rt templates n ap) =
      AccessPointSafe rt templates := by
    funext ap
    exact propext finishes_parseAccessPoint_iff
  unfold parseIed IedSafe
  rw [finishes_bind_pure_iff, finishes_mapM_iff fuelled_parseAccessPoint, haps]

theorem finishes_parseIeds_iff {ieds : List IED} :
    Finishes (fun n => ieds.mapM (parseIed rt templates n)) ↔
      AllReached (fun ied => Succeeds fun n => parseIed rt templates n ied)
        (IedSafe rt templates) ieds := by
  have hieds : (fun ied => Finishes fun n => parseIed rt templates n ied) =
      IedSafe rt templates := by
    funext ied
    exact propext finishes_parseIed_iff
  rw [finishes_mapM_iff fuelled_parseIed, hieds]

/-- `Parse` comes back with a model or an error, and reaches no nil dereference
and no failing type assertion, exactly on the safe documents. -/
theorem parse_returns_iff (rt : Runtime) (scl : SCL) :
    (∃ fuel, Returns (parse rt fuel scl)) ↔ DocumentSafe rt scl := by
  change Finishes (fun fuel => parse rt fuel scl) ↔ _
  cases hvalid : scl.validate with
  | false =>
      have hrejected : (fun fuel => parse rt fuel scl) =
          fun _ => .error (.error rt.validateMessage) := by
        funext fuel
        simp [parse, hvalid]
      rw [hrejected]
      refine iff_of_true ⟨0, returns_error _⟩ fun _ _ hvalid' => ?_
      rw [hvalid] at hvalid'
      cases hvalid'
  | true =>
      have hdeclared : ∃ declared, scl.dataTypeTemplates = some declared := by
        simp only [SCL.validate, Bool.and_eq_true] at hvalid
        exact Option.isSome_iff_exists.mp hvalid.1.1.2
      obtain ⟨declared, hdeclared⟩ := hdeclared
      simp only [parse, hvalid, Bool.true_eq_false, if_false, hdeclared, deref, ok_bind]
      rw [finishes_const_bind_iff]
      simp only [returns_parseTypeDeclarations, true_and]
      have hrest (templates : DataTypeTemplates) :
          Finishes (fun fuel => do
            let ieds ← scl.ieds.mapM (parseIed rt templates fuel)
            let communication ← parseCommunication rt scl.communication
            pure { scl with
              dataTypeTemplates := some templates
              ieds := ieds
              communication := communication }) ↔
          AllReached (fun ied => Succeeds fun n => parseIed rt templates n ied)
            (IedSafe rt templates) scl.ieds := by
        rw [finishes_bind_const_iff (Fuelled.mapM fuelled_parseIed _), finishes_parseIeds_iff]
        refine and_iff_left fun ieds _ => ?_
        exact returns_bind (returns_parseCommunication _) fun _ _ => returns_pure _
      simp only [hrest]
      constructor
      · intro h declared' templates _ hdeclared' htemplates
        rw [hdeclared] at hdeclared'
        cases hdeclared'
        exact h templates htemplates
      · intro h templates htemplates
        exact h declared templates hvalid hdeclared htemplates

/-- An IED whose access point has no `Server` element, as the schema allows. -/
def serverlessDocument : SCL where
  ieds := [{ name := lit "IED1", accessPoints := [{ name := lit "AP1", server := none }] }]
  dataTypeTemplates := some {}

theorem parse_serverless_panics :
    serverlessDocument.validate = true ∧
      (∀ fuel, parse plainRuntime fuel serverlessDocument =
        .error (.panic .nilDereference)) ∧
      ¬ ∃ fuel, Returns (parse plainRuntime fuel serverlessDocument) := by
  have hpanic (fuel : ℕ) :
      parse plainRuntime fuel serverlessDocument = .error (.panic .nilDereference) := rfl
  refine ⟨by decide, hpanic, ?_⟩
  rintro ⟨fuel, hfuel⟩
  rw [hpanic] at hfuel
  exact not_returns_panic _ hfuel

end Iec61850.Scl
