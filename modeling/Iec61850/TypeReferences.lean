import Iec61850.ParsedModel
import Iec61850.PointerChains

/-!
# Type references and the merged list of declarations

The four kinds of type declarations are searched through one list, which the parser
merges in a fixed order.  Every call site wants a declaration of one kind, so a
reference finds its own declaration exactly when no kind that stands earlier in the
list declares the same id.
-/

namespace Iec61850.Scl

open Go

/-! ## Searching a merged list -/

theorem find?_key_append_of_forall_ne {α κ : Type} [DecidableEq κ] (key : α → κ) {k : κ}
    {before : List α} (h : ∀ x ∈ before, key x ≠ k) (after : List α) :
    (before ++ after).find? (fun x => key x = k) = after.find? fun x => key x = k := by
  have hnone : before.find? (fun x => key x = k) = none :=
    List.find?_eq_none.mpr fun x hx => by simpa using h x hx
  rw [List.find?_append, hnone, Option.none_or]

/-- An element with a key of its own in the middle block is found exactly when no element
of the first block has the key. -/
theorem find?_key_append_iff {α κ : Type} [DecidableEq κ] (key : α → κ) {a : α}
    {before own : List α} (after : List α) (hnodup : (own.map key).Nodup) (ha : a ∈ own)
    (hapart : a ∉ before) :
    (before ++ own ++ after).find? (fun x => key x = key a) = some a ↔
      key a ∉ before.map key := by
  rw [List.append_assoc]
  constructor
  · intro hfound hmem
    obtain ⟨x, hx, hkey⟩ := List.mem_map.mp hmem
    have hsome : (before.find? fun x => key x = key a).isSome :=
      List.find?_isSome.mpr ⟨x, hx, by simpa using hkey⟩
    obtain ⟨b, hb⟩ := Option.isSome_iff_exists.mp hsome
    rw [List.find?_append, hb, Option.some_or] at hfound
    obtain rfl := Option.some.inj hfound
    exact hapart (List.mem_of_find?_eq_some hb)
  · intro hnone
    have hbefore : ∀ x ∈ before, key x ≠ key a := fun x hx hkey =>
      hnone (hkey ▸ List.mem_map_of_mem hx)
    rw [find?_key_append_of_forall_ne key hbefore, List.find?_append,
      Linked.find?_key hnodup ha, Option.some_or]

/-! ## The kinds of declarations -/

inductive TypeKind
  | dataAttributeType | dataObjectType | enumerationType | logicalNodeType
  deriving DecidableEq, Repr

def SclType.kind : SclType → TypeKind
  | .logicalNodeType _ => .logicalNodeType
  | .dataObjectType _ => .dataObjectType
  | .dataAttributeType _ => .dataAttributeType
  | .enumerationType _ => .enumerationType

/-- The kinds that stand in front of a kind in the merged list. -/
def TypeKind.searchedBefore : TypeKind → List TypeKind
  | .dataAttributeType => []
  | .dataObjectType => [.dataAttributeType]
  | .enumerationType => [.dataAttributeType, .dataObjectType]
  | .logicalNodeType => [.dataAttributeType, .dataObjectType, .enumerationType]

def TypeKind.searchedAfter : TypeKind → List TypeKind
  | .dataAttributeType => [.dataObjectType, .enumerationType, .logicalNodeType]
  | .dataObjectType => [.enumerationType, .logicalNodeType]
  | .enumerationType => [.logicalNodeType]
  | .logicalNodeType => []

def DataTypeTemplates.declarations (templates : DataTypeTemplates) : TypeKind → List SclType
  | .dataAttributeType => templates.dataAttributeTypes.map .dataAttributeType
  | .dataObjectType => templates.dataObjectTypes.map .dataObjectType
  | .enumerationType => templates.enumTypes.map .enumerationType
  | .logicalNodeType => templates.logicalNodeTypes.map .logicalNodeType

theorem kind_of_mem_declarations {templates : DataTypeTemplates} {kind : TypeKind}
    {t : SclType} (h : t ∈ templates.declarations kind) : t.kind = kind := by
  cases kind <;> obtain ⟨_, _, rfl⟩ := List.mem_map.mp h <;> rfl

/-- The ids of one of the four lists. -/
def DataTypeTemplates.declaredIds (templates : DataTypeTemplates) (kind : TypeKind) :
    List Str :=
  (templates.declarations kind).map SclType.getId

theorem not_mem_searchedBefore {templates : DataTypeTemplates} {kind : TypeKind} {t : SclType}
    (h : t ∈ templates.declarations kind) :
    t ∉ kind.searchedBefore.flatMap templates.declarations := by
  intro hmem
  obtain ⟨earlier, hearlier, ht⟩ := List.mem_flatMap.mp hmem
  have hkind := (kind_of_mem_declarations ht).symm.trans (kind_of_mem_declarations h)
  rw [hkind] at hearlier
  cases kind <;> simp [TypeKind.searchedBefore] at hearlier

theorem mem_searchedBefore_ids {templates : DataTypeTemplates} {kind : TypeKind} {id : Str} :
    id ∈ (kind.searchedBefore.flatMap templates.declarations).map SclType.getId ↔
      ∃ earlier ∈ kind.searchedBefore, id ∈ templates.declaredIds earlier := by
  rw [List.map_flatMap, List.mem_flatMap]
  rfl

variable {rt : Runtime} {declared templates : DataTypeTemplates}

theorem map_eq_of_mapM {α β γ : Type} {f : α → Outcome β} {g : α → γ} {g' : β → γ}
    (hf : ∀ a b, f a = .ok b → g' b = g a) {as : List α} {bs : List β}
    (h : as.mapM f = .ok bs) : bs.map g' = as.map g := by
  have hall := (mapM_eq_ok.mp h).imp hf
  clear h
  induction hall with
  | nil => rfl
  | cons hhead _ ih => rw [List.map_cons, List.map_cons, hhead, ih]

theorem parseTypeDeclarations_merged (h : parseTypeDeclarations rt declared = .ok templates) :
    templates.typeDeclarations = templates.declarations .dataAttributeType ++
      templates.declarations .dataObjectType ++ templates.declarations .enumerationType ++
      templates.declarations .logicalNodeType := by
  obtain ⟨attributeTypes, hattributeTypes, h⟩ := bind_eq_ok.mp h
  obtain ⟨objectTypes, hobjectTypes, h⟩ := bind_eq_ok.mp h
  obtain rfl := Except.ok.inj h
  rfl

/-- A kind with what stands before and after it. -/
theorem parseTypeDeclarations_split (h : parseTypeDeclarations rt declared = .ok templates)
    (kind : TypeKind) :
    templates.typeDeclarations =
      kind.searchedBefore.flatMap templates.declarations ++ templates.declarations kind ++
        kind.searchedAfter.flatMap templates.declarations := by
  rw [parseTypeDeclarations_merged h]
  cases kind <;> simp [TypeKind.searchedBefore, TypeKind.searchedAfter]

/-- Parsing the definitions of a type keeps its id. -/
theorem declaredIds_parseTypeDeclarations
    (h : parseTypeDeclarations rt declared = .ok templates) (kind : TypeKind) :
    templates.declaredIds kind = declared.declaredIds kind := by
  obtain ⟨attributeTypes, hattributeTypes, h⟩ := bind_eq_ok.mp h
  obtain ⟨objectTypes, hobjectTypes, h⟩ := bind_eq_ok.mp h
  obtain rfl := Except.ok.inj h
  unfold DataTypeTemplates.declaredIds DataTypeTemplates.declarations
  cases kind with
  | dataAttributeType =>
      simp only [List.map_map]
      refine map_eq_of_mapM (fun a b hb => ?_) hattributeTypes
      obtain ⟨definitions, -, hb⟩ := bind_eq_ok.mp hb
      obtain rfl := Except.ok.inj hb
      rfl
  | dataObjectType =>
      simp only [List.map_map]
      refine map_eq_of_mapM (fun a b hb => ?_) hobjectTypes
      obtain ⟨definitions, -, hb⟩ := bind_eq_ok.mp hb
      obtain rfl := Except.ok.inj hb
      rfl
  | enumerationType => rfl
  | logicalNodeType => rfl

/-- A declaration is found under its id exactly when no kind in front of its own has
the id. -/
theorem lookupType_eq_some_iff (h : parseTypeDeclarations rt declared = .ok templates)
    (hunique : ∀ kind, (declared.declaredIds kind).Nodup) {t : SclType}
    (ht : t ∈ templates.declarations t.kind) :
    templates.lookupType t.getId = some t ↔
      ∀ earlier ∈ t.kind.searchedBefore, t.getId ∉ declared.declaredIds earlier := by
  have hnodup : ((templates.declarations t.kind).map SclType.getId).Nodup := by
    have hids := declaredIds_parseTypeDeclarations h t.kind
    rw [DataTypeTemplates.declaredIds] at hids
    rw [hids]
    exact hunique t.kind
  rw [DataTypeTemplates.lookupType, parseTypeDeclarations_split h t.kind,
    find?_key_append_iff SclType.getId _ hnodup ht (not_mem_searchedBefore ht),
    mem_searchedBefore_ids]
  simp only [declaredIds_parseTypeDeclarations h, not_exists, not_and]

/-! ## The call sites -/

/-- A reference from the document: the `lnType` of a logical node, the type of a `DO` or
`SDO`, and those of structured and of enumerated `DA` and `BDA` elements. -/
inductive TypeReference
  | logicalNode (ln : LogicalNode)
  | dataObject (definition : DataObjectDefinition)
  | constructed (d : DataAttributeDefinition) (h : d.attributeType = .constructed)
  | enumerated (d : DataAttributeDefinition) (h : d.attributeType = .enumerated)

def TypeReference.typeId : TypeReference → Str
  | .logicalNode ln => ln.lnType
  | .dataObject definition => definition.type
  | .constructed d _ => d.type
  | .enumerated d _ => d.type

/-- The kind that the call site wants. -/
def TypeReference.kind : TypeReference → TypeKind
  | .logicalNode _ => .logicalNodeType
  | .dataObject _ => .dataObjectType
  | .constructed _ _ => .dataAttributeType
  | .enumerated _ _ => .enumerationType

/-- What becomes of the reference is made of the declaration `t`. -/
def TypeReference.ExpandsTo (rt : Runtime) (templates : DataTypeTemplates) :
    TypeReference → SclType → Prop
  | .logicalNode ln, .logicalNodeType t => ∀ fuel,
      (resolveLogicalNode templates ln >>= parseLogicalNode rt templates fuel) = (do
        let created ← t.dataObjectDefinitions.mapM (newDataObject templates fuel)
        completeLogicalNode rt { ln with sclType := some (.logicalNodeType t) } created)
  | .dataObject definition, .dataObjectType t => ∀ fuel,
      newDataObject templates (fuel + 1) definition = (do
        let dataAttributes ← t.dataAttributes.foldlM
          (createDataAttribute (newDataAttribute templates fuel)) []
        let subDataObjects ← t.subDataObjects.mapM (newDataObject templates fuel)
        pure {
          name := definition.name
          count := definition.count
          trans := definition.transient
          dataAttributes := dataAttributes
          subDataObjects := subDataObjects })
  | .constructed d _, .dataAttributeType t => ∀ fuel fc parent,
      newDataAttribute templates (fuel + 1) d fc parent = (do
        let subDataAttributes ← t.subDataAttributes.mapM fun member =>
          newDataAttribute templates fuel member (attributeFc d.fc fc)
            (.dataAttribute (attributeTriggerOptions d parent))
        pure { attributeOfDefinition d fc parent with
          sclType := some (.dataAttributeType t)
          subDataAttributes := subDataAttributes })
  | .enumerated d _, .enumerationType t => ∀ fuel fc parent,
      newDataAttribute templates (fuel + 1) d fc parent =
        .ok { attributeOfDefinition d fc parent with sclType := some (.enumerationType t) }
  | _, _ => False

/-- The reference is never accepted; where it is an error, it is that of a wrong type. -/
def TypeReference.Rejected (rt : Runtime) (templates : DataTypeTemplates) :
    TypeReference → Prop
  | .logicalNode ln => ∀ fuel,
      (resolveLogicalNode templates ln >>= parseLogicalNode rt templates fuel) =
        .error (.error (lit "wrong type " ++ ln.lnType ++ lit " for logical node"))
  | .dataObject definition => ∀ fuel node, newDataObject templates fuel definition ≠ .ok node
  | .constructed d _ => ∀ fuel fc parent,
      newDataAttribute templates (fuel + 1) d fc parent =
        .error (.error (lit "wrong type definition for constructed data attribute"))
  | .enumerated d _ => ∀ fuel fc parent,
      newDataAttribute templates (fuel + 1) d fc parent =
        .error (.error (lit "wrong type definition for enumerated data attribute"))

theorem newDataAttribute_of_constructed {d : DataAttributeDefinition}
    (h : d.attributeType = .constructed) (fuel : ℕ) (fc : Str) (parent : ParentNode) :
    newDataAttribute templates (fuel + 1) d fc parent =
      createConstructedAttribute (newDataAttribute templates fuel) templates
        (attributeOfDefinition d fc parent) := by
  rw [newDataAttribute]
  exact if_pos h

theorem newDataAttribute_of_enumerated {d : DataAttributeDefinition}
    (h : d.attributeType = .enumerated) (fuel : ℕ) (fc : Str) (parent : ParentNode) :
    newDataAttribute templates (fuel + 1) d fc parent =
      createEnumeratedAttribute templates (attributeOfDefinition d fc parent) := by
  have hconstructed : (attributeOfDefinition d fc parent).attributeType ≠ .constructed := by
    change d.attributeType ≠ .constructed
    rw [h]
    decide
  rw [newDataAttribute, if_neg hconstructed]
  exact if_pos h

theorem resolveLogicalNode_of_lookup {ln : LogicalNode} {t : SclType}
    (h : templates.lookupType ln.lnType = some t) :
    resolveLogicalNode templates ln = .ok { ln with sclType := some t } := by
  rw [resolveLogicalNode, h]

/-- Every call site expands the declaration that the search returns, if it is of the kind
the site wants. -/
theorem TypeReference.expandsTo (r : TypeReference) {t : SclType} (hkind : t.kind = r.kind)
    (hlookup : templates.lookupType r.typeId = some t) : r.ExpandsTo rt templates t := by
  cases r with
  | logicalNode ln =>
      cases t <;> cases hkind
      intro fuel
      rw [resolveLogicalNode_of_lookup hlookup]
      rfl
  | dataObject definition =>
      cases t <;> cases hkind
      intro fuel
      change templates.lookupType definition.type = _ at hlookup
      rw [newDataObject, hlookup]
      rfl
  | constructed d h =>
      cases t <;> cases hkind
      intro fuel fc parent
      change templates.lookupType (attributeOfDefinition d fc parent).definition.type = _
        at hlookup
      rw [newDataAttribute_of_constructed h, createConstructedAttribute, hlookup]
      rfl
  | enumerated d h =>
      cases t <;> cases hkind
      intro fuel fc parent
      change templates.lookupType (attributeOfDefinition d fc parent).definition.type = _
        at hlookup
      rw [newDataAttribute_of_enumerated h, createEnumeratedAttribute, hlookup]

/-- None of them accepts a declaration of another kind. -/
theorem TypeReference.rejected (r : TypeReference) {t : SclType} (hkind : t.kind ≠ r.kind)
    (hlookup : templates.lookupType r.typeId = some t) : r.Rejected rt templates := by
  cases r with
  | logicalNode ln =>
      intro fuel
      rw [resolveLogicalNode_of_lookup hlookup]
      cases t with
      | logicalNodeType t => exact absurd rfl hkind
      | _ => rfl
  | dataObject definition =>
      intro fuel node hnode
      change templates.lookupType definition.type = _ at hlookup
      cases fuel with
      | zero => cases hnode
      | succ fuel =>
          rw [newDataObject, hlookup] at hnode
          obtain ⟨attributes, -, hnode⟩ := bind_eq_ok.mp hnode
          obtain ⟨objects, hobjects, -⟩ := bind_eq_ok.mp hnode
          cases t with
          | dataObjectType t => exact hkind rfl
          | _ => cases hobjects
  | constructed d h =>
      intro fuel fc parent
      change templates.lookupType (attributeOfDefinition d fc parent).definition.type = _
        at hlookup
      rw [newDataAttribute_of_constructed h, createConstructedAttribute, hlookup]
      cases t with
      | dataAttributeType t => exact absurd rfl hkind
      | _ => rfl
  | enumerated d h =>
      intro fuel fc parent
      change templates.lookupType (attributeOfDefinition d fc parent).definition.type = _
        at hlookup
      rw [newDataAttribute_of_enumerated h, createEnumeratedAttribute, hlookup]
      cases t with
      | enumerationType t => exact absurd rfl hkind
      | _ => rfl

/-! ## References within their kind -/

/-- The reference names the declaration in the list of its kind. -/
structure TypeReference.Names (r : TypeReference) (templates : DataTypeTemplates)
    (t : SclType) : Prop where
  declared : t ∈ templates.declarations r.kind
  id : t.getId = r.typeId

/-- The search returns the declaration, and the call site expands it. -/
structure TypeReference.ResolvesTo (r : TypeReference) (rt : Runtime)
    (templates : DataTypeTemplates) (t : SclType) : Prop where
  found : templates.lookupType r.typeId = some t
  expands : r.ExpandsTo rt templates t

/-- Another kind in front declares the id. -/
def TypeReference.Shadowed (r : TypeReference) (declared : DataTypeTemplates) : Prop :=
  ∃ earlier ∈ r.kind.searchedBefore, r.typeId ∈ declared.declaredIds earlier

/-- A reference resolves to the declaration it names exactly when no kind that is searched
earlier declares the id too. -/
theorem typeReference_resolves_iff (h : parseTypeDeclarations rt declared = .ok templates)
    (hunique : ∀ kind, (declared.declaredIds kind).Nodup) {r : TypeReference} {t : SclType}
    (hnames : r.Names templates t) :
    r.ResolvesTo rt templates t ↔ ¬ r.Shadowed declared := by
  have hkind : t.kind = r.kind := kind_of_mem_declarations hnames.declared
  have hlookup := lookupType_eq_some_iff h hunique (hkind ▸ hnames.declared)
  rw [hnames.id, hkind] at hlookup
  constructor
  · rintro hresolves ⟨earlier, hearlier, hid⟩
    exact hlookup.mp hresolves.found earlier hearlier hid
  · intro hshadowed
    have hfound := hlookup.mpr fun earlier hearlier hid =>
      hshadowed ⟨earlier, hearlier, hid⟩
    exact ⟨hfound, r.expandsTo hkind hfound⟩

/-- A shadowed reference is never accepted. -/
theorem typeReference_rejected_of_shadowed
    (h : parseTypeDeclarations rt declared = .ok templates) {r : TypeReference}
    (hshadowed : r.Shadowed declared) : r.Rejected rt templates := by
  have hmem : r.typeId ∈ (r.kind.searchedBefore.flatMap templates.declarations).map
      SclType.getId := by
    rw [mem_searchedBefore_ids]
    simp only [declaredIds_parseTypeDeclarations h]
    exact hshadowed
  obtain ⟨s, hs, hid⟩ := List.mem_map.mp hmem
  have hsome : ((r.kind.searchedBefore.flatMap templates.declarations).find? fun x =>
      x.getId = r.typeId).isSome := List.find?_isSome.mpr ⟨s, hs, by simpa using hid⟩
  obtain ⟨t, ht⟩ := Option.isSome_iff_exists.mp hsome
  refine r.rejected (t := t) (fun hkind => ?_) ?_
  · obtain ⟨earlier, hearlier, hdeclared⟩ := List.mem_flatMap.mp (List.mem_of_find?_eq_some ht)
    rw [← hkind, kind_of_mem_declarations hdeclared] at hearlier
    cases earlier <;> simp [TypeKind.searchedBefore] at hearlier
  · rw [DataTypeTemplates.lookupType, parseTypeDeclarations_split h r.kind, List.append_assoc,
      List.find?_append, ht, Option.some_or]

/-- A data object type and a data attribute type of one id. -/
def vectorTemplates : DataTypeTemplates where
  logicalNodeTypes := [{
    id := lit "LN0T"
    dataObjectDefinitions := [{ name := lit "Vec", type := lit "Vector" }] }]
  dataObjectTypes := [{
    id := lit "Vector"
    dataAttributes := [{ name := lit "q", fc := lit "MX", bType := lit "Quality" }] }]
  dataAttributeTypes := [{
    id := lit "Vector"
    subDataAttributes := [{ name := lit "mag", bType := lit "INT32" }] }]

def vectorReference : TypeReference :=
  .dataObject { name := lit "Vec", type := lit "Vector" }

def vectorDeclaration : SclType :=
  .dataObjectType {
    id := lit "Vector"
    dataAttributes := [{
      name := lit "q"
      fc := lit "MX"
      bType := lit "Quality"
      attributeType := .quality
      triggerOptions := some {} }] }

def vectorDocument : SCL :=
  documentOf vectorTemplates [{
    inst := lit "LD1"
    ln0 := some { lnClass := lit "LLN0", lnType := lit "LN0T" } }]

theorem parseTypeDeclarations_vectorTemplates :
    (parseTypeDeclarations plainRuntime vectorTemplates).isOk = true := by
  decide +kernel

theorem declaredIds_vectorTemplates_nodup (kind : TypeKind) :
    (vectorTemplates.declaredIds kind).Nodup := by
  cases kind <;> decide +kernel

theorem vectorReference_names :
    vectorReference.Names (resultOf _ parseTypeDeclarations_vectorTemplates)
      vectorDeclaration :=
  ⟨by decide +kernel, rfl⟩

theorem typeReference_resolves_iff_vectorTemplates :
    vectorReference.ResolvesTo plainRuntime
        (resultOf _ parseTypeDeclarations_vectorTemplates) vectorDeclaration ↔
      ¬ vectorReference.Shadowed vectorTemplates :=
  typeReference_resolves_iff (eq_ok_resultOf _ parseTypeDeclarations_vectorTemplates)
    declaredIds_vectorTemplates_nodup vectorReference_names

theorem vectorReference_found_elsewhere :
    (resultOf _ parseTypeDeclarations_vectorTemplates).lookupType vectorReference.typeId ≠
      some vectorDeclaration := by
  decide +kernel

/-- The reference finds the attribute type, and the parser panics. -/
theorem vectorReference_not_resolved :
    (∀ kind, (vectorTemplates.declaredIds kind).Nodup) ∧
      vectorReference.Names (resultOf _ parseTypeDeclarations_vectorTemplates)
        vectorDeclaration ∧
      ¬ vectorReference.ResolvesTo plainRuntime
        (resultOf _ parseTypeDeclarations_vectorTemplates) vectorDeclaration ∧
      parse plainRuntime 4 vectorDocument = .error (.panic .typeAssertion) :=
  ⟨declaredIds_vectorTemplates_nodup, vectorReference_names,
    fun hresolves => vectorReference_found_elsewhere hresolves.found, by rfl⟩

end Iec61850.Scl
