import Iec61850.ModelForest

/-!
# Attribute trees unfold their type

`NewDataAttribute` follows the type of a structured definition into the member
definitions of a `DAType`, and hands its constraint and its trigger options down.
What the members carry themselves is overridden at every depth, so the twin of
constraint SG differs from the setting it belongs to in its constraint only.
-/

namespace Iec61850.Scl

open Go

variable {templates : DataTypeTemplates}

/-! ## The unfolding of a definition -/

/-- The `DAType` that a definition refers to. -/
def DataTypeTemplates.referencedType (templates : DataTypeTemplates)
    (d : DataAttributeDefinition) : Option DataAttributeType :=
  match templates.lookupType d.type with
  | some (.dataAttributeType t) => some t
  | _ => none

/-- The definitions one level below: the `BDA` elements of the type, for a structure. -/
def DataTypeTemplates.memberDefinitions (templates : DataTypeTemplates)
    (d : DataAttributeDefinition) : List DataAttributeDefinition :=
  if d.attributeType = .constructed then
    match templates.referencedType d with
    | some t => t.subDataAttributes
    | none => []
  else []

/-- What an attribute takes from its definition, and what from the root. -/
structure DataAttribute.Instantiates (da : DataAttribute) (d : DataAttributeDefinition)
    (fc : Str) (triggerOptions : Option TriggerOptions) : Prop where
  name : da.name = d.name
  count : da.count = d.count
  attributeType : da.attributeType = d.attributeType
  fc : da.fc = fc
  triggerOptions : da.triggerOptions = triggerOptions

/-- The tree below `da` is the unfolding of `d`, with one constraint and one set of
trigger options at every depth. -/
inductive Unfolds (templates : DataTypeTemplates) (fc : Str)
    (triggerOptions : Option TriggerOptions) :
    DataAttributeDefinition → DataAttribute → Prop
  | intro {d : DataAttributeDefinition} {da : DataAttribute}
      (hself : da.Instantiates d fc triggerOptions)
      (htype : d.attributeType = .constructed → (templates.referencedType d).isSome)
      (hlength : (templates.memberDefinitions d).length = da.subDataAttributes.length)
      (hmembers : ∀ pair ∈ (templates.memberDefinitions d).zip da.subDataAttributes,
        Unfolds templates fc triggerOptions pair.1 pair.2) :
      Unfolds templates fc triggerOptions d da

theorem Unfolds.of_members {fc : Str} {triggerOptions : Option TriggerOptions}
    {d : DataAttributeDefinition} {da : DataAttribute}
    (hself : da.Instantiates d fc triggerOptions)
    (htype : d.attributeType = .constructed → (templates.referencedType d).isSome)
    (hmembers : List.Forall₂ (Unfolds templates fc triggerOptions)
      (templates.memberDefinitions d) da.subDataAttributes) :
    Unfolds templates fc triggerOptions d da := by
  obtain ⟨hlength, hzip⟩ := List.forall₂_iff_zip.mp hmembers
  exact .intro hself htype hlength fun _ hpair => hzip hpair

/-- The members stand in the order of the definitions, one for each. -/
theorem Unfolds.members {fc : Str} {triggerOptions : Option TriggerOptions}
    {d : DataAttributeDefinition} {da : DataAttribute}
    (h : Unfolds templates fc triggerOptions d da) :
    List.Forall₂ (Unfolds templates fc triggerOptions)
      (templates.memberDefinitions d) da.subDataAttributes := by
  cases h with
  | intro _ _ hlength hmembers =>
      exact List.forall₂_iff_zip.mpr ⟨hlength, fun hpair => hmembers _ hpair⟩

theorem Unfolds.of_leaf {d : DataAttributeDefinition} {da : DataAttribute}
    (hbasic : d.attributeType ≠ .constructed) {fc : Str}
    {triggerOptions : Option TriggerOptions} (hself : da.Instantiates d fc triggerOptions)
    (hsubs : da.subDataAttributes = []) : Unfolds templates fc triggerOptions d da := by
  refine .of_members hself (fun h => absurd h hbasic) ?_
  rw [hsubs, DataTypeTemplates.memberDefinitions, if_neg hbasic]
  exact .nil

theorem instantiates_attributeOfDefinition (d : DataAttributeDefinition) (fc : Str)
    (parent : ParentNode) :
    (attributeOfDefinition d fc parent).Instantiates d (attributeFc d.fc fc)
      (attributeTriggerOptions d parent) :=
  ⟨rfl, rfl, rfl, rfl, rfl⟩

/-- A constraint that is handed down is not overridden by the definition. -/
theorem attributeFc_of_ne_nil (definitionFc : Str) {fc : Str} (hfc : fc ≠ []) :
    attributeFc definitionFc fc = fc := by
  rw [attributeFc, if_neg hfc]

/-- The builder unfolds the definition. -/
theorem unfolds_newDataAttribute {n : ℕ} {d : DataAttributeDefinition} {fc : Str}
    {parent : ParentNode} {da : DataAttribute} (hfc : attributeFc d.fc fc ≠ [])
    (h : newDataAttribute templates n d fc parent = .ok da) :
    Unfolds templates (attributeFc d.fc fc) (attributeTriggerOptions d parent) d da := by
  induction n generalizing d fc parent da with
  | zero => cases h
  | succ n ih =>
      have hself := instantiates_attributeOfDefinition d fc parent
      cases attributeCreated_of_ok h with
      | @constructed t subs hconstructed hlookup hsubs =>
          have htype : templates.referencedType d = some t := by
            rw [DataTypeTemplates.referencedType, hlookup]
          refine .of_members ⟨hself.name, hself.count, hself.attributeType, hself.fc,
            hself.triggerOptions⟩ (fun _ => by rw [htype]; rfl) ?_
          rw [DataTypeTemplates.memberDefinitions, if_pos hconstructed, htype]
          -- every member is handed the constraint and the trigger options of the root
          refine (mapM_eq_ok.mp hsubs).imp fun member sub hsub => ?_
          have hmember := attributeFc_of_ne_nil member.fc hfc
          have hne : attributeFc member.fc (attributeFc d.fc fc) ≠ [] := by
            rw [hmember]
            exact hfc
          have hunfolds := ih hne hsub
          rw [hmember] at hunfolds
          exact hunfolds
      | enumerated henumerated hlookup =>
          have hbasic : d.attributeType ≠ .constructed := by
            rw [henumerated]
            decide
          exact .of_leaf hbasic ⟨hself.name, hself.count, hself.attributeType, hself.fc,
            hself.triggerOptions⟩ rfl
      | basic hconstructed henumerated => exact .of_leaf hconstructed hself rfl

/-! ## Twins -/

/-- The tree with another constraint at every depth. -/
def attributesWithFc (fc : Str) : List DataAttribute → List DataAttribute
  | [] => []
  | da :: rest =>
      have := da.sizeOf_subDataAttributes
      { da with fc := fc, subDataAttributes := attributesWithFc fc da.subDataAttributes } ::
        attributesWithFc fc rest
  termination_by das => sizeOf das

def DataAttribute.withFc (fc : Str) (da : DataAttribute) : DataAttribute :=
  { da with fc := fc, subDataAttributes := attributesWithFc fc da.subDataAttributes }

theorem attributesWithFc_eq_map (fc : Str) (das : List DataAttribute) :
    attributesWithFc fc das = das.map (DataAttribute.withFc fc) := by
  induction das with
  | nil => rw [attributesWithFc, List.map_nil]
  | cons da rest ih => rw [attributesWithFc, ih, List.map_cons, DataAttribute.withFc]

theorem mapM_of_map {α β γ : Type} {f : α → Outcome β} {g : α → Outcome γ} {t : γ → β}
    {xs : List α} (h : ∀ x ∈ xs, f x = (g x).map t) :
    xs.mapM f = (xs.mapM g).map (List.map t) := by
  induction xs with
  | nil => rfl
  | cons x xs ih =>
      rw [List.mapM_cons, List.mapM_cons, h x List.mem_cons_self,
        ih fun y hy => h y (List.mem_cons_of_mem x hy)]
      cases g x with
      | error stop => rfl
      | ok c => cases xs.mapM g <;> rfl

variable {fc : Str}

theorem withFc_members (da : DataAttribute) (sclType : Option SclType)
    (subs : List DataAttribute) :
    ({ da with sclType := sclType, subDataAttributes := subs } : DataAttribute).withFc fc =
      { da.withFc fc with
        sclType := sclType
        subDataAttributes := subs.map (DataAttribute.withFc fc) } := by
  rw [DataAttribute.withFc, attributesWithFc_eq_map]
  rfl

theorem createEnumeratedAttribute_withFc (da : DataAttribute) :
    createEnumeratedAttribute templates (da.withFc fc) =
      (createEnumeratedAttribute templates da).map (DataAttribute.withFc fc) := by
  rw [createEnumeratedAttribute, createEnumeratedAttribute,
    show (da.withFc fc).definition = da.definition from rfl]
  split <;> rfl

theorem createConstructedAttribute_withFc
    {new : DataAttributeDefinition → Str → ParentNode → Outcome DataAttribute}
    (hnew : ∀ d fc' parent, new d fc parent = (new d fc' parent).map (DataAttribute.withFc fc))
    (da : DataAttribute) :
    createConstructedAttribute new templates (da.withFc fc) =
      (createConstructedAttribute new templates da).map (DataAttribute.withFc fc) := by
  rw [createConstructedAttribute, createConstructedAttribute,
    show (da.withFc fc).definition = da.definition from rfl]
  split
  next => rfl
  next t _ =>
    have hmembers : (t.subDataAttributes.mapM fun member =>
          new member fc (.dataAttribute da.triggerOptions)) =
        (t.subDataAttributes.mapM fun member =>
          new member da.fc (.dataAttribute da.triggerOptions)).map
          (List.map (DataAttribute.withFc fc)) :=
      mapM_of_map fun member _ => hnew member da.fc _
    rw [show (da.withFc fc).fc = fc from rfl,
      show (da.withFc fc).triggerOptions = da.triggerOptions from rfl, hmembers]
    cases t.subDataAttributes.mapM fun member =>
        new member da.fc (.dataAttribute da.triggerOptions) with
    | error stop => rfl
    | ok subs => exact congrArg Except.ok (withFc_members da _ subs).symm
  next => rfl

theorem attributeOfDefinition_withFc (hfc : fc ≠ []) (d : DataAttributeDefinition)
    (fc' : Str) (parent : ParentNode) :
    attributeOfDefinition d fc parent = (attributeOfDefinition d fc' parent).withFc fc := by
  rw [DataAttribute.withFc, attributesWithFc_eq_map]
  unfold attributeOfDefinition
  rw [attributeFc_of_ne_nil d.fc hfc]
  rfl

/-- A constraint that is handed down decides nothing but the constraint of the tree. -/
theorem newDataAttribute_withFc {n : ℕ} (hfc : fc ≠ []) (d : DataAttributeDefinition)
    (fc' : Str) (parent : ParentNode) :
    newDataAttribute templates n d fc parent =
      (newDataAttribute templates n d fc' parent).map (DataAttribute.withFc fc) := by
  induction n generalizing d fc' parent with
  | zero => rfl
  | succ n ih =>
      rw [newDataAttribute, newDataAttribute, attributeOfDefinition_withFc hfc d fc' parent,
        show ((attributeOfDefinition d fc' parent).withFc fc).attributeType =
          (attributeOfDefinition d fc' parent).attributeType from rfl]
      split
      · exact createConstructedAttribute_withFc ih _
      · split
        · exact createEnumeratedAttribute_withFc _
        · rfl

/-! ## The attributes of a `DA` element -/

/-- The calls that `createDataAttributes` makes for a definition unfold it, the one for
the twin with constraint SG, and the twin is the setting with the other constraint. -/
structure DefinitionUnfolded (templates : DataTypeTemplates) (n : ℕ)
    (d : DataAttributeDefinition) : Prop where
  plain : ∀ da, newDataAttribute templates n d [] .dataObject = .ok da →
    Unfolds templates d.fc d.triggerOptions d da
  twin : ∀ twin, newDataAttribute templates n d (lit "SG") .dataObject = .ok twin →
    Unfolds templates (lit "SG") d.triggerOptions d twin
  alike : newDataAttribute templates n d (lit "SG") .dataObject =
    (newDataAttribute templates n d [] .dataObject).map (DataAttribute.withFc (lit "SG"))

theorem definition_unfolded {d : DataAttributeDefinition} (hfc : d.fc ≠ []) (n : ℕ) :
    DefinitionUnfolded templates n d := by
  have hsg : lit "SG" ≠ [] := by decide
  have hplain : attributeFc d.fc [] = d.fc := by rw [attributeFc, if_pos rfl]
  have htwin : attributeFc d.fc (lit "SG") = lit "SG" := attributeFc_of_ne_nil d.fc hsg
  refine ⟨fun da hda => ?_, fun twin htwinOk => ?_, newDataAttribute_withFc hsg d [] _⟩
  · have hunfolds := unfolds_newDataAttribute (by rw [hplain]; exact hfc) hda
    rw [hplain] at hunfolds
    exact hunfolds
  · have hunfolds := unfolds_newDataAttribute (by rw [htwin]; exact hsg) htwinOk
    rw [htwin] at hunfolds
    exact hunfolds

/-- A magnitude whose members carry a constraint and triggers of their own. -/
def magnitudeTemplates : DataTypeTemplates where
  typeDeclarations := [
    .dataAttributeType {
      id := lit "Magnitude"
      subDataAttributes := [
        { name := lit "scaled", bType := lit "Struct", type := lit "Number",
          attributeType := .constructed },
        { name := lit "i", fc := lit "ST", bType := lit "INT32", attributeType := .int32,
          triggerOptions := some { qchg := true } }] },
    .dataAttributeType {
      id := lit "Number"
      subDataAttributes := [
        { name := lit "f", bType := lit "FLOAT32", attributeType := .float32 }] }]

def magnitudeSetting : DataAttributeDefinition where
  name := lit "setMag"
  fc := lit "SE"
  type := lit "Magnitude"
  bType := lit "Struct"
  attributeType := .constructed
  triggerOptions := some { dchg := true }

theorem definition_unfolded_magnitudeSetting :
    (newDataAttribute magnitudeTemplates 3 magnitudeSetting [] .dataObject).isOk = true ∧
      DefinitionUnfolded magnitudeTemplates 3 magnitudeSetting :=
  ⟨by decide +kernel, definition_unfolded (by decide) 3⟩

end Iec61850.Scl
