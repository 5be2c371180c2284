import Iec61850.GoFuel
import Iec61850.ModelValues

/-!
# Instantiation of the data type templates

`NewDataObject` and `NewDataAttribute` expand the definitions of a logical
node type into trees of data objects and data attributes.  Each call follows
a type id into the declarations, so the recursion is bounded by fuel and not
by the structure of an argument.  The parent node of a new attribute is only
asked for its trigger options, and the one of a new data object for nothing.
-/

namespace Iec61850.Scl

open Go

inductive ParentNode
  | dataObject
  | dataAttribute (triggerOptions : Option TriggerOptions)

/-! ## Data attributes -/

/-- The constraint handed down by the parent overrides the one of the
definition, which overrides the empty one. -/
def attributeFc (definitionFc fc : Str) : Str :=
  if fc = [] then definitionFc else fc

def attributeTriggerOptions (daDefinition : DataAttributeDefinition) :
    ParentNode → Option TriggerOptions
  | .dataObject => daDefinition.triggerOptions
  | .dataAttribute triggerOptions => triggerOptions

def createEnumeratedAttribute (templates : DataTypeTemplates) (d : DataAttribute) :
    Outcome DataAttribute :=
  match templates.lookupType d.definition.type with
  | none =>
      .error (.error (lit "missing type definition for enumerated data attribute: " ++
        d.definition.type))
  | some (.enumerationType e) => .ok { d with sclType := some (.enumerationType e) }
  | some _ => .error (.error (lit "wrong type definition for enumerated data attribute"))

def createConstructedAttribute
    (newDataAttribute : DataAttributeDefinition → Str → ParentNode → Outcome DataAttribute)
    (templates : DataTypeTemplates) (d : DataAttribute) : Outcome DataAttribute :=
  match templates.lookupType d.definition.type with
  | none =>
      .error (.error (lit "missing type definition for constructed data attribute: " ++
        d.definition.type))
  | some (.dataAttributeType t) => do
      let subDataAttributes ← t.subDataAttributes.mapM fun daDef =>
        newDataAttribute daDef d.fc (.dataAttribute d.triggerOptions)
      pure { d with
        sclType := some (.dataAttributeType t)
        subDataAttributes := subDataAttributes }
  | some _ => .error (.error (lit "wrong type definition for constructed data attribute"))

/-- The attribute before its type is looked up. -/
def attributeOfDefinition (daDefinition : DataAttributeDefinition) (fc : Str)
    (parent : ParentNode) : DataAttribute where
  name := daDefinition.name
  fc := attributeFc daDefinition.fc fc
  attributeType := daDefinition.attributeType
  count := daDefinition.count
  triggerOptions := attributeTriggerOptions daDefinition parent
  definition := daDefinition

def newDataAttribute (templates : DataTypeTemplates) :
    ℕ → DataAttributeDefinition → Str → ParentNode → Outcome DataAttribute
  | 0, _, _, _ => .error .outOfFuel
  | fuel + 1, daDefinition, fc, parent =>
      let da := attributeOfDefinition daDefinition fc parent
      if da.attributeType = .constructed then
        createConstructedAttribute (newDataAttribute templates fuel) templates da
      else if da.attributeType = .enumerated then
        createEnumeratedAttribute templates da
      else .ok da

/-- What a call that succeeds has built. -/
inductive AttributeCreated (templates : DataTypeTemplates) (fuel : ℕ)
    (d : DataAttributeDefinition) (fc : Str) (parent : ParentNode) : DataAttribute → Prop
  | constructed {t : DataAttributeType} {subs : List DataAttribute}
      (htype : d.attributeType = .constructed)
      (hlookup : templates.lookupType d.type = some (.dataAttributeType t))
      (hsubs : (t.subDataAttributes.mapM fun daDef =>
        newDataAttribute templates fuel daDef (attributeFc d.fc fc)
          (.dataAttribute (attributeTriggerOptions d parent))) = .ok subs) :
      AttributeCreated templates fuel d fc parent { attributeOfDefinition d fc parent with
        sclType := some (.dataAttributeType t)
        subDataAttributes := subs }
  | enumerated {e : EnumerationType} (htype : d.attributeType = .enumerated)
      (hlookup : templates.lookupType d.type = some (.enumerationType e)) :
      AttributeCreated templates fuel d fc parent { attributeOfDefinition d fc parent with
        sclType := some (.enumerationType e) }
  | basic (hconstructed : d.attributeType ≠ .constructed)
      (henumerated : d.attributeType ≠ .enumerated) :
      AttributeCreated templates fuel d fc parent (attributeOfDefinition d fc parent)

theorem attributeCreated_of_ok {templates : DataTypeTemplates} {fuel : ℕ}
    {d : DataAttributeDefinition} {fc : Str} {parent : ParentNode} {da : DataAttribute}
    (h : newDataAttribute templates (fuel + 1) d fc parent = .ok da) :
    AttributeCreated templates fuel d fc parent da := by
  simp only [newDataAttribute] at h
  split at h
  next hconstructed =>
    unfold createConstructedAttribute at h
    split at h
    next => cases h
    next t hlookup =>
      obtain ⟨subs, hsubs, h⟩ := bind_eq_ok.mp h
      obtain rfl := Except.ok.inj h
      exact .constructed hconstructed hlookup hsubs
    next => cases h
  next hconstructed =>
    split at h
    next henumerated =>
      unfold createEnumeratedAttribute at h
      split at h
      next => cases h
      next e hlookup =>
        obtain rfl := Except.ok.inj h
        exact .enumerated henumerated hlookup
      next => cases h
    next henumerated =>
      obtain rfl := Except.ok.inj h
      exact .basic hconstructed henumerated

/-! ## Data objects -/

/-- An attribute of constraint SE takes the place of the first attribute of
the same name and constraint SP. -/
def replaceSetpoint (added : DataAttribute) :
    List DataAttribute → Option (List DataAttribute)
  | [] => none
  | da :: rest =>
      if da.fc ≠ lit "SG" ∧ da.name = added.name ∧ da.fc = lit "SP" ∧
          added.fc = lit "SE" then
        some (added :: rest)
      else (replaceSetpoint added rest).map (da :: ·)

def addDataAttribute (attributes : List DataAttribute) (added : DataAttribute) :
    List DataAttribute :=
  match replaceSetpoint added attributes with
  | some replaced => replaced
  | none => attributes ++ [added]

/-- One iteration of the loop of `createDataAttributes`: a definition of
constraint SE also yields a twin of constraint SG. -/
def createDataAttribute
    (newDataAttribute : DataAttributeDefinition → Str → ParentNode → Outcome DataAttribute)
    (attributes : List DataAttribute) (daDefinition : DataAttributeDefinition) :
    Outcome (List DataAttribute) :=
  if daDefinition.fc = lit "SE" then do
    let twin ← newDataAttribute daDefinition (lit "SG") .dataObject
    let added ← newDataAttribute daDefinition [] .dataObject
    pure (addDataAttribute (attributes ++ [twin]) added)
  else do
    let added ← newDataAttribute daDefinition [] .dataObject
    pure (addDataAttribute attributes added)

def SclType.daDefinitions : SclType → List DataAttributeDefinition
  | .dataObjectType t => t.dataAttributes
  | .dataAttributeType t => t.subDataAttributes
  | _ => []

def createDataAttributes
    (newDataAttribute : DataAttributeDefinition → Str → ParentNode → Outcome DataAttribute)
    (sclType : SclType) : Outcome (List DataAttribute) :=
  sclType.daDefinitions.foldlM (createDataAttribute newDataAttribute) []

def createSubDataObjects (newDataObject : DataObjectDefinition → Outcome DataObject) :
    SclType → Outcome (List DataObject)
  | .dataObjectType t => t.subDataObjects.mapM newDataObject
  | _ => .error (.panic .typeAssertion)

def missingTypeDeclaration (name typeId : Str) : Stop :=
  .error (name ++ lit " missing type declaration " ++ typeId)

def newDataObject (templates : DataTypeTemplates) :
    ℕ → DataObjectDefinition → Outcome DataObject
  | 0, _ => .error .outOfFuel
  | fuel + 1, definition =>
      match templates.lookupType definition.type with
      | none => .error (missingTypeDeclaration definition.name definition.type)
      | some sclType => do
          let dataAttributes ← createDataAttributes (newDataAttribute templates fuel) sclType
          let subDataObjects ← createSubDataObjects (newDataObject templates fuel) sclType
          pure {
            name := definition.name
            count := definition.count
            trans := definition.transient
            dataAttributes := dataAttributes
            subDataObjects := subDataObjects }

theorem newDataObject_eq_ok {templates : DataTypeTemplates} {fuel : ℕ}
    {definition : DataObjectDefinition} {node : DataObject}
    (h : newDataObject templates (fuel + 1) definition = .ok node) :
    ∃ t attributes objects,
      templates.lookupType definition.type = some (.dataObjectType t) ∧
      createDataAttributes (newDataAttribute templates fuel) (.dataObjectType t) =
        .ok attributes ∧
      t.subDataObjects.mapM (newDataObject templates fuel) = .ok objects ∧
      node = {
        name := definition.name
        count := definition.count
        trans := definition.transient
        dataAttributes := attributes
        subDataObjects := objects } := by
  rw [newDataObject] at h
  split at h
  next => cases h
  next sclType hlookup =>
    obtain ⟨attributes, hattributes, hrest⟩ := bind_eq_ok.mp h
    obtain ⟨objects, hobjects, hnode⟩ := bind_eq_ok.mp hrest
    cases sclType with
    | dataObjectType t =>
        exact ⟨t, attributes, objects, hlookup, hattributes, hobjects,
          (Except.ok.inj hnode).symm⟩
    | _ => cases hobjects

/-! ## More fuel does not change the tree -/

variable {templates : DataTypeTemplates}

theorem completes_createConstructedAttribute
    {new new' : DataAttributeDefinition → Str → ParentNode → Outcome DataAttribute}
    (hnew : ∀ d fc parent, Completes (new d fc parent) (new' d fc parent))
    (d : DataAttribute) :
    Completes (createConstructedAttribute new templates d)
      (createConstructedAttribute new' templates d) := by
  unfold createConstructedAttribute
  cases templates.lookupType d.definition.type with
  | none => exact Completes.refl _
  | some sclType =>
      cases sclType with
      | dataAttributeType t =>
          exact (Completes.mapM (fun daDef => hnew daDef _ _) _).bind fun _ =>
            Completes.refl _
      | _ => exact Completes.refl _

theorem completes_newDataAttribute (n : ℕ) (d : DataAttributeDefinition) (fc : Str)
    (parent : ParentNode) :
    Completes (newDataAttribute templates n d fc parent)
      (newDataAttribute templates (n + 1) d fc parent) := by
  induction n generalizing d fc parent with
  | zero => exact fun hne => absurd rfl hne
  | succ n ih =>
      rw [newDataAttribute, newDataAttribute]
      split
      · exact completes_createConstructedAttribute ih _
      · exact Completes.refl _

theorem fuelled_newDataAttribute (d : DataAttributeDefinition) (fc : Str)
    (parent : ParentNode) : Fuelled fun n => newDataAttribute templates n d fc parent :=
  Fuelled.of_step fun n => completes_newDataAttribute n d fc parent

theorem completes_createDataAttribute
    {new new' : DataAttributeDefinition → Str → ParentNode → Outcome DataAttribute}
    (hnew : ∀ d fc parent, Completes (new d fc parent) (new' d fc parent))
    (attributes : List DataAttribute) (d : DataAttributeDefinition) :
    Completes (createDataAttribute new attributes d)
      (createDataAttribute new' attributes d) := by
  unfold createDataAttribute
  split
  · exact (hnew d _ _).bind fun twin => (hnew d _ _).bind fun _ => Completes.refl _
  · exact (hnew d _ _).bind fun _ => Completes.refl _

theorem completes_newDataObject (n : ℕ) (definition : DataObjectDefinition) :
    Completes (newDataObject templates n definition)
      (newDataObject templates (n + 1) definition) := by
  induction n generalizing definition with
  | zero => exact fun hne => absurd rfl hne
  | succ n ih =>
      rw [newDataObject, newDataObject]
      cases templates.lookupType definition.type with
      | none => exact Completes.refl _
      | some sclType =>
          have hattributes : Completes
              (createDataAttributes (newDataAttribute templates n) sclType)
              (createDataAttributes (newDataAttribute templates (n + 1)) sclType) :=
            Completes.foldlM
              (completes_createDataAttribute (completes_newDataAttribute n)) _ _
          have hobjects : Completes
              (createSubDataObjects (newDataObject templates n) sclType)
              (createSubDataObjects (newDataObject templates (n + 1)) sclType) := by
            cases sclType with
            | dataObjectType t => exact Completes.mapM ih _
            | _ => exact Completes.refl _
          exact hattributes.bind fun _ => hobjects.bind fun _ => Completes.refl _

theorem fuelled_newDataObject (definition : DataObjectDefinition) :
    Fuelled fun n => newDataObject templates n definition :=
  Fuelled.of_step fun n => completes_newDataObject n definition

end Iec61850.Scl
