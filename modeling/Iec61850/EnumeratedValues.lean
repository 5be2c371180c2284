import Iec61850.ControlBlockChains
import Iec61850.InstancePaths

/-!
# Values of enumerated attributes

The text of an enumerated attribute becomes an ordinal in one of two ways: an
instance value when the document is parsed, a default value when the code is
generated.  The two ways are compared text by text.
-/

namespace Iec61850.Scl

open Go

variable {rt : Runtime} {templates : DataTypeTemplates} {ctx : PrintContext}

/-! ## The two routes -/

/-- What an attribute inherits, and the variable it is printed as. -/
structure AttributePlace where
  fuel : ℕ
  fc : Str
  parent : ParentNode
  daName : Str

/-- The attribute of a definition of the data type templates. -/
def instantiate (rt : Runtime) (templates : DataTypeTemplates) (d : DataAttributeDefinition)
    (place : AttributePlace) : Outcome DataAttribute := do
  let definition ← parseDefinition rt d
  newDataAttribute templates (place.fuel + 1) definition place.fc place.parent

/-- The statements for an attribute without an instance value. -/
def defaultRoute (rt : Runtime) (ctx : PrintContext) (templates : DataTypeTemplates)
    (d : DataAttributeDefinition) (place : AttributePlace) : Outcome (List InitStatement) := do
  let da ← instantiate rt templates d place
  printInitialValue ctx place.daName da

/-- The statements for an attribute with this text as its instance value. -/
def instanceRoute (rt : Runtime) (ctx : PrintContext) (templates : DataTypeTemplates)
    (d : DataAttributeDefinition) (place : AttributePlace) (text : Str) :
    Outcome (List InitStatement) := do
  let da ← instantiate rt templates d place
  let assigned ← setInstanceValue rt { name := d.name, val := some text } da
  printInitialValue ctx place.daName assigned

/-- The definition of an attribute of an enumeration. -/
structure EnumeratedDefinition (templates : DataTypeTemplates) (d : DataAttributeDefinition)
    (e : EnumerationType) : Prop where
  bType : d.bType = lit "Enum"
  declared : templates.lookupType d.type = some (.enumerationType e)

/-- `cast.ToInt` of an ordinal and of no value. -/
structure CastsOrdinals (rt : Runtime) : Prop where
  ordinal : ∀ n, rt.castToInt (some (.int n)) = n
  nil : rt.castToInt none = 0

/-! ## What the routes lead to -/

/-- The text is a symbolic name or the decimal ordinal of a value of the enumeration. -/
def DenotesOrdinal (e : EnumerationType) (text : Str) (ord : ℤ) : Prop :=
  (∃ item ∈ e.enumValues, item.symbolicName = text ∧ item.ord = ord) ∨
    (atoi text = some ord ∧ ∃ item ∈ e.enumValues, item.ord = ord)

def Rejected (r : Outcome (List InitStatement)) : Prop :=
  ∃ message, r = .error (.error message)

def Emits (daName : Str) (ord : ℤ) (r : Outcome (List InitStatement)) : Prop :=
  ∃ once, r = .ok [{ target := daName, once := once, value := .integer ord }]

/-- Both are rejected, or both give the variable the ordinal of the text. -/
def SameOutcome (e : EnumerationType) (daName text : Str)
    (a b : Outcome (List InitStatement)) : Prop :=
  (Rejected a ∧ Rejected b) ∨
    ∃ ord, DenotesOrdinal e text ord ∧ Emits daName ord a ∧ Emits daName ord b

/-- The text is a symbolic name of a type with an id, or stands for the ordinal 0. -/
def RoutesAgree (e : EnumerationType) (typeId text : Str) : Prop :=
  (typeId ≠ [] ∧ ∃ item ∈ e.enumValues, item.symbolicName = text) ∨
    e.getOrdByEnumString text = some 0 ∨
    ((∀ item ∈ e.enumValues, item.symbolicName ≠ text) ∧ atoi text = some 0 ∧
      ∃ item ∈ e.enumValues, item.ord = 0)

theorem getOrdByEnumString_eq_none {e : EnumerationType} {text : Str} :
    e.getOrdByEnumString text = none ↔ ∀ item ∈ e.enumValues, item.symbolicName ≠ text := by
  simp [EnumerationType.getOrdByEnumString]

theorem getOrdByEnumString_eq_some {e : EnumerationType} {text : Str} {ord : ℤ}
    (h : e.getOrdByEnumString text = some ord) :
    ∃ item ∈ e.enumValues, item.symbolicName = text ∧ item.ord = ord := by
  obtain ⟨item, hitem, hord⟩ := Option.map_eq_some_iff.mp h
  refine ⟨item, List.mem_of_find?_eq_some hitem, ?_, hord⟩
  simpa using List.find?_some hitem

theorem parseDefinition_enumerated (rt : Runtime) {d : DataAttributeDefinition}
    {e : EnumerationType} (h : EnumeratedDefinition templates d e) :
    ∃ definition, parseDefinition rt d = .ok definition ∧ definition.type = d.type ∧
      definition.attributeType = .enumerated ∧
      ∀ text, d.val = some text → definition.value =
        some { value := none, unknownEnumValue := text, enumType := d.type } := by
  have htype : createAttributeTypeFromScl d.bType = .ok .enumerated := by
    rw [h.bType]
    decide
  have hown : ¬ (d.bType = lit "Tcmd" ∨ d.bType = lit "Dbpos" ∨ d.bType = lit "Check") := by
    rw [h.bType]
    decide
  cases hval : d.val with
  | none =>
      refine ⟨_, bind_eq_ok.mpr ⟨_, htype, by simp only [hval]; rfl⟩, if_neg hown, rfl, ?_⟩
      simp
  | some text =>
      refine ⟨_, bind_eq_ok.mpr ⟨_, htype, by simp only [hval, if_true]; rfl⟩, if_neg hown, rfl,
        ?_⟩
      intro text' htext
      obtain rfl := Option.some.inj htext
      simp only [if_neg hown]

/-- The attribute before its value is looked at. -/
theorem instantiate_enumerated (rt : Runtime) {d : DataAttributeDefinition}
    {e : EnumerationType} (h : EnumeratedDefinition templates d e) (place : AttributePlace) :
    ∃ da, instantiate rt templates d place = .ok da ∧ da.attributeType = .enumerated ∧
      da.sclType = some (.enumerationType e) ∧ da.value = none ∧
      ∀ text, d.val = some text → da.definition.value =
        some { value := none, unknownEnumValue := text, enumType := d.type } := by
  obtain ⟨definition, hparse, htype, henum, hvalue⟩ := parseDefinition_enumerated rt h
  have hlookup : templates.lookupType
      (attributeOfDefinition definition place.fc place.parent).definition.type =
        some (.enumerationType e) := by
    rw [attributeOfDefinition, htype, h.declared]
  have hcreate : newDataAttribute templates (place.fuel + 1) definition place.fc place.parent =
      .ok { attributeOfDefinition definition place.fc place.parent with
        sclType := some (.enumerationType e) } := by
    simp only [newDataAttribute, createEnumeratedAttribute, hlookup]
    simp [attributeOfDefinition, henum]
  exact ⟨_, bind_eq_ok.mpr ⟨definition, hparse, hcreate⟩, henum, rfl, rfl, hvalue⟩

/-- The ordinal which a default text is replaced by. -/
def defaultOrdinal (e : EnumerationType) (typeId text : Str) : Option ℤ :=
  if typeId = [] then none else e.getOrdByEnumString text

theorem updateEnumOrdValue_enumerated {typeId : Str} {e : EnumerationType}
    (h : templates.lookupType typeId = some (.enumerationType e)) (text : Str) :
    ({ value := none, unknownEnumValue := text, enumType := typeId } :
        DataModelValue).updateEnumOrdValue (some templates) =
      .ok {
        value := (defaultOrdinal e typeId text).map .int
        unknownEnumValue := text
        enumType := typeId } := by
  unfold DataModelValue.updateEnumOrdValue defaultOrdinal
  by_cases htype : typeId = []
  · simp only [if_pos htype, Option.map_none]
  · simp only [if_neg htype]
    apply bind_eq_ok.mpr
    refine ⟨templates, rfl, ?_⟩
    rw [h]
    cases hord : e.getOrdByEnumString text with
    | none => simp only [hord, Option.map_none]
    | some ord => simp only [hord, Option.map_some]

theorem emits_printInitialValue {da : DataAttribute} {v : DataModelValue} {ord : ℤ}
    (hinitial : initialValue ctx da = .ok (some v)) (henum : da.attributeType = .enumerated)
    (hcast : ctx.rt.castToInt v.value = ord) (daName : Str) :
    Emits daName ord (printInitialValue ctx daName da) := by
  refine ⟨ctx.initializeOnce, bind_eq_ok.mpr ⟨some v, hinitial, ?_⟩⟩
  rw [henum, ← hcast]
  rfl

theorem initialValue_of_default {da : DataAttribute} {v updated : DataModelValue}
    (hunset : da.value = none) (hdefinition : da.definition.value = some v)
    (hopen : v.value = none) (hupdated : v.updateEnumOrdValue ctx.templates = .ok updated) :
    initialValue ctx da = .ok (some updated) := by
  unfold initialValue
  rw [hunset, hdefinition]
  simp only [hopen, if_true]
  exact bind_eq_ok.mpr ⟨updated, hupdated, rfl⟩

theorem castToInt_ordinal (hcasts : CastsOrdinals ctx.rt) (ord : Option ℤ) :
    ctx.rt.castToInt (ord.map .int) = ord.getD 0 := by
  cases ord with
  | none => exact hcasts.nil
  | some n => exact hcasts.ordinal n

/-- A default text that is not a symbolic name leaves no value, which is printed as 0. -/
theorem emits_defaultRoute (hcasts : CastsOrdinals ctx.rt)
    (htemplates : ctx.templates = some templates) {d : DataAttributeDefinition}
    {e : EnumerationType} (h : EnumeratedDefinition templates d e) (place : AttributePlace)
    {text : Str} (htext : d.val = some text) :
    Emits place.daName ((defaultOrdinal e d.type text).getD 0)
      (defaultRoute ctx.rt ctx templates d place) := by
  obtain ⟨da, hda, henum, -, hunset, hdefinition⟩ := instantiate_enumerated ctx.rt h place
  have hvalue := updateEnumOrdValue_enumerated h.declared text
  rw [← htemplates] at hvalue
  have hinitial := initialValue_of_default hunset (hdefinition text htext) rfl hvalue
  obtain ⟨once, hstatements⟩ :=
    emits_printInitialValue hinitial henum (castToInt_ordinal hcasts _) place.daName
  exact ⟨once, bind_eq_ok.mpr ⟨da, hda, hstatements⟩⟩

/-- The ordinal which an instance text is replaced by. -/
def instanceOrdinal (e : EnumerationType) (text : Str) : Option ℤ :=
  match e.getOrdByEnumString text with
  | some ord => some ord
  | none => (atoi text).filter e.isValidOrdValue

theorem newEnumeratedValue_cases (e : EnumerationType) (text : Str) :
    (∃ ord, instanceOrdinal e text = some ord ∧
      newEnumeratedValue e text = .ok { value := some (.int ord) }) ∨
    (instanceOrdinal e text = none ∧
      ∃ message, newEnumeratedValue e text = .error (.error message)) := by
  unfold newEnumeratedValue instanceOrdinal
  cases e.getOrdByEnumString text with
  | some ord => exact .inl ⟨ord, rfl, rfl⟩
  | none =>
      cases atoi text with
      | none => exact .inr ⟨rfl, _, rfl⟩
      | some ord =>
          by_cases hvalid : e.isValidOrdValue ord = true
          · exact .inl ⟨ord, by simp [hvalid], by simp [hvalid]⟩
          · exact .inr ⟨by simp [hvalid], _, by simp only [hvalid]; rfl⟩

theorem denotesOrdinal_of_instanceOrdinal {e : EnumerationType} {text : Str} {ord : ℤ}
    (h : instanceOrdinal e text = some ord) : DenotesOrdinal e text ord := by
  unfold instanceOrdinal at h
  split at h
  next found hfound =>
    obtain rfl := Option.some.inj h
    exact .inl (getOrdByEnumString_eq_some hfound)
  next =>
    obtain ⟨hdecimal, hvalid⟩ := Option.filter_eq_some_iff.mp h
    refine .inr ⟨hdecimal, ?_⟩
    simpa [EnumerationType.isValidOrdValue] using hvalid

/-- The ordinals of the two routes are the same exactly for these texts. -/
theorem routesAgree_iff {e : EnumerationType} {typeId text : Str} :
    RoutesAgree e typeId text ↔
      instanceOrdinal e text = some ((defaultOrdinal e typeId text).getD 0) := by
  unfold RoutesAgree instanceOrdinal defaultOrdinal
  cases hord : e.getOrdByEnumString text with
  | some ord =>
      have hsymbolic := getOrdByEnumString_eq_some hord
      obtain ⟨item, hitem, hname, -⟩ := hsymbolic
      have hno : ¬ ∀ item ∈ e.enumValues, item.symbolicName ≠ text :=
        fun hall => hall item hitem hname
      have hyes : ∃ item ∈ e.enumValues, item.symbolicName = text := ⟨item, hitem, hname⟩
      by_cases htype : typeId = []
      · simp [htype, hno]
      · simp [htype, hyes]
  | none =>
      have hall := getOrdByEnumString_eq_none.mp hord
      have hno : ¬ ∃ item ∈ e.enumValues, item.symbolicName = text := by
        rintro ⟨item, hitem, hname⟩
        exact hall item hitem hname
      have hzero : (if typeId = [] then none else (none : Option ℤ)).getD 0 = 0 := by
        split <;> rfl
      rw [hzero, Option.filter_eq_some_iff]
      simp only [hno, and_false, reduceCtorEq, false_or]
      rw [and_iff_right hall, EnumerationType.isValidOrdValue]
      simp

theorem instanceRoute_cases (hcasts : CastsOrdinals ctx.rt) {d : DataAttributeDefinition}
    {e : EnumerationType} (h : EnumeratedDefinition templates d e) (place : AttributePlace)
    (text : Str) :
    (∃ ord, instanceOrdinal e text = some ord ∧
      Emits place.daName ord (instanceRoute ctx.rt ctx templates d place text)) ∨
    (instanceOrdinal e text = none ∧
      Rejected (instanceRoute ctx.rt ctx templates d place text)) := by
  obtain ⟨da, hda, henum, htype, -, -⟩ := instantiate_enumerated ctx.rt h place
  have hvalue : newDataModelValue ctx.rt da.attributeType da.sclType text =
      newEnumeratedValue e text := by
    rw [henum, htype]
    rfl
  rcases newEnumeratedValue_cases e text with ⟨ord, hord, hok⟩ | ⟨hnone, message, herror⟩
  · left
    refine ⟨ord, hord, ?_⟩
    have hassigned : setInstanceValue ctx.rt { name := d.name, val := some text } da =
        .ok { da with value := some { value := some (.int ord) } } :=
      bind_eq_ok.mpr ⟨_, hvalue.trans hok, rfl⟩
    have hinitial : initialValue ctx
        { da with value := some { value := some (.int ord) } } =
          .ok (some { value := some (.int ord) }) := rfl
    obtain ⟨once, hstatements⟩ :=
      emits_printInitialValue hinitial henum (hcasts.ordinal ord) place.daName
    exact ⟨once, bind_eq_ok.mpr ⟨da, hda, bind_eq_ok.mpr ⟨_, hassigned, hstatements⟩⟩⟩
  · right
    refine ⟨hnone, message, ?_⟩
    have hassigned : setInstanceValue ctx.rt { name := d.name, val := some text } da =
        .error (.error message) :=
      bind_eq_error.mpr (.inl (hvalue.trans herror))
    exact bind_eq_error.mpr (.inr ⟨da, hda, bind_eq_error.mpr (.inl hassigned)⟩)

theorem Emits.not_rejected {daName : Str} {ord : ℤ} {r : Outcome (List InitStatement)}
    (h : Emits daName ord r) : ¬ Rejected r := by
  obtain ⟨once, rfl⟩ := h
  rintro ⟨message, hrejected⟩
  cases hrejected

theorem Emits.ordinal_eq {daName : Str} {ord ord' : ℤ} {r : Outcome (List InitStatement)}
    (h : Emits daName ord r) (h' : Emits daName ord' r) : ord = ord' := by
  obtain ⟨once, rfl⟩ := h
  obtain ⟨once', hsame⟩ := h'
  simp only [Except.ok.injEq, List.cons.injEq, InitStatement.mk.injEq, InitialValue.integer.injEq,
    true_and, and_true] at hsame
  exact hsame.2

theorem sameOutcome_iff (hcasts : CastsOrdinals ctx.rt)
    (htemplates : ctx.templates = some templates) {d : DataAttributeDefinition}
    {e : EnumerationType} (h : EnumeratedDefinition templates d e) (place : AttributePlace)
    (text : Str) :
    SameOutcome e place.daName text (instanceRoute ctx.rt ctx templates d place text)
        (defaultRoute ctx.rt ctx templates { d with val := some text } place) ↔
      RoutesAgree e d.type text := by
  have hdefault := emits_defaultRoute hcasts htemplates
    (d := { d with val := some text }) ⟨h.bType, h.declared⟩ place rfl
  rw [routesAgree_iff]
  rcases instanceRoute_cases hcasts h place text with ⟨ord, hord, hemits⟩ | ⟨hnone, hrejected⟩
  · rw [hord, Option.some.injEq]
    constructor
    · rintro (⟨hboth, -⟩ | ⟨ord', -, hinstance, hother⟩)
      · exact absurd hboth hemits.not_rejected
      · rw [hemits.ordinal_eq hinstance, hdefault.ordinal_eq hother]
    · rintro rfl
      exact .inr ⟨_, denotesOrdinal_of_instanceOrdinal hord, hemits, hdefault⟩
  · rw [hnone]
    constructor
    · rintro (⟨-, hboth⟩ | ⟨ord', -, hinstance, -⟩)
      · exact absurd hboth hdefault.not_rejected
      · exact absurd hrejected hinstance.not_rejected
    · intro hsome
      cases hsome

/-! ## The attributes of a parsed model -/

/-- All definitions of attributes in the data type templates. -/
def DataTypeTemplates.daDefinitions (templates : DataTypeTemplates) :
    List DataAttributeDefinition :=
  templates.dataAttributeTypes.flatMap DataAttributeType.subDataAttributes ++
    templates.dataObjectTypes.flatMap DataObjectType.dataAttributes

variable {declared : DataTypeTemplates}

/-- A definition as it stands after the type declarations have been parsed. -/
def ParsedDefinition (rt : Runtime) (declared : DataTypeTemplates)
    (d : DataAttributeDefinition) : Prop :=
  ∃ source ∈ declared.daDefinitions, parseDefinition rt source = .ok d

theorem parsedDefinition_of_declared (h : parseTypeDeclarations rt declared = .ok templates)
    {t : SclType} (ht : t ∈ templates.typeDeclarations) :
    ∀ d ∈ t.daDefinitions, ParsedDefinition rt declared d := by
  obtain ⟨attributeTypes, hattributes, h⟩ := bind_eq_ok.mp h
  obtain ⟨objectTypes, hobjects, h⟩ := bind_eq_ok.mp h
  obtain rfl := Except.ok.inj h
  simp only [List.mem_append, List.mem_map] at ht
  intro d hd
  rcases ht with ((⟨t, ht, rfl⟩ | ⟨t, ht, rfl⟩) | ⟨t, -, rfl⟩) | ⟨t, -, rfl⟩
  · obtain ⟨source, hsource, hparsed⟩ := exists_of_mem_mapM_ok hattributes ht
    obtain ⟨definitions, hdefinitions, hparsed⟩ := bind_eq_ok.mp hparsed
    obtain rfl := Except.ok.inj hparsed
    obtain ⟨d', hd', hparse⟩ := exists_of_mem_mapM_ok hdefinitions hd
    exact ⟨d', List.mem_append_left _ (List.mem_flatMap.mpr ⟨source, hsource, hd'⟩), hparse⟩
  · obtain ⟨source, hsource, hparsed⟩ := exists_of_mem_mapM_ok hobjects ht
    obtain ⟨definitions, hdefinitions, hparsed⟩ := bind_eq_ok.mp hparsed
    obtain rfl := Except.ok.inj hparsed
    obtain ⟨d', hd', hparse⟩ := exists_of_mem_mapM_ok hdefinitions hd
    exact ⟨d', List.mem_append_right _ (List.mem_flatMap.mpr ⟨source, hsource, hd'⟩), hparse⟩
  · cases hd
  · cases hd

/-- The attribute of a declared definition, up to an instance value. -/
structure Instantiated (rt : Runtime) (declared templates : DataTypeTemplates)
    (d : DataAttributeDefinition) (place : AttributePlace) (fresh da : DataAttribute) :
    Prop where
  source : d ∈ declared.daDefinitions
  created : instantiate rt templates d place = .ok fresh
  definition : da.definition = fresh.definition
  attributeType : da.attributeType = fresh.attributeType
  sclType : da.sclType = fresh.sclType
  value : da.value = none ∨ ∃ text v, da.value = some v ∧
    newDataModelValue rt fresh.attributeType fresh.sclType text = .ok v

def HasDefinition (rt : Runtime) (declared templates : DataTypeTemplates)
    (da : DataAttribute) : Prop :=
  ∃ d place fresh, Instantiated rt declared templates d place fresh da

theorem everywhere_newDataAttribute (h : parseTypeDeclarations rt declared = .ok templates)
    {n : ℕ} {d : DataAttributeDefinition} {fc : Str} {parent : ParentNode} {da : DataAttribute}
    (hd : ParsedDefinition rt declared d)
    (hda : newDataAttribute templates n d fc parent = .ok da) :
    da.Everywhere (HasDefinition rt declared templates) := by
  induction n generalizing d fc parent da with
  | zero => cases hda
  | succ n ih =>
      obtain ⟨source, hsource, hparse⟩ := hd
      have hself : HasDefinition rt declared templates da :=
        ⟨source, ⟨n, fc, parent, []⟩, da, {
          source := hsource
          created := bind_eq_ok.mpr ⟨d, hparse, hda⟩
          definition := rfl
          attributeType := rfl
          sclType := rfl
          value := .inl (unset_newDataAttribute hda).value }⟩
      refine .intro hself fun sub hsub => ?_
      cases attributeCreated_of_ok hda with
      | constructed htype hlookup hsubs =>
          obtain ⟨definition, hdefinition, hnew⟩ := exists_of_mem_mapM_ok hsubs hsub
          exact ih (parsedDefinition_of_declared h (lookupType_mem hlookup) definition
            hdefinition) hnew
      | enumerated htype hlookup => cases hsub
      | basic hconstructed henumerated => cases hsub

theorem everywhere_setInstanceValue {dai : DOINode} {da da' : DataAttribute}
    (hda' : setInstanceValue rt dai da = .ok da')
    (hda : da.Everywhere (HasDefinition rt declared templates)) :
    da'.Everywhere (HasDefinition rt declared templates) := by
  rcases setInstanceValue_cases hda' with ⟨-, rfl⟩ | ⟨text, v, -, hv, rfl⟩
  · exact hda
  · obtain ⟨⟨d, place, fresh, hfresh⟩, hsubs⟩ := DataAttribute.everywhere_iff.mp hda
    refine .intro ⟨d, place, fresh, { hfresh with value := .inr ⟨text, v, rfl, ?_⟩ }⟩ hsubs
    rw [← hfresh.attributeType, ← hfresh.sclType]
    exact hv

/-! ## The statements of a run -/

/-- All statements for the initial value of the attribute are among these. -/
def InitializedBy (ctx : PrintContext) (statements : List InitStatement)
    (da : DataAttribute) : Prop :=
  ∃ daName own, printInitialValue ctx daName da = .ok own ∧ ∀ s ∈ own, s ∈ statements

theorem InitializedBy.mono {statements more : List InitStatement} {da : DataAttribute}
    (h : InitializedBy ctx statements da) (hmore : ∀ s ∈ statements, s ∈ more) :
    InitializedBy ctx more da := by
  obtain ⟨daName, own, hown, hmem⟩ := h
  exact ⟨daName, own, hown, fun s hs => hmore s (hmem s hs)⟩

/-- The members are printed for every element of an array, so at least for the first. -/
theorem printAttributeChildren_members {daName : Str} {isTransient : Bool}
    {da : DataAttribute} {children : Definitions}
    (h : printAttributeChildren ctx daName isTransient da = .ok children) :
    ∃ doName members,
      printDataAttributeDefinitions ctx doName isTransient da.subDataAttributes =
        .ok members ∧
      ∀ s ∈ members.initializerBuffer, s ∈ children.initializerBuffer := by
  rcases printAttributeChildren_ok h with ⟨harray, elements, rfl, helements⟩ | ⟨-, hmembers⟩
  · have hzero : 0 ∈ List.range da.count.toNat := List.mem_range.mpr (by omega)
    obtain ⟨element, hmem, helement⟩ := exists_mem_of_forall₂ helements hzero
    obtain ⟨members, hmembers, helement⟩ := bind_eq_ok.mp helement
    obtain rfl := Except.ok.inj helement
    refine ⟨_, members, hmembers, fun s hs => ?_⟩
    rw [Definitions.concat_initializerBuffer, List.mem_flatMap]
    exact ⟨_, hmem, List.mem_append_right _ hs⟩
  · exact ⟨daName, children, hmembers, fun s hs => hs⟩

theorem initializedBy_printDataAttributeDefinitions {isTransient : Bool} {doName : Str}
    {das : List DataAttribute} {out : Definitions}
    (h : printDataAttributeDefinitions ctx doName isTransient das = .ok out) :
    ∀ da ∈ das, da.Everywhere (InitializedBy ctx out.initializerBuffer) := by
  induction das using dataAttribute_induction generalizing doName out with
  | nil => simp
  | cons da rest ihSubs ihRest =>
      obtain ⟨daName, sibling, children, statements, others, -, -, hchildren, hstatements,
        hothers, rfl⟩ := printDataAttributeDefinitions_cons_ok h
      obtain ⟨name, members, hmembers, hmem⟩ := printAttributeChildren_members hchildren
      refine List.forall_mem_cons.mpr ⟨.intro ?_ fun sub hsub => ?_, fun other hother => ?_⟩
      · exact ⟨daName, statements, hstatements, fun s hs => by simp [hs]⟩
      · apply (ihSubs hmembers sub hsub).imp
        exact fun _ hsub => hsub.mono fun s hs => by simp [hmem s hs]
      · apply (ihRest hothers other hother).imp
        exact fun _ hother => hother.mono fun s hs => by simp [hs]

theorem initializedBy_printDataObjectDefinitions {isTransient : Bool} {lnName sibling : Str}
    {nodes : List DataObject} {out : Definitions}
    (h : printDataObjectDefinitions ctx lnName sibling isTransient nodes = .ok out) :
    ∀ node ∈ nodes, node.AllAttributes fun da =>
      da.Everywhere (InitializedBy ctx out.initializerBuffer) := by
  induction nodes using dataObject_induction generalizing lnName sibling isTransient out with
  | nil => simp
  | cons node rest ihObjects ihRest =>
      obtain ⟨firstName, objects, attributes, others, -, hobjects, hattributes, hothers, rfl⟩ :=
        printDataObjectDefinitions_cons_ok h
      refine List.forall_mem_cons.mpr ⟨.intro (fun da hda => ?_) fun sub hsub => ?_,
        fun other hother => ?_⟩
      · apply (initializedBy_printDataAttributeDefinitions hattributes da hda).imp
        exact fun _ hda => hda.mono fun s hs => by simp [hs]
      · apply (ihObjects hobjects sub hsub).imp
        exact fun _ hsub => hsub.imp fun _ hsub => hsub.mono fun s hs => by simp [hs]
      · apply (ihRest hothers other hother).imp
        exact fun _ hother => hother.imp fun _ hother => hother.mono fun s hs => by simp [hs]

/-- The attributes below the data objects of a node have their initial values. -/
def LogicalNode.InitializedBy (ctx : PrintContext) (statements : List InitStatement)
    (ln : LogicalNode) : Prop :=
  ∀ node ∈ ln.dataObjects, node.AllAttributes fun da =>
    da.Everywhere (Scl.InitializedBy ctx statements)

theorem LogicalNode.InitializedBy.mono {statements more : List InitStatement}
    {ln : LogicalNode} (h : ln.InitializedBy ctx statements)
    (hmore : ∀ s ∈ statements, s ∈ more) : ln.InitializedBy ctx more := by
  intro node hnode
  apply (h node hnode).imp
  exact fun _ hda => hda.imp fun _ hda => hda.mono hmore

variable {blocks : ControlBlockContext}

theorem initializedBy_printLogicalDeviceDefinitions {modelPrefix : Str}
    {devices : List LogicalDevice} {out out' : DeviceModel}
    (h : printLogicalDeviceDefinitions ctx blocks modelPrefix devices out = .ok out') :
    ∀ p ∈ placedNodes devices,
      p.node.InitializedBy ctx out'.definitions.initializerBuffer := by
  intro p hp
  obtain ⟨groups, hgroups, hbuffer⟩ := printLogicalDeviceDefinitions_initializers h
  obtain ⟨objects, hmem, hobjects⟩ := exists_mem_of_forall₂ hgroups hp
  have hown : p.node.InitializedBy ctx objects.initializerBuffer :=
    initializedBy_printDataObjectDefinitions hobjects
  apply hown.mono
  intro s hs
  rw [hbuffer]
  exact List.mem_append_right _ (List.mem_flatMap.mpr ⟨objects, hmem, hs⟩)

/-! ## The routes of a run -/

theorem printInitialValue_congr {da da' : DataAttribute} (hvalue : da.value = da'.value)
    (hdefinition : da.definition = da'.definition)
    (htype : da.attributeType = da'.attributeType) (daName : Str) :
    printInitialValue ctx daName da = printInitialValue ctx daName da' := by
  unfold printInitialValue initialValue
  rw [hvalue, hdefinition, htype]

/-- The statements of the attribute are those of one of the two routes, from a
definition of the document. -/
def TakesRoute (rt : Runtime) (ctx : PrintContext) (declared templates : DataTypeTemplates)
    (statements : List InitStatement) (da : DataAttribute) : Prop :=
  ∃ d ∈ declared.daDefinitions, ∃ place own, (∀ s ∈ own, s ∈ statements) ∧
    ((da.value = none ∧ defaultRoute rt ctx templates d place = .ok own) ∨
      ∃ text, instanceRoute rt ctx templates d place text = .ok own)

theorem takesRoute {statements : List InitStatement} {da : DataAttribute}
    (hdefinition : HasDefinition rt declared templates da)
    (hinitialized : InitializedBy ctx statements da) :
    TakesRoute rt ctx declared templates statements da := by
  obtain ⟨d, place, fresh, hfresh⟩ := hdefinition
  obtain ⟨daName, own, hown, hmem⟩ := hinitialized
  refine ⟨d, hfresh.source, { place with daName := daName }, own, hmem, ?_⟩
  rcases hfresh.value with hunset | ⟨text, v, hvalue, hv⟩
  · left
    refine ⟨hunset, bind_eq_ok.mpr ⟨fresh, hfresh.created, ?_⟩⟩
    obtain ⟨definition, -, hnew⟩ := bind_eq_ok.mp hfresh.created
    rw [← printInitialValue_congr (hunset.trans (unset_newDataAttribute hnew).value.symm)
      hfresh.definition hfresh.attributeType daName]
    exact hown
  · right
    have hassigned : setInstanceValue rt { name := d.name, val := some text } fresh =
        .ok { fresh with value := some v } :=
      bind_eq_ok.mpr ⟨v, hv, rfl⟩
    refine ⟨text, bind_eq_ok.mpr ⟨fresh, hfresh.created, bind_eq_ok.mpr ⟨_, hassigned, ?_⟩⟩⟩
    have hsame : printInitialValue ctx daName da =
        printInitialValue ctx daName { fresh with value := some v } := by
      apply printInitialValue_congr
      · exact hvalue
      · exact hfresh.definition
      · exact hfresh.attributeType
    exact hsame.symm.trans hown

/-- Every attribute of the selected devices has a definition of the document. -/
theorem Selection.hasDefinition {args : GeneratorArguments} {P : ParsedModel rt}
    (S : Selection P.model args) :
    ∃ declared templates, P.document.dataTypeTemplates = some declared ∧
      P.model.dataTypeTemplates = some templates ∧
      ∀ p ∈ placedNodes S.logicalDevices, ∀ node ∈ p.node.dataObjects,
        node.AllAttributes fun da => da.Everywhere (HasDefinition rt declared templates) := by
  obtain ⟨declared, templates, ieds, communication, -, hdeclared, hparse, -, -, hmodel⟩ :=
    P.stages
  obtain ⟨templates', htemplates', hdevices⟩ := S.parsedDevices
  have htemplates : P.model.dataTypeTemplates = some templates := by rw [hmodel]
  obtain rfl : templates = templates' := by
    rw [htemplates] at htemplates'
    exact Option.some.inj htemplates'
  refine ⟨declared, templates, hdeclared, htemplates, fun p hp node hnode => ?_⟩
  obtain ⟨hdevice, hln⟩ := mem_placedNodes.mp hp
  obtain ⟨source, resolved, -, hparsed⟩ := hdevices.parsedNode hdevice hln
  exact allAttributes_parseLogicalNode
    (fun o ho d hd _ _ _ hda =>
      everywhere_newDataAttribute hparse (parsedDefinition_of_declared hparse ho d hd) hda)
    (fun _ _ _ hda' hda => everywhere_setInstanceValue hda' hda) hparsed node hnode

theorem Selection.takesRoute {args : GeneratorArguments} {P : ParsedModel rt}
    (S : Selection P.model args) {files : GeneratedFiles}
    (hgenerate : generate rt P.model args = .ok files) :
    ∃ declared templates, P.document.dataTypeTemplates = some declared ∧
      P.model.dataTypeTemplates = some templates ∧
      ∀ p ∈ placedNodes S.logicalDevices, ∀ node ∈ p.node.dataObjects,
        node.AllAttributes fun da => da.Everywhere
          (TakesRoute rt (S.generator rt).printContext declared templates
            (files.c.flatMap CItem.initializers)) := by
  obtain ⟨R⟩ := S.stages hgenerate
  obtain ⟨declared, templates, hdeclared, htemplates, hdefinitions⟩ := S.hasDefinition
  refine ⟨declared, templates, hdeclared, htemplates, fun p hp node hnode => ?_⟩
  have hinitialized := initializedBy_printLogicalDeviceDefinitions R.model_eq p hp node hnode
  rw [R.initializers_eq]
  apply ((hdefinitions p hp node hnode).and hinitialized).imp
  rintro da ⟨hdefinition, hown⟩
  exact (hdefinition.and hown).imp fun _ h => Scl.takesRoute h.1 h.2

/-- A text leads to the same outcome as an instance value and as a default value if
and only if it is a symbolic name of a type with an id or stands for 0; and every
initial value of a file comes by one of the two routes. -/
theorem enumerated_values_agree_iff (hcasts : CastsOrdinals rt) :
    (∀ (ctx : PrintContext) (templates : DataTypeTemplates) (d : DataAttributeDefinition)
      (e : EnumerationType) (place : AttributePlace) (text : Str),
      ctx.rt = rt → ctx.templates = some templates → EnumeratedDefinition templates d e →
        (SameOutcome e place.daName text (instanceRoute rt ctx templates d place text)
            (defaultRoute rt ctx templates { d with val := some text } place) ↔
          RoutesAgree e d.type text)) ∧
    ∀ (P : ParsedModel rt) (args : GeneratorArguments) (S : Selection P.model args)
      (files : GeneratedFiles), generate rt P.model args = .ok files →
      ∃ declared templates, P.document.dataTypeTemplates = some declared ∧
        P.model.dataTypeTemplates = some templates ∧
        ∀ p ∈ placedNodes S.logicalDevices, ∀ node ∈ p.node.dataObjects,
          node.AllAttributes fun da => da.Everywhere
            (TakesRoute rt (S.generator rt).printContext declared templates
              (files.c.flatMap CItem.initializers)) := by
  refine ⟨?_, fun P args S files hgenerate => S.takesRoute hgenerate⟩
  rintro ctx templates d e place text rfl htemplates hd
  exact sameOutcome_iff hcasts htemplates hd place text

def healthKind : EnumerationType where
  id := lit "HealthKind"
  enumValues := [⟨1, lit "Ok"⟩, ⟨2, lit "Warning"⟩, ⟨3, lit "Alarm"⟩]

/-- The state of the attribute `Health`, with or without a default text. -/
def healthDefinition (val : Option Str) : DataAttributeDefinition where
  name := lit "stVal"
  fc := lit "ST"
  bType := lit "Enum"
  type := lit "HealthKind"
  val := val

def healthTemplates (val : Option Str) : DataTypeTemplates where
  logicalNodeTypes := [{
    id := lit "LN0T"
    dataObjectDefinitions := [{ name := lit "Health", type := lit "ENS" }] }]
  dataObjectTypes := [{ id := lit "ENS", dataAttributes := [healthDefinition val] }]
  enumTypes := [healthKind]

def healthDevice (doiNodes : List DOINode) : LogicalDevice where
  inst := lit "LD1"
  ln0 := some { lnClass := lit "LLN0", lnType := lit "LN0T", doiNodes := doiNodes }

/-- The document with the default text 3. -/
def healthDefaultModel : ParsedModel plainRuntime :=
  ParsedModel.ofDocument plainRuntime 4
    (documentOf (healthTemplates (some (lit "3"))) [healthDevice []]) (by decide +kernel)

/-- The document with the instance text 3. -/
def healthInstanceModel : ParsedModel plainRuntime :=
  ParsedModel.ofDocument plainRuntime 4
    (documentOf (healthTemplates none) [healthDevice [{
      name := lit "Health"
      daiNodes := [{ name := lit "stVal", val := some (lit "3") }] }]]) (by decide +kernel)

theorem generate_healthDefaultModel :
    (generate plainRuntime healthDefaultModel.model {}).isOk = true := by
  decide +kernel

theorem generate_healthInstanceModel :
    (generate plainRuntime healthInstanceModel.model {}).isOk = true := by
  decide +kernel

theorem castsOrdinals_plainRuntime : CastsOrdinals plainRuntime where
  ordinal _ := rfl
  nil := rfl

def healthPlace : AttributePlace where
  fuel := 4
  fc := []
  parent := .dataObject
  daName := lit "iedModel_LD1_LLN0_Health_stVal"

/-- The templates with their declarations, as after the parse. -/
def healthDeclarations : DataTypeTemplates :=
  { healthTemplates none with typeDeclarations := [.enumerationType healthKind] }

def healthContext : PrintContext where
  rt := plainRuntime
  templates := some healthDeclarations
  initializeOnce := false
  insertSE := insertSE (lit "iedModel")

theorem enumeratedDefinition_health :
    EnumeratedDefinition healthDeclarations (healthDefinition none) healthKind where
  bType := rfl
  declared := by decide

theorem enumerated_values_agree_iff_health :
    CastsOrdinals plainRuntime ∧
      (SameOutcome healthKind healthPlace.daName (lit "Alarm")
          (instanceRoute plainRuntime healthContext healthDeclarations (healthDefinition none)
            healthPlace (lit "Alarm"))
          (defaultRoute plainRuntime healthContext healthDeclarations
            { healthDefinition none with val := some (lit "Alarm") } healthPlace) ↔
        RoutesAgree healthKind (healthDefinition none).type (lit "Alarm")) ∧
      ∃ S : Selection healthInstanceModel.model {}, ∃ files,
        generate plainRuntime healthInstanceModel.model {} = .ok files ∧
        ∃ declared templates,
          healthInstanceModel.document.dataTypeTemplates = some declared ∧
          healthInstanceModel.model.dataTypeTemplates = some templates ∧
          ∀ p ∈ placedNodes S.logicalDevices, ∀ node ∈ p.node.dataObjects,
            node.AllAttributes fun da => da.Everywhere
              (TakesRoute plainRuntime (S.generator plainRuntime).printContext declared templates
                (files.c.flatMap CItem.initializers)) := by
  have hagree := enumerated_values_agree_iff castsOrdinals_plainRuntime
  have hgenerate := eq_ok_resultOf _ generate_healthInstanceModel
  obtain ⟨S⟩ := exists_selection_of_generate hgenerate
  exact ⟨castsOrdinals_plainRuntime,
    hagree.1 _ _ _ _ _ _ rfl rfl enumeratedDefinition_health,
    S, _, hgenerate, hagree.2 healthInstanceModel {} S _ hgenerate⟩

/-- The ordinal 3 of `Alarm` is emitted for the instance text 3, and 0 for the
default text 3. -/
theorem health_routes_differ :
    EnumeratedDefinition healthDeclarations (healthDefinition none) healthKind ∧
      ¬ SameOutcome healthKind healthPlace.daName (lit "3")
        (instanceRoute plainRuntime healthContext healthDeclarations (healthDefinition none)
          healthPlace (lit "3"))
        (defaultRoute plainRuntime healthContext healthDeclarations
          { healthDefinition none with val := some (lit "3") } healthPlace) ∧
      (∃ files, generate plainRuntime healthInstanceModel.model {} = .ok files ∧
        files.c.flatMap CItem.initializers =
          [{ target := healthPlace.daName, once := false, value := .integer 3 }]) ∧
      ∃ files, generate plainRuntime healthDefaultModel.model {} = .ok files ∧
        files.c.flatMap CItem.initializers =
          [{ target := healthPlace.daName, once := false, value := .integer 0 }] := by
  refine ⟨enumeratedDefinition_health, ?_, ?_, ?_⟩
  · have hinstance : instanceRoute plainRuntime healthContext healthDeclarations
        (healthDefinition none) healthPlace (lit "3") =
          .ok [{ target := healthPlace.daName, once := false, value := .integer 3 }] := by
      decide +kernel
    have hdefault : defaultRoute plainRuntime healthContext healthDeclarations
        { healthDefinition none with val := some (lit "3") } healthPlace =
          .ok [{ target := healthPlace.daName, once := false, value := .integer 0 }] := by
      decide +kernel
    rw [hinstance, hdefault]
    rintro (⟨⟨message, hrejected⟩, -⟩ | ⟨ord, -, hthree, hzero⟩)
    · cases hrejected
    · have hsame := Emits.ordinal_eq hthree ⟨false, rfl⟩
      have hother := Emits.ordinal_eq hzero ⟨false, rfl⟩
      rw [hsame] at hother
      revert hother
      decide
  · exact ⟨_, eq_ok_resultOf _ generate_healthInstanceModel, by decide +kernel⟩
  · exact ⟨_, eq_ok_resultOf _ generate_healthDefaultModel, by decide +kernel⟩

end Iec61850.Scl
