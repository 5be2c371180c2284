import Iec61850.LinkedDefinitions
import Iec61850.SetpointNames

/-!
# When the data model part panics

The forward declarations and the definitions of data objects and attributes
report no errors.  They panic if a name into which `SE_` is to be inserted has
fewer than nine bytes, and the definitions also if an initial value does not
have the form its type promises.
-/

namespace Iec61850.Scl

open Go

variable {modelPrefix : Str} {ctx : PrintContext}

/-! ## Inserting `SE_` -/

/-- `SE_` can be inserted into the name, or is already there. -/
def Cuttable (modelPrefix name : Str) : Prop :=
  modelPrefix ++ lit "_SE_" <+: name ∨ 9 ≤ name.length

instance (modelPrefix name : Str) : Decidable (Cuttable modelPrefix name) :=
  inferInstanceAs (Decidable (_ ∨ _))

theorem panicsUnless_insertSE (modelPrefix name : Str) :
    PanicsUnless (Cuttable modelPrefix name) (insertSE modelPrefix name) := by
  unfold insertSE Cuttable
  by_cases hse : hasPrefix name (modelPrefix ++ lit "_SE_") = true
  · rw [if_pos hse]
    exact (PanicsUnless.of_ok name).congr (by simp [hasPrefix_iff.mp hse])
  · rw [if_neg hse]
    rw [hasPrefix_iff] at hse
    by_cases hshort : name.length < 9
    · rw [if_pos hshort]
      refine ⟨fun h => ?_, fun _ => panics_panic _⟩
      have hlong := h.resolve_left hse
      omega
    · rw [if_neg hshort]
      exact (PanicsUnless.of_ok _).congr (by simp; omega)

/-- The names into which `SE_` is inserted when an attribute of this constraint
is named. -/
def setpoints (fc name : Str) : List Str :=
  if fc = lit "SE" then [name] else []

section Setpoints

variable (hctx : ctx.insertSE = insertSE modelPrefix)

include hctx

theorem panicsUnless_setpointName (fc name : Str) :
    PanicsUnless (∀ n ∈ setpoints fc name, Cuttable modelPrefix n)
      (ctx.setpointName fc name) := by
  unfold PrintContext.setpointName setpoints
  split
  · rw [hctx]
    exact (panicsUnless_insertSE modelPrefix name).congr (by simp)
  · exact (PanicsUnless.of_ok name).congr (by simp)

theorem setpointName_eq_variable {fc name name' : Str}
    (h : ctx.setpointName fc name = .ok name') :
    name' = setpointVariable (mangleSE modelPrefix) fc name := by
  refine setpointName_eq_ok (fun before after hafter => ?_) h
  rw [hctx] at hafter
  exact insertSE_eq_ok hafter

/-- The rest of the call goes on with the variable of the attribute. -/
theorem panicsUnless_setpointName_bind {α : Type} {fc name : Str} {f : Str → Outcome α}
    {p : Prop} (hf : PanicsUnless p (f (setpointVariable (mangleSE modelPrefix) fc name))) :
    PanicsUnless ((∀ n ∈ setpoints fc name, Cuttable modelPrefix n) ∧ p)
      (ctx.setpointName fc name >>= f) := by
  refine (panicsUnless_setpointName hctx fc name).bind fun name' hname' => ?_
  rw [setpointName_eq_variable hctx hname']
  exact hf

end Setpoints

/-! ## Forward declarations -/

/-- The names into which the forward declaration of an attribute inserts `SE_`,
and the names recorded after it; the argument does the same for its members. -/
def declaredAttribute (modelPrefix doName : Str) (da : DataAttribute)
    (members : Str → List Str → List Str × List Str) (daNameMap : List Str) :
    List Str × List Str :=
  let daName := setpointVariable (mangleSE modelPrefix) da.fc (joinName doName da.name)
  let below := if daName ∈ daNameMap then ([], daNameMap) else members daName (daName :: daNameMap)
  (setpoints da.fc (joinName doName da.name) ++ below.1, below.2)

def declaredAttributes (modelPrefix doName : Str) :
    List DataAttribute → List Str → List Str × List Str
  | [], daNameMap => ([], daNameMap)
  | da :: rest, daNameMap =>
      have := da.sizeOf_subDataAttributes
      let own := declaredAttribute modelPrefix doName da
        (fun daName names => declaredAttributes modelPrefix daName da.subDataAttributes names)
        daNameMap
      let others := declaredAttributes modelPrefix doName rest own.2
      (own.1 ++ others.1, others.2)
  termination_by das => sizeOf das

/-- The same for a data object, whose attributes record their names apart. -/
def declaredObject (modelPrefix parent : Str) (node : DataObject)
    (objects : Str → List Str → List Str × List Str) (doNameMap : List Str) :
    List Str × List Str :=
  let doName := joinName parent node.name
  if doName ∈ doNameMap then ([], doNameMap)
  else
    let below := objects doName (doName :: doNameMap)
    (below.1 ++ (declaredAttributes modelPrefix doName node.dataAttributes []).1, below.2)

def declaredObjects (modelPrefix parent : Str) :
    List DataObject → List Str → List Str × List Str
  | [], doNameMap => ([], doNameMap)
  | node :: rest, doNameMap =>
      have := node.sizeOf_subDataObjects
      let own := declaredObject modelPrefix parent node
        (fun doName names => declaredObjects modelPrefix doName node.subDataObjects names)
        doNameMap
      let others := declaredObjects modelPrefix parent rest own.2
      (own.1 ++ others.1, others.2)
  termination_by nodes => sizeOf nodes

/-- The names into which the forward declarations of all devices insert `SE_`. -/
def declaredSetpoints (modelPrefix : Str) (devices : List LogicalDevice) : List Str :=
  devices.flatMap fun device =>
    device.logicalNodes.flatMap fun ln =>
      (declaredObjects modelPrefix
        (joinName (joinName modelPrefix device.inst) ln.getName) ln.dataObjects []).1

/-- The call panics unless all names can be cut, and otherwise ends with these
names recorded. -/
structure Declares (modelPrefix : Str) (cutAndRecorded : List Str × List Str)
    (r : Outcome (List ExternDeclaration × List Str)) : Prop where
  safe : PanicsUnless (∀ name ∈ cutAndRecorded.1, Cuttable modelPrefix name) r
  recorded : ∀ out, r = .ok out → out.2 = cutAndRecorded.2

/-- One declaration after the other. -/
theorem Declares.append {first second : List Str × List Str}
    {own : Outcome (List ExternDeclaration × List Str)}
    {others : List Str → Outcome (List ExternDeclaration × List Str)}
    (hown : Declares modelPrefix first own)
    (hothers : Declares modelPrefix second (others first.2)) :
    Declares modelPrefix (first.1 ++ second.1, second.2) (do
      let (declared, names) ← own
      let (more, names) ← others names
      pure (declared ++ more, names)) := by
  constructor
  · refine (hown.safe.bind fun out hout => ?_).congr List.forall_mem_append.symm
    obtain ⟨declared, names⟩ := out
    obtain rfl : names = first.2 := hown.recorded _ hout
    exact hothers.safe.map
  · intro out hout
    obtain ⟨⟨declared, names⟩, hfirst, hout⟩ := bind_eq_ok.mp hout
    obtain rfl : names = first.2 := hown.recorded _ hfirst
    obtain ⟨after, hafter, hout⟩ := bind_eq_ok.mp hout
    rw [← Except.ok.inj hout]
    exact hothers.recorded after hafter

section Declarations

variable (hctx : ctx.insertSE = insertSE modelPrefix)

include hctx

theorem declares_dataAttribute {doName : Str} {da : DataAttribute}
    {members : Str → List Str → List Str × List Str} (daNameMap : List Str)
    (hmembers : ∀ daName names, Declares modelPrefix (members daName names)
      (printDataObjectForwardDeclarationsByDA ctx daName da.subDataAttributes names)) :
    Declares modelPrefix (declaredAttribute modelPrefix doName da members daNameMap)
      (declareDataAttribute ctx doName da daNameMap) := by
  rw [declareDataAttribute_eq, declaredAttribute]
  by_cases hmem : setpointVariable (mangleSE modelPrefix) da.fc (joinName doName da.name) ∈
      daNameMap
  · rw [if_pos hmem]
    constructor
    · refine (panicsUnless_setpointName_bind hctx ?_).congr List.forall_mem_append.symm
      rw [if_pos hmem]
      exact (PanicsUnless.of_ok _).congr (by simp)
    · intro out hout
      obtain ⟨daName, hdaName, hout⟩ := bind_eq_ok.mp hout
      obtain rfl := setpointName_eq_variable hctx hdaName
      rw [if_pos hmem] at hout
      rw [← Except.ok.inj hout]
  · rw [if_neg hmem]
    constructor
    · refine (panicsUnless_setpointName_bind hctx ?_).congr List.forall_mem_append.symm
      rw [if_neg hmem]
      exact (hmembers _ _).safe.map
    · intro out hout
      obtain ⟨daName, hdaName, hout⟩ := bind_eq_ok.mp hout
      obtain rfl := setpointName_eq_variable hctx hdaName
      rw [if_neg hmem] at hout
      obtain ⟨below, hbelow, hout⟩ := bind_eq_ok.mp hout
      rw [← Except.ok.inj hout]
      exact (hmembers _ _).recorded below hbelow

theorem declares_dataAttributes (doName : Str) (das : List DataAttribute)
    (daNameMap : List Str) :
    Declares modelPrefix (declaredAttributes modelPrefix doName das daNameMap)
      (printDataObjectForwardDeclarationsByDA ctx doName das daNameMap) := by
  induction das using dataAttribute_induction generalizing doName daNameMap with
  | nil =>
      rw [declaredAttributes]
      exact ⟨(PanicsUnless.of_ok _).congr (by simp), fun out hout => by
        rw [← Except.ok.inj hout]⟩
  | cons da rest ihm ihr =>
      rw [declaredAttributes]
      exact (declares_dataAttribute hctx daNameMap ihm).append (ihr doName _)

theorem declares_dataObject {parent : Str} {node : DataObject}
    {objects : Str → List Str → List Str × List Str} (doNameMap : List Str)
    (hobjects : ∀ doName names, Declares modelPrefix (objects doName names)
      (printDataObjectForwardDeclarationsByDO ctx doName node.subDataObjects names)) :
    Declares modelPrefix (declaredObject modelPrefix parent node objects doNameMap)
      (declareDataObject ctx parent node doNameMap) := by
  rw [declareDataObject_eq, declaredObject]
  by_cases hmem : joinName parent node.name ∈ doNameMap
  · simp only [if_pos hmem]
    exact ⟨(PanicsUnless.of_ok _).congr (by simp), fun out hout => by
      rw [← Except.ok.inj hout]⟩
  · simp only [if_neg hmem]
    have hattributes := declares_dataAttributes hctx (joinName parent node.name)
      node.dataAttributes []
    constructor
    · refine ((hobjects _ _).safe.bind fun below hbelow => ?_).congr List.forall_mem_append.symm
      exact hattributes.safe.map
    · intro out hout
      obtain ⟨below, hbelow, hout⟩ := bind_eq_ok.mp hout
      obtain ⟨attributes, -, hout⟩ := bind_eq_ok.mp hout
      rw [← Except.ok.inj hout]
      exact (hobjects _ _).recorded below hbelow

theorem declares_dataObjects (parent : Str) (nodes : List DataObject)
    (doNameMap : List Str) :
    Declares modelPrefix (declaredObjects modelPrefix parent nodes doNameMap)
      (printDataObjectForwardDeclarationsByDO ctx parent nodes doNameMap) := by
  induction nodes using dataObject_induction generalizing parent doNameMap with
  | nil =>
      rw [declaredObjects]
      exact ⟨(PanicsUnless.of_ok _).congr (by simp), fun out hout => by
        rw [← Except.ok.inj hout]⟩
  | cons node rest ihm ihr =>
      rw [declaredObjects]
      exact (declares_dataObject hctx doNameMap ihm).append (ihr parent _)

theorem panicsUnless_printForwardDeclarations (devices : List LogicalDevice) :
    PanicsUnless
      (∀ name ∈ declaredSetpoints modelPrefix devices, Cuttable modelPrefix name)
      (printForwardDeclarations ctx modelPrefix devices) := by
  unfold printForwardDeclarations
  refine PanicsUnless.map ((PanicsUnless.mapM fun device _ => ?_).congr
    List.forall_mem_flatMap.symm)
  refine PanicsUnless.map ((PanicsUnless.mapM fun ln _ => ?_).congr
    List.forall_mem_flatMap.symm)
  exact PanicsUnless.map (declares_dataObjects hctx _ ln.dataObjects []).safe

end Declarations

/-! ## Initial values -/

/-- An octet string is printed byte by byte. -/
def HasBytes (type : AttributeType) (value : Option GoValue) : Prop :=
  type = .octetString64 → ∃ decoded, value = some (.bytes decoded)

/-- A default value whose ordinal is still open names an enumeration, or nothing
that is declared. -/
def Resolvable (templates : Option DataTypeTemplates) (v : DataModelValue) : Prop :=
  v.enumType ≠ [] → ∃ declared, templates = some declared ∧
    ∀ t, declared.lookupType v.enumType = some t → ∃ e, t = .enumerationType e

/-- The instance value, or else the default of the definition, can be printed. -/
def ValuePrintable (templates : Option DataTypeTemplates) (da : DataAttribute) : Prop :=
  ∀ v, da.value.or da.definition.value = some v →
    HasBytes da.attributeType v.value ∧
      (da.value = none → v.value = none → Resolvable templates v)

theorem panicsUnless_updateEnumOrdValue (templates : Option DataTypeTemplates)
    (v : DataModelValue) :
    PanicsUnless (Resolvable templates v) (v.updateEnumOrdValue templates) := by
  unfold DataModelValue.updateEnumOrdValue Resolvable
  by_cases htype : v.enumType = []
  · rw [if_pos htype]
    exact (PanicsUnless.of_ok v).congr (by simp [htype])
  · rw [if_neg htype]
    cases templates with
    | none => exact ⟨by simp [htype], fun _ => panics_panic _⟩
    | some declared =>
        simp only [deref, ok_bind, ne_eq, htype, not_false_eq_true, forall_const,
          Option.some.injEq, exists_eq_left']
        cases declared.lookupType v.enumType with
        | none => exact (PanicsUnless.of_ok v).congr (by simp)
        | some t =>
            cases t with
            | enumerationType e =>
                cases hord : e.getOrdByEnumString v.unknownEnumValue with
                | none =>
                    simp only [hord]
                    exact (PanicsUnless.of_ok v).congr (by simp)
                | some ord =>
                    simp only [hord]
                    exact (PanicsUnless.of_ok _).congr (by simp)
            | _ => exact ⟨by simp, fun _ => panics_panic _⟩

theorem value_of_updateEnumOrdValue {templates : Option DataTypeTemplates}
    {v v' : DataModelValue} (h : v.updateEnumOrdValue templates = .ok v') :
    v'.value = v.value ∨ ∃ ord, v'.value = some (.int ord) := by
  unfold DataModelValue.updateEnumOrdValue at h
  split at h
  next =>
    obtain rfl := Except.ok.inj h
    exact Or.inl rfl
  next =>
    obtain ⟨declared, -, h⟩ := bind_eq_ok.mp h
    repeat' split at h
    all_goals first
      | cases h; done
      | (obtain rfl := Except.ok.inj h; exact Or.inl rfl)
      | (obtain rfl := Except.ok.inj h; exact Or.inr ⟨_, rfl⟩)

theorem panicsUnless_printValue (daName : Str) (type : AttributeType) (v : DataModelValue) :
    PanicsUnless (HasBytes type v.value) (printValue ctx daName type v) := by
  refine PanicsUnless.map ?_
  unfold HasBytes
  cases type with
  | octetString64 =>
      simp only [printedValue, forall_const]
      split
      next decoded hbytes => exact (PanicsUnless.of_ok _).congr (by simp [hbytes])
      next hother =>
        refine ⟨?_, fun _ => panics_panic _⟩
        rintro ⟨decoded, hbytes⟩
        exact absurd hbytes (hother decoded)
  | _ => exact (PanicsUnless.of_ok _).congr (by simp)

/-- An attribute with this value. -/
theorem panicsUnless_printValues (daName : Str) (type : AttributeType) (v : DataModelValue) :
    PanicsUnless (HasBytes type v.value)
      ((some v).toList.mapM (printValue ctx daName type)) :=
  (PanicsUnless.mapM fun value _ => panicsUnless_printValue daName type value).congr (by simp)

theorem panicsUnless_printInitialValue (daName : Str) (da : DataAttribute) :
    PanicsUnless (ValuePrintable ctx.templates da) (printInitialValue ctx daName da) := by
  unfold printInitialValue initialValue ValuePrintable
  cases hvalue : da.value with
  | some v =>
      exact (panicsUnless_printValues daName da.attributeType v).congr (by simp)
  | none =>
      cases hdefault : da.definition.value with
      | none => exact (PanicsUnless.of_ok []).congr (by simp)
      | some v =>
          by_cases hopen : v.value = none
          · have hupdate := panicsUnless_updateEnumOrdValue ctx.templates v
            simp only [if_pos hopen, bind_assoc, pure_bind]
            refine (hupdate.bind (q := HasBytes da.attributeType v.value)
              fun v' hv' => ?_).congr (by simp [hopen, and_comm])
            refine (panicsUnless_printValues daName da.attributeType v').congr ?_
            unfold HasBytes
            rcases value_of_updateEnumOrdValue hv' with hsame | ⟨ord, hord⟩
            · rw [hsame]
            · simp [hord, hopen]
          · simp only [if_neg hopen, pure_bind]
            exact (panicsUnless_printValues daName da.attributeType v).congr (by simp [hopen])

/-! ## Definitions -/

/-- The names into which the definitions of a list of attributes insert `SE_`. -/
def definedAttributes (modelPrefix doName : Str) : List DataAttribute → List Str
  | [] => []
  | da :: rest =>
      have := da.sizeOf_subDataAttributes
      let daName := setpointVariable (mangleSE modelPrefix) da.fc (joinName doName da.name)
      setpoints da.fc (joinName doName da.name) ++
        (rest.head?.toList.flatMap (fun next => setpoints next.fc doName) ++
        ((if 0 < da.count then
          (List.range da.count.toNat).flatMap fun idx =>
            definedAttributes modelPrefix (joinName daName (itoa idx)) da.subDataAttributes
        else definedAttributes modelPrefix daName da.subDataAttributes) ++
        definedAttributes modelPrefix doName rest))
  termination_by das => sizeOf das

def definedObjects (modelPrefix parent : Str) : List DataObject → List Str
  | [] => []
  | node :: rest =>
      have := node.sizeOf_subDataObjects
      let doName := joinName parent node.name
      node.dataAttributes.head?.toList.flatMap (fun da => setpoints da.fc doName) ++
        (definedObjects modelPrefix doName node.subDataObjects ++
        (definedAttributes modelPrefix doName node.dataAttributes ++
        definedObjects modelPrefix parent rest))
  termination_by nodes => sizeOf nodes

/-- All names can be cut and all values can be printed. -/
def AttributesSafe (modelPrefix : Str) (templates : Option DataTypeTemplates)
    (names : List Str) (das : List DataAttribute) : Prop :=
  (∀ name ∈ names, Cuttable modelPrefix name) ∧
    ∀ da ∈ das, da.Everywhere (ValuePrintable templates)

theorem panicsUnless_attributeSibling (hctx : ctx.insertSE = insertSE modelPrefix)
    (doName : Str) (next : Option DataAttribute) :
    PanicsUnless
      (∀ name ∈ next.toList.flatMap (fun da => setpoints da.fc doName),
        Cuttable modelPrefix name)
      (attributeSibling ctx doName next) := by
  cases next with
  | none => exact (PanicsUnless.of_ok none).congr (by simp)
  | some da => exact (panicsUnless_setpointName hctx da.fc doName).map.congr (by simp)

theorem panicsUnless_printAttributeChildren {daName : Str} {isTransient : Bool}
    {da : DataAttribute}
    (hmembers : ∀ daName, PanicsUnless
      (AttributesSafe modelPrefix ctx.templates
        (definedAttributes modelPrefix daName da.subDataAttributes) da.subDataAttributes)
      (printDataAttributeDefinitions ctx daName isTransient da.subDataAttributes)) :
    PanicsUnless
      (AttributesSafe modelPrefix ctx.templates
        (if 0 < da.count then
          (List.range da.count.toNat).flatMap fun idx =>
            definedAttributes modelPrefix (joinName daName (itoa idx)) da.subDataAttributes
        else definedAttributes modelPrefix daName da.subDataAttributes) da.subDataAttributes)
      (printAttributeChildren ctx daName isTransient da) := by
  unfold printAttributeChildren
  split
  next harray =>
    have helements : PanicsUnless _
        ((List.range da.count.toNat).mapM (printElement ctx daName isTransient da)) :=
      PanicsUnless.mapM fun idx _ => (hmembers (joinName daName (itoa idx))).map
    refine helements.map.congr ?_
    have hzero : 0 ∈ List.range da.count.toNat := List.mem_range.mpr (by omega)
    simp only [AttributesSafe, List.forall_mem_flatMap]
    constructor
    · intro h
      exact ⟨fun idx hidx => (h idx hidx).1, (h 0 hzero).2⟩
    · rintro ⟨hnames, hvalues⟩ idx hidx
      exact ⟨hnames idx hidx, hvalues⟩
  next => exact hmembers daName

theorem panicsUnless_printDataAttributeDefinitions
    (hctx : ctx.insertSE = insertSE modelPrefix) (doName : Str) (isTransient : Bool)
    (das : List DataAttribute) :
    PanicsUnless
      (AttributesSafe modelPrefix ctx.templates (definedAttributes modelPrefix doName das) das)
      (printDataAttributeDefinitions ctx doName isTransient das) := by
  induction das using dataAttribute_induction generalizing doName with
  | nil =>
      rw [definedAttributes]
      exact (PanicsUnless.of_ok _).congr (by simp [AttributesSafe])
  | cons da rest ihm ihr =>
      have hsibling := panicsUnless_attributeSibling hctx doName rest.head?
      rw [printDataAttributeDefinitions, printDataAttributeDefinition_eq]
      refine PanicsUnless.congr (PanicsUnless.bind (panicsUnless_setpointName_bind hctx
        (hsibling.bind fun _ _ => (panicsUnless_printAttributeChildren ihm).bind fun _ _ =>
          (panicsUnless_printInitialValue _ da).map)) fun _ _ => (ihr doName).map) ?_
      rw [definedAttributes]
      simp only [AttributesSafe, List.forall_mem_append, List.forall_mem_cons,
        @DataAttribute.everywhere_iff _ da]
      tauto

theorem panicsUnless_firstAttributeName (hctx : ctx.insertSE = insertSE modelPrefix)
    (doName : Str) (das : List DataAttribute) :
    PanicsUnless
      (∀ name ∈ das.head?.toList.flatMap (fun da => setpoints da.fc doName),
        Cuttable modelPrefix name)
      (firstAttributeName ctx doName das) := by
  cases das with
  | nil => exact (PanicsUnless.of_ok []).congr (by simp)
  | cons da rest => exact (panicsUnless_setpointName hctx da.fc doName).map.congr (by simp)

/-- All names can be cut and all values below the data objects can be printed. -/
def ObjectsSafe (modelPrefix : Str) (templates : Option DataTypeTemplates)
    (names : List Str) (nodes : List DataObject) : Prop :=
  (∀ name ∈ names, Cuttable modelPrefix name) ∧
    ∀ node ∈ nodes, node.AllAttributes fun da => da.Everywhere (ValuePrintable templates)

theorem panicsUnless_printDataObjectDefinitions
    (hctx : ctx.insertSE = insertSE modelPrefix) (lnName sibling : Str) (isTransient : Bool)
    (nodes : List DataObject) :
    PanicsUnless
      (ObjectsSafe modelPrefix ctx.templates (definedObjects modelPrefix lnName nodes) nodes)
      (printDataObjectDefinitions ctx lnName sibling isTransient nodes) := by
  induction nodes using dataObject_induction generalizing lnName sibling isTransient with
  | nil =>
      rw [definedObjects]
      exact (PanicsUnless.of_ok _).congr (by simp [ObjectsSafe])
  | cons node rest ihm ihr =>
      have hfirst := panicsUnless_firstAttributeName hctx (joinName lnName node.name)
        node.dataAttributes
      have hattributes := panicsUnless_printDataAttributeDefinitions hctx
        (joinName lnName node.name) (isTransient || node.trans) node.dataAttributes
      rw [printDataObjectDefinitions, printDataObjectDefinition_eq]
      refine PanicsUnless.congr (PanicsUnless.bind
        (hfirst.bind fun first _ => (ihm (joinName lnName node.name) first
          (isTransient || node.trans)).bind fun _ _ => hattributes.map)
        fun _ _ => (ihr lnName sibling isTransient).map) ?_
      rw [definedObjects]
      simp only [AttributesSafe, ObjectsSafe, List.forall_mem_append, List.forall_mem_cons,
        @DataObject.allAttributes_iff _ node]
      tauto

end Iec61850.Scl
