import Iec61850.GeneratorOutput
import Iec61850.ModelValues

/-!
# The data model part of the generator

The forward declarations of the `.h` file and the definitions of data objects
and data attributes in the `.c` file.  They come from two recursions over the
same trees, each with its own way to build the names.  A print function
returns what it appends to the output.
-/

namespace Iec61850.Scl

open Go

/-- `fmt.Sprintf("%s_%s", parent, name)` -/
def joinName (parent name : Str) : Str := parent ++ '_' :: name

/-- The name of an attribute of constraint SE: `SE_` is inserted after nine
bytes, unless the name already starts with `<modelPrefix>_SE_`. -/
def insertSE (modelPrefix name : Str) : Outcome Str :=
  if hasPrefix name (modelPrefix ++ lit "_SE_") then .ok name
  else if name.length < 9 then .error (.panic .indexOutOfRange)
  else .ok (name.take 9 ++ lit "SE_" ++ name.drop 9)

/-- What the print functions of the data model read from the generator; the
model prefix only enters through the names of SE attributes. -/
structure PrintContext where
  rt : Runtime
  templates : Option DataTypeTemplates
  initializeOnce : Bool
  insertSE : Str → Outcome Str

def PrintContext.setpointName (ctx : PrintContext) (fc name : Str) : Outcome Str :=
  if fc = lit "SE" then ctx.insertSE name else .ok name

/-! ## Forward declarations -/

mutual

/-- Returns the declarations and the names recorded in `daNameMap`. -/
def printDataObjectForwardDeclarationsByDA (ctx : PrintContext) (doName : Str) :
    List DataAttribute → List Str → Outcome (List ExternDeclaration × List Str)
  | [], daNameMap => pure ([], daNameMap)
  | da :: rest, daNameMap => do
      let (declared, daNameMap) ← declareDataAttribute ctx doName da daNameMap
      let (others, daNameMap) ←
        printDataObjectForwardDeclarationsByDA ctx doName rest daNameMap
      pure (declared ++ others, daNameMap)

def declareDataAttribute (ctx : PrintContext) (doName : Str) :
    DataAttribute → List Str → Outcome (List ExternDeclaration × List Str)
  | ⟨name, fc, _, _, _, _, subDataAttributes, _, _, _⟩, daNameMap => do
      let daName ← ctx.setpointName fc (joinName doName name)
      if daName ∈ daNameMap then pure ([], daNameMap)
      else do
        let (declared, daNameMap) ←
          printDataObjectForwardDeclarationsByDA ctx daName subDataAttributes
            (daName :: daNameMap)
        pure (⟨.dataAttribute, daName⟩ :: declared, daNameMap)

end

mutual

/-- Returns the declarations and the names recorded in `doNameMap`. -/
def printDataObjectForwardDeclarationsByDO (ctx : PrintContext) (parent : Str) :
    List DataObject → List Str → Outcome (List ExternDeclaration × List Str)
  | [], doNameMap => pure ([], doNameMap)
  | node :: rest, doNameMap => do
      let (declared, doNameMap) ← declareDataObject ctx parent node doNameMap
      let (others, doNameMap) ←
        printDataObjectForwardDeclarationsByDO ctx parent rest doNameMap
      pure (declared ++ others, doNameMap)

def declareDataObject (ctx : PrintContext) (parent : Str) :
    DataObject → List Str → Outcome (List ExternDeclaration × List Str)
  | ⟨name, _, _, dataAttributes, subDataObjects⟩, doNameMap =>
      let doName := joinName parent name
      if doName ∈ doNameMap then pure ([], doNameMap)
      else do
        let (objects, doNameMap) ←
          printDataObjectForwardDeclarationsByDO ctx doName subDataObjects
            (doName :: doNameMap)
        let (attributes, _) ←
          printDataObjectForwardDeclarationsByDA ctx doName dataAttributes []
        pure (⟨.dataObject, doName⟩ :: objects ++ attributes, doNameMap)

end

/-! ## Initial values -/

/-- The value of an attribute: the instance value or the default of its type. -/
def initialValue (ctx : PrintContext) (dataAttribute : DataAttribute) :
    Outcome (Option DataModelValue) :=
  match dataAttribute.value with
  | some value => pure (some value)
  | none =>
      match dataAttribute.definition.value with
      | none => pure none
      | some value =>
          if value.value = none then do
            let updated ← value.updateEnumOrdValue ctx.templates
            pure (some updated)
          else pure (some value)

/-- The expression that `printValue` assigns. -/
def printedValue (ctx : PrintContext) (daName : Str) (type : AttributeType)
    (value : Option GoValue) : Outcome InitialValue :=
  match type with
  | .enumerated | .int8 | .int16 | .int32 | .int64 =>
      .ok (.integer (ctx.rt.castToInt value))
  | .int8U | .int16U | .int24U | .int32U => .ok (.unsigned (ctx.rt.castToInt64 value))
  | .boolean => .ok (.boolean (ctx.rt.castToBoolValue value))
  | .octetString64 =>
      match value with
      | some (.bytes decoded) => .ok (.octetString (daName ++ lit "__val") decoded)
      | _ => .error (.panic .typeAssertion)
  | .codedEnum => .ok (.bitString value)
  | .unicodeString255 => .ok (.mmsString value)
  | .visibleString32 | .visibleString64 | .visibleString129 | .visibleString255
  | .visibleString65 | .currency => .ok (.visibleString value)
  | .float32 => .ok (.float value)
  | .float64 => .ok (.double value)
  | .timestamp => .ok (.utcTime value)
  | _ => .ok .null

/-- `printValue`, without the line breaks. -/
def printValue (ctx : PrintContext) (daName : Str) (type : AttributeType)
    (value : DataModelValue) : Outcome InitStatement := do
  let printed ← printedValue ctx daName type value.value
  pure { target := daName, once := ctx.initializeOnce, value := printed }

/-- The statement that gives the attribute its initial value, if it has one. -/
def printInitialValue (ctx : PrintContext) (daName : Str) (dataAttribute : DataAttribute) :
    Outcome (List InitStatement) := do
  let value ← initialValue ctx dataAttribute
  value.toList.mapM (printValue ctx daName dataAttribute.attributeType)

/-! ## Definitions -/

/-- What is appended to the `.c` file, to `variablesList` and to the
initializer buffer. -/
@[ext] structure Definitions where
  cOut : List NodeDefinition := []
  variablesList : List Str := []
  initializerBuffer : List InitStatement := []
  deriving DecidableEq, Repr

instance : Append Definitions where
  append a b :=
    ⟨a.cOut ++ b.cOut, a.variablesList ++ b.variablesList,
      a.initializerBuffer ++ b.initializerBuffer⟩

def Definitions.ofNode (d : NodeDefinition) : Definitions where
  cOut := [d]
  variablesList := [d.variableName]

def Definitions.ofStatements (statements : List InitStatement) : Definitions where
  initializerBuffer := statements

def Definitions.concat (parts : List Definitions) : Definitions :=
  parts.foldr (· ++ ·) {}

@[simp] theorem Definitions.append_cOut (a b : Definitions) :
    (a ++ b).cOut = a.cOut ++ b.cOut := rfl

@[simp] theorem Definitions.append_variablesList (a b : Definitions) :
    (a ++ b).variablesList = a.variablesList ++ b.variablesList := rfl

@[simp] theorem Definitions.append_initializerBuffer (a b : Definitions) :
    (a ++ b).initializerBuffer = a.initializerBuffer ++ b.initializerBuffer := rfl

theorem Definitions.append_assoc (a b c : Definitions) : a ++ b ++ c = a ++ (b ++ c) := by
  apply Definitions.ext <;> simp

theorem Definitions.append_empty (a : Definitions) : a ++ ({} : Definitions) = a := by
  apply Definitions.ext <;> simp

@[simp] theorem Definitions.concat_nil : Definitions.concat [] = {} := rfl

@[simp] theorem Definitions.concat_cons (part : Definitions) (parts : List Definitions) :
    Definitions.concat (part :: parts) = part ++ Definitions.concat parts := rfl

theorem Definitions.concat_initializerBuffer (parts : List Definitions) :
    (Definitions.concat parts).initializerBuffer =
      parts.flatMap Definitions.initializerBuffer := by
  induction parts with
  | nil => rfl
  | cons part parts ih =>
      rw [Definitions.concat_cons, Definitions.append_initializerBuffer, ih,
        List.flatMap_cons]

@[simp] theorem Definitions.ofNode_cOut (d : NodeDefinition) :
    (Definitions.ofNode d).cOut = [d] := rfl

@[simp] theorem Definitions.ofNode_variablesList (d : NodeDefinition) :
    (Definitions.ofNode d).variablesList = [d.variableName] := rfl

@[simp] theorem Definitions.ofNode_initializerBuffer (d : NodeDefinition) :
    (Definitions.ofNode d).initializerBuffer = [] := rfl

@[simp] theorem Definitions.ofStatements_cOut (statements : List InitStatement) :
    (Definitions.ofStatements statements).cOut = [] := rfl

@[simp] theorem Definitions.ofStatements_variablesList (statements : List InitStatement) :
    (Definitions.ofStatements statements).variablesList = [] := rfl

@[simp] theorem Definitions.ofStatements_initializerBuffer
    (statements : List InitStatement) :
    (Definitions.ofStatements statements).initializerBuffer = statements := rfl

/-- The pointer to the next element of a list of attributes. -/
def attributeSibling (ctx : PrintContext) (doName : Str) :
    Option DataAttribute → Outcome (Option Str)
  | none => pure none
  | some sibling => do
      let siblingDoName ← ctx.setpointName sibling.fc doName
      pure (some (joinName siblingDoName sibling.name))

def attributeTriggers (trgOps : Option TriggerOptions) (isTransient : Bool) :
    List TriggerFlag :=
  (match trgOps with
    | some options =>
        (if options.dchg then [.dataChanged] else []) ++
        (if options.dupd then [.dataUpdate] else []) ++
        (if options.qchg then [.qualityChanged] else [])
    | none => []) ++
  (if isTransient then [.transient] else [])

/-- A short address that is not a number is printed as 0. -/
def shortAddressValue (rt : Runtime) (shortAddress : Str) : ℤ :=
  match rt.castToInt64E shortAddress with
  | .ok address => address
  | .error _ => 0

def attributeLabel (rt : Runtime) (isTransient : Bool) (da : DataAttribute) : NodeLabel where
  kind := .dataAttribute da.count (-1) da.fc da.attributeType
    (attributeTriggers da.triggerOptions isTransient) (shortAddressValue rt da.shortAddress)
  name := some da.name

/-- An element of an array has no name, no count and no short address. -/
def elementLabel (isTransient : Bool) (idx : ℕ) (da : DataAttribute) : NodeLabel where
  kind := .dataAttribute 0 idx da.fc da.attributeType
    (attributeTriggers da.triggerOptions isTransient) 0
  name := none

def objectLabel (node : DataObject) : NodeLabel where
  kind := .dataObject node.count
  name := some node.name

/-- The definition of an attribute whose variable is `daName`. -/
def attributeNode (rt : Runtime) (daName doName : Str) (isTransient : Bool)
    (sibling : Option Str) (da : DataAttribute) : NodeDefinition where
  variableName := daName
  label := attributeLabel rt isTransient da
  parent := doName
  sibling := sibling
  firstChild :=
    if 0 < da.count then some (joinName daName (lit "0"))
    else da.subDataAttributes.head?.map fun sub => joinName daName sub.name

/-- The definition of element `idx` of the array attribute `daName`. -/
def elementNode (daName : Str) (isTransient : Bool) (idx : ℕ) (da : DataAttribute) :
    NodeDefinition where
  variableName := joinName daName (itoa idx)
  label := elementLabel isTransient idx da
  parent := daName
  sibling :=
    if (idx : ℤ) ≠ da.count - 1 then some (joinName daName (itoa (idx + 1))) else none
  firstChild :=
    da.subDataAttributes.head?.map fun sub =>
      joinName (joinName daName (itoa idx)) sub.name

mutual

def printDataAttributeDefinitions (ctx : PrintContext) (doName : Str)
    (isTransient : Bool) : List DataAttribute → Outcome Definitions
  | [] => pure {}
  | da :: rest => do
      let definition ←
        printDataAttributeDefinition ctx doName isTransient rest.head? da
      let others ← printDataAttributeDefinitions ctx doName isTransient rest
      pure (definition ++ others)

/-- One iteration of the loop of `printDataAttributeDefinitions`. -/
def printDataAttributeDefinition (ctx : PrintContext) (doName : Str)
    (isTransient : Bool) (next : Option DataAttribute) :
    DataAttribute → Outcome Definitions
  | da@⟨name, fc, _, count, _, _, subDataAttributes, _, _, _⟩ => do
      let daName ← ctx.setpointName fc (joinName doName name)
      let sibling ← attributeSibling ctx doName next
      let children ← (
        if 0 < count then do
          let elements ← (List.range count.toNat).mapM fun idx => do
            let element := elementNode daName isTransient idx da
            let members ← printDataAttributeDefinitions ctx element.variableName
              isTransient subDataAttributes
            pure (Definitions.ofNode element ++ members)
          pure (Definitions.concat elements)
        else printDataAttributeDefinitions ctx daName isTransient subDataAttributes)
      let statements ← printInitialValue ctx daName da
      pure (Definitions.ofNode (attributeNode ctx.rt daName doName isTransient sibling da) ++
        children ++ Definitions.ofStatements statements)

end

/-- The name which a data object uses for its first attribute; empty without
attributes. -/
def firstAttributeName (ctx : PrintContext) (doName : Str) :
    List DataAttribute → Outcome Str
  | [] => pure []
  | da :: _ => do
      let fDoName ← ctx.setpointName da.fc doName
      pure (joinName fDoName da.name)

/-- A pointer to the variable of this name; the empty name is `NULL`. -/
def pointerTo (name : Str) : Option Str :=
  if name = [] then none else some name

/-- The next data object; after the last one, the attribute given, if any.  A data
object finds its first child in the same way. -/
def objectSibling (lnName dataAttributeSibling : Str) : List DataObject → Option Str
  | next :: _ => some (joinName lnName next.name)
  | [] => pointerTo dataAttributeSibling

/-- The definition of a data object whose variable is `doName`. -/
def objectNode (doName lnName : Str) (sibling : Option Str) (firstDataAttributeName : Str)
    (node : DataObject) : NodeDefinition where
  variableName := doName
  label := objectLabel node
  parent := lnName
  sibling := sibling
  firstChild := objectSibling doName firstDataAttributeName node.subDataObjects

mutual

def printDataObjectDefinitions (ctx : PrintContext) (lnName : Str)
    (dataAttributeSibling : Str) (isTransient : Bool) :
    List DataObject → Outcome Definitions
  | [] => pure {}
  | dataObject :: rest => do
      let definition ← printDataObjectDefinition ctx lnName
        (objectSibling lnName dataAttributeSibling rest) isTransient dataObject
      let others ←
        printDataObjectDefinitions ctx lnName dataAttributeSibling isTransient rest
      pure (definition ++ others)

/-- One iteration of the loop of `printDataObjectDefinitions`. -/
def printDataObjectDefinition (ctx : PrintContext) (lnName : Str)
    (sibling : Option Str) (isTransient : Bool) : DataObject → Outcome Definitions
  | dataObject@⟨name, _, isTrans, dataAttributes, subDataObjects⟩ => do
      let doName := joinName lnName name
      let firstDataAttributeName ← firstAttributeName ctx doName dataAttributes
      let node := objectNode doName lnName sibling firstDataAttributeName dataObject
      let isDoTransient := isTransient || isTrans
      let objects ← printDataObjectDefinitions ctx doName firstDataAttributeName
        isDoTransient subDataObjects
      let attributes ← printDataAttributeDefinitions ctx doName isDoTransient dataAttributes
      pure (Definitions.ofNode node ++ objects ++ attributes)

end

/-! ## The recursions with the fields of their argument -/

variable {ctx : PrintContext}

def printElement (ctx : PrintContext) (daName : Str) (isTransient : Bool)
    (da : DataAttribute) (idx : ℕ) : Outcome Definitions := do
  let members ← printDataAttributeDefinitions ctx (joinName daName (itoa idx))
    isTransient da.subDataAttributes
  pure (Definitions.ofNode (elementNode daName isTransient idx da) ++ members)

def printAttributeChildren (ctx : PrintContext) (daName : Str) (isTransient : Bool)
    (da : DataAttribute) : Outcome Definitions :=
  if 0 < da.count then do
    let elements ← (List.range da.count.toNat).mapM (printElement ctx daName isTransient da)
    pure (Definitions.concat elements)
  else printDataAttributeDefinitions ctx daName isTransient da.subDataAttributes

theorem printDataAttributeDefinition_eq (doName : Str) (isTransient : Bool)
    (next : Option DataAttribute) (da : DataAttribute) :
    printDataAttributeDefinition ctx doName isTransient next da = (do
      let daName ← ctx.setpointName da.fc (joinName doName da.name)
      let sibling ← attributeSibling ctx doName next
      let children ← printAttributeChildren ctx daName isTransient da
      let statements ← printInitialValue ctx daName da
      pure (Definitions.ofNode (attributeNode ctx.rt daName doName isTransient sibling da) ++
        children ++ Definitions.ofStatements statements)) := by
  cases da
  rfl

/-- What the printed definitions of a list of attributes are made of. -/
theorem printDataAttributeDefinitions_cons_ok {doName : Str} {isTransient : Bool}
    {da : DataAttribute} {rest : List DataAttribute} {out : Definitions}
    (h : printDataAttributeDefinitions ctx doName isTransient (da :: rest) = .ok out) :
    ∃ daName sibling children statements others,
      ctx.setpointName da.fc (joinName doName da.name) = .ok daName ∧
      attributeSibling ctx doName rest.head? = .ok sibling ∧
      printAttributeChildren ctx daName isTransient da = .ok children ∧
      printInitialValue ctx daName da = .ok statements ∧
      printDataAttributeDefinitions ctx doName isTransient rest = .ok others ∧
      out = Definitions.ofNode (attributeNode ctx.rt daName doName isTransient sibling da) ++
        children ++ Definitions.ofStatements statements ++ others := by
  obtain ⟨first, hfirst, hrest⟩ := bind_eq_ok.mp h
  obtain ⟨others, hothers, hout⟩ := bind_eq_ok.mp hrest
  rw [printDataAttributeDefinition_eq] at hfirst
  obtain ⟨daName, hdaName, hfirst⟩ := bind_eq_ok.mp hfirst
  obtain ⟨sibling, hsibling, hfirst⟩ := bind_eq_ok.mp hfirst
  obtain ⟨children, hchildren, hfirst⟩ := bind_eq_ok.mp hfirst
  obtain ⟨statements, hstatements, hfirst⟩ := bind_eq_ok.mp hfirst
  refine ⟨daName, sibling, children, statements, others, hdaName, hsibling, hchildren,
    hstatements, hothers, ?_⟩
  rw [← Except.ok.inj hout, ← Except.ok.inj hfirst]

/-- The children are the elements of an array, or the members. -/
theorem printAttributeChildren_ok {daName : Str} {isTransient : Bool} {da : DataAttribute}
    {children : Definitions}
    (h : printAttributeChildren ctx daName isTransient da = .ok children) :
    (0 < da.count ∧ ∃ elements, children = Definitions.concat elements ∧
      List.Forall₂ (fun idx element => printElement ctx daName isTransient da idx = .ok element)
        (List.range da.count.toNat) elements) ∨
    (¬ 0 < da.count ∧
      printDataAttributeDefinitions ctx daName isTransient da.subDataAttributes =
        .ok children) := by
  unfold printAttributeChildren at h
  split at h
  next harray =>
    obtain ⟨elements, helements, hchildren⟩ := bind_eq_ok.mp h
    exact Or.inl ⟨harray, elements, (Except.ok.inj hchildren).symm, mapM_eq_ok.mp helements⟩
  next harray => exact Or.inr ⟨harray, h⟩

theorem printDataObjectDefinition_eq (lnName : Str) (sibling : Option Str)
    (isTransient : Bool) (node : DataObject) :
    printDataObjectDefinition ctx lnName sibling isTransient node = (do
      let doName := joinName lnName node.name
      let firstDataAttributeName ← firstAttributeName ctx doName node.dataAttributes
      let definition := objectNode doName lnName sibling firstDataAttributeName node
      let isDoTransient := isTransient || node.trans
      let objects ← printDataObjectDefinitions ctx doName firstDataAttributeName
        isDoTransient node.subDataObjects
      let attributes ←
        printDataAttributeDefinitions ctx doName isDoTransient node.dataAttributes
      pure (Definitions.ofNode definition ++ objects ++ attributes)) := by
  cases node
  rfl

/-- What the printed definitions of a list of data objects are made of. -/
theorem printDataObjectDefinitions_cons_ok {lnName dataAttributeSibling : Str}
    {isTransient : Bool} {node : DataObject} {rest : List DataObject} {out : Definitions}
    (h : printDataObjectDefinitions ctx lnName dataAttributeSibling isTransient
      (node :: rest) = .ok out) :
    ∃ firstDataAttributeName objects attributes others,
      firstAttributeName ctx (joinName lnName node.name) node.dataAttributes =
        .ok firstDataAttributeName ∧
      printDataObjectDefinitions ctx (joinName lnName node.name) firstDataAttributeName
        (isTransient || node.trans) node.subDataObjects = .ok objects ∧
      printDataAttributeDefinitions ctx (joinName lnName node.name)
        (isTransient || node.trans) node.dataAttributes = .ok attributes ∧
      printDataObjectDefinitions ctx lnName dataAttributeSibling isTransient rest =
        .ok others ∧
      out = Definitions.ofNode (objectNode (joinName lnName node.name) lnName
          (objectSibling lnName dataAttributeSibling rest) firstDataAttributeName node) ++
        objects ++ attributes ++ others := by
  obtain ⟨first, hfirst, hrest⟩ := bind_eq_ok.mp h
  obtain ⟨others, hothers, hout⟩ := bind_eq_ok.mp hrest
  rw [printDataObjectDefinition_eq] at hfirst
  obtain ⟨firstDataAttributeName, hname, hfirst⟩ := bind_eq_ok.mp hfirst
  obtain ⟨objects, hobjects, hfirst⟩ := bind_eq_ok.mp hfirst
  obtain ⟨attributes, hattributes, hfirst⟩ := bind_eq_ok.mp hfirst
  refine ⟨firstDataAttributeName, objects, attributes, others, hname, hobjects, hattributes,
    hothers, ?_⟩
  rw [← Except.ok.inj hout, ← Except.ok.inj hfirst]

theorem declareDataAttribute_eq (doName : Str) (da : DataAttribute) (daNameMap : List Str) :
    declareDataAttribute ctx doName da daNameMap = (do
      let daName ← ctx.setpointName da.fc (joinName doName da.name)
      if daName ∈ daNameMap then pure ([], daNameMap)
      else do
        let (declared, daNameMap) ←
          printDataObjectForwardDeclarationsByDA ctx daName da.subDataAttributes
            (daName :: daNameMap)
        pure (⟨.dataAttribute, daName⟩ :: declared, daNameMap)) := by
  cases da
  rfl

theorem declareDataObject_eq (parent : Str) (node : DataObject) (doNameMap : List Str) :
    declareDataObject ctx parent node doNameMap = (
      let doName := joinName parent node.name
      if doName ∈ doNameMap then pure ([], doNameMap)
      else do
        let (objects, doNameMap) ←
          printDataObjectForwardDeclarationsByDO ctx doName node.subDataObjects
            (doName :: doNameMap)
        let (attributes, _) ←
          printDataObjectForwardDeclarationsByDA ctx doName node.dataAttributes []
        pure (⟨.dataObject, doName⟩ :: objects ++ attributes, doNameMap)) := by
  cases node
  rfl

end Iec61850.Scl
