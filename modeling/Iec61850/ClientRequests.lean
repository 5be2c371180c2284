import Iec61850.ControlSequence
import Iec61850.DescribedVariables
import Iec61850.DirectoryModel
import Iec61850.IntegerWrites
import Iec61850.LibraryCalls
import Iec61850.ReportControlBlocks

/-!
# Requests of a client as calls of the library

The functions of `Client` with the strings, lists, values and other objects that they get
from C and give back, each with the results of the models above.
-/

namespace Iec61850.Mms

open Go Handles

/-! ## Specifications without sizes -/

mutual

/-- The specification as it is walked. -/
def SizedVariableSpec.unsized : SizedVariableSpec → MmsVariableSpec
  | ⟨type, name, array, struct, _⟩ => ⟨type, name, unsizedArray array, unsizedStructure struct⟩

def unsizedArray : Option (MmsArraySpec SizedVariableSpec) → Option (MmsArraySpec MmsVariableSpec)
  | none => none
  | some ⟨elementCount, element⟩ => some ⟨elementCount, unsizedElement element⟩

def unsizedElement : Option SizedVariableSpec → Option MmsVariableSpec
  | none => none
  | some element => some element.unsized

def unsizedStructure : Option (MmsStructureSpec SizedVariableSpec) →
    Option (MmsStructureSpec MmsVariableSpec)
  | none => none
  | some ⟨elements⟩ => some ⟨unsizedElements elements⟩

def unsizedElements : List SizedVariableSpec → List MmsVariableSpec
  | [] => []
  | element :: rest => element.unsized :: unsizedElements rest

end

/-! ## The library -/

/-- What a request makes, or is given by the library, and has to give back. -/
inductive CObject
  /-- `C.CString` and `Go2CStr`; given back by `C.free`, as the next. -/
  | string
  /-- The text that `IedConnection_readStringValue` allocates. -/
  | text
  | linkedList
  /-- The entries of a file directory with their list. -/
  | fileList
  /-- A value with its elements. -/
  | mmsValue
  /-- An element that is deleted by itself. -/
  | element
  | variableSpecification
  | dataSet
  | controlObject
  | reportControlBlock
  deriving DecidableEq

inductive ScalarKind
  | boolean
  | int32
  | int64
  | unsigned32
  | float
  deriving DecidableEq

@[reducible] def ScalarKind.Value (Float : Type) : ScalarKind → Type
  | .boolean => Bool
  | .int32 => BitVec 32
  | .int64 => BitVec 64
  | .unsigned32 => BitVec 32
  | .float => Float

/-- The requests that are answered by a list of strings. -/
inductive NamesQuery
  | logicalDeviceDirectory (logicalDeviceName : CBytes)
  | logicalNodeDirectory (logicalNodeReference : CBytes) (acsiClass : ACSIClass)
  | dataSetDirectory (dataSetReference : CBytes)
  | dataDirectoryFC (dataObjectReference : CBytes)
  | serverDirectory (getFileNames : Bool)
  | logicalDeviceList
  | logicalDeviceVariables (ldName : Str)
  | logicalDeviceDataSets (ldName : Str)

/-- The code and the list are independent. -/
structure NamesAnswer where
  clientError : ℤ
  list : Option (List CBytes)
  isDeletable : Bool := false

structure PointerAnswer (Target : Type) where
  clientError : ℤ
  pointer : Option Target

/-- A specification with the first word of `typeSpec`. -/
structure DeliveredSpec where
  described : CVarSpecification
  typeSpec : BitVec 32

def DeliveredSpec.variable (spec : DeliveredSpec) : CVariableSpec :=
  ⟨spec.described.getType, spec.typeSpec⟩

structure FileDirectoryEntry where
  name : Str
  size : ℤ
  /-- In milliseconds. -/
  lastModified : ℤ
  deriving DecidableEq

/-- The calls that are answered by the server, with what arrives in C. -/
inductive LibraryQuery (Float : Type)
  | names (query : NamesQuery)
  | readScalar (kind : ScalarKind) (objectReference : Str) (fc : ℤ)
  | readStringValue (objectReference : Str) (fc : ℤ)
  | readObject (objectReference : Str) (fc : ℤ)
  | readDataSetValues (dataSetReference : Str)
  | getVariableSpecification (dataAttributeReference : Str) (fc : ℤ)
  | writeObject (objectReference : Str) (fc : ℤ) (mmsValue : CMmsValue Float)
  | createControl (objectReference : Str)
  | select (control : ControlObject)
  | selectWithValue (control : ControlObject) (ctlVal : CtlVal Float)
  | operate (control : ControlObject) (ctlVal : CtlVal Float) (operTime : ℕ)
  | getRCBValues (rcbReference : Str)
  | isBuffered (rcbReference : Str)
  | setRCBValues (rcbReference : Str) (rcb : RcbAttributes) (parametersMask : BitVec 32)
  | triggerGIReport (rcbReference : Str)
  | getFileDirectory (directoryName : Option Str)

/-- An object, or a data set, is `NULL` exactly if the request failed.  The code and the
pointer of the other answers are independent. -/
@[reducible] def LibraryAnswer (Float : Type) : LibraryQuery Float → Type
  | .names _ => NamesAnswer
  | .readScalar kind _ _ => ℤ × kind.Value Float
  | .readStringValue _ _ => PointerAnswer Str
  | .readObject _ _ => Except IedError (CMmsValue Float)
  | .readDataSetValues _ => Except IedError (List (CMmsValue Float))
  | .getVariableSpecification _ _ => PointerAnswer DeliveredSpec
  | .writeObject _ _ _ => ℤ
  | .createControl _ => Option ControlObject
  | .select _ => Bool
  | .selectWithValue _ _ => Bool
  | .operate _ _ _ => Bool
  | .getRCBValues _ => PointerAnswer RcbAttributes
  | .isBuffered _ => Bool
  | .setRCBValues _ _ _ => ℤ
  | .triggerGIReport _ => ℤ
  | .getFileDirectory _ => PointerAnswer (List (Str × BitVec 32 × BitVec 64))

/-- The conversions between Go and C, and the search in a value of C. -/
structure Conversions (Float Other : Type) where
  go2CStr : Str → CBytes
  c2GoStr : CBytes → Str
  /-- The place of the component that `MmsValue_getSubElement` returns, unless it returns
  `NULL`. -/
  getSubElement : CMmsValue Float → CVarSpecification → Str → Option ℕ
  values : ValueLibrary Float
  cast : Caster Float Other
  /-- `cast.ToInt` -/
  toInt : GoContent Float → ℤ
  /-- `cast.ToBool` -/
  toBool : GoContent Float → Bool
  /-- A `bool` in an `interface{}`. -/
  ofBool : Bool → Other

variable {Float Other : Type}

abbrev RequestCalls (Float α : Type) := Calls (LibraryAnswer Float) CObject α

def CMmsValue.elements : CMmsValue Float → List (CMmsValue Float)
  | ⟨_, elements, _⟩ => elements

namespace Client

def ask (query : LibraryQuery Float) : RequestCalls Float (LibraryAnswer Float query) :=
  Calls.ask query

/-! ## Directories -/

/-- What the functions below share: on every path the list is destroyed. -/
def names (conv : Conversions Float Other) (query : NamesQuery) :
    RequestCalls Float (Except IedError (List Str × Bool)) := do
  let answer ← ask (.names query)
  match answer.list with
  | none =>
      match getIedClientError answer.clientError with
      | some err => return .error err
      | none => return .ok ([], answer.isDeletable)
  | some listed =>
      Calls.withMade .linkedList fun list => do
        match getIedClientError answer.clientError with
        | some err => return .error err
        | none => do
            Calls.touch list
            return .ok (listed.map conv.c2GoStr, answer.isDeletable)

/-- The same, with a string as the argument. -/
def namesOf (conv : Conversions Float Other) (query : NamesQuery) :
    RequestCalls Float (Except IedError (List Str × Bool)) :=
  Calls.withMade .string fun cStr => do
    Calls.touch cStr
    names conv query

def getLogicalDeviceDirectory (conv : Conversions Float Other) (logicalDeviceName : Str) :
    RequestCalls Float (Except IedError (List Str)) := do
  let answer ← namesOf conv (.logicalDeviceDirectory (conv.go2CStr logicalDeviceName))
  return answer.map Prod.fst

def getLogicalNodeDirectory (conv : Conversions Float Other) (logicalNodeReference : Str)
    (acsiClass : ACSIClass) : RequestCalls Float (Except IedError (List Str)) := do
  let answer ← namesOf conv
    (.logicalNodeDirectory (conv.go2CStr logicalNodeReference) acsiClass)
  return answer.map Prod.fst

def getDataSetDirectory (conv : Conversions Float Other) (dataSetReference : Str) :
    RequestCalls Float (Except IedError (List Str × Bool)) :=
  namesOf conv (.dataSetDirectory (conv.go2CStr dataSetReference))

def getDataDirectoryFC (conv : Conversions Float Other) (dataObjectReference : Str) :
    RequestCalls Float (Except IedError (List Str)) := do
  let answer ← namesOf conv (.dataDirectoryFC (conv.go2CStr dataObjectReference))
  return answer.map Prod.fst

def getServerDirectory (conv : Conversions Float Other) (getFileNames : Bool) :
    RequestCalls Float (Except IedError (List Str)) := do
  let answer ← names conv (.serverDirectory getFileNames)
  return answer.map Prod.fst

def getLogicalDeviceList (conv : Conversions Float Other) :
    RequestCalls Float (Except IedError (List Str)) := do
  let answer ← names conv .logicalDeviceList
  return answer.map Prod.fst

def getLogicalDeviceVariables (conv : Conversions Float Other) (ldName : Str) :
    RequestCalls Float (Except IedError (List Str)) := do
  let answer ← namesOf conv (.logicalDeviceVariables (cString ldName))
  return answer.map Prod.fst

def getLogicalDeviceDataSets (conv : Conversions Float Other) (ldName : Str) :
    RequestCalls Float (Except IedError (List Str)) := do
  let answer ← namesOf conv (.logicalDeviceDataSets (cString ldName))
  return answer.map Prod.fst

/-- An empty name stands for the root directory.  The list is destroyed at the end, but not
where an error is returned before. -/
def getFileDirectory (directory : Str) :
    RequestCalls Float (Except IedError (List FileDirectoryEntry)) :=
  if directory = [] then entriesOf none
  else
    Calls.withMade .string fun dirName => do
      Calls.touch dirName
      entriesOf (some (cString directory))
where
  entry : Str × BitVec 32 × BitVec 64 → FileDirectoryEntry
    | (fileName, fileSize, lastModified) => ⟨cString fileName, fileSize.toNat, lastModified.toInt⟩
  entriesOf (dirName : Option Str) :
      RequestCalls Float (Except IedError (List FileDirectoryEntry)) := do
    let root ← ask (.getFileDirectory dirName)
    match root.pointer, getIedClientError root.clientError with
    | none, some err => return .error err
    | some _, some err => .make .fileList fun _ => return .error err
    -- The list that is not there is passed to `LinkedList_getNext`.
    | none, none => .crash
    | some listed, none =>
        Calls.withMade .fileList fun root => do
          Calls.touch root
          return .ok (listed.map entry)

/-! ## Reading -/

/-- `fmt.Errorf("ReadBoolValue %q fc=%s: %w", objectRef, fc, err)`, and the same with the
names of the other functions. -/
structure ReadValueError where
  objectRef : Str
  fc : ℤ
  err : IedError
  deriving DecidableEq

/-- What the functions that read a number or a boolean share. -/
def readScalar (kind : ScalarKind) (objectRef : Str) (fc : ℤ) :
    RequestCalls Float (Except ReadValueError (kind.Value Float)) :=
  Calls.withMade .string fun cObjectRef => do
    Calls.touch cObjectRef
    let value ← ask (.readScalar kind (cString objectRef) fc)
    match getIedClientError value.1 with
    | some err => return .error ⟨objectRef, fc, err⟩
    | none => return .ok value.2

def readBoolValue (objectRef : Str) (fc : ℤ) : RequestCalls Float (Except ReadValueError Bool) :=
  readScalar .boolean objectRef fc

def readInt32Value (objectRef : Str) (fc : ℤ) :
    RequestCalls Float (Except ReadValueError (BitVec 32)) :=
  readScalar .int32 objectRef fc

def readInt64Value (objectRef : Str) (fc : ℤ) :
    RequestCalls Float (Except ReadValueError (BitVec 64)) :=
  readScalar .int64 objectRef fc

def readUint32Value (objectRef : Str) (fc : ℤ) :
    RequestCalls Float (Except ReadValueError (BitVec 32)) :=
  readScalar .unsigned32 objectRef fc

def readFloatValue (objectRef : Str) (fc : ℤ) :
    RequestCalls Float (Except ReadValueError Float) :=
  readScalar .float objectRef fc

/-- The text that the library has allocated is never freed; of `NULL`, `C.GoString` is
empty. -/
def readStringValue (objectRef : Str) (fc : ℤ) : RequestCalls Float (Except ReadValueError Str) :=
  Calls.withMade .string fun cObjectRef => do
    Calls.touch cObjectRef
    let value ← ask (.readStringValue (cString objectRef) fc)
    match value.pointer with
    | none => return result value.clientError []
    | some text => .make .text fun value' => do
        Calls.touch value'
        return result value.clientError (cString text)
where
  result (clientError : ℤ) (text : Str) : Except ReadValueError Str :=
    match getIedClientError clientError with
    | some err => .error ⟨objectRef, fc, err⟩
    | none => .ok text

def readObject (objectRef : Str) (fc : ℤ) :
    RequestCalls Float (Except ReadObjectError (MmsValue (GoScalar Float))) :=
  Calls.withMade .string fun cObjectRef => do
    Calls.touch cObjectRef
    match ← ask (.readObject (cString objectRef) fc) with
    | .error err => return .error (.request objectRef fc err)
    | .ok mmsValue =>
        Calls.withMade .mmsValue fun value => do
          Calls.touch value
          match toGoValue (some mmsValue) mmsValue.type with
          | .error err => return .error (.convert objectRef fc err)
          | .ok goVal => return .ok ⟨mmsValue.type, goVal⟩

inductive ReadDataSetError
  | request (objectRef : Str) (err : IedError)
  | convert (element : ℕ) (objectRef : Str) (err : Str)

/-- The loop over the elements from the `i`-th on. -/
def dataSetValues (objectRef : Str) : List (CMmsValue Float) → ℕ →
    Except ReadDataSetError (List (MmsValue (GoScalar Float)))
  | [], _ => .ok []
  | value :: rest, i => do
      let goValue ← (toGoValue (some value) value.type).mapError (.convert i objectRef)
      let mmsValues ← dataSetValues objectRef rest (i + 1)
      return ⟨value.type, goValue⟩ :: mmsValues

def readDataSetValues (objectRef : Str) :
    RequestCalls Float (Except ReadDataSetError (List (MmsValue (GoScalar Float)))) :=
  Calls.withMade .string fun cObjectRef => do
    Calls.touch cObjectRef
    match ← ask (.readDataSetValues (cString objectRef)) with
    | .error err => return .error (.request objectRef err)
    | .ok values =>
        Calls.withMade .dataSet fun dataSet => do
          Calls.touch dataSet
          return dataSetValues objectRef values 0

/-! ## Specifications -/

/-- What the three functions that ask for a specification share, with the string and the
specification of the body.  A specification that comes with an error is not destroyed. -/
def withSpecification {α : Type} (objectReference : Str) (fc : ℤ) (failed : IedError → α)
    (missing : RequestCalls Float α) (body : ℕ → ℕ → DeliveredSpec → RequestCalls Float α) :
    RequestCalls Float α :=
  Calls.withMade .string fun cObjectRef => do
    Calls.touch cObjectRef
    let answer ← ask (.getVariableSpecification (cString objectReference) fc)
    match answer.pointer, getIedClientError answer.clientError with
    | none, some err => return failed err
    | some _, some err => .make .variableSpecification fun _ => return failed err
    | none, none => missing
    | some spec, none =>
        Calls.withMade .variableSpecification fun cSpec => body cObjectRef cSpec spec

/-- Without a cause: the library returned `NULL` without an error. -/
def getVariableSpecification (dataAttributeReference : Str) (fc : ℤ) :
    RequestCalls Float (Except (Option IedError) SizedVariableSpec) :=
  withSpecification dataAttributeReference fc (fun err => .error (some err))
    (return .error none)
    fun _ cSpec spec => do
      Calls.touch cSpec
      return .ok (cToGoVarSpec spec.described)

/-- `MmsVariableSpecification_getType` dereferences the pointer. -/
def getVariableSpecType (objectReference : Str) (fc : ℤ) :
    RequestCalls Float (Except IedError MmsType) :=
  withSpecification objectReference fc .error .crash fun _ cSpec spec => do
    Calls.touch cSpec
    return .ok spec.variable.mmsType

/-- The error of one of the two requests, or of the walk. -/
inductive TypeValuesFailure
  | specification (err : Option IedError)
  | read (err : ReadObjectError)
  | walk (objectRef err : Str)

def getVariableTypeValues (objectRef : Str) (fc : ℤ) :
    RequestCalls Float (Except TypeValuesFailure (List (LeafValue (GoScalar Float)))) := do
  match ← getVariableSpecification objectRef fc with
  | .error err => return .error (.specification err)
  | .ok spec =>
      match ← readObject objectRef fc with
      | .error err => return .error (.read err)
      | .ok val =>
          let startName := if spec.name = [] then lastComponent objectRef else spec.name
          return (walk (some spec.unsized) (some val) objectRef startName).mapError
            (.walk objectRef)

/-! ## Writing -/

/-- `toMmsValue`, with the number of the value.  A string is copied from one of C. -/
def newMmsValue (conv : Conversions Float Other) (value : GoArgument Other) (mmsType : MmsType) :
    RequestCalls Float (Except Str (ℕ × CMmsValue Float)) :=
  match toMmsValue conv.values conv.cast value mmsType with
  | .error err => return .error err
  | .ok mmsValue =>
      if mmsType = .mmsString then
        Calls.withMade .string fun stringValue => do
          Calls.touch stringValue
          made mmsValue
      else made mmsValue
where
  made (mmsValue : CMmsValue Float) : RequestCalls Float (Except Str (ℕ × CMmsValue Float)) :=
    .make .mmsValue fun n => return .ok (n, mmsValue)

def writeObject (conv : Conversions Float Other) (objectRef : Str) (fc : ℤ)
    (value : GoArgument Other) : RequestCalls Float (Option WriteObjectError) := do
  match ← getVariableSpecType objectRef fc with
  | .error err => return some (.getType objectRef fc err)
  | .ok mmsType =>
      match ← newMmsValue conv value mmsType with
      | .error err => return some (.convert objectRef fc err)
      | .ok (n, mmsValue) =>
          Calls.withMade .string fun cObjectRef =>
            Calls.thenRelease n .mmsValue do
              Calls.touch cObjectRef
              Calls.touch n
              let reply ← ask (.writeObject (cString objectRef) fc mmsValue)
              return (getIedClientError reply).map (.write objectRef fc)

/-! ## Setting groups -/

def SP : ℤ := 2

/-- `fmt.Sprintf` of `ActDA`, `EditDA` and `CnfDA`. -/
def settingGroupDA (ld ln : Str) (dataAttribute : String) : Str :=
  ld ++ lit "/" ++ ln ++ lit ".SGCB." ++ lit dataAttribute

/-- The step that failed, with what its text names. -/
inductive WriteSGError
  | actSG (ld ln : Str) (actSG : BitVec 64) (err : WriteObjectError)
  | editSG (ld ln : Str) (actSG : BitVec 64) (err : WriteObjectError)
  | value (objectRef : Str) (fc : ℤ) (err : WriteObjectError)
  | cnfEdit (ld ln : Str) (err : WriteObjectError)
  deriving DecidableEq

def goInt (n : BitVec 64) : GoInteger where
  kind := .int
  value := n.toInt
  inRange := ⟨BitVec.le_toInt n, Int.le_sub_one_of_lt BitVec.toInt_lt⟩

def writeSG (conv : Conversions Float Other) (ld ln objectRef : Str) (fc : ℤ) (actSG : BitVec 64)
    (value : GoArgument Other) : RequestCalls Float (Option WriteSGError) := do
  match ← writeObject conv (settingGroupDA ld ln "ActSG") SP (.integer (goInt actSG)) with
  | some err => return some (.actSG ld ln actSG err)
  | none =>
      match ← writeObject conv (settingGroupDA ld ln "EditSG") SP (.integer (goInt actSG)) with
      | some err => return some (.editSG ld ln actSG err)
      | none =>
          match ← writeObject conv objectRef fc value with
          | some err => return some (.value objectRef fc err)
          | none =>
              let cnfEdit ← writeObject conv (settingGroupDA ld ln "CnfEdit") SP
                (.other (conv.ofBool true))
              return cnfEdit.map (.cnfEdit ld ln)

structure SettingGroup where
  numOfSG : ℤ
  actSG : ℤ
  editSG : ℤ
  cnfEdit : Bool
  deriving DecidableEq

inductive GetSGError
  | variableSpec (objectRef : Str) (err : IedError)
  | object (objectRef : Str) (err : IedError)
  | component (name objectRef err : Str)

/-- The element is deleted, though it still belongs to `sgcbVal`. -/
def getSubElementValue (conv : Conversions Float Other) (sgcbVal sgcbVarSpec : ℕ)
    (sgcb : CMmsValue Float) (elements : List (ℕ × CMmsValue Float)) (spec : CVarSpecification)
    (name : Str) : RequestCalls Float (Except Str (GoContent Float)) :=
  Calls.withMade .string fun mmsPath => do
    Calls.touch sgcbVal
    Calls.touch sgcbVarSpec
    Calls.touch mmsPath
    match (conv.getSubElement sgcb spec (cString name)).bind fun i => elements[i]? with
    -- `MmsValue_getType` dereferences the pointer.
    | none => .crash
    | some (n, value) =>
        Calls.thenRelease n .element do
          Calls.touch n
          return toGoValue (some value) value.type

/-- The elements that come with a value, where they are deleted one by one. -/
def makeElements : List (CMmsValue Float) → RequestCalls Float (List (ℕ × CMmsValue Float))
  | [] => return []
  | value :: rest => .make .element fun n => do
      let others ← makeElements rest
      return (n, value) :: others

/-- The value that was read is not deleted.  The specification is dereferenced only later,
where it is missing. -/
def getSG (conv : Conversions Float Other) (objectRef : Str) :
    RequestCalls Float (Except GetSGError SettingGroup) :=
  withSpecification objectRef SP (fun err => .error (.variableSpec objectRef err)) .crash
    fun cObjectRef sgcbVarSpec spec => do
      Calls.touch cObjectRef
      match ← ask (.readObject (cString objectRef) SP) with
      | .error err => return .error (.object objectRef err)
      | .ok sgcb => .make .mmsValue fun sgcbVal => do
          let elements ← makeElements (CMmsValue.elements sgcb)
          let component := getSubElementValue conv sgcbVal sgcbVarSpec sgcb elements spec.described
          match ← component (lit "NumOfSG") with
          | .error err => return .error (.component (lit "NumOfSG") objectRef err)
          | .ok numOfSG =>
              match ← component (lit "ActSG") with
              | .error err => return .error (.component (lit "ActSG") objectRef err)
              | .ok actSG =>
                  match ← component (lit "EditSG") with
                  | .error err => return .error (.component (lit "EditSG") objectRef err)
                  | .ok editSG =>
                      match ← component (lit "CnfEdit") with
                      | .error err => return .error (.component (lit "CnfEdit") objectRef err)
                      | .ok cnfEdit =>
                          return .ok {
                            numOfSG := conv.toInt numOfSG
                            actSG := conv.toInt actSG
                            editSG := conv.toInt editSG
                            cnfEdit := conv.toBool cnfEdit }

/-! ## Control -/

/-- The switch over the control model, and whether to go on. -/
def selectFirst (controlModel : ℤ) (control ctlVal : ℕ) (object : ControlObject)
    (value : CtlVal Float) : RequestCalls Float Bool :=
  if controlModel = CONTROL_MODEL_SBO_NORMAL then do
    Calls.touch control
    ask (.select object)
  else if controlModel = CONTROL_MODEL_DIRECT_ENHANCED then do
    Calls.touch control
    return true
  else if controlModel = CONTROL_MODEL_SBO_ENHANCED then do
    Calls.touch control
    Calls.touch ctlVal
    ask (.selectWithValue object value)
  else return true

/-- The setters, of which only that of the origin gets another pointer, and the command. -/
def setAndOperate {Value : Type} (controlModel : ℤ) (param : ControlObjectParam Value)
    (control ctlVal : ℕ) (value : CtlVal Float) (operTime : ℕ) :
    RequestCalls Float (Option ControlError) := do
  Calls.touch control
  Calls.touch ctlVal
  let success ← ask (.operate ⟨controlModel, param.parameters⟩ value operTime)
  return if success then none else some .controlObjectFail

/-- What the three functions share. -/
def controlCalls {Value : Type} (controlModel : ℤ) (param : ControlObjectParam Value)
    (control : ℕ) (object : ControlObject) (value : CtlVal Float) (operTime : ℕ) :
    RequestCalls Float (Option ControlError) :=
  Calls.withMade .mmsValue fun ctlVal => do
    if ← selectFirst controlModel control ctlVal object value then
      if param.orIdent = [] then setAndOperate controlModel param control ctlVal value operTime
      else
        Calls.withMade .string fun cOrIdent => do
          Calls.touch cOrIdent
          setAndOperate controlModel param control ctlVal value operTime
    else return some .controlSelectFail

/-- The control object is not destroyed. -/
def controlByControlModelINC (objectRef : Str) (controlModel : ℤ) (param : ControlObjectParam ℤ) :
    RequestCalls Float (Option ControlError) :=
  Calls.withMade .string fun cObjectRef => do
    Calls.touch cObjectRef
    match ← ask (.createControl (cString objectRef)) with
    | none => return some .createControlObjectClientFail
    | some object =>
        .make .controlObject fun control =>
          controlCalls controlModel param control object (.integer (cInt param.ctlVal)) 0

/-- The control object is not destroyed. -/
def controlByControlModelAPC (objectRef : Str) (controlModel : ℤ)
    (param : ControlObjectParam Float) : RequestCalls Float (Option ControlError) :=
  Calls.withMade .string fun cObjectRef => do
    Calls.touch cObjectRef
    match ← ask (.createControl (cString objectRef)) with
    | none => return some .createControlObjectClientFail
    | some object =>
        .make .controlObject fun control =>
          controlCalls controlModel param control object (.float param.ctlVal) 0

def controlByControlModel (objectRef : Str) (controlModel : ℤ) (param : ControlObjectParam Bool) :
    RequestCalls Float (Option ControlError) :=
  Calls.withMade .string fun cObjectRef => do
    Calls.touch cObjectRef
    match ← ask (.createControl (cString objectRef)) with
    | none => return some .createControlObjectClientFail
    | some object =>
        Calls.withMade .controlObject fun control =>
          controlCalls controlModel param control object (.boolean param.ctlVal) param.operateTime

/-! ## Report control blocks -/

/-- The block is asked for first; the error counts only where there is none. -/
def getRCBValues (objectReference : Str) :
    RequestCalls Float (Except RcbError ClientReportControlBlock) :=
  Calls.withMade .string fun cObjectRef => do
    Calls.touch cObjectRef
    let answer ← ask (.getRCBValues (cString objectReference))
    match answer.pointer with
    | none =>
        return .error ⟨.getRCBValues, objectReference, getIedClientError answer.clientError⟩
    | some values =>
        Calls.withMade .reportControlBlock fun rcb => do
          Calls.touch rcb
          return Mms.getRCBValues ⟨answer.clientError, true⟩ objectReference fun _ => values

/-- What the setters share: a block with these attributes is created, written and destroyed. -/
def writeRCB (request : RcbRequest) (objectReference : Str) (rcb : RcbAttributes)
    (mask : BitVec 32) : RequestCalls Float (Option RcbError) :=
  Calls.withMade .string fun cObjectRef => do
    Calls.touch cObjectRef
    Calls.withMade .reportControlBlock fun block => do
      Calls.touch block
      let reply ← ask (.setRCBValues (cString objectReference) rcb mask)
      return (getIedClientError reply).map fun err => ⟨request, objectReference, some err⟩

def setRCBValues (objectReference : Str) (settings : ClientReportControlBlock) :
    RequestCalls Float (Option RcbError) :=
  Calls.withMade .string fun cObjectRef => do
    Calls.touch cObjectRef
    Calls.withMade .reportControlBlock fun rcb => do
      Calls.touch rcb
      let isBuffered ← ask (.isBuffered (cString objectReference))
      let values : RcbAttributes := {
        trgOps := trgOpsBits settings.trgOps
        rptEna := settings.ena
        resv := settings.resv
        intgPd := cUint32 settings.intgPd
        optFlds := optFldsBits settings.optFlds }
      let reply ← ask (.setRCBValues (cString objectReference) values
        (if isBuffered then
          RCB_ELEMENT_RPT_ENA ||| RCB_ELEMENT_TRG_OPS ||| RCB_ELEMENT_INTG_PD
        else
          RCB_ELEMENT_RESV ||| RCB_ELEMENT_RPT_ENA ||| RCB_ELEMENT_TRG_OPS |||
            RCB_ELEMENT_INTG_PD))
      return (getIedClientError reply).map fun err => ⟨.setRCBValues, objectReference, some err⟩

def setRptEna (objectReference : Str) (enable : Bool) : RequestCalls Float (Option RcbError) :=
  writeRCB (.setRptEna enable) objectReference { rptEna := enable } RCB_ELEMENT_RPT_ENA

def setTrgOps (objectReference : Str) (ops : TrgOps) : RequestCalls Float (Option RcbError) :=
  writeRCB .setTrgOps objectReference { trgOps := trgOpsBits ops } RCB_ELEMENT_TRG_OPS

def setBufTm (objectReference : Str) (bufTm : BitVec 32) : RequestCalls Float (Option RcbError) :=
  writeRCB (.setBufTm bufTm) objectReference { bufTm } RCB_ELEMENT_BUF_TM

def setIntgPd (objectReference : Str) (intgPd : BitVec 32) :
    RequestCalls Float (Option RcbError) :=
  writeRCB (.setIntgPd intgPd) objectReference { intgPd } RCB_ELEMENT_INTG_PD

def setGI (objectReference : Str) (gi : Bool) : RequestCalls Float (Option RcbError) :=
  writeRCB (.setGI gi) objectReference { gi } RCB_ELEMENT_GI

/-- The reference of the data set is a second string. -/
def setDataSetReference (objectReference dataSetRef : Str) :
    RequestCalls Float (Option RcbError) :=
  Calls.withMade .string fun cObjectRef => do
    Calls.touch cObjectRef
    Calls.withMade .string fun cDs => do
      Calls.withMade .reportControlBlock fun rcb => do
        Calls.touch rcb
        Calls.touch cDs
        let reply ← ask (.setRCBValues (cString objectReference) { datSet := cString dataSetRef }
          RCB_ELEMENT_DATSET)
        return (getIedClientError reply).map fun err =>
          ⟨.setDataSetReference dataSetRef, objectReference, some err⟩

inductive TriggerGIError
  | getRCB (objectReference : Str) (err : IedError)
  | trigger (objectReference : Str) (err : IedError)
  deriving DecidableEq

/-- The block is destroyed where it came without an error. -/
def triggerGIReport (objectReference : Str) : RequestCalls Float (Option TriggerGIError) :=
  Calls.withMade .string fun cObjectRef => do
    Calls.touch cObjectRef
    let answer ← ask (.getRCBValues (cString objectReference))
    match answer.pointer, getIedClientError answer.clientError with
    | none, some err => return some (.getRCB objectReference err)
    | some _, some err =>
        .make .reportControlBlock fun _ => return some (.getRCB objectReference err)
    -- `ClientReportControlBlock_destroy` dereferences the pointer.
    | none, none => .crash
    | some _, none =>
        Calls.withMade .reportControlBlock fun _ => do
          let reply ← ask (.triggerGIReport (cString objectReference))
          return (getIedClientError reply).map (.trigger objectReference)

end Client

/-! ## The requests -/

inductive ClientRequest (Float Other : Type)
  | getLogicalDeviceDirectory (logicalDeviceName : Str)
  | getLogicalNodeDirectory (logicalNodeReference : Str) (acsiClass : ACSIClass)
  | getDataSetDirectory (dataSetReference : Str)
  | getDataDirectoryFC (dataObjectReference : Str)
  | getServerDirectory (getFileNames : Bool)
  | getLogicalDeviceList
  | getLogicalDeviceVariables (ldName : Str)
  | getLogicalDeviceDataSets (ldName : Str)
  | getFileDirectory (directory : Str)
  | readBoolValue (objectRef : Str) (fc : ℤ)
  | readInt32Value (objectRef : Str) (fc : ℤ)
  | readInt64Value (objectRef : Str) (fc : ℤ)
  | readUint32Value (objectRef : Str) (fc : ℤ)
  | readFloatValue (objectRef : Str) (fc : ℤ)
  | readStringValue (objectRef : Str) (fc : ℤ)
  | readObject (objectRef : Str) (fc : ℤ)
  | readDataSetValues (objectRef : Str)
  | getVariableSpecification (dataAttributeReference : Str) (fc : ℤ)
  | getVariableSpecType (objectReference : Str) (fc : ℤ)
  | getVariableTypeValues (objectRef : Str) (fc : ℤ)
  | writeObject (objectRef : Str) (fc : ℤ) (value : GoArgument Other)
  | writeSG (ld ln objectRef : Str) (fc : ℤ) (actSG : BitVec 64) (value : GoArgument Other)
  | getSG (objectRef : Str)
  | controlByControlModelINC (objectRef : Str) (controlModel : ℤ) (param : ControlObjectParam ℤ)
  | controlByControlModelAPC (objectRef : Str) (controlModel : ℤ)
      (param : ControlObjectParam Float)
  | controlByControlModel (objectRef : Str) (controlModel : ℤ) (param : ControlObjectParam Bool)
  | getRCBValues (objectReference : Str)
  | setRCBValues (objectReference : Str) (settings : ClientReportControlBlock)
  | setRptEna (objectReference : Str) (enable : Bool)
  | setTrgOps (objectReference : Str) (ops : TrgOps)
  | setBufTm (objectReference : Str) (bufTm : BitVec 32)
  | setIntgPd (objectReference : Str) (intgPd : BitVec 32)
  | setGI (objectReference : Str) (gi : Bool)
  | setDataSetReference (objectReference dataSetRef : Str)
  | triggerGIReport (objectReference : Str)

namespace ClientRequest

@[reducible] def Result : ClientRequest Float Other → Type
  | .getLogicalDeviceDirectory _ => Except IedError (List Str)
  | .getLogicalNodeDirectory _ _ => Except IedError (List Str)
  | .getDataSetDirectory _ => Except IedError (List Str × Bool)
  | .getDataDirectoryFC _ => Except IedError (List Str)
  | .getServerDirectory _ => Except IedError (List Str)
  | .getLogicalDeviceList => Except IedError (List Str)
  | .getLogicalDeviceVariables _ => Except IedError (List Str)
  | .getLogicalDeviceDataSets _ => Except IedError (List Str)
  | .getFileDirectory _ => Except IedError (List FileDirectoryEntry)
  | .readBoolValue _ _ => Except Client.ReadValueError Bool
  | .readInt32Value _ _ => Except Client.ReadValueError (BitVec 32)
  | .readInt64Value _ _ => Except Client.ReadValueError (BitVec 64)
  | .readUint32Value _ _ => Except Client.ReadValueError (BitVec 32)
  | .readFloatValue _ _ => Except Client.ReadValueError Float
  | .readStringValue _ _ => Except Client.ReadValueError Str
  | .readObject _ _ => Except ReadObjectError (MmsValue (GoScalar Float))
  | .readDataSetValues _ => Except Client.ReadDataSetError (List (MmsValue (GoScalar Float)))
  | .getVariableSpecification _ _ => Except (Option IedError) SizedVariableSpec
  | .getVariableSpecType _ _ => Except IedError MmsType
  | .getVariableTypeValues _ _ =>
      Except Client.TypeValuesFailure (List (LeafValue (GoScalar Float)))
  | .writeObject _ _ _ => Option WriteObjectError
  | .writeSG _ _ _ _ _ _ => Option Client.WriteSGError
  | .getSG _ => Except Client.GetSGError Client.SettingGroup
  | .controlByControlModelINC _ _ _ => Option ControlError
  | .controlByControlModelAPC _ _ _ => Option ControlError
  | .controlByControlModel _ _ _ => Option ControlError
  | .getRCBValues _ => Except RcbError ClientReportControlBlock
  | .triggerGIReport _ => Option Client.TriggerGIError
  | _ => Option RcbError

/-- The function of the client that is called. -/
def program (conv : Conversions Float Other) :
    (request : ClientRequest Float Other) → RequestCalls Float request.Result
  | .getLogicalDeviceDirectory logicalDeviceName =>
      Client.getLogicalDeviceDirectory conv logicalDeviceName
  | .getLogicalNodeDirectory logicalNodeReference acsiClass =>
      Client.getLogicalNodeDirectory conv logicalNodeReference acsiClass
  | .getDataSetDirectory dataSetReference => Client.getDataSetDirectory conv dataSetReference
  | .getDataDirectoryFC dataObjectReference => Client.getDataDirectoryFC conv dataObjectReference
  | .getServerDirectory getFileNames => Client.getServerDirectory conv getFileNames
  | .getLogicalDeviceList => Client.getLogicalDeviceList conv
  | .getLogicalDeviceVariables ldName => Client.getLogicalDeviceVariables conv ldName
  | .getLogicalDeviceDataSets ldName => Client.getLogicalDeviceDataSets conv ldName
  | .getFileDirectory directory => Client.getFileDirectory directory
  | .readBoolValue objectRef fc => Client.readBoolValue objectRef fc
  | .readInt32Value objectRef fc => Client.readInt32Value objectRef fc
  | .readInt64Value objectRef fc => Client.readInt64Value objectRef fc
  | .readUint32Value objectRef fc => Client.readUint32Value objectRef fc
  | .readFloatValue objectRef fc => Client.readFloatValue objectRef fc
  | .readStringValue objectRef fc => Client.readStringValue objectRef fc
  | .readObject objectRef fc => Client.readObject objectRef fc
  | .readDataSetValues objectRef => Client.readDataSetValues objectRef
  | .getVariableSpecification dataAttributeReference fc =>
      Client.getVariableSpecification dataAttributeReference fc
  | .getVariableSpecType objectReference fc => Client.getVariableSpecType objectReference fc
  | .getVariableTypeValues objectRef fc => Client.getVariableTypeValues objectRef fc
  | .writeObject objectRef fc value => Client.writeObject conv objectRef fc value
  | .writeSG ld ln objectRef fc actSG value => Client.writeSG conv ld ln objectRef fc actSG value
  | .getSG objectRef => Client.getSG conv objectRef
  | .controlByControlModelINC objectRef controlModel param =>
      Client.controlByControlModelINC objectRef controlModel param
  | .controlByControlModelAPC objectRef controlModel param =>
      Client.controlByControlModelAPC objectRef controlModel param
  | .controlByControlModel objectRef controlModel param =>
      Client.controlByControlModel objectRef controlModel param
  | .getRCBValues objectReference => Client.getRCBValues objectReference
  | .setRCBValues objectReference settings => Client.setRCBValues objectReference settings
  | .setRptEna objectReference enable => Client.setRptEna objectReference enable
  | .setTrgOps objectReference ops => Client.setTrgOps objectReference ops
  | .setBufTm objectReference bufTm => Client.setBufTm objectReference bufTm
  | .setIntgPd objectReference intgPd => Client.setIntgPd objectReference intgPd
  | .setGI objectReference gi => Client.setGI objectReference gi
  | .setDataSetReference objectReference dataSetRef =>
      Client.setDataSetReference objectReference dataSetRef
  | .triggerGIReport objectReference => Client.triggerGIReport objectReference

end ClientRequest

end Iec61850.Mms
