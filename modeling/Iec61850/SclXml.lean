import Iec61850.GoMap
import Iec61850.GoText

/-!
# Data sets of an SCL file

`GetSCL` decodes a file into structs, field by field after the tags, and
`GetDataSet` looks a data set up by its reference.
-/

namespace Iec61850.SclXml

open Go

/-! ## Elements -/

/-- An element with the local names of its attributes and its character data. -/
inductive XmlElement
  | mk (name : Str) (attributes : List (Str × Str)) (children : List XmlElement) (text : Str)

namespace XmlElement

def name : XmlElement → Str
  | mk name _ _ _ => name

def attributes : XmlElement → List (Str × Str)
  | mk _ attributes _ _ => attributes

def children : XmlElement → List XmlElement
  | mk _ _ children _ => children

def text : XmlElement → Str
  | mk _ _ _ text => text

/-- The child elements that a field with this tag is filled from. -/
def childrenNamed (element : XmlElement) (tag : String) : List XmlElement :=
  element.children.filter fun child => child.name = lit tag

end XmlElement

/-- A field with an attribute tag, filled from all these elements in turn. -/
def attr (tag : String) (elements : List XmlElement) : Str :=
  (((elements.flatMap XmlElement.attributes).filter fun a => a.1 = lit tag).getLast?.map
    Prod.snd).getD []

/-! ## The structs -/

structure FCDAEntry where
  ldInst : Str
  lnPrefix : Str
  lnClass : Str
  lnInst : Str
  doName : Str
  daName : Str
  fc : Str
  deriving DecidableEq

structure DataSet where
  name : Str
  desc : Str
  fcda : List FCDAEntry
  deriving DecidableEq

structure LN0 where
  lnClass : Str
  dataSets : List DataSet
  deriving DecidableEq

structure LDevice where
  inst : Str
  ln0 : LN0
  deriving DecidableEq

structure AccessPoint where
  lDevice : List LDevice
  deriving DecidableEq

structure IED where
  name : Str
  accessPoint : List AccessPoint
  deriving DecidableEq

inductive DA
  | mk (name bType fc : Str) (da : List DA)

structure DO where
  name : Str
  type : Str
  desc : Str
  da : List DA

structure LNodeType where
  iD : Str
  lnClass : Str
  desc : Str
  do' : List DO

structure SDO where
  name : Str
  type : Str
  da : List DA

structure DOType where
  iD : Str
  da : List DA
  desc : Str
  sdo : List SDO

structure BDA where
  name : Str
  type : Str

structure DAType where
  iD : Str
  bda : List BDA
  da : List DA

structure EnumVal where
  ord : ℤ
  name : Str

structure EnumType where
  iD : Str
  enumVal : List EnumVal

structure DataTypeTemplates where
  lNodeType : List LNodeType
  doType : List DOType
  daType : List DAType
  enumType : List EnumType

structure SCL where
  ied : List IED
  dataTypeTemplates : DataTypeTemplates

/-! ## Decoding -/

def decodeFCDAEntry (e : XmlElement) : FCDAEntry where
  ldInst := attr "ldInst" [e]
  lnPrefix := attr "prefix" [e]
  lnClass := attr "lnClass" [e]
  lnInst := attr "lnInst" [e]
  doName := attr "doName" [e]
  daName := attr "daName" [e]
  fc := attr "fc" [e]

def decodeDataSet (e : XmlElement) : DataSet where
  name := attr "name" [e]
  desc := attr "desc" [e]
  fcda := (e.childrenNamed "FCDA").map decodeFCDAEntry

/-- A single struct is filled from every element with its tag. -/
def decodeLN0 (elements : List XmlElement) : LN0 where
  lnClass := attr "lnClass" elements
  dataSets := (elements.flatMap fun e => e.childrenNamed "DataSet").map decodeDataSet

def decodeLDevice (e : XmlElement) : LDevice where
  inst := attr "inst" [e]
  ln0 := decodeLN0 (e.childrenNamed "logicalNodes")

def decodeAccessPoint (e : XmlElement) : AccessPoint where
  lDevice := ((e.childrenNamed "Server").flatMap fun server =>
    server.childrenNamed "LDevices").map decodeLDevice

def decodeIED (e : XmlElement) : IED where
  name := attr "name" [e]
  accessPoint := (e.childrenNamed "AccessPoints").map decodeAccessPoint

mutual

/-- A value field is an interface, which the decoder skips. -/
def decodeDA : XmlElement → DA
  | .mk name attributes children text =>
      let e := XmlElement.mk name attributes children text
      .mk (attr "name" [e]) (attr "bType" [e]) (attr "fc" [e]) (decodeDAs children)

def decodeDAs : List XmlElement → List DA
  | [] => []
  | e :: rest => if e.name = lit "DA" then decodeDA e :: decodeDAs rest else decodeDAs rest

end

def decodeDO (e : XmlElement) : DO where
  name := attr "name" [e]
  type := attr "type" [e]
  desc := attr "desc" [e]
  da := decodeDAs e.children

def decodeLNodeType (e : XmlElement) : LNodeType where
  iD := attr "id" [e]
  lnClass := attr "lnClass" [e]
  desc := attr "desc" [e]
  do' := (e.childrenNamed "DO").map decodeDO

def decodeSDO (e : XmlElement) : SDO where
  name := attr "name" [e]
  type := attr "type" [e]
  da := decodeDAs e.children

def decodeDOType (e : XmlElement) : DOType where
  iD := attr "id" [e]
  da := decodeDAs e.children
  desc := attr "desc" [e]
  sdo := (e.childrenNamed "SDO").map decodeSDO

def decodeDAType (e : XmlElement) : DAType where
  iD := attr "id" [e]
  bda := (e.childrenNamed "BDA").map fun b => ⟨attr "name" [b], attr "type" [b]⟩
  da := decodeDAs e.children

/-- The only field that is not a text; an empty one is zero. -/
def decodeEnumVal (e : XmlElement) : Option EnumVal := do
  let ord ← (if attr "ord" [e] = [] then some 0 else parseInt (trimSpace (attr "ord" [e])) 10 64)
  return ⟨ord, e.text⟩

def decodeEnumType (e : XmlElement) : Option EnumType := do
  let enumVal ← (e.childrenNamed "EnumVal").mapM decodeEnumVal
  return ⟨attr "id" [e], enumVal⟩

def decodeDataTypeTemplates (elements : List XmlElement) : Option DataTypeTemplates := do
  let enumType ← (elements.flatMap fun e => e.childrenNamed "EnumType").mapM decodeEnumType
  return {
    lNodeType := (elements.flatMap fun e => e.childrenNamed "LNodeType").map decodeLNodeType
    doType := (elements.flatMap fun e => e.childrenNamed "DOType").map decodeDOType
    daType := (elements.flatMap fun e => e.childrenNamed "DAType").map decodeDAType
    enumType }

/-- `xml.Unmarshal` into an empty `SCL`. -/
def unmarshal (document : XmlElement) : Option SCL := do
  let dataTypeTemplates ←
    decodeDataTypeTemplates (document.childrenNamed "DataTypeTemplates")
  return { ied := (document.childrenNamed "IED").map decodeIED, dataTypeTemplates }

inductive SclError
  | openFile
  | readAll
  | unmarshal
  deriving DecidableEq

/-- `file` is what the file is read as: its root element. -/
def getSCL (file : Except SclError XmlElement) : Except SclError SCL :=
  match file with
  | .error err => .error err
  | .ok document =>
      match unmarshal document with
      | none => .error .unmarshal
      | some scl => .ok scl

/-! ## Lookup -/

structure DataSetDetail where
  dataSet : DataSet
  iedName : Str
  doTypes : Option (GoMap DOType) := none
  dataTypeTemplates : DataTypeTemplates

inductive DataSetError
  | parseReference (ref : Str)
  | notFound (ref : Str)
  deriving DecidableEq

/-- In an access point only the first device of that name is searched. -/
def findDataSet (scl : SCL) (device member : Str) : Option (IED × DataSet) :=
  scl.ied.findSome? fun ied =>
    ied.accessPoint.findSome? fun accessPoint => do
      let lDevice ← accessPoint.lDevice.find? fun lDevice => ied.name ++ lDevice.inst = device
      let dSet ← lDevice.ln0.dataSets.find? fun dSet =>
        lDevice.ln0.lnClass ++ lit "." ++ dSet.name = member
      return (ied, dSet)

def getDataSet (scl : SCL) (ref : Str) : Except DataSetError DataSetDetail :=
  match split '/' ref with
  | [device, member] =>
      match findDataSet scl device member with
      | none => .error (.notFound ref)
      | some (ied, dSet) =>
          .ok {
            dataSet := dSet
            iedName := ied.name
            dataTypeTemplates := scl.dataTypeTemplates }
  | _ => .error (.parseReference ref)

/-! ## What a lookup finds in the structs -/

section Lookup

variable {scl : SCL} {device member : Str}

theorem findDataSet_sound {ied : IED} {dSet : DataSet}
    (hfind : findDataSet scl device member = some (ied, dSet)) :
    ied ∈ scl.ied ∧ ∃ accessPoint ∈ ied.accessPoint, ∃ lDevice ∈ accessPoint.lDevice,
      ied.name ++ lDevice.inst = device ∧ dSet ∈ lDevice.ln0.dataSets ∧
        lDevice.ln0.lnClass ++ lit "." ++ dSet.name = member := by
  obtain ⟨ied', hied, hinner⟩ := List.exists_of_findSome?_eq_some hfind
  obtain ⟨accessPoint, haccessPoint, hinner⟩ := List.exists_of_findSome?_eq_some hinner
  obtain ⟨lDevice, hlDevice, hinner⟩ := Option.bind_eq_some_iff.mp hinner
  obtain ⟨dSet', hdSet, hreturn⟩ := Option.bind_eq_some_iff.mp hinner
  obtain ⟨rfl, rfl⟩ := Prod.mk.inj (Option.some.inj hreturn)
  have hdevice := List.find?_some hlDevice
  have hmember := List.find?_some hdSet
  refine ⟨hied, accessPoint, haccessPoint, lDevice, List.mem_of_find?_eq_some hlDevice, ?_,
    List.mem_of_find?_eq_some hdSet, ?_⟩
  · simpa using hdevice
  · simpa using hmember

/-- A failed lookup has searched the first device of that name in every access
point. -/
theorem findDataSet_eq_none (hfind : findDataSet scl device member = none) {ied : IED}
    {accessPoint : AccessPoint} (hied : ied ∈ scl.ied)
    (haccessPoint : accessPoint ∈ ied.accessPoint) {lDevice : LDevice}
    (hlDevice : accessPoint.lDevice.find? (fun lDevice => ied.name ++ lDevice.inst = device) =
      some lDevice) :
    ∀ dSet ∈ lDevice.ln0.dataSets, lDevice.ln0.lnClass ++ lit "." ++ dSet.name ≠ member := by
  have hinner := List.findSome?_eq_none_iff.mp hfind ied hied
  have hinner := List.findSome?_eq_none_iff.mp hinner accessPoint haccessPoint
  rw [hlDevice] at hinner
  cases hdSet : lDevice.ln0.dataSets.find? fun dSet =>
      lDevice.ln0.lnClass ++ lit "." ++ dSet.name = member with
  | none => simpa using List.find?_eq_none.mp hdSet
  | some dSet =>
      simp only [Option.bind_eq_bind, Option.bind_some, hdSet] at hinner
      cases hinner

/-- With a name of its own, without a slash, a device is the one that is searched. -/
theorem getDataSet_of_mem {ied : IED} {accessPoint : AccessPoint} {lDevice : LDevice}
    {dSet : DataSet} (hied : ied ∈ scl.ied) (haccessPoint : accessPoint ∈ ied.accessPoint)
    (hlDevice : lDevice ∈ accessPoint.lDevice) (hdSet : dSet ∈ lDevice.ln0.dataSets)
    (hunique : ∀ ied' ∈ scl.ied, ∀ accessPoint' ∈ ied'.accessPoint,
      ∀ lDevice' ∈ accessPoint'.lDevice,
        ied'.name ++ lDevice'.inst = ied.name ++ lDevice.inst → lDevice' = lDevice)
    (hdevice : '/' ∉ ied.name ++ lDevice.inst)
    (hmember : '/' ∉ lDevice.ln0.lnClass ++ lit "." ++ dSet.name) :
    ∃ detail, getDataSet scl (ied.name ++ lDevice.inst ++
        '/' :: (lDevice.ln0.lnClass ++ lit "." ++ dSet.name)) = .ok detail ∧
      detail.dataSet ∈ lDevice.ln0.dataSets ∧ detail.dataSet.name = dSet.name := by
  have hsplit : split '/' (ied.name ++ lDevice.inst ++
      '/' :: (lDevice.ln0.lnClass ++ lit "." ++ dSet.name)) =
        [ied.name ++ lDevice.inst, lDevice.ln0.lnClass ++ lit "." ++ dSet.name] := by
    rw [split_append_cons hdevice, split_of_not_mem hmember]
  simp only [getDataSet, hsplit]
  cases hfind : findDataSet scl (ied.name ++ lDevice.inst)
      (lDevice.ln0.lnClass ++ lit "." ++ dSet.name) with
  | none =>
      exfalso
      cases hfirst : accessPoint.lDevice.find? fun lDevice' =>
          ied.name ++ lDevice'.inst = ied.name ++ lDevice.inst with
      | none =>
          have hnot := List.find?_eq_none.mp hfirst lDevice hlDevice
          simp at hnot
      | some first =>
          have hname : ied.name ++ first.inst = ied.name ++ lDevice.inst := by
            simpa using List.find?_some hfirst
          obtain rfl := hunique ied hied accessPoint haccessPoint first
            (List.mem_of_find?_eq_some hfirst) hname
          exact findDataSet_eq_none hfind hied haccessPoint hfirst dSet hdSet rfl
  | some found =>
      obtain ⟨ied', dSet'⟩ := found
      obtain ⟨hied', accessPoint', haccessPoint', lDevice', hlDevice', hdevice', hdSet', hname⟩ :=
        findDataSet_sound hfind
      obtain rfl := hunique ied' hied' accessPoint' haccessPoint' lDevice' hlDevice' hdevice'
      exact ⟨_, rfl, hdSet', List.append_cancel_left hname⟩

theorem getDataSet_of_no_accessPoint (hnone : ∀ ied ∈ scl.ied, ied.accessPoint = [])
    (ref : Str) : ∃ err, getDataSet scl ref = .error err := by
  unfold getDataSet
  split
  next device member hsplit =>
    cases hfind : findDataSet scl device member with
    | none => exact ⟨_, rfl⟩
    | some found =>
        obtain ⟨hied, accessPoint, haccessPoint, -⟩ := findDataSet_sound hfind
        rw [hnone _ hied] at haccessPoint
        cases haccessPoint
  next => exact ⟨_, rfl⟩

end Lookup

/-! ## What a lookup finds in a document -/

mutual

/-- The names of the elements of a document. -/
def elementNames : XmlElement → List Str
  | .mk name _ children _ => name :: elementNamesOf children

def elementNamesOf : List XmlElement → List Str
  | [] => []
  | e :: rest => elementNames e ++ elementNamesOf rest

end

/-- The element names of the SCL files. -/
def sclElementNames : List Str :=
  ["SCL", "Header", "Text", "Communication", "SubNetwork", "ConnectedAP", "Address", "P", "GSE",
    "IED", "Services", "DynAssociation", "GetDirectory", "GetDataObjectDefinition",
    "DataSetDirectory", "GetDataSetValue", "ReadWrite", "TimerActivatedControl", "GetCBValues",
    "ConfReportControl", "ConfLNs", "FileHandling", "SettingGroups", "SGEdit", "GSEDir", "GOOSE",
    "GSSE", "AccessPoint", "Server", "Authentication", "LDevice", "LN0", "LN", "DataSet", "FCDA",
    "ReportControl", "TrgOps", "OptFields", "RptEnabled", "GSEControl", "LogControl", "Log",
    "SettingControl", "DOI", "SDI", "DAI", "Val", "DataTypeTemplates", "LNodeType", "DO",
    "DOType", "SDO", "DA", "DAType", "BDA", "EnumType", "EnumVal"].map lit

def UsesSclNames (document : XmlElement) : Prop :=
  ∀ name ∈ elementNames document, name ∈ sclElementNames

/-- A data set of a document, in the elements that it stands in. -/
structure DataSetElement (document : XmlElement) where
  ied : XmlElement
  accessPoint : XmlElement
  server : XmlElement
  lDevice : XmlElement
  ln0 : XmlElement
  dataSet : XmlElement
  ied_mem : ied ∈ document.childrenNamed "IED"
  accessPoint_mem : accessPoint ∈ ied.childrenNamed "AccessPoint"
  server_mem : server ∈ accessPoint.childrenNamed "Server"
  lDevice_mem : lDevice ∈ server.childrenNamed "LDevice"
  ln0_mem : ln0 ∈ lDevice.childrenNamed "LN0"
  dataSet_mem : dataSet ∈ ln0.childrenNamed "DataSet"

namespace DataSetElement

variable {document : XmlElement}

def deviceName (element : DataSetElement document) : Str :=
  attr "name" [element.ied] ++ attr "inst" [element.lDevice]

def reference (element : DataSetElement document) : Str :=
  element.deviceName ++
    '/' :: (attr "lnClass" [element.ln0] ++ lit "." ++ attr "name" [element.dataSet])

/-- The data sets of no other device are named in the same way. -/
def Unambiguous (element : DataSetElement document) : Prop :=
  '/' ∉ element.deviceName ∧
    ∀ other : DataSetElement document, other.deviceName = element.deviceName →
      other.ied = element.ied ∧ other.accessPoint = element.accessPoint ∧
        other.lDevice = element.lDevice

/-- The lookup in the decoded document returns the data set. -/
def Found (element : DataSetElement document) : Prop :=
  ∃ scl detail, getSCL (.ok document) = .ok scl ∧
    getDataSet scl element.reference = .ok detail ∧
    detail.dataSet.name = attr "name" [element.dataSet] ∧
    detail.dataSet.fcda = (element.dataSet.childrenNamed "FCDA").map decodeFCDAEntry

end DataSetElement

theorem name_mem_elementNames (element : XmlElement) : element.name ∈ elementNames element := by
  cases element with
  | mk name attributes children text =>
      rw [elementNames]
      exact List.mem_cons_self ..

theorem elementNames_subset_of_mem {elements : List XmlElement} {element : XmlElement}
    (hmem : element ∈ elements) : elementNames element ⊆ elementNamesOf elements := by
  induction elements with
  | nil => cases hmem
  | cons first rest ih =>
      rw [elementNamesOf]
      cases List.mem_cons.mp hmem with
      | inl hfirst =>
          subst hfirst
          exact List.subset_append_left ..
      | inr hrest => exact List.Subset.trans (ih hrest) (List.subset_append_right ..)

theorem elementNames_child_subset {element child : XmlElement} (hmem : child ∈ element.children) :
    elementNames child ⊆ elementNames element := by
  cases element with
  | mk name attributes children text =>
      rw [elementNames]
      exact List.Subset.trans (elementNames_subset_of_mem hmem) (List.subset_cons_self ..)

/-- No element of such a document is what a field for this tag is filled from. -/
theorem childrenNamed_eq_nil {element : XmlElement} (huses : UsesSclNames element)
    {tag : String} (htag : lit tag ∉ sclElementNames) : element.childrenNamed tag = [] := by
  unfold XmlElement.childrenNamed
  rw [List.filter_eq_nil_iff]
  intro child hmem hname
  have hchild := huses child.name
    (elementNames_child_subset hmem (name_mem_elementNames child))
  rw [of_decide_eq_true hname] at hchild
  exact htag hchild

/-- The tag for the access points names no element of such a document. -/
theorem accessPoint_eq_nil_of_getSCL {document : XmlElement} (huses : UsesSclNames document)
    {scl : SCL} (hscl : getSCL (.ok document) = .ok scl) :
    ∀ ied ∈ scl.ied, ied.accessPoint = [] := by
  cases hunmarshal : unmarshal document with
  | none =>
      simp only [getSCL, hunmarshal] at hscl
      cases hscl
  | some decoded =>
      simp only [getSCL, hunmarshal] at hscl
      obtain rfl := Except.ok.inj hscl
      obtain ⟨templates, -, hreturn⟩ := Option.bind_eq_some_iff.mp hunmarshal
      obtain rfl := Option.some.inj hreturn
      intro ied hied
      obtain ⟨element, helement, rfl⟩ := List.mem_map.mp hied
      have husesElement : UsesSclNames element := fun name hname =>
        huses name (elementNames_child_subset (List.mem_of_mem_filter helement) hname)
      have hnone : element.childrenNamed "AccessPoints" = [] :=
        childrenNamed_eq_nil husesElement (by decide)
      simp [decodeIED, hnone]

/-- No data set of a document with these element names is found. -/
theorem dataSet_never_found {document : XmlElement} (huses : UsesSclNames document)
    (element : DataSetElement document) : ¬ element.Found := by
  rintro ⟨scl, detail, hscl, hok, -⟩
  obtain ⟨err, herror⟩ :=
    getDataSet_of_no_accessPoint (accessPoint_eq_nil_of_getSCL huses hscl) element.reference
  rw [herror] at hok
  cases hok

/-! A file with one data set. -/

def sampleDataSet : XmlElement :=
  .mk (lit "DataSet") [(lit "name", lit "Events")]
    [.mk (lit "FCDA") [(lit "ldInst", lit "GenericIO"), (lit "lnClass", lit "GGIO"),
      (lit "doName", lit "SPCSO1"), (lit "fc", lit "ST")] [] []] []

def sampleLN0 : XmlElement :=
  .mk (lit "LN0") [(lit "lnClass", lit "LLN0")] [sampleDataSet] []

def sampleLDevice : XmlElement :=
  .mk (lit "LDevice") [(lit "inst", lit "GenericIO")] [sampleLN0] []

def sampleServer : XmlElement := .mk (lit "Server") [] [sampleLDevice] []

def sampleAccessPoint : XmlElement := .mk (lit "AccessPoint") [] [sampleServer] []

def sampleIED : XmlElement :=
  .mk (lit "IED") [(lit "name", lit "simpleIO")] [sampleAccessPoint] []

def sampleDocument : XmlElement := .mk (lit "SCL") [] [sampleIED] []

theorem mem_childrenNamed_singleton {name : Str} {attributes : List (Str × Str)}
    {child : XmlElement} {text : Str} {tag : String} (htag : child.name = lit tag) :
    child ∈ (XmlElement.mk name attributes [child] text).childrenNamed tag := by
  simp [XmlElement.childrenNamed, XmlElement.children, htag]

def sampleElement : DataSetElement sampleDocument where
  ied := sampleIED
  accessPoint := sampleAccessPoint
  server := sampleServer
  lDevice := sampleLDevice
  ln0 := sampleLN0
  dataSet := sampleDataSet
  ied_mem := mem_childrenNamed_singleton rfl
  accessPoint_mem := mem_childrenNamed_singleton rfl
  server_mem := mem_childrenNamed_singleton rfl
  lDevice_mem := mem_childrenNamed_singleton rfl
  ln0_mem := mem_childrenNamed_singleton rfl
  dataSet_mem := mem_childrenNamed_singleton rfl

theorem usesSclNames_sampleDocument : UsesSclNames sampleDocument := by
  unfold UsesSclNames
  decide +kernel

theorem sample_dataSet_not_found :
    UsesSclNames sampleDocument ∧ sampleElement.Unambiguous ∧ ¬ sampleElement.Found := by
  refine ⟨usesSclNames_sampleDocument, ?_, ?_⟩
  · refine ⟨by decide +kernel, fun other _ => ?_⟩
    have hied : other.ied = sampleIED := List.mem_singleton.mp other.ied_mem
    have haccessPoint := other.accessPoint_mem
    rw [hied] at haccessPoint
    have hserver := other.server_mem
    rw [List.mem_singleton.mp haccessPoint] at hserver
    have hlDevice := other.lDevice_mem
    rw [List.mem_singleton.mp hserver] at hlDevice
    exact ⟨hied, List.mem_singleton.mp haccessPoint, List.mem_singleton.mp hlDevice⟩
  · rintro ⟨scl, detail, hscl, hok, -⟩
    obtain ⟨err, herror⟩ := getDataSet_of_no_accessPoint
      (accessPoint_eq_nil_of_getSCL usesSclNames_sampleDocument hscl) sampleElement.reference
    rw [herror] at hok
    cases hok

theorem dataSet_never_found_sample : ¬ sampleElement.Found :=
  dataSet_never_found usesSclNames_sampleDocument sampleElement

end Iec61850.SclXml
