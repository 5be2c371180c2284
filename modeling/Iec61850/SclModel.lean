import Iec61850.GoText

/-!
# The SCL data model

The structures of an SCL file, field by field, together with the fields which
the parser and the model builder fill in later (marked `custom` in the
source).  An optional child element is an `Option`, a list of child elements
is a `List`; an attribute that is absent from the file has its zero value.
-/

namespace Iec61850.Scl

open Go

/-! ## Attribute types -/

inductive AttributeType
  | boolean | int8 | int16 | int32 | int64 | int128
  | int8U | int16U | int24U | int32U
  | float32 | float64 | enumerated
  | octetString64 | octetString6 | octetString8
  | visibleString32 | visibleString64 | visibleString65 | visibleString129
  | visibleString255 | unicodeString255
  | timestamp | quality | check | codedEnum | genericBitString
  | constructed | entryTime | phyComAddr | currency | optFlds | trgOps
  deriving DecidableEq, Repr

inductive SmpMod
  | smpPerPeriod | smpPerSecond | secPerSmp
  deriving DecidableEq, Repr

/-! ## Values -/

/-- The dynamic values stored in `DataModelValue.Value`; a floating-point
number is represented by its IEEE bit pattern. -/
inductive GoValue
  | int (n : ℤ)
  | int64 (n : ℤ)
  | bool (b : Bool)
  | float32 (bits : UInt32)
  | float64 (bits : UInt64)
  | string (s : Str)
  | bytes (b : List UInt8)
  deriving DecidableEq, Repr

structure DataModelValue where
  value : Option GoValue
  unknownEnumValue : Str := []
  enumType : Str := []
  deriving DecidableEq, Repr

/-! ## Data type templates -/

structure TriggerOptions where
  dchg : Bool := false
  qchg : Bool := false
  dupd : Bool := false
  period : Bool := false
  gi : Bool := false
  deriving DecidableEq, Repr

structure DataAttributeDefinition where
  name : Str
  fc : Str := []
  type : Str := []
  bType : Str := []
  count : ℤ := 0
  dchgTrigger : Bool := false
  dupdTrigger : Bool := false
  qchgTrigger : Bool := false
  val : Option Str := none
  -- custom
  attributeType : AttributeType := .boolean
  triggerOptions : Option TriggerOptions := none
  value : Option DataModelValue := none
  deriving DecidableEq, Repr

structure DataObjectDefinition where
  name : Str
  type : Str
  transient : Bool := false
  count : ℤ := 0
  deriving DecidableEq, Repr

structure LogicalNodeType where
  id : Str
  lnClass : Str := []
  dataObjectDefinitions : List DataObjectDefinition := []
  deriving DecidableEq, Repr

structure DataObjectType where
  id : Str
  cdc : Str := []
  dataAttributes : List DataAttributeDefinition := []
  subDataObjects : List DataObjectDefinition := []
  deriving DecidableEq, Repr

structure DataAttributeType where
  id : Str
  subDataAttributes : List DataAttributeDefinition := []
  deriving DecidableEq, Repr

structure EnumerationValue where
  ord : ℤ
  symbolicName : Str
  deriving DecidableEq, Repr

structure EnumerationType where
  id : Str
  enumValues : List EnumerationValue := []
  deriving DecidableEq, Repr

/-- The implementations of the interface `SclType`. -/
inductive SclType
  | logicalNodeType (t : LogicalNodeType)
  | dataObjectType (t : DataObjectType)
  | dataAttributeType (t : DataAttributeType)
  | enumerationType (t : EnumerationType)
  deriving DecidableEq, Repr

def SclType.getId : SclType → Str
  | .logicalNodeType t => t.id
  | .dataObjectType t => t.id
  | .dataAttributeType t => t.id
  | .enumerationType t => t.id

structure DataTypeTemplates where
  logicalNodeTypes : List LogicalNodeType := []
  dataObjectTypes : List DataObjectType := []
  dataAttributeTypes : List DataAttributeType := []
  enumTypes : List EnumerationType := []
  -- the four lists merged by the parser
  typeDeclarations : List SclType := []
  deriving DecidableEq, Repr

/-! ## The instantiated data model -/

structure DataAttribute where
  name : Str
  fc : Str
  attributeType : AttributeType
  count : ℤ := 0
  value : Option DataModelValue := none
  shortAddress : Str := []
  subDataAttributes : List DataAttribute := []
  sclType : Option SclType := none
  triggerOptions : Option TriggerOptions := none
  definition : DataAttributeDefinition

structure DataObject where
  name : Str
  count : ℤ := 0
  trans : Bool := false
  dataAttributes : List DataAttribute := []
  subDataObjects : List DataObject := []

/-! ## Instance values -/

/-- `DOI`, `SDI` and `DAI` elements. -/
structure DOINode where
  name : Str
  sAddr : Str := []
  val : Option Str := none
  sdiNodes : List DOINode := []
  daiNodes : List DOINode := []

/-! ## Data sets and control blocks -/

structure FCDA where
  ldInst : Str := []
  nodePrefix : Str := []
  lnInst : Str := []
  lnClass : Str := []
  doName : Str := []
  daName : Str := []
  fc : Str := []
  deriving DecidableEq, Repr

structure DataSet where
  name : Str
  fcda : List FCDA := []
  deriving DecidableEq, Repr

structure OptionFields where
  seqNum : Bool := false
  timeStamp : Bool := false
  dataSet : Bool := false
  reasonCode : Bool := false
  dataRef : Bool := false
  entryID : Bool := false
  configRef : Bool := false
  bufOvfl : Bool := false
  deriving DecidableEq, Repr

structure ClientLN where
  iedName : Str := []
  apRef : Str := []
  deriving DecidableEq, Repr

structure RptEnabled where
  maxStr : Str := []
  clientLNs : List ClientLN := []
  -- custom
  max : ℤ := 0
  deriving DecidableEq, Repr

structure ReportControl where
  name : Str
  datSet : Str := []
  rptID : Str := []
  confRev : Str := []
  buffered : Bool := false
  bufTime : ℤ := 0
  intgPd : Str := []
  indexedStr : Str := []
  triggerOptions : Option TriggerOptions := none
  optionFields : Option OptionFields := none
  rptEnabled : Option RptEnabled := none
  -- custom
  indexed : Bool := false
  deriving DecidableEq, Repr

structure GSEControl where
  name : Str
  appID : Str := []
  type : Str := []
  datSet : Str := []
  confRev : ℤ := 0
  fixedOffs : Bool := false
  deriving DecidableEq, Repr

structure SmvOpts where
  refreshTime : Bool := false
  sampleSynchronized : Bool := false
  security : Bool := false
  dataSet : Bool := false
  sampleRate : Bool := false
  deriving DecidableEq, Repr

structure SampledValueControl where
  name : Str
  datSet : Str := []
  smvID : Str := []
  smpRate : ℤ := 0
  nofASDU : ℤ := 0
  confRev : ℤ := 0
  smpModStr : Str := []
  multicast : Bool := false
  smvOpts : Option SmvOpts := none
  -- custom
  smpMod : SmpMod := .smpPerPeriod
  deriving DecidableEq, Repr

structure LogControl where
  name : Str
  datSet : Str := []
  ldInst : Str := []
  nodePrefix : Str := []
  lnClass : Str := []
  lnInst : Str := []
  intgPd : ℤ := 0
  reasonCode : Bool := false
  logName : Str := []
  logEna : Bool := false
  triggerOptions : Option TriggerOptions := none
  deriving DecidableEq, Repr

structure Log where
  name : Str := []
  deriving DecidableEq, Repr

structure SettingControl where
  actSG : ℤ := 0
  numOfSGs : ℤ := 0
  deriving DecidableEq, Repr

/-! ## Devices -/

structure LogicalNode where
  nodePrefix : Str := []
  inst : Str := []
  lnClass : Str
  lnType : Str
  dataSets : List DataSet := []
  reportControlBlocks : List ReportControl := []
  gseControlBlocks : List GSEControl := []
  smvControlBlocks : List SampledValueControl := []
  logControlBlocks : List LogControl := []
  logs : List Log := []
  settingGroupControlBlocks : List SettingControl := []
  doiNodes : List DOINode := []
  -- custom
  sclType : Option SclType := none
  dataObjects : List DataObject := []

structure LogicalDevice where
  inst : Str
  ln0 : Option LogicalNode
  lNodes : List LogicalNode := []
  -- custom: LN0 and the LN elements in one list
  logicalNodes : List LogicalNode := []

structure Server where
  logicalDevices : List LogicalDevice

structure AccessPoint where
  name : Str
  server : Option Server

structure ReportSettings where
  owner : Bool := false
  deriving DecidableEq, Repr

structure Services where
  reportSettings : Option ReportSettings := none
  deriving DecidableEq, Repr

structure IED where
  name : Str
  services : Option Services := none
  accessPoints : List AccessPoint := []

/-! ## Communication -/

structure AddressParameter where
  type : Str
  value : Str
  deriving DecidableEq, Repr

structure Address where
  addressParameters : List AddressParameter := []
  deriving DecidableEq, Repr

structure PhyComAddress where
  addressParameters : List AddressParameter := []
  -- custom
  vlanId : ℤ := 0
  vlanPriority : ℤ := 0
  appId : ℤ := 0
  macAddress : List ℤ := []
  deriving DecidableEq, Repr

/-- Two fields are called `MinTime` in XML, and two `MaxTime`, so `xml.Unmarshal` returns an
error for every document with such an element. -/
structure GSE where
  ldInst : Str
  cbName : Str
  minTimeVal : Option Str := none
  maxTimeVal : Option Str := none
  address : Option PhyComAddress := none
  -- custom
  minTime : ℤ := 0
  maxTime : ℤ := 0
  deriving DecidableEq, Repr

structure SMV where
  ldInst : Str
  cbName : Str
  address : Option PhyComAddress := none
  deriving DecidableEq, Repr

structure ConnectedAP where
  iedName : Str
  apName : Str
  address : Option Address := none
  gesNodes : List GSE := []
  smvNodes : List SMV := []
  deriving DecidableEq, Repr

structure SubNetwork where
  connectedAP : List ConnectedAP := []
  deriving DecidableEq, Repr

structure Communication where
  subNetworks : List SubNetwork := []
  deriving DecidableEq, Repr

structure SCL where
  communication : Option Communication := none
  ieds : List IED
  dataTypeTemplates : Option DataTypeTemplates
  fileFullPath : Str := []

end Iec61850.Scl
