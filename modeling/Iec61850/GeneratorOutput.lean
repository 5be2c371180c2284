import Iec61850.SclModel

/-!
# The generated C as records

The two files which the generator writes, with one record for each C
declaration in place of its text.  A record holds what the text is made of: the
identifiers it declares, the identifiers whose address it takes, and the
constants between them.  A pointer that is printed as `NULL` is `none`.
-/

namespace Iec61850.Scl

open Go

/-! ## Nodes of the data model -/

inductive TriggerFlag
  | dataChanged | dataUpdate | qualityChanged | transient
  deriving DecidableEq, Repr

inductive NodeKind
  | logicalDevice
  | logicalNode
  | dataObject (elementCount : ℤ)
  | dataAttribute (elementCount arrayIndex : ℤ) (fc : Str) (type : AttributeType)
      (triggers : List TriggerFlag) (sAddr : ℤ)
  deriving DecidableEq, Repr

/-- The part of a node definition that names no other variable; an element of
an array has no name. -/
structure NodeLabel where
  kind : NodeKind
  name : Option Str
  deriving DecidableEq, Repr

/-- `LogicalDevice`, `LogicalNode`, `DataObject` and `DataAttribute`. -/
structure NodeDefinition where
  variableName : Str
  label : NodeLabel
  parent : Str
  sibling : Option Str
  firstChild : Option Str
  deriving DecidableEq, Repr

/-! ## Initial values -/

/-- The expression assigned to `mmsValue`. -/
inductive InitialValue
  | integer (n : ℤ)
  | unsigned (n : ℤ)
  | boolean (b : Bool)
  | octetString (valueName : Str) (bytes : List UInt8)
  | bitString (v : Option GoValue)
  | mmsString (v : Option GoValue)
  | visibleString (v : Option GoValue)
  | float (v : Option GoValue)
  | double (v : Option GoValue)
  | utcTime (v : Option GoValue)
  | null
  deriving DecidableEq, Repr

/-- An assignment of `initializeValues`; with `once` it stands under
`if (target.mmsValue == nil)`. -/
structure InitStatement where
  target : Str
  once : Bool
  value : InitialValue
  deriving DecidableEq, Repr

/-! ## Data sets -/

structure DataSetEntryDefinition where
  entryName : Str
  logicalDeviceName : Str
  mmsVariableName : Str
  arrayIndex : ℤ
  componentName : Option Str
  sibling : Option Str
  deriving DecidableEq, Repr

structure DataSetDefinition where
  dataSetName : Str
  logicalDeviceName : Str
  name : Str
  elementCount : ℕ
  fcdas : Str
  sibling : Option Str
  deriving DecidableEq, Repr

/-! ## Control blocks -/

structure PhyComAddressDefinition where
  addressName : Str
  vlanPriority : ℤ
  vlanId : ℤ
  appId : ℤ
  macAddress : List ℤ
  deriving DecidableEq, Repr

structure ReportControlBlockDefinition where
  blockName : Str
  parent : Str
  name : Str
  rptId : Option Str
  buffered : Bool
  dataSet : Option Str
  confRef : Str
  trgOps : ℤ
  options : ℤ
  bufferTime : ℤ
  intPeriod : Str
  clientReservation : List UInt8
  sibling : Option Str
  deriving DecidableEq, Repr

structure SVControlBlockDefinition where
  blockName : Str
  parent : Str
  name : Str
  svId : Option Str
  dataSet : Option Str
  optFlds : ℤ
  smpMod : SmpMod
  smpRate : ℤ
  confRev : ℤ
  dstAddress : Option PhyComAddressDefinition
  unicast : Bool
  noASDU : ℤ
  sibling : Option Str
  deriving DecidableEq, Repr

structure GSEControlBlockDefinition where
  blockName : Str
  parent : Str
  name : Str
  appId : Option Str
  dataSet : Option Str
  confRev : ℤ
  fixedOffs : Bool
  address : Option PhyComAddressDefinition
  minTime : ℤ
  maxTime : ℤ
  sibling : Option Str
  deriving DecidableEq, Repr

structure SettingGroupControlBlockDefinition where
  blockName : Str
  parent : Str
  actSG : ℤ
  numOfSGs : ℤ
  sibling : Option Str
  deriving DecidableEq, Repr

structure LogControlBlockDefinition where
  blockName : Str
  parent : Str
  name : Str
  dataSet : Option Str
  logRef : Option Str
  trgOps : ℤ
  intPeriod : ℤ
  logEna : Bool
  reasonCode : Bool
  sibling : Option Str
  deriving DecidableEq, Repr

structure LogDefinition where
  logName : Str
  parent : Str
  name : Str
  sibling : Option Str
  deriving DecidableEq, Repr

/-! ## Files -/

inductive DeclaredType
  | iedModel | logicalDevice | logicalNode | dataObject | dataAttribute
  | dataSet | dataSetEntry
  | reportControlBlock | svControlBlock | gseControlBlock
  | settingGroupControlBlock | logControlBlock | log
  deriving DecidableEq, Repr

/-- `extern type name;` -/
structure ExternDeclaration where
  type : DeclaredType
  name : Str
  deriving DecidableEq, Repr

structure IedModelDefinition where
  modelName : Str
  iedName : Str
  firstChild : Str
  dataSets : Option Str
  rcbs : Option Str
  gseCBs : Option Str
  svCBs : Option Str
  sgcbs : Option Str
  lcbs : Option Str
  logs : Option Str
  deriving DecidableEq, Repr

/-- The declarations of the `.c` file, in the order they are printed.  The
address of a control block is printed before the block. -/
inductive CItem
  | initializerPrototype
  | externDeclaration (d : ExternDeclaration)
  | dataSetEntry (d : DataSetEntryDefinition)
  | dataSet (d : DataSetDefinition)
  | node (d : NodeDefinition)
  | phyComAddress (d : PhyComAddressDefinition)
  | reportControlBlock (d : ReportControlBlockDefinition)
  | svControlBlock (d : SVControlBlockDefinition)
  | gseControlBlock (d : GSEControlBlockDefinition)
  | settingGroupControlBlock (d : SettingGroupControlBlockDefinition)
  | logControlBlock (d : LogControlBlockDefinition)
  | log (d : LogDefinition)
  | iedModel (d : IedModelDefinition)
  | initializer (statements : List InitStatement)
  deriving DecidableEq, Repr

def CItem.node? : CItem → Option NodeDefinition
  | .node d => some d
  | _ => none

def CItem.dataSetEntry? : CItem → Option DataSetEntryDefinition
  | .dataSetEntry d => some d
  | _ => none

def CItem.gseControlBlock? : CItem → Option GSEControlBlockDefinition
  | .gseControlBlock d => some d
  | _ => none

def CItem.svControlBlock? : CItem → Option SVControlBlockDefinition
  | .svControlBlock d => some d
  | _ => none

def CItem.iedModel? : CItem → Option IedModelDefinition
  | .iedModel d => some d
  | _ => none

/-- `#define macroName (&variableName)` -/
structure PointerDefine where
  macroName : Str
  variableName : Str
  deriving DecidableEq, Repr

structure HeaderFile where
  hDefineName : Str
  externs : List ExternDeclaration
  defines : List PointerDefine
  deriving DecidableEq, Repr

structure GeneratedFiles where
  c : List CItem
  h : HeaderFile
  deriving DecidableEq, Repr

/-- The definitions of the data model, in the order of the file. -/
def GeneratedFiles.nodeDefinitions (files : GeneratedFiles) : List NodeDefinition :=
  files.c.filterMap CItem.node?

/-- The members of all data sets, in the order of the file. -/
def GeneratedFiles.dataSetEntries (files : GeneratedFiles) : List DataSetEntryDefinition :=
  files.c.filterMap CItem.dataSetEntry?

def GeneratedFiles.gseControlBlocks (files : GeneratedFiles) :
    List GSEControlBlockDefinition :=
  files.c.filterMap CItem.gseControlBlock?

def GeneratedFiles.svControlBlocks (files : GeneratedFiles) :
    List SVControlBlockDefinition :=
  files.c.filterMap CItem.svControlBlock?

def GeneratedFiles.iedModels (files : GeneratedFiles) : List IedModelDefinition :=
  files.c.filterMap CItem.iedModel?

end Iec61850.Scl
