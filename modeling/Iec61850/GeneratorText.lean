import Iec61850.GeneratorOutput
import Iec61850.PrintedText
import Iec61850.GoPrintf

/-!
# The text of the generated C

The text which the generator prints for each record that quotes a string, as
the pieces it is put together from.  Data sets, the nodes of the data model and
the model itself are printed with constant formats, so that their text goes to
the file as it is.  The control blocks are first collected in buffers, one for
each kind, and a whole buffer is then the format of one print.
-/

namespace Iec61850.Scl

open Go CSource

/-! ## Pieces -/

def code (s : String) : Segment := .code (lit s)

/-- `%d` -/
def decimal (n : ℤ) : Str := if n < 0 then '-' :: itoa n.natAbs else itoa n.natAbs

def number (n : ℤ) : Segment := .code (decimal n)

/-- `%t` -/
def truth (b : Bool) : Segment := if b then code "true" else code "false"

/-- The address of a variable behind `cast`, or `NULL`. -/
def addressOf (cast : String) : Option Str → List Segment
  | some v => [code cast, .name v]
  | none => [code "NULL"]

def quotedOrNull : Option Str → Segment
  | some s => .quoted s
  | none => code "NULL"

/-! ## The data model -/

/-- `ToString` -/
def AttributeType.toName : AttributeType → String
  | .boolean => "BOOLEAN"
  | .int8 => "INT8"
  | .int16 => "INT16"
  | .int32 => "INT32"
  | .int64 => "INT64"
  | .int128 => "INT128"
  | .int8U => "INT8U"
  | .int16U => "INT16U"
  | .int24U => "INT24U"
  | .int32U => "INT32U"
  | .float32 => "FLOAT32"
  | .float64 => "FLOAT64"
  | .enumerated => "ENUMERATED"
  | .octetString64 => "OCTET_STRING_64"
  | .octetString6 => "OCTET_STRING_6"
  | .octetString8 => "OCTET_STRING_8"
  | .visibleString32 => "VISIBLE_STRING_32"
  | .visibleString64 => "VISIBLE_STRING_64"
  | .visibleString65 => "VISIBLE_STRING_65"
  | .visibleString129 => "VISIBLE_STRING_129"
  | .visibleString255 => "VISIBLE_STRING_255"
  | .unicodeString255 => "UNICODE_STRING_255"
  | .timestamp => "TIMESTAMP"
  | .quality => "QUALITY"
  | .check => "CHECK"
  | .codedEnum => "CODEDENUM"
  | .genericBitString => "GENERIC_BITSTRING"
  | .constructed => "CONSTRUCTED"
  | .entryTime => "ENTRY_TIME"
  | .phyComAddr => "PHYCOMADDR"
  | .currency => "CURRENCY"
  | .optFlds => "OPTFLDS"
  | .trgOps => "TRGOPS"

def TriggerFlag.text : TriggerFlag → Segment
  | .dataChanged => code " + TRG_OPT_DATA_CHANGED"
  | .dataUpdate => code " + TRG_OPT_DATA_UPDATE"
  | .qualityChanged => code " + TRG_OPT_QUALITY_CHANGED"
  | .transient => code " + TRG_OPT_TRANSIENT"

/-- The lines of a node definition before its name. -/
def NodeKind.opening (variableName : Str) : NodeKind → List Segment
  | .logicalDevice =>
      [code "\nLogicalDevice ", .name variableName, code " = \x7b\n    LogicalDeviceModelType,\n"]
  | .logicalNode =>
      [code "LogicalNode ", .name variableName, code " = \x7b\n    LogicalNodeModelType,\n"]
  | .dataObject _ =>
      [code "DataObject ", .name variableName, code " = \x7b\n    DataObjectModelType,\n"]
  | .dataAttribute .. =>
      [code "DataAttribute ", .name variableName,
        code " = \x7b\n    DataAttributeModelType,\n"]

/-- The lines after the pointer to the first child.  The zero that ends an
element of an array, which has no name, has no line break after it. -/
def NodeKind.closing (named : Bool) : NodeKind → List Segment
  | .logicalDevice => [code "\n\x7d;\n\n"]
  | .logicalNode => [code ",\n\x7d;\n\n"]
  | .dataObject elementCount => [code ",\n    ", number elementCount, code "\n\x7d;\n\n"]
  | .dataAttribute elementCount arrayIndex fc type triggers sAddr =>
      [code ",\n    ", number elementCount, code ",\n    ", number arrayIndex,
        code ",\n    IEC61850_FC_", .name fc, code ",\n    IEC61850_", code type.toName,
        code ",\n    0"] ++ triggers.map TriggerFlag.text ++
      [code ",\n    NULL,\n    ", number sAddr, code (if named then "\n\x7d;\n\n" else "\x7d;\n\n")]

def NodeDefinition.text (d : NodeDefinition) : List Segment :=
  d.label.kind.opening d.variableName ++
    [code "    ", quotedOrNull d.label.name, code ",\n    (ModelNode*) &", .name d.parent,
      code ",\n    "] ++
    addressOf "(ModelNode*) &" d.sibling ++ [code ",\n    "] ++
    addressOf "(ModelNode*) &" d.firstChild ++ d.label.kind.closing d.label.name.isSome

/-- The constructor of a string value and the string it quotes. -/
def InitialValue.quotes : InitialValue → Option (String × Str)
  | .mmsString (some (.string s)) => some ("MmsValue_newMmsString(", s)
  | .visibleString (some (.string s)) => some ("MmsValue_newVisibleString(", s)
  | _ => none

/-- The assignment of a string; other assignments quote no string. -/
def InitStatement.text (d : InitStatement) : Option (List Segment) :=
  d.value.quotes.map fun (constructor, s) =>
    [code "\n"] ++
      (if d.once then [code "if (", .name d.target, code ".mmsValue == nil) \x7b\n"] else []) ++
      [.name d.target, code ".mmsValue = ", code constructor, .quoted s, code ");\n"] ++
      (if d.once then [code "\x7d\n"] else [])

def IedModelDefinition.text (d : IedModelDefinition) : List Segment :=
  [code "\nIedModel ", .name d.modelName, code " = \x7b\n    ", .quoted d.iedName,
      code ",\n    &", .name d.firstChild] ++
    [d.dataSets, d.rcbs, d.gseCBs, d.svCBs, d.sgcbs, d.lcbs, d.logs].flatMap (fun pointer =>
      code ",\n    " :: addressOf "&" pointer) ++
    [code ",\n    initializeValues\x7d;\n"]

/-! ## Data sets -/

def DataSetEntryDefinition.text (d : DataSetEntryDefinition) : List Segment :=
  [code "DataSetEntry ", .name d.entryName, code " = \x7b\n  ", .quoted d.logicalDeviceName,
      code ",\n  false,\n  ", .quoted d.mmsVariableName, code ", \n  ", number d.arrayIndex,
      code ",\n  ", quotedOrNull d.componentName, code ",\n  NULL,\n  "] ++
    addressOf "&" d.sibling ++ [code "\n\x7d;\n\n"]

def DataSetDefinition.text (d : DataSetDefinition) : List Segment :=
  [code "DataSet ", .name d.dataSetName, code " = \x7b\n  ", .quoted d.logicalDeviceName,
      code ",\n  ", .quoted d.name, code ",\n  ", number d.elementCount, code ",\n  &",
      .name d.fcdas, code ",\n  "] ++
    addressOf "&" d.sibling ++ [code "\n\x7d;\n"]

/-- The text of a declaration that is printed with constant formats and may
quote strings. -/
def CItem.text : CItem → Option (List Segment)
  | .dataSetEntry d => some d.text
  | .dataSet d => some d.text
  | .node d => some d.text
  | .iedModel d => some d.text
  | _ => none

/-! ## Control blocks -/

/-- `fmt.Sprintf("%02X", b)` -/
def hexByte (b : UInt8) : Str :=
  [hexDigit (b.toNat / 16), hexDigit (b.toNat % 16)]
where
  hexDigit (n : ℕ) : Char := "0123456789ABCDEF".toList.getD n '0'

/-- `strconv.FormatInt(n, 16)` -/
def hexadecimal (n : ℤ) : Str :=
  if n < 0 then '-' :: Nat.toDigits 16 n.natAbs else Nat.toDigits 16 n.natAbs

/-- The elements of a list of bytes, without its braces. -/
def commaSeparated (texts : List Str) : Segment :=
  .code ((texts.map (lit "0x" ++ ·)).intersperse (lit ", ")).flatten

/-- The bytes of a hardware address in their braces.  The closing brace comes
with the last byte of an SV address, and in any case for GOOSE. -/
def macText (closesEmpty : Bool) (macAddress : List ℤ) : List Segment :=
  [code "  \x7b", commaSeparated (macAddress.map hexadecimal)] ++
    (if macAddress ≠ [] ∨ closesEmpty then [code "\x7d\n"] else [])

def PhyComAddressDefinition.text (closesEmpty : Bool) (d : PhyComAddressDefinition) :
    List Segment :=
  [code "\nstatic PhyComAddress ", .name d.addressName, code " = \x7b\n  ",
      number d.vlanPriority, code ",\n  ", number d.vlanId, code ",\n  ", number d.appId,
      code ",\n"] ++ macText closesEmpty d.macAddress ++ [code "\x7d;\n\n"]

def addressText (closesEmpty : Bool) : Option PhyComAddressDefinition → List Segment
  | some d => d.text closesEmpty
  | none => []

def ReportControlBlockDefinition.text (d : ReportControlBlockDefinition) : List Segment :=
  [code "ReportControlBlock ", .name d.blockName, code " = \x7b&", .name d.parent, code ", ",
      .quoted d.name, code ", ", quotedOrNull d.rptId, code ", ", truth d.buffered, code ", ",
      quotedOrNull d.dataSet, code ", ", .name d.confRef, code ", ", number d.trgOps,
      code ", ", number d.options, code ", ", number d.bufferTime, code ", ",
      .name d.intPeriod, code ", \x7b", commaSeparated (d.clientReservation.map hexByte),
      code "\x7d, "] ++
    addressOf "&" d.sibling ++ [code "\x7d;\n"]

def SmpMod.value : SmpMod → ℤ
  | .smpPerPeriod => 0
  | .smpPerSecond => 1
  | .secPerSmp => 2

def SVControlBlockDefinition.text (d : SVControlBlockDefinition) : List Segment :=
  addressText false d.dstAddress ++
    [code "SVControlBlock ", .name d.blockName, code " = \x7b&", .name d.parent, code ", ",
      .quoted d.name, code ", ", quotedOrNull d.svId, code ", ", quotedOrNull d.dataSet,
      code ", ", number d.optFlds, code ", ", number d.smpMod.value, code ", ",
      number d.smpRate, code ", ", number d.confRev, code ", "] ++
    addressOf "&" (d.dstAddress.map (·.addressName)) ++
    [code ", ", truth d.unicast, code ", ", number d.noASDU, code ", "] ++
    addressOf "&" d.sibling ++ [code "\x7d;\n"]

def GSEControlBlockDefinition.text (d : GSEControlBlockDefinition) : List Segment :=
  addressText true d.address ++
    [code "GSEControlBlock ", .name d.blockName, code " = \x7b&", .name d.parent, code ", ",
      .quoted d.name, code ", ", quotedOrNull d.appId, code ", ", quotedOrNull d.dataSet,
      code ", ", number d.confRev, code ", ", truth d.fixedOffs, code ", "] ++
    addressOf "&" (d.address.map (·.addressName)) ++
    [code ", ", number d.minTime, code ", ", number d.maxTime, code ", "] ++
    addressOf "&" d.sibling ++ [code "\x7d;\n"]

def LogControlBlockDefinition.text (d : LogControlBlockDefinition) : List Segment :=
  [code "LogControlBlock ", .name d.blockName, code " = \x7b&", .name d.parent, code ", ",
      .quoted d.name, code ", ", quotedOrNull d.dataSet, code ", ", quotedOrNull d.logRef,
      code ", ", number d.trgOps, code ", ", number d.intPeriod, code ", ", truth d.logEna,
      code ", ", truth d.reasonCode, code ", "] ++
    addressOf "&" d.sibling ++ [code "\x7d;\n"]

def LogDefinition.text (d : LogDefinition) : List Segment :=
  [code "Log ", .name d.logName, code " = \x7b&", .name d.parent, code ", ", .quoted d.name,
      code ", "] ++
    addressOf "&" d.sibling ++ [code "\x7d;\n"]

/-! ## Files -/

def CItem.initializers : CItem → List InitStatement
  | .initializer statements => statements
  | _ => []

/-- The texts of the file that were printed with constant formats. -/
def GeneratedFiles.verbatimTexts (files : GeneratedFiles) : List (List Segment) :=
  files.c.filterMap CItem.text ++
    (files.c.flatMap CItem.initializers).filterMap InitStatement.text

def CItem.reportControlBlock? : CItem → Option ReportControlBlockDefinition
  | .reportControlBlock d => some d
  | _ => none

def CItem.logControlBlock? : CItem → Option LogControlBlockDefinition
  | .logControlBlock d => some d
  | _ => none

def CItem.log? : CItem → Option LogDefinition
  | .log d => some d
  | _ => none

/-- The buffers that quote strings, each with the line break of its print. -/
def GeneratedFiles.bufferTexts (files : GeneratedFiles) : List (List Segment) :=
  [(files.c.filterMap CItem.reportControlBlock?).flatMap (·.text),
    files.svControlBlocks.flatMap (·.text), files.gseControlBlocks.flatMap (·.text),
    (files.c.filterMap CItem.logControlBlock?).flatMap (·.text),
    (files.c.filterMap CItem.log?).flatMap (·.text)].map (· ++ [code "\n"])

end Iec61850.Scl
