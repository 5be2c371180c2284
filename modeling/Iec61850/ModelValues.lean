import Iec61850.GoOutcome
import Iec61850.Runtime
import Iec61850.ModelLookup

/-!
# Attribute types and their values

The basic types of the `bType` attribute, their names in the generated code,
and `NewDataModelValue`, which parses the text of a `Val` element.
-/

namespace Iec61850.Scl

open Go

def AttributeType.toStr : AttributeType → Str
  | .boolean => lit "BOOLEAN"
  | .int8 => lit "INT8"
  | .int16 => lit "INT16"
  | .int32 => lit "INT32"
  | .int64 => lit "INT64"
  | .int128 => lit "INT128"
  | .int8U => lit "INT8U"
  | .int16U => lit "INT16U"
  | .int24U => lit "INT24U"
  | .int32U => lit "INT32U"
  | .float32 => lit "FLOAT32"
  | .float64 => lit "FLOAT64"
  | .enumerated => lit "ENUMERATED"
  | .octetString64 => lit "OCTET_STRING_64"
  | .octetString6 => lit "OCTET_STRING_6"
  | .octetString8 => lit "OCTET_STRING_8"
  | .visibleString32 => lit "VISIBLE_STRING_32"
  | .visibleString64 => lit "VISIBLE_STRING_64"
  | .visibleString65 => lit "VISIBLE_STRING_65"
  | .visibleString129 => lit "VISIBLE_STRING_129"
  | .visibleString255 => lit "VISIBLE_STRING_255"
  | .unicodeString255 => lit "UNICODE_STRING_255"
  | .timestamp => lit "TIMESTAMP"
  | .quality => lit "QUALITY"
  | .check => lit "CHECK"
  | .codedEnum => lit "CODEDENUM"
  | .genericBitString => lit "GENERIC_BITSTRING"
  | .constructed => lit "CONSTRUCTED"
  | .entryTime => lit "ENTRY_TIME"
  | .phyComAddr => lit "PHYCOMADDR"
  | .currency => lit "CURRENCY"
  | .optFlds => lit "OPTFLDS"
  | .trgOps => lit "TRGOPS"

def attributeTypeNames : List (Str × AttributeType) :=
  [(lit "BOOLEAN", .boolean), (lit "INT8", .int8), (lit "INT16", .int16),
    (lit "INT32", .int32), (lit "INT64", .int64), (lit "INT128", .int128),
    (lit "INT8U", .int8U), (lit "INT16U", .int16U), (lit "INT24U", .int24U),
    (lit "INT32U", .int32U), (lit "FLOAT32", .float32), (lit "FLOAT64", .float64),
    (lit "Enum", .enumerated), (lit "Dbpos", .codedEnum), (lit "Check", .check),
    (lit "Tcmd", .codedEnum), (lit "Octet64", .octetString64),
    (lit "Quality", .quality), (lit "Timestamp", .timestamp),
    (lit "Currency", .currency), (lit "VisString32", .visibleString32),
    (lit "VisString64", .visibleString64), (lit "VisString65", .visibleString65),
    (lit "VisString129", .visibleString129), (lit "ObjRef", .visibleString129),
    (lit "VisString255", .visibleString255), (lit "Unicode255", .unicodeString255),
    (lit "OptFlds", .optFlds), (lit "TrgOps", .trgOps), (lit "EntryID", .octetString8),
    (lit "EntryTime", .entryTime), (lit "PhyComAddr", .phyComAddr),
    (lit "Struct", .constructed)]

def createAttributeTypeFromScl (typeString : Str) : Outcome AttributeType :=
  match attributeTypeNames.lookup typeString with
  | some attributeType => .ok attributeType
  | none => .error (.error (lit "unsupported attribute type " ++ typeString))

/-! ## Values -/

def invalidEnumValue (value typeId : Str) : Stop :=
  .error (value ++ lit " is not a valid value of type " ++ typeId)

/-- The ordinal of an enumeration text: a symbolic name first, then a decimal
ordinal of the type. -/
def newEnumeratedValue (e : EnumerationType) (value : Str) : Outcome DataModelValue :=
  match e.getOrdByEnumString value with
  | some ord => .ok { value := some (.int ord) }
  | none =>
      match atoi value with
      | some ord =>
          if e.isValidOrdValue ord then .ok { value := some (.int ord) }
          else .error (invalidEnumValue value e.id)
      | none => .error (invalidEnumValue value e.id)

def codedEnumValue (value : Str) : Option GoValue :=
  if value = lit "intermediate-state" ∨ value = lit "stop" then some (.int 0)
  else if value = lit "off" ∨ value = lit "lower" then some (.int 1)
  else if value = lit "on" ∨ value = lit "higher" then some (.int 2)
  else if value = lit "bad-state" ∨ value = lit "reserved" then some (.int 4)
  else none

/-- The value of a text which `cast` or `base64` has converted, or their error. -/
def castValue {α : Type} (wrap : α → GoValue) : Except Str α → Outcome DataModelValue
  | .ok a => .ok { value := some (wrap a) }
  | .error message => .error (.error message)

def newDataModelValue (rt : Runtime) (attributeType : AttributeType)
    (sclType : Option SclType) (value : Str) : Outcome DataModelValue :=
  match attributeType with
  | .enumerated =>
      match sclType with
      | some (.enumerationType e) => newEnumeratedValue e value
      | _ => .error (.panic .typeAssertion)
  | .int8 | .int16 | .int32 | .int8U | .int16U | .int24U | .int32U | .int64 =>
      let trimmedValue := trimSpace value
      if trimmedValue = [] then .ok { value := some (.int64 0) }
      else castValue .int64 (rt.castToInt64E trimmedValue)
  | .boolean => .ok { value := some (.bool (asciiLower (trimSpace value) = lit "true")) }
  | .float32 =>
      let trimmedValue := replaceAll (trimSpace value) ',' '.'
      if trimmedValue = [] then .ok { value := some (.float32 0) }
      else castValue .float32 (rt.castToFloat32E trimmedValue)
  | .float64 =>
      let trimmedValue := replaceAll (trimSpace value) ',' '.'
      if trimmedValue = [] then .ok { value := some (.float64 0) }
      else castValue .float64 (rt.castToFloat64E trimmedValue)
  | .unicodeString255 | .visibleString32 | .visibleString64 | .visibleString65
  | .visibleString129 | .visibleString255 | .currency =>
      .ok { value := some (.string value) }
  | .octetString64 => castValue .bytes (rt.base64Decode value)
  | .check | .quality => .ok { value := none }
  | .codedEnum => .ok { value := codedEnumValue value }
  | .timestamp | .entryTime =>
      .ok { value := (rt.timeParse (replaceAll value ',' '.')).map .int64 }
  | .int128 | .octetString6 | .octetString8 | .genericBitString | .constructed
  | .phyComAddr | .optFlds | .trgOps =>
      .error (.error (lit "unsupported type " ++ itoa attributeType.ctorIdx ++
        lit " value: " ++ value))

/-- `updateEnumOrdValue`: the ordinal of a default value is looked up when the
code is generated. -/
def DataModelValue.updateEnumOrdValue (v : DataModelValue)
    (templates : Option DataTypeTemplates) : Outcome DataModelValue :=
  if v.enumType = [] then .ok v
  else do
    let declared ← deref templates
    match declared.lookupType v.enumType with
    | none => .ok v
    | some (.enumerationType e) =>
        match e.getOrdByEnumString v.unknownEnumValue with
        | some ord => .ok { v with value := some (.int ord) }
        | none => .ok v
    | some _ => .error (.panic .typeAssertion)

/-! ## What a parsed value looks like -/

theorem returns_castValue {α : Type} (wrap : α → GoValue) (r : Except Str α) :
    Returns (castValue wrap r) := by
  cases r with
  | ok a => exact returns_ok _
  | error message => exact returns_error message

theorem returns_newEnumeratedValue (e : EnumerationType) (value : Str) :
    Returns (newEnumeratedValue e value) := by
  unfold newEnumeratedValue
  cases e.getOrdByEnumString value with
  | some ord => simp
  | none =>
      cases atoi value with
      | none => simp [invalidEnumValue]
      | some ord =>
          by_cases hvalid : e.isValidOrdValue ord = true <;>
            simp [hvalid, invalidEnumValue]

/-- Only an enumerated attribute without its enumeration makes the value
parser panic. -/
theorem returns_newDataModelValue {rt : Runtime} {attributeType : AttributeType}
    {sclType : Option SclType} {value : Str}
    (henum : attributeType = .enumerated →
      ∃ e, sclType = some (.enumerationType e)) :
    Returns (newDataModelValue rt attributeType sclType value) := by
  cases attributeType with
  | enumerated =>
      obtain ⟨e, rfl⟩ := henum rfl
      exact returns_newEnumeratedValue e value
  | _ =>
      simp only [newDataModelValue]
      try split
      all_goals simp [returns_castValue]

end Iec61850.Scl
