import Iec61850.ClientErrors
import Iec61850.VariableLeaves

/-!
# Values read from the server

`toGoValue` copies a value of the library into one of Go, and `ReadObject` does so with
what a read returns.
-/

namespace Iec61850.Mms

open Go

namespace MmsType

def boolean : MmsType := 2
def bitString : MmsType := 3
def integer : MmsType := 4
def unsigned : MmsType := 5
def float : MmsType := 6
def octetString : MmsType := 7
def visibleString : MmsType := 8
def binaryTime : MmsType := 10
/-- `String` -/
def mmsString : MmsType := 13
def utcTime : MmsType := 14
def dataAccessError : MmsType := 15
def int8 : MmsType := 16
def int16 : MmsType := 17
def int32 : MmsType := 18
def int64 : MmsType := 19
def uint8 : MmsType := 20
def uint16 : MmsType := 21
def uint32 : MmsType := 22

end MmsType

/-- What the readers of the library return for a value, `MmsValue_toInt64` and so on. -/
structure Readings (Float : Type) where
  toInt64 : BitVec 64
  toUint32 : BitVec 32
  getBoolean : Bool
  toFloat : Float
  /-- The text that the pointer leads to. -/
  toString : Str
  getBitStringAsInteger : BitVec 32
  getOctetStringSize : BitVec 16
  getOctetStringOctet : ℕ → BitVec 8
  getBinaryTimeAsUtcMs : BitVec 64
  toUnixTimestamp : BitVec 32
  getDataAccessError : ℤ

/-- A value of the library: its type, the elements that `MmsValue_getElement` returns
before `NULL`, and what is read from it. -/
inductive CMmsValue (Float : Type)
  | mk (type : MmsType) (elements : List (CMmsValue Float)) (readings : Readings Float)

variable {Float : Type}

def CMmsValue.type : CMmsValue Float → MmsType
  | ⟨type, _, _⟩ => type

def CMmsValue.readings : CMmsValue Float → Readings Float
  | ⟨_, _, readings⟩ => readings

/-- A value stored in an `any`, other than a slice of values. -/
inductive GoScalar (Float : Type)
  | int64 (v : BitVec 64)
  | uint32 (v : BitVec 32)
  | uint64 (v : BitVec 64)
  | bool (v : Bool)
  | float32 (v : Float)
  | string (v : Str)
  | bytes (v : List (BitVec 8))
  deriving DecidableEq

abbrev GoContent (Float : Type) := MmsContent (GoScalar Float) (MmsValue (GoScalar Float))

/-- The cases of `toGoValue` other than structures and arrays. -/
def toGoScalar (readings : Readings Float) (mmsType : MmsType) : Except Str (GoScalar Float) :=
  if mmsType = .integer then .ok (.int64 readings.toInt64)
  else if mmsType = .unsigned then .ok (.uint32 readings.toUint32)
  else if mmsType = .boolean then .ok (.bool readings.getBoolean)
  else if mmsType = .float then .ok (.float32 readings.toFloat)
  else if mmsType = .mmsString ∨ mmsType = .visibleString then .ok (.string readings.toString)
  else if mmsType = .bitString then .ok (.uint32 readings.getBitStringAsInteger)
  else if mmsType = .octetString then
    .ok (.bytes ((List.range readings.getOctetStringSize.toNat).map readings.getOctetStringOctet))
  else if mmsType = .binaryTime then .ok (.uint64 readings.getBinaryTimeAsUtcMs)
  else if mmsType = .utcTime then .ok (.uint32 readings.toUnixTimestamp)
  else if mmsType = .dataAccessError then
    .error (lit "failed to read value (error code: " ++
      lit (toString readings.getDataAccessError) ++ lit ")")
  else .error (lit "unsupported type " ++ lit (toString mmsType))

mutual

/-- `toGoValue` for a pointer that is not nil. -/
def toGoContent : CMmsValue Float → MmsType → Except Str (GoContent Float)
  | ⟨_, elements, readings⟩, mmsType =>
      if mmsType.IsComposite then do
        let mmsValues ← toGoElements elements
        return .elements (mmsValues.map some)
      else do
        let value ← toGoScalar readings mmsType
        return .scalar value

/-- The loop of `toGoStructure`. -/
def toGoElements : List (CMmsValue Float) → Except Str (List (MmsValue (GoScalar Float)))
  | [] => .ok []
  | value :: rest => do
      let goValue ← toGoContent value value.type
      let mmsValues ← toGoElements rest
      return ⟨value.type, goValue⟩ :: mmsValues

end

def toGoValue (mmsValue : Option (CMmsValue Float)) (mmsType : MmsType) :
    Except Str (GoContent Float) :=
  match mmsValue with
  | none => .error (lit "mms value is nil")
  | some mmsValue => toGoContent mmsValue mmsType

/-- `fmt.Errorf("ReadObject %q fc=%s: %w", objectRef, fc, err)`, and the same with
`ReadObject convert`. -/
inductive ReadObjectError
  | request (objectRef : Str) (fc : ℤ) (err : IedError)
  | convert (objectRef : Str) (fc : ℤ) (err : Str)

/-- What the requests for a specification and a value come to. -/
structure DataServer (Float : Type) where
  getVariableSpecification : Str → ℤ → Except Str MmsVariableSpec
  /-- `IedConnection_readObject` -/
  object : Str → ℤ → Except IedError (CMmsValue Float)
  errorText : ReadObjectError → Str

def DataServer.readObject (server : DataServer Float) (objectRef : Str) (fc : ℤ) :
    Except ReadObjectError (MmsValue (GoScalar Float)) := do
  let mmsValue ← (server.object objectRef fc).mapError (.request objectRef fc)
  let mmsType := mmsValue.type
  let goVal ← (toGoValue (some mmsValue) mmsType).mapError (.convert objectRef fc)
  return ⟨mmsType, goVal⟩

def DataServer.valueServer (server : DataServer Float) : ValueServer (GoScalar Float) where
  getVariableSpecification := server.getVariableSpecification
  readObject objectRef fc := (server.readObject objectRef fc).mapError server.errorText

/-! ## The shape of a value that was read -/

/-- The composite values, and no others, hold a slice, which has no nil pointers. -/
inductive MmsValue.IsRead {Scalar : Type} : MmsValue Scalar → Prop
  | composite {type : MmsType} {children : List (MmsValue Scalar)} (htype : type.IsComposite)
      (hchildren : ∀ child ∈ children, child.IsRead) :
      MmsValue.IsRead ⟨type, .elements (children.map some)⟩
  | scalar {type : MmsType} (value : Scalar) (htype : ¬ type.IsComposite) :
      MmsValue.IsRead ⟨type, .scalar value⟩

mutual

theorem isRead_of_toGoContent : (mmsValue : CMmsValue Float) → {mmsType : MmsType} →
    {goVal : GoContent Float} → toGoContent mmsValue mmsType = .ok goVal →
    MmsValue.IsRead ⟨mmsType, goVal⟩
  | ⟨_, elements, readings⟩, mmsType, goVal, h => by
      rw [toGoContent] at h
      by_cases htype : mmsType.IsComposite
      · rw [if_pos htype] at h
        cases hvalues : toGoElements elements with
        | error err =>
            rw [hvalues] at h
            cases h
        | ok mmsValues =>
            rw [hvalues] at h
            obtain rfl := Except.ok.inj h
            exact .composite htype (isRead_of_toGoElements elements hvalues)
      · rw [if_neg htype] at h
        cases hvalue : toGoScalar readings mmsType with
        | error err =>
            rw [hvalue] at h
            cases h
        | ok value =>
            rw [hvalue] at h
            obtain rfl := Except.ok.inj h
            exact .scalar value htype

theorem isRead_of_toGoElements : (elements : List (CMmsValue Float)) →
    {mmsValues : List (MmsValue (GoScalar Float))} → toGoElements elements = .ok mmsValues →
    ∀ child ∈ mmsValues, child.IsRead
  | [], mmsValues, h => by
      rw [toGoElements] at h
      obtain rfl := Except.ok.inj h
      simp
  | value :: rest, mmsValues, h => by
      rw [toGoElements] at h
      cases hvalue : toGoContent value value.type with
      | error err =>
          rw [hvalue] at h
          cases h
      | ok goValue =>
          cases hrest : toGoElements rest with
          | error err =>
              rw [hvalue, hrest] at h
              cases h
          | ok others =>
              rw [hvalue, hrest] at h
              obtain rfl := Except.ok.inj h
              intro child hchild
              rcases List.mem_cons.mp hchild with rfl | hchild
              · exact isRead_of_toGoContent value hvalue
              · exact isRead_of_toGoElements rest hrest child hchild

end

/-- What `ReadObject` returns has the shape of a value that was read. -/
theorem DataServer.isRead_of_readObject {server : DataServer Float} {objectRef : Str} {fc : ℤ}
    {val : MmsValue (GoScalar Float)} (h : server.readObject objectRef fc = .ok val) :
    val.IsRead := by
  unfold readObject at h
  cases hobject : server.object objectRef fc with
  | error err =>
      rw [hobject] at h
      cases h
  | ok mmsValue =>
      cases hvalue : toGoValue (some mmsValue) mmsValue.type with
      | error err =>
          simp only [hobject, hvalue, Except.mapError, bind, Except.bind] at h
          cases h
      | ok goVal =>
          simp only [hobject, hvalue, Except.mapError, bind, Except.bind] at h
          obtain rfl := Except.ok.inj h
          exact isRead_of_toGoContent mmsValue hvalue

/-- Only the integer is read from it. -/
def sampleReadings (n : BitVec 64) : Readings Unit where
  toInt64 := n
  toUint32 := 0
  getBoolean := false
  toFloat := ()
  toString := []
  getBitStringAsInteger := 0
  getOctetStringSize := 0
  getOctetStringOctet _ := 0
  getBinaryTimeAsUtcMs := 0
  toUnixTimestamp := 0
  getDataAccessError := 0

end Iec61850.Mms
