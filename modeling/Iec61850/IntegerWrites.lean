import Iec61850.CText
import Iec61850.ReadValues

/-!
# Integers written to the server

`WriteObject` converts a Go integer to the type of the attribute.  Only a negative number
for an unsigned attribute is rejected; any other number that the type does not hold is
reduced modulo a power of two, and written.
-/

namespace Iec61850.Mms

open Go

/-! ## Go integers and casts -/

inductive IntKind
  | int | int8 | int16 | int32 | int64
  | uint | uint8 | uint16 | uint32 | uint64
  deriving DecidableEq

/-- The least and the greatest number of the type, on a 64-bit platform. -/
def IntKind.range : IntKind → ℤ × ℤ
  | .int8 => (-2 ^ 7, 2 ^ 7 - 1)
  | .int16 => (-2 ^ 15, 2 ^ 15 - 1)
  | .int32 => (-2 ^ 31, 2 ^ 31 - 1)
  | .int | .int64 => (-2 ^ 63, 2 ^ 63 - 1)
  | .uint8 => (0, 2 ^ 8 - 1)
  | .uint16 => (0, 2 ^ 16 - 1)
  | .uint32 => (0, 2 ^ 32 - 1)
  | .uint | .uint64 => (0, 2 ^ 64 - 1)

structure GoInteger where
  kind : IntKind
  value : ℤ
  inRange : kind.range.1 ≤ value ∧ value ≤ kind.range.2

/-- What is passed as an `interface{}`: an integer, or something else. -/
inductive GoArgument (Other : Type)
  | integer (v : GoInteger)
  | other (v : Other)

/-- The functions of `cast`; an error is its text. -/
structure Caster (Float Other : Type) where
  toBoolE : GoArgument Other → Except Str Bool
  toStringE : GoArgument Other → Except Str Str
  toFloat32E : GoArgument Other → Except Str Float
  toInt8E : GoArgument Other → Except Str (BitVec 8)
  toInt16E : GoArgument Other → Except Str (BitVec 16)
  toInt32E : GoArgument Other → Except Str (BitVec 32)
  toInt64E : GoArgument Other → Except Str (BitVec 64)
  toUint8E : GoArgument Other → Except Str (BitVec 8)
  toUint16E : GoArgument Other → Except Str (BitVec 16)
  toUint32E : GoArgument Other → Except Str (BitVec 32)

/-- The conversion to an unsigned type: negative numbers are rejected. -/
def CastsUnsigned {Other : Type} {w : ℕ} (cast : GoArgument Other → Except Str (BitVec w)) :
    Prop :=
  ∀ v : GoInteger,
    (0 ≤ v.value → cast (.integer v) = .ok (BitVec.ofInt w v.value)) ∧
    (v.value < 0 → ∃ err, cast (.integer v) = .error err)

/-- `cast` converts a Go integer as Go does. -/
structure ConvertsIntegers {Float Other : Type} (cast : Caster Float Other) : Prop where
  toInt8E : ∀ v, cast.toInt8E (.integer v) = .ok (BitVec.ofInt 8 v.value)
  toInt16E : ∀ v, cast.toInt16E (.integer v) = .ok (BitVec.ofInt 16 v.value)
  toInt32E : ∀ v, cast.toInt32E (.integer v) = .ok (BitVec.ofInt 32 v.value)
  toInt64E : ∀ v, cast.toInt64E (.integer v) = .ok (BitVec.ofInt 64 v.value)
  toUint8E : CastsUnsigned cast.toUint8E
  toUint16E : CastsUnsigned cast.toUint16E
  toUint32E : CastsUnsigned cast.toUint32E

/-! ## Values of the library -/

/-- The constructors and setters of the library; a setter is given the value before. -/
structure ValueLibrary (Float : Type) where
  newBoolean : Bool → CMmsValue Float
  newMmsString : Str → CMmsValue Float
  newFloat : Float → CMmsValue Float
  newIntegerFromInt8 : BitVec 8 → CMmsValue Float
  newIntegerFromInt16 : BitVec 16 → CMmsValue Float
  newIntegerFromInt32 : BitVec 32 → CMmsValue Float
  newIntegerFromInt64 : BitVec 64 → CMmsValue Float
  newUnsigned : ℤ → CMmsValue Float
  setUint8 : CMmsValue Float → BitVec 8 → CMmsValue Float
  setUint16 : CMmsValue Float → BitVec 16 → CMmsValue Float
  setUint32 : CMmsValue Float → BitVec 32 → CMmsValue Float

variable {Float Other : Type}

/-- An integer that is read as this number. -/
def HoldsSigned {w : ℕ} (mmsValue : CMmsValue Float) (v : BitVec w) : Prop :=
  mmsValue.type = .integer ∧ mmsValue.readings.toInt64.toInt = v.toInt

def HoldsUnsigned {w : ℕ} (mmsValue : CMmsValue Float) (v : BitVec w) : Prop :=
  mmsValue.type = .unsigned ∧ mmsValue.readings.toUint32.toNat = v.toNat

/-- The constructors and setters store their argument exactly. -/
structure StoresExactly (lib : ValueLibrary Float) : Prop where
  int8 : ∀ v, HoldsSigned (lib.newIntegerFromInt8 v) v
  int16 : ∀ v, HoldsSigned (lib.newIntegerFromInt16 v) v
  int32 : ∀ v, HoldsSigned (lib.newIntegerFromInt32 v) v
  int64 : ∀ v, HoldsSigned (lib.newIntegerFromInt64 v) v
  uint8 : ∀ v, HoldsUnsigned (lib.setUint8 (lib.newUnsigned 8) v) v
  uint16 : ∀ v, HoldsUnsigned (lib.setUint16 (lib.newUnsigned 16) v) v
  uint32 : ∀ v, HoldsUnsigned (lib.setUint32 (lib.newUnsigned 32) v) v

/-! ## The converters -/

section

variable (lib : ValueLibrary Float) (cast : Caster Float Other) (value : GoArgument Other)

def toInt64MmsValue : Except Str (CMmsValue Float) := do
  return lib.newIntegerFromInt64 (← cast.toInt64E value)

def toInt32MmsValue : Except Str (CMmsValue Float) := do
  return lib.newIntegerFromInt32 (← cast.toInt32E value)

def toInt16MmsValue : Except Str (CMmsValue Float) := do
  return lib.newIntegerFromInt16 (← cast.toInt16E value)

def toInt8MmsValue : Except Str (CMmsValue Float) := do
  return lib.newIntegerFromInt8 (← cast.toInt8E value)

def toUint32MmsValue : Except Str (CMmsValue Float) := do
  return lib.setUint32 (lib.newUnsigned 32) (← cast.toUint32E value)

def toUint16MmsValue : Except Str (CMmsValue Float) := do
  return lib.setUint16 (lib.newUnsigned 16) (← cast.toUint16E value)

def toUint8MmsValue : Except Str (CMmsValue Float) := do
  return lib.setUint8 (lib.newUnsigned 8) (← cast.toUint8E value)

def toFloatMmsValue : Except Str (CMmsValue Float) := do
  return lib.newFloat (← cast.toFloat32E value)

def toBoolMmsValue : Except Str (CMmsValue Float) := do
  return lib.newBoolean (← cast.toBoolE value)

def toStringMmsValue : Except Str (CMmsValue Float) := do
  return lib.newMmsString (cString (← cast.toStringE value))

def toMmsValue (mmsType : MmsType) : Except Str (CMmsValue Float) :=
  if mmsType = .boolean then toBoolMmsValue lib cast value
  else if mmsType = .mmsString then toStringMmsValue lib cast value
  else if mmsType = .float then toFloatMmsValue lib cast value
  else if mmsType = .uint8 then toUint8MmsValue lib cast value
  else if mmsType = .uint16 then toUint16MmsValue lib cast value
  else if mmsType = .uint32 then toUint32MmsValue lib cast value
  else if mmsType = .int8 then toInt8MmsValue lib cast value
  else if mmsType = .int16 then toInt16MmsValue lib cast value
  else if mmsType = .int32 then toInt32MmsValue lib cast value
  else if mmsType = .int64 then toInt64MmsValue lib cast value
  else .error (lit "unsupported operation")

end

/-! ## The type of the attribute -/

/-- A specification of the library; of an integer `typeSpec` is the number of bits. -/
structure CVariableSpec where
  type : MmsType
  typeSpec : BitVec 32

/-- `spec.typeSpec[0]`, on the little-endian targets. -/
def CVariableSpec.firstByte (spec : CVariableSpec) : BitVec 8 := spec.typeSpec.setWidth 8

/-- The switch of `GetVariableSpecType`. -/
def CVariableSpec.mmsType (spec : CVariableSpec) : MmsType :=
  if spec.type = .integer then
    if spec.firstByte = 8 then .int8
    else if spec.firstByte = 16 then .int16
    else if spec.firstByte = 32 then .int32
    else .int64
  else if spec.type = .unsigned then
    if spec.firstByte = 8 then .uint8
    else if spec.firstByte = 16 then .uint16
    else .uint32
  else spec.type

def getVariableSpecType (request : Except IedError CVariableSpec) : Except IedError MmsType :=
  request.map CVariableSpec.mmsType

/-- What the text of an error names: the step that failed, and why. -/
inductive WriteObjectError
  | getType (objectRef : Str) (fc : ℤ) (err : IedError)
  | convert (objectRef : Str) (fc : ℤ) (err : Str)
  | write (objectRef : Str) (fc : ℤ) (err : IedError)
  deriving DecidableEq

/-- The error, and the value that is handed to `IedConnection_writeObject`, whose reply
is `reply`. -/
def writeObject (lib : ValueLibrary Float) (cast : Caster Float Other)
    (request : Except IedError CVariableSpec) (reply : ℤ) (objectRef : Str) (fc : ℤ)
    (value : GoArgument Other) : Option WriteObjectError × Option (CMmsValue Float) :=
  match getVariableSpecType request with
  | .error err => (some (.getType objectRef fc err), none)
  | .ok mmsType =>
      match toMmsValue lib cast value mmsType with
      | .error err => (some (.convert objectRef fc err), none)
      | .ok mmsValue =>
          ((getIedClientError reply).map (.write objectRef fc), some mmsValue)

/-! ## Reading back -/

/-- The number that a Go value stands for. -/
def GoScalar.number : GoScalar Float → Option ℤ
  | .int64 v => some v.toInt
  | .uint32 v => some v.toNat
  | .uint64 v => some v.toNat
  | _ => none

/-- `toGoValue` reads the value back as this number. -/
def ReadBackAs (mmsValue : CMmsValue Float) (n : ℤ) : Prop :=
  ∃ value, toGoValue (some mmsValue) mmsValue.type = .ok (.scalar value) ∧
    value.number = some n

theorem readBackAs_of_signed_iff {mmsValue : CMmsValue Float} (htype : mmsValue.type = .integer)
    (n : ℤ) : ReadBackAs mmsValue n ↔ mmsValue.readings.toInt64.toInt = n := by
  have hread : toGoValue (some mmsValue) mmsValue.type =
      .ok (.scalar (.int64 mmsValue.readings.toInt64)) := by
    rw [htype]
    cases mmsValue
    rfl
  unfold ReadBackAs
  rw [hread]
  simp [GoScalar.number]

theorem readBackAs_of_unsigned_iff {mmsValue : CMmsValue Float}
    (htype : mmsValue.type = .unsigned) (n : ℤ) :
    ReadBackAs mmsValue n ↔ (mmsValue.readings.toUint32.toNat : ℤ) = n := by
  have hread : toGoValue (some mmsValue) mmsValue.type =
      .ok (.scalar (.uint32 mmsValue.readings.toUint32)) := by
    rw [htype]
    cases mmsValue
    rfl
  unfold ReadBackAs
  rw [hread]
  simp [GoScalar.number]

/-- An attribute of 8, 16, 32 or 64 bits, or an unsigned one of up to 32. -/
def CVariableSpec.IsIntegerAttribute (spec : CVariableSpec) : Prop :=
  (spec.type = .integer ∧ spec.typeSpec ∈ [8, 16, 32, 64]) ∨
  (spec.type = .unsigned ∧ spec.typeSpec ∈ [8, 16, 32])

/-- A signed attribute holds the number, or an unsigned one has the bits for it. -/
def CVariableSpec.Fits (spec : CVariableSpec) (n : ℤ) : Prop :=
  if spec.type = .integer then
    -2 ^ (spec.typeSpec.toNat - 1) ≤ n ∧ n < 2 ^ (spec.typeSpec.toNat - 1)
  else n < 2 ^ spec.typeSpec.toNat

/-- The conversion fails, or the number is read back; and no other one is written. -/
structure NeverWraps (lib : ValueLibrary Float) (cast : Caster Float Other)
    (spec : CVariableSpec) (v : GoInteger) : Prop where
  converted : (∃ err, toMmsValue lib cast (.integer v) spec.mmsType = .error err) ∨
    ∃ mmsValue, toMmsValue lib cast (.integer v) spec.mmsType = .ok mmsValue ∧
      ReadBackAs mmsValue v.value
  written : ∀ reply objectRef fc mmsValue,
    (writeObject lib cast (.ok spec) reply objectRef fc (.integer v)).2 = some mmsValue →
      ReadBackAs mmsValue v.value

section

variable {lib : ValueLibrary Float} {cast : Caster Float Other} {spec : CVariableSpec}
  {v : GoInteger}

theorem neverWraps_of_error {err : Str}
    (herror : toMmsValue lib cast (.integer v) spec.mmsType = .error err) :
    NeverWraps lib cast spec v where
  converted := Or.inl ⟨err, herror⟩
  written := by
    intro reply objectRef fc mmsValue hwritten
    simp [writeObject, getVariableSpecType, Except.map, herror] at hwritten

/-- What is converted is what is written. -/
theorem neverWraps_iff_of_ok {mmsValue : CMmsValue Float}
    (hok : toMmsValue lib cast (.integer v) spec.mmsType = .ok mmsValue) :
    NeverWraps lib cast spec v ↔ ReadBackAs mmsValue v.value := by
  constructor
  · intro h
    rcases h.converted with ⟨err, herror⟩ | ⟨converted, hconverted, hread⟩
    · cases hok.symm.trans herror
    · obtain rfl := Except.ok.inj (hok.symm.trans hconverted)
      exact hread
  · intro hread
    refine ⟨Or.inr ⟨mmsValue, hok, hread⟩, ?_⟩
    intro reply objectRef fc written hwritten
    simp only [writeObject, getVariableSpecType, Except.map, hok] at hwritten
    obtain rfl := Option.some.inj hwritten
    exact hread

theorem toInt_ofInt_eq_iff {w : ℕ} (hw : 0 < w) (n : ℤ) :
    (BitVec.ofInt w n).toInt = n ↔ -2 ^ (w - 1) ≤ n ∧ n < 2 ^ (w - 1) := by
  constructor
  · intro h
    have hlow := BitVec.le_toInt (BitVec.ofInt w n)
    have hhigh := BitVec.toInt_lt (x := BitVec.ofInt w n)
    rw [h] at hlow hhigh
    exact ⟨hlow, hhigh⟩
  · exact fun h => BitVec.toInt_ofInt_eq_self hw h.1 h.2

theorem toNat_ofInt_eq_iff {w : ℕ} {n : ℤ} (hn : 0 ≤ n) :
    ((BitVec.ofInt w n).toNat : ℤ) = n ↔ n < 2 ^ w := by
  have hpower : ((2 ^ w : ℕ) : ℤ) = 2 ^ w := by push_cast; rfl
  have hpos : (0 : ℤ) < 2 ^ w := Int.pow_pos (by decide)
  rw [BitVec.toNat_ofInt, hpower, Int.toNat_of_nonneg (Int.emod_nonneg n hpos.ne')]
  constructor
  · intro h
    rw [← h]
    exact Int.emod_lt_of_pos n hpos
  · exact Int.emod_eq_of_lt hn

/-- A signed attribute of `w` bits. -/
theorem neverWraps_iff_of_signed {w : ℕ} (hw : 0 < w) (htype : spec.type = .integer)
    (hbits : spec.typeSpec.toNat = w) {cast' : GoArgument Other → Except Str (BitVec w)}
    {store : BitVec w → CMmsValue Float}
    (hcast : ∀ v, cast' (.integer v) = .ok (BitVec.ofInt w v.value))
    (hstore : ∀ v, HoldsSigned (store v) v)
    (hconvert : toMmsValue lib cast (.integer v) spec.mmsType = (cast' (.integer v)).map store) :
    NeverWraps lib cast spec v ↔ spec.Fits v.value := by
  rw [hcast v] at hconvert
  have hholds := hstore (BitVec.ofInt w v.value)
  rw [neverWraps_iff_of_ok hconvert, readBackAs_of_signed_iff hholds.1, hholds.2,
    toInt_ofInt_eq_iff hw, CVariableSpec.Fits, if_pos htype, hbits]

/-- An unsigned attribute of `w` bits. -/
theorem neverWraps_iff_of_unsigned {w : ℕ} (htype : spec.type = .unsigned)
    (hbits : spec.typeSpec.toNat = w) {cast' : GoArgument Other → Except Str (BitVec w)}
    {store : BitVec w → CMmsValue Float} (hcast : CastsUnsigned cast')
    (hstore : ∀ v, HoldsUnsigned (store v) v)
    (hconvert : toMmsValue lib cast (.integer v) spec.mmsType = (cast' (.integer v)).map store) :
    NeverWraps lib cast spec v ↔ spec.Fits v.value := by
  have hfits : spec.Fits v.value ↔ v.value < 2 ^ w := by
    have hsigned : spec.type ≠ .integer := by
      rw [htype]
      decide
    rw [CVariableSpec.Fits, if_neg hsigned, hbits]
  rw [hfits]
  by_cases hn : 0 ≤ v.value
  · rw [(hcast v).1 hn] at hconvert
    have hholds := hstore (BitVec.ofInt w v.value)
    rw [neverWraps_iff_of_ok hconvert, readBackAs_of_unsigned_iff hholds.1, hholds.2,
      toNat_ofInt_eq_iff hn]
  · obtain ⟨err, herr⟩ := (hcast v).2 (not_le.mp hn)
    rw [herr] at hconvert
    have hpos : (0 : ℤ) < 2 ^ w := Int.pow_pos (by decide)
    exact iff_of_true (neverWraps_of_error hconvert) ((not_le.mp hn).trans hpos)

/-- A Go integer is rejected or arrives as it is exactly when an attribute of its type
holds it, or it is negative and the attribute unsigned. -/
theorem writeObject_neverWraps_iff (hcast : ConvertsIntegers cast) (hlib : StoresExactly lib)
    (hspec : spec.IsIntegerAttribute) (v : GoInteger) :
    NeverWraps lib cast spec v ↔ spec.Fits v.value := by
  obtain ⟨type, typeSpec⟩ := spec
  rcases hspec with ⟨htype, hbits⟩ | ⟨htype, hbits⟩
  · obtain rfl : type = .integer := htype
    simp only [List.mem_cons, List.not_mem_nil, or_false] at hbits
    rcases hbits with rfl | rfl | rfl | rfl
    · exact neverWraps_iff_of_signed (by decide) rfl rfl hcast.toInt8E hlib.int8 rfl
    · exact neverWraps_iff_of_signed (by decide) rfl rfl hcast.toInt16E hlib.int16 rfl
    · exact neverWraps_iff_of_signed (by decide) rfl rfl hcast.toInt32E hlib.int32 rfl
    · exact neverWraps_iff_of_signed (by decide) rfl rfl hcast.toInt64E hlib.int64 rfl
  · obtain rfl : type = .unsigned := htype
    simp only [List.mem_cons, List.not_mem_nil, or_false] at hbits
    rcases hbits with rfl | rfl | rfl
    · exact neverWraps_iff_of_unsigned rfl rfl hcast.toUint8E hlib.uint8 rfl
    · exact neverWraps_iff_of_unsigned rfl rfl hcast.toUint16E hlib.uint16 rfl
    · exact neverWraps_iff_of_unsigned rfl rfl hcast.toUint32E hlib.uint32 rfl

end

/-! ## A set-point of one byte -/

def castsUnsigned {w : ℕ} : GoArgument Unit → Except Str (BitVec w)
  | .integer v =>
      if v.value < 0 then .error (lit "unable to cast negative value")
      else .ok (BitVec.ofInt w v.value)
  | .other _ => .error (lit "unable to cast")

def castsSigned {w : ℕ} : GoArgument Unit → Except Str (BitVec w)
  | .integer v => .ok (BitVec.ofInt w v.value)
  | .other _ => .error (lit "unable to cast")

def sampleCaster : Caster Unit Unit where
  toBoolE _ := .error (lit "unable to cast")
  toStringE _ := .error (lit "unable to cast")
  toFloat32E _ := .error (lit "unable to cast")
  toInt8E := castsSigned
  toInt16E := castsSigned
  toInt32E := castsSigned
  toInt64E := castsSigned
  toUint8E := castsUnsigned
  toUint16E := castsUnsigned
  toUint32E := castsUnsigned

theorem castsUnsigned_castsUnsigned {w : ℕ} :
    CastsUnsigned (castsUnsigned : GoArgument Unit → Except Str (BitVec w)) := by
  intro v
  constructor
  · intro hv
    exact if_neg (not_lt.mpr hv)
  · intro hv
    exact ⟨_, if_pos hv⟩

theorem convertsIntegers_sampleCaster : ConvertsIntegers sampleCaster where
  toInt8E _ := rfl
  toInt16E _ := rfl
  toInt32E _ := rfl
  toInt64E _ := rfl
  toUint8E := castsUnsigned_castsUnsigned
  toUint16E := castsUnsigned_castsUnsigned
  toUint32E := castsUnsigned_castsUnsigned

def storedUnsigned {w : ℕ} (mmsValue : CMmsValue Unit) (v : BitVec w) : CMmsValue Unit :=
  ⟨mmsValue.type, [], { mmsValue.readings with toUint32 := v.setWidth 32 }⟩

def sampleLibrary : ValueLibrary Unit where
  newBoolean b := ⟨.boolean, [], { sampleReadings 0 with getBoolean := b }⟩
  newMmsString s := ⟨.mmsString, [], { sampleReadings 0 with toString := s }⟩
  newFloat _ := ⟨.float, [], sampleReadings 0⟩
  newIntegerFromInt8 v := ⟨.integer, [], sampleReadings (v.signExtend 64)⟩
  newIntegerFromInt16 v := ⟨.integer, [], sampleReadings (v.signExtend 64)⟩
  newIntegerFromInt32 v := ⟨.integer, [], sampleReadings (v.signExtend 64)⟩
  newIntegerFromInt64 v := ⟨.integer, [], sampleReadings v⟩
  newUnsigned _ := ⟨.unsigned, [], sampleReadings 0⟩
  setUint8 := storedUnsigned
  setUint16 := storedUnsigned
  setUint32 := storedUnsigned

theorem holdsUnsigned_storedUnsigned {w : ℕ} (hw : w ≤ 32) (v : BitVec w) :
    HoldsUnsigned (storedUnsigned (sampleLibrary.newUnsigned 0) v) v :=
  ⟨rfl, BitVec.toNat_setWidth_of_le hw⟩

theorem storesExactly_sampleLibrary : StoresExactly sampleLibrary where
  int8 v := ⟨rfl, BitVec.toInt_signExtend_of_le (by decide)⟩
  int16 v := ⟨rfl, BitVec.toInt_signExtend_of_le (by decide)⟩
  int32 v := ⟨rfl, BitVec.toInt_signExtend_of_le (by decide)⟩
  int64 v := ⟨rfl, rfl⟩
  uint8 := holdsUnsigned_storedUnsigned (by decide)
  uint16 := holdsUnsigned_storedUnsigned (by decide)
  uint32 := holdsUnsigned_storedUnsigned (by decide)

/-- An attribute of type INT8. -/
def byteSpec : CVariableSpec := ⟨.integer, 8⟩

def threeHundred : GoInteger := ⟨.int, 300, by decide⟩

theorem writeObject_neverWraps_iff_threeHundred :
    NeverWraps sampleLibrary sampleCaster byteSpec threeHundred ↔
      byteSpec.Fits threeHundred.value :=
  writeObject_neverWraps_iff convertsIntegers_sampleCaster storesExactly_sampleLibrary
    (Or.inl ⟨rfl, by decide⟩) threeHundred

/-- What is made of 300 for it. -/
def wrappedThreeHundred : CMmsValue Unit :=
  sampleLibrary.newIntegerFromInt8 (BitVec.ofInt 8 300)

/-- 300 is written to an INT8 attribute as 44, without an error. -/
theorem threeHundred_wraps :
    writeObject sampleLibrary sampleCaster (.ok byteSpec) 0 (lit "LD0/GGIO1.AnIn1") 0
      (.integer threeHundred) = (none, some wrappedThreeHundred) ∧
    ReadBackAs wrappedThreeHundred 44 ∧
    ¬ NeverWraps sampleLibrary sampleCaster byteSpec threeHundred := by
  have hread (n : ℤ) : ReadBackAs wrappedThreeHundred n ↔ 44 = n :=
    readBackAs_of_signed_iff rfl n
  refine ⟨rfl, (hread 44).mpr rfl, ?_⟩
  intro h
  have hwritten := (hread _).mp (h.written 0 [] 0 wrappedThreeHundred rfl)
  exact absurd hwritten (by decide)

end Iec61850.Mms
