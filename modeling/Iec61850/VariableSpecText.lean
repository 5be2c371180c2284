import Iec61850.DelimitedText
import Iec61850.GeneratorText
import Iec61850.ReadValues
import Mathlib.Data.List.Nodup

/-!
# The text of a variable specification

`MmsVariableSpec.String` prints arrays and structures with what they are made of, and
scalars with their sizes.  The text of a scalar can be read back.
-/

namespace Iec61850.Mms

open Go Delimited

/-! ## The stringer -/

namespace MmsType

def generalizedTime : MmsType := 9
def bcd : MmsType := 11
def objId : MmsType := 12

end MmsType

/-- The cases of the switch in `mmsTypeName`. -/
def mmsTypeNames : List (MmsType × Str) :=
  [(.array, lit "Array"), (.struct, lit "Structure"), (.boolean, lit "Boolean"),
    (.bitString, lit "BitString"), (.integer, lit "Integer"), (.unsigned, lit "Unsigned"),
    (.float, lit "Float"), (.octetString, lit "OctetString"),
    (.visibleString, lit "VisibleString"), (.generalizedTime, lit "GeneralizedTime"),
    (.binaryTime, lit "BinaryTime"), (.bcd, lit "Bcd"), (.objId, lit "ObjId"),
    (.mmsString, lit "String"), (.utcTime, lit "UTCTime"),
    (.dataAccessError, lit "DataAccessError"), (.int8, lit "Int8"), (.int16, lit "Int16"),
    (.int32, lit "Int32"), (.int64, lit "Int64"), (.uint8, lit "Uint8"),
    (.uint16, lit "Uint16"), (.uint32, lit "Uint32")]

def mmsTypeName (t : MmsType) : Str :=
  (mmsTypeNames.lookup t).getD (lit "MmsType(" ++ Scl.decimal t ++ lit ")")

/-- The fields of a specification that hold the sizes of scalars. -/
structure ScalarSizes where
  integerBits : ℤ := 0
  unsignedBits : ℤ := 0
  floatExponentWidth : ℤ := 0
  floatFormatWidth : ℤ := 0
  bitStringSize : ℤ := 0
  octetStringSize : ℤ := 0
  visibleStringSize : ℤ := 0
  mmsStringSize : ℤ := 0
  binaryTimeSize : ℤ := 0

/-- A specification with the sizes of scalars. -/
structure SizedVariableSpec where
  type : MmsType
  name : Str := []
  array : Option (MmsArraySpec SizedVariableSpec) := none
  struct : Option (MmsStructureSpec SizedVariableSpec) := none
  sizes : ScalarSizes := {}

/-- A scalar with a size that is printed unless it is zero. -/
def sizedText (typeName : String) (size : ℤ) (unit : String) : Str :=
  if size ≠ 0 then lit typeName ++ lit "(" ++ Scl.decimal size ++ lit unit ++ lit ")"
  else lit typeName

def floatText (formatWidth exponentWidth : ℤ) : Str :=
  if formatWidth ≠ 0 ∨ exponentWidth ≠ 0 then
    if formatWidth ≠ 0 ∧ exponentWidth ≠ 0 then
      lit "Float(fmt=" ++ Scl.decimal formatWidth ++ lit ", exp=" ++ Scl.decimal exponentWidth ++
        lit ")"
    else if formatWidth ≠ 0 then lit "Float(fmt=" ++ Scl.decimal formatWidth ++ lit ")"
    else lit "Float(exp=" ++ Scl.decimal exponentWidth ++ lit ")"
  else lit "Float"

/-- The cases of `writeVarSpec` other than arrays and structures. -/
def writeScalarSpec (type : MmsType) (sizes : ScalarSizes) : Str :=
  if type = .integer then sizedText "Integer" sizes.integerBits "bit"
  else if type = .unsigned then sizedText "Unsigned" sizes.unsignedBits "bit"
  else if type = .float then floatText sizes.floatFormatWidth sizes.floatExponentWidth
  else if type = .bitString then sizedText "BitString" sizes.bitStringSize "bit"
  else if type = .octetString then sizedText "OctetString" sizes.octetStringSize ""
  else if type = .visibleString then sizedText "VisibleString" sizes.visibleStringSize ""
  else if type = .mmsString then sizedText "String" sizes.mmsStringSize ""
  else if type = .binaryTime then sizedText "BinaryTime" sizes.binaryTimeSize ""
  else mmsTypeName type

mutual

def writeVarSpec : SizedVariableSpec → Str
  | ⟨type, _, array, struct, sizes⟩ =>
      if type = .array then writeArraySpec array
      else if type = .struct then lit "Structure\x7b" ++ writeStructureSpec struct ++ lit "\x7d"
      else writeScalarSpec type sizes

def writeArraySpec : Option (MmsArraySpec SizedVariableSpec) → Str
  | none => lit "Array[?]"
  | some ⟨elementCount, element⟩ => writeElementSpec elementCount element

def writeElementSpec (elementCount : ℤ) : Option SizedVariableSpec → Str
  | none => lit "Array[?]"
  | some element =>
      lit "Array[" ++ Scl.decimal elementCount ++ lit "] of " ++ writeVarSpec element

def writeStructureSpec : Option (MmsStructureSpec SizedVariableSpec) → Str
  | none => []
  | some ⟨elements⟩ => writeElements elements 0

/-- The loop over the elements from the `i`-th on. -/
def writeElements : List SizedVariableSpec → ℕ → Str
  | [], _ => []
  | el :: rest, i =>
      (if 0 < i then lit ", " else []) ++ (if el.name ≠ [] then el.name ++ lit ": " else []) ++
        writeVarSpec el ++ writeElements rest (i + 1)

end

/-! ## What a specification says -/

/-- A scalar with its sizes, an array without a known element, one with an element, or a
structure with the names and the shapes of its fields. -/
inductive SpecShape
  | scalar (type : MmsType) (size exponent : ℤ)
  | unknownArray
  | array (count : ℤ) (element : SpecShape)
  | struct (fields : List (Str × SpecShape))

/-- The size and the exponent width that belong to the type. -/
def ScalarSizes.shown (sizes : ScalarSizes) (type : MmsType) : ℤ × ℤ :=
  if type = .integer then (sizes.integerBits, 0)
  else if type = .unsigned then (sizes.unsignedBits, 0)
  else if type = .float then (sizes.floatFormatWidth, sizes.floatExponentWidth)
  else if type = .bitString then (sizes.bitStringSize, 0)
  else if type = .octetString then (sizes.octetStringSize, 0)
  else if type = .visibleString then (sizes.visibleStringSize, 0)
  else if type = .mmsString then (sizes.mmsStringSize, 0)
  else if type = .binaryTime then (sizes.binaryTimeSize, 0)
  else (0, 0)

mutual

def SizedVariableSpec.shape : SizedVariableSpec → SpecShape
  | ⟨type, _, array, struct, sizes⟩ =>
      if type = .array then arrayShape array
      else if type = .struct then .struct (structureFields struct)
      else .scalar type (sizes.shown type).1 (sizes.shown type).2

def arrayShape : Option (MmsArraySpec SizedVariableSpec) → SpecShape
  | none => .unknownArray
  | some ⟨elementCount, element⟩ => elementShape elementCount element

def elementShape (elementCount : ℤ) : Option SizedVariableSpec → SpecShape
  | none => .unknownArray
  | some element => .array elementCount element.shape

def structureFields : Option (MmsStructureSpec SizedVariableSpec) → List (Str × SpecShape)
  | none => []
  | some ⟨elements⟩ => elementFields elements

def elementFields : List SizedVariableSpec → List (Str × SpecShape)
  | [] => []
  | el :: rest => (el.name, el.shape) :: elementFields rest

end

/-! ## Numerals -/

theorem isDigit_of_mem_itoa {n : ℕ} {c : Char} (hc : c ∈ itoa n) : c.isDigit = true :=
  Nat.isDigit_of_mem_toDigits (by decide) (by decide) hc

/-- A numeral holds digits, and a minus sign. -/
theorem mem_decimal {n : ℤ} {c : Char} (hc : c ∈ Scl.decimal n) : c.isDigit = true ∨ c = '-' := by
  unfold Scl.decimal at hc
  split at hc
  next =>
    rcases List.mem_cons.mp hc with rfl | hc
    · exact Or.inr rfl
    · exact Or.inl (isDigit_of_mem_itoa hc)
  next => exact Or.inl (isDigit_of_mem_itoa hc)

theorem not_mem_decimal {n : ℤ} {c : Char} (hdigit : c.isDigit = false) (hminus : c ≠ '-') :
    c ∉ Scl.decimal n := by
  intro hc
  rcases mem_decimal hc with h | h
  · rw [hdigit] at h
    cases h
  · exact hminus h

theorem decimal_injective : Function.Injective Scl.decimal := by
  have hsign : ∀ m n : ℕ, '-' :: itoa m ≠ itoa n := by
    intro m n h
    have hminus : '-' ∈ itoa n := h ▸ List.mem_cons_self
    exact absurd (isDigit_of_mem_itoa hminus) (by decide)
  intro m n h
  unfold Scl.decimal at h
  split at h <;> split at h
  next =>
    have habs := itoa_injective (List.cons.inj h).2
    omega
  next => exact absurd h (hsign _ _)
  next => exact absurd h.symm (hsign _ _)
  next =>
    have habs := itoa_injective h
    omega

/-! ## Scalars -/

/-- What separates the words of a text. -/
def punctuation : Str := lit "()[]\x7b\x7d:, "

/-- What stands behind a specification in a longer text. -/
def closing : Str := lit ",\x7d"

abbrev Word (s : Str) : Prop := Free (· ∈ punctuation) s

/-- The word that the text of a scalar starts with. -/
def scalarWord (type : MmsType) : Str := (mmsTypeNames.lookup type).getD (lit "MmsType")

def floatInside (formatWidth exponentWidth : ℤ) : Option Str :=
  if formatWidth ≠ 0 then
    if exponentWidth ≠ 0 then
      some (lit "fmt=" ++ Scl.decimal formatWidth ++ ',' :: (lit " exp=" ++
        Scl.decimal exponentWidth))
    else some (lit "fmt=" ++ Scl.decimal formatWidth)
  else if exponentWidth ≠ 0 then some (lit "exp=" ++ Scl.decimal exponentWidth)
  else none

/-- What follows a size. -/
def sizeUnit (type : MmsType) : Str :=
  if type = .integer ∨ type = .unsigned ∨ type = .bitString then lit "bit" else []

/-- What stands in parentheses behind the word. -/
def scalarInside (type : MmsType) (size exponent : ℤ) : Option Str :=
  if mmsTypeNames.lookup type = none then some (Scl.decimal type)
  else if type = .float then floatInside size exponent
  else if size ≠ 0 then some (Scl.decimal size ++ sizeUnit type)
  else none

def parenthesised : Option Str → Str
  | none => []
  | some inside => '(' :: (inside ++ [')'])

def scalarText (type : MmsType) (size exponent : ℤ) : Str :=
  scalarWord type ++ parenthesised (scalarInside type size exponent)

/-- The types that are printed with a size. -/
def sizedTypes : List MmsType :=
  [.integer, .unsigned, .float, .bitString, .octetString, .visibleString, .mmsString,
    .binaryTime]

/-- A scalar has the sizes that belong to its type. -/
structure ScalarValid (type : MmsType) (size exponent : ℤ) : Prop where
  simple : ¬ type.IsComposite
  size : size ≠ 0 → type ∈ sizedTypes
  exponent : exponent ≠ 0 → type = .float

theorem sizedText_eq (type : MmsType) {typeName unit : String} (size : ℤ)
    (hname : mmsTypeNames.lookup type = some (lit typeName)) (hfloat : type ≠ .float)
    (hunit : sizeUnit type = lit unit) :
    sizedText typeName size unit = scalarText type size 0 := by
  have hknown : mmsTypeNames.lookup type ≠ none := by
    rw [hname]
    exact Option.some_ne_none _
  rw [sizedText, scalarText, scalarWord, scalarInside, if_neg hknown, if_neg hfloat, hname, hunit]
  split_ifs with hsize
  · simp [parenthesised, lit]
  · simp [parenthesised]

theorem floatText_eq (size exponent : ℤ) :
    floatText size exponent = scalarText .float size exponent := by
  have hname : mmsTypeNames.lookup .float = some (lit "Float") := by decide
  have hknown : mmsTypeNames.lookup .float ≠ none := by decide
  rw [floatText, scalarText, scalarWord, scalarInside, if_neg hknown, if_pos rfl, hname,
    floatInside]
  by_cases hsize : size = 0
  · by_cases hexponent : exponent = 0
    · simp [hsize, hexponent, parenthesised]
    · simp [hsize, hexponent, parenthesised, lit]
  · by_cases hexponent : exponent = 0
    · simp [hsize, hexponent, parenthesised, lit]
    · simp [hsize, hexponent, parenthesised, lit]

theorem mmsTypeName_eq {type : MmsType} (hfloat : type ≠ .float) :
    mmsTypeName type = scalarText type 0 0 := by
  rw [mmsTypeName, scalarText, scalarWord, scalarInside]
  by_cases hknown : mmsTypeNames.lookup type = none
  · simp [hknown, parenthesised, lit]
  · obtain ⟨name, hname⟩ := Option.ne_none_iff_exists'.mp hknown
    simp [hname, hfloat, parenthesised]

theorem writeScalarSpec_eq (type : MmsType) (sizes : ScalarSizes) :
    writeScalarSpec type sizes =
      scalarText type (sizes.shown type).1 (sizes.shown type).2 := by
  unfold writeScalarSpec ScalarSizes.shown
  split_ifs with h h h h h h h h
  · rw [h, sizedText_eq .integer _ (by decide) (by decide) (by decide)]
  · rw [h, sizedText_eq .unsigned _ (by decide) (by decide) (by decide)]
  · rw [h, floatText_eq]
  · rw [h, sizedText_eq .bitString _ (by decide) (by decide) (by decide)]
  · rw [h, sizedText_eq .octetString _ (by decide) (by decide) (by decide)]
  · rw [h, sizedText_eq .visibleString _ (by decide) (by decide) (by decide)]
  · rw [h, sizedText_eq .mmsString _ (by decide) (by decide) (by decide)]
  · rw [h, sizedText_eq .binaryTime _ (by decide) (by decide) (by decide)]
  · exact mmsTypeName_eq ‹_›

/-! ## Reading scalars -/

theorem mem_of_lookup {type : MmsType} {name : Str} (h : mmsTypeNames.lookup type = some name) :
    (type, name) ∈ mmsTypeNames := by
  obtain ⟨before, after, hsplit, -⟩ := List.lookup_eq_some_iff.mp h
  rw [hsplit]
  exact List.mem_append_right _ List.mem_cons_self

theorem word_scalarWord (type : MmsType) : Word (scalarWord type) := by
  unfold scalarWord
  cases hname : mmsTypeNames.lookup type with
  | none => exact (by decide : ∀ c ∈ lit "MmsType", c ∉ punctuation)
  | some name =>
      have hmem := mem_of_lookup hname
      have hall : ∀ entry ∈ mmsTypeNames, ∀ c ∈ entry.2, c ∉ punctuation := by decide
      exact hall _ hmem

theorem word_starts (type : MmsType) : ∃ c rest, scalarWord type = c :: rest := by
  unfold scalarWord
  cases hname : mmsTypeNames.lookup type with
  | none => exact ⟨_, _, rfl⟩
  | some name =>
      have hmem := mem_of_lookup hname
      have hall : ∀ entry ∈ mmsTypeNames, entry.2 ≠ [] := by decide
      exact List.exists_cons_of_ne_nil (hall _ hmem)

/-- The word tells the type, unless the type is unknown. -/
theorem scalarWord_inj {type type' : MmsType} (h : scalarWord type = scalarWord type') :
    type = type' ∨ mmsTypeNames.lookup type = none ∧ mmsTypeNames.lookup type' = none := by
  have hnodup : (mmsTypeNames.map Prod.snd).Nodup := by decide
  have hunknown : lit "MmsType" ∉ mmsTypeNames.map Prod.snd := by decide
  have hnames : ∀ {t : MmsType} {name : Str}, mmsTypeNames.lookup t = some name →
      (t, name) ∈ mmsTypeNames := fun hname => mem_of_lookup hname
  unfold scalarWord at h
  cases hname : mmsTypeNames.lookup type with
  | none =>
      cases hname' : mmsTypeNames.lookup type' with
      | none => exact Or.inr ⟨rfl, rfl⟩
      | some name' =>
          rw [hname, hname'] at h
          have hsame : lit "MmsType" = name' := h
          exact absurd (hsame ▸ List.mem_map_of_mem (hnames hname')) hunknown
  | some name =>
      cases hname' : mmsTypeNames.lookup type' with
      | none =>
          rw [hname, hname'] at h
          have hsame : name = lit "MmsType" := h
          exact absurd (hsame ▸ List.mem_map_of_mem (hnames hname)) hunknown
      | some name' =>
          rw [hname, hname'] at h
          have hsame : name = name' := h
          subst hsame
          have hentry := List.inj_on_of_nodup_map hnodup (hnames hname) (hnames hname') rfl
          exact Or.inl (congrArg Prod.fst hentry)

theorem floatInside_inj {a b a' b' : ℤ} (h : floatInside a b = floatInside a' b') :
    a = a' ∧ b = b' := by
  have hcomma : ∀ n, ',' ∉ lit "fmt=" ++ Scl.decimal n := fun n =>
    List.not_mem_append (by decide) (not_mem_decimal (by decide) (by decide))
  have hunlike : ∀ u v : Str, lit "fmt=" ++ u ≠ lit "exp=" ++ v := by
    intro u v hsame
    exact absurd (List.cons.inj hsame).1 (by decide)
  have hlong : ∀ m n : ℤ, ∀ u : Str, lit "fmt=" ++ Scl.decimal m ++ ',' :: u ≠
      lit "fmt=" ++ Scl.decimal n := by
    intro m n u hsame
    apply hcomma n
    rw [← hsame]
    exact List.mem_append_right _ List.mem_cons_self
  unfold floatInside at h
  split_ifs at h with ha hb ha' hb' hb' hb' ha' hb' hb' hb' ha' hb' hb' hb' ha'
  · -- a format and an exponent width on both sides
    obtain ⟨hformat, hexponent⟩ := append_cons_inj (hcomma a) (hcomma a') (Option.some.inj h)
    exact ⟨decimal_injective (List.append_cancel_left hformat),
      decimal_injective (List.append_cancel_left hexponent)⟩
  · exact absurd (Option.some.inj h) (hlong _ _ _)
  · have hsame := Option.some.inj h
    rw [List.append_assoc] at hsame
    exact absurd hsame (hunlike _ _)
  · exact absurd (Option.some.inj h).symm (hlong _ _ _)
  · have hformat := decimal_injective (List.append_cancel_left (Option.some.inj h))
    exact ⟨hformat, by omega⟩
  · exact absurd (Option.some.inj h) (hunlike _ _)
  · have hsame := (Option.some.inj h).symm
    rw [List.append_assoc] at hsame
    exact absurd hsame (hunlike _ _)
  · exact absurd (Option.some.inj h).symm (hunlike _ _)
  · have hexponent := decimal_injective (List.append_cancel_left (Option.some.inj h))
    exact ⟨by omega, hexponent⟩
  · omega

theorem lookup_of_mem_sizedTypes {type : MmsType} (h : type ∈ sizedTypes) :
    mmsTypeNames.lookup type ≠ none := by
  have hall : ∀ t ∈ sizedTypes, mmsTypeNames.lookup t ≠ none := by decide
  exact hall type h

/-- A type that is not printed with a size has none. -/
theorem ScalarValid.eq_zero {type : MmsType} {size exponent : ℤ}
    (hvalid : ScalarValid type size exponent) (hunknown : mmsTypeNames.lookup type = none) :
    size = 0 ∧ exponent = 0 := by
  constructor
  · by_contra hsize
    exact lookup_of_mem_sizedTypes (hvalid.size hsize) hunknown
  · by_contra hexponent
    have hfloat := hvalid.exponent hexponent
    exact lookup_of_mem_sizedTypes (by rw [hfloat]; decide) hunknown

theorem scalarInside_inj {type type' : MmsType} {size exponent size' exponent' : ℤ}
    (hvalid : ScalarValid type size exponent) (hvalid' : ScalarValid type' size' exponent')
    (hword : scalarWord type = scalarWord type')
    (h : scalarInside type size exponent = scalarInside type' size' exponent') :
    type = type' ∧ size = size' ∧ exponent = exponent' := by
  rcases scalarWord_inj hword with rfl | ⟨hunknown, hunknown'⟩
  · refine ⟨rfl, ?_⟩
    by_cases hunknown : mmsTypeNames.lookup type = none
    · obtain ⟨hsize, hexponent⟩ := hvalid.eq_zero hunknown
      obtain ⟨hsize', hexponent'⟩ := hvalid'.eq_zero hunknown
      omega
    rw [scalarInside, scalarInside, if_neg hunknown, if_neg hunknown] at h
    by_cases hfloat : type = .float
    · rw [if_pos hfloat, if_pos hfloat] at h
      exact floatInside_inj h
    have hexponent : ∀ e : ℤ, (e ≠ 0 → type = .float) → e = 0 := fun e he =>
      by_contra fun hne => hfloat (he hne)
    rw [if_neg hfloat, if_neg hfloat] at h
    refine ⟨?_, (hexponent _ hvalid.exponent).trans (hexponent _ hvalid'.exponent).symm⟩
    split_ifs at h with hsize hsize'
    · exact decimal_injective (List.append_cancel_right (Option.some.inj h))
    · omega
  · obtain ⟨hsize, hexponent⟩ := hvalid.eq_zero hunknown
    obtain ⟨hsize', hexponent'⟩ := hvalid'.eq_zero hunknown'
    rw [scalarInside, scalarInside, if_pos hunknown, if_pos hunknown'] at h
    exact ⟨decimal_injective (Option.some.inj h), hsize.trans hsize'.symm,
      hexponent.trans hexponent'.symm⟩

/-- What stands in parentheses does not close them. -/
theorem not_mem_scalarInside {type : MmsType} {size exponent : ℤ} {inside : Str}
    (h : scalarInside type size exponent = some inside) : ')' ∉ inside := by
  have hdecimal : ∀ n : ℤ, ')' ∉ Scl.decimal n := fun n =>
    not_mem_decimal (by decide) (by decide)
  have hunit : ')' ∉ sizeUnit type := by
    unfold sizeUnit
    split_ifs <;> decide
  have hformat : ∀ n : ℤ, ')' ∉ lit "fmt=" ++ Scl.decimal n := fun n =>
    List.not_mem_append (by decide) (hdecimal n)
  have hexponent : ∀ n : ℤ, ')' ∉ lit "exp=" ++ Scl.decimal n := fun n =>
    List.not_mem_append (by decide) (hdecimal n)
  have hbehind : ∀ n : ℤ, ')' ∉ lit ", exp=" ++ Scl.decimal n := fun n =>
    List.not_mem_append (by decide) (hdecimal n)
  unfold scalarInside floatInside at h
  split_ifs at h <;> obtain rfl := Option.some.inj h
  · exact hdecimal _
  · exact List.not_mem_append (hformat _) (hbehind _)
  · exact hformat _
  · exact hexponent _
  · exact List.not_mem_append (hdecimal _) hunit

theorem ends_parenthesised (inside : Option Str) {rest : Str} (hrest : Ends (· ∈ closing) rest) :
    Ends (· ∈ punctuation) (parenthesised inside ++ rest) := by
  cases inside with
  | none =>
      intro c hc
      have hall : ∀ d ∈ closing, d ∈ punctuation := by decide
      exact hall c (hrest c hc)
  | some inside => exact ends_cons.mpr (by decide)

theorem parenthesised_inj {inside inside' : Option Str} {rest rest' : Str}
    (hinside : ∀ word, inside = some word → ')' ∉ word)
    (hinside' : ∀ word, inside' = some word → ')' ∉ word)
    (hrest : Ends (· ∈ closing) rest) (hrest' : Ends (· ∈ closing) rest')
    (h : parenthesised inside ++ rest = parenthesised inside' ++ rest') :
    inside = inside' ∧ rest = rest' := by
  have hopen : ∀ {word tail : Str}, ¬ Ends (· ∈ closing) ('(' :: (word ++ [')']) ++ tail) :=
    fun hends => absurd (ends_cons.mp hends) (by decide)
  cases inside with
  | none =>
      cases inside' with
      | none => exact ⟨rfl, h⟩
      | some word' =>
          have hstart : rest = '(' :: (word' ++ [')']) ++ rest' := h
          rw [hstart] at hrest
          exact absurd hrest hopen
  | some word =>
      cases inside' with
      | none =>
          have hstart : rest' = '(' :: (word ++ [')']) ++ rest := h.symm
          rw [hstart] at hrest'
          exact absurd hrest' hopen
      | some word' =>
          have hbehind : word ++ [')'] ++ rest = word' ++ [')'] ++ rest' := (List.cons.inj h).2
          rw [List.append_assoc, List.append_assoc] at hbehind
          obtain ⟨rfl, hsame⟩ := append_cons_inj (hinside word rfl) (hinside' word' rfl) hbehind
          exact ⟨rfl, hsame⟩

end Iec61850.Mms
