import Iec61850.CLiterals
import Iec61850.DeclaredIdentifiers
import Iec61850.EnumeratedValues
import Iec61850.InheritedTriggers
import Iec61850.StringLiterals

/-!
# Literals of the initial values

A statement of `initializeValues` hands the value of an attribute to a constructor of the
library.  The value is printed as C text, and where the text of the model leaves no value
or a special one, no literal comes out.
-/

namespace Iec61850.Scl

open Go CSource

/-! ## The printed arguments -/

/-- What `%v` prints of floating-point numbers, given by their bits. -/
structure FloatFormat where
  float32 : UInt32 → Str
  float64 : UInt64 → Str

def isFinite32 (bits : UInt32) : Bool := bits.toNat / 2 ^ 23 % 2 ^ 8 ≠ 255

def isFinite64 (bits : UInt64) : Bool := bits.toNat / 2 ^ 52 % 2 ^ 11 ≠ 2047

def specialFloats : List Str := [lit "NaN", lit "+Inf", lit "-Inf"]

/-- Finite numbers are printed in decimal, the others by name. -/
structure FormatsFloats (format : FloatFormat) : Prop where
  finite32 : ∀ bits, isFinite32 bits = true → ∃ x : DecimalFloat, format.float32 bits = x.text
  finite64 : ∀ bits, isFinite64 bits = true → ∃ x : DecimalFloat, format.float64 bits = x.text
  special32 : ∀ bits, isFinite32 bits = false → format.float32 bits ∈ specialFloats
  special64 : ∀ bits, isFinite64 bits = false → format.float64 bits ∈ specialFloats

def truthText (b : Bool) : Str := if b then lit "true" else lit "false"

namespace FloatFormat

variable (format : FloatFormat)

/-- `%v` -/
def verbV : Option GoValue → Str
  | none => lit "<nil>"
  | some (.int n) | some (.int64 n) => decimal n
  | some (.bool b) => truthText b
  | some (.float32 bits) => format.float32 bits
  | some (.float64 bits) => format.float64 bits
  | some (.string s) => s
  | some (.bytes bytes) =>
      lit "[" ++ ((bytes.map fun b => itoa b.toNat).intersperse (lit " ")).flatten ++ lit "]"

/-- `%s` -/
def verbS : Option GoValue → Str
  | none => lit "%!s(<nil>)"
  | some (.string s) => s
  | some (.bytes bytes) => bytes.map fun b => Char.ofNat b.toNat
  | some (.int n) => lit "%!s(int=" ++ decimal n ++ lit ")"
  | some (.int64 n) => lit "%!s(int64=" ++ decimal n ++ lit ")"
  | some (.bool b) => lit "%!s(bool=" ++ truthText b ++ lit ")"
  | some (.float32 bits) => lit "%!s(float32=" ++ format.float32 bits ++ lit ")"
  | some (.float64 bits) => lit "%!s(float64=" ++ format.float64 bits ++ lit ")"

end FloatFormat

/-- The values that the statement names: the arguments of the constructor and of the
function that sets bits or octets, and the octets of their array. -/
def InitialValue.arguments (format : FloatFormat) : InitialValue → List Str
  | .integer n | .unsigned n => [decimal n]
  | .boolean b => [truthText b]
  | .octetString _ bytes =>
      [lit "0", lit "64"] ++ bytes.map (fun b => lit "0x" ++ hexByte b) ++
        [decimal bytes.length]
  | .bitString v => [lit "2", format.verbV v]
  | .mmsString v | .visibleString v => ['"' :: (format.verbS v ++ ['"'])]
  | .float v | .double v | .utcTime v => [format.verbV v]
  | .null => [lit "NULL"]

def constantNames : List Str := [lit "true", lit "false", lit "NULL"]

/-- An integer, floating or string literal, `true`, `false` or `NULL`. -/
def IsLiteralArgument (s : Str) : Prop :=
  isIntegerConstant s = true ∨ isFloatingConstant s = true ∨ IsStringLiteral s ∨
    s ∈ constantNames

def InitStatement.HasLiterals (format : FloatFormat) (statement : InitStatement) : Prop :=
  ∀ argument ∈ statement.value.arguments format, IsLiteralArgument argument

theorem isLiteralArgument_decimal (n : ℤ) : IsLiteralArgument (decimal n) := by
  left
  unfold decimal
  split
  · exact isIntegerConstant_neg_toDigits n.natAbs
  · exact isIntegerConstant_toDigits n.natAbs

theorem isLiteralArgument_truthText (b : Bool) : IsLiteralArgument (truthText b) := by
  cases b <;> exact Or.inr (Or.inr (Or.inr (by decide)))

theorem isHexDigit_hexDigit : ∀ n < 16, isHexDigit (hexByte.hexDigit n) = true := by decide

theorem isLiteralArgument_hexByte (b : UInt8) : IsLiteralArgument (lit "0x" ++ hexByte b) := by
  have hhigh := isHexDigit_hexDigit (b.toNat / 16) (by have := b.toNat_lt; omega)
  have hlow := isHexDigit_hexDigit (b.toNat % 16) (Nat.mod_lt _ (by omega))
  left
  simp [isIntegerConstant, unsigned, isUnsignedInteger, isPrefixed, hexByte, lit, hhigh, hlow]

theorem not_isLiteralArgument {s : Str} (hinteger : isIntegerConstant s = false)
    (hfloating : isFloatingConstant s = false) (hstring : (joinLines s).head? ≠ some '"')
    (hname : s ∉ constantNames) : ¬ IsLiteralArgument s := by
  intro h
  rcases h with h | h | h | h
  · rw [hinteger] at h
    cases h
  · rw [hfloating] at h
    cases h
  · exact hstring h.head_eq
  · exact hname h

theorem not_isLiteralArgument_nil : ¬ IsLiteralArgument (lit "<nil>") :=
  not_isLiteralArgument (by decide) (by decide) (by decide) (by decide)

theorem not_isLiteralArgument_special : ∀ s ∈ specialFloats, ¬ IsLiteralArgument s := by
  intro s hs
  simp only [specialFloats, List.mem_cons, List.not_mem_nil, or_false] at hs
  rcases hs with rfl | rfl | rfl <;>
    exact not_isLiteralArgument (by decide) (by decide) (by decide) (by decide)

theorem isLiteralArgument_quoted_iff (s : Str) :
    IsLiteralArgument ('"' :: (s ++ ['"'])) ↔ LiteralBody (joinLines s) := by
  rw [← isStringLiteral_quoted_iff]
  constructor
  · intro h
    rcases h with h | h | h | h
    · simp [isIntegerConstant, unsigned, isUnsignedInteger, isDigits] at h
    · simp [isFloatingConstant, unsigned, isUnsignedFloating, isFraction] at h
    · exact h
    · simp [constantNames, lit] at h
  · exact fun h => Or.inr (Or.inr (Or.inl h))

variable {format : FloatFormat}

theorem FormatsFloats.isLiteralArgument_float32_iff (hformat : FormatsFloats format)
    (bits : UInt32) : IsLiteralArgument (format.float32 bits) ↔ isFinite32 bits = true := by
  by_cases hfinite : isFinite32 bits = true
  · obtain ⟨x, hx⟩ := hformat.finite32 bits hfinite
    rw [hx]
    exact iff_of_true (x.constant.imp id Or.inl) hfinite
  · have hspecial := hformat.special32 bits (by simpa using hfinite)
    exact iff_of_false (not_isLiteralArgument_special _ hspecial) hfinite

theorem FormatsFloats.isLiteralArgument_float64_iff (hformat : FormatsFloats format)
    (bits : UInt64) : IsLiteralArgument (format.float64 bits) ↔ isFinite64 bits = true := by
  by_cases hfinite : isFinite64 bits = true
  · obtain ⟨x, hx⟩ := hformat.finite64 bits hfinite
    rw [hx]
    exact iff_of_true (x.constant.imp id Or.inl) hfinite
  · have hspecial := hformat.special64 bits (by simpa using hfinite)
    exact iff_of_false (not_isLiteralArgument_special _ hspecial) hfinite

/-! ## From the text to the statement -/

def codedEnumTexts : List Str :=
  ["intermediate-state", "stop", "off", "lower", "on", "higher", "bad-state", "reserved"].map lit

/-- The text of a floating-point number as it is converted. -/
def floatText (text : Str) : Str := replaceAll (trimSpace text) ',' '.'

/-- The text of an initial value of this type comes out as a literal. -/
def LiteralText (rt : Runtime) (type : AttributeType) (text : Str) : Prop :=
  match type with
  | .codedEnum => text ∈ codedEnumTexts
  | .timestamp => rt.timeParse (replaceAll text ',' '.') ≠ none
  | .float32 => floatText text ≠ [] → ∀ bits, rt.castToFloat32E (floatText text) = .ok bits →
      isFinite32 bits = true
  | .float64 => floatText text ≠ [] → ∀ bits, rt.castToFloat64E (floatText text) = .ok bits →
      isFinite64 bits = true
  | .unicodeString255 | .visibleString32 | .visibleString64 | .visibleString65
  | .visibleString129 | .visibleString255 | .currency => LiteralBody (joinLines text)
  | _ => True

variable {rt : Runtime} {ctx : PrintContext} {type : AttributeType} {sclType : Option SclType}
  {text daName : Str} {v : DataModelValue} {statement : InitStatement}

theorem codedEnumValue_cases (text : Str) :
    (text ∈ codedEnumTexts ∧ ∃ n, codedEnumValue text = some (.int n)) ∨
      (text ∉ codedEnumTexts ∧ codedEnumValue text = none) := by
  have hmem : text ∈ codedEnumTexts ↔
      (text = lit "intermediate-state" ∨ text = lit "stop") ∨
        (text = lit "off" ∨ text = lit "lower") ∨ (text = lit "on" ∨ text = lit "higher") ∨
          (text = lit "bad-state" ∨ text = lit "reserved") := by
    simp only [codedEnumTexts, List.map_cons, List.map_nil, List.mem_cons, List.not_mem_nil,
      or_false, or_assoc]
  rw [hmem]
  unfold codedEnumValue
  split
  next h => exact Or.inl ⟨Or.inl h, 0, rfl⟩
  next h1 =>
    split
    next h => exact Or.inl ⟨Or.inr (Or.inl h), 1, rfl⟩
    next h2 =>
      split
      next h => exact Or.inl ⟨Or.inr (Or.inr (Or.inl h)), 2, rfl⟩
      next h3 =>
        split
        next h => exact Or.inl ⟨Or.inr (Or.inr (Or.inr h)), 4, rfl⟩
        next h4 =>
          refine Or.inr ⟨fun h => ?_, rfl⟩
          rcases h with h | h | h | h
          · exact h1 h
          · exact h2 h
          · exact h3 h
          · exact h4 h

theorem printValue_ok (h : printValue ctx daName type v = .ok statement) :
    printedValue ctx daName type v.value = .ok statement.value := by
  obtain ⟨printed, hprinted, h⟩ := bind_eq_ok.mp h
  obtain rfl := Except.ok.inj h
  exact hprinted

/-- Only strings and what is printed with `%v` can come out as something else. -/
theorem hasLiterals_of_plain (hverb : type.printsVerb = false) (hstring : type.isString = false)
    (h : printValue ctx daName type v = .ok statement) : statement.HasLiterals format := by
  have hprinted := printValue_ok h
  unfold InitStatement.HasLiterals
  generalize statement.value = printed at hprinted ⊢
  cases type with
  | octetString64 =>
      simp only [printedValue] at hprinted
      split at hprinted
      next bytes _ =>
        obtain rfl := Except.ok.inj hprinted
        intro argument hargument
        simp only [InitialValue.arguments, List.mem_append, List.mem_cons, List.not_mem_nil,
          or_false, List.mem_map] at hargument
        rcases hargument with ((rfl | rfl) | ⟨b, -, rfl⟩) | rfl
        · exact isLiteralArgument_decimal 0
        · exact isLiteralArgument_decimal 64
        · exact isLiteralArgument_hexByte b
        · exact isLiteralArgument_decimal bytes.length
      next => cases hprinted
  | enumerated | int8 | int16 | int32 | int64 | int8U | int16U | int24U | int32U =>
      obtain rfl := Except.ok.inj hprinted
      exact List.forall_mem_singleton.mpr (isLiteralArgument_decimal _)
  | boolean =>
      obtain rfl := Except.ok.inj hprinted
      exact List.forall_mem_singleton.mpr (isLiteralArgument_truthText _)
  | codedEnum | float32 | float64 | timestamp => cases hverb
  | unicodeString255 | visibleString32 | visibleString64 | visibleString65 | visibleString129
  | visibleString255 | currency => cases hstring
  | _ =>
      obtain rfl := Except.ok.inj hprinted
      exact List.forall_mem_singleton.mpr (Or.inr (Or.inr (Or.inr (by decide))))

theorem literalText_of_plain (hverb : type.printsVerb = false)
    (hstring : type.isString = false) : LiteralText rt type text := by
  cases type <;> trivial

/-- What `%v` prints must be a literal. -/
theorem hasLiterals_verb_iff (hverb : type.printsVerb = true)
    (h : printValue ctx daName type v = .ok statement) :
    statement.HasLiterals format ↔ IsLiteralArgument (format.verbV v.value) := by
  have hprinted := printValue_ok h
  have hlength : IsLiteralArgument (lit "2") := isLiteralArgument_decimal 2
  unfold InitStatement.HasLiterals
  cases type with
  | codedEnum =>
      rw [← Except.ok.inj hprinted]
      simp only [InitialValue.arguments, List.forall_mem_cons, List.not_mem_nil, false_implies,
        implies_true, and_true]
      exact and_iff_right hlength
  | float32 | float64 | timestamp =>
      rw [← Except.ok.inj hprinted]
      exact List.forall_mem_singleton
  | _ => cases hverb

/-- What `%s` prints must be the body of a literal. -/
theorem hasLiterals_quoted_iff (hstring : type.isString = true)
    (h : printValue ctx daName type v = .ok statement) :
    statement.HasLiterals format ↔ LiteralBody (joinLines (format.verbS v.value)) := by
  have hprinted := printValue_ok h
  have hquoted := isLiteralArgument_quoted_iff (format.verbS v.value)
  unfold InitStatement.HasLiterals
  cases type <;> first
    | cases hstring; done
    | (rw [← Except.ok.inj hprinted]
       exact List.forall_mem_singleton.trans hquoted)

theorem hasLiterals_string_iff (hstring : type.isString = true)
    (hv : newDataModelValue rt type sclType text = .ok v)
    (h : printValue ctx daName type v = .ok statement) :
    statement.HasLiterals format ↔ LiteralText rt type text := by
  rw [hasLiterals_quoted_iff hstring h]
  cases type <;> first
    | cases hstring; done
    | (obtain rfl := Except.ok.inj hv
       exact Iff.rfl)

theorem hasLiterals_codedEnum_iff (hv : newDataModelValue rt .codedEnum sclType text = .ok v)
    (h : printValue ctx daName .codedEnum v = .ok statement) :
    statement.HasLiterals format ↔ text ∈ codedEnumTexts := by
  obtain rfl := Except.ok.inj hv
  rw [hasLiterals_verb_iff rfl h]
  rcases codedEnumValue_cases text with ⟨htext, n, hvalue⟩ | ⟨htext, hvalue⟩
  · rw [hvalue]
    exact iff_of_true (isLiteralArgument_decimal n) htext
  · rw [hvalue]
    exact iff_of_false not_isLiteralArgument_nil htext

theorem hasLiterals_timestamp_iff (hv : newDataModelValue rt .timestamp sclType text = .ok v)
    (h : printValue ctx daName .timestamp v = .ok statement) :
    statement.HasLiterals format ↔ rt.timeParse (replaceAll text ',' '.') ≠ none := by
  obtain rfl := Except.ok.inj hv
  rw [hasLiterals_verb_iff rfl h]
  cases rt.timeParse (replaceAll text ',' '.') with
  | none => exact iff_of_false not_isLiteralArgument_nil (fun hne => hne rfl)
  | some n => exact iff_of_true (isLiteralArgument_decimal n) (Option.some_ne_none n)

theorem castValue_eq_ok {α : Type} {wrap : α → GoValue} {r : Except Str α}
    (h : castValue wrap r = .ok v) : ∃ a, r = .ok a ∧ v = { value := some (wrap a) } := by
  cases r with
  | ok a => exact ⟨a, rfl, (Except.ok.inj h).symm⟩
  | error message => cases h

/-- A number that is parsed from a text, or zero for a blank one. -/
theorem isLiteralArgument_number_iff {α : Type} (wrap : α → GoValue) (finite : α → Bool)
    {zero : α} {r : Except Str α}
    (hprinted : ∀ a, IsLiteralArgument (format.verbV (some (wrap a))) ↔ finite a = true)
    (hzero : finite zero = true)
    (h : (if text = [] then .ok { value := some (wrap zero) } else castValue wrap r) = .ok v) :
    IsLiteralArgument (format.verbV v.value) ↔
      (text ≠ [] → ∀ a, r = .ok a → finite a = true) := by
  split at h
  next hblank =>
    obtain rfl := Except.ok.inj h
    exact iff_of_true ((hprinted zero).mpr hzero) fun hne => absurd hblank hne
  next htext =>
    obtain ⟨a, ha, rfl⟩ := castValue_eq_ok h
    constructor
    · intro hliteral _ b hb
      obtain rfl := Except.ok.inj (ha.symm.trans hb)
      exact (hprinted a).mp hliteral
    · exact fun hall => (hprinted a).mpr (hall htext a ha)

theorem hasLiterals_float32_iff (hformat : FormatsFloats format)
    (hv : newDataModelValue rt .float32 sclType text = .ok v)
    (h : printValue ctx daName .float32 v = .ok statement) :
    statement.HasLiterals format ↔ LiteralText rt .float32 text :=
  (hasLiterals_verb_iff rfl h).trans
    (isLiteralArgument_number_iff .float32 isFinite32
      hformat.isLiteralArgument_float32_iff (by decide) hv)

theorem hasLiterals_float64_iff (hformat : FormatsFloats format)
    (hv : newDataModelValue rt .float64 sclType text = .ok v)
    (h : printValue ctx daName .float64 v = .ok statement) :
    statement.HasLiterals format ↔ LiteralText rt .float64 text :=
  (hasLiterals_verb_iff rfl h).trans
    (isLiteralArgument_number_iff .float64 isFinite64
      hformat.isLiteralArgument_float64_iff (by decide) hv)

/-- The statement for a value that was made of this text. -/
theorem hasLiterals_iff (hformat : FormatsFloats format)
    (hv : newDataModelValue rt type sclType text = .ok v)
    (h : printValue ctx daName type v = .ok statement) :
    statement.HasLiterals format ↔ LiteralText rt type text := by
  cases hstring : type.isString with
  | true => exact hasLiterals_string_iff hstring hv h
  | false =>
      cases hverb : type.printsVerb with
      | false =>
          exact iff_of_true (hasLiterals_of_plain hverb hstring h)
            (literalText_of_plain hverb hstring)
      | true =>
          cases type with
          | codedEnum => exact hasLiterals_codedEnum_iff hv h
          | timestamp => exact hasLiterals_timestamp_iff hv h
          | float32 => exact hasLiterals_float32_iff hformat hv h
          | float64 => exact hasLiterals_float64_iff hformat hv h
          | _ => cases hverb

/-! ## The statements of one attribute -/

/-- A text that gives the attribute its initial value: one that its instance value can
have been made of, or else the default of its definition. -/
def DataAttribute.InitialText (rt : Runtime) (da : DataAttribute) (text : Str) : Prop :=
  match da.value with
  | some v => newDataModelValue rt da.attributeType da.sclType text = .ok v
  | none => da.definition.val = some text

/-- An ordinal can be looked up for the value. -/
def DataModelValue.HasOrdinal (templates : Option DataTypeTemplates) (v : DataModelValue) :
    Prop :=
  v.enumType ≠ [] ∧ ∃ declared e ord, templates = some declared ∧
    declared.lookupType v.enumType = some (.enumerationType e) ∧
    e.getOrdByEnumString v.unknownEnumValue = some ord

/-- The texts for the attribute come out as literals.  A `Value` element fills the field
of the parsed value of a definition without a text; then an ordinal stands for it. -/
structure DataAttribute.LiteralValue (rt : Runtime) (templates : Option DataTypeTemplates)
    (da : DataAttribute) : Prop where
  text : ∀ text, da.InitialText rt text → LiteralText rt da.attributeType text
  element : da.value = none → da.definition.val = none → da.attributeType.printsVerb = true →
    ∀ v, da.definition.value = some v → v.HasOrdinal templates

/-- Decoding leaves the dynamic value in the parsed value of a definition alone. -/
def SCL.Decoded (document : SCL) : Prop :=
  ∀ declared, document.dataTypeTemplates = some declared →
    ∀ d ∈ declared.daDefinitions, ∀ v, d.value = some v → v.value = none

theorem enumType_newDataModelValue (h : newDataModelValue rt type sclType text = .ok v) :
    v.enumType = [] := by
  cases type <;> simp only [newDataModelValue, newEnumeratedValue] at h
  all_goals repeat' split at h
  all_goals first
    | cases h; done
    | (obtain rfl := Except.ok.inj h; rfl)
    | (obtain ⟨a, -, rfl⟩ := castValue_eq_ok h; rfl)

/-- The default value of a definition and the text it was made of. -/
theorem parseDefinition_value {source d : DataAttributeDefinition}
    (h : parseDefinition rt source = .ok d) :
    (d.val = none ∧ d.value = source.value) ∨
      ∃ text v, d.val = some text ∧ d.value = some v ∧
        (d.attributeType = .enumerated ∨
          newDataModelValue rt d.attributeType none text = .ok v) := by
  obtain ⟨attributeType, -, h⟩ := bind_eq_ok.mp h
  dsimp only at h
  split at h
  next hval =>
    obtain rfl := Except.ok.inj h
    exact Or.inl ⟨hval, rfl⟩
  next text hval =>
    split at h
    next henum =>
      obtain rfl := Except.ok.inj h
      exact Or.inr ⟨text, _, hval, rfl, Or.inl henum⟩
    next =>
      obtain ⟨v, hv, h⟩ := bind_eq_ok.mp h
      obtain rfl := Except.ok.inj h
      exact Or.inr ⟨text, v, hval, rfl, Or.inr hv⟩

theorem printInitialValue_ok {da : DataAttribute} {own : List InitStatement}
    (h : printInitialValue ctx daName da = .ok own) :
    ∃ value, initialValue ctx da = .ok value ∧
      ((value = none ∧ own = []) ∨ ∃ v statement, value = some v ∧ own = [statement] ∧
        printValue ctx daName da.attributeType v = .ok statement) := by
  obtain ⟨value, hvalue, h⟩ := bind_eq_ok.mp h
  refine ⟨value, hvalue, ?_⟩
  cases value with
  | none => exact Or.inl ⟨rfl, (Except.ok.inj h).symm⟩
  | some v =>
      rw [Option.toList_some, List.mapM_cons] at h
      obtain ⟨statement, hstatement, h⟩ := bind_eq_ok.mp h
      exact Or.inr ⟨v, statement, rfl, (Except.ok.inj h).symm, hstatement⟩

/-- The ordinal that is looked up for a value without one. -/
theorem value_updateEnumOrdValue {templates : Option DataTypeTemplates}
    {v updated : DataModelValue} (hnone : v.value = none)
    (h : v.updateEnumOrdValue templates = .ok updated) :
    (v.HasOrdinal templates ∧ ∃ ord, updated.value = some (.int ord)) ∨
      (¬ v.HasOrdinal templates ∧ updated.value = none) := by
  unfold DataModelValue.HasOrdinal
  unfold DataModelValue.updateEnumOrdValue at h
  split at h
  next htype =>
    obtain rfl := Except.ok.inj h
    exact Or.inr ⟨fun hordinal => hordinal.1 htype, hnone⟩
  next htype =>
    obtain ⟨declared, hdeclared, h⟩ := bind_eq_ok.mp h
    have hdeclared : templates = some declared := by
      cases templates with
      | none => cases hdeclared
      | some declared' => rw [Except.ok.inj hdeclared]
    split at h
    next hlookup =>
      obtain rfl := Except.ok.inj h
      refine Or.inr ⟨?_, hnone⟩
      rintro ⟨-, declared', e, ord, hsome, hfound, -⟩
      obtain rfl := Option.some.inj (hdeclared.symm.trans hsome)
      rw [hlookup] at hfound
      cases hfound
    next e hlookup =>
      split at h
      next ord hord =>
        obtain rfl := Except.ok.inj h
        exact Or.inl ⟨⟨htype, declared, e, ord, hdeclared, hlookup, hord⟩, ord, rfl⟩
      next hord =>
        obtain rfl := Except.ok.inj h
        refine Or.inr ⟨?_, hnone⟩
        rintro ⟨-, declared', e', ord, hsome, hfound, hfoundOrd⟩
        obtain rfl := Option.some.inj (hdeclared.symm.trans hsome)
        obtain rfl := SclType.enumerationType.inj (Option.some.inj (hlookup.symm.trans hfound))
        rw [hord] at hfoundOrd
        cases hfoundOrd
    next => cases h

theorem isBodyChar_decimal (n : ℤ) : ∀ c ∈ decimal n, IsBodyChar c := by
  have hdigits (m : ℕ) : ∀ c ∈ itoa m, IsBodyChar c := by
    intro c hc
    exact isBodyChar_of_isDigit (Nat.isDigit_of_mem_toDigits (by omega) (by omega) hc)
  unfold decimal
  split
  · exact List.forall_mem_cons.mpr ⟨by decide, hdigits n.natAbs⟩
  · exact hdigits n.natAbs

/-- An ordinal comes out as a literal whatever the type. -/
theorem hasLiterals_of_ordinal {ord : ℤ} (hv : v.value = some (.int ord))
    (h : printValue ctx daName type v = .ok statement) : statement.HasLiterals format := by
  cases hverb : type.printsVerb with
  | true =>
      rw [hasLiterals_verb_iff hverb h, hv]
      exact isLiteralArgument_decimal ord
  | false =>
      cases hstring : type.isString with
      | false => exact hasLiterals_of_plain hverb hstring h
      | true =>
          rw [hasLiterals_quoted_iff hstring h, hv]
          refine literalBody_of_isBodyChar ?_
          refine List.forall_mem_append.mpr ⟨List.forall_mem_append.mpr ⟨?_, ?_⟩, by decide⟩
          · decide
          · exact isBodyChar_decimal ord

/-- No value at all is missed by the types whose value is printed outside quotes. -/
theorem hasLiterals_of_none_iff (hv : v.value = none)
    (h : printValue ctx daName type v = .ok statement) :
    statement.HasLiterals format ↔ type.printsVerb = false := by
  cases hverb : type.printsVerb with
  | true =>
      rw [hasLiterals_verb_iff hverb h, hv]
      exact iff_of_false not_isLiteralArgument_nil (by decide)
  | false =>
      refine iff_of_true ?_ rfl
      cases hstring : type.isString with
      | false => exact hasLiterals_of_plain hverb hstring h
      | true =>
          rw [hasLiterals_quoted_iff hstring h, hv]
          exact literalBody_of_isBodyChar (s := lit "%!s(<nil>)") (by decide)

variable {declared templates : DataTypeTemplates} {da : DataAttribute}
  {own : List InitStatement}

/-- The statement of an attribute with an instance value. -/
theorem hasLiterals_of_value_iff (hformat : FormatsFloats format) (hv : da.value = some v)
    (htext : ∃ text, newDataModelValue rt da.attributeType da.sclType text = .ok v)
    (h : printInitialValue ctx daName da = .ok own) :
    (∀ s ∈ own, s.HasLiterals format) ↔ da.LiteralValue rt (some templates) := by
  obtain ⟨text, htext⟩ := htext
  obtain ⟨value, hvalue, hown⟩ := printInitialValue_ok h
  have hinitial : initialValue ctx da = .ok (some v) := by
    unfold initialValue
    rw [hv]
    rfl
  obtain rfl := Except.ok.inj (hinitial.symm.trans hvalue)
  rcases hown with ⟨hnone, -⟩ | ⟨v', statement, hsome, rfl, hprinted⟩
  · cases hnone
  · obtain rfl := Option.some.inj hsome
    rw [List.forall_mem_singleton]
    constructor
    · intro hliterals
      refine ⟨fun text' htext' => ?_, fun hnone => ?_⟩
      · simp only [DataAttribute.InitialText, hv] at htext'
        exact (hasLiterals_iff hformat htext' hprinted).mp hliterals
      · rw [hv] at hnone
        cases hnone
    · intro hliteral
      refine (hasLiterals_iff hformat htext hprinted).mpr (hliteral.text text ?_)
      simp only [DataAttribute.InitialText, hv]
      exact htext

/-- The statement of an attribute with the default of its definition. -/
theorem hasLiterals_of_default_iff (hformat : FormatsFloats format)
    (hunset : da.value = none) (hval : da.definition.val = some text)
    (hdefault : da.definition.value = some v)
    (hv : da.attributeType = .enumerated ∨
      newDataModelValue rt da.attributeType none text = .ok v)
    (h : printInitialValue ctx daName da = .ok own) :
    (∀ s ∈ own, s.HasLiterals format) ↔ da.LiteralValue rt (some templates) := by
  have hcondition : da.LiteralValue rt (some templates) ↔
      LiteralText rt da.attributeType text := by
    constructor
    · intro hliteral
      apply hliteral.text
      simp only [DataAttribute.InitialText, hunset]
      exact hval
    · intro hliteral
      refine ⟨fun text' htext' => ?_, fun _ hnone => ?_⟩
      · simp only [DataAttribute.InitialText, hunset] at htext'
        obtain rfl := Option.some.inj (hval.symm.trans htext')
        exact hliteral
      · rw [hval] at hnone
        cases hnone
  obtain ⟨value, hvalue, hown⟩ := printInitialValue_ok h
  obtain ⟨updated, hupdated⟩ : ∃ updated, value = some updated := by
    unfold initialValue at hvalue
    rw [hunset, hdefault] at hvalue
    dsimp only at hvalue
    split at hvalue
    · obtain ⟨updated, -, hvalue⟩ := bind_eq_ok.mp hvalue
      exact ⟨updated, (Except.ok.inj hvalue).symm⟩
    · exact ⟨v, (Except.ok.inj hvalue).symm⟩
  subst hupdated
  rcases hown with ⟨hnone, -⟩ | ⟨_, statement, hsome, rfl, hprinted⟩
  · cases hnone
  obtain rfl := Option.some.inj hsome
  rw [List.forall_mem_singleton, hcondition]
  rcases hv with henum | hv
  · rw [henum] at hprinted ⊢
    exact iff_of_true (hasLiterals_of_plain rfl rfl hprinted) trivial
  · have hkept : v.updateEnumOrdValue ctx.templates = .ok v :=
      if_pos (enumType_newDataModelValue hv)
    have hsame : initialValue ctx da = .ok (some v) := by
      unfold initialValue
      rw [hunset, hdefault]
      dsimp only
      rw [hkept]
      split <;> rfl
    obtain rfl := Option.some.inj (Except.ok.inj (hsame.symm.trans hvalue))
    exact hasLiterals_iff hformat hv hprinted

/-- The statement of an attribute with a value that no text has given. -/
theorem hasLiterals_of_element_iff (hunset : da.value = none)
    (hval : da.definition.val = none) (hdefault : da.definition.value = some v)
    (hnone : v.value = none) (htemplates : ctx.templates = some templates)
    (h : printInitialValue ctx daName da = .ok own) :
    (∀ s ∈ own, s.HasLiterals format) ↔ da.LiteralValue rt (some templates) := by
  have hcondition : da.LiteralValue rt (some templates) ↔
      (da.attributeType.printsVerb = true → v.HasOrdinal (some templates)) := by
    constructor
    · exact fun hliteral hverb => hliteral.element hunset hval hverb v hdefault
    · intro hordinal
      refine ⟨fun text' htext' => ?_, fun _ _ hverb v' hv' => ?_⟩
      · simp only [DataAttribute.InitialText, hunset, hval] at htext'
        cases htext'
      · obtain rfl := Option.some.inj (hdefault.symm.trans hv')
        exact hordinal hverb
  obtain ⟨value, hvalue, hown⟩ := printInitialValue_ok h
  unfold initialValue at hvalue
  rw [hunset, hdefault] at hvalue
  dsimp only at hvalue
  rw [if_pos hnone] at hvalue
  obtain ⟨updated, hupdated, hvalue⟩ := bind_eq_ok.mp hvalue
  obtain rfl := Except.ok.inj hvalue
  rcases hown with ⟨hempty, -⟩ | ⟨_, statement, hsome, rfl, hprinted⟩
  · cases hempty
  obtain rfl := Option.some.inj hsome
  rw [List.forall_mem_singleton, hcondition]
  rw [htemplates] at hupdated
  rcases value_updateEnumOrdValue hnone hupdated with ⟨hordinal, ord, hord⟩ | ⟨hordinal, hopen⟩
  · exact iff_of_true (hasLiterals_of_ordinal hord hprinted) fun _ => hordinal
  · rw [hasLiterals_of_none_iff hopen hprinted]
    constructor
    · intro hverb hprints
      rw [hverb] at hprints
      cases hprints
    · exact fun himp => Bool.eq_false_iff.mpr fun hverb => hordinal (himp hverb)

/-- An attribute of a parsed model is printed with literals exactly if its texts are. -/
theorem hasLiterals_printInitialValue_iff (hformat : FormatsFloats format)
    (hdecoded : ∀ d ∈ declared.daDefinitions, ∀ v, d.value = some v → v.value = none)
    (hdefinition : HasDefinition rt declared templates da)
    (htemplates : ctx.templates = some templates)
    (h : printInitialValue ctx daName da = .ok own) :
    (∀ s ∈ own, s.HasLiterals format) ↔ da.LiteralValue rt (some templates) := by
  obtain ⟨d, place, fresh, hfresh⟩ := hdefinition
  obtain ⟨definition, hparsed, hnew⟩ := bind_eq_ok.mp hfresh.created
  obtain ⟨_, _, hshape⟩ := newDataAttribute_shape hnew
  have hsame : da.definition = definition := by rw [hfresh.definition, hshape]; rfl
  have htype : da.attributeType = definition.attributeType := by
    rw [hfresh.attributeType, hshape]
    rfl
  rcases hfresh.value with hunset | ⟨text, v, hv, htext⟩
  · rcases parseDefinition_value hparsed with ⟨hval, hvalue⟩ | ⟨text, v, hval, hvalue, hv⟩
    · cases hsource : d.value with
      | some v =>
          exact hasLiterals_of_element_iff hunset (by rw [hsame, hval])
            (by rw [hsame, hvalue, hsource]) (hdecoded d hfresh.source v hsource) htemplates h
      | none =>
          have hdefault : da.definition.value = none := by rw [hsame, hvalue, hsource]
          obtain ⟨value, hinitial, hown⟩ := printInitialValue_ok h
          unfold initialValue at hinitial
          rw [hunset, hdefault] at hinitial
          obtain rfl := Except.ok.inj hinitial
          rcases hown with ⟨-, rfl⟩ | ⟨v, statement, hsome, -⟩
          · refine iff_of_true (by simp) ⟨fun text' htext' => ?_, fun _ _ _ v hv => ?_⟩
            · simp only [DataAttribute.InitialText, hunset, hsame, hval] at htext'
              cases htext'
            · rw [hdefault] at hv
              cases hv
          · cases hsome
    · exact hasLiterals_of_default_iff hformat hunset (by rw [hsame, hval])
        (by rw [hsame, hvalue]) (htype ▸ hv) h
  · refine hasLiterals_of_value_iff hformat hv ⟨text, ?_⟩ h
    rw [hfresh.attributeType, hfresh.sclType]
    exact htext

/-! ## Where the statements come from -/

/-- Whatever variable the attribute is printed as, its statements have the property. -/
def EveryStatement (Q : InitStatement → Prop) (ctx : PrintContext) (da : DataAttribute) : Prop :=
  ∀ daName own, printInitialValue ctx daName da = .ok own → ∀ s ∈ own, Q s

variable {Q : InitStatement → Prop} {isTransient : Bool}

theorem forall_printDataAttributeDefinitions {doName : Str} {das : List DataAttribute}
    {out : Definitions} (hdas : ∀ da ∈ das, da.Everywhere (EveryStatement Q ctx))
    (h : printDataAttributeDefinitions ctx doName isTransient das = .ok out) :
    ∀ s ∈ out.initializerBuffer, Q s := by
  induction das using dataAttribute_induction generalizing doName out with
  | nil =>
      obtain rfl := Except.ok.inj h
      exact fun s hs => absurd hs List.not_mem_nil
  | cons da rest ihSubs ihRest =>
      obtain ⟨hda, hrest⟩ := List.forall_mem_cons.mp hdas
      obtain ⟨hself, hsubs⟩ := DataAttribute.everywhere_iff.mp hda
      obtain ⟨daName, sibling, children, statements, others, -, -, hchildren, hstatements,
        hothers, rfl⟩ := printDataAttributeDefinitions_cons_ok h
      have hbelow : ∀ s ∈ children.initializerBuffer, Q s := by
        rcases printAttributeChildren_ok hchildren with
          ⟨-, elements, rfl, helements⟩ | ⟨-, hmembers⟩
        · intro s hs
          rw [Definitions.concat_initializerBuffer] at hs
          obtain ⟨element, helement, hs⟩ := List.mem_flatMap.mp hs
          obtain ⟨idx, -, hprinted⟩ := exists_mem_of_forall₂ helements.flip helement
          obtain ⟨members, hmembers, hprinted⟩ := bind_eq_ok.mp hprinted
          obtain rfl := Except.ok.inj hprinted
          rw [Definitions.append_initializerBuffer, Definitions.ofNode_initializerBuffer,
            List.nil_append] at hs
          exact ihSubs hsubs hmembers s hs
        · exact ihSubs hsubs hmembers
      simp only [Definitions.append_initializerBuffer, Definitions.ofNode_initializerBuffer,
        Definitions.ofStatements_initializerBuffer, List.nil_append, List.forall_mem_append]
      exact ⟨⟨hbelow, hself daName statements hstatements⟩, ihRest hrest hothers⟩

theorem forall_printDataObjectDefinitions {lnName sibling : Str} {nodes : List DataObject}
    {out : Definitions}
    (hnodes : ∀ node ∈ nodes,
      node.AllAttributes fun da => da.Everywhere (EveryStatement Q ctx))
    (h : printDataObjectDefinitions ctx lnName sibling isTransient nodes = .ok out) :
    ∀ s ∈ out.initializerBuffer, Q s := by
  induction nodes using dataObject_induction generalizing lnName sibling isTransient out with
  | nil =>
      obtain rfl := Except.ok.inj h
      exact fun s hs => absurd hs List.not_mem_nil
  | cons node rest ihObjects ihRest =>
      obtain ⟨hnode, hrest⟩ := List.forall_mem_cons.mp hnodes
      obtain ⟨firstName, objects, attributes, others, -, hobjects, hattributes, hothers, rfl⟩ :=
        printDataObjectDefinitions_cons_ok h
      simp only [Definitions.append_initializerBuffer, Definitions.ofNode_initializerBuffer,
        List.nil_append, List.forall_mem_append]
      exact ⟨⟨ihObjects hnode.objects hobjects,
        forall_printDataAttributeDefinitions hnode.attributes hattributes⟩,
        ihRest hrest hothers⟩

theorem forall_printLogicalDeviceDefinitions {blocks : ControlBlockContext} {modelPrefix : Str}
    {devices : List LogicalDevice} {out : DeviceModel}
    (hdevices : ∀ p ∈ placedNodes devices, ∀ node ∈ p.node.dataObjects,
      node.AllAttributes fun da => da.Everywhere (EveryStatement Q ctx))
    (h : printLogicalDeviceDefinitions ctx blocks modelPrefix devices {} = .ok out) :
    ∀ s ∈ out.definitions.initializerBuffer, Q s := by
  intro s hs
  obtain ⟨groups, hgroups, hbuffer⟩ := printLogicalDeviceDefinitions_initializers h
  rw [hbuffer, List.mem_append] at hs
  rcases hs with hs | hs
  · cases hs
  obtain ⟨objects, hmem, hs⟩ := List.mem_flatMap.mp hs
  obtain ⟨p, hp, hobjects⟩ := exists_mem_of_forall₂ hgroups.flip hmem
  exact forall_printDataObjectDefinitions (hdevices p hp) hobjects s hs

/-! ## The initializers of a run -/

/-- A switch whose position is given as `open`, which is none of the texts of a `Dbpos`,
and a number with a blank default. -/
def switchTemplates : DataTypeTemplates where
  logicalNodeTypes := [{
    id := lit "LN0T"
    dataObjectDefinitions := [{ name := lit "Pos", type := lit "DPC" }] }]
  dataObjectTypes := [{
    id := lit "DPC"
    dataAttributes := [{ name := lit "stVal", fc := lit "ST", bType := lit "Dbpos" },
      { name := lit "pct", fc := lit "MX", bType := lit "FLOAT32", val := some (lit " ") }] }]

def switchDevice : LogicalDevice where
  inst := lit "LD1"
  ln0 := some {
    lnClass := lit "LLN0"
    lnType := lit "LN0T"
    doiNodes := [{
      name := lit "Pos"
      daiNodes := [{ name := lit "stVal", val := some (lit "open") }] }] }

def switchModel : ParsedModel plainRuntime :=
  ParsedModel.ofDocument plainRuntime 4 (documentOf switchTemplates [switchDevice])
    (by decide +kernel)

theorem generate_switchModel :
    (generate plainRuntime switchModel.model {}).isOk = true := by
  decide +kernel

theorem decoded_switchModel : switchModel.document.Decoded := by
  intro declared hdeclared d hd v hv
  obtain rfl := Option.some.inj hdeclared
  simp only [DataTypeTemplates.daDefinitions, switchTemplates, List.flatMap_nil, List.nil_append,
    List.flatMap_cons, List.append_nil, List.mem_cons, List.not_mem_nil, or_false] at hd
  rcases hd with rfl | rfl <;> cases hv

/-- Zero and what is not finite, as `%v` prints them. -/
def zeroFormat : FloatFormat where
  float32 bits :=
    if isFinite32 bits then lit "0"
    else if bits.toNat % 2 ^ 23 ≠ 0 then lit "NaN"
    else if bits.toNat < 2 ^ 31 then lit "+Inf" else lit "-Inf"
  float64 bits :=
    if isFinite64 bits then lit "0"
    else if bits.toNat % 2 ^ 52 ≠ 0 then lit "NaN"
    else if bits.toNat < 2 ^ 63 then lit "+Inf" else lit "-Inf"

def decimalZero : DecimalFloat where
  negative := false
  whole := ['0']
  fraction := []
  exponent := none
  whole_digits := by decide
  no_leading_zero := fun _ => rfl
  fraction_digits := by simp
  exponent_digits := by simp

theorem formatsFloats_zeroFormat : FormatsFloats zeroFormat where
  finite32 := fun bits hbits => ⟨decimalZero, if_pos hbits⟩
  finite64 := fun bits hbits => ⟨decimalZero, if_pos hbits⟩
  special32 := by
    intro bits hbits
    simp only [zeroFormat, hbits, Bool.false_eq_true, if_false]
    repeat' split
    all_goals decide
  special64 := by
    intro bits hbits
    simp only [zeroFormat, hbits, Bool.false_eq_true, if_false]
    repeat' split
    all_goals decide

end Iec61850.Scl
