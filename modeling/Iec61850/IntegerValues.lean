import Iec61850.CText
import Iec61850.GoIntegers
import Iec61850.GeneratorDataModel

/-!
# Integer values from the text to the C constructor

A decimal text of an integer attribute is parsed to 64 bits, printed with `%d`
and converted once more by the prototype of the constructor.  Each of the three
steps can change the number.
-/

namespace Iec61850.Scl

open Go

/-! ## Casts -/

/-- `cast` parses a decimal numeral with `strconv.ParseInt` in base 0 and converts
between integers plainly. -/
structure CastsIntegers (rt : Runtime) : Prop where
  parsed : ∀ (t : Numeral) (n : ℤ),
    rt.castToInt64E t.text = .ok n ↔ parseIntAuto t.text 64 = some n
  toInt : ∀ n, rt.castToInt (some (.int64 n)) = n
  toInt64 : ∀ n, rt.castToInt64 (some (.int64 n)) = n

def castToInt64E (s : Str) : Except Str ℤ :=
  if s = [] then .ok 0
  else
    match parseIntAuto s 64 with
    | some n => .ok n
    | none => .error (lit "unable to cast")

/-- A runtime with the parser of `cast` for integers. -/
def castRuntime : Runtime := { plainRuntime with castToInt64E := castToInt64E }

theorem castsIntegers_castRuntime : CastsIntegers castRuntime where
  parsed := by
    intro t n
    change castToInt64E t.text = .ok n ↔ _
    rw [castToInt64E, if_neg t.text_ne_nil]
    cases parseIntAuto t.text 64 with
    | none => simp
    | some m => simp
  toInt := fun _ => rfl
  toInt64 := fun _ => rfl

/-! ## Texts and ranges -/

/-- A decimal numeral with blanks around it. -/
structure DecimalText where
  front : List Str := []
  numeral : Numeral
  back : List Str := []
  front_spaces : ∀ blank ∈ front, blank ∈ spaces
  back_spaces : ∀ blank ∈ back, blank ∈ spaces

def DecimalText.text (t : DecimalText) : Str :=
  t.front.flatten ++ t.numeral.text ++ t.back.flatten

theorem DecimalText.trimSpace_text (t : DecimalText) : trimSpace t.text = t.numeral.text :=
  t.numeral.trimSpace_text t.front_spaces t.back_spaces

/-- The least and the greatest number of an integer type. -/
def integerRange : AttributeType → Option (ℤ × ℤ)
  | .int8 => some (-2 ^ 7, 2 ^ 7 - 1)
  | .int16 => some (-2 ^ 15, 2 ^ 15 - 1)
  | .int32 => some (-2 ^ 31, 2 ^ 31 - 1)
  | .int64 => some (-2 ^ 63, 2 ^ 63 - 1)
  | .int8U => some (0, 2 ^ 8 - 1)
  | .int16U => some (0, 2 ^ 16 - 1)
  | .int24U => some (0, 2 ^ 24 - 1)
  | .int32U => some (0, 2 ^ 32 - 1)
  | _ => none

/-- What arrives in `MmsValue_newIntegerFromInt32` and in
`MmsValue_newUnsignedFromUint32`. -/
def InitialValue.received : InitialValue → Option ℤ
  | .integer n => some (cInt n)
  | .unsigned n => some (cUint32 n).toNat
  | _ => none

/-- The text is rejected, or its number is one of the type and arrives. -/
def IntegerSurvives (rt : Runtime) (type : AttributeType) (range : ℤ × ℤ) (text : Str)
    (n : ℤ) : Prop :=
  ∀ sclType,
    (∃ message, newDataModelValue rt type sclType text = .error (.error message)) ∨
    ∃ v, newDataModelValue rt type sclType text = .ok v ∧ range.1 ≤ n ∧ n ≤ range.2 ∧
      ∀ ctx daName, ctx.rt = rt →
        ∃ statement, printValue ctx daName type v = .ok statement ∧
          statement.value.received = some n

/-- The number is one of the type, and for INT64 one of `int32_t`. -/
def FitsConstructor (type : AttributeType) (range : ℤ × ℤ) (n : ℤ) : Prop :=
  range.1 ≤ n ∧ n ≤ range.2 ∧ (type = .int64 → -2 ^ 31 ≤ n ∧ n < 2 ^ 31)

/-! ## The two ends -/

variable {rt : Runtime} {type : AttributeType} {range : ℤ × ℤ}

theorem newDataModelValue_integer (htype : integerRange type = some range)
    (t : DecimalText) (sclType : Option SclType) :
    newDataModelValue rt type sclType t.text =
      castValue .int64 (rt.castToInt64E t.numeral.text) := by
  have hne : t.numeral.text ≠ [] := by
    intro hnil
    exact t.numeral.ne_nil (List.append_eq_nil_iff.mp hnil).2
  cases type <;> first
    | (simp only [newDataModelValue, t.trimSpace_text, if_neg hne]; done)
    | cases htype

theorem cInt_eq_iff (n : ℤ) : cInt n = n ↔ -2 ^ 31 ≤ n ∧ n < 2 ^ 31 := by
  unfold cInt
  rw [Int.bmod_def]
  omega

/-- What arrives of a printed number. -/
theorem printValue_received (hcast : CastsIntegers rt) (htype : integerRange type = some range)
    {ctx : PrintContext} (hctx : ctx.rt = rt) (daName : Str) (m : ℤ) :
    ∃ statement, printValue ctx daName type { value := some (.int64 m) } = .ok statement ∧
      statement.value.received =
        some (if range.1 < 0 then cInt m else (cUint32 m).toNat) := by
  subst hctx
  cases type <;> first
    | (obtain rfl := Option.some.inj htype
       refine ⟨_, rfl, ?_⟩
       simp [InitialValue.received, hcast.toInt, hcast.toInt64])
    | cases htype

/-- The conversion to the parameter changes no number that fits. -/
theorem received_eq_iff (htype : integerRange type = some range) (n : ℤ) :
    (range.1 ≤ n ∧ n ≤ range.2 ∧
      (if range.1 < 0 then cInt n else (cUint32 n).toNat) = n) ↔
      FitsConstructor type range n := by
  unfold FitsConstructor
  have hsigned := cInt_eq_iff n
  have hunsigned := toNat_cUint32_eq_iff n
  cases type <;> first
    | (obtain rfl := Option.some.inj htype
       simp +decide only [if_true, if_false, hsigned, hunsigned, true_implies, false_implies,
         and_true]
       try omega)
    | cases htype

/-- A number between zero and one of the type that arrives as this one is this one. -/
theorem readValue_eq_of_received (htype : integerRange type = some range) {m n : ℤ}
    (hlow : range.1 ≤ n) (hhigh : n ≤ range.2)
    (hbetween : (0 ≤ m ∧ m ≤ n) ∨ (n ≤ m ∧ m ≤ 0))
    (hreceived : (if range.1 < 0 then cInt m else (cUint32 m).toNat) = n) : m = n := by
  have hsigned := cInt_eq_iff m
  have hunsigned := toNat_cUint32_eq_iff m
  have hbounds : -2 ^ 31 ≤ cInt m ∧ cInt m < 2 ^ 31 := by
    unfold cInt
    rw [Int.bmod_def]
    omega
  have hnat := (cUint32 m).isLt
  cases type <;> first
    | (obtain rfl := Option.some.inj htype
       simp +decide only [if_true, if_false] at hlow hhigh hreceived
       omega)
    | cases htype

/-! ## The whole way -/

/-- A decimal text is rejected, or its number is one of the type and arrives, exactly
when it is rejected, or it is read as written and fits the constructor. -/
theorem integer_survives_iff (hcast : CastsIntegers rt)
    (htype : integerRange type = some range) (t : DecimalText) :
    IntegerSurvives rt type range t.text t.numeral.value ↔
      t.numeral.Rejected ∨
        (t.numeral.LeadingZero → Nat.ofDigitChars 10 t.numeral.digits 0 < 8) ∧
          FitsConstructor type range t.numeral.value := by
  have hparsed (m : ℤ) : rt.castToInt64E t.numeral.text = .ok m ↔
      ¬ t.numeral.Rejected ∧ t.numeral.readValue = m :=
    (hcast.parsed t.numeral m).trans (t.numeral.parseIntAuto_text m)
  unfold IntegerSurvives
  simp only [newDataModelValue_integer htype t]
  by_cases hrejected : t.numeral.Rejected
  · refine iff_of_true (fun _ => Or.inl ?_) (Or.inl hrejected)
    cases hresult : rt.castToInt64E t.numeral.text with
    | error message => exact ⟨message, rfl⟩
    | ok m => exact absurd hrejected ((hparsed m).mp hresult).1
  · have hresult := (hparsed _).mpr ⟨hrejected, rfl⟩
    have hread := t.numeral.readValue_eq_value_iff hrejected
    rw [hresult, or_iff_right hrejected, ← hread, ← received_eq_iff htype]
    constructor
    · intro h
      rcases h none with ⟨message, h⟩ | ⟨v, hv, hlow, hhigh, hprinted⟩
      · cases h
      · obtain rfl := Except.ok.inj hv
        let ctx : PrintContext := ⟨rt, none, false, .ok⟩
        obtain ⟨statement, hstatement, hreceived⟩ := hprinted ctx [] rfl
        obtain ⟨statement', hstatement', harrives⟩ :=
          printValue_received hcast htype (rfl : ctx.rt = rt) [] t.numeral.readValue
        obtain rfl := Except.ok.inj (hstatement.symm.trans hstatement')
        have harrives := Option.some.inj (harrives.symm.trans hreceived)
        have hvalue := readValue_eq_of_received htype hlow hhigh
          t.numeral.readValue_between harrives
        rw [hvalue] at harrives
        exact ⟨hvalue, hlow, hhigh, harrives⟩
    · rintro ⟨hvalue, hlow, hhigh, hreceived⟩ sclType
      refine Or.inr ⟨_, rfl, hlow, hhigh, fun ctx daName hctx => ?_⟩
      obtain ⟨statement, hstatement, harrives⟩ :=
        printValue_received hcast htype hctx daName t.numeral.readValue
      refine ⟨statement, hstatement, ?_⟩
      rw [harrives, hvalue, hreceived]

/-- The text ` 0100` of an attribute. -/
def paddedHundred : DecimalText where
  front := [lit " "]
  numeral := { digits := lit "0100", ne_nil := by decide, decimal := by decide +kernel }
  front_spaces := by decide +kernel
  back_spaces := by simp

theorem integer_survives_iff_paddedHundred :
    IntegerSurvives castRuntime .int32 (-2 ^ 31, 2 ^ 31 - 1) paddedHundred.text
        paddedHundred.numeral.value ↔
      paddedHundred.numeral.Rejected ∨
        (paddedHundred.numeral.LeadingZero →
            Nat.ofDigitChars 10 paddedHundred.numeral.digits 0 < 8) ∧
          FitsConstructor .int32 (-2 ^ 31, 2 ^ 31 - 1) paddedHundred.numeral.value :=
  integer_survives_iff castsIntegers_castRuntime rfl paddedHundred

/-- The value 0100 of an INT32 attribute arrives as 64. -/
theorem paddedHundred_not_survives :
    ¬ IntegerSurvives castRuntime .int32 (-2 ^ 31, 2 ^ 31 - 1) paddedHundred.text 100 := by
  have hparsed : newDataModelValue castRuntime .int32 none paddedHundred.text =
      .ok { value := some (.int64 64) } := by
    decide +kernel
  intro h
  rcases h none with ⟨message, herror⟩ | ⟨v, hv, -, -, hprinted⟩
  · rw [hparsed] at herror
    cases herror
  · obtain rfl := Except.ok.inj (hparsed.symm.trans hv)
    obtain ⟨statement, hstatement, hreceived⟩ :=
      hprinted ⟨castRuntime, none, false, .ok⟩ [] rfl
    obtain rfl := Except.ok.inj hstatement
    revert hreceived
    decide +kernel

end Iec61850.Scl
