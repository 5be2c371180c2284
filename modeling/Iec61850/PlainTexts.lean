import Iec61850.GeneratorText
import Iec61850.SetpointNames

/-!
# Which texts are plain

For each record of the generated C, what its names and strings have to be so
that every piece of its text is plain.  A string of a buffer must not have a
percent sign either.
-/

namespace Iec61850.Scl

open Go CSource

variable {formatted : Bool}

/-! ## Names -/

@[simp] theorem isName_nil : IsName [] := by simp [IsName]

@[simp] theorem isName_append {s t : Str} : IsName (s ++ t) ↔ IsName s ∧ IsName t :=
  List.forall_mem_append

@[simp] theorem isName_cons {c : Char} {s : Str} :
    IsName (c :: s) ↔ isWordChar c = true ∧ IsName s :=
  List.forall_mem_cons

@[simp] theorem isName_joinName {parent name : Str} :
    IsName (joinName parent name) ↔ IsName parent ∧ IsName name := by
  simp [joinName, isWordChar]

@[simp] theorem isName_itoa (n : ℕ) : IsName (itoa n) := by
  intro c hc
  have hdigit : c.isDigit = true :=
    Nat.isDigit_of_mem_toDigits (b := 10) (by omega) (by omega) hc
  simp [isWordChar, Char.isAlphanum, hdigit]

@[simp] theorem isName_numberedName {lnPrefix : Str} {kind : String} {n : ℕ} :
    IsName (numberedName lnPrefix kind n) ↔ IsName lnPrefix ∧ IsName (lit kind) := by
  simp [numberedName, isWordChar]

theorem isName_mangleSE {modelPrefix name : Str} :
    IsName (mangleSE modelPrefix name) ↔ IsName name := by
  unfold mangleSE
  split
  next => rfl
  next =>
    have hse : IsName (lit "SE_") := by decide
    conv_rhs => rw [← List.take_append_drop 9 name]
    rw [isName_append, isName_append, isName_append, and_assoc, and_iff_right hse]

/-! ## Pieces -/

theorem isName_toDigits_sixteen (n : ℕ) : IsName (Nat.toDigits 16 n) := by
  have hdigit : ∀ k < 16, isWordChar k.digitChar = true := by decide
  induction n using Nat.strong_induction_on with
  | _ n ih =>
      by_cases hn : n < 16
      · rw [Nat.toDigits_of_lt_base hn]
        simpa using hdigit n hn
      · rw [Nat.toDigits_of_base_le (by omega) (by omega), isName_append]
        exact ⟨ih _ (by omega), by simpa using hdigit _ (by omega)⟩

theorem plain_append {s t : Str} :
    (Segment.code (s ++ t)).Plain formatted ↔
      (Segment.code s).Plain formatted ∧ (Segment.code t).Plain formatted := by
  simp only [Segment.Plain, IsCode, IsUnformatted, List.mem_append, or_imp, forall_and, not_or]
  tauto

theorem plain_signed {digits : Str} {n : ℤ} (hdigits : IsName digits) :
    (Segment.code (if n < 0 then '-' :: digits else digits)).Plain formatted := by
  have hminus : (Segment.code ['-']).Plain formatted := by cases formatted <;> decide
  split
  · exact plain_append.mpr ⟨hminus, hdigits.plain_code⟩
  · exact hdigits.plain_code

@[simp] theorem plain_number (n : ℤ) : (number n).Plain formatted :=
  plain_signed (isName_itoa _)

@[simp] theorem plain_truth (b : Bool) : (truth b).Plain formatted := by
  cases b <;> cases formatted <;> decide

theorem plain_commaSeparated {texts : List Str}
    (htexts : ∀ s ∈ texts, (Segment.code s).Plain formatted) :
    (commaSeparated texts).Plain formatted := by
  have hhex : (Segment.code (lit "0x")).Plain formatted := by cases formatted <;> decide
  have hcomma : (Segment.code (lit ", ")).Plain formatted := by cases formatted <;> decide
  unfold commaSeparated
  induction texts with
  | nil => cases formatted <;> decide
  | cons s texts ih =>
      have hs := plain_append.mpr ⟨hhex, htexts s List.mem_cons_self⟩
      have hrest := ih fun t ht => htexts t (List.mem_cons_of_mem s ht)
      cases texts with
      | nil => simpa using hs
      | cons t texts =>
          rw [List.map_cons, List.map_cons, List.intersperse_cons_cons, List.flatten_cons,
            List.flatten_cons]
          exact plain_append.mpr ⟨hs, plain_append.mpr ⟨hcomma, by simpa using hrest⟩⟩

theorem plain_hexadecimals (values : List ℤ) :
    (commaSeparated (values.map hexadecimal)).Plain formatted := by
  refine plain_commaSeparated (List.forall_mem_map.mpr fun n _ => ?_)
  exact plain_signed (isName_toDigits_sixteen _)

theorem plain_hexBytes (values : List UInt8) :
    (commaSeparated (values.map hexByte)).Plain formatted := by
  have hdigit : ∀ n < 16, isWordChar (hexByte.hexDigit n) = true := by decide
  refine plain_commaSeparated (List.forall_mem_map.mpr fun b _ => IsName.plain_code ?_)
  have hb := b.toNat_lt
  simp [hexByte, hdigit (b.toNat / 16) (by omega), hdigit (b.toNat % 16) (by omega)]

/-- A text of the generator's own which has no character that would need care. -/
def isFixed (s : String) : Bool :=
  (lit s).all fun c => !isForeign c && c != '"' && c != '%'

theorem plain_code {s : String} (hs : isFixed s = true) : (code s).Plain formatted := by
  have hall : ∀ c ∈ lit s, (isForeign c = false ∧ c ≠ '"') ∧ c ≠ '%' := by
    simpa [isFixed, and_assoc] using hs
  exact ⟨fun c hc => (hall c hc).1, fun _ hmem => (hall _ hmem).2 rfl⟩

/-- A string that may be quoted in a text of the buffers or outside them. -/
def Quotable (formatted : Bool) (s : Str) : Prop := IsClean s ∧ IsUnformatted formatted s

theorem plain_name {s : Str} : (Segment.name s).Plain formatted ↔ IsName s := Iff.rfl

theorem plain_quoted {s : Str} : (Segment.quoted s).Plain formatted ↔ Quotable formatted s :=
  Iff.rfl

theorem plain_quotedOrNull {s? : Option Str} :
    (quotedOrNull s?).Plain formatted ↔ ∀ s ∈ s?, Quotable formatted s := by
  cases s? with
  | none =>
      have hnull : (code "NULL").Plain formatted := plain_code (by decide)
      simpa [quotedOrNull] using hnull
  | some s => simp [quotedOrNull, Segment.Plain, Quotable]

theorem plain_addressOf {cast : String} (hcast : isFixed cast = true) {v? : Option Str} :
    PlainText formatted (addressOf cast v?) ↔ ∀ v ∈ v?, IsName v := by
  cases v? with
  | none =>
      have hnull : (code "NULL").Plain formatted := plain_code (by decide)
      simpa [addressOf] using hnull
  | some v =>
      have hcode : (code cast).Plain formatted := plain_code hcast
      simp [addressOf, plain_name, hcode]

/-! ## Control blocks -/

theorem plain_reportControlBlock (d : ReportControlBlockDefinition) :
    PlainText formatted d.text ↔
      IsName d.blockName ∧ IsName d.parent ∧ Quotable formatted d.name ∧
        (∀ s ∈ d.rptId, Quotable formatted s) ∧ (∀ s ∈ d.dataSet, Quotable formatted s) ∧
        IsName d.confRef ∧ IsName d.intPeriod ∧ ∀ v ∈ d.sibling, IsName v := by
  simp +decide [ReportControlBlockDefinition.text, plain_code, plain_name, plain_quoted,
    plain_quotedOrNull, plain_addressOf, plain_hexBytes]

theorem plain_logControlBlock (d : LogControlBlockDefinition) :
    PlainText formatted d.text ↔
      IsName d.blockName ∧ IsName d.parent ∧ Quotable formatted d.name ∧
        (∀ s ∈ d.dataSet, Quotable formatted s) ∧ (∀ s ∈ d.logRef, Quotable formatted s) ∧
        ∀ v ∈ d.sibling, IsName v := by
  simp +decide [LogControlBlockDefinition.text, plain_code, plain_name, plain_quoted,
    plain_quotedOrNull, plain_addressOf]

theorem plain_log (d : LogDefinition) :
    PlainText formatted d.text ↔
      IsName d.logName ∧ IsName d.parent ∧ Quotable formatted d.name ∧
        ∀ v ∈ d.sibling, IsName v := by
  simp +decide [LogDefinition.text, plain_code, plain_name, plain_quoted, plain_addressOf]

theorem plain_macText (closesEmpty : Bool) (macAddress : List ℤ) :
    PlainText formatted (macText closesEmpty macAddress) := by
  unfold macText
  split <;> simp +decide [plain_code, plain_hexadecimals]

theorem plain_addressText (closesEmpty : Bool) (d? : Option PhyComAddressDefinition) :
    PlainText formatted (addressText closesEmpty d?) ↔ ∀ d ∈ d?, IsName d.addressName := by
  cases d? with
  | none => simp [addressText]
  | some d =>
      simp +decide [addressText, PhyComAddressDefinition.text, plain_code, plain_name,
        plain_macText]

theorem plain_svControlBlock (d : SVControlBlockDefinition) :
    PlainText formatted d.text ↔
      IsName d.blockName ∧ IsName d.parent ∧ Quotable formatted d.name ∧
        (∀ s ∈ d.svId, Quotable formatted s) ∧ (∀ s ∈ d.dataSet, Quotable formatted s) ∧
        (∀ address ∈ d.dstAddress, IsName address.addressName) ∧
        ∀ v ∈ d.sibling, IsName v := by
  simp +decide [SVControlBlockDefinition.text, plain_code, plain_name, plain_quoted,
    plain_quotedOrNull, plain_addressOf, plain_addressText]
  tauto

theorem plain_gseControlBlock (d : GSEControlBlockDefinition) :
    PlainText formatted d.text ↔
      IsName d.blockName ∧ IsName d.parent ∧ Quotable formatted d.name ∧
        (∀ s ∈ d.appId, Quotable formatted s) ∧ (∀ s ∈ d.dataSet, Quotable formatted s) ∧
        (∀ address ∈ d.address, IsName address.addressName) ∧ ∀ v ∈ d.sibling, IsName v := by
  simp +decide [GSEControlBlockDefinition.text, plain_code, plain_name, plain_quoted,
    plain_quotedOrNull, plain_addressOf, plain_addressText]
  tauto

/-! ## Data sets -/

theorem plain_dataSetEntry (d : DataSetEntryDefinition) :
    PlainText formatted d.text ↔
      IsName d.entryName ∧ Quotable formatted d.logicalDeviceName ∧
        Quotable formatted d.mmsVariableName ∧
        (∀ s ∈ d.componentName, Quotable formatted s) ∧ ∀ v ∈ d.sibling, IsName v := by
  simp +decide [DataSetEntryDefinition.text, plain_code, plain_name, plain_quoted,
    plain_quotedOrNull, plain_addressOf]

theorem plain_dataSet (d : DataSetDefinition) :
    PlainText formatted d.text ↔
      IsName d.dataSetName ∧ Quotable formatted d.logicalDeviceName ∧
        Quotable formatted d.name ∧ IsName d.fcdas ∧ ∀ v ∈ d.sibling, IsName v := by
  simp +decide [DataSetDefinition.text, plain_code, plain_name, plain_quoted, plain_addressOf]

/-! ## The data model -/

def NodeKind.fc? : NodeKind → Option Str
  | .dataAttribute _ _ fc _ _ _ => some fc
  | _ => none

theorem plain_triggers (triggers : List TriggerFlag) :
    PlainText formatted (triggers.map TriggerFlag.text) := by
  refine List.forall_mem_map.mpr fun flag _ => ?_
  cases flag <;> exact plain_code (by decide)

theorem plain_opening (kind : NodeKind) (variableName : Str) :
    PlainText formatted (kind.opening variableName) ↔ IsName variableName := by
  cases kind <;> simp +decide [NodeKind.opening, plain_code, plain_name]

theorem plain_closing (kind : NodeKind) (named : Bool) :
    PlainText formatted (kind.closing named) ↔ ∀ fc ∈ kind.fc?, IsName fc := by
  cases kind with
  | dataAttribute elementCount arrayIndex fc type triggers sAddr =>
      have htype : isFixed type.toName = true := by cases type <;> decide
      cases named <;>
        simp +decide [NodeKind.closing, NodeKind.fc?, plain_code, plain_name, plain_triggers,
          htype]
  | _ => simp +decide [NodeKind.closing, NodeKind.fc?, plain_code]

theorem plain_node (d : NodeDefinition) :
    PlainText formatted d.text ↔
      IsName d.variableName ∧ (∀ s ∈ d.label.name, Quotable formatted s) ∧ IsName d.parent ∧
        (∀ v ∈ d.sibling, IsName v) ∧ (∀ v ∈ d.firstChild, IsName v) ∧
        ∀ fc ∈ d.label.kind.fc?, IsName fc := by
  simp +decide [NodeDefinition.text, plain_opening, plain_closing, plain_code, plain_name,
    plain_quotedOrNull, plain_addressOf]

theorem plain_iedModel (d : IedModelDefinition) :
    PlainText formatted d.text ↔
      IsName d.modelName ∧ Quotable formatted d.iedName ∧ IsName d.firstChild ∧
        ∀ pointer ∈ [d.dataSets, d.rcbs, d.gseCBs, d.svCBs, d.sgcbs, d.lcbs, d.logs],
          ∀ v ∈ pointer, IsName v := by
  simp +decide [IedModelDefinition.text, plain_code, plain_name, plain_quoted, plain_addressOf]

theorem plain_initStatement {d : InitStatement} {segments : List Segment} {constructor : String}
    {s : Str} (hquotes : d.value.quotes = some (constructor, s)) (htext : d.text = some segments) :
    PlainText formatted segments ↔ IsName d.target ∧ Quotable formatted s := by
  have hconstructor : isFixed constructor = true := by
    unfold InitialValue.quotes at hquotes
    split at hquotes <;> cases hquotes <;> decide
  rw [InitStatement.text, hquotes, Option.map_some] at htext
  obtain rfl := Option.some.inj htext
  cases d.once <;>
    simp +decide [plain_code, plain_name, plain_quoted, hconstructor]

end Iec61850.Scl
