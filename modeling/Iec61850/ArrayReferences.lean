import Iec61850.GeneratorSafety

/-!
# Array references in data sets

A member of a data set may name an element of an array, with the index in
brackets.  The generator cuts the index and the component after it out of the
whole printed name, and prints that name unchanged.
-/

namespace Iec61850.Scl

open Go

variable {rt : Runtime} {scl : SCL} {args : GeneratorArguments}

/-! ## References -/

/-- The data object and, if there is one, the attribute. -/
def memberReference (fcda : FCDA) : Str :=
  if fcda.daName = [] then fcda.doName else fcda.doName ++ '.' :: fcda.daName

def HasBracket (s : Str) : Prop := '(' ∈ s ∨ ')' ∈ s

/-- A reference `array(digits)component` with a decimal index. -/
structure IsArrayReference (reference array digits component : Str) : Prop where
  eq : reference = array ++ '(' :: (digits ++ ')' :: component)
  array_plain : ¬ HasBracket array
  component_plain : ¬ HasBracket component
  separator : component = [] ∨ ∃ rest, component = '.' :: rest
  digits_ne_nil : digits ≠ []
  digits_decimal : ∀ c ∈ digits, c.isDigit = true

/-- Brackets which are not those of an array reference. -/
def Malformed (reference : Str) : Prop :=
  HasBracket reference ∧
    ¬ ∃ array digits component, IsArrayReference reference array digits component

def decimalValue (digits : Str) : ℤ := (Nat.ofDigitChars 10 digits 0 : ℕ)

/-- What is printed before the reference. -/
def memberHead (fcda : FCDA) : Str :=
  fcda.nodePrefix ++ fcda.lnClass ++ fcda.ldInst ++ (lit "$" ++ fcda.fc ++ lit "$")

/-- The entry has the parts of an array reference, each in its own field, and no
index for a reference without brackets. -/
structure SplitsReference (entry : DataSetEntryDefinition) (fcda : FCDA) : Prop where
  array : ∀ array digits component,
    IsArrayReference (memberReference fcda) array digits component →
      entry.mmsVariableName = memberHead fcda ++ toMmsString array ∧
      entry.arrayIndex = decimalValue digits ∧
      entry.componentName =
        (if component = [] then none else some (toMmsString (component.drop 1)))
  plain : ¬ HasBracket (memberReference fcda) →
    entry.arrayIndex = -1 ∧ entry.componentName = none

theorem fcdaVariableName_eq_head (fcda : FCDA) :
    fcdaVariableName fcda = memberHead fcda ++ toMmsString (memberReference fcda) := by
  rw [fcdaVariableName_eq, memberHead, memberPath, memberReference]
  simp only [List.append_assoc]

theorem length_toMmsString (s : Str) : (toMmsString s).length = s.length := by
  rw [toMmsString, replaceAll, List.length_map]

/-! ## Cutting out the index -/

/-- What follows the separator after the closing bracket. -/
def componentAfter (rest : Str) : Option Str :=
  if rest.head? = some '$' then quoted (rest.drop 1) else none

theorem index_append_cons {c : Char} {s rest : Str} (h : c ∉ s) :
    index (s ++ c :: rest) c = some s.length := by
  rw [index, if_pos (by simp), List.idxOf_append_of_notMem h, List.idxOf_cons_self,
    Nat.add_zero]

theorem index_of_not_mem {c : Char} {s : Str} (h : c ∉ s) : index s c = none := by
  rw [index, if_neg h]

theorem fcdaArrayIndex_append {before text rest : Str} (hopen : '(' ∉ before)
    (hclose : ')' ∉ before) (htext : ')' ∉ text) :
    fcdaArrayIndex rt (before ++ '(' :: (text ++ ')' :: rest)) = (do
      let arrayIndex ← passError (rt.castToIntE text)
      pure (arrayIndex, componentAfter rest)) := by
  have hstop : index (before ++ '(' :: (text ++ ')' :: rest)) ')' =
      some (before.length + 1 + text.length) := by
    have hsplit : before ++ '(' :: (text ++ ')' :: rest) =
        (before ++ '(' :: text) ++ ')' :: rest := by simp
    rw [hsplit, index_append_cons (by simp [hclose, htext])]
    simp only [List.length_append, List.length_cons]
    congr 1
    omega
  have hslice : ((before ++ '(' :: (text ++ ')' :: rest)).take
      (before.length + 1 + text.length)).drop (before.length + 1) = text := by
    have hsplit : before ++ '(' :: (text ++ ')' :: rest) =
        (before ++ ['(']) ++ (text ++ ')' :: rest) := by simp
    have hlength : (before ++ ['(']).length = before.length + 1 := by simp
    rw [hsplit, ← hlength, List.take_length_add_append, List.drop_left, List.take_left]
  have hrest : (before ++ '(' :: (text ++ ')' :: rest)).drop
      (before.length + 1 + text.length + 1) = rest := by
    have hsplit : before ++ '(' :: (text ++ ')' :: rest) =
        (before ++ '(' :: text ++ [')']) ++ rest := by simp
    have hlength : (before ++ '(' :: text ++ [')']).length =
        before.length + 1 + text.length + 1 := by
      simp only [List.length_append, List.length_cons, List.length_nil]
      omega
    rw [hsplit, ← hlength, List.drop_left]
  unfold fcdaArrayIndex
  rw [index_append_cons hopen, hstop]
  simp only [slice, if_pos (show before.length + 1 ≤ before.length + 1 + text.length by omega),
    ok_bind, hslice, Option.getD_some, hrest]
  rcases rest with _ | ⟨c, rest⟩
  · rfl
  · by_cases hc : c = '$'
    · subst hc
      rfl
    · simp [componentAfter, hc]

/-- The brackets of a name whose index has been read. -/
theorem fcdaArrayIndex_eq_ok {name : Str} {found : ℤ × Option Str} :
    fcdaArrayIndex rt name = .ok found ↔
      ('(' ∉ name ∧ found = (-1, none)) ∨
      ∃ before text rest, name = before ++ '(' :: (text ++ ')' :: rest) ∧ '(' ∉ before ∧
        ')' ∉ before ∧ ')' ∉ text ∧ rt.castToIntE text = .ok found.1 ∧
        found.2 = componentAfter rest := by
  constructor
  · intro h
    by_cases hopen : '(' ∈ name
    · right
      obtain ⟨before, tail, hname, hbefore⟩ := List.eq_append_cons_of_mem hopen
      obtain ⟨stop, hstop, hlt⟩ :=
        ((exists_fcdaArrayIndex_ok_iff name).mp ⟨found, h⟩).1 before.length
          (by rw [hname, index_append_cons hbefore])
      have hclose : ')' ∉ before := by
        intro hmem
        obtain ⟨early, late, hearly, hnone⟩ := List.eq_append_cons_of_mem hmem
        have hindex : index name ')' = some early.length := by
          rw [hname, hearly, List.append_assoc, List.cons_append, index_append_cons hnone]
        rw [hindex] at hstop
        have hsame := Option.some.inj hstop
        rw [hearly, List.length_append] at hlt
        omega
      have htail : ')' ∈ tail := by
        by_contra hnone
        rw [hname, index_of_not_mem (by simp [hclose, hnone])] at hstop
        cases hstop
      obtain ⟨text, rest, rfl, htext⟩ := List.eq_append_cons_of_mem htail
      rw [hname, fcdaArrayIndex_append hbefore hclose htext] at h
      obtain ⟨i, hi, hfound⟩ := bind_eq_ok.mp h
      obtain rfl := Except.ok.inj hfound
      exact ⟨before, text, rest, hname, hbefore, hclose, htext, passError_eq_ok.mp hi, rfl⟩
    · left
      rw [fcdaArrayIndex, index_of_not_mem hopen] at h
      exact ⟨hopen, (Except.ok.inj h).symm⟩
  · rintro (⟨hopen, rfl⟩ | ⟨before, text, rest, rfl, hbefore, hclose, htext, hi, hrest⟩)
    · rw [fcdaArrayIndex, index_of_not_mem hopen]
      rfl
    · rw [fcdaArrayIndex_append hbefore hclose htext, hi, passError, ok_bind, ← hrest]
      rfl

/-! ## The printed entries -/

/-- No index is read from the name, or one that reads as if there were none. -/
def NoIndex (rt : Runtime) (name : Str) : Prop :=
  '(' ∉ name ∨
    ∃ before text rest, name = before ++ '(' :: (text ++ ')' :: rest) ∧ '(' ∉ before ∧
      ')' ∉ before ∧ ')' ∉ text ∧ rt.castToIntE text = .ok (-1) ∧
      (rest.head? ≠ some '$' ∨ rest = ['$'])

theorem componentAfter_eq_none_iff {rest : Str} :
    componentAfter rest = none ↔ rest.head? ≠ some '$' ∨ rest = ['$'] := by
  cases rest with
  | nil => simp [componentAfter]
  | cons c rest =>
      by_cases hc : c = '$'
      · simp [componentAfter, quoted, hc]
      · simp [componentAfter, hc]

theorem fcdaArrayIndex_noIndex_iff {name : Str} {found : ℤ × Option Str}
    (h : fcdaArrayIndex rt name = .ok found) : found = (-1, none) ↔ NoIndex rt name := by
  have hiff : fcdaArrayIndex rt name = .ok (-1, none) ↔ NoIndex rt name := by
    rw [fcdaArrayIndex_eq_ok]
    simp only [NoIndex, and_true, eq_comm (a := none), componentAfter_eq_none_iff]
  rw [← hiff, h, Except.ok.injEq]

theorem PrintedEntry.index_eq {fcda : FCDA} {entry : DataSetEntryDefinition}
    (h : PrintedEntry rt fcda entry) :
    fcdaArrayIndex rt (fcdaVariableName fcda) =
      .ok (entry.arrayIndex, entry.componentName) := by
  obtain ⟨name, n, i, h⟩ := h
  obtain ⟨⟨arrayIndex, componentName⟩, hindex, h⟩ := bind_eq_ok.mp h
  obtain rfl := Except.ok.inj h
  exact hindex

/-- The name of an array element is printed with its brackets. -/
theorem PrintedEntry.not_splits {fcda : FCDA} {entry : DataSetEntryDefinition}
    {array digits component : Str} (h : PrintedEntry rt fcda entry)
    (hreference : IsArrayReference (memberReference fcda) array digits component) :
    ¬ SplitsReference entry fcda := by
  intro hsplits
  obtain ⟨hname, -, -⟩ := hsplits.array array digits component hreference
  rw [h.entryOf.variableName, fcdaVariableName_eq_head, hreference.eq] at hname
  have hlength := congrArg List.length hname
  simp only [List.length_append, length_toMmsString, List.length_cons] at hlength
  omega

theorem splitsReference_iff {fcda : FCDA} {entry : DataSetEntryDefinition}
    (h : PrintedEntry rt fcda entry) :
    SplitsReference entry fcda ↔
      (¬ ∃ array digits component,
        IsArrayReference (memberReference fcda) array digits component) ∧
      (¬ HasBracket (memberReference fcda) → NoIndex rt (fcdaVariableName fcda)) := by
  have hindex := fcdaArrayIndex_noIndex_iff h.index_eq
  rw [Prod.mk.injEq] at hindex
  constructor
  · intro hsplits
    constructor
    · rintro ⟨array, digits, component, hreference⟩
      exact h.not_splits hreference hsplits
    · intro hplain
      exact hindex.mp (hsplits.plain hplain)
  · rintro ⟨harray, hplain⟩
    constructor
    · intro array digits component hreference
      exact absurd ⟨array, digits, component, hreference⟩ harray
    · intro hbrackets
      exact hindex.mpr (hplain hbrackets)

/-! ## Errors -/

theorem exists_error_iff {α : Type} {r : Outcome α} :
    (∃ message, r = .error (.error message)) ↔ Returns r ∧ ¬ ∃ a, r = .ok a := by
  cases r with
  | ok a => simp
  | error stop => cases stop <;> simp

variable {P : ParsedModel rt}

/-- A run on the selected devices finishes if it comes back and can read every
member. -/
theorem Selection.finishes_iff (S : Selection P.model args) :
    (∃ files, generate rt P.model args = .ok files) ↔
      S.Safe rt ∧ ∀ fcda ∈ dataSetMembers S.logicalDevices, MemberReadable rt fcda := by
  constructor
  · rintro ⟨files, hgenerate⟩
    obtain ⟨R⟩ := S.stages hgenerate
    refine ⟨?_, (exists_printDataSets_ok_iff _ _).mp ⟨_, R.dataSets_eq⟩⟩
    rw [← S.print_returns_iff, ← S.generate_eq, hgenerate]
    exact returns_ok files
  · rintro ⟨hsafe, hmembers⟩
    obtain ⟨templates, -, hparsed⟩ := S.parsedDevices
    obtain ⟨externs, hexterns⟩ := (@panicsUnless_printForwardDeclarations args.modelPrefix
      (S.generator rt).printContext rfl S.logicalDevices).yields hsafe.declarations
    obtain ⟨dataSets, hdataSets⟩ :
        ∃ items, printDataSets rt args.modelPrefix S.logicalDevices = .ok items :=
      (exists_printDataSets_ok_iff args.modelPrefix S.logicalDevices).mpr hmembers
    obtain ⟨model, hmodel⟩ := (@panicsUnless_printLogicalDeviceDefinitions
      ((S.generator rt).controlBlockContext
        (createLNSubVariableList args.modelPrefix S.logicalDevices)) args.modelPrefix
      (S.generator rt).printContext rfl S.logicalDevices
      (fun device => hparsed.logicalNodes_ne_nil) {}).yields (hsafe.nodes hmembers)
    obtain ⟨firstDevice, hfirst⟩ := (panicsUnless_first S.logicalDevices).yields hparsed.ne_nil
    obtain ⟨defines, hdefines⟩ := exists_defines_ok hmodel
    have hserver : deref (S.generator rt).accessPoint.server = .ok ⟨S.logicalDevices⟩ :=
      deref_eq_ok.mpr S.server_eq
    have hitems : ∃ result, printDeviceModelDefinitions (S.generator rt) S.logicalDevices =
        .ok result ∧ result.2 = model.definitions := by
      refine ⟨_, bind_eq_ok.mpr ⟨dataSets, hdataSets, bind_eq_ok.mpr ⟨model, hmodel,
        bind_eq_ok.mpr ⟨firstDevice, hfirst, rfl⟩⟩⟩, rfl⟩
    obtain ⟨result, hresult, hdefinitions⟩ := hitems
    rw [← hdefinitions] at hdefines
    rw [S.generate_eq]
    exact ⟨_, bind_eq_ok.mpr ⟨_, hserver, bind_eq_ok.mpr ⟨externs, hexterns,
      bind_eq_ok.mpr ⟨result, hresult, bind_eq_ok.mpr ⟨defines, hdefines, rfl⟩⟩⟩⟩⟩

theorem Selection.fails_iff (S : Selection P.model args) :
    (∃ message, generate rt P.model args = .error (.error message)) ↔
      (∀ name ∈ declaredSetpoints args.modelPrefix S.logicalDevices,
        Cuttable args.modelPrefix name) ∧
      AllReached (MemberReadable rt) MemberSafe (dataSetMembers S.logicalDevices) ∧
      ∃ fcda ∈ dataSetMembers S.logicalDevices, ¬ MemberReadable rt fcda := by
  rw [exists_error_iff, S.finishes_iff, S.generate_eq, S.print_returns_iff]
  constructor
  · rintro ⟨hsafe, hfinishes⟩
    refine ⟨hsafe.declarations, hsafe.members, ?_⟩
    by_contra hall
    apply hfinishes
    refine ⟨hsafe, fun fcda hfcda => ?_⟩
    by_contra hunreadable
    exact hall ⟨fcda, hfcda, hunreadable⟩
  · rintro ⟨hdeclarations, hmembers, fcda, hfcda, hunreadable⟩
    constructor
    · refine ⟨hdeclarations, hmembers, ?_⟩
      intro hall
      exact absurd (hall fcda hfcda) hunreadable
    · rintro ⟨-, hall⟩
      exact hunreadable (hall fcda hfcda)

/-- In a finished run every entry has the parts of its reference, and a malformed
reference makes the run fail with an error. -/
structure Selection.SplitsReferences (S : Selection P.model args) : Prop where
  entries : ∀ files, generate rt P.model args = .ok files →
    List.Forall₂ (fun fcda entry => SplitsReference entry fcda)
      (dataSetMembers S.logicalDevices) files.dataSetEntries
  malformed : (∃ fcda ∈ dataSetMembers S.logicalDevices, Malformed (memberReference fcda)) →
    ∃ message, generate rt P.model args = .error (.error message)

theorem Selection.entries_split_iff (S : Selection P.model args) {files : GeneratedFiles}
    (hgenerate : generate rt P.model args = .ok files) :
    List.Forall₂ (fun fcda entry => SplitsReference entry fcda)
      (dataSetMembers S.logicalDevices) files.dataSetEntries ↔
    ∀ fcda ∈ dataSetMembers S.logicalDevices,
      (¬ ∃ array digits component,
        IsArrayReference (memberReference fcda) array digits component) ∧
      (¬ HasBracket (memberReference fcda) → NoIndex rt (fcdaVariableName fcda)) := by
  obtain ⟨R⟩ := S.stages hgenerate
  have hprinted : List.Forall₂ (PrintedEntry rt) (dataSetMembers S.logicalDevices)
      files.dataSetEntries := R.printedEntries
  generalize dataSetMembers S.logicalDevices = members, files.dataSetEntries = entries at hprinted ⊢
  induction hprinted with
  | nil => simp
  | cons hentry _ ih =>
      rw [List.forall₂_cons, List.forall_mem_cons, splitsReference_iff hentry]
      exact and_congr_right fun _ => ih

theorem array_references_split_iff (P : ParsedModel rt) (args : GeneratorArguments)
    (S : Selection P.model args) :
    S.SplitsReferences ↔
      (S.Safe rt → (∀ fcda ∈ dataSetMembers S.logicalDevices, MemberReadable rt fcda) →
        ∀ fcda ∈ dataSetMembers S.logicalDevices,
          (¬ ∃ array digits component,
            IsArrayReference (memberReference fcda) array digits component) ∧
          (¬ HasBracket (memberReference fcda) → NoIndex rt (fcdaVariableName fcda))) ∧
      ((∃ fcda ∈ dataSetMembers S.logicalDevices, Malformed (memberReference fcda)) →
        (∀ name ∈ declaredSetpoints args.modelPrefix S.logicalDevices,
          Cuttable args.modelPrefix name) ∧
        AllReached (MemberReadable rt) MemberSafe (dataSetMembers S.logicalDevices) ∧
        ∃ fcda ∈ dataSetMembers S.logicalDevices, ¬ MemberReadable rt fcda) := by
  rw [← S.fails_iff]
  constructor
  · rintro ⟨hentries, hmalformed⟩
    refine ⟨?_, hmalformed⟩
    intro hsafe hreadable
    obtain ⟨files, hgenerate⟩ := S.finishes_iff.mpr ⟨hsafe, hreadable⟩
    exact (S.entries_split_iff hgenerate).mp (hentries files hgenerate)
  · rintro ⟨hentries, hmalformed⟩
    refine ⟨?_, hmalformed⟩
    intro files hgenerate
    obtain ⟨hsafe, hreadable⟩ := S.finishes_iff.mp ⟨files, hgenerate⟩
    exact (S.entries_split_iff hgenerate).mpr (hentries hsafe hreadable)

/-- A data set with an element of an array and one of its components. -/
def harmonicMember : FCDA where
  ldInst := lit "Inverter"
  lnClass := lit "MMXU"
  lnInst := lit "1"
  fc := lit "ST"
  doName := lit "Mod"
  daName := lit "har(2).mag"

def harmonicDevice : LogicalDevice where
  inst := lit "Inverter"
  ln0 := some {
    lnClass := lit "LLN0"
    lnType := lit "LN0T"
    dataSets := [{ name := lit "dataset1", fcda := [harmonicMember] }] }
  lNodes := [{ lnClass := lit "MMXU", lnType := lit "MMXUT", inst := lit "1" }]

def harmonicModel : ParsedModel plainRuntime :=
  ParsedModel.ofDocument plainRuntime 4 (documentOf measurementTemplates [harmonicDevice])
    (by decide +kernel)

theorem generate_harmonicModel : (generate plainRuntime harmonicModel.model {}).isOk = true := by
  decide +kernel

theorem selectedDevices_harmonicModel :
    (selectedDevices harmonicModel.model {}).isOk = true := by
  decide +kernel

/-- The entry for the component `mag` of the second element has the index and
the component in their fields, and both in its variable name too. -/
theorem harmonicMember_not_split :
    ∃ S : Selection harmonicModel.model {}, ¬ S.SplitsReferences := by
  have hgenerate := eq_ok_resultOf _ generate_harmonicModel
  obtain ⟨S, hdevices⟩ :=
    exists_selection_of_devices hgenerate (eq_ok_resultOf _ selectedDevices_harmonicModel)
  refine ⟨S, fun hsplits => ?_⟩
  have hmembers : dataSetMembers S.logicalDevices = [harmonicMember] := by
    rw [hdevices]
    decide +kernel
  have hreference : IsArrayReference (memberReference harmonicMember) (lit "Mod.har")
      (lit "2") (lit ".mag") := by
    refine ⟨by decide, ?_, ?_, .inr ⟨lit "mag", rfl⟩, by decide, ?_⟩
    · rw [HasBracket, not_or]
      exact ⟨by decide, by decide⟩
    · rw [HasBracket, not_or]
      exact ⟨by decide, by decide⟩
    · simp [lit]
  obtain ⟨R⟩ := S.stages hgenerate
  have hprinted : List.Forall₂ (PrintedEntry plainRuntime) (dataSetMembers S.logicalDevices)
      (resultOf _ generate_harmonicModel).dataSetEntries := R.printedEntries
  have hentries := hsplits.entries _ hgenerate
  rw [hmembers] at hprinted hentries
  obtain ⟨entry, rest, hentry, -, hfiles⟩ := List.forall₂_cons_left_iff.mp hprinted
  rw [hfiles] at hentries
  exact hentry.not_splits hreference (List.forall₂_cons.mp hentries).1

end Iec61850.Scl
