import Iec61850.ClientRequests

/-!
# What requests give back

Each request of a client uses only what it has made or been given, and gives it back, but
for the texts, control objects and setting groups that the client loses.  So any number of
requests can run side by side.
-/

namespace Iec61850.Mms

open Go Handles Handles.Calls

variable {Float Other : Type}

/-! ## Answers that bring what was asked for -/

/-- The components that `GetSG` reads. -/
def settingGroupComponents : List Str :=
  [lit "NumOfSG", lit "ActSG", lit "EditSG", lit "CnfEdit"]

/-- A structure with the components of these names. -/
structure HasComponents (spec : CVarSpecification) (names : List Str) : Prop where
  isStructure : spec.getType = .struct
  size : spec.getSize = names.length
  children : spec.getChildSpecificationByIndex.map (Option.map (·.getName)) = names.map some

/-- A structure with so many elements, or more. -/
structure HasElements (value : CMmsValue Float) (count : ℕ) : Prop where
  isStructure : value.type = .struct
  enough : count ≤ value.elements.length

/-- What succeeds is not `NULL`, and specifications and values of the setting groups have the
components of these names. -/
def Delivered (settingGroups : Str → Option (List Str)) :
    (query : LibraryQuery Float) → LibraryAnswer Float query → Prop
  | .getVariableSpecification reference fc, answer =>
      getIedClientError answer.clientError = none → ∃ spec, answer.pointer = some spec ∧
        ∀ names, fc = Client.SP → settingGroups reference = some names →
          HasComponents spec.described names
  | .readObject reference fc, answer => ∀ value names, answer = .ok value → fc = Client.SP →
      settingGroups reference = some names → HasElements value names.length
  | .getRCBValues _, answer =>
      getIedClientError answer.clientError = none → answer.pointer ≠ none
  | .getFileDirectory _, answer =>
      getIedClientError answer.clientError = none → answer.pointer ≠ none
  | _, _ => True

/-- Setting groups are read where there are some. -/
def ReadsSettingGroups (settingGroups : Str → Option (List Str)) :
    ClientRequest Float Other → Prop
  | .getSG objectRef => ∃ names, settingGroups (cString objectRef) = some names ∧
      ∀ name ∈ settingGroupComponents, name ∈ names
  | _ => True

/-- `MmsValue_getSubElement` returns the element of a component that is there. -/
def FindsComponents (conv : Conversions Float Other) : Prop :=
  ∀ (value : CMmsValue Float) (spec : CVarSpecification) (names : List Str),
    HasComponents spec names → HasElements value names.length →
    ∀ name ∈ settingGroupComponents, name ∈ names →
      ∃ i, conv.getSubElement value spec name = some i ∧ i < value.elements.length

/-- And it returns one element for one component only. -/
def SeparatesComponents (conv : Conversions Float Other) : Prop :=
  ∀ (value : CMmsValue Float) (spec : CVarSpecification) (i : ℕ),
    ∀ name ∈ settingGroupComponents, ∀ name' ∈ settingGroupComponents,
      conv.getSubElement value spec name = some i →
      conv.getSubElement value spec name' = some i → name = name'

/-- The answers bring what was asked for, or a crash is allowed. -/
def Covers (settingGroups : Str → Option (List Str)) (terms : Terms (LibraryAnswer Float)) :
    Prop :=
  ∀ query answer, terms.answers query answer →
    terms.crashes ∨ Delivered settingGroups query answer

namespace Client

variable {settingGroups : Str → Option (List Str)} {terms : Terms (LibraryAnswer Float)}
  {held : Multiset (ℕ × CObject)}

theorem keeps_ask (query : LibraryQuery Float) : Keeps terms (ask query) held := Keeps.ask query

theorem askThen {α : Type} {query : LibraryQuery Float} {Q : α → Multiset (ℕ × CObject) → Prop}
    {f : LibraryAnswer Float query → RequestCalls Float α}
    (hf : ∀ answer, terms.answers query answer → Scoped terms Q (f answer) held) :
    Scoped terms Q (ask query >>= f) held :=
  .askThen hf

/-- The string is read by the calls of the body, and freed behind them. -/
theorem keeps_withString {α : Type} {body : RequestCalls Float α}
    (hbody : ∀ held : Multiset (ℕ × CObject), Keeps terms body held) :
    Keeps terms (withMade .string fun cStr => do touch cStr; body) held := by
  apply Keeps.withMade
  intro cStr
  apply Scoped.touchThen (Multiset.mem_cons_self _ _)
  exact hbody _

theorem leaves_withString {α : Type} {P : α → Multiset (ℕ × CObject) → Prop}
    {body : RequestCalls Float α}
    (hbody : ∀ held : Multiset (ℕ × CObject), Leaves terms P body held) :
    Leaves terms P (withMade .string fun cStr => do touch cStr; body) held := by
  apply Leaves.withMade
  intro cStr
  apply Scoped.touchThen (Multiset.mem_cons_self _ _)
  exact hbody _

/-! ## Directories -/

variable (conv : Conversions Float Other)

theorem keeps_names (query : NamesQuery) : Keeps terms (names conv query) held := by
  unfold names
  apply askThen
  intro answer hanswer
  cases answer.list with
  | none => cases getIedClientError answer.clientError <;> exact Keeps.pure _
  | some listed =>
      apply Keeps.withMade
      intro list
      cases getIedClientError answer.clientError with
      | some err => exact Keeps.pure _
      | none =>
          apply Scoped.touchThen (Multiset.mem_cons_self _ _)
          exact Keeps.pure _

theorem keeps_namesOf (query : NamesQuery) : Keeps terms (namesOf conv query) held :=
  keeps_withString fun _ => keeps_names conv query

/-- The list is lost where it comes with an error. -/
theorem leaves_entriesOf (hcovers : Covers settingGroups terms) (dirName : Option Str) :
    Leaves terms (fun result left => left = 0 ∨
      ∃ err n, result = .error err ∧ left = {(n, .fileList)})
      (getFileDirectory.entriesOf dirName : RequestCalls Float _) held := by
  unfold getFileDirectory.entriesOf
  apply askThen
  intro root hroot
  dsimp only
  cases hpointer : root.pointer with
  | none =>
      cases herror : getIedClientError root.clientError with
      | some err => exact Leaves.pure (Or.inl rfl)
      | none =>
          rcases hcovers _ _ hroot with hcrashes | hdelivered
          · exact .crash hcrashes
          · exact absurd hpointer (hdelivered herror)
  | some listed =>
      cases getIedClientError root.clientError with
      | some err =>
          apply Leaves.make
          exact fun n => Leaves.pure (Or.inr ⟨err, n, rfl, rfl⟩)
      | none =>
          apply Leaves.withMade
          intro n
          apply Scoped.touchThen (Multiset.mem_cons_self _ _)
          exact Leaves.pure (Or.inl rfl)

theorem leaves_getFileDirectory (hcovers : Covers settingGroups terms) (directory : Str) :
    Leaves terms (fun result left => left = 0 ∨
      ∃ err n, result = .error err ∧ left = {(n, .fileList)})
      (getFileDirectory directory : RequestCalls Float _) held := by
  unfold getFileDirectory
  by_cases hroot : directory = []
  · rw [if_pos hroot]
    exact leaves_entriesOf hcovers none
  · rw [if_neg hroot]
    exact leaves_withString fun _ => leaves_entriesOf hcovers _

/-! ## Reading -/

theorem keeps_readScalar (kind : ScalarKind) (objectRef : Str) (fc : ℤ) :
    Keeps terms (readScalar kind objectRef fc : RequestCalls Float _) held := by
  apply keeps_withString
  intro held
  apply askThen
  intro value hvalue
  cases getIedClientError value.1 <;> exact Keeps.pure _

/-- The text is lost, if there is one. -/
theorem leaves_readStringValue (objectRef : Str) (fc : ℤ) :
    Leaves terms (fun result left => (left = 0 ∧ ∀ text, result = .ok text → text = []) ∨
      ∃ n, left = {(n, .text)})
      (readStringValue objectRef fc : RequestCalls Float _) held := by
  apply leaves_withString
  intro held
  apply askThen
  intro value hvalue
  cases value.pointer with
  | none =>
      apply Leaves.pure
      refine Or.inl ⟨rfl, ?_⟩
      intro text htext
      unfold readStringValue.result at htext
      cases herror : getIedClientError value.clientError with
      | some err =>
          rw [herror] at htext
          cases htext
      | none =>
          rw [herror] at htext
          exact (Except.ok.inj htext).symm
  | some text =>
      apply Leaves.make
      intro n
      apply Scoped.touchThen (Multiset.mem_cons_self _ _)
      exact Leaves.pure (Or.inr ⟨n, rfl⟩)

theorem keeps_readObject (objectRef : Str) (fc : ℤ) :
    Keeps terms (readObject objectRef fc : RequestCalls Float _) held := by
  apply keeps_withString
  intro held
  apply askThen
  intro answer hanswer
  cases answer with
  | error err => exact Keeps.pure _
  | ok mmsValue =>
      apply Keeps.withMade
      intro value
      apply Scoped.touchThen (Multiset.mem_cons_self _ _)
      cases toGoValue (some mmsValue) mmsValue.type <;> exact Keeps.pure _

theorem keeps_readDataSetValues (objectRef : Str) :
    Keeps terms (readDataSetValues objectRef : RequestCalls Float _) held := by
  apply keeps_withString
  intro held
  apply askThen
  intro answer hanswer
  cases answer with
  | error err => exact Keeps.pure _
  | ok values =>
      apply Keeps.withMade
      intro dataSet
      apply Scoped.touchThen (Multiset.mem_cons_self _ _)
      exact Keeps.pure _

/-- A specification is lost where it comes with an error. -/
def LeavesSpecification {α : Type} (failed : IedError → α) (result : α)
    (left : Multiset (ℕ × CObject)) : Prop :=
  left = 0 ∨ ∃ err n, result = failed err ∧ left = {(n, .variableSpecification)}

theorem LeavesSpecification.kept {α : Type} {failed : IedError → α} {result : α}
    {left : Multiset (ℕ × CObject)} (h : LeavesSpecification failed result left)
    (hsucceeded : ∀ err, result ≠ failed err) : left = 0 := by
  rcases h with hkept | ⟨err, n, hfailed, -⟩
  · exact hkept
  · exact absurd hfailed (hsucceeded err)

/-- An error of the request is an error of what it is part of. -/
theorem LeavesSpecification.wrapped {α β : Type} {failed : IedError → α} {failed' : IedError → β}
    {result : α} {result' : β} {left : Multiset (ℕ × CObject)}
    (h : LeavesSpecification failed result left)
    (hwrapped : ∀ err, result = failed err → result' = failed' err) :
    LeavesSpecification failed' result' left := by
  rcases h with hkept | ⟨err, n, hfailed, hleft⟩
  · exact Or.inl hkept
  · exact Or.inr ⟨err, n, hwrapped err hfailed, hleft⟩

theorem leaves_withSpecification {α : Type} {P : α → Multiset (ℕ × CObject) → Prop}
    {objectReference : Str} {fc : ℤ} {failed : IedError → α} {missing : RequestCalls Float α}
    {body : ℕ → ℕ → DeliveredSpec → RequestCalls Float α}
    (hfailed : ∀ err left, LeavesSpecification failed (failed err) left → P (failed err) left)
    (hmissing : ∀ answer, terms.answers (.getVariableSpecification (cString objectReference) fc)
      answer → answer.pointer = none → getIedClientError answer.clientError = none →
      ∀ held : Multiset (ℕ × CObject), Leaves terms P missing held)
    (hbody : ∀ answer, terms.answers (.getVariableSpecification (cString objectReference) fc)
      answer → ∀ spec, answer.pointer = some spec → getIedClientError answer.clientError = none →
      ∀ (cObjectRef cSpec : ℕ) (held : Multiset (ℕ × CObject)), (cObjectRef, .string) ∈ held →
      (cSpec, .variableSpecification) ∈ held → Leaves terms P (body cObjectRef cSpec spec) held) :
    Leaves terms P (withSpecification objectReference fc failed missing body) held := by
  apply Leaves.withMade
  intro cObjectRef
  have hstring := Multiset.mem_cons_self (cObjectRef, CObject.string) held
  apply Scoped.touchThen hstring
  apply askThen
  intro answer hanswer
  cases hpointer : answer.pointer with
  | none =>
      cases herror : getIedClientError answer.clientError with
      | some err => exact Leaves.pure (hfailed err 0 (Or.inl rfl))
      | none => exact hmissing answer hanswer hpointer herror _
  | some spec =>
      cases herror : getIedClientError answer.clientError with
      | some err =>
          apply Leaves.make
          exact fun n => Leaves.pure (hfailed err _ (Or.inr ⟨err, n, rfl, rfl⟩))
      | none =>
          apply Leaves.withMade
          intro cSpec
          exact hbody answer hanswer spec hpointer herror cObjectRef cSpec _
            (Multiset.mem_cons_of_mem hstring) (Multiset.mem_cons_self _ _)

/-- The pointer is there where the answers bring what was asked for. -/
theorem leaves_missing (hcovers : Covers settingGroups terms) {α : Type}
    {P : α → Multiset (ℕ × CObject) → Prop} {objectReference : Str} {fc : ℤ}
    {answer : PointerAnswer DeliveredSpec}
    (hanswer : terms.answers (.getVariableSpecification (cString objectReference) fc) answer)
    (hpointer : answer.pointer = none) (herror : getIedClientError answer.clientError = none) :
    Leaves terms P (.crash : RequestCalls Float α) held := by
  rcases hcovers _ _ hanswer with hcrashes | hdelivered
  · exact .crash hcrashes
  · obtain ⟨spec, hspec, -⟩ := hdelivered herror
    cases hpointer.symm.trans hspec

theorem leaves_getVariableSpecification (dataAttributeReference : Str) (fc : ℤ) :
    Leaves terms (LeavesSpecification fun err => .error (some err))
      (getVariableSpecification dataAttributeReference fc : RequestCalls Float _) held := by
  apply leaves_withSpecification
  · exact fun _ _ hleft => hleft
  · exact fun _ _ _ _ _ => Leaves.pure (Or.inl rfl)
  · intro _ _ spec _ _ _ cSpec held _ hcSpec
    apply Scoped.touchThen hcSpec
    exact Leaves.pure (Or.inl rfl)

theorem leaves_getVariableSpecType (hcovers : Covers settingGroups terms) (objectReference : Str)
    (fc : ℤ) :
    Leaves terms (LeavesSpecification .error)
      (getVariableSpecType objectReference fc : RequestCalls Float _) held := by
  apply leaves_withSpecification
  · exact fun _ _ hleft => hleft
  · exact fun _ hanswer hpointer herror _ => leaves_missing hcovers hanswer hpointer herror
  · intro _ _ spec _ _ _ cSpec held _ hcSpec
    apply Scoped.touchThen hcSpec
    exact Leaves.pure (Or.inl rfl)

theorem leaves_getVariableTypeValues (objectRef : Str) (fc : ℤ) :
    Leaves terms (LeavesSpecification fun err => .error (.specification (some err)))
      (getVariableTypeValues objectRef fc : RequestCalls Float _) held := by
  apply Scoped.bind (leaves_getVariableSpecification objectRef fc)
  rintro spec left ⟨extra, rfl, hextra⟩
  cases spec with
  | error err =>
      refine .done ⟨extra, rfl, hextra.wrapped ?_⟩
      intro err' herr
      obtain rfl := Except.error.inj herr
      rfl
  | ok spec =>
      obtain rfl := hextra.kept fun err => by simp
      rw [zero_add]
      apply Keeps.andThen (keeps_readObject objectRef fc)
      intro val
      cases val with
      | error err => exact Leaves.pure (Or.inl rfl)
      | ok val => exact Leaves.pure (Or.inl rfl)

/-! ## Writing -/

/-- The value is there afterwards, where the conversion has succeeded. -/
theorem leaves_newMmsValue (value : GoArgument Other) (mmsType : MmsType) :
    Leaves terms (fun result left => (left = 0 ∧ ∃ err, result = .error err) ∨
      ∃ n mmsValue, result = .ok (n, mmsValue) ∧ left = {(n, .mmsValue)})
      (newMmsValue conv value mmsType) held := by
  have hmade : ∀ mmsValue (held : Multiset (ℕ × CObject)),
      Leaves terms (fun result left => (left = 0 ∧ ∃ err, result = .error err) ∨
        ∃ n mmsValue, result = .ok (n, mmsValue) ∧ left = {(n, .mmsValue)})
        (newMmsValue.made mmsValue : RequestCalls Float _) held := by
    intro mmsValue held
    apply Leaves.make
    exact fun n => Leaves.pure (Or.inr ⟨n, mmsValue, rfl, rfl⟩)
  unfold newMmsValue
  cases toMmsValue conv.values conv.cast value mmsType with
  | error err => exact Leaves.pure (Or.inl ⟨rfl, err, rfl⟩)
  | ok mmsValue =>
      by_cases hstring : mmsType = .mmsString
      · simp only [if_pos hstring]
        exact leaves_withString fun _ => hmade mmsValue _
      · simp only [if_neg hstring]
        exact hmade mmsValue _

theorem leaves_writeObject (hcovers : Covers settingGroups terms) (objectRef : Str) (fc : ℤ)
    (value : GoArgument Other) :
    Leaves terms (LeavesSpecification fun err => some (.getType objectRef fc err))
      (writeObject conv objectRef fc value) held := by
  apply Scoped.bind (leaves_getVariableSpecType hcovers objectRef fc)
  rintro mmsType left ⟨extra, rfl, hextra⟩
  cases mmsType with
  | error err =>
      refine .done ⟨extra, rfl, hextra.wrapped ?_⟩
      intro err' herr
      obtain rfl := Except.error.inj herr
      rfl
  | ok mmsType =>
      obtain rfl := hextra.kept fun err => by simp
      rw [zero_add]
      apply Scoped.bind (leaves_newMmsValue conv value mmsType)
      rintro result left ⟨extra, rfl, ⟨rfl, err, rfl⟩ | ⟨n, mmsValue, rfl, rfl⟩⟩
      · exact .done ⟨0, rfl, Or.inl rfl⟩
      · dsimp only
        rw [Multiset.singleton_add]
        apply Scoped.withMade
        intro cObjectRef
        rw [Multiset.cons_swap]
        have hboth : Keeps terms (do
            touch cObjectRef
            touch n
            let reply ← ask (.writeObject (cString objectRef) fc mmsValue)
            return (getIedClientError reply).map (WriteObjectError.write objectRef fc))
            ((n, .mmsValue) ::ₘ (cObjectRef, .string) ::ₘ held) := by
          apply Scoped.touchThen (Multiset.mem_cons_of_mem (Multiset.mem_cons_self _ _))
          apply Scoped.touchThen (Multiset.mem_cons_self _ _)
          exact Keeps.map (keeps_ask _)
        apply hboth.thenRelease.mono
        rintro result left rfl
        exact ⟨held, rfl, 0, (zero_add held).symm, Or.inl rfl⟩

def WriteSGError.cause : WriteSGError → WriteObjectError
  | .actSG _ _ _ err => err
  | .editSG _ _ _ err => err
  | .value _ _ err => err
  | .cnfEdit _ _ err => err

/-- A specification is lost where it comes with an error, which ends the write. -/
def LeavesWriteSG (error : Option WriteSGError) (left : Multiset (ℕ × CObject)) : Prop :=
  left = 0 ∨ ∃ step objectRef fc err n, error = some step ∧
    step.cause = .getType objectRef fc err ∧ left = {(n, .variableSpecification)}

theorem LeavesSpecification.leavesWriteSG {objectRef : Str} {fc : ℤ} {err : WriteObjectError}
    {left : Multiset (ℕ × CObject)}
    (h : LeavesSpecification (fun err => some (.getType objectRef fc err)) (some err) left)
    {step : WriteSGError} (hcause : step.cause = err) : LeavesWriteSG (some step) left := by
  rcases h with hkept | ⟨err', n, hfailed, hleft⟩
  · exact Or.inl hkept
  · exact Or.inr ⟨step, objectRef, fc, err', n, rfl, hcause.trans (Option.some.inj hfailed), hleft⟩

theorem leaves_writeSG (hcovers : Covers settingGroups terms) (ld ln objectRef : Str) (fc : ℤ)
    (actSG : BitVec 64) (value : GoArgument Other) :
    Leaves terms LeavesWriteSG (writeSG conv ld ln objectRef fc actSG value) held := by
  have hwritten : ∀ (objectRef : Str) (fc : ℤ) (value : GoArgument Other)
      (held : Multiset (ℕ × CObject)),
      Leaves terms (LeavesSpecification fun err => some (.getType objectRef fc err))
        (writeObject conv objectRef fc value) held := fun objectRef fc value _ =>
    leaves_writeObject conv hcovers objectRef fc value
  have hkept : ∀ {objectRef : Str} {fc : ℤ} {left : Multiset (ℕ × CObject)},
      LeavesSpecification (fun err => some (WriteObjectError.getType objectRef fc err)) none
        left → left = 0 := fun hleft => hleft.kept fun _ => (Option.some_ne_none _).symm
  apply Scoped.bind (hwritten _ _ _ _)
  rintro actError left ⟨extra, rfl, hact⟩
  cases actError with
  | some err => exact .done ⟨extra, rfl, hact.leavesWriteSG rfl⟩
  | none =>
      obtain rfl := hkept hact
      rw [zero_add]
      apply Scoped.bind (hwritten _ _ _ _)
      rintro editError left ⟨extra, rfl, hedit⟩
      cases editError with
      | some err => exact .done ⟨extra, rfl, hedit.leavesWriteSG rfl⟩
      | none =>
          obtain rfl := hkept hedit
          rw [zero_add]
          apply Scoped.bind (hwritten _ _ _ _)
          rintro valueError left ⟨extra, rfl, hvalue⟩
          cases valueError with
          | some err => exact .done ⟨extra, rfl, hvalue.leavesWriteSG rfl⟩
          | none =>
              obtain rfl := hkept hvalue
              rw [zero_add]
              apply Scoped.bind (hwritten _ _ _ _)
              rintro cnfEdit left ⟨extra, rfl, hcnf⟩
              cases cnfEdit with
              | some err => exact .done ⟨extra, rfl, hcnf.leavesWriteSG rfl⟩
              | none => exact .done ⟨extra, rfl, Or.inl (hkept hcnf)⟩

/-! ## Setting groups -/

def pieceOf (element : ℕ × CMmsValue Float) : ℕ × CObject := (element.1, .element)

/-- The elements, but those at these places. -/
def pieces (elements : List (ℕ × CMmsValue Float)) (deleted : List ℕ) :
    Multiset (ℕ × CObject) :=
  without (elements.map pieceOf) deleted

theorem kind_of_mem_pieces {elements : List (ℕ × CMmsValue Float)} {deleted : List ℕ}
    {piece : ℕ × CObject} (hpiece : piece ∈ pieces elements deleted) : piece.2 = .element := by
  obtain ⟨element, -, rfl⟩ := List.mem_map.mp (mem_of_mem_without hpiece)
  rfl

theorem leaves_makeElements (values : List (CMmsValue Float)) :
    Leaves terms (fun elements left => elements.length = values.length ∧
      left = elements.map pieceOf) (makeElements values) held := by
  induction values generalizing held with
  | nil => exact Leaves.pure ⟨rfl, rfl⟩
  | cons value rest ih =>
      apply Leaves.make
      intro n
      apply Scoped.bind ih
      rintro others left ⟨extra, rfl, hlength, rfl⟩
      exact .done ⟨_, rfl, congrArg (· + 1) hlength, Multiset.cons_coe _ _⟩

theorem cString_component : ∀ name ∈ settingGroupComponents, cString name = name := by
  decide

/-- The element is taken away, and it is another one for each name. -/
theorem scoped_getSubElementValue {sgcbVal sgcbVarSpec : ℕ} {sgcb : CMmsValue Float}
    {elements : List (ℕ × CMmsValue Float)} {spec : CVarSpecification} {deleted : List ℕ}
    (name : Str) (hname : name ∈ settingGroupComponents) (hval : (sgcbVal, .mmsValue) ∈ held)
    (hspec : (sgcbVarSpec, .variableSpecification) ∈ held)
    (hfound : terms.crashes ∨
      ∃ i, conv.getSubElement sgcb spec name = some i ∧ i < elements.length)
    (hnew : ∀ i, conv.getSubElement sgcb spec name = some i → i ∉ deleted) :
    Scoped terms (fun _ left => ∃ i, conv.getSubElement sgcb spec name = some i ∧
        left = pieces elements (i :: deleted) + held)
      (getSubElementValue conv sgcbVal sgcbVarSpec sgcb elements spec name)
      (pieces elements deleted + held) := by
  apply Scoped.withMade
  intro mmsPath
  have hstay : ∀ {x : ℕ × CObject}, x ∈ held →
      x ∈ (mmsPath, CObject.string) ::ₘ (pieces elements deleted + held) := fun hx =>
    Multiset.mem_cons_of_mem (Multiset.mem_add.mpr (Or.inr hx))
  apply Scoped.touchThen (hstay hval)
  apply Scoped.touchThen (hstay hspec)
  apply Scoped.touchThen (Multiset.mem_cons_self _ _)
  rw [cString_component name hname]
  cases hplace : conv.getSubElement sgcb spec name with
  | none =>
      rcases hfound with hcrashes | ⟨i, hi, -⟩
      · exact .crash hcrashes
      · cases hplace.symm.trans hi
  | some i =>
      rw [Option.bind_some]
      cases helement : elements[i]? with
      | none =>
          rcases hfound with hcrashes | ⟨j, hj, hlt⟩
          · exact .crash hcrashes
          · obtain rfl := Option.some.inj (hplace.symm.trans hj)
            exact absurd hlt (Nat.not_lt.mpr (List.getElem?_eq_none_iff.mp helement))
      | some element =>
          obtain ⟨n, value⟩ := element
          have hpiece : (elements.map pieceOf)[i]? = some (n, CObject.element) := by
            rw [List.getElem?_map, helement]
            rfl
          have htaken : pieces elements deleted =
              (n, .element) ::ₘ pieces elements (i :: deleted) :=
            without_cons hpiece (hnew i hplace)
          rw [htaken, Multiset.cons_add, Multiset.cons_swap]
          apply Scoped.thenRelease
          apply Scoped.touchThen (Multiset.mem_cons_self _ _)
          exact .done ⟨_, rfl, _, rfl, i, rfl, rfl⟩

/-- The value that was read is lost, with some of its elements, unless a request failed; a
specification is lost where it comes with an error. -/
def LeavesSettingGroup (result : Except GetSGError SettingGroup)
    (left : Multiset (ℕ × CObject)) : Prop :=
  (left = 0 ∧ ∃ objectRef err, result = .error (.variableSpec objectRef err) ∨
    result = .error (.object objectRef err)) ∨
  (∃ objectRef err n, result = .error (.variableSpec objectRef err) ∧
    left = {(n, .variableSpecification)}) ∨
  ∃ n elements, left = (n, .mmsValue) ::ₘ elements ∧
    ∀ piece ∈ elements, piece.2 = CObject.element

theorem leaves_getSG (hcovers : Covers settingGroups terms) (hseparates : SeparatesComponents conv)
    {objectRef : Str}
    (hreads : terms.crashes ∨ FindsComponents conv ∧
      ∃ names, settingGroups (cString objectRef) = some names ∧
        ∀ name ∈ settingGroupComponents, name ∈ names) :
    Leaves terms LeavesSettingGroup (getSG conv objectRef) held := by
  apply leaves_withSpecification
  · rintro err left (rfl | ⟨err', n, herr, rfl⟩)
    · exact Or.inl ⟨rfl, objectRef, err, Or.inl rfl⟩
    · exact Or.inr (Or.inl ⟨objectRef, err, n, rfl, rfl⟩)
  · exact fun _ hanswer hpointer herror _ => leaves_missing hcovers hanswer hpointer herror
  intro answer hanswer spec hpointer herror cObjectRef sgcbVarSpec held hstring hspecHeld
  apply Scoped.touchThen hstring
  apply askThen
  intro read hobject
  cases read with
  | error err => exact Leaves.pure (Or.inl ⟨rfl, objectRef, err, Or.inr rfl⟩)
  | ok sgcb =>
      apply Leaves.make
      intro sgcbVal
      have hval : (sgcbVal, CObject.mmsValue) ∈ (sgcbVal, CObject.mmsValue) ::ₘ held :=
        Multiset.mem_cons_self _ _
      have hspec : (sgcbVarSpec, CObject.variableSpecification) ∈
          (sgcbVal, CObject.mmsValue) ::ₘ held := Multiset.mem_cons_of_mem hspecHeld
      have hlost : ∀ result (elements : List (ℕ × CMmsValue Float)) deleted rest,
          ∃ extra, pieces elements deleted + rest = extra + rest ∧
            LeavesSettingGroup result ((sgcbVal, .mmsValue) ::ₘ extra) := fun _ _ _ _ =>
        ⟨_, rfl, Or.inr (Or.inr ⟨sgcbVal, _, rfl, fun _ hpiece => kind_of_mem_pieces hpiece⟩)⟩
      apply Scoped.bind (leaves_makeElements _)
      rintro elements left ⟨extra, rfl, hlength, rfl⟩
      have hfound : ∀ name ∈ settingGroupComponents, terms.crashes ∨
          ∃ i, conv.getSubElement sgcb spec.described name = some i ∧ i < elements.length := by
        intro name hname
        by_cases hcrashes : terms.crashes
        · exact Or.inl hcrashes
        obtain ⟨hfinds, names, hgroup, hnames⟩ := hreads.resolve_left hcrashes
        obtain ⟨spec', hsame, hchildren⟩ := (hcovers _ _ hanswer).resolve_left hcrashes herror
        obtain rfl := Option.some.inj (hpointer.symm.trans hsame)
        have hsize := (hcovers _ _ hobject).resolve_left hcrashes sgcb names rfl rfl hgroup
        rw [hlength]
        exact Or.inr (hfinds sgcb spec.described names (hchildren names rfl hgroup) hsize name
          hname (hnames name hname))
      have hother : ∀ {name name' : Str} {i i' : ℕ}, name ∈ settingGroupComponents →
          name' ∈ settingGroupComponents → name ≠ name' →
          conv.getSubElement sgcb spec.described name = some i →
          conv.getSubElement sgcb spec.described name' = some i' → i ≠ i' := by
        rintro name name' i i' hname hname' hne hplace hplace' rfl
        exact hne (hseparates _ _ _ _ hname _ hname' hplace hplace')
      have hall : (elements.map pieceOf : Multiset _) = pieces elements [] :=
        (without_nil _).symm
      rw [hall]
      apply Scoped.bind (scoped_getSubElementValue conv (lit "NumOfSG") (by decide) hval hspec
        (hfound _ (by decide)) fun _ _ => List.not_mem_nil)
      rintro numOfSG left ⟨i, hnumOfSG, rfl⟩
      cases numOfSG with
      | error err => exact .done (hlost _ _ _ _)
      | ok numOfSG =>
          apply Scoped.bind (scoped_getSubElementValue conv (lit "ActSG") (by decide) hval hspec
            (hfound _ (by decide)) ?_)
          · rintro actSG left ⟨j, hactSG, rfl⟩
            cases actSG with
            | error err => exact .done (hlost _ _ _ _)
            | ok actSG =>
                apply Scoped.bind (scoped_getSubElementValue conv (lit "EditSG") (by decide) hval
                  hspec (hfound _ (by decide)) ?_)
                · rintro editSG left ⟨k, heditSG, rfl⟩
                  cases editSG with
                  | error err => exact .done (hlost _ _ _ _)
                  | ok editSG =>
                      apply Scoped.bind (scoped_getSubElementValue conv (lit "CnfEdit")
                        (by decide) hval hspec (hfound _ (by decide)) ?_)
                      · rintro cnfEdit left ⟨l, hcnfEdit, rfl⟩
                        cases cnfEdit with
                        | error err => exact .done (hlost _ _ _ _)
                        | ok cnfEdit => exact .done (hlost _ _ _ _)
                      · intro l hcnfEdit
                        have hnum := hother (by decide) (by decide) (by decide) hcnfEdit hnumOfSG
                        have hact := hother (by decide) (by decide) (by decide) hcnfEdit hactSG
                        have hedit := hother (by decide) (by decide) (by decide) hcnfEdit heditSG
                        simp [hnum, hact, hedit]
                · intro k heditSG
                  have hnum := hother (by decide) (by decide) (by decide) heditSG hnumOfSG
                  have hact := hother (by decide) (by decide) (by decide) heditSG hactSG
                  simp [hnum, hact]
          · intro j hactSG
            have hnum := hother (by decide) (by decide) (by decide) hactSG hnumOfSG
            simp [hnum]

/-! ## Control -/

theorem keeps_selectFirst (controlModel : ℤ) {control ctlVal : ℕ} (object : ControlObject)
    (value : CtlVal Float) (hcontrol : (control, .controlObject) ∈ held)
    (hctlVal : (ctlVal, .mmsValue) ∈ held) :
    Keeps terms (selectFirst controlModel control ctlVal object value) held := by
  unfold selectFirst
  split_ifs
  · exact Scoped.touchThen hcontrol (keeps_ask (.select object))
  · exact Scoped.touchThen hcontrol (Keeps.pure _)
  · apply Scoped.touchThen hcontrol
    exact Scoped.touchThen hctlVal (keeps_ask (.selectWithValue object value))
  · exact Keeps.pure _

theorem keeps_setAndOperate {Value : Type} (controlModel : ℤ) (param : ControlObjectParam Value)
    {control ctlVal : ℕ} (value : CtlVal Float) (operTime : ℕ)
    (hcontrol : (control, .controlObject) ∈ held) (hctlVal : (ctlVal, .mmsValue) ∈ held) :
    Keeps terms (setAndOperate controlModel param control ctlVal value operTime) held := by
  apply Scoped.touchThen hcontrol
  apply Scoped.touchThen hctlVal
  exact Keeps.map (keeps_ask _)

theorem keeps_controlCalls {Value : Type} (controlModel : ℤ) (param : ControlObjectParam Value)
    {control : ℕ} (object : ControlObject) (value : CtlVal Float) (operTime : ℕ)
    (hcontrol : (control, .controlObject) ∈ held) :
    Keeps terms (controlCalls controlModel param control object value operTime) held := by
  apply Keeps.withMade
  intro ctlVal
  have hcontrol' := Multiset.mem_cons_of_mem (b := (ctlVal, CObject.mmsValue)) hcontrol
  have hctlVal := Multiset.mem_cons_self (ctlVal, CObject.mmsValue) held
  apply Keeps.andThen (keeps_selectFirst controlModel object value hcontrol' hctlVal)
  intro goesOn
  cases goesOn with
  | false => exact Keeps.pure _
  | true =>
      simp only [if_true]
      by_cases hident : param.orIdent = []
      · rw [if_pos hident]
        exact keeps_setAndOperate controlModel param value operTime hcontrol' hctlVal
      · rw [if_neg hident]
        apply Keeps.withMade
        intro cOrIdent
        apply Scoped.touchThen (Multiset.mem_cons_self _ _)
        exact keeps_setAndOperate controlModel param value operTime
          (Multiset.mem_cons_of_mem hcontrol') (Multiset.mem_cons_of_mem hctlVal)

/-- The control object is lost, if one was created. -/
def LeavesControl (error : Option ControlError) (left : Multiset (ℕ × CObject)) : Prop :=
  (error = some .createControlObjectClientFail ∧ left = 0) ∨ ∃ n, left = {(n, .controlObject)}

/-- The copies of the control function for integer and analogue values. -/
theorem leaves_undestroyed {Value : Type} (objectRef : Str) (controlModel : ℤ)
    (param : ControlObjectParam Value) (value : CtlVal Float) (operTime : ℕ) :
    Leaves terms LeavesControl (withMade .string fun cObjectRef => do
      touch cObjectRef
      match ← ask (.createControl (cString objectRef)) with
      | none => return some .createControlObjectClientFail
      | some object =>
          .make .controlObject fun control =>
            controlCalls controlModel param control object value operTime :
      RequestCalls Float (Option ControlError)) held := by
  apply leaves_withString
  intro held
  apply askThen
  intro answer hanswer
  cases answer with
  | none => exact Leaves.pure (Or.inl ⟨rfl, rfl⟩)
  | some object =>
      apply Leaves.make
      intro control
      apply (keeps_controlCalls controlModel param object value operTime
        (Multiset.mem_cons_self _ _)).leaves
      exact fun _ => Or.inr ⟨control, rfl⟩

theorem leaves_controlByControlModelINC (objectRef : Str) (controlModel : ℤ)
    (param : ControlObjectParam ℤ) :
    Leaves terms LeavesControl (controlByControlModelINC objectRef controlModel param :
      RequestCalls Float _) held :=
  leaves_undestroyed objectRef controlModel param _ _

theorem leaves_controlByControlModelAPC (objectRef : Str) (controlModel : ℤ)
    (param : ControlObjectParam Float) :
    Leaves terms LeavesControl (controlByControlModelAPC objectRef controlModel param) held :=
  leaves_undestroyed objectRef controlModel param _ _

theorem keeps_controlByControlModel (objectRef : Str) (controlModel : ℤ)
    (param : ControlObjectParam Bool) :
    Keeps terms (controlByControlModel objectRef controlModel param : RequestCalls Float _)
      held := by
  apply keeps_withString
  intro held
  apply askThen
  intro answer hanswer
  cases answer with
  | none => exact Keeps.pure _
  | some object =>
      apply Keeps.withMade
      intro control
      exact keeps_controlCalls controlModel param object _ _ (Multiset.mem_cons_self _ _)

/-! ## Report control blocks -/

theorem keeps_getRCBValues (objectReference : Str) :
    Keeps terms (getRCBValues objectReference : RequestCalls Float _) held := by
  apply keeps_withString
  intro held
  apply askThen
  intro answer hanswer
  cases answer.pointer with
  | none => exact Keeps.pure _
  | some values =>
      apply Keeps.withMade
      intro rcb
      apply Scoped.touchThen (Multiset.mem_cons_self _ _)
      exact Keeps.pure _

theorem keeps_writeRCB (request : RcbRequest) (objectReference : Str) (rcb : RcbAttributes)
    (mask : BitVec 32) :
    Keeps terms (writeRCB request objectReference rcb mask : RequestCalls Float _) held := by
  apply keeps_withString
  intro held
  apply Keeps.withMade
  intro block
  apply Scoped.touchThen (Multiset.mem_cons_self _ _)
  exact Keeps.map (keeps_ask _)

theorem keeps_setRCBValues (objectReference : Str) (settings : ClientReportControlBlock) :
    Keeps terms (setRCBValues objectReference settings : RequestCalls Float _) held := by
  apply keeps_withString
  intro held
  apply Keeps.withMade
  intro rcb
  apply Scoped.touchThen (Multiset.mem_cons_self _ _)
  apply askThen
  intro isBuffered hisBuffered
  exact Keeps.map (keeps_ask _)

theorem keeps_setDataSetReference (objectReference dataSetRef : Str) :
    Keeps terms (setDataSetReference objectReference dataSetRef : RequestCalls Float _) held := by
  apply keeps_withString
  intro held
  apply Keeps.withMade
  intro cDs
  apply Keeps.withMade
  intro rcb
  apply Scoped.touchThen (Multiset.mem_cons_self _ _)
  apply Scoped.touchThen (Multiset.mem_cons_of_mem (Multiset.mem_cons_self _ _))
  exact Keeps.map (keeps_ask _)

/-- The block is lost where it comes with an error. -/
theorem leaves_triggerGIReport (hcovers : Covers settingGroups terms) (objectReference : Str) :
    Leaves terms (fun error left => left = 0 ∨
      ∃ err n, error = some (.getRCB objectReference err) ∧ left = {(n, .reportControlBlock)})
      (triggerGIReport objectReference : RequestCalls Float _) held := by
  apply leaves_withString
  intro held
  apply askThen
  intro answer hanswer
  dsimp only
  cases hpointer : answer.pointer with
  | none =>
      cases herror : getIedClientError answer.clientError with
      | some err => exact Leaves.pure (Or.inl rfl)
      | none =>
          rcases hcovers _ _ hanswer with hcrashes | hdelivered
          · exact .crash hcrashes
          · exact absurd hpointer (hdelivered herror)
  | some values =>
      cases getIedClientError answer.clientError with
      | some err =>
          apply Leaves.make
          exact fun n => Leaves.pure (Or.inr ⟨err, n, rfl, rfl⟩)
      | none =>
          apply Leaves.withMade
          intro rcb
          exact (Keeps.map (keeps_ask _)).leaves fun _ => Or.inl rfl

end Client

/-! ## The requests -/

namespace ClientRequest

/-- What the client has not given back when the request has returned. -/
def leaves : (request : ClientRequest Float Other) → request.Result →
    Multiset (ℕ × CObject) → Prop
  | .getFileDirectory _ => fun result left =>
      left = 0 ∨ ∃ err n, result = .error err ∧ left = {(n, .fileList)}
  | .readStringValue _ _ => fun result left =>
      (left = 0 ∧ ∀ text, result = .ok text → text = []) ∨ ∃ n, left = {(n, .text)}
  | .getVariableSpecification _ _ => Client.LeavesSpecification fun err => .error (some err)
  | .getVariableSpecType _ _ => Client.LeavesSpecification .error
  | .getVariableTypeValues _ _ =>
      Client.LeavesSpecification fun err => .error (.specification (some err))
  | .writeObject objectRef fc _ =>
      Client.LeavesSpecification fun err => some (.getType objectRef fc err)
  | .writeSG _ _ _ _ _ _ => Client.LeavesWriteSG
  | .getSG _ => Client.LeavesSettingGroup
  | .controlByControlModelINC _ _ _ => Client.LeavesControl
  | .controlByControlModelAPC _ _ _ => Client.LeavesControl
  | .triggerGIReport objectReference => fun error left => left = 0 ∨
      ∃ err n, error = some (.getRCB objectReference err) ∧ left = {(n, .reportControlBlock)}
  | _ => fun _ left => left = 0

theorem scoped_program {settingGroups : Str → Option (List Str)}
    {terms : Terms (LibraryAnswer Float)} (hcovers : Covers settingGroups terms)
    {conv : Conversions Float Other} (hseparates : SeparatesComponents conv)
    (request : ClientRequest Float Other)
    (hreads : terms.crashes ∨ FindsComponents conv ∧ ReadsSettingGroups settingGroups request) :
    Scoped terms request.leaves (request.program conv) 0 := by
  cases request with
  | getLogicalDeviceDirectory => exact Keeps.map (Client.keeps_namesOf conv _)
  | getLogicalNodeDirectory => exact Keeps.map (Client.keeps_namesOf conv _)
  | getDataSetDirectory => exact Client.keeps_namesOf conv _
  | getDataDirectoryFC => exact Keeps.map (Client.keeps_namesOf conv _)
  | getServerDirectory => exact Keeps.map (Client.keeps_names conv _)
  | getLogicalDeviceList => exact Keeps.map (Client.keeps_names conv _)
  | getLogicalDeviceVariables => exact Keeps.map (Client.keeps_namesOf conv _)
  | getLogicalDeviceDataSets => exact Keeps.map (Client.keeps_namesOf conv _)
  | getFileDirectory => exact (Client.leaves_getFileDirectory hcovers _).scoped
  | readBoolValue => exact Client.keeps_readScalar .boolean _ _
  | readInt32Value => exact Client.keeps_readScalar .int32 _ _
  | readInt64Value => exact Client.keeps_readScalar .int64 _ _
  | readUint32Value => exact Client.keeps_readScalar .unsigned32 _ _
  | readFloatValue => exact Client.keeps_readScalar .float _ _
  | readStringValue => exact (Client.leaves_readStringValue _ _).scoped
  | readObject => exact Client.keeps_readObject _ _
  | readDataSetValues => exact Client.keeps_readDataSetValues _
  | getVariableSpecification => exact (Client.leaves_getVariableSpecification _ _).scoped
  | getVariableSpecType => exact (Client.leaves_getVariableSpecType hcovers _ _).scoped
  | getVariableTypeValues => exact (Client.leaves_getVariableTypeValues _ _).scoped
  | writeObject => exact (Client.leaves_writeObject conv hcovers _ _ _).scoped
  | writeSG => exact (Client.leaves_writeSG conv hcovers _ _ _ _ _ _).scoped
  | getSG => exact (Client.leaves_getSG conv hcovers hseparates hreads).scoped
  | controlByControlModelINC => exact (Client.leaves_controlByControlModelINC _ _ _).scoped
  | controlByControlModelAPC => exact (Client.leaves_controlByControlModelAPC _ _ _).scoped
  | controlByControlModel => exact Client.keeps_controlByControlModel _ _ _
  | getRCBValues => exact Client.keeps_getRCBValues _
  | setRCBValues => exact Client.keeps_setRCBValues _ _
  | setRptEna => exact Client.keeps_writeRCB _ _ _ _
  | setTrgOps => exact Client.keeps_writeRCB _ _ _ _
  | setBufTm => exact Client.keeps_writeRCB _ _ _ _
  | setIntgPd => exact Client.keeps_writeRCB _ _ _ _
  | setGI => exact Client.keeps_writeRCB _ _ _ _
  | setDataSetReference => exact Client.keeps_setDataSetReference _ _
  | triggerGIReport => exact (Client.leaves_triggerGIReport hcovers _).scoped

end ClientRequest

/-- The first component of this name, where the value has an element in its place. -/
def firstComponent (value : CMmsValue Float) (spec : CVarSpecification) (name : Str) : Option ℕ :=
  (spec.getChildSpecificationByIndex.findIdx? fun child => child.any (·.getName = name)).filter
    fun i => i < value.elements.length

theorem firstComponent_eq_some {value : CMmsValue Float} {spec : CVarSpecification} {name : Str}
    {i : ℕ} (h : firstComponent value spec name = some i) :
    ∃ child, spec.getChildSpecificationByIndex[i]? = some (some child) ∧ child.getName = name := by
  obtain ⟨hplace, -⟩ := Option.filter_eq_some_iff.mp h
  obtain ⟨hi, hname, -⟩ := List.findIdx?_eq_some_iff_getElem.mp hplace
  cases hchild : spec.getChildSpecificationByIndex[i] with
  | none =>
      rw [hchild] at hname
      cases hname
  | some child =>
      rw [hchild] at hname
      refine ⟨child, ?_, of_decide_eq_true hname⟩
      rw [List.getElem?_eq_getElem hi, hchild]

theorem exists_firstComponent {value : CMmsValue Float} {spec : CVarSpecification}
    {names : List Str} {name : Str}
    (hnames : spec.getChildSpecificationByIndex.map (Option.map (·.getName)) = names.map some)
    (hsize : names.length ≤ value.elements.length) (hname : name ∈ names) :
    ∃ i, firstComponent value spec name = some i ∧ i < value.elements.length := by
  have hlength : spec.getChildSpecificationByIndex.length = names.length := by
    simpa using congrArg List.length hnames
  have hmem : some name ∈ spec.getChildSpecificationByIndex.map (Option.map (·.getName)) :=
    hnames ▸ List.mem_map_of_mem hname
  obtain ⟨child, hchild, hgetName⟩ := List.mem_map.mp hmem
  have hplaced : (spec.getChildSpecificationByIndex.findIdx?
      fun child => child.any (·.getName = name)).isSome := by
    rw [List.findIdx?_isSome, List.any_eq_true]
    refine ⟨child, hchild, ?_⟩
    obtain ⟨child, rfl, hsame⟩ := Option.map_eq_some_iff.mp hgetName
    simp [hsame]
  obtain ⟨i, hi⟩ := Option.isSome_iff_exists.mp hplaced
  obtain ⟨hlt, -⟩ := List.findIdx?_eq_some_iff_getElem.mp hi
  have hthere : i < value.elements.length := lt_of_lt_of_le (hlength ▸ hlt) hsize
  exact ⟨i, Option.filter_eq_some_iff.mpr ⟨hi, decide_eq_true hthere⟩, hthere⟩

def sampleConversions : Conversions Unit Unit where
  go2CStr _ := []
  c2GoStr _ := []
  getSubElement := firstComponent
  values := sampleLibrary
  cast := sampleCaster
  toInt _ := 0
  toBool _ := false
  ofBool _ := ()

/-- A setting group with its components, and a text. -/
def sampleAnswers : (query : LibraryQuery Unit) → LibraryAnswer Unit query
  | .names _ => ⟨0, none, false⟩
  | .readScalar kind _ _ => (0, match kind with
    | .boolean => false
    | .int32 => 0
    | .int64 => 0
    | .unsigned32 => 0
    | .float => ())
  | .readStringValue _ _ => ⟨0, some (lit "on")⟩
  | .readObject _ _ => .ok ⟨.struct,
      List.replicate 4 ⟨.integer, [], sampleReadings 1⟩, sampleReadings 0⟩
  | .readDataSetValues _ => .error .unknown
  | .getVariableSpecification _ _ => ⟨0, some {
      described := {
        getType := .struct
        getSize := 4
        getChildSpecificationByIndex := settingGroupComponents.map fun name =>
          some { getType := .integer, getName := name } }
      typeSpec := 4 }⟩
  | .writeObject _ _ _ => 0
  | .createControl _ => none
  | .select _ => false
  | .selectWithValue _ _ => false
  | .operate _ _ _ => false
  | .getRCBValues _ => ⟨1, none⟩
  | .isBuffered _ => false
  | .setRCBValues _ _ _ => 0
  | .triggerGIReport _ => 0
  | .getFileDirectory _ => ⟨1, none⟩

theorem finds_sampleConversions : FindsComponents sampleConversions :=
  fun _ _ _ hspec hvalue _ _ hname => exists_firstComponent hspec.children hvalue.enough hname

theorem separates_sampleConversions : SeparatesComponents sampleConversions := by
  intro value spec i name _ name' _ hplace hplace'
  obtain ⟨child, hchild, hname⟩ := firstComponent_eq_some hplace
  obtain ⟨child', hchild', hname'⟩ := firstComponent_eq_some hplace'
  obtain rfl := Option.some.inj (Option.some.inj (hchild.symm.trans hchild'))
  exact hname.symm.trans hname'

/-- Anything is answered. -/
def anyAnswers (Float : Type) : Terms (LibraryAnswer Float) where
  answers _ _ := True
  crashes := True

/-- Whatever the server answers, and however the requests are interleaved, nothing is used
or given back after it was given back, and what is there is what the running requests hold
and what the finished ones have left.  The names of a setting group lead to different
components, each of which is deleted. -/
theorem requests_give_back {conv : Conversions Float Other}
    (hseparates : SeparatesComponents conv)
    {s : CallSystem (LibraryAnswer Float) CObject (@ClientRequest.Result Float Other)}
    (hreachable : Transition.Reachable (CallSystem.step (ClientRequest.program conv)) {} s) :
    s.store.misused = false ∧ (∀ n, s.store.releases n ≤ 1) ∧
      ∃ held left, s.store.live = held + left ∧ (s.running = [] → held = 0) ∧
        Shares (fun done own => done.1.leaves done.2 own) s.finished left := by
  have hcovers : Covers (fun _ => none) (anyAnswers Float) := fun _ _ _ => Or.inl trivial
  have hreaches : Transition.Reaches (CallSystem.step (ClientRequest.program conv))
      (CallSystem.Allowed (anyAnswers Float) fun _ => True) {} s := by
    apply hreachable.mono
    intro s action _
    cases action with
    | start request => trivial
    | advance i answers => exact fun _ => trivial
  have hledger := CallSystem.ledger_of_reaches
    (fun request _ => ClientRequest.scoped_program hcovers hseparates request (Or.inl trivial))
    hreaches
  obtain ⟨held, left, hlive, hrunning, hfinished⟩ := hledger.account
  refine ⟨hledger.tidy.unmisused, hledger.tidy.once, held, left, hlive, ?_, hfinished⟩
  intro hnone
  rw [hnone] at hrunning
  cases hrunning
  rfl

/-- A text and a boolean are read side by side. -/
def sampleReads : List (CallAction (ClientRequest Unit Unit) (LibraryAnswer Unit)) :=
  .start (.readStringValue [] 0) :: .start (.readBoolValue [] 0) ::
    [1, 0, 1, 0, 0, 1, 1, 0, 1, 0, 0, 0].map fun i => .advance i sampleAnswers

theorem requests_give_back_sample :
    ∃ s, Transition.Reachable (CallSystem.step (ClientRequest.program sampleConversions)) {} s ∧
      s.running = [] ∧ ∃ n, s.store.live = {(n, .text)} := by
  have hends : (Transition.run (CallSystem.step (ClientRequest.program sampleConversions)) {}
      sampleReads).map (fun s => (s.running, s.finished)) =
      some ([], [⟨.readStringValue [] 0, .ok (lit "on")⟩, ⟨.readBoolValue [] 0, .ok false⟩]) :=
    rfl
  obtain ⟨s, hrun, hend⟩ := Option.map_eq_some_iff.mp hends
  obtain ⟨hrunning, hfinished⟩ := Prod.mk.inj hend
  have hreachable := Transition.Reachable.run .start sampleReads hrun
  refine ⟨s, hreachable, hrunning, ?_⟩
  obtain ⟨-, -, held, left, hlive, hheld, hshares⟩ :=
    requests_give_back separates_sampleConversions hreachable
  rw [hlive, hheld hrunning, zero_add]
  rw [hfinished] at hshares
  cases hshares with
  | cons htext hrest =>
      cases hrest with
      | cons hbool hnone =>
          cases hnone
          obtain rfl : _ = 0 := hbool
          obtain ⟨-, hempty⟩ | ⟨n, rfl⟩ := htext
          · exact absurd (hempty _ rfl) (by decide)
          · exact ⟨n, by simp⟩

/-- Functions do not crash. -/
def deliveredAnswers (Float : Type) (settingGroups : Str → Option (List Str)) :
    Terms (LibraryAnswer Float) where
  answers := Delivered settingGroups
  crashes := False

/-- Where what succeeds brings what was asked for, and the components of a setting group are
found, no request dereferences `NULL`: each one that runs can make its next call. -/
theorem requests_go_on {conv : Conversions Float Other}
    (hfinds : FindsComponents conv) (hseparates : SeparatesComponents conv)
    {settingGroups : Str → Option (List Str)}
    {s : CallSystem (LibraryAnswer Float) CObject (@ClientRequest.Result Float Other)}
    (hreaches : Transition.Reaches (CallSystem.step (ClientRequest.program conv))
      (CallSystem.Allowed (deliveredAnswers Float settingGroups)
        (ReadsSettingGroups settingGroups)) {} s)
    {i : ℕ} (hi : i < s.running.length)
    (answers : (query : LibraryQuery Float) → LibraryAnswer Float query) :
    ∃ s', s.step (ClientRequest.program conv) (.advance i answers) = some s' := by
  have hcovers : Covers settingGroups (deliveredAnswers Float settingGroups) :=
    fun _ _ hdelivered => Or.inr hdelivered
  have hledger := CallSystem.ledger_of_reaches (fun request hreads =>
    ClientRequest.scoped_program hcovers hseparates request (Or.inr ⟨hfinds, hreads⟩)) hreaches
  exact CallSystem.exists_advance hledger id hi answers

theorem delivered_sampleAnswers (query : LibraryQuery Unit) :
    Delivered (fun _ => some settingGroupComponents) query (sampleAnswers query) := by
  cases query with
  | getVariableSpecification reference fc =>
      intro _
      refine ⟨_, rfl, ?_⟩
      intro names _ hnames
      obtain rfl := Option.some.inj hnames
      exact ⟨rfl, rfl, rfl⟩
  | readObject reference fc =>
      intro value names hvalue _ hnames
      obtain rfl := Except.ok.inj hvalue
      obtain rfl := Option.some.inj hnames
      exact ⟨rfl, Nat.le_refl 4⟩
  | getRCBValues reference => intro hsucceeded; cases hsucceeded
  | getFileDirectory directory => intro hsucceeded; cases hsucceeded
  | _ => trivial

/-- A setting group is read up to its components. -/
def sampleSettingGroup : List (CallAction (ClientRequest Unit Unit) (LibraryAnswer Unit)) :=
  .start (.getSG []) :: List.replicate 11 (.advance 0 sampleAnswers)

theorem requests_go_on_sample :
    ∃ s, Transition.run (CallSystem.step (ClientRequest.program sampleConversions)) {}
        sampleSettingGroup = some s ∧ s.store.made = 7 ∧
      ∃ s', s.step (ClientRequest.program sampleConversions) (.advance 0 sampleAnswers) =
        some s' := by
  have hends : (Transition.run (CallSystem.step (ClientRequest.program sampleConversions)) {}
      sampleSettingGroup).map (fun s => (s.running.length, s.store.made)) = some (1, 7) := rfl
  obtain ⟨s, hrun, hend⟩ := Option.map_eq_some_iff.mp hends
  obtain ⟨hrunning, hmade⟩ := Prod.mk.inj hend
  have hreaches : Transition.Reaches (CallSystem.step (ClientRequest.program sampleConversions))
      (CallSystem.Allowed (deliveredAnswers Unit fun _ => some settingGroupComponents)
        (ReadsSettingGroups fun _ => some settingGroupComponents)) {} s := by
    apply Transition.Reaches.run .start sampleSettingGroup _ hrun
    apply Transition.allAllowed_of_forall
    intro action haction s
    rcases List.mem_cons.mp haction with rfl | haction
    · exact ⟨_, rfl, fun name hname => hname⟩
    · obtain rfl := List.eq_of_mem_replicate haction
      exact delivered_sampleAnswers
  exact ⟨s, hrun, hmade, requests_go_on finds_sampleConversions separates_sampleConversions
    hreaches (by omega) sampleAnswers⟩

end Iec61850.Mms
