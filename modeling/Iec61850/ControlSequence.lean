import Iec61850.CText

/-!
# Control sequences of the client

`ControlByControlModel` and its copies for integer and analogue values create a
control object, select it where the control model asks for it, set the
parameters of the command and operate.
-/

namespace Iec61850.Mms

open Go

/-! ## The library -/

/-- What is transmitted with a command besides the value. -/
structure CommandParameters where
  orIdent : Option Str
  orCat : ℤ
  interlockCheck : Bool
  synchroCheck : Bool
  testMode : Bool
  deriving DecidableEq

/-- `ControlObjectClient` -/
structure ControlObject where
  ctlModel : ℤ
  parameters : CommandParameters
  deriving DecidableEq

/-- `MmsValue`, of the kinds that are written; `F` are the 32-bit floats. -/
inductive CtlVal (F : Type)
  | boolean (value : Bool)
  | integer (value : ℤ)
  | float (value : F)
  deriving DecidableEq

/-- The outcomes of the library calls. -/
structure ControlLibrary (F : Type) where
  create : Str → Option ControlObject
  select : ControlObject → Bool
  selectWithValue : ControlObject → CtlVal F → Bool
  operate : ControlObject → CtlVal F → ℕ → Bool

/-- The calls on the control object; where one reaches the server, the object is
recorded as it stands. -/
inductive ControlEvent (F : Type)
  | select (object : ControlObject) (success : Bool)
  | selectWithValue (object : ControlObject) (ctlVal : CtlVal F) (success : Bool)
  | setCommandTerminationHandler
  | setControlModel (ctlModel : ℤ)
  | setOrigin (orIdent : Option Str) (orCat : ℤ)
  | setInterlockCheck (value : Bool)
  | setSynchroCheck (value : Bool)
  | setTestMode (value : Bool)
  | operate (object : ControlObject) (ctlVal : CtlVal F) (operTime : ℕ) (success : Bool)
  | destroy
  deriving DecidableEq

inductive ControlError
  | createControlObjectClientFail
  | controlSelectFail
  | controlObjectFail
  deriving DecidableEq

/-- The calls that were made, and the error that is returned. -/
structure ControlResult (F : Type) where
  events : List (ControlEvent F)
  error : Option ControlError

variable {F : Type}

/-! ## The sequence -/

def CONTROL_MODEL_STATUS_ONLY : ℤ := 0
def CONTROL_MODEL_DIRECT_NORMAL : ℤ := 1
def CONTROL_MODEL_SBO_NORMAL : ℤ := 2
def CONTROL_MODEL_DIRECT_ENHANCED : ℤ := 3
def CONTROL_MODEL_SBO_ENHANCED : ℤ := 4

/-- `ControlObjectParam`, `ControlObjectParamINC` and `ControlObjectParamAPC`. -/
structure ControlObjectParam (Value : Type) where
  ctlVal : Value
  orIdent : Str := []
  orCat : ℤ := 0
  test : Bool := false
  check : Bool := false
  operateTime : ℕ := 0

/-- The parameters that the setters put into the control object. -/
def ControlObjectParam.parameters {Value : Type} (param : ControlObjectParam Value) :
    CommandParameters where
  orIdent := if param.orIdent = [] then none else some (cString param.orIdent)
  orCat := cInt param.orCat
  interlockCheck := param.check
  synchroCheck := param.check
  testMode := param.test

/-- The calls of the setters. -/
def setterCalls (controlModel : ℤ) (parameters : CommandParameters) : List (ControlEvent F) :=
  [.setControlModel controlModel,
    .setOrigin parameters.orIdent parameters.orCat,
    .setInterlockCheck parameters.interlockCheck,
    .setSynchroCheck parameters.synchroCheck,
    .setTestMode parameters.testMode]

/-- The switch over the control model: what is called, and whether to go on. -/
def selectPhase (lib : ControlLibrary F) (controlModel : ℤ) (control : ControlObject)
    (ctlVal : CtlVal F) : List (ControlEvent F) × Bool :=
  if controlModel = CONTROL_MODEL_SBO_NORMAL then
    ([.select control (lib.select control)], lib.select control)
  else if controlModel = CONTROL_MODEL_DIRECT_ENHANCED then
    ([.setCommandTerminationHandler], true)
  else if controlModel = CONTROL_MODEL_SBO_ENHANCED then
    ([.setCommandTerminationHandler,
      .selectWithValue control ctlVal (lib.selectWithValue control ctlVal)],
      lib.selectWithValue control ctlVal)
  else ([], true)

/-- The part that the three functions share: select, set the parameters, operate. -/
def controlSequence {Value : Type} (lib : ControlLibrary F) (controlModel : ℤ)
    (param : ControlObjectParam Value) (control : ControlObject) (ctlVal : CtlVal F)
    (operTime : ℕ) : ControlResult F :=
  let (selected, goesOn) := selectPhase lib controlModel control ctlVal
  if goesOn then
    let control : ControlObject := { ctlModel := controlModel, parameters := param.parameters }
    let success := lib.operate control ctlVal operTime
    { events := selected ++ setterCalls controlModel param.parameters ++
        [.operate control ctlVal operTime success]
      error := if success then none else some .controlObjectFail }
  else { events := selected, error := some .controlSelectFail }

def controlByControlModelINC (lib : ControlLibrary F) (objectRef : Str) (controlModel : ℤ)
    (param : ControlObjectParam ℤ) : ControlResult F :=
  match lib.create (cString objectRef) with
  | none => { events := [], error := some .createControlObjectClientFail }
  | some control =>
      controlSequence lib controlModel param control (.integer (cInt param.ctlVal)) 0

def controlByControlModelAPC (lib : ControlLibrary F) (objectRef : Str) (controlModel : ℤ)
    (param : ControlObjectParam F) : ControlResult F :=
  match lib.create (cString objectRef) with
  | none => { events := [], error := some .createControlObjectClientFail }
  | some control => controlSequence lib controlModel param control (.float param.ctlVal) 0

/-- Unlike its copies it passes the operate time on and destroys the object. -/
def controlByControlModel (lib : ControlLibrary F) (objectRef : Str) (controlModel : ℤ)
    (param : ControlObjectParam Bool) : ControlResult F :=
  match lib.create (cString objectRef) with
  | none => { events := [], error := some .createControlObjectClientFail }
  | some control =>
      let result := controlSequence lib controlModel param control (.boolean param.ctlVal)
        param.operateTime
      { result with events := result.events ++ [.destroy] }

/-! ## What a sequence has to keep -/

/-- A select on the control object has succeeded. -/
def ControlEvent.selects : ControlEvent F → Bool
  | .select _ success | .selectWithValue _ _ success => success
  | _ => false

/-- Every operate under an SBO control model comes after a successful select, and
with enhanced security it carries the parameters of the select. -/
structure SelectsBeforeOperate (controlModel : ℤ) (events : List (ControlEvent F)) : Prop where
  selected : controlModel = CONTROL_MODEL_SBO_NORMAL ∨
      controlModel = CONTROL_MODEL_SBO_ENHANCED →
    ∀ before control ctlVal operTime success after,
      events = before ++ .operate control ctlVal operTime success :: after →
        ∃ event ∈ before, event.selects = true
  sameParameters : controlModel = CONTROL_MODEL_SBO_ENHANCED →
    ∀ before control ctlVal operTime success after,
      events = before ++ .operate control ctlVal operTime success :: after →
        ∀ selected selectedVal selectSuccess,
          .selectWithValue selected selectedVal selectSuccess ∈ before →
            selected.parameters = control.parameters

/-- The object has been created with the parameters of the command, as far as it
comes to a select with value. -/
def CreatedWithParameters (lib : ControlLibrary F) (objectRef : Str) (controlModel : ℤ)
    (ctlVal : CtlVal F) (parameters : CommandParameters) : Prop :=
  controlModel = CONTROL_MODEL_SBO_ENHANCED → ∀ control,
    lib.create (cString objectRef) = some control →
      lib.selectWithValue control ctlVal = true → control.parameters = parameters

/-! ## The calls of one sequence -/

def ControlEvent.isOperate : ControlEvent F → Bool
  | .operate _ _ _ _ => true
  | _ => false

/-- A list with one operate in it is split there. -/
theorem eq_of_split_at_operate {selected tail before after : List (ControlEvent F)}
    {operate operate' : ControlEvent F} (hselected : ∀ e ∈ selected, e.isOperate = false)
    (htail : ∀ e ∈ tail, e.isOperate = false) (hoperate : operate'.isOperate = true)
    (h : selected ++ operate :: tail = before ++ operate' :: after) :
    before = selected ∧ operate' = operate := by
  induction selected generalizing before with
  | nil =>
      cases before with
      | nil =>
          obtain ⟨rfl, -⟩ := List.cons.inj h
          exact ⟨rfl, rfl⟩
      | cons first rest =>
          obtain ⟨-, hrest⟩ := List.cons.inj h
          have hmem : operate' ∈ tail := by simp [hrest]
          rw [htail operate' hmem] at hoperate
          cases hoperate
  | cons event events ih =>
      cases before with
      | nil =>
          obtain ⟨rfl, -⟩ := List.cons.inj h
          rw [hselected event (by simp)] at hoperate
          cases hoperate
      | cons first rest =>
          obtain ⟨rfl, hrest⟩ := List.cons.inj h
          obtain ⟨rfl, rfl⟩ := ih (fun e he => hselected e (by simp [he])) hrest
          exact ⟨rfl, rfl⟩

theorem selectsBeforeOperate_of_not_operated {controlModel : ℤ}
    {events : List (ControlEvent F)} (h : ∀ e ∈ events, e.isOperate = false) :
    SelectsBeforeOperate controlModel events := by
  have hnever (before : List (ControlEvent F)) (control : ControlObject) (ctlVal : CtlVal F)
      (operTime : ℕ) (success : Bool) (after : List (ControlEvent F)) :
      events ≠ before ++ .operate control ctlVal operTime success :: after := by
    rintro rfl
    have hoperate := h (.operate control ctlVal operTime success) (by simp)
    cases hoperate
  constructor
  · intro _ before control ctlVal operTime success after hsplit
    exact absurd hsplit (hnever before control ctlVal operTime success after)
  · intro _ before control ctlVal operTime success after hsplit
    exact absurd hsplit (hnever before control ctlVal operTime success after)

section SelectPhase

variable {lib : ControlLibrary F} {controlModel : ℤ} {control : ControlObject}
  {ctlVal : CtlVal F}

theorem selectPhase_sboNormal :
    selectPhase lib CONTROL_MODEL_SBO_NORMAL control ctlVal =
      ([.select control (lib.select control)], lib.select control) := rfl

theorem selectPhase_sboEnhanced :
    selectPhase lib CONTROL_MODEL_SBO_ENHANCED control ctlVal =
      ([.setCommandTerminationHandler,
        .selectWithValue control ctlVal (lib.selectWithValue control ctlVal)],
        lib.selectWithValue control ctlVal) := rfl

theorem not_isOperate_of_selectPhase :
    ∀ e ∈ (selectPhase lib controlModel control ctlVal).1, e.isOperate = false := by
  unfold selectPhase
  repeat' split
  all_goals simp [ControlEvent.isOperate]

theorem not_isOperate_of_setterCalls {parameters : CommandParameters} :
    ∀ e ∈ (setterCalls controlModel parameters : List (ControlEvent F)),
      e.isOperate = false := by
  simp [setterCalls, ControlEvent.isOperate]

theorem destroy_not_mem_selectPhase :
    .destroy ∉ (selectPhase lib controlModel control ctlVal).1 := by
  unfold selectPhase
  repeat' split
  all_goals simp

/-- Under an SBO control model the sequence goes on after a successful select. -/
theorem exists_selects_of_selectPhase
    (hsbo : controlModel = CONTROL_MODEL_SBO_NORMAL ∨ controlModel = CONTROL_MODEL_SBO_ENHANCED)
    (hgoesOn : (selectPhase lib controlModel control ctlVal).2 = true) :
    ∃ e ∈ (selectPhase lib controlModel control ctlVal).1, e.selects = true := by
  rcases hsbo with rfl | rfl
  · rw [selectPhase_sboNormal] at hgoesOn ⊢
    exact ⟨_, List.mem_cons_self .., hgoesOn⟩
  · rw [selectPhase_sboEnhanced] at hgoesOn ⊢
    exact ⟨_, List.mem_cons_of_mem _ (List.mem_cons_self ..), hgoesOn⟩

end SelectPhase

theorem destroy_not_mem_controlSequence {Value : Type} (lib : ControlLibrary F)
    (controlModel : ℤ) (param : ControlObjectParam Value) (control : ControlObject)
    (ctlVal : CtlVal F) (operTime : ℕ) :
    .destroy ∉ (controlSequence lib controlModel param control ctlVal operTime).events := by
  unfold controlSequence
  cases hgoesOn : (selectPhase lib controlModel control ctlVal).2 with
  | false => simp [hgoesOn, destroy_not_mem_selectPhase]
  | true => simp [hgoesOn, destroy_not_mem_selectPhase, setterCalls]

/-- Of the three functions only the first gives the control object back. -/
theorem destroy_mem_iff (lib : ControlLibrary F) (objectRef : Str) (controlModel : ℤ)
    (param : ControlObjectParam Bool) (paramINC : ControlObjectParam ℤ)
    (paramAPC : ControlObjectParam F) :
    (.destroy ∈ (controlByControlModel lib objectRef controlModel param).events ↔
      lib.create (cString objectRef) ≠ none) ∧
    .destroy ∉ (controlByControlModelINC lib objectRef controlModel paramINC).events ∧
    .destroy ∉ (controlByControlModelAPC lib objectRef controlModel paramAPC).events := by
  unfold controlByControlModel controlByControlModelINC controlByControlModelAPC
  cases lib.create (cString objectRef) with
  | none => simp
  | some control => simp [destroy_not_mem_controlSequence]

/-- A sequence, with what the caller does after it, keeps its promise if and only
if the object has been created with the parameters of the command. -/
theorem selectsBeforeOperate_controlSequence_iff {Value : Type} (lib : ControlLibrary F)
    (controlModel : ℤ) (param : ControlObjectParam Value) (control : ControlObject)
    (ctlVal : CtlVal F) (operTime : ℕ) {tail : List (ControlEvent F)}
    (htail : ∀ e ∈ tail, e.isOperate = false) :
    SelectsBeforeOperate controlModel
        ((controlSequence lib controlModel param control ctlVal operTime).events ++ tail) ↔
      (controlModel = CONTROL_MODEL_SBO_ENHANCED →
        lib.selectWithValue control ctlVal = true → control.parameters = param.parameters) := by
  unfold controlSequence
  have hselected := @not_isOperate_of_selectPhase F lib controlModel control ctlVal
  have hbefore : ∀ e ∈ (selectPhase lib controlModel control ctlVal).1 ++
      setterCalls controlModel param.parameters, e.isOperate = false := by
    intro e he
    rcases List.mem_append.mp he with he | he
    · exact hselected e he
    · exact not_isOperate_of_setterCalls e he
  cases hgoesOn : (selectPhase lib controlModel control ctlVal).2 with
  | false =>
      simp only [hgoesOn, Bool.false_eq_true, if_false]
      refine iff_of_true (selectsBeforeOperate_of_not_operated fun e he => ?_) ?_
      · exact (List.mem_append.mp he).elim (hselected e) (htail e)
      · rintro rfl hsuccess
        have hfailed : lib.selectWithValue control ctlVal = false := hgoesOn
        rw [hfailed] at hsuccess
        cases hsuccess
  | true =>
      simp only [hgoesOn, if_true]
      rw [List.append_assoc, List.singleton_append]
      constructor
      · rintro hkeeps rfl hsuccess
        refine hkeeps.sameParameters rfl _ _ _ _ _ _ rfl control ctlVal
          (lib.selectWithValue control ctlVal) ?_
        rw [selectPhase_sboEnhanced]
        simp
      · intro hsame
        constructor
        · intro hsbo before object value time success after hsplit
          obtain ⟨rfl, -⟩ := eq_of_split_at_operate hbefore htail rfl hsplit
          obtain ⟨e, he, hselects⟩ := exists_selects_of_selectPhase hsbo hgoesOn
          exact ⟨e, List.mem_append_left _ he, hselects⟩
        · rintro rfl before object value time success after hsplit selected selectedVal
            selectSuccess hmem
          obtain ⟨rfl, hoperate⟩ := eq_of_split_at_operate hbefore htail rfl hsplit
          obtain ⟨rfl, -⟩ := ControlEvent.operate.inj hoperate
          rw [selectPhase_sboEnhanced] at hmem hgoesOn
          simp only [setterCalls, List.mem_append, List.mem_cons,
            ControlEvent.selectWithValue.injEq, List.not_mem_nil, or_false, reduceCtorEq,
            false_or] at hmem
          obtain ⟨rfl, -⟩ := hmem
          exact hsame rfl hgoesOn

/-- The same for a function that creates the object first. -/
theorem selectsBeforeOperate_create_iff {Value : Type} {lib : ControlLibrary F}
    {objectRef : Str} {controlModel : ℤ} {param : ControlObjectParam Value}
    {ctlVal : CtlVal F} {events : List (ControlEvent F)} (operTime : ℕ)
    (tail : List (ControlEvent F)) (htail : ∀ e ∈ tail, e.isOperate = false)
    (hnone : lib.create (cString objectRef) = none → events = [])
    (hsome : ∀ control, lib.create (cString objectRef) = some control →
      events =
        (controlSequence lib controlModel param control ctlVal operTime).events ++ tail) :
    SelectsBeforeOperate controlModel events ↔
      CreatedWithParameters lib objectRef controlModel ctlVal param.parameters := by
  unfold CreatedWithParameters
  cases hcreate : lib.create (cString objectRef) with
  | none =>
      rw [hnone hcreate]
      exact iff_of_true (selectsBeforeOperate_of_not_operated (by simp)) (by simp)
  | some control =>
      rw [hsome control hcreate,
        selectsBeforeOperate_controlSequence_iff lib controlModel param control ctlVal operTime
          htail]
      simp

/-- In each of the three functions, whatever the library calls come to: operate
comes after a successful select with the same parameters if and only if the
control object is created with the parameters of the command (or no select with
value succeeds). -/
theorem control_sequences_keep_iff (lib : ControlLibrary F) (objectRef : Str)
    (controlModel : ℤ) :
    (∀ param : ControlObjectParam Bool,
      SelectsBeforeOperate controlModel
          (controlByControlModel lib objectRef controlModel param).events ↔
        CreatedWithParameters lib objectRef controlModel (.boolean param.ctlVal)
          param.parameters) ∧
    (∀ param : ControlObjectParam ℤ,
      SelectsBeforeOperate controlModel
          (controlByControlModelINC lib objectRef controlModel param).events ↔
        CreatedWithParameters lib objectRef controlModel (.integer (cInt param.ctlVal))
          param.parameters) ∧
    ∀ param : ControlObjectParam F,
      SelectsBeforeOperate controlModel
          (controlByControlModelAPC lib objectRef controlModel param).events ↔
        CreatedWithParameters lib objectRef controlModel (.float param.ctlVal)
          param.parameters := by
  refine ⟨fun param => ?_, fun param => ?_, fun param => ?_⟩
  · refine selectsBeforeOperate_create_iff param.operateTime [.destroy]
      (by simp [ControlEvent.isOperate]) (fun hnone => ?_) fun control hcreate => ?_
    · simp [controlByControlModel, hnone]
    · simp only [controlByControlModel, hcreate]
  · refine selectsBeforeOperate_create_iff 0 [] (by simp) (fun hnone => ?_)
      fun control hcreate => ?_
    · simp [controlByControlModelINC, hnone]
    · simp only [controlByControlModelINC, hcreate, List.append_nil]
  · refine selectsBeforeOperate_create_iff 0 [] (by simp) (fun hnone => ?_)
      fun control hcreate => ?_
    · simp [controlByControlModelAPC, hnone]
    · simp only [controlByControlModelAPC, hcreate, List.append_nil]

/-- A control object as a library may create it, and calls that all succeed. -/
def sampleControlLibrary : ControlLibrary Unit where
  create _ := some {
    ctlModel := CONTROL_MODEL_SBO_ENHANCED
    parameters := {
      orIdent := none
      orCat := 0
      interlockCheck := false
      synchroCheck := false
      testMode := false } }
  select _ := true
  selectWithValue _ _ := true
  operate _ _ _ := true

/-- The value is selected for real and then operated as a test. -/
theorem test_flag_set_after_select :
    ¬ SelectsBeforeOperate CONTROL_MODEL_SBO_ENHANCED
      (controlByControlModel sampleControlLibrary (lit "LD0/GGIO1.SPCSO1")
        CONTROL_MODEL_SBO_ENHANCED { ctlVal := true, test := true }).events := by
  intro h
  have hsame := h.sameParameters rfl [_, _, _, _, _, _, _] _ _ _ _ _ rfl _ (.boolean true) true
    (List.mem_cons_of_mem _ (List.mem_cons_self ..))
  cases hsame

end Iec61850.Mms
