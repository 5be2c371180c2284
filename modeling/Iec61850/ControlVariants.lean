import Iec61850.ControlSequence
import Mathlib.Data.List.Forall2

/-!
# The copies of the control sequence

The copies of `ControlByControlModel` for integer and analogue values return the same
errors, but they operate at time 0 and never destroy the control object.
-/

namespace Iec61850.Mms

open Go

variable {F Value Value' : Type}

/-- What the calls of one sequence come to, whichever function makes them. -/
structure ControlOutcomes where
  create : Option ControlObject
  select : Bool
  selectWithValue : Bool
  operate : Bool

def ControlOutcomes.library (outcomes : ControlOutcomes) : ControlLibrary F where
  create _ := outcomes.create
  select _ := outcomes.select
  selectWithValue _ _ := outcomes.selectWithValue
  operate _ _ _ := outcomes.operate

/-- The records differ in the control value at most. -/
structure SameRequest (param : ControlObjectParam Value) (param' : ControlObjectParam Value') :
    Prop where
  orIdent : param.orIdent = param'.orIdent
  orCat : param.orCat = param'.orCat
  test : param.test = param'.test
  check : param.check = param'.check
  operateTime : param.operateTime = param'.operateTime

theorem SameRequest.parameters {param : ControlObjectParam Value}
    {param' : ControlObjectParam Value'} (h : SameRequest param param') :
    param.parameters = param'.parameters := by
  unfold ControlObjectParam.parameters
  rw [h.orIdent, h.orCat, h.test, h.check]

/-- The same call with the same arguments, whatever the control value. -/
inductive SameCall : ControlEvent F → ControlEvent F → Prop
  | selectWithValue (object : ControlObject) (ctlVal ctlVal' : CtlVal F) (success : Bool) :
      SameCall (.selectWithValue object ctlVal success) (.selectWithValue object ctlVal' success)
  | operate (object : ControlObject) (ctlVal ctlVal' : CtlVal F) (operTime : ℕ)
      (success : Bool) :
      SameCall (.operate object ctlVal operTime success) (.operate object ctlVal' operTime success)
  | same (event : ControlEvent F) : SameCall event event

def SameCalls (events events' : List (ControlEvent F)) : Prop :=
  List.Forall₂ SameCall events events'

/-- The object is given back, and only once. -/
def DestroyedOnce (events : List (ControlEvent F)) : Prop :=
  ∃ before after, events = before ++ .destroy :: after ∧ .destroy ∉ before ∧ .destroy ∉ after

/-- What is asked of each function for itself. -/
structure ControlKeeps (created : Prop) (operateTime : ℕ) (result : ControlResult F) : Prop where
  operTime : ∀ object ctlVal operTime success,
    .operate object ctlVal operTime success ∈ result.events → operTime = operateTime
  destroyed : created → DestroyedOnce result.events

/-- What is asked of a function and its copy. -/
structure ControlAlike (result result' : ControlResult F) : Prop where
  error : result.error = result'.error
  calls : SameCalls result.events result'.events

/-! ## Two runs of the sequence -/

section

variable (outcomes : ControlOutcomes) (controlModel : ℤ) (control : ControlObject)

theorem SameCalls.refl (events : List (ControlEvent F)) : SameCalls events events :=
  List.forall₂_same.mpr fun event _ => .same event

theorem selectPhase_snd_eq (ctlVal ctlVal' : CtlVal F) :
    (selectPhase outcomes.library controlModel control ctlVal).2 =
      (selectPhase outcomes.library controlModel control ctlVal').2 := by
  unfold selectPhase
  repeat' split
  all_goals rfl

theorem selectPhase_sameCalls (ctlVal ctlVal' : CtlVal F) :
    SameCalls (selectPhase outcomes.library controlModel control ctlVal).1
      (selectPhase outcomes.library controlModel control ctlVal').1 := by
  unfold selectPhase
  repeat' split
  next => exact .refl _
  next => exact .refl _
  next => exact .cons (.same _) (.cons (.selectWithValue control ctlVal ctlVal' _) .nil)
  next => exact .refl _

variable {param : ControlObjectParam Value} {param' : ControlObjectParam Value'}

theorem controlSequence_error_eq (ctlVal ctlVal' : CtlVal F) (operTime operTime' : ℕ) :
    (controlSequence outcomes.library controlModel param control ctlVal operTime).error =
      (controlSequence outcomes.library controlModel param' control ctlVal' operTime').error := by
  have hgoesOn := selectPhase_snd_eq outcomes controlModel control ctlVal ctlVal'
  unfold controlSequence
  simp only [hgoesOn]
  split
  next => rfl
  next => rfl

/-- Runs that end with an operate have the same calls if those before are the same and
the operate is at the same time. -/
theorem sameCalls_append_operate_iff {before before' : List (ControlEvent F)}
    (hbefore : SameCalls before before') (ctlVal ctlVal' : CtlVal F) (operTime operTime' : ℕ)
    (success : Bool) :
    SameCalls (before ++ [.operate control ctlVal operTime success])
        (before' ++ [.operate control ctlVal' operTime' success]) ↔ operTime = operTime' := by
  constructor
  · intro h
    have hreverse := List.rel_reverse h
    rw [List.reverse_append, List.reverse_append] at hreverse
    obtain ⟨hlast, -⟩ := List.forall₂_cons.mp hreverse
    cases hlast with
    | operate => rfl
    | same => rfl
  · rintro rfl
    exact List.rel_append hbefore (.cons (.operate control ctlVal ctlVal' operTime success) .nil)

/-- Two runs make the same calls if they operate at the same time, or not at all. -/
theorem controlSequence_sameCalls_iff (hsame : SameRequest param param')
    (ctlVal ctlVal' : CtlVal F) (operTime operTime' : ℕ) :
    SameCalls
        (controlSequence outcomes.library controlModel param control ctlVal operTime).events
        (controlSequence outcomes.library controlModel param' control ctlVal' operTime').events ↔
      ((selectPhase (F := F) outcomes.library controlModel control ctlVal).2 = true →
        operTime = operTime') := by
  have hgoesOn := selectPhase_snd_eq outcomes controlModel control ctlVal ctlVal'
  have hselected := selectPhase_sameCalls outcomes controlModel control ctlVal ctlVal'
  unfold controlSequence
  rw [← hsame.parameters]
  simp only [← hgoesOn]
  cases hselects : (selectPhase (F := F) outcomes.library controlModel control ctlVal).2 with
  | false => exact iff_of_true hselected fun h => nomatch h
  | true =>
      have hbefore := List.rel_append hselected
        (SameCalls.refl (setterCalls controlModel param.parameters))
      rw [imp_iff_right rfl]
      exact sameCalls_append_operate_iff _ hbefore ctlVal ctlVal' operTime operTime' _

theorem operTime_of_mem_controlSequence {lib : ControlLibrary F} {ctlVal ctlVal' : CtlVal F}
    {operTime operTime' : ℕ} {object : ControlObject} {success : Bool}
    (hmem : .operate object ctlVal' operTime' success ∈
      (controlSequence lib controlModel param control ctlVal operTime).events) :
    operTime' = operTime := by
  have hselected := @not_isOperate_of_selectPhase F lib controlModel control ctlVal
  have hnot : .operate object ctlVal' operTime' success ∉
      (selectPhase lib controlModel control ctlVal).1 :=
    fun hmem => nomatch hselected _ hmem
  unfold controlSequence at hmem
  dsimp only at hmem
  split at hmem
  next =>
    have heq : object = ⟨controlModel, param.parameters⟩ ∧ ctlVal' = ctlVal ∧
        operTime' = operTime ∧
          success = lib.operate ⟨controlModel, param.parameters⟩ ctlVal operTime := by
      simpa [hnot, setterCalls] using hmem
    exact heq.2.2.1
  next => exact absurd hmem hnot

end

/-! ## The three functions -/

/-- The copies behave as the first function, and each operates at the time that is asked
for and destroys its object. -/
structure ControlsAlike (outcomes : ControlOutcomes) (objectRef : Str) (controlModel : ℤ)
    (param : ControlObjectParam Bool) (paramINC : ControlObjectParam ℤ)
    (paramAPC : ControlObjectParam F) : Prop where
  alikeINC : ControlAlike (controlByControlModel outcomes.library objectRef controlModel param)
    (controlByControlModelINC (F := F) outcomes.library objectRef controlModel paramINC)
  alikeAPC : ControlAlike (controlByControlModel outcomes.library objectRef controlModel param)
    (controlByControlModelAPC outcomes.library objectRef controlModel paramAPC)
  keeps : ControlKeeps (F := F) (outcomes.create ≠ none) param.operateTime
    (controlByControlModel outcomes.library objectRef controlModel param)
  keepsINC : ControlKeeps (F := F) (outcomes.create ≠ none) paramINC.operateTime
    (controlByControlModelINC outcomes.library objectRef controlModel paramINC)
  keepsAPC : ControlKeeps (outcomes.create ≠ none) paramAPC.operateTime
    (controlByControlModelAPC outcomes.library objectRef controlModel paramAPC)

section

variable (outcomes : ControlOutcomes) (objectRef : Str) (controlModel : ℤ)
  {param : ControlObjectParam Bool} {paramINC : ControlObjectParam ℤ}
  {paramAPC : ControlObjectParam F}

/-- The first function does what is asked of it. -/
theorem controlByControlModel_keeps :
    ControlKeeps (F := F) (outcomes.create ≠ none) param.operateTime
      (controlByControlModel outcomes.library objectRef controlModel param) := by
  unfold controlByControlModel
  cases hcreate : (outcomes.library (F := F)).create (cString objectRef) with
  | none =>
      constructor
      · intro object ctlVal operTime success hmem
        cases hmem
      · exact fun hcreated => absurd hcreate hcreated
  | some control =>
      constructor
      · intro object ctlVal operTime success hmem
        rcases List.mem_append.mp hmem with hmem | hmem
        · exact operTime_of_mem_controlSequence _ _ hmem
        · simp at hmem
      · intro _
        exact ⟨_, [], rfl, destroy_not_mem_controlSequence _ _ _ _ _ _, List.not_mem_nil⟩

/-- The errors are always the same. -/
theorem control_errors_eq :
    (controlByControlModelINC (F := F) outcomes.library objectRef controlModel paramINC).error =
        (controlByControlModel (F := F) outcomes.library objectRef controlModel param).error ∧
      (controlByControlModelAPC outcomes.library objectRef controlModel paramAPC).error =
        (controlByControlModel (F := F) outcomes.library objectRef controlModel param).error := by
  unfold controlByControlModelINC controlByControlModelAPC controlByControlModel
  cases (outcomes.library (F := F)).create (cString objectRef) with
  | none => exact ⟨rfl, rfl⟩
  | some control =>
      exact ⟨controlSequence_error_eq _ _ _ _ _ _ _, controlSequence_error_eq _ _ _ _ _ _ _⟩

theorem sameCalls_append_destroy_iff {events events' : List (ControlEvent F)} :
    SameCalls (events ++ [.destroy]) (events' ++ [.destroy]) ↔ SameCalls events events' := by
  constructor
  · intro h
    have hreverse := List.rel_reverse h
    rw [List.reverse_append, List.reverse_append] at hreverse
    exact List.forall₂_reverse_iff.mp (List.forall₂_cons.mp hreverse).2
  · exact fun h => List.rel_append h (SameCalls.refl [.destroy])

/-- Up to the missing destroy, a copy makes the calls of the first function if the
operate time is 0, or it does not come to the operate. -/
theorem control_calls_before_destroy_iff {control : ControlObject}
    (hcreate : outcomes.create = some control) (hINC : SameRequest param paramINC)
    (hAPC : SameRequest param paramAPC) :
    (SameCalls
        (controlByControlModel (F := F) outcomes.library objectRef controlModel param).events
        ((controlByControlModelINC outcomes.library objectRef controlModel paramINC).events ++
          [.destroy]) ↔
      ((selectPhase (F := F) outcomes.library controlModel control
        (.boolean param.ctlVal)).2 = true → param.operateTime = 0)) ∧
    (SameCalls
        (controlByControlModel (F := F) outcomes.library objectRef controlModel param).events
        ((controlByControlModelAPC outcomes.library objectRef controlModel paramAPC).events ++
          [.destroy]) ↔
      ((selectPhase (F := F) outcomes.library controlModel control
        (.boolean param.ctlVal)).2 = true → param.operateTime = 0)) := by
  have hlib : (outcomes.library (F := F)).create (cString objectRef) = some control := hcreate
  unfold controlByControlModel controlByControlModelINC controlByControlModelAPC
  rw [hlib]
  constructor
  · exact sameCalls_append_destroy_iff.trans (controlSequence_sameCalls_iff _ _ _ hINC _ _ _ _)
  · exact sameCalls_append_destroy_iff.trans (controlSequence_sameCalls_iff _ _ _ hAPC _ _ _ _)

/-- Whatever the parameters, the three functions behave alike only where no control
object is created. -/
theorem controlByControlModels_alike_iff (param : ControlObjectParam Bool)
    (paramINC : ControlObjectParam ℤ) (paramAPC : ControlObjectParam F) :
    ControlsAlike outcomes objectRef controlModel param paramINC paramAPC ↔
      outcomes.create = none := by
  constructor
  · intro h
    by_contra hcreated
    obtain ⟨before, after, hevents, -, -⟩ := h.keepsINC.destroyed hcreated
    have hnever := (destroy_mem_iff (F := F) outcomes.library objectRef controlModel param paramINC
      paramAPC).2.1
    rw [hevents] at hnever
    exact hnever (List.mem_append_right _ List.mem_cons_self)
  · intro hcreate
    have hlib : (outcomes.library (F := F)).create (cString objectRef) = none := hcreate
    have hkeeps (operateTime : ℕ) : ControlKeeps (F := F) (outcomes.create ≠ none) operateTime
        ⟨[], some .createControlObjectClientFail⟩ := by
      constructor
      · intro object ctlVal operTime success hmem
        cases hmem
      · exact fun hcreated => absurd hcreate hcreated
    have halike : ControlAlike (F := F) ⟨[], some .createControlObjectClientFail⟩
        ⟨[], some .createControlObjectClientFail⟩ := ⟨rfl, .nil⟩
    constructor <;>
      simp only [controlByControlModel, controlByControlModelINC, controlByControlModelAPC, hlib]
    · exact halike
    · exact halike
    · exact hkeeps _
    · exact hkeeps _
    · exact hkeeps _

end

/-! ## A command for a later time -/

/-- A control object is created, and every call on it succeeds. -/
def sampleOutcomes : ControlOutcomes where
  create := (sampleControlLibrary.create [])
  select := true
  selectWithValue := true
  operate := true

def laterCommand (Value : Type) (ctlVal : Value) : ControlObjectParam Value where
  ctlVal := ctlVal
  operateTime := 5

/-- The copy for integers operates at once. -/
theorem laterCommand_not_alike :
    SameRequest (laterCommand Bool true) (laterCommand ℤ 3) ∧
    SameRequest (laterCommand Bool true) (laterCommand Unit ()) ∧
    ¬ ControlsAlike sampleOutcomes (lit "LD0/GGIO1.ISCSO1") CONTROL_MODEL_DIRECT_NORMAL
      (laterCommand Bool true) (laterCommand ℤ 3) (laterCommand Unit ()) := by
  refine ⟨⟨rfl, rfl, rfl, rfl, rfl⟩, ⟨rfl, rfl, rfl, rfl, rfl⟩, ?_⟩
  intro h
  have htime := h.keepsINC.operTime _ (.integer 3) 0 true
    (List.mem_append_right _ List.mem_cons_self)
  exact absurd htime (by decide)

end Iec61850.Mms
