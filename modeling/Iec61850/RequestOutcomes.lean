import Iec61850.ClientRequests

/-!
# What requests come to

A request that runs alone returns what the model of its function computes from the answers
of the server.
-/

namespace Iec61850.Mms

open Go Handles Handles.Calls

variable {Float Other : Type}

/-! ## Directories -/

def NamesAnswer.result (answer : NamesAnswer) : Except IedError (List CBytes × Bool) :=
  match getIedClientError answer.clientError with
  | some err => .error err
  | none => .ok (answer.list.getD [], answer.isDeletable)

namespace Client

variable (conv : Conversions Float Other)
  (answers : (query : LibraryQuery Float) → LibraryAnswer Float query)

theorem outcome_askThen {α : Type} (query : LibraryQuery Float)
    (f : LibraryAnswer Float query → RequestCalls Float α) :
    (ask query >>= f).outcome answers = (f (answers query)).outcome answers := rfl

theorem outcome_withString {α : Type} (body : RequestCalls Float α) :
    (withMade .string fun cStr => do touch cStr; body : RequestCalls Float α).outcome answers =
      body.outcome answers := by
  simp

theorem outcome_names (query : NamesQuery) :
    (names conv query).outcome answers = some ((answers (.names query)).result.map
      fun listed => (listed.1.map conv.c2GoStr, listed.2)) := by
  refine (outcome_askThen answers (.names query) _).trans ?_
  unfold NamesAnswer.result
  cases (answers (.names query)).list with
  | none => cases getIedClientError (answers (.names query)).clientError <;> rfl
  | some listed =>
      cases getIedClientError (answers (.names query)).clientError <;>
        simp [Except.map]

theorem outcome_namesOf (query : NamesQuery) :
    (namesOf conv query).outcome answers = some ((answers (.names query)).result.map
      fun listed => (listed.1.map conv.c2GoStr, listed.2)) :=
  (outcome_withString answers _).trans (outcome_names conv answers query)

end Client

/-- A Go error with the text of the error code. -/
def goResult {α : Type} : Except IedError α → Outcome α
  | .ok a => .ok a
  | .error err => .error (.error (lit err.text))

section

variable (conv : Conversions Float Other)
  (answers : (query : LibraryQuery Float) → LibraryAnswer Float query)

/-- The directory requests of the model are answered as the calls are. -/
def directoryServer (functionalConstraintFromString : Str → ℤ)
    (deviceModelFromServer : Except IedError Unit) : DirectoryServer where
  go2CStr := conv.go2CStr
  c2GoStr := conv.c2GoStr
  functionalConstraintFromString := functionalConstraintFromString
  deviceModelFromServer := deviceModelFromServer
  logicalDeviceList := (answers (.names .logicalDeviceList)).result.map Prod.fst
  logicalDeviceDirectory logicalDeviceName :=
    (answers (.names (.logicalDeviceDirectory logicalDeviceName))).result.map Prod.fst
  logicalNodeDirectory logicalNodeReference acsiClass :=
    (answers (.names (.logicalNodeDirectory logicalNodeReference acsiClass))).result.map Prod.fst
  dataSetDirectory dataSetReference :=
    (answers (.names (.dataSetDirectory dataSetReference))).result
  dataDirectoryFC dataObjectReference :=
    (answers (.names (.dataDirectoryFC dataObjectReference))).result.map Prod.fst

variable (fcOf : Str → ℤ) (loaded : Except IedError Unit)

/-- What a request that lists names returns, and what the model does. -/
def ListsAlike {α : Type} (calls : RequestCalls Float (Except IedError α)) (modelled : Outcome α) :
    Prop :=
  ∃ result, calls.outcome answers = some result ∧ modelled = goResult result

theorem listsAlike {calls : RequestCalls Float (Except IedError (List Str × Bool))}
    {query : NamesQuery} (hcalls : calls.outcome answers = some ((answers (.names query)).result.map
      fun listed => (listed.1.map conv.c2GoStr, listed.2))) :
    ListsAlike answers (do let answer ← calls; return answer.map Prod.fst)
      ((directoryServer conv answers fcOf loaded).names
        ((answers (.names query)).result.map Prod.fst)) := by
  refine ⟨_, (outcome_andThen answers calls _).trans (by rw [hcalls]; rfl), ?_⟩
  cases (answers (.names query)).result <;> rfl

theorem getLogicalDeviceList_alike :
    ListsAlike answers (Client.getLogicalDeviceList conv)
      (directoryServer conv answers fcOf loaded).getLogicalDeviceList :=
  listsAlike conv answers fcOf loaded (Client.outcome_names conv answers _)

theorem getLogicalDeviceDirectory_alike (logicalDeviceName : Str) :
    ListsAlike answers (Client.getLogicalDeviceDirectory conv logicalDeviceName)
      ((directoryServer conv answers fcOf loaded).getLogicalDeviceDirectory logicalDeviceName) :=
  listsAlike conv answers fcOf loaded (Client.outcome_namesOf conv answers _)

theorem getLogicalNodeDirectory_alike (logicalNodeReference : Str) (acsiClass : ACSIClass) :
    ListsAlike answers (Client.getLogicalNodeDirectory conv logicalNodeReference acsiClass)
      ((directoryServer conv answers fcOf loaded).getLogicalNodeDirectory logicalNodeReference
        acsiClass) :=
  listsAlike conv answers fcOf loaded (Client.outcome_namesOf conv answers _)

theorem getDataDirectoryFC_alike (dataObjectReference : Str) :
    ListsAlike answers (Client.getDataDirectoryFC conv dataObjectReference)
      ((directoryServer conv answers fcOf loaded).getDataDirectoryFC dataObjectReference) :=
  listsAlike conv answers fcOf loaded (Client.outcome_namesOf conv answers _)

theorem getDataSetDirectory_alike (dataSetReference : Str) :
    ListsAlike answers (Client.getDataSetDirectory conv dataSetReference)
      ((directoryServer conv answers fcOf loaded).getDataSetDirectory dataSetReference) := by
  refine ⟨_, Client.outcome_namesOf conv answers _, ?_⟩
  cases hresult : (answers (.names (.dataSetDirectory (conv.go2CStr dataSetReference)))).result <;>
    simp [DirectoryServer.getDataSetDirectory, directoryServer, hresult, goResult, Except.map]

/-! ## Values -/

/-- The reads of the model are answered as the calls are. -/
def dataServer (getVariableSpecification : Str → ℤ → Except Str MmsVariableSpec)
    (errorText : ReadObjectError → Str) : DataServer Float where
  getVariableSpecification := getVariableSpecification
  object objectRef fc := answers (.readObject (cString objectRef) fc)
  errorText := errorText

theorem outcome_readObject (getVariableSpecification : Str → ℤ → Except Str MmsVariableSpec)
    (errorText : ReadObjectError → Str) (objectRef : Str) (fc : ℤ) :
    (Client.readObject objectRef fc).outcome answers =
      some ((dataServer answers getVariableSpecification errorText).readObject objectRef fc) := by
  refine (Client.outcome_withString answers _).trans
    ((Client.outcome_askThen answers (.readObject (cString objectRef) fc) _).trans ?_)
  unfold DataServer.readObject dataServer
  dsimp only
  cases answers (.readObject (cString objectRef) fc) with
  | error err => rfl
  | ok mmsValue =>
      change Calls.outcome answers _ = some (do
        let goVal ← (toGoValue (some mmsValue) mmsValue.type).mapError
          (ReadObjectError.convert objectRef fc)
        pure (MmsValue.mk mmsValue.type goVal))
      dsimp only
      cases toGoValue (some mmsValue) mmsValue.type <;> rfl

/-- The error code counts first. -/
def PointerAnswer.result {Target : Type} (answer : PointerAnswer Target) :
    Except IedError (Option Target) :=
  match getIedClientError answer.clientError with
  | some err => .error err
  | none => .ok answer.pointer

section

variable {objectRef : Str} {fc : ℤ} {request : Except IedError DeliveredSpec}

section Specification

variable {α : Type} {failed : IedError → α} {missing : RequestCalls Float α}
  {body : ℕ → ℕ → DeliveredSpec → RequestCalls Float α}

theorem outcome_withSpecification_error {err : IedError}
    (herror : (answers (.getVariableSpecification (cString objectRef) fc)).result = .error err) :
    (Client.withSpecification objectRef fc failed missing body).outcome answers =
      some (failed err) := by
  refine (Client.outcome_withString answers _).trans
    ((Client.outcome_askThen answers (.getVariableSpecification (cString objectRef) fc) _).trans ?_)
  unfold PointerAnswer.result at herror
  cases hcode : getIedClientError
      (answers (.getVariableSpecification (cString objectRef) fc)).clientError with
  | none =>
      rw [hcode] at herror
      cases herror
  | some err' =>
      rw [hcode] at herror
      obtain rfl := Except.error.inj herror
      cases (answers (.getVariableSpecification (cString objectRef) fc)).pointer <;> rfl

theorem outcome_withSpecification_ok {spec : DeliveredSpec}
    (hok : (answers (.getVariableSpecification (cString objectRef) fc)).result = .ok (some spec)) :
    (Client.withSpecification objectRef fc failed missing body).outcome answers =
      (body 0 0 spec).outcome answers := by
  refine (Client.outcome_withString answers _).trans
    ((Client.outcome_askThen answers (.getVariableSpecification (cString objectRef) fc) _).trans ?_)
  unfold PointerAnswer.result at hok
  cases hcode : getIedClientError
      (answers (.getVariableSpecification (cString objectRef) fc)).clientError with
  | some err =>
      rw [hcode] at hok
      cases hok
  | none =>
      rw [hcode] at hok
      rw [Except.ok.inj hok]
      exact outcome_withMade answers _ _

end Specification

theorem outcome_getVariableSpecType
    (hrequest : (answers (.getVariableSpecification (cString objectRef) fc)).result =
      request.map some) :
    (Client.getVariableSpecType objectRef fc).outcome answers =
      some (getVariableSpecType (request.map DeliveredSpec.variable)) := by
  cases request with
  | error err => exact outcome_withSpecification_error answers hrequest
  | ok spec => exact outcome_withSpecification_ok answers hrequest

theorem outcome_newMmsValue (value : GoArgument Other) (mmsType : MmsType) :
    (Client.newMmsValue conv value mmsType).outcome answers =
      some ((toMmsValue conv.values conv.cast value mmsType).map fun mmsValue =>
        (0, mmsValue)) := by
  unfold Client.newMmsValue
  cases toMmsValue conv.values conv.cast value mmsType with
  | error err => rfl
  | ok mmsValue =>
      by_cases hstring : mmsType = .mmsString
      · simp only [if_pos hstring]
        exact Client.outcome_withString answers _
      · simp only [if_neg hstring]
        rfl

/-- What is written is what the model writes, and so is the error. -/
theorem outcome_writeObject {reply : ℤ} (value : GoArgument Other)
    (hrequest : (answers (.getVariableSpecification (cString objectRef) fc)).result =
      request.map some)
    (hreply : ∀ mmsValue, answers (.writeObject (cString objectRef) fc mmsValue) = reply) :
    (Client.writeObject conv objectRef fc value).outcome answers =
      some (writeObject conv.values conv.cast (request.map DeliveredSpec.variable) reply objectRef
        fc value).1 := by
  unfold Client.writeObject
  rw [outcome_andThen, outcome_getVariableSpecType answers hrequest, Option.bind_some, writeObject]
  cases getVariableSpecType (request.map DeliveredSpec.variable) with
  | error err => rfl
  | ok mmsType =>
      dsimp only
      rw [outcome_andThen, outcome_newMmsValue, Option.bind_some]
      cases toMmsValue conv.values conv.cast value mmsType with
      | error err => rfl
      | ok mmsValue =>
          dsimp only [Except.map]
          rw [outcome_withMade, outcome_thenRelease]
          refine (Client.outcome_askThen answers
            (.writeObject (cString objectRef) fc mmsValue) _).trans ?_
          rw [hreply]
          rfl

end

/-! ## Control -/

/-- The calls on a control object come to what the answers say. -/
def controlLibrary : ControlLibrary Float where
  create objectRef := answers (.createControl objectRef)
  select control := answers (.select control)
  selectWithValue control ctlVal := answers (.selectWithValue control ctlVal)
  operate control ctlVal operTime := answers (.operate control ctlVal operTime)

theorem outcome_selectFirst (controlModel : ℤ) (control ctlVal : ℕ) (object : ControlObject)
    (value : CtlVal Float) :
    (Client.selectFirst controlModel control ctlVal object value).outcome answers =
      some (selectPhase (controlLibrary answers) controlModel object value).2 := by
  unfold Client.selectFirst selectPhase
  split_ifs <;> rfl

theorem outcome_controlCalls {Value : Type} (controlModel : ℤ) (param : ControlObjectParam Value)
    (control : ℕ) (object : ControlObject) (value : CtlVal Float) (operTime : ℕ) :
    (Client.controlCalls controlModel param control object value operTime).outcome answers =
      some (controlSequence (controlLibrary answers) controlModel param object value
        operTime).error := by
  unfold Client.controlCalls controlSequence
  rw [outcome_withMade, outcome_andThen, outcome_selectFirst, Option.bind_some]
  obtain ⟨selected, goesOn⟩ := selectPhase (controlLibrary answers) controlModel object value
  cases goesOn with
  | false => rfl
  | true =>
      simp only [if_true]
      by_cases hident : param.orIdent = []
      · rw [if_pos hident]
        rfl
      · rw [if_neg hident]
        rfl

theorem outcome_controlByControlModelINC (objectRef : Str) (controlModel : ℤ)
    (param : ControlObjectParam ℤ) :
    (Client.controlByControlModelINC objectRef controlModel param).outcome answers =
      some (controlByControlModelINC (controlLibrary answers) objectRef controlModel
        param).error := by
  refine (Client.outcome_withString answers _).trans
    ((Client.outcome_askThen answers (.createControl (cString objectRef)) _).trans ?_)
  unfold controlByControlModelINC controlLibrary
  dsimp only
  cases answers (.createControl (cString objectRef)) with
  | none => rfl
  | some object => exact outcome_controlCalls answers controlModel param 0 object _ _

theorem outcome_controlByControlModelAPC (objectRef : Str) (controlModel : ℤ)
    (param : ControlObjectParam Float) :
    (Client.controlByControlModelAPC objectRef controlModel param).outcome answers =
      some (controlByControlModelAPC (controlLibrary answers) objectRef controlModel
        param).error := by
  refine (Client.outcome_withString answers _).trans
    ((Client.outcome_askThen answers (.createControl (cString objectRef)) _).trans ?_)
  unfold controlByControlModelAPC controlLibrary
  dsimp only
  cases answers (.createControl (cString objectRef)) with
  | none => rfl
  | some object => exact outcome_controlCalls answers controlModel param 0 object _ _

theorem outcome_controlByControlModel (objectRef : Str) (controlModel : ℤ)
    (param : ControlObjectParam Bool) :
    (Client.controlByControlModel objectRef controlModel param).outcome answers =
      some (controlByControlModel (controlLibrary answers) objectRef controlModel param).error := by
  refine (Client.outcome_withString answers _).trans
    ((Client.outcome_askThen answers (.createControl (cString objectRef)) _).trans ?_)
  unfold controlByControlModel controlLibrary
  dsimp only
  cases answers (.createControl (cString objectRef)) with
  | none => rfl
  | some object =>
      exact (outcome_withMade answers _ _).trans
        (outcome_controlCalls answers controlModel param 0 object _ _)

/-! ## Report control blocks -/

theorem outcome_getRCBValues (objectReference : Str) (server : RcbServer)
    (hserver : ∀ values, (answers (.getRCBValues (cString objectReference))).pointer = some values →
      server (cString objectReference) = values) :
    (Client.getRCBValues objectReference).outcome answers =
      some (getRCBValues
        ⟨(answers (.getRCBValues (cString objectReference))).clientError,
          (answers (.getRCBValues (cString objectReference))).pointer.isSome⟩
        objectReference server) := by
  refine (Client.outcome_withString answers _).trans
    ((Client.outcome_askThen answers (.getRCBValues (cString objectReference)) _).trans ?_)
  cases hpointer : (answers (.getRCBValues (cString objectReference))).pointer with
  | none => rfl
  | some values =>
      obtain rfl := hserver values hpointer
      rfl

theorem outcome_writeRCB (request : RcbRequest) (objectReference : Str) (rcb : RcbAttributes)
    (mask : BitVec 32) (server : RcbServer) :
    (Client.writeRCB request objectReference rcb mask).outcome answers =
      some (writeRCB (answers (.setRCBValues (cString objectReference) rcb mask)) request
        objectReference rcb mask server).1 := rfl

end

end Iec61850.Mms
