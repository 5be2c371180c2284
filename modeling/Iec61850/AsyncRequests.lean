import Iec61850.ClientErrors
import Iec61850.GoText
import Iec61850.HandleStore
import Iec61850.StepRuns

/-!
# Asynchronous requests of the client

A request stores its handler under a cgo handle and the handle in a block of C
memory, which the library hands back to the callback.  The library rejects a
request at once or calls its callback once, in any order with other requests.
-/

namespace Iec61850.Mms

open Go Handles Transition

/-- The contexts that are stored under a handle; a handler may be `nil`. -/
inductive AsyncContext (NameListHandler VarSpecHandler : Type)
  | nameListCtx (handler : Option NameListHandler)
  | varSpecCtx (handler : Option VarSpecHandler)

/-- The call of the library that starts the request. -/
inductive Service
  | serverDirectory (continueAfter : Str)
  | logicalDeviceVariables (ldName continueAfter : Str)
  | logicalDeviceDataSets (ldName continueAfter : Str)
  | variableSpecification (dataAttributeReference : Str) (fc : ℤ)

def Service.listsNames : Service → Bool
  | .variableSpecification _ _ => false
  | _ => true

/-- The arguments of the callback, without the parameter. -/
inductive Response (Spec : Type)
  | nameList (invokeId : UInt32) (err : ℤ) (nameList : Option (List Str)) (moreFollows : Bool)
  | varSpec (invokeId : UInt32) (err : ℤ) (spec : Option Spec)

/-- A call of the user's handler. -/
inductive Invocation (NameListHandler VarSpecHandler Spec : Type)
  | nameList (handler : NameListHandler) (invokeID : UInt32) (names : List Str)
      (moreFollows : Bool) (err : Option IedError)
  | varSpec (handler : VarSpecHandler) (invokeID : UInt32) (spec : Option Spec)
      (err : Option IedError)

variable {N V Spec : Type}

/-- How far a request has come; while the callback runs, its local variables. -/
inductive Phase (N V Spec : Type)
  | issued
  | rejected (err : ℤ)
  | calling (h : ℕ) (response : Response Spec) (invocation : Option (Invocation N V Spec))
  | returned (response : Response Spec)

structure Request (N V Spec : Type) where
  service : Service
  ctx : AsyncContext N V
  handle : ℕ
  parameter : ℕ
  phase : Phase N V Spec

def Request.goesTo (request : Request N V Spec) (phase : Phase N V Spec) : Request N V Spec :=
  { request with phase := phase }

/-- The handles of the process, the parameter blocks, and the requests. -/
structure AsyncState (N V Spec : Type) where
  handles : Store (AsyncContext N V) := {}
  blocks : Store ℕ := {}
  requests : ℕ → Option (Request N V Spec) := fun _ => none

inductive AsyncStep (N V Spec : Type)
  | getServerDirectoryAsync (r : ℕ) (continueAfter : Str) (handler : Option N)
  | getLogicalDeviceVariablesAsync (r : ℕ) (ldName continueAfter : Str) (handler : Option N)
  | getLogicalDeviceDataSetsAsync (r : ℕ) (ldName continueAfter : Str) (handler : Option N)
  | getVariableSpecificationAsync (r : ℕ) (dataAttributeReference : Str) (fc : ℤ)
      (handler : Option V)
  | reject (r : ℕ) (err : ℤ)
  | callback (r : ℕ) (response : Response Spec)
  | callbackReturns (r : ℕ)

namespace AsyncState

def setRequest (s : AsyncState N V Spec) (r : ℕ) (request : Request N V Spec) :
    ℕ → Option (Request N V Spec) :=
  Function.update s.requests r (some request)

/-! ## Starting a request -/

/-- `cgo.NewHandle`, `storeHandleInC` and the call of the library. -/
def startRequest (s : AsyncState N V Spec) (r : ℕ) (service : Service)
    (ctx : AsyncContext N V) : AsyncState N V Spec where
  handles := s.handles.make ctx
  blocks := s.blocks.make s.handles.next
  requests := s.setRequest r {
    service := service
    ctx := ctx
    handle := s.handles.next
    parameter := s.blocks.next
    phase := .issued }

def getServerDirectoryAsync (s : AsyncState N V Spec) (r : ℕ) (continueAfter : Str)
    (handler : Option N) : AsyncState N V Spec :=
  s.startRequest r (.serverDirectory continueAfter) (.nameListCtx handler)

def getLogicalDeviceVariablesAsync (s : AsyncState N V Spec) (r : ℕ)
    (ldName continueAfter : Str) (handler : Option N) : AsyncState N V Spec :=
  s.startRequest r (.logicalDeviceVariables ldName continueAfter) (.nameListCtx handler)

def getLogicalDeviceDataSetsAsync (s : AsyncState N V Spec) (r : ℕ)
    (ldName continueAfter : Str) (handler : Option N) : AsyncState N V Spec :=
  s.startRequest r (.logicalDeviceDataSets ldName continueAfter) (.nameListCtx handler)

def getVariableSpecificationAsync (s : AsyncState N V Spec) (r : ℕ)
    (dataAttributeReference : Str) (fc : ℤ) (handler : Option V) : AsyncState N V Spec :=
  s.startRequest r (.variableSpecification dataAttributeReference fc) (.varSpecCtx handler)

/-- The library has set `clientError`, and the function gives up. -/
def reject (s : AsyncState N V Spec) (r : ℕ) (request : Request N V Spec) (err : ℤ) :
    AsyncState N V Spec where
  handles := s.handles.release request.handle
  blocks := s.blocks.release request.parameter
  requests := s.setRequest r (request.goesTo (.rejected err))

/-! ## The callback -/

/-- The handle in the block; zero without a block. -/
def recoverHandle (s : AsyncState N V Spec) (parameter : Option ℕ) : ℕ :=
  match parameter with
  | none => 0
  | some p => (s.blocks.contents p).getD 0

def nameListHandler (s : AsyncState N V Spec) (h : ℕ) : Option N :=
  match s.handles.contents h with
  | some (.nameListCtx (some handler)) => some handler
  | _ => none

def varSpecHandler (s : AsyncState N V Spec) (h : ℕ) : Option V :=
  match s.handles.contents h with
  | some (.varSpecCtx (some handler)) => some handler
  | _ => none

/-- The call of the user's handler, if there is one. -/
def invocation (s : AsyncState N V Spec) (h : ℕ) (response : Response Spec) :
    Option (Invocation N V Spec) :=
  match response with
  | .nameList invokeId err nameList moreFollows =>
      (s.nameListHandler h).map fun handler =>
        .nameList handler invokeId (nameList.getD []) moreFollows (getIedClientError err)
  | .varSpec invokeId err spec =>
      (s.varSpecHandler h).map fun handler =>
        .varSpec handler invokeId spec (getIedClientError err)

/-- The callback up to the point where the user's handler runs. -/
def callback (s : AsyncState N V Spec) (r : ℕ) (request : Request N V Spec)
    (response : Response Spec) : AsyncState N V Spec :=
  let h := s.recoverHandle (some request.parameter)
  { handles := if h ≠ 0 then s.handles.use h else s.handles
    blocks := s.blocks.use request.parameter
    requests := s.setRequest r
      (request.goesTo (.calling h response (s.invocation h response))) }

/-- The end of `nameListCallbackFunctionBridge` or of `varSpecCallbackFunctionBridge`. -/
def callbackReturns (s : AsyncState N V Spec) (r : ℕ) (request : Request N V Spec) (h : ℕ)
    (response : Response Spec) : AsyncState N V Spec :=
  let requests := s.setRequest r (request.goesTo (.returned response))
  match response with
  | .nameList _ err _ moreFollows =>
      if h ≠ 0 ∧ (moreFollows = false ∨ (getIedClientError err).isSome = true) then
        { handles := s.handles.release h
          blocks := s.blocks.release request.parameter
          requests := requests }
      else { s with requests := requests }
  | .varSpec _ _ _ =>
      { handles := if h ≠ 0 then s.handles.release h else s.handles
        blocks := s.blocks.release request.parameter
        requests := requests }

end AsyncState

/-- The library answers with the callback that belongs to the service. -/
def Service.answeredBy (service : Service) : Response Spec → Bool
  | .nameList _ _ _ _ => service.listsNames
  | .varSpec _ _ _ => !service.listsNames

/-- A new request takes a number that no other has; the library rejects or
answers a request that has been issued, and a callback that runs returns. -/
def asyncStep (s : AsyncState N V Spec) :
    AsyncStep N V Spec → Option (AsyncState N V Spec)
  | .getServerDirectoryAsync r continueAfter handler =>
      if (s.requests r).isNone then some (s.getServerDirectoryAsync r continueAfter handler)
      else none
  | .getLogicalDeviceVariablesAsync r ldName continueAfter handler =>
      if (s.requests r).isNone then
        some (s.getLogicalDeviceVariablesAsync r ldName continueAfter handler)
      else none
  | .getLogicalDeviceDataSetsAsync r ldName continueAfter handler =>
      if (s.requests r).isNone then
        some (s.getLogicalDeviceDataSetsAsync r ldName continueAfter handler)
      else none
  | .getVariableSpecificationAsync r dataAttributeReference fc handler =>
      if (s.requests r).isNone then
        some (s.getVariableSpecificationAsync r dataAttributeReference fc handler)
      else none
  | .reject r err =>
      match s.requests r with
      | some request =>
          match request.phase with
          | .issued =>
              if (getIedClientError err).isSome then some (s.reject r request err) else none
          | _ => none
      | none => none
  | .callback r response =>
      match s.requests r with
      | some request =>
          match request.phase with
          | .issued =>
              if request.service.answeredBy response then some (s.callback r request response)
              else none
          | _ => none
      | none => none
  | .callbackReturns r =>
      match s.requests r with
      | some request =>
          match request.phase with
          | .calling h response _ => some (s.callbackReturns r request h response)
          | _ => none
      | none => none

/-! ## Who has to release -/

/-- A page of names that is not the last one. -/
def Response.continues : Response Spec → Bool
  | .nameList _ err _ moreFollows => moreFollows && (getIedClientError err).isNone
  | .varSpec _ _ _ => false

/-- The library is done with the request, and so is the callback. -/
def Request.Finished (request : Request N V Spec) : Prop :=
  match request.phase with
  | .rejected _ | .returned _ => True
  | _ => False

/-- The handle and the block have not been released. -/
def Request.Keeps (request : Request N V Spec) : Prop :=
  match request.phase with
  | .issued | .calling _ _ _ => True
  | .rejected _ => False
  | .returned response => response.continues = true

/-- A callback that runs has recovered the handle of its request. -/
def Request.Recovered (request : Request N V Spec) : Prop :=
  match request.phase with
  | .calling h response _ => h = request.handle ∧ request.service.answeredBy response = true
  | _ => True

/-- Each request has its own handle and block, which are there as long as the
request keeps them, and have been released once afterwards. -/
structure RequestInvariant (s : AsyncState N V Spec) (request : Request N V Spec) : Prop where
  kept : request.Keeps →
    s.handles.Holds request.handle request.ctx ∧ s.blocks.Holds request.parameter request.handle
  released : ¬ request.Keeps →
    s.handles.Released request.handle ∧ s.blocks.Released request.parameter
  nonzero : request.handle ≠ 0
  recovered : request.Recovered

structure AsyncInvariant (s : AsyncState N V Spec) : Prop where
  handles : s.handles.Fresh
  blocks : s.blocks.Fresh
  requests : ∀ r request, s.requests r = some request → RequestInvariant s request
  apart : ∀ r r' request request', s.requests r = some request →
    s.requests r' = some request' → r ≠ r' →
    request.handle ≠ request'.handle ∧ request.parameter ≠ request'.parameter
  unmisused : s.handles.misused = false ∧ s.blocks.misused = false

variable {s s' : AsyncState N V Spec} {r : ℕ} {request : Request N V Spec}

theorem RequestInvariant.made (h : RequestInvariant s request) :
    request.handle ≤ s.handles.made ∧ request.parameter ≤ s.blocks.made := by
  by_cases hkeeps : request.Keeps
  · obtain ⟨hhandle, hblock⟩ := h.kept hkeeps
    exact ⟨hhandle.made, hblock.made⟩
  · obtain ⟨hhandle, hblock⟩ := h.released hkeeps
    exact ⟨hhandle.made, hblock.made⟩

/-- The stores change, but not where this request has something. -/
theorem RequestInvariant.mono (h : RequestInvariant s request)
    (hholds : ∀ value, s.handles.Holds request.handle value →
      s'.handles.Holds request.handle value)
    (hblocks : ∀ value, s.blocks.Holds request.parameter value →
      s'.blocks.Holds request.parameter value)
    (hreleased : s.handles.Released request.handle → s'.handles.Released request.handle)
    (hfreed : s.blocks.Released request.parameter → s'.blocks.Released request.parameter) :
    RequestInvariant s' request where
  kept hkeeps := ⟨hholds _ (h.kept hkeeps).1, hblocks _ (h.kept hkeeps).2⟩
  released hkeeps := ⟨hreleased (h.released hkeeps).1, hfreed (h.released hkeeps).2⟩
  nonzero := h.nonzero
  recovered := h.recovered

theorem asyncInvariant_empty : AsyncInvariant ({} : AsyncState N V Spec) where
  handles := Store.fresh_empty
  blocks := Store.fresh_empty
  requests := fun _ _ hrequest => by cases hrequest
  apart := fun _ _ _ _ hrequest => by cases hrequest
  unmisused := ⟨rfl, rfl⟩

/-- One request is new or has changed. -/
theorem AsyncInvariant.update (h : AsyncInvariant s) {handles : Store (AsyncContext N V)}
    {blocks : Store ℕ} {request' : Request N V Spec}
    (hhandles : handles.Fresh) (hblocks : blocks.Fresh)
    (hunmisused : handles.misused = false ∧ blocks.misused = false)
    (hown : RequestInvariant
      { handles := handles, blocks := blocks, requests := s.setRequest r request' } request')
    (hothers : ∀ r' other, r' ≠ r → s.requests r' = some other →
      RequestInvariant
          { handles := handles, blocks := blocks, requests := s.setRequest r request' } other ∧
        other.handle ≠ request'.handle ∧ other.parameter ≠ request'.parameter) :
    AsyncInvariant
      { handles := handles, blocks := blocks, requests := s.setRequest r request' } where
  handles := hhandles
  blocks := hblocks
  requests := by
    intro r' other hother
    by_cases hr : r' = r
    · subst hr
      obtain rfl : request' = other := by simpa [AsyncState.setRequest] using hother
      exact hown
    · simp only [AsyncState.setRequest, Function.update_of_ne hr] at hother
      exact (hothers r' other hr hother).1
  apart := by
    intro first second request₁ request₂ h₁ h₂ hne
    simp only [AsyncState.setRequest] at h₁ h₂
    by_cases hfirst : first = r
    · subst hfirst
      rw [Function.update_self] at h₁
      rw [Function.update_of_ne hne.symm] at h₂
      obtain rfl := Option.some.inj h₁
      obtain ⟨-, hhandle, hparameter⟩ := hothers second request₂ hne.symm h₂
      exact ⟨hhandle.symm, hparameter.symm⟩
    · rw [Function.update_of_ne hfirst] at h₁
      by_cases hsecond : second = r
      · subst hsecond
        rw [Function.update_self] at h₂
        obtain rfl := Option.some.inj h₂
        exact (hothers first request₁ hfirst h₁).2
      · rw [Function.update_of_ne hsecond] at h₂
        exact h.apart first second request₁ request₂ h₁ h₂ hne
  unmisused := hunmisused

theorem AsyncInvariant.startRequest (h : AsyncInvariant s) (r : ℕ) (service : Service)
    (ctx : AsyncContext N V) : AsyncInvariant (s.startRequest r service ctx) := by
  refine h.update (h.handles.make ctx) (h.blocks.make _) h.unmisused ?_ ?_
  · exact {
      kept := fun _ => ⟨Store.holds_make h.handles ctx, Store.holds_make h.blocks _⟩
      released := fun hkeeps => absurd trivial hkeeps
      nonzero := Nat.succ_ne_zero _
      recovered := trivial }
  · intro r' other _ hother
    have hown := h.requests r' other hother
    obtain ⟨hhandle, hparameter⟩ := hown.made
    refine ⟨hown.mono (fun _ hholds => hholds.make ctx) (fun _ hholds => hholds.make _)
      (fun hreleased => hreleased.make ctx) (fun hfreed => hfreed.make _), ?_, ?_⟩
    · exact (Nat.lt_succ_of_le hhandle).ne
    · exact (Nat.lt_succ_of_le hparameter).ne

/-- The request goes on and keeps what it has. -/
theorem AsyncInvariant.keep (h : AsyncInvariant s) (hrequest : s.requests r = some request)
    (hkeeps : request.Keeps) {phase : Phase N V Spec}
    (hstill : (request.goesTo phase).Keeps)
    (hrecovered : (request.goesTo phase).Recovered) :
    AsyncInvariant { s with requests := s.setRequest r (request.goesTo phase) } := by
  have hown := h.requests r request hrequest
  refine h.update h.handles h.blocks h.unmisused ?_ ?_
  · exact {
      kept := fun _ => hown.kept hkeeps
      released := fun hnot => absurd hstill hnot
      nonzero := hown.nonzero
      recovered := hrecovered }
  · intro r' other hr hother
    exact ⟨(h.requests r' other hother).mono (fun _ => id) (fun _ => id) id id,
      h.apart r' r other request hother hrequest hr⟩

/-- The request releases what it has kept. -/
theorem AsyncInvariant.release (h : AsyncInvariant s) (hrequest : s.requests r = some request)
    (hkeeps : request.Keeps) {phase : Phase N V Spec}
    (hgone : ¬ (request.goesTo phase).Keeps)
    (hrecovered : (request.goesTo phase).Recovered) :
    AsyncInvariant {
      handles := s.handles.release request.handle
      blocks := s.blocks.release request.parameter
      requests := s.setRequest r (request.goesTo phase) } := by
  have hown := h.requests r request hrequest
  obtain ⟨hhandle, hblock⟩ := hown.kept hkeeps
  refine h.update (h.handles.release hhandle.made) (h.blocks.release hblock.made) ?_ ?_ ?_
  · exact ⟨(Store.misused_release hhandle).trans h.unmisused.1,
      (Store.misused_release hblock).trans h.unmisused.2⟩
  · exact {
      kept := fun hstill => absurd hstill hgone
      released := fun _ => ⟨Store.released_release hhandle, Store.released_release hblock⟩
      nonzero := hown.nonzero
      recovered := hrecovered }
  · intro r' other hr hother
    obtain ⟨hhandles, hparameters⟩ := h.apart r' r other request hother hrequest hr
    refine ⟨(h.requests r' other hother).mono ?_ ?_ ?_ ?_, hhandles, hparameters⟩
    · exact fun _ hholds => hholds.release hhandles
    · exact fun _ hholds => hholds.release hparameters
    · exact fun hreleased => hreleased.release hhandles
    · exact fun hfreed => hfreed.release hparameters

theorem AsyncInvariant.reject (h : AsyncInvariant s) (hrequest : s.requests r = some request)
    (hkeeps : request.Keeps) (err : ℤ) : AsyncInvariant (s.reject r request err) :=
  h.release hrequest hkeeps id trivial

/-- The callback finds its own handle, so its use changes nothing. -/
theorem AsyncInvariant.callback_eq (h : AsyncInvariant s)
    (hrequest : s.requests r = some request) (hkeeps : request.Keeps)
    (response : Response Spec) :
    s.callback r request response =
      { s with
        requests := s.setRequest r (request.goesTo
          (.calling request.handle response (s.invocation request.handle response))) } := by
  have hown := h.requests r request hrequest
  obtain ⟨hhandle, hblock⟩ := hown.kept hkeeps
  have hrecover : s.recoverHandle (some request.parameter) = request.handle := by
    simp [AsyncState.recoverHandle, hblock.contents]
  unfold AsyncState.callback
  rw [hrecover]
  simp only [if_pos hown.nonzero, Store.use_eq hhandle, Store.use_eq hblock]

theorem AsyncInvariant.callback (h : AsyncInvariant s) (hrequest : s.requests r = some request)
    (hkeeps : request.Keeps) {response : Response Spec}
    (hanswer : request.service.answeredBy response = true) :
    AsyncInvariant (s.callback r request response) := by
  rw [h.callback_eq hrequest hkeeps]
  refine h.keep hrequest hkeeps ?_ ?_
  · exact trivial
  · exact ⟨rfl, hanswer⟩

theorem AsyncInvariant.callbackReturns (h : AsyncInvariant s)
    (hrequest : s.requests r = some request) (hkeeps : request.Keeps)
    (response : Response Spec) :
    AsyncInvariant (s.callbackReturns r request request.handle response) := by
  have hnonzero := (h.requests r request hrequest).nonzero
  have hcontinues : (request.goesTo (.returned response)).Keeps ↔
      response.continues = true := Iff.rfl
  unfold AsyncState.callbackReturns
  cases response with
  | nameList invokeId err names moreFollows =>
      simp only
      split
      next hreleases =>
        refine h.release hrequest hkeeps ?_ trivial
        rw [hcontinues]
        rcases hreleases.2 with hlast | herror
        · simp [Response.continues, hlast]
        · simp [Response.continues, Option.isSome_iff_ne_none.mp herror]
      next hpaged =>
        refine h.keep hrequest hkeeps ?_ trivial
        rw [hcontinues]
        simp only [ne_eq, hnonzero, not_false_eq_true, true_and, not_or] at hpaged
        obtain ⟨hmore, herror⟩ := hpaged
        simp only [Response.continues, Bool.and_eq_true, Option.isNone_iff_eq_none]
        exact ⟨by simpa using hmore, by simpa using herror⟩
  | varSpec invokeId err spec =>
      simp only [ne_eq, hnonzero, not_false_eq_true, if_true]
      exact h.release hrequest hkeeps (by simp [hcontinues, Response.continues]) trivial

/-! ## Steps -/

theorem asyncStep_reject_ok {err : ℤ} (h : asyncStep s (.reject r err) = some s') :
    ∃ request, s.requests r = some request ∧ request.phase = .issued ∧
      s' = s.reject r request err := by
  simp only [asyncStep] at h
  split at h
  next request hrequest =>
    split at h
    next hphase =>
      obtain ⟨-, ⟨⟩⟩ := Option.ite_none_right_eq_some.mp h
      exact ⟨request, hrequest, hphase, rfl⟩
    next => cases h
  next => cases h

theorem asyncStep_callback_ok {response : Response Spec}
    (h : asyncStep s (.callback r response) = some s') :
    ∃ request, s.requests r = some request ∧ request.phase = .issued ∧
      request.service.answeredBy response = true ∧ s' = s.callback r request response := by
  simp only [asyncStep] at h
  split at h
  next request hrequest =>
    split at h
    next hphase =>
      obtain ⟨hanswer, ⟨⟩⟩ := Option.ite_none_right_eq_some.mp h
      exact ⟨request, hrequest, hphase, hanswer, rfl⟩
    next => cases h
  next => cases h

theorem asyncStep_callbackReturns_ok (h : asyncStep s (.callbackReturns r) = some s') :
    ∃ request handle response invocation, s.requests r = some request ∧
      request.phase = .calling handle response invocation ∧
      s' = s.callbackReturns r request handle response := by
  simp only [asyncStep] at h
  split at h
  next request hrequest =>
    split at h
    next handle response invocation hphase =>
      obtain rfl := Option.some.inj h
      exact ⟨request, handle, response, invocation, hrequest, hphase, rfl⟩
    next => cases h
  next => cases h

/-- What one step keeps. -/
theorem asyncInvariant_step {step : AsyncStep N V Spec} (h : AsyncInvariant s)
    (hstep : asyncStep s step = some s') : AsyncInvariant s' := by
  cases step with
  | getServerDirectoryAsync r continueAfter handler =>
      obtain ⟨-, ⟨⟩⟩ := Option.ite_none_right_eq_some.mp hstep
      exact h.startRequest r _ _
  | getLogicalDeviceVariablesAsync r ldName continueAfter handler =>
      obtain ⟨-, ⟨⟩⟩ := Option.ite_none_right_eq_some.mp hstep
      exact h.startRequest r _ _
  | getLogicalDeviceDataSetsAsync r ldName continueAfter handler =>
      obtain ⟨-, ⟨⟩⟩ := Option.ite_none_right_eq_some.mp hstep
      exact h.startRequest r _ _
  | getVariableSpecificationAsync r ref fc handler =>
      obtain ⟨-, ⟨⟩⟩ := Option.ite_none_right_eq_some.mp hstep
      exact h.startRequest r _ _
  | reject r err =>
      obtain ⟨request, hrequest, hphase, rfl⟩ := asyncStep_reject_ok hstep
      exact h.reject hrequest (by simp [Request.Keeps, hphase]) err
  | callback r response =>
      obtain ⟨request, hrequest, hphase, hanswer, rfl⟩ := asyncStep_callback_ok hstep
      exact h.callback hrequest (by simp [Request.Keeps, hphase]) hanswer
  | callbackReturns r =>
      obtain ⟨request, handle, response, invocation, hrequest, hphase, rfl⟩ :=
        asyncStep_callbackReturns_ok hstep
      have hrecovered := (h.requests r request hrequest).recovered
      simp only [Request.Recovered, hphase] at hrecovered
      obtain ⟨rfl, -⟩ := hrecovered
      exact h.callbackReturns hrequest (by simp [Request.Keeps, hphase]) response

theorem asyncInvariant_of_reachable (hreach : Reachable asyncStep {} s) : AsyncInvariant s :=
  hreach.invariant asyncInvariant_empty fun _ _ _ h hstep => asyncInvariant_step h hstep

/-! ## Released exactly once -/

/-- What belongs to a request that is over has been released exactly once, and
nothing was used or released after its release. -/
structure ReleasedOnce (s : AsyncState N V Spec) : Prop where
  finished : ∀ r request, s.requests r = some request → request.Finished →
    s.handles.releases request.handle = 1 ∧ s.blocks.releases request.parameter = 1
  unmisused : s.handles.misused = false ∧ s.blocks.misused = false

/-- A request that is over has released its handle and its block once unless it
was answered with a page that is not the last one. -/
theorem released_once_iff (hreach : Reachable asyncStep {} s)
    (hrequest : s.requests r = some request) :
    (s.handles.releases request.handle = 1 ∧ s.blocks.releases request.parameter = 1) ↔
      ¬ request.Keeps := by
  have hown := (asyncInvariant_of_reachable hreach).requests r request hrequest
  constructor
  · rintro ⟨hhandle, -⟩ hkeeps
    rw [(hown.kept hkeeps).1.unreleased] at hhandle
    cases hhandle
  · intro hgone
    exact ⟨(hown.released hgone).1.once, (hown.released hgone).2.once⟩

/-- The library answers with the last page, or with an error. -/
def AnswersLastPage (_ : AsyncState N V Spec) : AsyncStep N V Spec → Prop
  | .callback _ response => response.continues = false
  | _ => True

/-- The answer of the library, once it has come. -/
def Phase.response? : Phase N V Spec → Option (Response Spec)
  | .issued | .rejected _ => none
  | .calling _ response _ | .returned response => some response

/-- No request has been answered with a page that is not the last one. -/
def LastPages (s : AsyncState N V Spec) : Prop :=
  ∀ r request response, s.requests r = some request →
    request.phase.response? = some response → response.continues = false

/-- One request is new or goes on. -/
theorem LastPages.update (h : LastPages s) (r : ℕ) {request' : Request N V Spec}
    (hresponse : ∀ response, request'.phase.response? = some response →
      response.continues = false)
    {handles : Store (AsyncContext N V)} {blocks : Store ℕ} :
    LastPages { handles := handles, blocks := blocks, requests := s.setRequest r request' } := by
  intro r' other response hother
  by_cases hr : r' = r
  · subst hr
    obtain rfl : request' = other := by simpa [AsyncState.setRequest] using hother
    exact hresponse response
  · simp only [AsyncState.setRequest, Function.update_of_ne hr] at hother
    exact h r' other response hother

theorem LastPages.callbackReturns (h : LastPages s) (hrequest : s.requests r = some request)
    {handle : ℕ} {response : Response Spec} {invocation : Option (Invocation N V Spec)}
    (hphase : request.phase = .calling handle response invocation) :
    LastPages (s.callbackReturns r request handle response) := by
  have hlast : response.continues = false :=
    h r request response hrequest (by rw [hphase]; rfl)
  have hreturned : ∀ answer : Response Spec,
      (request.goesTo (.returned response)).phase.response? = some answer →
        answer.continues = false := by
    rintro answer ⟨⟩
    exact hlast
  unfold AsyncState.callbackReturns
  cases response with
  | nameList invokeId err names moreFollows =>
      simp only
      split
      next => exact h.update r hreturned
      next => exact h.update r hreturned
  | varSpec invokeId err spec => exact h.update r hreturned

theorem lastPages_step {step : AsyncStep N V Spec} (h : LastPages s)
    (hlast : AnswersLastPage s step) (hstep : asyncStep s step = some s') : LastPages s' := by
  cases step with
  | getServerDirectoryAsync r continueAfter handler =>
      obtain ⟨-, ⟨⟩⟩ := Option.ite_none_right_eq_some.mp hstep
      exact h.update r fun _ hresponse => by cases hresponse
  | getLogicalDeviceVariablesAsync r ldName continueAfter handler =>
      obtain ⟨-, ⟨⟩⟩ := Option.ite_none_right_eq_some.mp hstep
      exact h.update r fun _ hresponse => by cases hresponse
  | getLogicalDeviceDataSetsAsync r ldName continueAfter handler =>
      obtain ⟨-, ⟨⟩⟩ := Option.ite_none_right_eq_some.mp hstep
      exact h.update r fun _ hresponse => by cases hresponse
  | getVariableSpecificationAsync r ref fc handler =>
      obtain ⟨-, ⟨⟩⟩ := Option.ite_none_right_eq_some.mp hstep
      exact h.update r fun _ hresponse => by cases hresponse
  | reject r err =>
      obtain ⟨request, -, -, rfl⟩ := asyncStep_reject_ok hstep
      exact h.update r fun _ hresponse => by cases hresponse
  | callback r response =>
      obtain ⟨request, -, -, -, rfl⟩ := asyncStep_callback_ok hstep
      refine h.update r fun answer hanswer => ?_
      obtain rfl : response = answer := Option.some.inj hanswer
      exact hlast
  | callbackReturns r =>
      obtain ⟨request, handle, response, invocation, hrequest, hphase, rfl⟩ :=
        asyncStep_callbackReturns_ok hstep
      exact h.callbackReturns hrequest hphase

/-- In every state of every run in which the library answers with last pages and
errors only, each request that is over has released its handle and its block
exactly once. -/
theorem releasedOnce_of_lastPages (s : AsyncState N V Spec)
    (hrun : Reaches asyncStep AnswersLastPage {} s) : ReleasedOnce s := by
  have hinvariant := asyncInvariant_of_reachable hrun.reachable
  have hpages : LastPages s := by
    refine hrun.invariant (fun _ _ _ hrequest => by cases hrequest) ?_
    exact fun _ _ _ h hlast hstep => lastPages_step h hlast hstep
  refine ⟨fun r request hrequest hfinished => ?_, hinvariant.unmisused⟩
  rw [released_once_iff hrun.reachable hrequest]
  intro hkeeps
  unfold Request.Finished at hfinished
  unfold Request.Keeps at hkeeps
  split at hkeeps
  next hphase => rw [hphase] at hfinished; exact hfinished
  next hphase => rw [hphase] at hfinished; exact hfinished
  next => exact hkeeps
  next response hphase =>
    rw [hpages r request response hrequest (by rw [hphase]; rfl)] at hkeeps
    cases hkeeps

/-- A server directory that comes in one page, with the callback already back. -/
def onePage : List (AsyncStep Unit Unit Unit) :=
  [.getServerDirectoryAsync 0 [] (some ()), .callback 0 (.nameList 1 0 (some []) false),
    .callbackReturns 0]

theorem releasedOnce_onePage :
    ∃ s, run asyncStep ({} : AsyncState Unit Unit Unit) onePage = some s ∧
      ReleasedOnce s := by
  refine ⟨_, rfl, releasedOnce_of_lastPages _ (Reaches.run .start onePage ?_ rfl)⟩
  exact ⟨trivial, fun _ _ => ⟨rfl, fun _ _ => ⟨trivial, fun _ _ => trivial⟩⟩⟩

/-- The first page of a server directory of several pages. -/
def firstPage : List (AsyncStep Unit Unit Unit) :=
  [.getServerDirectoryAsync 0 [] (some ()), .callback 0 (.nameList 1 0 (some []) true),
    .callbackReturns 0]

/-- The callback has returned, and the handle and the block are still there. -/
theorem firstPage_not_released :
    ∃ s, run asyncStep ({} : AsyncState Unit Unit Unit) firstPage = some s ∧
      ¬ ReleasedOnce s := by
  refine ⟨_, rfl, fun h => ?_⟩
  obtain ⟨hhandle, -⟩ := h.finished 0 _ rfl trivial
  cases hhandle

end Iec61850.Mms
