import Iec61850.CallbackRegistries
import Iec61850.ReadValues

/-!
# Callback ids

The handlers of servers and of clients are kept in four maps, under ids from one counter.
The library is handed an id as a pointer and gives it back to the bridge when the handler
is due.
-/

namespace Iec61850.Mms

open Go Transition

/-! ## Pointers -/

section

variable {w : ℕ}

/-- `uintptr` has the width of a pointer, and the conversion to it extends the sign. -/
def intToPointerBug58625 (w : ℕ) (i : Int32) : BitVec w := i.toBitVec.signExtend w

/-- `int32(uintptr(parameter))` -/
def callbackId (parameter : BitVec w) : Int32 := Int32.ofBitVec (parameter.setWidth 32)

theorem setWidth_signExtend (x : BitVec 32) (hw : 32 ≤ w) : (x.signExtend w).setWidth 32 = x := by
  ext i hi
  have hbound : i < w := by omega
  rw [BitVec.getElem_setWidth, BitVec.getLsbD_eq_getElem hbound, BitVec.getElem_signExtend,
    dif_pos hi]

theorem callbackId_intToPointerBug58625 (hw : 32 ≤ w) (i : Int32) :
    callbackId (intToPointerBug58625 w i) = i := by
  unfold callbackId intToPointerBug58625
  rw [setWidth_signExtend i.toBitVec hw, Int32.ofBitVec_toBitVec]

end

/-! ## Registrations -/

/-- `writeAccessCallback` and `controlCallback`. -/
structure NodeCallback (Node Handler : Type) where
  node : Node
  handler : Handler
  deriving DecidableEq

/-- A handler that is registered, with what it is registered for. -/
inductive Registration (Node Write Control Report Closed : Type)
  | writeAccess (modelNode : Node) (handler : Write)
  | control (modelNode : Node) (handler : Control)
  | report (c : ℕ) (objectReference rptId : Str) (function : Report)
  | connectionClosed (c : ℕ) (handler : Closed)

/-- What the library is handed: the bridge of the registration, with its parameter. -/
structure Handed (w : ℕ) (Node Write Control Report Closed : Type) where
  registration : Registration Node Write Control Report Closed
  id : Int32
  parameter : BitVec w

/-- The global variables, and what the library has been handed so far. -/
structure Callbacks (w : ℕ) (Node Write Control Report Closed : Type) where
  client : Registries Closed Report := {}
  writeAccessCallbacks : Int32 → Option (NodeCallback Node Write) := fun _ => none
  controlCallbacks : Int32 → Option (NodeCallback Node Control) := fun _ => none
  handed : List (Handed w Node Write Control Report Closed) := []

inductive HandlerRequest (Node Write Control Report Closed : Type)
  | client (call : Call Closed Report)
  | setHandleWriteAccess (modelNode : Option Node) (handler : Write)
  | setControlHandler (modelNode : Option Node) (handler : Control)

variable {w : ℕ} {Node Write Control Report Closed ClientReport Float : Type}

/-- Nothing is registered for a nil node, nor a nil handler for a lost connection. -/
def HandlerRequest.registration : HandlerRequest Node Write Control Report Closed →
    Option (Registration Node Write Control Report Closed)
  | .client (.installConnectionClosedHandler c (some handler)) =>
      some (.connectionClosed c handler)
  | .client (.installReportHandler c objectReference rptId function) =>
      some (.report c objectReference rptId function)
  | .setHandleWriteAccess (some modelNode) handler => some (.writeAccess modelNode handler)
  | .setControlHandler (some modelNode) handler => some (.control modelNode handler)
  | _ => none

namespace Callbacks

/-- `callbackIdGen.Add(1)` -/
def nextId (s : Callbacks w Node Write Control Report Closed) : Int32 := s.client.nextId

def setHandleWriteAccess (s : Callbacks w Node Write Control Report Closed)
    (modelNode : Option Node) (handler : Write) : Callbacks w Node Write Control Report Closed :=
  match modelNode with
  | none => s
  | some modelNode =>
      { s with
        client := { s.client with callbackIdGen := s.nextId }
        writeAccessCallbacks :=
          Function.update s.writeAccessCallbacks s.nextId (some ⟨modelNode, handler⟩) }

def setControlHandler (s : Callbacks w Node Write Control Report Closed)
    (modelNode : Option Node) (handler : Control) : Callbacks w Node Write Control Report Closed :=
  match modelNode with
  | none => s
  | some modelNode =>
      { s with
        client := { s.client with callbackIdGen := s.nextId }
        controlCallbacks :=
          Function.update s.controlCallbacks s.nextId (some ⟨modelNode, handler⟩) }

/-- The request in the maps. -/
def register (s : Callbacks w Node Write Control Report Closed) :
    HandlerRequest Node Write Control Report Closed →
      Option (Callbacks w Node Write Control Report Closed)
  -- the other two requests stand in its place
  | .client .serverHandler => none
  | .client call => (Mms.step s.client call).map fun client => { s with client := client }
  | .setHandleWriteAccess modelNode handler => some (s.setHandleWriteAccess modelNode handler)
  | .setControlHandler modelNode handler => some (s.setControlHandler modelNode handler)

/-- What the library is handed for a registration. -/
def hand (s : Callbacks w Node Write Control Report Closed)
    (registration : Registration Node Write Control Report Closed) :
    Handed w Node Write Control Report Closed :=
  ⟨registration, s.nextId, intToPointerBug58625 w s.nextId⟩

def step (s : Callbacks w Node Write Control Report Closed)
    (request : HandlerRequest Node Write Control Report Closed) :
    Option (Callbacks w Node Write Control Report Closed) :=
  (s.register request).map fun s' =>
    { s' with handed := s.handed ++ (request.registration.map s.hand).toList }

end Callbacks

/-! ## The bridges -/

/-- What the getters of the library return for a control action. -/
structure CControlAction where
  getControlTime : BitVec 64
  isSelect : Bool
  getInterlockCheck : Bool
  getSynchroCheck : Bool
  getCtlNum : ℤ
  /-- The buffer, of the size that is returned with it. -/
  getOrIdent : Option (List (BitVec 8))
  getOrCat : ℤ
  deriving DecidableEq

structure ControlAction where
  controlTime : BitVec 64
  isSelect : Bool
  interlockCheck : Bool
  synchroCheck : Bool
  ctlNum : ℤ
  orIdent : Option (List (BitVec 8))
  orCat : ℤ
  deriving DecidableEq

/-- `actionFill` -/
def CControlAction.fill (action : CControlAction) : ControlAction where
  controlTime := action.getControlTime
  isSelect := action.isSelect
  interlockCheck := action.getInterlockCheck
  synchroCheck := action.getSynchroCheck
  ctlNum := action.getCtlNum
  orIdent := action.getOrIdent
  orCat := action.getOrCat

/-- A call of a handler, with its arguments. -/
structure WriteAccessCall (Float Node Write : Type) where
  handler : Write
  node : Node
  mmsValue : MmsValue (GoScalar Float)

structure ControlCall (Float Node Control : Type) where
  handler : Control
  node : Node
  action : ControlAction
  mmsValue : MmsValue (GoScalar Float)
  test : Bool

/-- `DATA_ACCESS_ERROR_OBJECT_ACCESS_DENIED` -/
def objectAccessDenied : ℤ := 3

/-- `CONTROL_RESULT_FAILED` -/
def controlResultFailed : ℤ := 0

namespace Callbacks

/-- The call whose result is returned, or what is returned without one. -/
def writeAccessHandlerBridge (s : Callbacks w Node Write Control Report Closed)
    (value : CMmsValue Float) (parameter : BitVec w) :
    Except ℤ (WriteAccessCall Float Node Write) :=
  match s.writeAccessCallbacks (callbackId parameter) with
  | some call =>
      let mmsType := value.type
      match toGoValue (some value) mmsType with
      | .ok goValue =>
          .ok { handler := call.handler, node := call.node, mmsValue := ⟨mmsType, goValue⟩ }
      | .error _ => .error objectAccessDenied
  | none => .error objectAccessDenied

def controlHandlerBridge (s : Callbacks w Node Write Control Report Closed)
    (action : CControlAction) (parameter : BitVec w) (ctlVal : CMmsValue Float) (test : Bool) :
    Except ℤ (ControlCall Float Node Control) :=
  match s.controlCallbacks (callbackId parameter) with
  | some call =>
      let mmsType := ctlVal.type
      match toGoValue (some ctlVal) mmsType with
      | .ok goValue =>
          .ok {
            handler := call.handler
            node := call.node
            action := action.fill
            mmsValue := ⟨mmsType, goValue⟩
            test }
      | .error _ => .error controlResultFailed
  | none => .error controlResultFailed

/-- The handler that is called, if any, with the report. -/
def reportCallbackFunctionBridge (s : Callbacks w Node Write Control Report Closed)
    (parameter : BitVec w) (report : ClientReport) : Option (Report × ClientReport) :=
  (s.client.reportCallbacks (callbackId parameter)).map fun handler => (handler, report)

def connectionClosedHandlerBridge (s : Callbacks w Node Write Control Report Closed)
    (parameter : BitVec w) : Option Closed :=
  s.client.connectionClosedCallbacks (callbackId parameter)

end Callbacks

/-- Given the parameter back, the bridge calls the handler of the registration, for its
node, and no other.  The handler of a lost connection goes when its client is closed. -/
def Served (Float ClientReport : Type) (s : Callbacks w Node Write Control Report Closed)
    (requests : List (HandlerRequest Node Write Control Report Closed))
    (parameter : BitVec w) : Registration Node Write Control Report Closed → Prop
  | .writeAccess modelNode handler => ∀ value : CMmsValue Float,
      (∀ goValue, toGoValue (some value) value.type = .ok goValue →
        s.writeAccessHandlerBridge value parameter =
          .ok ⟨handler, modelNode, ⟨value.type, goValue⟩⟩) ∧
      ∀ err, toGoValue (some value) value.type = .error err →
        s.writeAccessHandlerBridge value parameter = .error objectAccessDenied
  | .control modelNode handler => ∀ (action : CControlAction) (ctlVal : CMmsValue Float) test,
      (∀ goValue, toGoValue (some ctlVal) ctlVal.type = .ok goValue →
        s.controlHandlerBridge action parameter ctlVal test =
          .ok ⟨handler, modelNode, action.fill, ⟨ctlVal.type, goValue⟩, test⟩) ∧
      ∀ err, toGoValue (some ctlVal) ctlVal.type = .error err →
        s.controlHandlerBridge action parameter ctlVal test = .error controlResultFailed
  | .report _ _ _ function => ∀ report : ClientReport,
      s.reportCallbackFunctionBridge parameter report = some (function, report)
  | .connectionClosed c handler =>
      (.client (.close c) ∉ requests →
        s.connectionClosedHandlerBridge parameter = some handler) ∧
      ∀ called, s.connectionClosedHandlerBridge parameter = some called → called = handler

/-! ## The ids of a run -/

theorem ofNat_inj_of_lt {m n : ℕ} (hm : m < 2 ^ 32) (hn : n < 2 ^ 32)
    (h : Int32.ofNat m = Int32.ofNat n) : m = n := by
  have hbits : BitVec.ofNat 32 m = BitVec.ofNat 32 n := congrArg Int32.toBitVec h
  have hvalues : m % 2 ^ 32 = n % 2 ^ 32 := by simpa using congrArg BitVec.toNat hbits
  rwa [Nat.mod_eq_of_lt hm, Nat.mod_eq_of_lt hn] at hvalues

/-- The ids are counted from one, each handed over as a pointer. -/
structure Numbered (s : Callbacks w Node Write Control Report Closed) : Prop where
  counter : s.client.callbackIdGen = Int32.ofNat s.handed.length
  ids : s.handed.map Handed.id = (List.range s.handed.length).map fun k => Int32.ofNat (k + 1)
  parameters : ∀ h ∈ s.handed, h.parameter = intToPointerBug58625 w h.id

section

variable {s s' : Callbacks w Node Write Control Report Closed}
  {request : HandlerRequest Node Write Control Report Closed}

theorem Numbered.nextId_eq (hs : Numbered s) : s.nextId = Int32.ofNat (s.handed.length + 1) := by
  unfold Callbacks.nextId Registries.nextId
  rw [hs.counter, Int32.ofNat_add]
  rfl

theorem Numbered.id_mem (hs : Numbered s) {h : Handed w Node Write Control Report Closed}
    (hh : h ∈ s.handed) : ∃ k < s.handed.length, h.id = Int32.ofNat (k + 1) := by
  have hid : h.id ∈ s.handed.map Handed.id := List.mem_map_of_mem hh
  rw [hs.ids] at hid
  obtain ⟨k, hk, hkid⟩ := List.mem_map.mp hid
  exact ⟨k, List.mem_range.mp hk, hkid.symm⟩

theorem Numbered.nodup (hs : Numbered s) (hcount : s.handed.length < 2 ^ 32) :
    (s.handed.map Handed.id).Nodup := by
  rw [hs.ids]
  apply List.Nodup.map_on _ List.nodup_range
  intro i hi j hj h
  have hi := List.mem_range.mp hi
  have hj := List.mem_range.mp hj
  have hsame := ofNat_inj_of_lt (m := i + 1) (n := j + 1) (by omega) (by omega) h
  omega

theorem Numbered.id_ne_zero (hs : Numbered s) (hcount : s.handed.length < 2 ^ 32)
    {h : Handed w Node Write Control Report Closed} (hh : h ∈ s.handed) : h.id ≠ 0 := by
  obtain ⟨k, hk, hid⟩ := hs.id_mem hh
  intro hzero
  have hsame := ofNat_inj_of_lt (m := k + 1) (n := 0) (by omega) (by omega) (hid.symm.trans hzero)
  omega

theorem Numbered.nextId_ne (hs : Numbered s) (hcount : s.handed.length + 1 < 2 ^ 32)
    {h : Handed w Node Write Control Report Closed} (hh : h ∈ s.handed) : h.id ≠ s.nextId := by
  obtain ⟨k, hk, hid⟩ := hs.id_mem hh
  intro hnext
  rw [hid, hs.nextId_eq] at hnext
  have hsame := ofNat_inj_of_lt (m := k + 1) (n := s.handed.length + 1) (by omega) (by omega) hnext
  omega

end

/-! ## What a call of a client changes -/

def Disconnected (clients : ℕ → Option Client) (c : ℕ) : Prop :=
  ∃ client, clients c = some client ∧ client.connected = false

theorem clients_update {clients : ℕ → Option Client} {c c' : ℕ} {new client : Client}
    (h : Function.update clients c' (some new) c = some client) :
    c = c' ∧ client = new ∨ c ≠ c' ∧ clients c = some client := by
  by_cases hc : c = c'
  · subst hc
    rw [Function.update_self] at h
    exact .inl ⟨rfl, (Option.some.inj h).symm⟩
  · rw [Function.update_of_ne hc] at h
    exact .inr ⟨hc, h⟩

/-- What a call may do to a client. -/
inductive ClientChange (s : Registries Closed Report) (call : Call Closed Report) (c : ℕ)
    (client' : Client) : Prop
  | created (hnew : s.clients c = none) (hclient' : client' = {})
  | installed {client : Client} {handler : Closed}
      (hcall : call = .installConnectionClosedHandler c (some handler))
      (hclient : s.clients c = some client) (hconnected : client'.connected = client.connected)
      (hid : client'.closedHandlerId = s.nextId)
  | closed (hcall : call = .close c) (hconnected : client'.connected = false)
      (hid : client'.closedHandlerId = 0)
  | kept {client : Client} (hclient : s.clients c = some client)
      (hconnected : client'.connected = client.connected)
      (hid : client'.closedHandlerId = client.closedHandlerId)

section

variable {s s' : Registries Closed Report} {call : Call Closed Report}

theorem newClient_eq {c : ℕ} (hstep : Mms.step s (.newClient c) = some s') :
    s.clients c = none ∧ s' = s.setClient c {} := by
  cases hc : s.clients c with
  | some client => simp [Mms.step, hc] at hstep
  | none => exact ⟨rfl, by simpa [Mms.step, hc, eq_comm] using hstep⟩

theorem clientChange_of_step (hstep : Mms.step s call = some s') {c : ℕ} {client' : Client}
    (hclient' : s'.clients c = some client') : ClientChange s call c client' := by
  cases call with
  | newClient c' =>
      obtain ⟨hnew, rfl⟩ := newClient_eq hstep
      rcases clients_update hclient' with ⟨rfl, rfl⟩ | ⟨-, hold⟩
      · exact .created hnew rfl
      · exact .kept hold rfl rfl
  | installConnectionClosedHandler c' handler =>
      obtain ⟨client, hclient, rfl⟩ := Option.map_eq_some_iff.mp hstep
      cases handler with
      | none => exact .kept hclient' rfl rfl
      | some handler =>
          rcases clients_update hclient' with ⟨rfl, rfl⟩ | ⟨-, hold⟩
          · exact .installed rfl hclient rfl rfl
          · exact .kept hold rfl rfl
  | installReportHandler c' objectReference rptId function =>
      obtain ⟨client, hclient, rfl⟩ := Option.map_eq_some_iff.mp hstep
      rcases clients_update hclient' with ⟨rfl, rfl⟩ | ⟨-, hold⟩
      · exact .kept hclient rfl rfl
      · exact .kept hold rfl rfl
  | uninstallReportHandler c' objectReference =>
      obtain ⟨client, hclient, rfl⟩ := Option.map_eq_some_iff.mp hstep
      rcases clients_update hclient' with ⟨rfl, rfl⟩ | ⟨-, hold⟩
      · exact .kept hclient rfl rfl
      · exact .kept hold rfl rfl
  | close c' =>
      obtain ⟨client, hclient, rfl⟩ := Option.map_eq_some_iff.mp hstep
      unfold Registries.close at hclient'
      split at hclient'
      next =>
        rcases clients_update hclient' with ⟨rfl, rfl⟩ | ⟨-, hold⟩
        · exact .closed rfl rfl rfl
        · exact .kept hold rfl rfl
      next => exact .kept hclient' rfl rfl
  | serverHandler =>
      obtain rfl := Option.some.inj hstep
      exact .kept hclient' rfl rfl

theorem exists_setClient {c : ℕ} {client : Client} (hclient : s.clients c = some client) (c' : ℕ)
    (new : Client) : ∃ client', (s.setClient c' new).clients c = some client' := by
  unfold Registries.setClient
  by_cases hc : c = c'
  · exact ⟨new, by simp [hc]⟩
  · exact ⟨client, by simpa [hc] using hclient⟩

/-- A client remains. -/
theorem exists_client_step (hstep : Mms.step s call = some s') {c : ℕ} {client : Client}
    (hclient : s.clients c = some client) : ∃ client', s'.clients c = some client' := by
  cases call with
  | newClient c' =>
      obtain ⟨-, rfl⟩ := newClient_eq hstep
      exact exists_setClient hclient c' _
  | installConnectionClosedHandler c' handler =>
      obtain ⟨_, -, rfl⟩ := Option.map_eq_some_iff.mp hstep
      cases handler with
      | none => exact ⟨client, hclient⟩
      | some handler => exact exists_setClient hclient c' _
  | installReportHandler c' objectReference rptId function =>
      obtain ⟨_, -, rfl⟩ := Option.map_eq_some_iff.mp hstep
      exact exists_setClient hclient c' _
  | uninstallReportHandler c' objectReference =>
      obtain ⟨_, -, rfl⟩ := Option.map_eq_some_iff.mp hstep
      exact exists_setClient hclient c' _
  | close c' =>
      obtain ⟨_, -, rfl⟩ := Option.map_eq_some_iff.mp hstep
      unfold Registries.close
      split
      next => exact exists_setClient hclient c' _
      next => exact ⟨client, hclient⟩
  | serverHandler =>
      obtain rfl := Option.some.inj hstep
      exact ⟨client, hclient⟩

/-- A client that is closed stays closed. -/
theorem Disconnected.step {c : ℕ} (h : Disconnected s.clients c)
    (hstep : Mms.step s call = some s') : Disconnected s'.clients c := by
  obtain ⟨client, hclient, hgone⟩ := h
  obtain ⟨client', hclient'⟩ := exists_client_step hstep hclient
  refine ⟨client', hclient', ?_⟩
  cases clientChange_of_step hstep hclient' with
  | created hnew => cases hnew.symm.trans hclient
  | installed _ hold hconnected =>
      obtain rfl := Option.some.inj (hold.symm.trans hclient)
      exact hconnected.trans hgone
  | closed _ hconnected => exact hconnected
  | kept hold hconnected =>
      obtain rfl := Option.some.inj (hold.symm.trans hclient)
      exact hconnected.trans hgone

/-- It is closed by a call of `Close`. -/
theorem Disconnected.of_step {c : ℕ} (h : Disconnected s'.clients c)
    (hstep : Mms.step s call = some s') (hcall : call ≠ .close c) :
    Disconnected s.clients c := by
  obtain ⟨client', hclient', hgone⟩ := h
  cases clientChange_of_step hstep hclient' with
  | created _ hnew =>
      subst hnew
      cases hgone
  | installed _ hclient hconnected => exact ⟨_, hclient, hconnected.symm.trans hgone⟩
  | closed hclose => exact absurd hclose hcall
  | kept hclient hconnected => exact ⟨_, hclient, hconnected.symm.trans hgone⟩

end

/-! ## What a request changes -/

/-- What a request may do to the maps. -/
inductive RegisterChange (s : Callbacks w Node Write Control Report Closed) :
    HandlerRequest Node Write Control Report Closed →
      Callbacks w Node Write Control Report Closed → Prop
  | writeAccess (modelNode : Node) (handler : Write) :
      RegisterChange s (.setHandleWriteAccess (some modelNode) handler)
        (s.setHandleWriteAccess (some modelNode) handler)
  | control (modelNode : Node) (handler : Control) :
      RegisterChange s (.setControlHandler (some modelNode) handler)
        (s.setControlHandler (some modelNode) handler)
  | report {c : ℕ} {client : Client} (hclient : s.client.clients c = some client)
      (objectReference rptId : Str) (function : Report) :
      RegisterChange s (.client (.installReportHandler c objectReference rptId function))
        { s with client := s.client.installReportHandler c client objectReference rptId function }
  | connectionClosed {c : ℕ} {client : Client} (hclient : s.client.clients c = some client)
      (handler : Closed) :
      RegisterChange s (.client (.installConnectionClosedHandler c (some handler)))
        { s with client := s.client.installConnectionClosedHandler c client (some handler) }
  | close {c : ℕ} {client : Client} (hclient : s.client.clients c = some client) :
      RegisterChange s (.client (.close c)) { s with client := s.client.close c client }
  | nothing {request : HandlerRequest Node Write Control Report Closed}
      {client : Registries Closed Report} (hnone : request.registration = none)
      (hcounter : client.callbackIdGen = s.client.callbackIdGen)
      (hreports : client.reportCallbacks = s.client.reportCallbacks)
      (hclosed : client.connectionClosedCallbacks = s.client.connectionClosedCallbacks) :
      RegisterChange s request { s with client := client }

section

variable {s s' : Callbacks w Node Write Control Report Closed}
  {request : HandlerRequest Node Write Control Report Closed}

theorem client_step {call : Call Closed Report} (hregister : s.register (.client call) = some s') :
    Mms.step s.client call = some s'.client ∧ s' = { s with client := s'.client } := by
  by_cases hcall : call = .serverHandler
  · subst hcall
    cases hregister
  · rw [Callbacks.register] at hregister
    · obtain ⟨client, hstep, rfl⟩ := Option.map_eq_some_iff.mp hregister
      exact ⟨hstep, rfl⟩
    · exact hcall

theorem registerChange_of_register (hregister : s.register request = some s') :
    RegisterChange s request s' := by
  cases request with
  | setHandleWriteAccess modelNode handler =>
      obtain rfl := Option.some.inj hregister
      cases modelNode with
      | none => exact .nothing rfl rfl rfl rfl
      | some modelNode => exact .writeAccess modelNode handler
  | setControlHandler modelNode handler =>
      obtain rfl := Option.some.inj hregister
      cases modelNode with
      | none => exact .nothing rfl rfl rfl rfl
      | some modelNode => exact .control modelNode handler
  | client call =>
      obtain ⟨hstep, hs'⟩ := client_step hregister
      rw [hs']
      generalize s'.client = after at hstep
      cases call with
      | serverHandler => cases hregister
      | newClient c =>
          obtain ⟨-, rfl⟩ := newClient_eq hstep
          exact .nothing rfl rfl rfl rfl
      | installConnectionClosedHandler c handler =>
          obtain ⟨client, hclient, rfl⟩ := Option.map_eq_some_iff.mp hstep
          cases handler with
          | none => exact .nothing rfl rfl rfl rfl
          | some handler => exact .connectionClosed hclient handler
      | installReportHandler c objectReference rptId function =>
          obtain ⟨client, hclient, rfl⟩ := Option.map_eq_some_iff.mp hstep
          exact .report hclient objectReference rptId function
      | uninstallReportHandler c objectReference =>
          obtain ⟨client, hclient, rfl⟩ := Option.map_eq_some_iff.mp hstep
          exact .nothing rfl rfl rfl rfl
      | close c =>
          obtain ⟨client, hclient, rfl⟩ := Option.map_eq_some_iff.mp hstep
          exact .close hclient

/-- Only a call on a client changes the clients. -/
theorem clients_register (hregister : s.register request = some s') :
    (∃ call, request = .client call ∧ Mms.step s.client call = some s'.client) ∨
      s'.client.clients = s.client.clients := by
  cases request with
  | client call => exact .inl ⟨call, rfl, (client_step hregister).1⟩
  | setHandleWriteAccess modelNode handler =>
      obtain rfl := Option.some.inj hregister
      cases modelNode with
      | none => exact .inr rfl
      | some modelNode => exact .inr rfl
  | setControlHandler modelNode handler =>
      obtain rfl := Option.some.inj hregister
      cases modelNode with
      | none => exact .inr rfl
      | some modelNode => exact .inr rfl

theorem Disconnected.register {c : ℕ} (h : Disconnected s.client.clients c)
    (hregister : s.register request = some s') : Disconnected s'.client.clients c := by
  rcases clients_register hregister with ⟨call, -, hstep⟩ | hsame
  · exact h.step hstep
  · rw [hsame]
    exact h

theorem Disconnected.of_register {c : ℕ} (h : Disconnected s'.client.clients c)
    (hregister : s.register request = some s') (hclose : request ≠ .client (.close c)) :
    Disconnected s.client.clients c := by
  rcases clients_register hregister with ⟨call, rfl, hstep⟩ | hsame
  · apply h.of_step hstep
    rintro rfl
    exact hclose rfl
  · rw [← hsame]
    exact h

theorem register_counter (hregister : s.register request = some s') :
    s'.client.callbackIdGen =
      if request.registration.isSome then s.nextId else s.client.callbackIdGen := by
  cases registerChange_of_register hregister with
  | writeAccess => rfl
  | control => rfl
  | report => rfl
  | connectionClosed => rfl
  | close =>
      dsimp only
      unfold Registries.close
      split
      next => rfl
      next => rfl
  | nothing hnone hcounter =>
      rw [hnone]
      exact hcounter

end

/-! ## What the maps hold -/

/-- The map of the registration has its handler under the id, unless the client is closed. -/
def Stored (s : Callbacks w Node Write Control Report Closed) (id : Int32) :
    Registration Node Write Control Report Closed → Prop
  | .writeAccess modelNode handler => s.writeAccessCallbacks id = some ⟨modelNode, handler⟩
  | .control modelNode handler => s.controlCallbacks id = some ⟨modelNode, handler⟩
  | .report _ _ _ function => s.client.reportCallbacks id = some function
  | .connectionClosed c handler =>
      s.client.connectionClosedCallbacks id = some handler ∨
        s.client.connectionClosedCallbacks id = none ∧ Disconnected s.client.clients c

/-- Every handler is in its map, and a client keeps the id of a handler of its own. -/
structure Kept (s : Callbacks w Node Write Control Report Closed) : Prop where
  stored : ∀ h ∈ s.handed, Stored s h.id h.registration
  owned : ∀ c client, s.client.clients c = some client → client.closedHandlerId ≠ 0 →
    ∃ h ∈ s.handed, h.id = client.closedHandlerId ∧
      ∃ handler, h.registration = .connectionClosed c handler

section

variable {s s' : Callbacks w Node Write Control Report Closed}
  {request : HandlerRequest Node Write Control Report Closed}

/-- The handler is stored under the id that it has been given. -/
theorem stored_new (hregister : s.register request = some s')
    {registration : Registration Node Write Control Report Closed}
    (hregistration : request.registration = some registration) :
    Stored s' s.nextId registration := by
  cases registerChange_of_register hregister with
  | writeAccess modelNode handler =>
      obtain rfl := Option.some.inj hregistration
      exact Function.update_self ..
  | control modelNode handler =>
      obtain rfl := Option.some.inj hregistration
      exact Function.update_self ..
  | report hclient objectReference rptId function =>
      obtain rfl := Option.some.inj hregistration
      exact Function.update_self ..
  | connectionClosed hclient handler =>
      obtain rfl := Option.some.inj hregistration
      exact .inl (Function.update_self ..)
  | close => cases hregistration
  | nothing hnone =>
      rw [hnone] at hregistration
      cases hregistration

theorem Stored.frame {id : Int32} {registration : Registration Node Write Control Report Closed}
    (h : Stored s id registration)
    (hwrite : s'.writeAccessCallbacks id = s.writeAccessCallbacks id)
    (hcontrol : s'.controlCallbacks id = s.controlCallbacks id)
    (hreport : s'.client.reportCallbacks id = s.client.reportCallbacks id)
    (hclosed : s'.client.connectionClosedCallbacks id = s.client.connectionClosedCallbacks id)
    (hclients : ∀ c, Disconnected s.client.clients c → Disconnected s'.client.clients c) :
    Stored s' id registration := by
  cases registration with
  | writeAccess modelNode handler => exact hwrite.trans h
  | control modelNode handler => exact hcontrol.trans h
  | report c objectReference rptId function => exact hreport.trans h
  | connectionClosed c handler =>
      rcases h with hstored | ⟨hnone, hgone⟩
      · exact .inl (hclosed.trans hstored)
      · exact .inr ⟨hclosed.trans hnone, hclients c hgone⟩

/-- `Close` takes the handler of its own client only. -/
theorem Stored.close {id : Int32} {registration : Registration Node Write Control Report Closed}
    (h : Stored s id registration) {c : ℕ} {client : Client}
    (hclient : s.client.clients c = some client)
    (howned : client.closedHandlerId ≠ 0 → id = client.closedHandlerId →
      ∃ handler, registration = .connectionClosed c handler) :
    Stored { s with client := s.client.close c client } id registration := by
  have hstep : Mms.step s.client (.close c) = some (s.client.close c client) := by
    simp [Mms.step, hclient]
  by_cases htaken : client.connected = true ∧ client.closedHandlerId ≠ 0 ∧
      id = client.closedHandlerId
  · obtain ⟨hconnected, hzero, hid⟩ := htaken
    obtain ⟨handler, rfl⟩ := howned hzero hid
    right
    unfold Registries.close
    rw [if_pos hconnected]
    constructor
    · simp [hzero, Registry.discard, hid]
    · exact ⟨_, Function.update_self .., rfl⟩
  · have hclosed : (s.client.close c client).connectionClosedCallbacks id =
        s.client.connectionClosedCallbacks id := by
      unfold Registries.close
      by_cases hconnected : client.connected = true
      · by_cases hzero : client.closedHandlerId = 0
        · simp [hconnected, hzero, Registries.setClient]
        · have hne : id ≠ client.closedHandlerId := fun hid => htaken ⟨hconnected, hzero, hid⟩
          simp [hconnected, hzero, Registry.discard, hne, Registries.setClient]
      · rw [if_neg hconnected]
    have hreport : (s.client.close c client).reportCallbacks = s.client.reportCallbacks := by
      unfold Registries.close
      split
      next => rfl
      next => rfl
    exact h.frame rfl rfl (congrFun hreport id) hclosed fun c' hgone => hgone.step hstep

/-- Under an id that is not given now, a handler stays. -/
theorem Stored.register {id : Int32} {registration : Registration Node Write Control Report Closed}
    (h : Stored s id registration) (hregister : s.register request = some s')
    (hnew : request.registration.isSome → id ≠ s.nextId)
    (howned : ∀ c client, s.client.clients c = some client → client.closedHandlerId ≠ 0 →
      id = client.closedHandlerId → ∃ handler, registration = .connectionClosed c handler) :
    Stored s' id registration := by
  have hclients := fun c (hgone : Disconnected s.client.clients c) => hgone.register hregister
  cases registerChange_of_register hregister with
  | writeAccess => exact h.frame (Function.update_of_ne (hnew rfl) ..) rfl rfl rfl hclients
  | control => exact h.frame rfl (Function.update_of_ne (hnew rfl) ..) rfl rfl hclients
  | report => exact h.frame rfl rfl (Function.update_of_ne (hnew rfl) ..) rfl hclients
  | connectionClosed => exact h.frame rfl rfl rfl (Function.update_of_ne (hnew rfl) ..) hclients
  | close hclient => exact h.close hclient (howned _ _ hclient)
  | nothing _ _ hreports hclosed =>
      exact h.frame rfl rfl (congrFun hreports id) (congrFun hclosed id) hclients

/-! ## One request -/

/-- A request in the maps, and what the library is handed for it. -/
theorem step_eq_some (hstep : s.step request = some s') :
    ∃ t, s.register request = some t ∧
      s' = { t with handed := s.handed ++ (request.registration.map s.hand).toList } := by
  obtain ⟨t, hregister, rfl⟩ := Option.map_eq_some_iff.mp hstep
  exact ⟨t, hregister, rfl⟩

theorem Numbered.step (hs : Numbered s) (hstep : s.step request = some s') : Numbered s' := by
  obtain ⟨t, hregister, rfl⟩ := step_eq_some hstep
  have hcounter := register_counter hregister
  cases hregistration : request.registration with
  | none =>
      rw [hregistration] at hcounter
      simp only [Option.map_none, Option.toList_none, List.append_nil]
      exact ⟨hcounter.trans hs.counter, hs.ids, hs.parameters⟩
  | some registration =>
      rw [hregistration] at hcounter
      simp only [Option.map_some, Option.toList_some]
      constructor
      · rw [List.length_append, List.length_singleton, ← hs.nextId_eq]
        exact hcounter
      · rw [List.map_append, List.length_append, List.length_singleton, List.range_succ,
          List.map_append, hs.ids]
        simp [Callbacks.hand, hs.nextId_eq]
      · intro h hh
        rcases List.mem_append.mp hh with hold | hnew
        · exact hs.parameters h hold
        · obtain rfl := List.mem_singleton.mp hnew
          rfl

/-- The id that a client keeps is of a handler of its own, after the request as well. -/
theorem Kept.owned_step (hs : Kept s) (hregister : s.register request = some s') {c : ℕ}
    {client' : Client} (hclient' : s'.client.clients c = some client')
    (hid : client'.closedHandlerId ≠ 0) :
    ∃ h ∈ s.handed ++ (request.registration.map s.hand).toList,
      h.id = client'.closedHandlerId ∧
        ∃ handler, h.registration = .connectionClosed c handler := by
  have hkept {client : Client} (hclient : s.client.clients c = some client)
      (hsame : client'.closedHandlerId = client.closedHandlerId) :
      ∃ h ∈ s.handed ++ (request.registration.map s.hand).toList,
        h.id = client'.closedHandlerId ∧
          ∃ handler, h.registration = .connectionClosed c handler := by
    rw [hsame] at hid ⊢
    obtain ⟨h, hh, howner⟩ := hs.owned c client hclient hid
    exact ⟨h, List.mem_append_left _ hh, howner⟩
  rcases clients_register hregister with ⟨call, hrequest, hstep⟩ | hsame
  · cases clientChange_of_step hstep hclient' with
    | created _ hnew =>
        subst hnew
        exact absurd rfl hid
    | closed _ _ hzero => exact absurd hzero hid
    | kept hclient _ hsame => exact hkept hclient hsame
    | @installed _ handler hcall _ _ hnext =>
        subst hcall hrequest
        refine ⟨s.hand (.connectionClosed c handler), ?_, hnext.symm, handler, rfl⟩
        simp [HandlerRequest.registration]
  · rw [hsame] at hclient'
    exact hkept hclient' rfl

/-- As long as the ids have not been used up, the handlers are kept. -/
theorem Kept.step (hs : Kept s) (hnumbered : Numbered s) (hstep : s.step request = some s')
    (hcount : s'.handed.length < 2 ^ 32) : Kept s' := by
  obtain ⟨t, hregister, rfl⟩ := step_eq_some hstep
  have hlength : s.handed.length + (request.registration.map s.hand).toList.length < 2 ^ 32 := by
    simpa using hcount
  constructor
  · intro h hh
    rcases List.mem_append.mp hh with hold | hnew
    · apply (hs.stored h hold).register hregister
      · intro hsome
        obtain ⟨registration, hregistration⟩ := Option.isSome_iff_exists.mp hsome
        rw [hregistration] at hlength
        exact hnumbered.nextId_ne hlength hold
      · intro c client hclient hzero hid
        obtain ⟨h', hh', hid', howner⟩ := hs.owned c client hclient hzero
        have hnodup := hnumbered.nodup (by omega)
        obtain rfl := List.inj_on_of_nodup_map hnodup hold hh' (hid.trans hid'.symm)
        exact howner
    · obtain ⟨registration, hregistration, rfl⟩ :=
        Option.map_eq_some_iff.mp (Option.mem_toList.mp hnew)
      exact stored_new hregister hregistration
  · intro c client hclient hzero
    exact hs.owned_step hregister hclient hzero

end

/-! ## Runs -/

section

variable {s s' : Callbacks w Node Write Control Report Closed}
  {requests : List (HandlerRequest Node Write Control Report Closed)}

theorem handed_run (hrun : run Callbacks.step s requests = some s') :
    s'.handed.map Handed.registration =
      s.handed.map Handed.registration ++ requests.filterMap HandlerRequest.registration := by
  induction requests generalizing s with
  | nil =>
      obtain rfl := Option.some.inj hrun
      exact (List.append_nil _).symm
  | cons request requests ih =>
      obtain ⟨t, hstep, hrest⟩ := Option.bind_eq_some_iff.mp hrun
      obtain ⟨t, -, rfl⟩ := step_eq_some hstep
      rw [ih hrest, List.map_append, List.append_assoc]
      cases hregistration : request.registration with
      | none => simp [hregistration]
      | some registration => simp [hregistration, Callbacks.hand]

/-- The ids are counted through the whole run, and the handlers kept. -/
theorem kept_run (hnumbered : Numbered s) (hkept : Kept s)
    (hrun : run Callbacks.step s requests = some s') (hcount : s'.handed.length < 2 ^ 32) :
    Numbered s' ∧ Kept s' := by
  induction requests generalizing s with
  | nil =>
      obtain rfl := Option.some.inj hrun
      exact ⟨hnumbered, hkept⟩
  | cons request requests ih =>
      obtain ⟨t, hstep, hrest⟩ := Option.bind_eq_some_iff.mp hrun
      have hlength : t.handed.length ≤ s'.handed.length := by
        have hmore := congrArg List.length (handed_run hrest)
        simp only [List.length_append, List.length_map] at hmore
        omega
      exact ih (hnumbered.step hstep) (hkept.step hnumbered hstep (by omega)) hrest

/-- Without a call of `Close`, no client is closed. -/
theorem Disconnected.of_run {c : ℕ} (h : Disconnected s'.client.clients c)
    (hrun : run Callbacks.step s requests = some s') (hclose : .client (.close c) ∉ requests) :
    Disconnected s.client.clients c := by
  induction requests generalizing s with
  | nil =>
      obtain rfl := Option.some.inj hrun
      exact h
  | cons request requests ih =>
      obtain ⟨t, hstep, hrest⟩ := Option.bind_eq_some_iff.mp hrun
      have hlater := ih hrest fun hmem => hclose (List.mem_cons_of_mem _ hmem)
      obtain ⟨t, hregister, rfl⟩ := step_eq_some hstep
      have hgone : Disconnected t.client.clients c := hlater
      apply hgone.of_register hregister
      intro hrequest
      apply hclose
      rw [hrequest]
      exact List.mem_cons_self

end

/-! ## The bridges find the handlers -/

section

variable {s : Callbacks w Node Write Control Report Closed}
  {requests : List (HandlerRequest Node Write Control Report Closed)}

theorem numbered_initial : Numbered ({} : Callbacks w Node Write Control Report Closed) :=
  ⟨rfl, rfl, List.forall_mem_nil _⟩

theorem kept_initial : Kept ({} : Callbacks w Node Write Control Report Closed) :=
  ⟨List.forall_mem_nil _, fun _ _ hclient => by cases hclient⟩

/-- A handler that is stored under the id of the parameter is called by the bridge. -/
theorem Stored.served {parameter : BitVec w}
    {registration : Registration Node Write Control Report Closed}
    (h : Stored s (callbackId parameter) registration)
    (hclose : ∀ c, Disconnected s.client.clients c → .client (.close c) ∈ requests) :
    Served Float ClientReport s requests parameter registration := by
  cases registration with
  | writeAccess modelNode handler =>
      have hcall : s.writeAccessCallbacks (callbackId parameter) = some ⟨modelNode, handler⟩ := h
      intro value
      unfold Callbacks.writeAccessHandlerBridge
      constructor
      · intro goValue hvalue
        simp only [hcall, hvalue]
      · intro err hvalue
        simp only [hcall, hvalue]
  | control modelNode handler =>
      have hcall : s.controlCallbacks (callbackId parameter) = some ⟨modelNode, handler⟩ := h
      intro action ctlVal test
      unfold Callbacks.controlHandlerBridge
      constructor
      · intro goValue hvalue
        simp only [hcall, hvalue]
      · intro err hvalue
        simp only [hcall, hvalue]
  | report c objectReference rptId function =>
      have hcall : s.client.reportCallbacks (callbackId parameter) = some function := h
      intro report
      rw [Callbacks.reportCallbackFunctionBridge, hcall, Option.map_some]
  | connectionClosed c handler =>
      rcases h with hcall | ⟨hnone, hgone⟩
      · exact ⟨fun _ => hcall, fun called hcalled => Option.some.inj (hcalled.symm.trans hcall)⟩
      · constructor
        · intro hopen
          exact absurd (hclose c hgone) hopen
        · intro called hcalled
          cases hnone.symm.trans hcalled

/-- In a run with fewer registrations than there are ids, each has an id of its own, other
than zero, which the bridge gets back from the pointer and under which it finds the handler. -/
theorem registrations_served (Float ClientReport : Type) (hw : 32 ≤ w)
    (hrun : run Callbacks.step ({} : Callbacks w Node Write Control Report Closed) requests =
      some s)
    (hcount : (requests.filterMap HandlerRequest.registration).length < 2 ^ 32) :
    s.handed.map Handed.registration = requests.filterMap HandlerRequest.registration ∧
      (s.handed.map Handed.id).Nodup ∧
      ∀ h ∈ s.handed, h.id ≠ 0 ∧ callbackId h.parameter = h.id ∧
        Served Float ClientReport s requests h.parameter h.registration := by
  have hregistrations : s.handed.map Handed.registration =
      requests.filterMap HandlerRequest.registration := by
    simpa using handed_run hrun
  have hlength : s.handed.length < 2 ^ 32 := by
    rw [← hregistrations, List.length_map] at hcount
    exact hcount
  obtain ⟨hnumbered, hkept⟩ := kept_run numbered_initial kept_initial hrun hlength
  have hclose : ∀ c, Disconnected s.client.clients c → .client (.close c) ∈ requests := by
    intro c hgone
    by_contra hopen
    obtain ⟨client, hclient, -⟩ := hgone.of_run hrun hopen
    cases hclient
  refine ⟨hregistrations, hnumbered.nodup hlength, fun h hh => ?_⟩
  have hid : callbackId h.parameter = h.id := by
    rw [hnumbered.parameters h hh, callbackId_intToPointerBug58625 hw]
  refine ⟨hnumbered.id_ne_zero hlength hh, hid, ?_⟩
  have hstored := hkept.stored h hh
  rw [← hid] at hstored
  exact hstored.served hclose

/-- One registration of each kind, and a second one of two kinds; every handler and every
node has a number of its own. -/
def sixHandlers : List (HandlerRequest ℕ ℕ ℕ ℕ ℕ) :=
  [.setHandleWriteAccess (some 7) 1, .setControlHandler (some 8) 2, .client (.newClient 0),
    .client (.installReportHandler 0 (lit "LD0/LLN0.RP.rcb01") (lit "rcb01") 3),
    .client (.installConnectionClosedHandler 0 (some 4)), .setHandleWriteAccess none 0,
    .setHandleWriteAccess (some 9) 5,
    .client (.installReportHandler 0 (lit "LD0/LLN0.BR.rcb02") (lit "rcb02") 6),
    .client (.uninstallReportHandler 0 (lit "LD0/LLN0.RP.rcb01"))]

theorem registrations_served_sixHandlers :
    ∃ s : Callbacks 64 ℕ ℕ ℕ ℕ ℕ, run Callbacks.step {} sixHandlers = some s ∧
      (s.handed.map Handed.id).Nodup ∧
      ∀ h ∈ s.handed, h.id ≠ 0 ∧ callbackId h.parameter = h.id ∧
        Served Unit Unit s sixHandlers h.parameter h.registration := by
  obtain ⟨s, hrun⟩ : ∃ s : Callbacks 64 ℕ ℕ ℕ ℕ ℕ,
      run Callbacks.step {} sixHandlers = some s := ⟨_, rfl⟩
  exact ⟨s, hrun, (registrations_served Unit Unit (by decide) hrun (by decide)).2⟩

end

end Iec61850.Mms
