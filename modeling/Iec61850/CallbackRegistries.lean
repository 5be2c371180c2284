import Iec61850.CText
import Iec61850.LiveRegistry
import Iec61850.StepRuns

/-!
# The callback registries of the client

Handlers for lost connections and for reports are kept in two global maps under
an id, which is what the library hands back when it calls the bridge.  The id
comes from one counter that the server's handlers use as well.
-/

namespace Iec61850.Mms

open Go Registry Transition

/-- A report handler of a connection, as the library keeps it. -/
structure InstalledReportHandler where
  rptId : Str
  parameter : Int32
  deriving DecidableEq

/-- What the library keeps for a connection: the parameter of the handler for
its loss, and one report handler for each RCB reference. -/
structure Connection where
  closedHandler : Option Int32 := none
  reportHandlers : Str → Option InstalledReportHandler := fun _ => none

structure Client where
  conn : Connection := {}
  connected : Bool := true
  closedHandlerId : Int32 := 0

/-- The global variables, and the clients created so far. -/
structure Registries (ConnectionClosedHandler ReportCallbackFunction : Type) where
  clients : ℕ → Option Client := fun _ => none
  callbackIdGen : Int32 := 0
  connectionClosedCallbacks : Int32 → Option ConnectionClosedHandler := fun _ => none
  reportCallbacks : Int32 → Option ReportCallbackFunction := fun _ => none

inductive Call (ConnectionClosedHandler ReportCallbackFunction : Type)
  | newClient (c : ℕ)
  | installConnectionClosedHandler (c : ℕ) (handler : Option ConnectionClosedHandler)
  | installReportHandler (c : ℕ) (objectReference rptId : Str)
      (function : ReportCallbackFunction)
  | uninstallReportHandler (c : ℕ) (objectReference : Str)
  | close (c : ℕ)
  /-- `SetHandleWriteAccess` or `SetControlHandler` of a server takes an id. -/
  | serverHandler

variable {ClosedHandler ReportHandler : Type}

namespace Registries

/-- `callbackIdGen.Add(1)` -/
def nextId (s : Registries ClosedHandler ReportHandler) : Int32 := s.callbackIdGen + 1

def setClient (s : Registries ClosedHandler ReportHandler) (c : ℕ) (client : Client) :
    Registries ClosedHandler ReportHandler :=
  { s with clients := Function.update s.clients c (some client) }

def installConnectionClosedHandler (s : Registries ClosedHandler ReportHandler) (c : ℕ)
    (client : Client) (handler : Option ClosedHandler) :
    Registries ClosedHandler ReportHandler :=
  match handler with
  | none => s
  | some handler =>
      { s.setClient c { client with
          conn := { client.conn with closedHandler := some s.nextId }
          closedHandlerId := s.nextId } with
        callbackIdGen := s.nextId
        connectionClosedCallbacks :=
          Function.update s.connectionClosedCallbacks s.nextId (some handler) }

/-- The library replaces the handler of the same RCB reference. -/
def installReportHandler (s : Registries ClosedHandler ReportHandler) (c : ℕ)
    (client : Client) (objectReference rptId : Str) (function : ReportHandler) :
    Registries ClosedHandler ReportHandler :=
  { s.setClient c { client with
      conn := { client.conn with
        reportHandlers := Function.update client.conn.reportHandlers (cString objectReference)
          (some ⟨cString rptId, s.nextId⟩) } } with
    callbackIdGen := s.nextId
    reportCallbacks := Function.update s.reportCallbacks s.nextId (some function) }

def uninstallReportHandler (s : Registries ClosedHandler ReportHandler) (c : ℕ)
    (client : Client) (objectReference : Str) : Registries ClosedHandler ReportHandler :=
  s.setClient c { client with
    conn := { client.conn with
      reportHandlers :=
        Function.update client.conn.reportHandlers (cString objectReference) none } }

/-- The first `Close` destroys the connection, and with it what the library has
installed. -/
def close (s : Registries ClosedHandler ReportHandler) (c : ℕ) (client : Client) :
    Registries ClosedHandler ReportHandler :=
  if client.connected then
    { s.setClient c { client with
        conn := {}
        connected := false
        closedHandlerId := 0 } with
      connectionClosedCallbacks :=
        if client.closedHandlerId ≠ 0 then
          discard (· = client.closedHandlerId) s.connectionClosedCallbacks
        else s.connectionClosedCallbacks }
  else s

end Registries

/-- A call on a client that has been created; a new client is none of those. -/
def step (s : Registries ClosedHandler ReportHandler) :
    Call ClosedHandler ReportHandler → Option (Registries ClosedHandler ReportHandler)
  | .newClient c =>
      match s.clients c with
      | some _ => none
      | none => some (s.setClient c {})
  | .installConnectionClosedHandler c handler =>
      (s.clients c).map fun client => s.installConnectionClosedHandler c client handler
  | .installReportHandler c objectReference rptId function =>
      (s.clients c).map fun client =>
        s.installReportHandler c client objectReference rptId function
  | .uninstallReportHandler c objectReference =>
      (s.clients c).map fun client => s.uninstallReportHandler c client objectReference
  | .close c => (s.clients c).map fun client => s.close c client
  | .serverHandler => some { s with callbackIdGen := s.nextId }

/-! ## Who holds an id -/

/-- The handler that an open client has installed for the loss of its connection. -/
def HoldsClosed (clients : ℕ → Option Client) (c : ℕ) (id : Int32) : Prop :=
  ∃ client, clients c = some client ∧ client.connected = true ∧
    client.closedHandlerId = id ∧ id ≠ 0

/-- The handler of an open client and an RCB reference. -/
def HoldsReport (clients : ℕ → Option Client) (owner : ℕ × Str) (id : Int32) : Prop :=
  ∃ client installed, clients owner.1 = some client ∧ client.connected = true ∧
    client.conn.reportHandlers owner.2 = some installed ∧ installed.parameter = id

/-- The maps have exactly the ids of the handlers that are installed. -/
structure LiveCallbacks (s : Registries ClosedHandler ReportHandler) : Prop where
  closed : Live (HoldsClosed s.clients) s.connectionClosedCallbacks
  reports : Live (HoldsReport s.clients) s.reportCallbacks

/-- No handler is replaced, uninstalled or left behind by the call. -/
def KeepsHandlers (s : Registries ClosedHandler ReportHandler) :
    Call ClosedHandler ReportHandler → Prop
  | .installConnectionClosedHandler c (some _) =>
      ∀ client, s.clients c = some client →
        client.connected = true ∧ client.closedHandlerId = 0
  | .installReportHandler c objectReference _ _ =>
      ∀ client, s.clients c = some client →
        client.connected = true ∧ client.conn.reportHandlers (cString objectReference) = none
  | .uninstallReportHandler c objectReference =>
      ∀ client, s.clients c = some client →
        client.connected = true → client.conn.reportHandlers (cString objectReference) = none
  | .close c =>
      ∀ client, s.clients c = some client → client.connected = true →
        ∀ objectReference, client.conn.reportHandlers objectReference = none
  | _ => True

/-- The id that the call takes for a handler is not in use, nor the zero that
stands for no handler. -/
def TakesFreeId (s : Registries ClosedHandler ReportHandler) :
    Call ClosedHandler ReportHandler → Prop
  | .installConnectionClosedHandler _ (some _) =>
      s.nextId ≠ 0 ∧ s.connectionClosedCallbacks s.nextId = none
  | .installReportHandler _ _ _ _ => s.reportCallbacks s.nextId = none
  | _ => True

def Orderly (s : Registries ClosedHandler ReportHandler)
    (call : Call ClosedHandler ReportHandler) : Prop :=
  KeepsHandlers s call ∧ TakesFreeId s call

/-! ## One client changes -/

section Update

variable {clients : ℕ → Option Client} {c : ℕ} {client client' : Client}

theorem holdsClosed_update (c' : ℕ) (id : Int32) :
    HoldsClosed (Function.update clients c (some client')) c' id ↔
      if c' = c then client'.connected = true ∧ client'.closedHandlerId = id ∧ id ≠ 0
      else HoldsClosed clients c' id := by
  unfold HoldsClosed
  by_cases hc : c' = c
  · subst hc
    simp
  · rw [if_neg hc, Function.update_of_ne hc]

theorem holdsReport_update (owner : ℕ × Str) (id : Int32) :
    HoldsReport (Function.update clients c (some client')) owner id ↔
      if owner.1 = c then client'.connected = true ∧
        ∃ installed, client'.conn.reportHandlers owner.2 = some installed ∧
          installed.parameter = id
      else HoldsReport clients owner id := by
  unfold HoldsReport
  by_cases hc : owner.1 = c
  · rw [if_pos hc, hc]
    simp
  · rw [if_neg hc, Function.update_of_ne hc]

theorem holdsClosed_iff_of_eq (hclient : clients c = some client) (id : Int32) :
    HoldsClosed clients c id ↔
      client.connected = true ∧ client.closedHandlerId = id ∧ id ≠ 0 := by
  unfold HoldsClosed
  simp [hclient]

theorem holdsReport_iff_of_eq (hclient : clients c = some client) (ref : Str) (id : Int32) :
    HoldsReport clients (c, ref) id ↔ client.connected = true ∧
      ∃ installed, client.conn.reportHandlers ref = some installed ∧
        installed.parameter = id := by
  unfold HoldsReport
  simp [hclient]

/-- The client keeps its handler for the loss of the connection. -/
theorem holdsClosed_update_same (hclient : clients c = some client)
    (hconnected : client'.connected = client.connected)
    (hhandler : client'.closedHandlerId = client.closedHandlerId) (c' : ℕ) (id : Int32) :
    HoldsClosed clients c' id ↔
      HoldsClosed (Function.update clients c (some client')) c' id := by
  rw [holdsClosed_update]
  split
  next hc =>
    subst hc
    rw [holdsClosed_iff_of_eq hclient, hconnected, hhandler]
  next => exact Iff.rfl

/-- The client keeps its report handlers. -/
theorem holdsReport_update_same (hclient : clients c = some client)
    (hconnected : client'.connected = client.connected)
    (hhandlers : client'.conn.reportHandlers = client.conn.reportHandlers)
    (owner : ℕ × Str) (id : Int32) :
    HoldsReport clients owner id ↔
      HoldsReport (Function.update clients c (some client')) owner id := by
  rw [holdsReport_update]
  obtain ⟨c', ref⟩ := owner
  split
  next hc =>
    obtain rfl : c' = c := hc
    rw [holdsReport_iff_of_eq hclient, hconnected, hhandlers]
  next => exact Iff.rfl

/-- A new client holds nothing. -/
theorem holdsClosed_update_new (hclient : clients c = none) (c' : ℕ) (id : Int32) :
    HoldsClosed clients c' id ↔
      HoldsClosed (Function.update clients c (some {})) c' id := by
  rw [holdsClosed_update]
  split
  next hc =>
    subst hc
    constructor
    · rintro ⟨client, hsome, -⟩
      rw [hclient] at hsome
      cases hsome
    · rintro ⟨-, hzero, hne⟩
      exact absurd hzero.symm hne
  next => exact Iff.rfl

theorem holdsReport_update_new (hclient : clients c = none) (owner : ℕ × Str) (id : Int32) :
    HoldsReport clients owner id ↔
      HoldsReport (Function.update clients c (some {})) owner id := by
  rw [holdsReport_update]
  split
  next hc =>
    constructor
    · rintro ⟨client, installed, hsome, -⟩
      rw [hc, hclient] at hsome
      cases hsome
    · rintro ⟨-, installed, hsome, -⟩
      cases hsome
  next => exact Iff.rfl

/-- A handler for the loss of the connection takes the place of the last one. -/
theorem holdsClosed_update_install (hconnected : client'.connected = true)
    (hzero : client'.closedHandlerId ≠ 0) (c' : ℕ) (id : Int32) :
    HoldsClosed (Function.update clients c (some client')) c' id ↔
      taken (givenUp (HoldsClosed clients) fun owner _ => owner = c) c
        client'.closedHandlerId c' id := by
  rw [holdsClosed_update]
  unfold taken givenUp
  by_cases hc : c' = c
  · simp only [hc, if_true, hconnected, not_true, and_false, false_or, true_and]
    constructor
    · rintro ⟨hid, -⟩
      exact hid.symm
    · rintro rfl
      exact ⟨rfl, hzero⟩
  · simp [hc]

/-- The client gives up its handler for the loss of the connection. -/
theorem holdsClosed_update_leave
    (hleft : client'.connected = false ∨ client'.closedHandlerId = 0) (c' : ℕ) (id : Int32) :
    HoldsClosed (Function.update clients c (some client')) c' id ↔
      givenUp (HoldsClosed clients) (fun owner _ => owner = c) c' id := by
  rw [holdsClosed_update]
  unfold givenUp
  by_cases hc : c' = c
  · simp only [hc, if_true, not_true, and_false, iff_false]
    rintro ⟨hconnected, hid, hzero⟩
    rcases hleft with hclosed | hnone
    · rw [hclosed] at hconnected
      cases hconnected
    · exact hzero (hid.symm.trans hnone)
  · simp [hc]

/-- A report handler takes the place of the last one for the same reference. -/
theorem holdsReport_update_install (client' : Client) (hclient : clients c = some client)
    (hconnected : client.connected = true) {ref : Str} {installed : InstalledReportHandler}
    (hsame : client'.connected = client.connected)
    (hhandlers : client'.conn.reportHandlers =
      Function.update client.conn.reportHandlers ref (some installed))
    (owner : ℕ × Str) (id : Int32) :
    HoldsReport (Function.update clients c (some client')) owner id ↔
      taken (givenUp (HoldsReport clients) fun owner _ => owner = (c, ref)) (c, ref)
        installed.parameter owner id := by
  obtain ⟨c', ref'⟩ := owner
  rw [holdsReport_update, hsame, hconnected, hhandlers]
  unfold taken givenUp
  by_cases hc : c' = c
  · subst hc
    by_cases href : ref' = ref
    · subst href
      simp [eq_comm]
    · simp [href, holdsReport_iff_of_eq hclient, hconnected]
  · simp [hc]

theorem holdsReport_update_uninstall (hclient : clients c = some client) {ref : Str}
    (hsame : client'.connected = client.connected)
    (hhandlers : client'.conn.reportHandlers =
      Function.update client.conn.reportHandlers ref none)
    (owner : ℕ × Str) (id : Int32) :
    HoldsReport (Function.update clients c (some client')) owner id ↔
      givenUp (HoldsReport clients) (fun owner _ => owner = (c, ref)) owner id := by
  obtain ⟨c', ref'⟩ := owner
  rw [holdsReport_update, hsame, hhandlers]
  unfold givenUp
  by_cases hc : c' = c
  · subst hc
    by_cases href : ref' = ref
    · subst href
      simp
    · simp [href, holdsReport_iff_of_eq hclient]
  · simp [hc]

theorem holdsReport_update_leave (hclosed : client'.connected = false) (owner : ℕ × Str)
    (id : Int32) :
    HoldsReport (Function.update clients c (some client')) owner id ↔
      givenUp (HoldsReport clients) (fun owner _ => owner.1 = c) owner id := by
  rw [holdsReport_update]
  unfold givenUp
  by_cases hc : owner.1 = c
  · simp [hc, hclosed]
  · simp [hc]

theorem not_holdsClosed_iff (hclient : clients c = some client) :
    (∀ owner id, owner = c → ¬ HoldsClosed clients owner id) ↔
      (client.connected = true → client.closedHandlerId = 0) := by
  constructor
  · intro hnothing hconnected
    by_contra hne
    exact hnothing c _ rfl ((holdsClosed_iff_of_eq hclient _).mpr ⟨hconnected, rfl, hne⟩)
  · rintro hnone owner id rfl howner
    obtain ⟨hconnected, hid, hne⟩ := (holdsClosed_iff_of_eq hclient id).mp howner
    exact hne (hid.symm.trans (hnone hconnected))

theorem not_holdsReport_iff (hclient : clients c = some client) (ref : Str) :
    (∀ id, ¬ HoldsReport clients (c, ref) id) ↔
      (client.connected = true → client.conn.reportHandlers ref = none) := by
  constructor
  · intro hnothing hconnected
    by_contra hne
    obtain ⟨installed, hinstalled⟩ := Option.ne_none_iff_exists'.mp hne
    exact hnothing _ ((holdsReport_iff_of_eq hclient ref _).mpr
      ⟨hconnected, installed, hinstalled, rfl⟩)
  · rintro hnone id howner
    obtain ⟨hconnected, installed, hinstalled, -⟩ :=
      (holdsReport_iff_of_eq hclient ref id).mp howner
    rw [hnone hconnected] at hinstalled
    cases hinstalled

end Update

/-! ## One call -/

/-- No id is held twice. -/
structure UnsharedIds (clients : ℕ → Option Client) : Prop where
  closed : Unshared (HoldsClosed clients)
  reports : Unshared (HoldsReport clients)

theorem liveCallbacks_initial :
    LiveCallbacks ({} : Registries ClosedHandler ReportHandler) := by
  constructor
  · exact live_empty fun c id ⟨client, hclient, _⟩ => by cases hclient
  · exact live_empty fun owner id ⟨client, installed, hclient, _⟩ => by cases hclient

theorem unsharedIds_initial : UnsharedIds (fun _ => none) := by
  constructor
  · rintro c c' id ⟨client, hclient, -⟩
    cases hclient
  · rintro owner owner' id ⟨client, installed, hclient, -⟩
    cases hclient

variable {s s' : Registries ClosedHandler ReportHandler} {c : ℕ} {client : Client}

/-- The maps and the clients agree. -/
structure Registered (s : Registries ClosedHandler ReportHandler) : Prop where
  live : LiveCallbacks s
  unshared : UnsharedIds s.clients

theorem liveCallbacks_installConnectionClosedHandler (hs : Registered s)
    (hclient : s.clients c = some client) (handler : ClosedHandler) (hzero : s.nextId ≠ 0)
    (hfree : s.connectionClosedCallbacks s.nextId = none) :
    LiveCallbacks (s.installConnectionClosedHandler c client (some handler)) ↔
      client.connected = true ∧ client.closedHandlerId = 0 := by
  let client' : Client := { client with
    conn := { client.conn with closedHandler := some s.nextId }
    closedHandlerId := s.nextId }
  have hsame : ∀ owner id, HoldsReport s.clients owner id ↔
      HoldsReport (Function.update s.clients c (some client')) owner id :=
    holdsReport_update_same hclient rfl rfl
  have hreports : Live (HoldsReport (Function.update s.clients c (some client')))
      s.reportCallbacks := (live_congr hsame).mp hs.live.reports
  have hunheld := hs.live.closed.not_holds hfree
  have hclosed : Live (HoldsClosed (Function.update s.clients c (some client')))
      (Function.update s.connectionClosedCallbacks s.nextId (some handler)) ↔
      client.connected = true ∧ client.closedHandlerId = 0 := by
    by_cases hconnected : client.connected = true
    · have hholds : ∀ c' id, HoldsClosed (Function.update s.clients c (some client')) c' id ↔
          taken (givenUp (HoldsClosed s.clients) fun owner _ => owner = c) c s.nextId c' id :=
        holdsClosed_update_install hconnected hzero
      rw [live_congr hholds, live_enter_iff hfree fun owner h => hunheld owner h.1,
        hs.live.closed.leave_iff hs.unshared.closed, not_holdsClosed_iff hclient]
      simp [hconnected]
    · have hholds : ∀ c' id, HoldsClosed (Function.update s.clients c (some client')) c' id ↔
          givenUp (HoldsClosed s.clients) (fun owner _ => owner = c) c' id :=
        holdsClosed_update_leave (Or.inl (by simpa using hconnected))
      refine iff_of_false (fun hlive => ?_) fun h => hconnected h.1
      obtain ⟨owner, howner⟩ := (hlive s.nextId).mp (by simp)
      exact hunheld owner ((hholds owner s.nextId).mp howner).1
  exact ⟨fun h => hclosed.mp h.closed, fun h => ⟨hclosed.mpr h, hreports⟩⟩

theorem liveCallbacks_installReportHandler (hs : Registered s)
    (hclient : s.clients c = some client) (ref rptId : Str) (function : ReportHandler)
    (hfree : s.reportCallbacks s.nextId = none) :
    LiveCallbacks (s.installReportHandler c client ref rptId function) ↔
      client.connected = true ∧ client.conn.reportHandlers (cString ref) = none := by
  let client' : Client := { client with
    conn := { client.conn with
      reportHandlers := Function.update client.conn.reportHandlers (cString ref)
        (some ⟨cString rptId, s.nextId⟩) } }
  have hsame : ∀ c' id, HoldsClosed s.clients c' id ↔
      HoldsClosed (Function.update s.clients c (some client')) c' id :=
    holdsClosed_update_same hclient rfl rfl
  have hclosed : Live (HoldsClosed (Function.update s.clients c (some client')))
      s.connectionClosedCallbacks := (live_congr hsame).mp hs.live.closed
  have hunheld := hs.live.reports.not_holds hfree
  have hreports : Live (HoldsReport (Function.update s.clients c (some client')))
      (Function.update s.reportCallbacks s.nextId (some function)) ↔
      client.connected = true ∧ client.conn.reportHandlers (cString ref) = none := by
    by_cases hconnected : client.connected = true
    · have hholds : ∀ owner id, HoldsReport (Function.update s.clients c (some client')) owner id ↔
          taken (givenUp (HoldsReport s.clients) fun owner _ => owner = (c, cString ref))
            (c, cString ref) s.nextId owner id :=
        holdsReport_update_install client' hclient hconnected rfl rfl
      rw [live_congr hholds, live_enter_iff hfree fun owner h => hunheld owner h.1,
        hs.live.reports.leave_iff hs.unshared.reports]
      have hnothing := not_holdsReport_iff hclient (cString ref)
      simp only [hconnected, forall_const] at hnothing
      simp only [hconnected, true_and, ← hnothing]
      exact ⟨fun h id => h _ id rfl, fun h owner id howner => howner ▸ h id⟩
    · refine iff_of_false (fun hlive => ?_) fun h => hconnected h.1
      obtain ⟨owner, howner⟩ := (hlive s.nextId).mp (by simp)
      rw [holdsReport_update] at howner
      split at howner
      next => exact hconnected howner.1
      next => exact hunheld owner howner
  exact ⟨fun h => hreports.mp h.reports, fun h => ⟨hclosed, hreports.mpr h⟩⟩

theorem liveCallbacks_uninstallReportHandler (hs : Registered s)
    (hclient : s.clients c = some client) (ref : Str) :
    LiveCallbacks (s.uninstallReportHandler c client ref) ↔
      (client.connected = true → client.conn.reportHandlers (cString ref) = none) := by
  let client' : Client := { client with
    conn := { client.conn with
      reportHandlers := Function.update client.conn.reportHandlers (cString ref) none } }
  have hsame : ∀ c' id, HoldsClosed s.clients c' id ↔
      HoldsClosed (Function.update s.clients c (some client')) c' id :=
    holdsClosed_update_same hclient rfl rfl
  have hclosed : Live (HoldsClosed (Function.update s.clients c (some client')))
      s.connectionClosedCallbacks := (live_congr hsame).mp hs.live.closed
  have hholds : ∀ owner id, HoldsReport (Function.update s.clients c (some client')) owner id ↔
      givenUp (HoldsReport s.clients) (fun owner _ => owner = (c, cString ref)) owner id :=
    holdsReport_update_uninstall hclient rfl rfl
  have hreports : Live (HoldsReport (Function.update s.clients c (some client')))
      s.reportCallbacks ↔
      (client.connected = true → client.conn.reportHandlers (cString ref) = none) := by
    rw [live_congr hholds, hs.live.reports.leave_iff hs.unshared.reports,
      ← not_holdsReport_iff hclient (cString ref)]
    exact ⟨fun h id => h _ id rfl, fun h owner id howner => howner ▸ h id⟩
  exact ⟨fun h => hreports.mp h.reports, fun h => ⟨hclosed, hreports.mpr h⟩⟩

theorem liveCallbacks_close (hs : Registered s) (hclient : s.clients c = some client) :
    LiveCallbacks (s.close c client) ↔
      (client.connected = true → ∀ ref, client.conn.reportHandlers ref = none) := by
  unfold Registries.close
  by_cases hconnected : client.connected = true
  · simp only [hconnected, if_true, forall_const]
    let client' : Client := { conn := {}, connected := false, closedHandlerId := 0 }
    have hclosedHolds : ∀ c' id, HoldsClosed (Function.update s.clients c (some client')) c' id ↔
        givenUp (HoldsClosed s.clients) (fun owner _ => owner = c) c' id :=
      holdsClosed_update_leave (Or.inl rfl)
    have hreportHolds : ∀ owner id,
        HoldsReport (Function.update s.clients c (some client')) owner id ↔
          givenUp (HoldsReport s.clients) (fun owner _ => owner.1 = c) owner id :=
      holdsReport_update_leave rfl
    have hclosed : Live (HoldsClosed (Function.update s.clients c (some client')))
        (if client.closedHandlerId ≠ 0 then
          discard (· = client.closedHandlerId) s.connectionClosedCallbacks
        else s.connectionClosedCallbacks) := by
      rw [live_congr hclosedHolds]
      split
      next hne =>
        refine hs.live.closed.leave hs.unshared.closed (· = c) fun id => ?_
        simp only [exists_eq_left, holdsClosed_iff_of_eq hclient, hconnected, true_and]
        constructor
        · rintro rfl
          exact ⟨rfl, hne⟩
        · exact fun h => h.1.symm
      next hzero =>
        rw [hs.live.closed.leave_iff hs.unshared.closed, not_holdsClosed_iff hclient]
        exact fun _ => not_not.mp hzero
    have hreports : Live (HoldsReport (Function.update s.clients c (some client')))
        s.reportCallbacks ↔ ∀ ref, client.conn.reportHandlers ref = none := by
      rw [live_congr hreportHolds, hs.live.reports.leave_iff hs.unshared.reports]
      have hnothing := fun ref => not_holdsReport_iff hclient ref
      simp only [hconnected, forall_const] at hnothing
      simp only [← hnothing]
      constructor
      · exact fun h ref id => h _ id rfl
      · rintro h ⟨c', ref⟩ id rfl
        exact h ref id
    exact ⟨fun h => hreports.mp h.reports, fun h => ⟨hclosed, hreports.mpr h⟩⟩
  · simp only [hconnected, if_false, Bool.false_eq_true, false_imp_iff, iff_true]
    exact hs.live

/-- In a state where the maps and the clients agree, they still agree after a call
if and only if the call leaves no handler behind. -/
theorem liveCallbacks_step_iff {call : Call ClosedHandler ReportHandler} (hs : Registered s)
    (hfree : TakesFreeId s call) (hstep : step s call = some s') :
    LiveCallbacks s' ↔ KeepsHandlers s call := by
  cases call with
  | newClient c =>
      simp only [step] at hstep
      split at hstep
      next => cases hstep
      next hnew =>
        obtain rfl := Option.some.inj hstep
        refine iff_of_true ⟨?_, ?_⟩ trivial
        · exact (live_congr (holdsClosed_update_new hnew)).mp hs.live.closed
        · exact (live_congr (holdsReport_update_new hnew)).mp hs.live.reports
  | installConnectionClosedHandler c handler =>
      obtain ⟨client, hclient, rfl⟩ := Option.map_eq_some_iff.mp hstep
      cases handler with
      | none => exact iff_of_true hs.live trivial
      | some handler =>
          rw [liveCallbacks_installConnectionClosedHandler hs hclient handler hfree.1 hfree.2]
          simp [KeepsHandlers, hclient]
  | installReportHandler c ref rptId function =>
      obtain ⟨client, hclient, rfl⟩ := Option.map_eq_some_iff.mp hstep
      rw [liveCallbacks_installReportHandler hs hclient ref rptId function hfree]
      simp [KeepsHandlers, hclient]
  | uninstallReportHandler c ref =>
      obtain ⟨client, hclient, rfl⟩ := Option.map_eq_some_iff.mp hstep
      rw [liveCallbacks_uninstallReportHandler hs hclient ref]
      simp [KeepsHandlers, hclient]
  | close c =>
      obtain ⟨client, hclient, rfl⟩ := Option.map_eq_some_iff.mp hstep
      rw [liveCallbacks_close hs hclient]
      simp [KeepsHandlers, hclient]
  | serverHandler =>
      obtain rfl := Option.some.inj hstep
      exact iff_of_true ⟨hs.live.closed, hs.live.reports⟩ trivial

theorem unsharedIds_installConnectionClosedHandler (hs : Registered s)
    (hclient : s.clients c = some client) (handler : ClosedHandler) (hzero : s.nextId ≠ 0)
    (hfree : s.connectionClosedCallbacks s.nextId = none) :
    UnsharedIds (s.installConnectionClosedHandler c client (some handler)).clients := by
  let client' : Client := { client with
    conn := { client.conn with closedHandler := some s.nextId }
    closedHandlerId := s.nextId }
  have hsame : ∀ owner id, HoldsReport s.clients owner id ↔
      HoldsReport (Function.update s.clients c (some client')) owner id :=
    holdsReport_update_same hclient rfl rfl
  have hunheld := hs.live.closed.not_holds hfree
  have hkept : Unshared (givenUp (HoldsClosed s.clients) fun owner _ => owner = c) :=
    hs.unshared.closed.givenUp
  refine ⟨?_, hs.unshared.reports.congr hsame⟩
  by_cases hconnected : client.connected = true
  · have hholds : ∀ c' id, HoldsClosed (Function.update s.clients c (some client')) c' id ↔
        taken (givenUp (HoldsClosed s.clients) fun owner _ => owner = c) c s.nextId c' id :=
      holdsClosed_update_install hconnected hzero
    have htaken : Unshared (taken (givenUp (HoldsClosed s.clients) fun owner _ => owner = c) c
        s.nextId) := hkept.taken fun owner h => hunheld owner h.1
    exact htaken.congr fun c' id => (hholds c' id).symm
  · have hclosed : client'.connected = false := by simpa using hconnected
    exact hkept.congr fun c' id => (holdsClosed_update_leave (Or.inl hclosed) c' id).symm

theorem unsharedIds_installReportHandler (hs : Registered s)
    (hclient : s.clients c = some client) (ref rptId : Str) (function : ReportHandler)
    (hfree : s.reportCallbacks s.nextId = none) :
    UnsharedIds (s.installReportHandler c client ref rptId function).clients := by
  let client' : Client := { client with
    conn := { client.conn with
      reportHandlers := Function.update client.conn.reportHandlers (cString ref)
        (some ⟨cString rptId, s.nextId⟩) } }
  have hsame : ∀ c' id, HoldsClosed s.clients c' id ↔
      HoldsClosed (Function.update s.clients c (some client')) c' id :=
    holdsClosed_update_same hclient rfl rfl
  have hunheld := hs.live.reports.not_holds hfree
  have hkept : Unshared (givenUp (HoldsReport s.clients) fun owner _ => owner = (c, cString ref)) :=
    hs.unshared.reports.givenUp
  refine ⟨hs.unshared.closed.congr hsame, ?_⟩
  by_cases hconnected : client.connected = true
  · have hholds : ∀ owner id, HoldsReport (Function.update s.clients c (some client')) owner id ↔
        taken (givenUp (HoldsReport s.clients) fun owner _ => owner = (c, cString ref))
          (c, cString ref) s.nextId owner id :=
      holdsReport_update_install client' hclient hconnected rfl rfl
    have htaken : Unshared (taken (givenUp (HoldsReport s.clients) fun owner _ =>
        owner = (c, cString ref)) (c, cString ref) s.nextId) :=
      hkept.taken fun owner h => hunheld owner h.1
    exact htaken.congr fun owner id => (hholds owner id).symm
  · have hclosed : client'.connected = false := by simpa using hconnected
    have hleft : ∀ owner id, HoldsReport (Function.update s.clients c (some client')) owner id ↔
        givenUp (HoldsReport s.clients) (fun owner _ => owner.1 = c) owner id :=
      holdsReport_update_leave hclosed
    exact hs.unshared.reports.givenUp.congr fun owner id => (hleft owner id).symm

theorem unsharedIds_step {call : Call ClosedHandler ReportHandler} (hs : Registered s)
    (hfree : TakesFreeId s call) (hstep : step s call = some s') :
    UnsharedIds s'.clients := by
  cases call with
  | newClient c =>
      simp only [step] at hstep
      split at hstep
      next => cases hstep
      next hnew =>
        obtain rfl := Option.some.inj hstep
        exact ⟨hs.unshared.closed.congr (holdsClosed_update_new hnew),
          hs.unshared.reports.congr (holdsReport_update_new hnew)⟩
  | installConnectionClosedHandler c handler =>
      obtain ⟨client, hclient, rfl⟩ := Option.map_eq_some_iff.mp hstep
      cases handler with
      | none => exact hs.unshared
      | some handler =>
          exact unsharedIds_installConnectionClosedHandler hs hclient handler hfree.1 hfree.2
  | installReportHandler c ref rptId function =>
      obtain ⟨client, hclient, rfl⟩ := Option.map_eq_some_iff.mp hstep
      exact unsharedIds_installReportHandler hs hclient ref rptId function hfree
  | uninstallReportHandler c ref =>
      obtain ⟨client, hclient, rfl⟩ := Option.map_eq_some_iff.mp hstep
      let client' : Client := { client with
        conn := { client.conn with
          reportHandlers := Function.update client.conn.reportHandlers (cString ref) none } }
      have hsame : ∀ c' id, HoldsClosed s.clients c' id ↔
          HoldsClosed (Function.update s.clients c (some client')) c' id :=
        holdsClosed_update_same hclient rfl rfl
      have hleft : ∀ owner id,
          HoldsReport (Function.update s.clients c (some client')) owner id ↔
            givenUp (HoldsReport s.clients) (fun owner _ => owner = (c, cString ref)) owner id :=
        holdsReport_update_uninstall hclient rfl rfl
      exact ⟨hs.unshared.closed.congr hsame,
        hs.unshared.reports.givenUp.congr fun owner id => (hleft owner id).symm⟩
  | close c =>
      obtain ⟨client, hclient, rfl⟩ := Option.map_eq_some_iff.mp hstep
      unfold Registries.close
      split
      next =>
        have hclosed : ∀ c' id, HoldsClosed (Function.update s.clients c
            (some { conn := {}, connected := false, closedHandlerId := 0 })) c' id ↔
            givenUp (HoldsClosed s.clients) (fun owner _ => owner = c) c' id :=
          holdsClosed_update_leave (Or.inl rfl)
        have hreports : ∀ owner id, HoldsReport (Function.update s.clients c
            (some { conn := {}, connected := false, closedHandlerId := 0 })) owner id ↔
            givenUp (HoldsReport s.clients) (fun owner _ => owner.1 = c) owner id :=
          holdsReport_update_leave rfl
        exact ⟨hs.unshared.closed.givenUp.congr fun owner id => (hclosed owner id).symm,
          hs.unshared.reports.givenUp.congr fun owner id => (hreports owner id).symm⟩
      next => exact hs.unshared
  | serverHandler =>
      obtain rfl := Option.some.inj hstep
      exact hs.unshared

theorem registered_initial : Registered ({} : Registries ClosedHandler ReportHandler) :=
  ⟨liveCallbacks_initial, unsharedIds_initial⟩

/-! ## Runs -/

/-- In every state of every run whose calls replace, uninstall and leave behind no
handler and take no id that is in use, the maps have exactly the ids of the
handlers that are installed. -/
theorem liveCallbacks_of_orderly (s : Registries ClosedHandler ReportHandler)
    (hrun : Reaches step Orderly {} s) : LiveCallbacks s := by
  have hregistered : Registered s := by
    refine hrun.invariant registered_initial fun s call s' hs horderly hstep => ?_
    exact ⟨(liveCallbacks_step_iff hs horderly.2 hstep).mpr horderly.1,
      unsharedIds_step hs horderly.2 hstep⟩
  exact hregistered.live

/-- A client with a handler for each kind of event. -/
def twoHandlers : List (Call Unit Unit) :=
  [.newClient 0, .installConnectionClosedHandler 0 (some ()),
    .installReportHandler 0 (lit "LD0/LLN0.RP.rcb01") (lit "rcb01") ()]

theorem liveCallbacks_twoHandlers :
    ∃ s, run step ({} : Registries Unit Unit) twoHandlers = some s ∧ LiveCallbacks s := by
  refine ⟨_, rfl, liveCallbacks_of_orderly _ (Reaches.run .start twoHandlers ?_ rfl)⟩
  refine ⟨⟨trivial, trivial⟩, ?_⟩
  rintro _ ⟨⟩
  refine ⟨⟨?_, by decide, rfl⟩, ?_⟩
  · rintro client ⟨⟩
    exact ⟨rfl, rfl⟩
  rintro _ ⟨⟩
  refine ⟨⟨?_, rfl⟩, fun _ _ => trivial⟩
  rintro client ⟨⟩
  exact ⟨rfl, rfl⟩

/-- The library forgets the handler, and the map keeps it under the id 1. -/
theorem uninstalled_handler_stays :
    ∃ s, run step ({} : Registries Unit Unit)
        [.newClient 0, .installReportHandler 0 (lit "LD0/LLN0.RP.rcb01") (lit "rcb01") (),
          .uninstallReportHandler 0 (lit "LD0/LLN0.RP.rcb01")] = some s ∧
      ¬ LiveCallbacks s := by
  refine ⟨_, rfl, fun h => ?_⟩
  obtain ⟨owner, client, installed, hclient, -, hinstalled, -⟩ := (h.reports 1).mp rfl
  by_cases howner : owner.1 = 0
  · rw [howner] at hclient
    obtain rfl := Option.some.inj hclient
    by_cases href : owner.2 = cString (lit "LD0/LLN0.RP.rcb01")
    · simp [href] at hinstalled
    · simp [href] at hinstalled
  · simp [Registries.setClient, Registries.uninstallReportHandler,
      Registries.installReportHandler, howner] at hclient

end Iec61850.Mms
