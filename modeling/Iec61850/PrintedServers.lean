import Iec61850.DataModelText

/-!
# The printed model of a server

Two servers are browsed, and their data models are printed.  The texts are the same
exactly when every request that the one gives rise to is one of the other too, and both
answer it alike.
-/

namespace Iec61850.Mms

open Go Linked Outlines

/-! ## What a server lists -/

namespace DirectoryServer

variable (server server' : DirectoryServer)

/-- The attributes that are listed below a reference, with their constraints. -/
def listedAttributes (ref : Str) : Outcome (List (Str × ℤ)) := do
  let rawNames ← server.getDataDirectoryFC ref
  return rawNames.map (splitConstraint server.functionalConstraintFromString)

/-- Both servers answer the request alike. -/
def Agrees : DirectoryRequest → Prop
  | .deviceModel => server.getDeviceModelFromServer = server'.getDeviceModelFromServer
  | .deviceList => server.getLogicalDeviceList = server'.getLogicalDeviceList
  | .deviceDirectory ldName =>
      server.getLogicalDeviceDirectory ldName = server'.getLogicalDeviceDirectory ldName
  | .nodeDirectory lnRef acsiClass =>
      server.getLogicalNodeDirectory lnRef acsiClass =
        server'.getLogicalNodeDirectory lnRef acsiClass
  | .dataDirectory ref => server.listedAttributes ref = server'.listedAttributes ref
  | .dataSetDirectory ref => server.getDataSetDirectory ref = server'.getDataSetDirectory ref

/-- What the first server is asked for, the second is asked for too, with the same
answer. -/
def AnswersAlike : Prop :=
  ∀ request, server.Requested request →
    server'.Requested request ∧ server.Agrees server' request

end DirectoryServer

/-- A name is split as it is listed. -/
theorem ListedAs.split_eq {fromString : Str → ℤ} {rawName data : Str} {fc : ℤ}
    (h : ListedAs fromString rawName data fc) :
    splitConstraint fromString rawName = (data, fc) := by
  have hsplit := listedAs_splitConstraint fromString rawName
  have hdata := hsplit.data_eq h
  apply Prod.ext hdata
  rw [hdata] at hsplit
  generalize (splitConstraint fromString rawName).2 = fc' at hsplit
  cases h with
  | plain hraw =>
      cases hsplit with
      | plain => rfl
      | constrained _ constraint hsame => exact absurd hsame (hraw _ _)
  | constrained _ constraint hraw =>
      cases hsplit with
      | plain hnone => exact absurd hraw (hnone _ _)
      | constrained _ constraint' hraw' =>
          have hsame := (List.cons.inj (List.append_cancel_left (hraw.symm.trans hraw'))).2
          rw [List.append_cancel_right hsame]

/-- Records that mirror names under their own names. -/
theorem forall₂_named {N X : Type} {R : N → X → Prop} {name : X → N}
    (hname : ∀ a x, R a x → name x = a) {names : List N} {xs : List X}
    (h : List.Forall₂ R names xs) : names = xs.map name ∧ ∀ x ∈ xs, R (name x) x := by
  induction h with
  | nil => exact ⟨rfl, fun x hx => absurd hx List.not_mem_nil⟩
  | cons hfirst _ ih =>
      obtain ⟨hnames, hrest⟩ := ih
      have hself := hname _ _ hfirst
      refine ⟨by rw [List.map_cons, hself, ← hnames], ?_⟩
      rw [List.forall_mem_cons]
      exact ⟨hself.symm ▸ hfirst, hrest⟩

/-- Records that are known by the names they mirror. -/
theorem forall₂_unique {N X : Type} {R R' : N → X → Prop} {names : List N} {xs ys : List X}
    (hxs : List.Forall₂ R names xs) (hys : List.Forall₂ R' names ys)
    (hunique : ∀ a ∈ names, ∀ x y, R a x → R' a y → x = y) : xs = ys := by
  induction hxs generalizing ys with
  | nil =>
      cases hys
      rfl
  | cons hfirst _ ih =>
      cases hys with
      | cons hfirst' hrest' =>
          obtain ⟨hhead, htail⟩ := List.forall_mem_cons.mp hunique
          rw [hhead _ _ hfirst hfirst', ih hrest' htail]

/-! ## Servers with one data model -/

namespace DirectoryServer

variable {server server' : DirectoryServer}

theorem forall₂_of_attributesMirror {parentRef : Str} {rawNames : List Str} {das : List DA}
    (h : server.AttributesMirror parentRef rawNames das) :
    List.Forall₂ (server.AttributeMirrors parentRef) rawNames das := by
  induction das generalizing rawNames with
  | nil =>
      rw [AttributesMirror] at h
      rw [h]
      exact .nil
  | cons da das ih =>
      rw [AttributesMirror] at h
      obtain ⟨rawName, rest, rfl, hfirst, hrest⟩ := h
      exact .cons hfirst (ih hrest)

/-- The name and the constraint of an attribute. -/
def attributeKey : DA → Str × ℤ
  | .mk data _ _ fc => (data, fc)

theorem split_attributesMirror {parentRef : Str} {rawNames : List Str} {das : List DA}
    (h : server.AttributesMirror parentRef rawNames das) :
    rawNames.map (splitConstraint server.functionalConstraintFromString) =
      das.map attributeKey := by
  have hpairs := forall₂_of_attributesMirror h
  induction hpairs with
  | nil => rfl
  | @cons rawName da rawNames das hfirst hrest ih =>
      cases da with
      | mk data sub ref fc =>
          rw [AttributeMirrors] at hfirst
          rw [List.map_cons, List.map_cons, ih (attributesMirror_of_forall₂ hrest),
            hfirst.1.split_eq]
          rfl

/-- What both servers answer about a request, where one data model mirrors both. -/
def Shared (server server' : DirectoryServer) : DirectoryRequest → Prop
  | .deviceModel =>
      server.getDeviceModelFromServer = .ok () ∧ server'.getDeviceModelFromServer = .ok ()
  | .deviceList =>
      ∃ names, server.getLogicalDeviceList = .ok names ∧ server'.getLogicalDeviceList = .ok names
  | .deviceDirectory ldName =>
      ∃ ld, server.DeviceMirrors ldName ld ∧ server'.DeviceMirrors ldName ld
  | .nodeDirectory lnRef acsiClass =>
      acsiClass ∈ browsedClasses ∧ ∃ ldName lnName ln, server.NodeMirrors ldName lnName ln ∧
        server'.NodeMirrors ldName lnName ln ∧ ln.ref = lnRef
  | .dataDirectory ref =>
      ∃ rawNames rawNames' das, server.getDataDirectoryFC ref = .ok rawNames ∧
        server'.getDataDirectoryFC ref = .ok rawNames' ∧
        server.AttributesMirror ref rawNames das ∧ server'.AttributesMirror ref rawNames' das
  | .dataSetDirectory ref =>
      ∃ answer, server.getDataSetDirectory ref = .ok answer ∧
        server'.getDataSetDirectory ref = .ok answer

/-- The names of one kind that are listed for a node. -/
def nodeNames (ln : LN) : ACSIClass → List Str
  | .dataObject => ln.dos.map DO.data
  | .dataSet => ln.dss.map DS.data
  | .urcb => ln.urReports.map URReport.data
  | .brcb => ln.brReports.map BRReport.data
  | _ => []

theorem NodeMirrors.directory {ldName lnName : Str} {ln : LN}
    (h : server.NodeMirrors ldName lnName ln) {acsiClass : ACSIClass}
    (hclass : acsiClass ∈ browsedClasses) :
    server.getLogicalNodeDirectory ln.ref acsiClass = .ok (nodeNames ln acsiClass) := by
  simp only [browsedClasses, List.mem_cons, List.not_mem_nil, or_false] at hclass
  rcases hclass with rfl | rfl | rfl | rfl
  · obtain ⟨names, hnames, hdos⟩ := h.dos
    rw [hnames, (forall₂_named (fun _ _ hobject => hobject.1) hdos).1]
    rfl
  · obtain ⟨names, hnames, hdss⟩ := h.dss
    rw [hnames, (forall₂_named (fun _ _ hdataSet => hdataSet.1) hdss).1]
    rfl
  · exact h.urReports.1
  · exact h.brReports.1

theorem DeviceMirrors.directory {ldName : Str} {ld : LD} (h : server.DeviceMirrors ldName ld) :
    server.getLogicalDeviceDirectory ldName = .ok (ld.lns.map LN.data) := by
  obtain ⟨-, names, hnames, hlns⟩ := h
  rw [hnames, (forall₂_named (fun _ _ hnode => hnode.data) hlns).1]

theorem Mirrors.deviceList {dm : DataModel} (h : server.Mirrors dm) :
    server.getLogicalDeviceList = .ok (dm.lds.map LD.data) := by
  obtain ⟨names, hnames, hlds⟩ := h
  rw [hnames, (forall₂_named (fun _ _ hdevice => hdevice.1) hlds).1]

/-- A server that shares the data model is asked for the same, and answers the same. -/
theorem Requested.shared {dm : DataModel} (hmirrors : server.Mirrors dm)
    (hmirrors' : server'.Mirrors dm) (hmodel : server.getDeviceModelFromServer = .ok ())
    (hmodel' : server'.getDeviceModelFromServer = .ok ()) {request : DirectoryRequest}
    (h : server.Requested request) :
    server'.Requested request ∧ server.Shared server' request := by
  induction h with
  | deviceModel => exact ⟨.deviceModel, hmodel, hmodel'⟩
  | deviceList => exact ⟨.deviceList, _, hmirrors.deviceList, hmirrors'.deviceList⟩
  | @deviceDirectory ldNames ldName hlist hld =>
      obtain rfl := Except.ok.inj (hmirrors.deviceList.symm.trans hlist)
      refine ⟨.deviceDirectory hmirrors'.deviceList hld, ?_⟩
      obtain ⟨ld, hmem, rfl⟩ := List.mem_map.mp hld
      obtain ⟨names, -, hlds⟩ := hmirrors
      obtain ⟨names', -, hlds'⟩ := hmirrors'
      exact ⟨ld, (forall₂_named (fun _ _ hdevice => hdevice.1) hlds).2 ld hmem,
        (forall₂_named (fun _ _ hdevice => hdevice.1) hlds').2 ld hmem⟩
  | @nodeDirectory ldName lnName lnNames acsiClass _ hlist hln hclass ih =>
      obtain ⟨hrequested, ld, hdevice, hdevice'⟩ := ih
      obtain rfl := Except.ok.inj (hdevice.directory.symm.trans hlist)
      refine ⟨.nodeDirectory hrequested hdevice'.directory hln hclass, hclass, ?_⟩
      obtain ⟨ln, hmem, rfl⟩ := List.mem_map.mp hln
      obtain ⟨-, names, -, hlns⟩ := hdevice
      obtain ⟨-, names', -, hlns'⟩ := hdevice'
      have hnode := (forall₂_named (fun _ _ hnode => hnode.data) hlns).2 ln hmem
      exact ⟨ldName, ln.data, ln, hnode,
        (forall₂_named (fun _ _ hnode => hnode.data) hlns').2 ln hmem, hnode.ref⟩
  | @dataObject lnRef doName doNames _ hlist hdo ih =>
      obtain ⟨hrequested, hclass, ldName, lnName, ln, hnode, hnode', rfl⟩ := ih
      obtain rfl := Except.ok.inj ((hnode.directory hclass).symm.trans hlist)
      refine ⟨.dataObject hrequested (hnode'.directory hclass) hdo, ?_⟩
      obtain ⟨object, hmem, rfl⟩ := List.mem_map.mp hdo
      obtain ⟨names, -, hdos⟩ := hnode.dos
      obtain ⟨names', -, hdos'⟩ := hnode'.dos
      obtain ⟨-, rawNames, hraw, hdas⟩ :=
        (forall₂_named (fun _ _ hobject => hobject.1) hdos).2 object hmem
      obtain ⟨-, rawNames', hraw', hdas'⟩ :=
        (forall₂_named (fun _ _ hobject => hobject.1) hdos').2 object hmem
      exact ⟨rawNames, rawNames', object.das, hraw, hraw', hdas, hdas'⟩
  | @subAttribute ref rawName rawNames _ hlist hraw ih =>
      obtain ⟨hrequested, names, names', das, hnames, hnames', hdas, hdas'⟩ := ih
      obtain rfl := Except.ok.inj (hnames.symm.trans hlist)
      obtain ⟨da, hmem, hda⟩ := exists_mem_of_forall₂ (forall₂_of_attributesMirror hdas) hraw
      obtain ⟨rawName', hraw', hda'⟩ := exists_mem_of_forall₂
        (List.Forall₂.flip (forall₂_of_attributesMirror hdas')) hmem
      cases da with
      | mk data sub subRef fc =>
          rw [AttributeMirrors] at hda hda'
          obtain ⟨hlisted, rfl, subNames, hsubNames, hsub⟩ := hda
          obtain ⟨hlisted', -, subNames', hsubNames', hsub'⟩ := hda'
          have hchild : server.childRef ref rawName = ref ++ lit "." ++ data := by
            rw [childRef, hlisted.split_eq]
          have hchild' : server'.childRef ref rawName' = ref ++ lit "." ++ data := by
            rw [childRef, hlisted'.split_eq]
          have hasked := hrequested.subAttribute hnames' hraw'
          rw [hchild'] at hasked
          rw [hchild]
          exact ⟨hasked, subNames, subNames', sub, hsubNames, hsubNames', hsub, hsub'⟩
  | @dataSet lnRef dsName dsNames _ hlist hds ih =>
      obtain ⟨hrequested, hclass, ldName, lnName, ln, hnode, hnode', rfl⟩ := ih
      obtain rfl := Except.ok.inj ((hnode.directory hclass).symm.trans hlist)
      refine ⟨.dataSet hrequested (hnode'.directory hclass) hds, ?_⟩
      obtain ⟨ds, hmem, rfl⟩ := List.mem_map.mp hds
      obtain ⟨names, -, hdss⟩ := hnode.dss
      obtain ⟨names', -, hdss'⟩ := hnode'.dss
      exact ⟨_, ((forall₂_named (fun _ _ hdataSet => hdataSet.1) hdss).2 ds hmem).2,
        ((forall₂_named (fun _ _ hdataSet => hdataSet.1) hdss').2 ds hmem).2⟩

theorem Shared.agrees {request : DirectoryRequest} (h : server.Shared server' request) :
    server.Agrees server' request := by
  cases request with
  | deviceModel => exact h.1.trans h.2.symm
  | deviceList =>
      obtain ⟨names, hnames, hnames'⟩ := h
      exact hnames.trans hnames'.symm
  | deviceDirectory ldName =>
      obtain ⟨ld, hdevice, hdevice'⟩ := h
      exact hdevice.directory.trans hdevice'.directory.symm
  | nodeDirectory lnRef acsiClass =>
      obtain ⟨hclass, ldName, lnName, ln, hnode, hnode', rfl⟩ := h
      exact (hnode.directory hclass).trans (hnode'.directory hclass).symm
  | dataDirectory ref =>
      obtain ⟨rawNames, rawNames', das, hraw, hraw', hdas, hdas'⟩ := h
      rw [Agrees, listedAttributes, listedAttributes, hraw, hraw', ok_bind, ok_bind,
        split_attributesMirror hdas, split_attributesMirror hdas']
  | dataSetDirectory ref =>
      obtain ⟨answer, hanswer, hanswer'⟩ := h
      exact hanswer.trans hanswer'.symm

/-! ## Servers that answer alike -/

theorem AnswersAlike.listedAttributes_eq (halike : server.AnswersAlike server') {ref : Str}
    (hrequested : server.Requested (.dataDirectory ref)) {rawNames rawNames' : List Str}
    (hraw : server.getDataDirectoryFC ref = .ok rawNames)
    (hraw' : server'.getDataDirectoryFC ref = .ok rawNames') :
    rawNames.map (splitConstraint server.functionalConstraintFromString) =
      rawNames'.map (splitConstraint server'.functionalConstraintFromString) := by
  have hagrees : server.listedAttributes ref = server'.listedAttributes ref :=
    (halike _ hrequested).2
  rw [listedAttributes, listedAttributes, hraw, hraw', ok_bind, ok_bind] at hagrees
  exact Except.ok.inj hagrees

theorem AnswersAlike.attributes_eq (halike : server.AnswersAlike server') {parentRef : Str}
    {rawNames rawNames' : List Str} {das das' : List DA}
    (hdas : server.AttributesMirror parentRef rawNames das)
    (hdas' : server'.AttributesMirror parentRef rawNames' das')
    (hsplit : rawNames.map (splitConstraint server.functionalConstraintFromString) =
      rawNames'.map (splitConstraint server'.functionalConstraintFromString))
    (hrequested : ∀ rawName ∈ rawNames,
      server.Requested (.dataDirectory (server.childRef parentRef rawName))) : das = das' := by
  have hkeys : das.map attributeKey = das'.map attributeKey := by
    rw [← split_attributesMirror hdas, hsplit, split_attributesMirror hdas']
  clear hsplit
  induction das using attributesOutline.induct generalizing parentRef rawNames rawNames' das' with
  | case1 => exact (List.map_eq_nil_iff.mp hkeys.symm).symm
  | case2 data sub ref fc rest ihd ihr =>
      cases das' with
      | nil => cases hkeys
      | cons da' rest' =>
          cases da' with
          | mk data' sub' ref' fc' =>
              obtain ⟨hkey, hrestKeys⟩ := List.cons.inj hkeys
              obtain ⟨rfl, rfl⟩ := Prod.mk.inj hkey
              rw [AttributesMirror] at hdas hdas'
              obtain ⟨rawName, others, rfl, hda, hrest⟩ := hdas
              obtain ⟨rawName', others', rfl, hda', hrest'⟩ := hdas'
              obtain ⟨hfirst, hothers⟩ := List.forall_mem_cons.mp hrequested
              rw [AttributeMirrors] at hda hda'
              obtain ⟨hlisted, rfl, subNames, hsubNames, hsub⟩ := hda
              obtain ⟨-, rfl, subNames', hsubNames', hsub'⟩ := hda'
              rw [childRef, hlisted.split_eq] at hfirst
              have hsplit := halike.listedAttributes_eq hfirst hsubNames hsubNames'
              have hsubs : sub = sub' := by
                apply ihd hsub hsub' fun name hname => hfirst.subAttribute hsubNames hname
                rw [← split_attributesMirror hsub, hsplit, split_attributesMirror hsub']
              rw [hsubs, ihr hrest hrest' hothers hrestKeys]

theorem AnswersAlike.objects_eq (halike : server.AnswersAlike server') {lnRef doName : Str}
    {object object' : DO} (h : server.ObjectMirrors lnRef doName object)
    (h' : server'.ObjectMirrors lnRef doName object')
    (hrequested : server.Requested (.dataDirectory (lnRef ++ lit "." ++ doName))) :
    object = object' := by
  obtain ⟨hdata, rawNames, hraw, hdas⟩ := h
  obtain ⟨hdata', rawNames', hraw', hdas'⟩ := h'
  have hsame : object.das = object'.das := halike.attributes_eq hdas hdas'
    (halike.listedAttributes_eq hrequested hraw hraw')
    fun name hname => hrequested.subAttribute hraw hname
  cases object
  cases object'
  rw [DO.mk.injEq]
  exact ⟨hdata.trans hdata'.symm, hsame⟩

theorem AnswersAlike.dataSets_eq (halike : server.AnswersAlike server') {lnRef dsName : Str}
    {ds ds' : DS} (h : server.DataSetMirrors lnRef dsName ds)
    (h' : server'.DataSetMirrors lnRef dsName ds')
    (hrequested : server.Requested (.dataSetDirectory (lnRef ++ lit "." ++ dsName))) :
    ds = ds' := by
  obtain ⟨hdata, hmembers⟩ := h
  obtain ⟨hdata', hmembers'⟩ := h'
  have hagrees : server.getDataSetDirectory (lnRef ++ lit "." ++ dsName) =
      server'.getDataSetDirectory (lnRef ++ lit "." ++ dsName) := (halike _ hrequested).2
  rw [hmembers, hmembers'] at hagrees
  obtain ⟨hrefs, hdeletable⟩ := Prod.mk.inj (Except.ok.inj hagrees)
  have hsame : ds.dsRefs = ds'.dsRefs := by
    apply map_inj_of_mem _ hrefs
    rintro ⟨data⟩ - ⟨data'⟩ - hmember
    rw [DSRef.mk.injEq]
    exact hmember
  cases ds
  cases ds'
  rw [DS.mk.injEq]
  exact ⟨hdata.trans hdata'.symm, hsame, hdeletable⟩

theorem AnswersAlike.nodes_eq (halike : server.AnswersAlike server') {ldName lnName : Str}
    {ln ln' : LN} (h : server.NodeMirrors ldName lnName ln)
    (h' : server'.NodeMirrors ldName lnName ln')
    (hrequested : ∀ acsiClass ∈ browsedClasses,
      server.Requested (.nodeDirectory (ldName ++ lit "/" ++ lnName) acsiClass)) : ln = ln' := by
  have href : ln.ref = ln'.ref := h.ref.trans h'.ref.symm
  have hnames : ∀ acsiClass ∈ browsedClasses, nodeNames ln acsiClass = nodeNames ln' acsiClass := by
    intro acsiClass hclass
    have hagrees := (halike _ (hrequested acsiClass hclass)).2
    rw [Agrees, ← h.ref, h.directory hclass, href, h'.directory hclass] at hagrees
    exact Except.ok.inj hagrees
  have hdos : ln.dos = ln'.dos := by
    have hclass : ACSIClass.dataObject ∈ browsedClasses := by simp [browsedClasses]
    obtain ⟨names, hlisted, hobjects⟩ := h.dos
    obtain ⟨names', hlisted', hobjects'⟩ := h'.dos
    have hdata : names = names' := by
      rw [(forall₂_named (fun _ _ hobject => hobject.1) hobjects).1,
        (forall₂_named (fun _ _ hobject => hobject.1) hobjects').1]
      exact hnames _ hclass
    subst hdata
    rw [← href] at hobjects'
    apply forall₂_unique hobjects hobjects'
    intro name hname object object' hobject hobject'
    apply halike.objects_eq hobject hobject'
    rw [h.ref] at hlisted ⊢
    exact (hrequested _ hclass).dataObject hlisted hname
  have hdss : ln.dss = ln'.dss := by
    have hclass : ACSIClass.dataSet ∈ browsedClasses := by simp [browsedClasses]
    obtain ⟨names, hlisted, hdataSets⟩ := h.dss
    obtain ⟨names', hlisted', hdataSets'⟩ := h'.dss
    have hdata : names = names' := by
      rw [(forall₂_named (fun _ _ hdataSet => hdataSet.1) hdataSets).1,
        (forall₂_named (fun _ _ hdataSet => hdataSet.1) hdataSets').1]
      exact hnames _ hclass
    subst hdata
    rw [← href] at hdataSets'
    apply forall₂_unique hdataSets hdataSets'
    intro name hname ds ds' hds hds'
    apply halike.dataSets_eq hds hds'
    rw [h.ref] at hlisted ⊢
    exact (hrequested _ hclass).dataSet hlisted hname
  have hurs : ln.urReports = ln'.urReports := by
    apply map_inj_of_mem _ (hnames .urcb (by simp [browsedClasses]))
    intro r hr r' hr' hdata
    have hrefs := h.urReports.2 r hr
    rw [href, hdata, ← h'.urReports.2 r' hr'] at hrefs
    cases r
    cases r'
    rw [URReport.mk.injEq]
    exact ⟨hdata, hrefs⟩
  have hbrs : ln.brReports = ln'.brReports := by
    apply map_inj_of_mem _ (hnames .brcb (by simp [browsedClasses]))
    intro r hr r' hr' hdata
    have hrefs := h.brReports.2 r hr
    rw [href, hdata, ← h'.brReports.2 r' hr'] at hrefs
    cases r
    cases r'
    rw [BRReport.mk.injEq]
    exact ⟨hdata, hrefs⟩
  have hdata := h.data.trans h'.data.symm
  cases ln
  cases ln'
  rw [LN.mk.injEq]
  exact ⟨hdata, href, hdos, hdss, hurs, hbrs⟩

theorem AnswersAlike.devices_eq (halike : server.AnswersAlike server') {ldName : Str}
    {ld ld' : LD} (h : server.DeviceMirrors ldName ld) (h' : server'.DeviceMirrors ldName ld')
    (hrequested : server.Requested (.deviceDirectory ldName)) : ld = ld' := by
  have hagrees : server.getLogicalDeviceDirectory ldName =
      server'.getLogicalDeviceDirectory ldName := (halike _ hrequested).2
  obtain ⟨hdata, names, hlisted, hlns⟩ := h
  obtain ⟨hdata', names', hlisted', hlns'⟩ := h'
  rw [hlisted, hlisted'] at hagrees
  obtain rfl := Except.ok.inj hagrees
  have hsame : ld.lns = ld'.lns := forall₂_unique hlns hlns' fun name hname ln ln' hln hln' =>
    halike.nodes_eq hln hln' fun acsiClass hclass =>
      hrequested.nodeDirectory hlisted hname hclass
  cases ld
  cases ld'
  rw [LD.mk.injEq]
  exact ⟨hdata.trans hdata'.symm, hsame⟩

/-- Servers that answer alike have one data model. -/
theorem AnswersAlike.dataModel_eq (halike : server.AnswersAlike server') {dm dm' : DataModel}
    (h : server.Mirrors dm) (h' : server'.Mirrors dm') : dm = dm' := by
  obtain ⟨names, hlisted, hlds⟩ := h
  obtain ⟨names', hlisted', hlds'⟩ := h'
  have hagrees : server.getLogicalDeviceList = server'.getLogicalDeviceList :=
    (halike _ .deviceList).2
  rw [hlisted, hlisted'] at hagrees
  obtain rfl := Except.ok.inj hagrees
  have hsame : dm.lds = dm'.lds := forall₂_unique hlds hlds' fun name hname ld ld' hld hld' =>
    halike.devices_eq hld hld' (.deviceDirectory hlisted hname)
  cases dm
  cases dm'
  rw [DataModel.mk.injEq]
  exact hsame

/-! ## References that can be told from names -/

/-- The node with the reference that it has in its device. -/
def referredNode (ldData : Str) (ln : LN) : LN := { ln with ref := ldData ++ lit "/" ++ ln.data }

def referredDevice (ld : LD) : LD := { ld with lns := ld.lns.map (referredNode ld.data) }

theorem Mirrors.referred {dm : DataModel} (h : server.Mirrors dm) :
    dm.withoutRefs.lds.map referredDevice = dm.lds := by
  obtain ⟨names, -, hlds⟩ := h
  have hdevices := (forall₂_named (fun _ _ hdevice => hdevice.1) hlds).2
  rw [DataModel.withoutRefs, List.map_map]
  conv_rhs => rw [← List.map_id dm.lds]
  apply List.map_congr_left
  intro ld hld
  obtain ⟨-, names, -, hlns⟩ := hdevices ld hld
  have hnodes := (forall₂_named (fun _ _ hnode => hnode.data) hlns).2
  have hsame : (ld.lns.map LN.withoutRef).map (referredNode ld.data) = ld.lns := by
    rw [List.map_map]
    conv_rhs => rw [← List.map_id ld.lns]
    apply List.map_congr_left
    intro ln hln
    have href := (hnodes ln hln).ref
    cases ln
    rw [id, LN.mk.injEq]
    exact ⟨rfl, href.symm, rfl, rfl, rfl, rfl⟩
  cases ld
  rw [id, LD.mk.injEq]
  exact ⟨rfl, hsame⟩

theorem dataModel_eq_of_withoutRefs {dm dm' : DataModel} (h : server.Mirrors dm)
    (h' : server'.Mirrors dm') (hsame : dm.withoutRefs = dm'.withoutRefs) : dm = dm' := by
  have hlds : dm.lds = dm'.lds := by
    rw [← h.referred, hsame, h'.referred]
  cases dm
  cases dm'
  rw [DataModel.mk.injEq]
  exact hlds

theorem mirrors_of_getDataModel {n : ℕ} {dm : DataModel}
    (h : server.getDataModel n = some (dm, none)) :
    server.Mirrors dm ∧ server.getDeviceModelFromServer = .ok () := by
  rcases getDataModel_cases h with ⟨dataModel, hbrowse, hresult⟩ | ⟨err, -, hresult⟩
  · obtain rfl := (Prod.mk.inj hresult).1
    obtain ⟨⟨⟩, hmodel, -⟩ := bind_eq_ok.mp hbrowse
    exact ⟨browse_mirrors hbrowse, hmodel⟩
  · cases (Prod.mk.inj hresult).2

end DirectoryServer

/-- The printed models of two servers are the same exactly when the servers answer all
that is asked alike. -/
theorem servers_printed_alike_iff {fcString : ℤ → Str} {fcs : Set ℤ}
    (hfc : ∀ fc ∈ fcs, OneLine (fcString fc)) (hinj : Set.InjOn fcString fcs)
    (server server' : DirectoryServer) {n n' : ℕ} {dm dm' : DataModel}
    (h : server.getDataModel n = some (dm, none))
    (h' : server'.getDataModel n' = some (dm', none))
    (hplain : dm.Plain fcs) (hplain' : dm'.Plain fcs) :
    dm.string fcString = dm'.string fcString ↔ server.AnswersAlike server' := by
  obtain ⟨hmirrors, hmodel⟩ := DirectoryServer.mirrors_of_getDataModel h
  obtain ⟨hmirrors', hmodel'⟩ := DirectoryServer.mirrors_of_getDataModel h'
  constructor
  · intro htext
    have hsame := DataModel.withoutRefs_eq hfc hinj hplain hplain' htext
    obtain rfl := DirectoryServer.dataModel_eq_of_withoutRefs hmirrors hmirrors' hsame
    intro request hrequested
    obtain ⟨hrequested', hshared⟩ := hrequested.shared hmirrors hmirrors' hmodel hmodel'
    exact ⟨hrequested', hshared.agrees⟩
  · intro halike
    rw [halike.dataModel_eq hmirrors hmirrors']

/-- The sample server, which fails where it is not asked. -/
def quietDirectoryServer : DirectoryServer :=
  { sampleDirectoryServer with dataSetDirectory := fun _ => .error .serviceNotSupported }

def listedDataModel : DataModel where
  lds := [{
    data := lit "LD0"
    lns := [{
      data := lit "LLN0"
      ref := lit "LD0/LLN0"
      dos := [{
        data := lit "Mod"
        das := [.mk (lit "stVal") [] (lit "LD0/LLN0.Mod.stVal") 0] }] }] }]

theorem listedDataModel_plain : listedDataModel.Plain {0, 1} := by
  have hword : ∀ s ∈ [lit "stVal", lit "LD0/LLN0.Mod.stVal"], ' ' ∉ s ∧ '\n' ∉ s := by decide
  have hline : ∀ s ∈ [lit "LD0", lit "LLN0", lit "Mod"], '\n' ∉ s := by decide
  intro line hmem
  simp only [DataModel.outline, listedDataModel, LD.outline, LN.outline, DO.outline,
    attributesOutline, List.map_cons, List.map_nil, List.append_nil, preorder_cons, preorder_nil,
    List.mem_cons, List.not_mem_nil, or_false] at hmem
  rcases hmem with rfl | rfl | rfl | rfl
  · exact hline _ (by simp)
  · exact hline _ (by simp)
  · exact hline _ (by simp)
  · exact ⟨hword _ (by simp), hword _ (by simp), by simp⟩

theorem servers_printed_alike_iff_sample :
    listedDataModel.string sampleConstraint = listedDataModel.string sampleConstraint ↔
      sampleDirectoryServer.AnswersAlike quietDirectoryServer := by
  have hlisted : sampleDirectoryServer.getDataModel 2 = some (listedDataModel, none) := rfl
  have hquiet : quietDirectoryServer.getDataModel 2 = some (listedDataModel, none) := rfl
  exact servers_printed_alike_iff sampleConstraint_plain sampleConstraint_inj
    sampleDirectoryServer quietDirectoryServer hlisted hquiet listedDataModel_plain
    listedDataModel_plain

end Iec61850.Mms
