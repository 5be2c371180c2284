import Iec61850.DirectoryModel

/-!
# The data model mirrors the directories

What a returned data model contains, and when one is returned.
-/

namespace Iec61850.Mms

open Go

/-! ## What is mirrored -/

/-- How a name and a constraint are listed: the last pair of brackets at the end
holds the constraint. -/
inductive ListedAs (fromString : Str → ℤ) (rawName : Str) : Str → ℤ → Prop
  | constrained (data constraint : Str) (hraw : rawName = data ++ '[' :: (constraint ++ [']']))
      (hlast : '[' ∉ constraint) : ListedAs fromString rawName data (fromString constraint)
  | plain (hraw : ∀ data constraint, rawName ≠ data ++ '[' :: (constraint ++ [']'])) :
      ListedAs fromString rawName rawName NONE

namespace DirectoryServer

variable (server : DirectoryServer)

mutual

/-- The attribute and all below it are what the server lists. -/
def AttributeMirrors (parentRef rawName : Str) : DA → Prop
  | .mk data das ref fc =>
      ListedAs server.functionalConstraintFromString rawName data fc ∧
        ref = parentRef ++ lit "." ++ data ∧
        ∃ rawNames, server.getDataDirectoryFC ref = .ok rawNames ∧
          AttributesMirror ref rawNames das

def AttributesMirror (parentRef : Str) : List Str → List DA → Prop
  | rawNames, [] => rawNames = []
  | rawNames, da :: das =>
      ∃ rawName rest, rawNames = rawName :: rest ∧ AttributeMirrors parentRef rawName da ∧
        AttributesMirror parentRef rest das

end

def ObjectMirrors (lnRef doName : Str) (object : DO) : Prop :=
  object.data = doName ∧
    ∃ rawNames, server.getDataDirectoryFC (lnRef ++ lit "." ++ doName) = .ok rawNames ∧
      server.AttributesMirror (lnRef ++ lit "." ++ doName) rawNames object.das

def DataSetMirrors (lnRef dsName : Str) (ds : DS) : Prop :=
  ds.data = dsName ∧
    server.getDataSetDirectory (lnRef ++ lit "." ++ dsName) =
      .ok (ds.dsRefs.map DSRef.data, ds.isDeletable)

structure NodeMirrors (ldName lnName : Str) (ln : LN) : Prop where
  data : ln.data = lnName
  ref : ln.ref = ldName ++ lit "/" ++ lnName
  dos : ∃ names, server.getLogicalNodeDirectory ln.ref .dataObject = .ok names ∧
    List.Forall₂ (server.ObjectMirrors ln.ref) names ln.dos
  dss : ∃ names, server.getLogicalNodeDirectory ln.ref .dataSet = .ok names ∧
    List.Forall₂ (server.DataSetMirrors ln.ref) names ln.dss
  urReports : server.getLogicalNodeDirectory ln.ref .urcb = .ok (ln.urReports.map URReport.data) ∧
    ∀ report ∈ ln.urReports, report.ref = ln.ref ++ lit "." ++ report.data
  brReports : server.getLogicalNodeDirectory ln.ref .brcb = .ok (ln.brReports.map BRReport.data) ∧
    ∀ report ∈ ln.brReports, report.ref = ln.ref ++ lit "." ++ report.data

def DeviceMirrors (ldName : Str) (ld : LD) : Prop :=
  ld.data = ldName ∧
    ∃ names, server.getLogicalDeviceDirectory ldName = .ok names ∧
      List.Forall₂ (server.NodeMirrors ldName) names ld.lns

def Mirrors (dataModel : DataModel) : Prop :=
  ∃ names, server.getLogicalDeviceList = .ok names ∧
    List.Forall₂ server.DeviceMirrors names dataModel.lds

end DirectoryServer

/-! ## What is requested -/

inductive DirectoryRequest
  | deviceModel
  | deviceList
  | deviceDirectory (ldName : Str)
  | nodeDirectory (lnRef : Str) (acsiClass : ACSIClass)
  | dataDirectory (ref : Str)
  | dataSetDirectory (ref : Str)

def errorOf {α : Type} : Outcome α → Option Str
  | .error (.error err) => some err
  | _ => none

namespace DirectoryServer

variable (server : DirectoryServer)

/-- The error of a request that fails. -/
def failure : DirectoryRequest → Option Str
  | .deviceModel => errorOf server.getDeviceModelFromServer
  | .deviceList => errorOf server.getLogicalDeviceList
  | .deviceDirectory ldName => errorOf (server.getLogicalDeviceDirectory ldName)
  | .nodeDirectory lnRef acsiClass => errorOf (server.getLogicalNodeDirectory lnRef acsiClass)
  | .dataDirectory ref => errorOf (server.getDataDirectoryFC ref)
  | .dataSetDirectory ref => errorOf (server.getDataSetDirectory ref)

def browsedClasses : List ACSIClass := [.dataObject, .dataSet, .urcb, .brcb]

/-- The reference below which a listed attribute is browsed. -/
def childRef (ref rawName : Str) : Str :=
  ref ++ lit "." ++ (splitConstraint server.functionalConstraintFromString rawName).1

/-- The requests that the answers of the server give rise to. -/
inductive Requested : DirectoryRequest → Prop
  | deviceModel : Requested .deviceModel
  | deviceList : Requested .deviceList
  | deviceDirectory {ldNames : List Str} {ldName : Str}
      (hlist : server.getLogicalDeviceList = .ok ldNames) (hld : ldName ∈ ldNames) :
      Requested (.deviceDirectory ldName)
  | nodeDirectory {ldName lnName : Str} {lnNames : List Str} {acsiClass : ACSIClass}
      (hld : Requested (.deviceDirectory ldName))
      (hlist : server.getLogicalDeviceDirectory ldName = .ok lnNames) (hln : lnName ∈ lnNames)
      (hclass : acsiClass ∈ browsedClasses) :
      Requested (.nodeDirectory (ldName ++ lit "/" ++ lnName) acsiClass)
  | dataObject {lnRef doName : Str} {doNames : List Str}
      (hln : Requested (.nodeDirectory lnRef .dataObject))
      (hlist : server.getLogicalNodeDirectory lnRef .dataObject = .ok doNames)
      (hdo : doName ∈ doNames) : Requested (.dataDirectory (lnRef ++ lit "." ++ doName))
  | subAttribute {ref rawName : Str} {rawNames : List Str} (href : Requested (.dataDirectory ref))
      (hlist : server.getDataDirectoryFC ref = .ok rawNames) (hraw : rawName ∈ rawNames) :
      Requested (.dataDirectory (server.childRef ref rawName))
  | dataSet {lnRef dsName : Str} {dsNames : List Str}
      (hln : Requested (.nodeDirectory lnRef .dataSet))
      (hlist : server.getLogicalNodeDirectory lnRef .dataSet = .ok dsNames)
      (hds : dsName ∈ dsNames) : Requested (.dataSetDirectory (lnRef ++ lit "." ++ dsName))

/-- The answers below this reference form a finite tree. -/
inductive FiniteBelow : Str → Prop
  | intro (ref : Str)
      (hbelow : ∀ rawNames, server.getDataDirectoryFC ref = .ok rawNames →
        ∀ rawName ∈ rawNames, FiniteBelow (server.childRef ref rawName)) : FiniteBelow ref

def FiniteTree : Prop :=
  ∀ ref, server.Requested (.dataDirectory ref) → server.FiniteBelow ref

end DirectoryServer

/-! ## The names and constraints -/

theorem lastIndex_eq_some {s : Str} {c : Char} {i : ℕ} (h : lastIndex s c = some i) :
    ∃ before after, s = before ++ c :: after ∧ c ∉ after ∧ i = before.length := by
  unfold lastIndex at h
  split at h
  next hmem =>
    obtain ⟨after, before, hreverse, hafter⟩ :=
      List.eq_append_cons_of_mem (List.mem_reverse.mpr hmem)
    have hs : s = before.reverse ++ c :: after.reverse := by
      have hback := congrArg List.reverse hreverse
      simpa using hback
    refine ⟨before.reverse, after.reverse, hs, by simpa using hafter, ?_⟩
    obtain rfl := Option.some.inj h
    rw [hreverse, List.idxOf_append_of_notMem hafter, List.idxOf_cons_self, hs]
    simp only [List.length_append, List.length_cons, List.length_reverse]
    omega
  next => cases h

theorem lastIndex_eq_none {s : Str} {c : Char} (h : lastIndex s c = none) : c ∉ s := by
  unfold lastIndex at h
  split at h
  next => cases h
  next hmem => exact hmem

theorem getLast?_append_cons_concat (before constraint : Str) (c last : Char) :
    (before ++ c :: (constraint ++ [last])).getLast? = some last := by
  have hsplit : before ++ c :: (constraint ++ [last]) =
      (before ++ c :: constraint) ++ [last] := by simp
  rw [hsplit, List.getLast?_concat]

theorem listedAs_splitConstraint (fromString : Str → ℤ) (rawName : Str) :
    ListedAs fromString rawName (splitConstraint fromString rawName).1
      (splitConstraint fromString rawName).2 := by
  unfold splitConstraint
  cases hlast : lastIndex rawName '[' with
  | none =>
      refine .plain fun data constraint hraw => lastIndex_eq_none hlast ?_
      simp [hraw]
  | some i =>
      obtain ⟨before, after, rfl, hafter, rfl⟩ := lastIndex_eq_some hlast
      simp only
      split
      next hsuffix =>
        cases List.eq_nil_or_concat after with
        | inl hnil => simp [hnil] at hsuffix
        | inr hconcat =>
            obtain ⟨constraint, last, hends⟩ := hconcat
            rw [List.concat_eq_append] at hends
            subst hends
            rw [getLast?_append_cons_concat] at hsuffix
            obtain rfl := Option.some.inj hsuffix.1
            have hname : (before ++ '[' :: (constraint ++ [']'])).take before.length = before := by
              simp
            have hconstraint : ((before ++ '[' :: (constraint ++ [']'])).take
                ((before ++ '[' :: (constraint ++ [']'])).length - 1)).drop (before.length + 1) =
                  constraint := by
              have hsplit : before ++ '[' :: (constraint ++ [']']) =
                  (before ++ ['[']) ++ constraint ++ [']'] := by simp
              rw [← List.dropLast_eq_take, hsplit, List.dropLast_concat]
              exact List.drop_left' (by simp)
            rw [hname, hconstraint]
            exact .constrained before constraint rfl fun hmem => hafter (by simp [hmem])
      next hsuffix =>
        refine .plain fun data constraint hraw => hsuffix ⟨?_, ?_⟩
        · rw [hraw, getLast?_append_cons_concat]
        · have hnonempty : after ≠ [] := by
            rintro rfl
            have hends := congrArg List.getLast? hraw
            rw [getLast?_append_cons_concat, List.getLast?_concat] at hends
            cases hends
          have hpositive := List.length_pos_of_ne_nil hnonempty
          simp only [List.length_append, List.length_cons]
          omega

/-- A name is listed in one way only. -/
theorem ListedAs.data_eq {fromString : Str → ℤ} {rawName data data' : Str} {fc fc' : ℤ}
    (h : ListedAs fromString rawName data fc) (h' : ListedAs fromString rawName data' fc') :
    data = data' := by
  cases h with
  | plain hraw =>
      cases h' with
      | plain => rfl
      | constrained _ constraint' hraw' => exact absurd hraw' (hraw _ _)
  | constrained _ constraint hraw hlast =>
      cases h' with
      | plain hraw' => exact absurd hraw (hraw' _ _)
      | constrained _ constraint' hraw' hlast' =>
          have hreverse := congrArg List.reverse (hraw.symm.trans hraw')
          simp only [List.reverse_append, List.reverse_cons, List.append_assoc,
            List.nil_append, List.reverse_nil, List.cons_append, List.cons.injEq,
            true_and] at hreverse
          have hnot {s : Str} (hs : '[' ∉ s) : '[' ∉ s.reverse := by simpa using hs
          have hconstraint : constraint.reverse = constraint'.reverse := by
            have hsplit := congrArg (split '[') hreverse
            rw [split_append_cons (hnot hlast), split_append_cons (hnot hlast')] at hsplit
            exact (List.cons.inj hsplit).1
          rw [hconstraint] at hreverse
          have hdata := (List.cons.inj (List.append_cancel_left hreverse)).2
          exact List.reverse_injective hdata

/-! ## What a returned data model contains -/

namespace DirectoryServer

variable {server : DirectoryServer} {n : ℕ}

theorem attributesMirror_of_forall₂ {parentRef : Str} {rawNames : List Str} {das : List DA}
    (h : List.Forall₂ (server.AttributeMirrors parentRef) rawNames das) :
    server.AttributesMirror parentRef rawNames das := by
  induction h with
  | nil =>
      rw [AttributesMirror]
  | cons hfirst _ ih =>
      rw [AttributesMirror]
      exact ⟨_, _, rfl, hfirst, ih⟩

theorem getDAs_mirrors {ref : Str} {das : List DA} (h : server.getDAs n ref = .ok das) :
    ∃ rawNames, server.getDataDirectoryFC ref = .ok rawNames ∧
      server.AttributesMirror ref rawNames das := by
  induction n generalizing ref das with
  | zero => cases h
  | succ n ih =>
      obtain ⟨rawNames, hraw, hloop⟩ := bind_eq_ok.mp h
      refine ⟨rawNames, hraw, attributesMirror_of_forall₂ ?_⟩
      refine (mapM_eq_ok.mp hloop).imp fun rawName da hda => ?_
      obtain ⟨sub, hsub, hreturn⟩ := bind_eq_ok.mp hda
      obtain rfl := Except.ok.inj hreturn
      rw [AttributeMirrors]
      exact ⟨listedAs_splitConstraint _ _, rfl, ih hsub⟩

theorem getDS_mirrors {lnRef dsName : Str} {ds : DS}
    (h : server.getDS lnRef dsName = .ok ds) : server.DataSetMirrors lnRef dsName ds := by
  obtain ⟨⟨members, isDeletable⟩, hmembers, hreturn⟩ := bind_eq_ok.mp h
  obtain rfl := Except.ok.inj hreturn
  refine ⟨rfl, hmembers.trans ?_⟩
  simp [Function.comp_def]

theorem fillLN_mirrors {ldName lnName : Str} {ln : LN}
    (h : server.fillLN n ldName { data := lnName, ref := ldName ++ lit "/" ++ lnName } = .ok ln) :
    server.NodeMirrors ldName lnName ln := by
  obtain ⟨doNames, hdoNames, h⟩ := bind_eq_ok.mp h
  obtain ⟨dos, hdos, h⟩ := bind_eq_ok.mp h
  obtain ⟨dsNames, hdsNames, h⟩ := bind_eq_ok.mp h
  obtain ⟨dss, hdss, h⟩ := bind_eq_ok.mp h
  obtain ⟨urNames, hurNames, h⟩ := bind_eq_ok.mp h
  obtain ⟨brNames, hbrNames, hreturn⟩ := bind_eq_ok.mp h
  obtain rfl := Except.ok.inj hreturn
  rw [rangeStore_eq_mapM] at hdos
  constructor
  · rfl
  · rfl
  · refine ⟨doNames, hdoNames, ?_⟩
    refine (List.forall₂_map_left_iff.mp (mapM_eq_ok.mp hdos)).imp fun doName object hobject => ?_
    obtain ⟨das, hdas, hreturn⟩ := bind_eq_ok.mp hobject
    obtain rfl := Except.ok.inj hreturn
    exact ⟨rfl, getDAs_mirrors hdas⟩
  · exact ⟨dsNames, hdsNames, (mapM_eq_ok.mp hdss).imp fun _ _ => getDS_mirrors⟩
  · refine ⟨hurNames.trans ?_, ?_⟩
    · simp [Function.comp_def]
    · simp
  · refine ⟨hbrNames.trans ?_, ?_⟩
    · simp [Function.comp_def]
    · simp

theorem fillLD_mirrors {ldName : Str} {ld : LD} (h : server.fillLD n { data := ldName } = .ok ld) :
    server.DeviceMirrors ldName ld := by
  obtain ⟨lnNames, hlnNames, h⟩ := bind_eq_ok.mp h
  obtain ⟨lns, hlns, hreturn⟩ := bind_eq_ok.mp h
  obtain rfl := Except.ok.inj hreturn
  rw [rangeStore_eq_mapM] at hlns
  refine ⟨rfl, lnNames, hlnNames, ?_⟩
  exact (List.forall₂_map_left_iff.mp (mapM_eq_ok.mp hlns)).imp fun _ _ => fillLN_mirrors

theorem browse_mirrors {dataModel : DataModel} (h : server.browse n = .ok dataModel) :
    server.Mirrors dataModel := by
  obtain ⟨-, -, h⟩ := bind_eq_ok.mp h
  obtain ⟨ldNames, hldNames, h⟩ := bind_eq_ok.mp h
  obtain ⟨lds, hlds, hreturn⟩ := bind_eq_ok.mp h
  obtain rfl := Except.ok.inj hreturn
  rw [rangeStore_eq_mapM] at hlds
  refine ⟨ldNames, hldNames, ?_⟩
  exact (List.forall₂_map_left_iff.mp (mapM_eq_ok.mp hlds)).imp fun _ _ => fillLD_mirrors

end DirectoryServer

/-! ## Which error is returned -/

theorem errorOf_eq_some_iff {α : Type} {x : Outcome α} {err : Str} :
    errorOf x = some err ↔ x = .error (.error err) := by
  cases x with
  | ok a => simp [errorOf]
  | error stop => cases stop with
    | _ => simp [errorOf]

theorem errorOf_ok {α : Type} (a : α) : errorOf (.ok a : Outcome α) = none := rfl

namespace DirectoryServer

variable {server : DirectoryServer} {n : ℕ} {err : Str}

/-- The error is that of a request which the directories give rise to. -/
def Blamed (server : DirectoryServer) (err : Str) : Prop :=
  ∃ request, server.Requested request ∧ server.failure request = some err

theorem Requested.blamed {request : DirectoryRequest} (h : server.Requested request)
    (hfailure : server.failure request = some err) : server.Blamed err :=
  ⟨request, h, hfailure⟩

theorem getDAs_blamed {ref : Str} (hrequested : server.Requested (.dataDirectory ref))
    (h : server.getDAs n ref = .error (.error err)) : server.Blamed err := by
  induction n generalizing ref with
  | zero => cases h
  | succ n ih =>
      rcases bind_eq_error.mp h with hraw | ⟨rawNames, hraw, hloop⟩
      · exact hrequested.blamed (errorOf_eq_some_iff.mpr hraw)
      · obtain ⟨rawName, hmem, hbody⟩ := exists_of_mapM_error hloop
        rcases bind_eq_error.mp hbody with hsub | ⟨das, -, hreturn⟩
        · exact ih (.subAttribute hrequested hraw hmem) hsub
        · cases hreturn

theorem fillLN_blamed {ldName lnName : Str} {lnNames : List Str}
    (hld : server.Requested (.deviceDirectory ldName))
    (hlist : server.getLogicalDeviceDirectory ldName = .ok lnNames) (hln : lnName ∈ lnNames)
    (h : server.fillLN n ldName { data := lnName, ref := ldName ++ lit "/" ++ lnName } =
      .error (.error err)) : server.Blamed err := by
  have hrequested {acsiClass : ACSIClass} (hclass : acsiClass ∈ browsedClasses) :
      server.Requested (.nodeDirectory (ldName ++ lit "/" ++ lnName) acsiClass) :=
    .nodeDirectory hld hlist hln hclass
  rcases bind_eq_error.mp h with hdoNames | ⟨doNames, hdoNames, h⟩
  · exact (hrequested (by simp [browsedClasses])).blamed (errorOf_eq_some_iff.mpr hdoNames)
  rcases bind_eq_error.mp h with hdos | ⟨dos, -, h⟩
  · rw [rangeStore_eq_mapM] at hdos
    obtain ⟨object, hmem, hbody⟩ := exists_of_mapM_error hdos
    obtain ⟨doName, hdoName, rfl⟩ := List.mem_map.mp hmem
    rcases bind_eq_error.mp hbody with hdas | ⟨das, -, hreturn⟩
    · exact getDAs_blamed
        (.dataObject (hrequested (by simp [browsedClasses])) hdoNames hdoName) hdas
    · cases hreturn
  rcases bind_eq_error.mp h with hdsNames | ⟨dsNames, hdsNames, h⟩
  · exact (hrequested (by simp [browsedClasses])).blamed (errorOf_eq_some_iff.mpr hdsNames)
  rcases bind_eq_error.mp h with hdss | ⟨dss, -, h⟩
  · obtain ⟨dsName, hdsName, hbody⟩ := exists_of_mapM_error hdss
    rcases bind_eq_error.mp hbody with hmembers | ⟨members, -, hreturn⟩
    · have hds := Requested.dataSet (hrequested (by simp [browsedClasses])) hdsNames hdsName
      exact hds.blamed (errorOf_eq_some_iff.mpr hmembers)
    · cases hreturn
  rcases bind_eq_error.mp h with hurNames | ⟨urNames, -, h⟩
  · exact (hrequested (by simp [browsedClasses])).blamed (errorOf_eq_some_iff.mpr hurNames)
  rcases bind_eq_error.mp h with hbrNames | ⟨brNames, -, hreturn⟩
  · exact (hrequested (by simp [browsedClasses])).blamed (errorOf_eq_some_iff.mpr hbrNames)
  · cases hreturn

theorem fillLD_blamed {ldName : Str} (hrequested : server.Requested (.deviceDirectory ldName))
    (h : server.fillLD n { data := ldName } = .error (.error err)) : server.Blamed err := by
  rcases bind_eq_error.mp h with hlnNames | ⟨lnNames, hlnNames, h⟩
  · exact hrequested.blamed (errorOf_eq_some_iff.mpr hlnNames)
  rcases bind_eq_error.mp h with hlns | ⟨lns, -, hreturn⟩
  · rw [rangeStore_eq_mapM] at hlns
    obtain ⟨ln, hmem, hbody⟩ := exists_of_mapM_error hlns
    obtain ⟨lnName, hlnName, rfl⟩ := List.mem_map.mp hmem
    exact fillLN_blamed hrequested hlnNames hlnName hbody
  · cases hreturn

theorem browse_blamed (h : server.browse n = .error (.error err)) : server.Blamed err := by
  rcases bind_eq_error.mp h with hmodel | ⟨_, -, h⟩
  · exact Requested.deviceModel.blamed (errorOf_eq_some_iff.mpr hmodel)
  rcases bind_eq_error.mp h with hldNames | ⟨ldNames, hldNames, h⟩
  · exact Requested.deviceList.blamed (errorOf_eq_some_iff.mpr hldNames)
  rcases bind_eq_error.mp h with hlds | ⟨lds, -, hreturn⟩
  · rw [rangeStore_eq_mapM] at hlds
    obtain ⟨ld, hmem, hbody⟩ := exists_of_mapM_error hlds
    obtain ⟨ldName, hldName, rfl⟩ := List.mem_map.mp hmem
    exact fillLD_blamed (.deviceDirectory hldNames hldName) hbody
  · cases hreturn

/-! ## No request fails where a data model is returned -/

/-- What a data model says about a request. -/
def Answered (server : DirectoryServer) : DirectoryRequest → Prop
  | .deviceModel => server.getDeviceModelFromServer = .ok ()
  | .deviceList => ∃ names, server.getLogicalDeviceList = .ok names
  | .deviceDirectory ldName => ∃ ld, server.DeviceMirrors ldName ld
  | .nodeDirectory lnRef acsiClass =>
      acsiClass ∈ browsedClasses ∧
        ∃ ldName lnName ln, server.NodeMirrors ldName lnName ln ∧ ln.ref = lnRef
  | .dataDirectory ref =>
      ∃ rawNames das, server.getDataDirectoryFC ref = .ok rawNames ∧
        server.AttributesMirror ref rawNames das
  | .dataSetDirectory ref => ∃ answer, server.getDataSetDirectory ref = .ok answer

theorem exists_of_attributesMirror {parentRef : Str} {rawNames : List Str} {das : List DA}
    (h : server.AttributesMirror parentRef rawNames das) {rawName : Str}
    (hraw : rawName ∈ rawNames) : ∃ da, server.AttributeMirrors parentRef rawName da := by
  induction das generalizing rawNames with
  | nil =>
      rw [AttributesMirror] at h
      rw [h] at hraw
      cases hraw
  | cons da das ih =>
      rw [AttributesMirror] at h
      obtain ⟨first, rest, rfl, hfirst, hrest⟩ := h
      cases List.mem_cons.mp hraw with
      | inl hself => exact ⟨da, hself ▸ hfirst⟩
      | inr hmem => exact ih hrest hmem

/-- A request is answered where a data model mirrors the server. -/
theorem Requested.answered {dataModel : DataModel} (hmirrors : server.Mirrors dataModel)
    (hmodel : server.getDeviceModelFromServer = .ok ()) {request : DirectoryRequest}
    (h : server.Requested request) : server.Answered request := by
  induction h with
  | deviceModel => exact hmodel
  | deviceList =>
      obtain ⟨names, hnames, -⟩ := hmirrors
      exact ⟨names, hnames⟩
  | deviceDirectory hlist hld =>
      obtain ⟨names, hnames, hlds⟩ := hmirrors
      obtain rfl := Except.ok.inj (hnames.symm.trans hlist)
      obtain ⟨ld, -, hmirrorsLD⟩ := exists_mem_of_forall₂ hlds hld
      exact ⟨ld, hmirrorsLD⟩
  | @nodeDirectory ldName lnName lnNames acsiClass _ hlist hln hclass ih =>
      obtain ⟨ld, -, names, hnames, hlns⟩ := ih
      obtain rfl := Except.ok.inj (hnames.symm.trans hlist)
      obtain ⟨ln, -, hmirrorsLN⟩ := exists_mem_of_forall₂ hlns hln
      exact ⟨hclass, ldName, lnName, ln, hmirrorsLN, hmirrorsLN.ref⟩
  | dataObject _ hlist hdo ih =>
      obtain ⟨-, ldName, lnName, ln, hmirrorsLN, rfl⟩ := ih
      obtain ⟨names, hnames, hdos⟩ := hmirrorsLN.dos
      obtain rfl := Except.ok.inj (hnames.symm.trans hlist)
      obtain ⟨object, -, -, rawNames, hraw, hdas⟩ := exists_mem_of_forall₂ hdos hdo
      exact ⟨rawNames, object.das, hraw, hdas⟩
  | subAttribute _ hlist hraw ih =>
      obtain ⟨rawNames, das, hnames, hdas⟩ := ih
      obtain rfl := Except.ok.inj (hnames.symm.trans hlist)
      obtain ⟨da, hda⟩ := exists_of_attributesMirror hdas hraw
      cases da with
      | mk data sub ref fc =>
          rw [AttributeMirrors] at hda
          obtain ⟨hlisted, rfl, subNames, hsubNames, hsub⟩ := hda
          have hdata := hlisted.data_eq (listedAs_splitConstraint _ _)
          subst hdata
          exact ⟨subNames, sub, hsubNames, hsub⟩
  | dataSet _ hlist hds ih =>
      obtain ⟨-, ldName, lnName, ln, hmirrorsLN, rfl⟩ := ih
      obtain ⟨names, hnames, hdss⟩ := hmirrorsLN.dss
      obtain rfl := Except.ok.inj (hnames.symm.trans hlist)
      obtain ⟨ds, -, -, hmembers⟩ := exists_mem_of_forall₂ hdss hds
      exact ⟨_, hmembers⟩

theorem Answered.failure_eq_none {request : DirectoryRequest} (h : server.Answered request) :
    server.failure request = none := by
  cases request with
  | deviceModel => exact (congrArg errorOf h).trans (errorOf_ok _)
  | deviceList =>
      obtain ⟨names, hnames⟩ := h
      exact (congrArg errorOf hnames).trans (errorOf_ok _)
  | deviceDirectory ldName =>
      obtain ⟨ld, -, names, hnames, -⟩ := h
      exact (congrArg errorOf hnames).trans (errorOf_ok _)
  | nodeDirectory lnRef acsiClass =>
      obtain ⟨hclass, ldName, lnName, ln, hmirrors, rfl⟩ := h
      have hok : ∃ names, server.getLogicalNodeDirectory ln.ref acsiClass = .ok names := by
        simp only [browsedClasses, List.mem_cons, List.not_mem_nil, or_false] at hclass
        rcases hclass with rfl | rfl | rfl | rfl
        · obtain ⟨names, hnames, -⟩ := hmirrors.dos
          exact ⟨names, hnames⟩
        · obtain ⟨names, hnames, -⟩ := hmirrors.dss
          exact ⟨names, hnames⟩
        · exact ⟨_, hmirrors.urReports.1⟩
        · exact ⟨_, hmirrors.brReports.1⟩
      obtain ⟨names, hnames⟩ := hok
      exact (congrArg errorOf hnames).trans (errorOf_ok _)
  | dataDirectory ref =>
      obtain ⟨rawNames, das, hraw, -⟩ := h
      exact (congrArg errorOf hraw).trans (errorOf_ok _)
  | dataSetDirectory ref =>
      obtain ⟨answer, hanswer⟩ := h
      exact (congrArg errorOf hanswer).trans (errorOf_ok _)

/-! ## A finite tree is browsed to its end -/

theorem returns_names (answer : Except IedError (List CBytes)) :
    Returns (server.names answer) := by
  cases answer with
  | ok listed => exact returns_ok _
  | error err => exact returns_error _

theorem returns_getDataSetDirectory (ref : Str) : Returns (server.getDataSetDirectory ref) := by
  unfold getDataSetDirectory
  split
  next => exact returns_ok _
  next => exact returns_error _

theorem returns_getDeviceModelFromServer : Returns server.getDeviceModelFromServer := by
  unfold getDeviceModelFromServer
  split
  next => exact returns_ok _
  next => exact returns_error _

theorem fuelled_getDAs (ref : Str) : Fuelled fun n => server.getDAs n ref := by
  refine Fuelled.of_step fun n => ?_
  induction n generalizing ref with
  | zero => exact fun hne => absurd rfl hne
  | succ n ih =>
      refine (Completes.refl _).bind fun rawNames => Completes.mapM (fun rawName => ?_) rawNames
      exact (ih _).bind fun das => Completes.refl _

theorem finishes_getDAs {ref : Str} (h : server.FiniteBelow ref) :
    Finishes fun n => server.getDAs n ref := by
  induction h with
  | intro ref _ ih =>
      rw [← (fuelled_getDAs ref).finishes_succ_iff]
      refine finishes_const_bind_iff.mpr ⟨returns_names _, fun rawNames hraw => ?_⟩
      refine (finishes_mapM_iff fun rawName => (fuelled_getDAs _).bind_pure _).mpr ?_
      refine AllReached.of_forall fun rawName hmem => finishes_bind_pure_iff.mpr ?_
      exact ih rawNames hraw rawName hmem

theorem fuelled_fillLN (ldName : Str) (ln : LN) :
    Fuelled fun n => server.fillLN n ldName ln := by
  unfold fillLN
  simp only [rangeStore_eq_mapM]
  refine (Fuelled.const _).bind fun doNames => ?_
  refine (Fuelled.mapM (fun object => (fuelled_getDAs _).bind_pure _) _).bind fun dos => ?_
  exact Fuelled.const _

theorem fuelled_fillLD (ld : LD) : Fuelled fun n => server.fillLD n ld := by
  unfold fillLD
  simp only [rangeStore_eq_mapM]
  refine (Fuelled.const _).bind fun lnNames => ?_
  exact (Fuelled.mapM (fuelled_fillLN _) _).bind_pure _

theorem finishes_fillLN (hfinite : server.FiniteTree) {ldName lnName : Str}
    {lnNames : List Str} (hld : server.Requested (.deviceDirectory ldName))
    (hlist : server.getLogicalDeviceDirectory ldName = .ok lnNames) (hln : lnName ∈ lnNames) :
    Finishes fun n =>
      server.fillLN n ldName { data := lnName, ref := ldName ++ lit "/" ++ lnName } := by
  unfold fillLN
  simp only [rangeStore_eq_mapM]
  refine finishes_const_bind_iff.mpr ⟨returns_names _, fun doNames hdoNames => ?_⟩
  have hgetDAs (ref : Str) : Fuelled fun n => server.getDAs n ref := fuelled_getDAs ref
  have hloop := Fuelled.mapM (fun object : DO =>
    (hgetDAs (ldName ++ lit "/" ++ lnName ++ lit "." ++ object.data)).bind_pure fun das =>
      { object with das }) (doNames.map fun doName => { data := doName })
  refine (finishes_bind_const_iff hloop).mpr ⟨?_, fun dos _ => ?_⟩
  · refine (finishes_mapM_iff fun object => (fuelled_getDAs _).bind_pure _).mpr ?_
    refine AllReached.of_forall fun object hmem => finishes_bind_pure_iff.mpr ?_
    obtain ⟨doName, hdoName, rfl⟩ := List.mem_map.mp hmem
    exact finishes_getDAs (hfinite _ (.dataObject
      (.nodeDirectory hld hlist hln (by simp [browsedClasses])) hdoNames hdoName))
  · refine returns_bind (returns_names _) fun dsNames _ => returns_bind ?_ fun dss _ =>
      returns_bind (returns_names _) fun urNames _ => returns_bind (returns_names _)
        fun brNames _ => returns_pure _
    refine returns_mapM_iff.mpr (AllReached.of_forall fun dsName _ => ?_)
    exact returns_bind (returns_getDataSetDirectory _) fun members _ => returns_pure _

theorem finishes_fillLD (hfinite : server.FiniteTree) {ldName : Str}
    (hrequested : server.Requested (.deviceDirectory ldName)) :
    Finishes fun n => server.fillLD n { data := ldName } := by
  unfold fillLD
  simp only [rangeStore_eq_mapM]
  refine finishes_const_bind_iff.mpr ⟨returns_names _, fun lnNames hlnNames => ?_⟩
  refine finishes_bind_pure_iff.mpr ((finishes_mapM_iff (fuelled_fillLN _)).mpr ?_)
  refine AllReached.of_forall fun ln hmem => ?_
  obtain ⟨lnName, hlnName, rfl⟩ := List.mem_map.mp hmem
  exact finishes_fillLN hfinite hrequested hlnNames hlnName

theorem finishes_browse (hfinite : server.FiniteTree) : Finishes server.browse := by
  unfold browse
  simp only [rangeStore_eq_mapM]
  refine finishes_const_bind_iff.mpr ⟨returns_getDeviceModelFromServer, fun _ _ => ?_⟩
  refine finishes_const_bind_iff.mpr ⟨returns_names _, fun ldNames hldNames => ?_⟩
  refine finishes_bind_pure_iff.mpr ((finishes_mapM_iff fuelled_fillLD).mpr ?_)
  refine AllReached.of_forall fun ld hmem => ?_
  obtain ⟨ldName, hldName, rfl⟩ := List.mem_map.mp hmem
  exact finishes_fillLD hfinite (.deviceDirectory hldNames hldName)

theorem getDataModel_cases {result : DataModel × Option Str}
    (h : server.getDataModel n = some result) :
    (∃ dataModel, server.browse n = .ok dataModel ∧ result = (dataModel, none)) ∨
      ∃ err, server.browse n = .error (.error err) ∧ result = ({}, some err) := by
  unfold getDataModel at h
  split at h
  next dataModel hbrowse => exact .inl ⟨dataModel, hbrowse, (Option.some.inj h).symm⟩
  next err hbrowse => exact .inr ⟨err, hbrowse, (Option.some.inj h).symm⟩
  next => cases h

end DirectoryServer

/-- Of a finite tree `GetDataModel` returns the mirror image if no request fails,
and otherwise nothing but the error of a request that fails. -/
theorem getDataModel_mirrors (server : DirectoryServer) (hfinite : server.FiniteTree) :
    (∃ n result, server.getDataModel n = some result) ∧
    ∀ n result, server.getDataModel n = some result →
      ((∀ request, server.Requested request → server.failure request = none) →
        result.2 = none ∧ server.Mirrors result.1) ∧
      ((∃ request, server.Requested request ∧ server.failure request ≠ none) →
        ∃ err, result = ({}, some err) ∧
          ∃ request, server.Requested request ∧ server.failure request = some err) := by
  constructor
  · obtain ⟨n, dataModel, hbrowse⟩ | ⟨n, err, hbrowse⟩ :=
      exists_or.mp (DirectoryServer.finishes_browse hfinite)
    · exact ⟨n, (dataModel, none), by simp [DirectoryServer.getDataModel, hbrowse]⟩
    · exact ⟨n, ({}, some err), by simp [DirectoryServer.getDataModel, hbrowse]⟩
  · intro n result h
    constructor
    · intro hall
      rcases DirectoryServer.getDataModel_cases h with
        ⟨dataModel, hbrowse, rfl⟩ | ⟨err, hbrowse, rfl⟩
      · exact ⟨rfl, DirectoryServer.browse_mirrors hbrowse⟩
      · obtain ⟨request, hrequested, hfailure⟩ := DirectoryServer.browse_blamed hbrowse
        rw [hall request hrequested] at hfailure
        cases hfailure
    · rintro ⟨request, hrequested, hfailure⟩
      rcases DirectoryServer.getDataModel_cases h with
        ⟨dataModel, hbrowse, rfl⟩ | ⟨err, hbrowse, rfl⟩
      · have hmodel : server.getDeviceModelFromServer = .ok () := by
          obtain ⟨⟨⟩, hmodel, -⟩ := bind_eq_ok.mp hbrowse
          exact hmodel
        have hanswered :=
          hrequested.answered (DirectoryServer.browse_mirrors hbrowse) hmodel
        exact absurd hanswered.failure_eq_none hfailure
      · exact ⟨err, rfl, DirectoryServer.browse_blamed hbrowse⟩

def asciiBytes (s : Str) : CBytes := s.map fun c => UInt8.ofNat c.toNat

/-- A server with one logical node that has one attribute. -/
def sampleDirectoryServer : DirectoryServer where
  go2CStr := asciiBytes
  c2GoStr bytes := bytes.map fun b => Char.ofNat b.toNat
  functionalConstraintFromString s := if s = lit "ST" then 0 else NONE
  deviceModelFromServer := .ok ()
  logicalDeviceList := .ok [asciiBytes (lit "LD0")]
  logicalDeviceDirectory _ := .ok [asciiBytes (lit "LLN0")]
  logicalNodeDirectory _ acsiClass :=
    .ok (if acsiClass = .dataObject then [asciiBytes (lit "Mod")] else [])
  dataSetDirectory _ := .ok ([], false)
  dataDirectoryFC ref :=
    .ok (if ref = asciiBytes (lit "LD0/LLN0.Mod") then [asciiBytes (lit "stVal[ST]")] else [])

theorem sampleDirectoryServer_finite : sampleDirectoryServer.FiniteTree := by
  have hleaf (ref : Str) (href : ref.length ≠ 12) : sampleDirectoryServer.FiniteBelow ref := by
    refine .intro ref fun rawNames hraw rawName hmem => ?_
    have hne : asciiBytes ref ≠ asciiBytes (lit "LD0/LLN0.Mod") := fun heq =>
      href (by simpa [asciiBytes, lit] using congrArg List.length heq)
    have hnone : sampleDirectoryServer.getDataDirectoryFC ref = .ok [] := by
      simp [DirectoryServer.getDataDirectoryFC, DirectoryServer.names, sampleDirectoryServer, hne]
    obtain rfl := Except.ok.inj (hnone.symm.trans hraw)
    cases hmem
  intro ref _
  by_cases href : ref.length = 12
  · refine .intro ref fun rawNames hraw rawName hmem => hleaf _ ?_
    simp only [DirectoryServer.childRef, List.length_append, href]
    have hdot : (lit ".").length = 1 := rfl
    omega
  · exact hleaf ref href

theorem sampleDirectoryServer_failure (request : DirectoryRequest) :
    sampleDirectoryServer.failure request = none := by
  cases request with
  | _ => rfl

theorem getDataModel_mirrors_sample :
    ∃ n result, sampleDirectoryServer.getDataModel n = some result ∧ result.2 = none ∧
      sampleDirectoryServer.Mirrors result.1 := by
  obtain ⟨⟨n, result, h⟩, hresults⟩ :=
    getDataModel_mirrors sampleDirectoryServer sampleDirectoryServer_finite
  exact ⟨n, result, h, (hresults n result h).1 fun request _ =>
    sampleDirectoryServer_failure request⟩

end Iec61850.Mms
