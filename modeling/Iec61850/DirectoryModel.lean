import Iec61850.ClientErrors
import Iec61850.GoFuel

/-!
# The data model of a server

`GetDataModel` browses the directories of a server and builds the tree of
logical devices, logical nodes, data objects, data attributes, data sets and
report control blocks.
-/

namespace Iec61850.Mms

open Go

/-! ## The tree -/

/-- A data attribute; `-1` is the constraint of one that is listed without. -/
inductive DA
  | mk (data : Str) (das : List DA) (ref : Str) (fc : ℤ)

structure DO where
  data : Str
  das : List DA := []

structure DSRef where
  data : Str

structure DS where
  data : Str
  dsRefs : List DSRef
  isDeletable : Bool

structure URReport where
  data : Str
  ref : Str

structure BRReport where
  data : Str
  ref : Str

structure LN where
  data : Str
  ref : Str
  dos : List DO := []
  dss : List DS := []
  urReports : List URReport := []
  brReports : List BRReport := []

structure LD where
  data : Str
  lns : List LN := []

structure DataModel where
  lds : List LD := []

/-! ## The requests -/

inductive ACSIClass
  | dataObject
  | dataSet
  | brcb
  | urcb
  | lcb
  | log
  | sgcb
  | goCB
  | gsCB
  | msvcb
  | usvcb
  deriving DecidableEq

/-- A text as it is exchanged with the C library. -/
abbrev CBytes := List UInt8

/-- The conversions of texts and constraints, and what the server answers. -/
structure DirectoryServer where
  go2CStr : Str → CBytes
  c2GoStr : CBytes → Str
  functionalConstraintFromString : Str → ℤ
  deviceModelFromServer : Except IedError Unit
  logicalDeviceList : Except IedError (List CBytes)
  logicalDeviceDirectory : CBytes → Except IedError (List CBytes)
  logicalNodeDirectory : CBytes → ACSIClass → Except IedError (List CBytes)
  dataSetDirectory : CBytes → Except IedError (List CBytes × Bool)
  dataDirectoryFC : CBytes → Except IedError (List CBytes)

namespace DirectoryServer

variable (server : DirectoryServer)

def names (answer : Except IedError (List CBytes)) : Outcome (List Str) :=
  match answer with
  | .ok listed => .ok (listed.map server.c2GoStr)
  | .error err => .error (.error (lit err.text))

def getDeviceModelFromServer : Outcome Unit :=
  match server.deviceModelFromServer with
  | .ok () => .ok ()
  | .error err => .error (.error (lit "GetDeviceModelFromServer: " ++ lit err.text))

def getLogicalDeviceList : Outcome (List Str) := server.names server.logicalDeviceList

def getLogicalDeviceDirectory (logicalDeviceName : Str) : Outcome (List Str) :=
  server.names (server.logicalDeviceDirectory (server.go2CStr logicalDeviceName))

def getLogicalNodeDirectory (logicalNodeReference : Str) (acsiClass : ACSIClass) :
    Outcome (List Str) :=
  server.names
    (server.logicalNodeDirectory (server.go2CStr logicalNodeReference) acsiClass)

def getDataSetDirectory (dataSetReference : Str) : Outcome (List Str × Bool) :=
  match server.dataSetDirectory (server.go2CStr dataSetReference) with
  | .ok (listed, isDeletable) => .ok (listed.map server.c2GoStr, isDeletable)
  | .error err => .error (.error (lit err.text))

def getDataDirectoryFC (dataObjectReference : Str) : Outcome (List Str) :=
  server.names (server.dataDirectoryFC (server.go2CStr dataObjectReference))

end DirectoryServer

/-! ## Browsing -/

/-- `strings.LastIndex` for a one-byte text. -/
def lastIndex (s : Str) (c : Char) : Option ℕ :=
  if c ∈ s then some (s.length - 1 - s.reverse.idxOf c) else none

def NONE : ℤ := -1

/-- The name and the constraint of a listed name such as `DA1[ST]`. -/
def splitConstraint (fromString : Str → ℤ) (rawName : Str) : Str × ℤ :=
  match lastIndex rawName '[' with
  | none => (rawName, NONE)
  | some i =>
      if rawName.getLast? = some ']' ∧ i < rawName.length - 1 then
        (rawName.take i, fromString ((rawName.take (rawName.length - 1)).drop (i + 1)))
      else (rawName, NONE)

/-- A loop over a slice that stores what its body makes of each element in its
place; the slice itself is `stored`. -/
def rangeStore {α : Type} (body : α → Outcome α) : ℕ → List α → List α → Outcome (List α)
  | _, [], stored => .ok stored
  | i, x :: rest, stored => do
      let x' ← body x
      rangeStore body (i + 1) rest (stored.set i x')

theorem rangeStore_eq {α : Type} (body : α → Outcome α) (before rest : List α) :
    rangeStore body before.length rest (before ++ rest) = do
      let rest' ← rest.mapM body
      return before ++ rest' := by
  induction rest generalizing before with
  | nil =>
      simp only [rangeStore, List.append_nil, List.mapM_nil]
      exact (congrArg Except.ok (List.append_nil before)).symm
  | cons x rest ih =>
      simp only [rangeStore, List.mapM_cons]
      cases body x with
      | error stop => rfl
      | ok x' =>
          have hnext := ih (before ++ [x'])
          simp only [List.length_append, List.length_singleton, List.append_assoc,
            List.singleton_append] at hnext
          simp only [ok_bind, List.set_append_right _ _ (Nat.le_refl _), Nat.sub_self,
            List.set_cons_zero, hnext]
          cases rest.mapM body with
          | error stop => rfl
          | ok rest' => rfl

/-- The slice holds in the end what the body made of its elements, each in its place. -/
theorem rangeStore_eq_mapM {α : Type} (body : α → Outcome α) (xs : List α) :
    rangeStore body 0 xs xs = xs.mapM body := by
  have h := rangeStore_eq body [] xs
  simp only [List.length_nil, List.nil_append] at h
  rw [h]
  cases xs.mapM body with
  | error stop => rfl
  | ok xs' => rfl

namespace DirectoryServer

variable (server : DirectoryServer)

/-- The recursion is as deep as the tree of the server. -/
def getDAs : ℕ → Str → Outcome (List DA)
  | 0, _ => .error .outOfFuel
  | n + 1, doRef => do
      let rawNames ← server.getDataDirectoryFC doRef
      rawNames.mapM fun rawName => do
        let (name, fc) := splitConstraint server.functionalConstraintFromString rawName
        let ref := doRef ++ lit "." ++ name
        let das ← getDAs n ref
        return .mk name das ref fc

def getDS (lnRef dsName : Str) : Outcome DS := do
  let (dataSetMembers, isDeletable) ← server.getDataSetDirectory (lnRef ++ lit "." ++ dsName)
  return { data := dsName, dsRefs := dataSetMembers.map fun member => ⟨member⟩, isDeletable }

/-- The body of the loop over the logical nodes of a device. -/
def fillLN (n : ℕ) (ldData : Str) (ln : LN) : Outcome LN := do
  let lnRef := ln.ref
  let dataObjects ← server.getLogicalNodeDirectory lnRef .dataObject
  let listed := dataObjects.map fun doName => ({ data := doName } : DO)
  let dos ← rangeStore (fun d => do
    let doRef := ldData ++ lit "/" ++ ln.data ++ lit "." ++ d.data
    let das ← server.getDAs n doRef
    return { d with das }) 0 listed listed
  let dataSets ← server.getLogicalNodeDirectory lnRef .dataSet
  let dss ← dataSets.mapM (server.getDS lnRef)
  let reports ← server.getLogicalNodeDirectory lnRef .urcb
  let urReports := reports.map fun name => (⟨name, lnRef ++ lit "." ++ name⟩ : URReport)
  let reports ← server.getLogicalNodeDirectory lnRef .brcb
  let brReports := reports.map fun name => (⟨name, lnRef ++ lit "." ++ name⟩ : BRReport)
  return { ln with dos, dss, urReports, brReports }

/-- The body of the loop over the logical devices. -/
def fillLD (n : ℕ) (ld : LD) : Outcome LD := do
  let logicalNodes ← server.getLogicalDeviceDirectory ld.data
  let listed := logicalNodes.map fun lnName =>
    ({ data := lnName, ref := ld.data ++ lit "/" ++ lnName } : LN)
  let lns ← rangeStore (server.fillLN n ld.data) 0 listed listed
  return { ld with lns }

def browse (n : ℕ) : Outcome DataModel := do
  server.getDeviceModelFromServer
  let ldNames ← server.getLogicalDeviceList
  let listed := ldNames.map fun name => ({ data := name } : LD)
  let lds ← rangeStore (server.fillLD n) 0 listed listed
  return { lds }

/-- The two results; every error comes with an empty data model. -/
def getDataModel (n : ℕ) : Option (DataModel × Option Str) :=
  match server.browse n with
  | .ok dataModel => some (dataModel, none)
  | .error (.error err) => some ({}, some err)
  | .error _ => none

end DirectoryServer

example : splitConstraint (fun _ => 7) (lit "stVal[ST]") = (lit "stVal", 7) := by decide

end Iec61850.Mms
