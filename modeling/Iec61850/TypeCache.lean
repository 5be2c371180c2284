import Iec61850.CachedQueries
import Iec61850.SclXml

/-!
# The cache of DO types

`GetDOType` looks the type of a data object up in the templates and keeps it under the
prefix and the class of its node, written together, and its name.
-/

namespace Iec61850.SclXml

open Go

/-! ## Lookup -/

structure DOQuery where
  lnPrefix : Str
  lnClass : Str
  name : Str
  deriving DecidableEq

/-- What the builder holds. -/
def DOQuery.key (q : DOQuery) : Str := q.lnPrefix ++ q.lnClass ++ lit "/" ++ q.name

/-- Only the first node type that fits is searched; a missing id is empty. -/
def findDOTypeId (templates : DataTypeTemplates) (q : DOQuery) : Str :=
  match templates.lNodeType.find? fun lNodeType =>
      lNodeType.iD = q.lnPrefix ++ q.lnClass ∨ lNodeType.lnClass = q.lnClass with
  | none => []
  | some lNodeType =>
      match lNodeType.do'.find? fun d => d.name = q.name with
      | none => []
      | some d => d.type

/-- `DOType{}`. -/
def DOType.empty : DOType := { iD := [], da := [], desc := [], sdo := [] }

namespace DataSetDetail

/-- The answer, and the struct with the map that the answer was written to. -/
def getDOType (ds : DataSetDetail) (q : DOQuery) : DOType × DataSetDetail :=
  match ds.doTypes.bind fun doTypes => doTypes.lookup q.key with
  | some typ => (typ, ds)
  | none =>
      let doTypeId := findDOTypeId ds.dataTypeTemplates q
      match ds.dataTypeTemplates.doType.find? fun doType => doType.iD = doTypeId with
      | some doType =>
          (doType, { ds with doTypes := some (GoMap.store q.key doType (ds.doTypes.getD [])) })
      | none => (DOType.empty, ds)

def getDOTypes : DataSetDetail → List DOQuery → List DOType
  | _, [] => []
  | ds, q :: queries => (ds.getDOType q).1 :: (ds.getDOType q).2.getDOTypes queries

/-- A copy with an empty cache. -/
def fresh (ds : DataSetDetail) : DataSetDetail := { ds with doTypes := none }

end DataSetDetail

/-! ## What the templates say -/

/-- The first element with this property. -/
def IsFirst {A : Type} (p : A → Prop) (l : List A) (a : A) : Prop :=
  p a ∧ ∃ before after, l = before ++ a :: after ∧ ∀ b ∈ before, ¬ p b

/-- The node type is named like the prefix and the class together, or has the class. -/
def DOQuery.Fits (q : DOQuery) (lNodeType : LNodeType) : Prop :=
  lNodeType.iD = q.lnPrefix ++ q.lnClass ∨ lNodeType.lnClass = q.lnClass

/-- The type id of the data object that the templates declare for a query. -/
inductive DeclaresId (templates : DataTypeTemplates) (q : DOQuery) : Str → Prop
  | object {lNodeType : LNodeType} {d : DO}
      (hnode : IsFirst q.Fits templates.lNodeType lNodeType)
      (hobject : IsFirst (fun d => d.name = q.name) lNodeType.do' d) :
      DeclaresId templates q d.type
  | noObject {lNodeType : LNodeType} (hnode : IsFirst q.Fits templates.lNodeType lNodeType)
      (hobject : ∀ d ∈ lNodeType.do', d.name ≠ q.name) : DeclaresId templates q []
  | noNode (hnode : ∀ lNodeType ∈ templates.lNodeType, ¬ q.Fits lNodeType) :
      DeclaresId templates q []

/-- The DO type with that id. -/
def Designates (templates : DataTypeTemplates) (q : DOQuery) (typ : DOType) : Prop :=
  ∃ id, DeclaresId templates q id ∧ IsFirst (fun doType => doType.iD = id) templates.doType typ

/-- The DO type that is designated, or the empty one when none is. -/
def Resolves (templates : DataTypeTemplates) (q : DOQuery) (typ : DOType) : Prop :=
  Designates templates q typ ∨ typ = DOType.empty ∧ ∀ typ', ¬ Designates templates q typ'

/-- Queries that share a key agree on the DO type, and the cache that the run starts with
agrees with them. -/
structure DataSetDetail.KeysAgree (ds : DataSetDetail) (queries : List DOQuery) : Prop where
  kept : ∀ q ∈ queries, ∀ doTypes, ds.doTypes = some doTypes →
    ∀ typ, doTypes.lookup q.key = some typ → Resolves ds.dataTypeTemplates q typ
  shared : queries.Pairwise fun q q' => q.key = q'.key →
    ∀ typ, Designates ds.dataTypeTemplates q typ → Resolves ds.dataTypeTemplates q' typ

theorem isFirst_iff_find? {A : Type} {p : A → Prop} [DecidablePred p] {l : List A} {a : A} :
    IsFirst p l a ↔ l.find? (fun x => p x) = some a := by
  simp [IsFirst, List.find?_eq_some_iff_append]

section

variable {templates : DataTypeTemplates} {q : DOQuery} {typ : DOType}

theorem declaresId_iff {id : Str} :
    DeclaresId templates q id ↔ findDOTypeId templates q = id := by
  have hnode (lNodeType : LNodeType) := isFirst_iff_find? (l := templates.lNodeType)
    (a := lNodeType) (p := fun t => t.iD = q.lnPrefix ++ q.lnClass ∨ t.lnClass = q.lnClass)
  have hobject (dos : List DO) (d : DO) :=
    isFirst_iff_find? (l := dos) (a := d) (p := fun d => d.name = q.name)
  unfold findDOTypeId
  constructor
  · intro h
    cases h with
    | object hfits hname => simp only [(hnode _).mp hfits, (hobject _ _).mp hname]
    | @noObject lNodeType hfits hnone =>
        have hfind : lNodeType.do'.find? (fun d => d.name = q.name) = none := by
          simpa using hnone
        simp only [(hnode _).mp hfits, hfind]
    | noNode hnone =>
        have hfind : templates.lNodeType.find? (fun t =>
            t.iD = q.lnPrefix ++ q.lnClass ∨ t.lnClass = q.lnClass) = none := by
          simpa [DOQuery.Fits] using hnone
        simp only [hfind]
  · intro h
    cases hfind : templates.lNodeType.find? fun t =>
        t.iD = q.lnPrefix ++ q.lnClass ∨ t.lnClass = q.lnClass with
    | none =>
        simp only [hfind] at h
        subst h
        exact .noNode (by simpa [DOQuery.Fits] using hfind)
    | some lNodeType =>
        have hfits := (hnode lNodeType).mpr hfind
        cases hd : lNodeType.do'.find? fun d => d.name = q.name with
        | none =>
            simp only [hfind, hd] at h
            subst h
            exact .noObject hfits (by simpa using hd)
        | some d =>
            simp only [hfind, hd] at h
            subst h
            exact .object hfits ((hobject _ d).mpr hd)

/-- The DO type in the templates. -/
def findDOType (templates : DataTypeTemplates) (q : DOQuery) : Option DOType :=
  templates.doType.find? fun doType => doType.iD = findDOTypeId templates q

theorem designates_iff : Designates templates q typ ↔ findDOType templates q = some typ := by
  unfold Designates findDOType
  rw [← isFirst_iff_find?]
  constructor
  · intro ⟨id, hid, htyp⟩
    rw [declaresId_iff.mp hid]
    exact htyp
  · intro htyp
    exact ⟨_, declaresId_iff.mpr rfl, htyp⟩

theorem resolves_iff :
    Resolves templates q typ ↔ GoMap.uncached (findDOType templates) DOType.empty q = typ := by
  unfold Resolves GoMap.uncached
  simp only [designates_iff]
  cases hfind : findDOType templates q with
  | none => simp [eq_comm]
  | some found => simp

end

/-! ## The cache is a cache of these lookups -/

namespace DataSetDetail

variable (ds : DataSetDetail)

/-- The map, an empty one in place of nil. -/
def cache : GoMap DOType := ds.doTypes.getD []

/-- One query through the cache of the lookup in the templates. -/
def cachedDOType (q : DOQuery) : DOType × GoMap DOType :=
  GoMap.cached DOQuery.key (findDOType ds.dataTypeTemplates) DOType.empty ds.cache q

theorem getDOType_eq (q : DOQuery) :
    (ds.getDOType q).1 = (ds.cachedDOType q).1 ∧
      (ds.getDOType q).2.cache = (ds.cachedDOType q).2 ∧
      (ds.getDOType q).2.dataTypeTemplates = ds.dataTypeTemplates := by
  have hlookup : (ds.doTypes.bind fun doTypes => doTypes.lookup q.key) =
      ds.cache.lookup q.key := by
    unfold cache
    cases ds.doTypes with
    | none => rfl
    | some doTypes => rfl
  unfold getDOType cachedDOType GoMap.cached
  rw [hlookup]
  cases ds.cache.lookup q.key with
  | some typ => exact ⟨rfl, rfl, rfl⟩
  | none =>
      unfold findDOType
      dsimp only
      cases ds.dataTypeTemplates.doType.find? fun doType =>
          doType.iD = findDOTypeId ds.dataTypeTemplates q with
      | some doType => exact ⟨rfl, rfl, rfl⟩
      | none => exact ⟨rfl, rfl, rfl⟩

theorem getDOTypes_eq (queries : List DOQuery) :
    ds.getDOTypes queries = GoMap.cachedAnswers DOQuery.key (findDOType ds.dataTypeTemplates)
      DOType.empty ds.cache queries := by
  induction queries generalizing ds with
  | nil => rfl
  | cons q queries ih =>
      obtain ⟨hanswer, hcache, htemplates⟩ := ds.getDOType_eq q
      rw [getDOTypes, GoMap.cachedAnswers, ih, hanswer, hcache, htemplates, cachedDOType]

theorem fresh_getDOType (q : DOQuery) : (ds.fresh.getDOType q).1 =
    GoMap.uncached (findDOType ds.dataTypeTemplates) DOType.empty q := by
  obtain ⟨hanswer, -⟩ := ds.fresh.getDOType_eq q
  rw [hanswer]
  unfold cachedDOType GoMap.cached GoMap.uncached
  cases hfind : findDOType ds.dataTypeTemplates q with
  | none => simp [fresh, cache, hfind]
  | some typ => simp [fresh, cache, hfind]

theorem keysAgree_iff (queries : List DOQuery) :
    ds.KeysAgree queries ↔ GoMap.Unambiguous DOQuery.key (findDOType ds.dataTypeTemplates)
      DOType.empty ds.cache queries := by
  unfold cache
  constructor
  · intro ⟨hkept, hshared⟩
    refine ⟨fun q hq typ htyp => ?_, ?_⟩
    · cases hdoTypes : ds.doTypes with
      | none =>
          rw [hdoTypes] at htyp
          cases htyp
      | some doTypes =>
          rw [hdoTypes] at htyp
          exact resolves_iff.mp (hkept q hq doTypes hdoTypes typ htyp)
    · apply hshared.imp
      intro q q' h hkey typ htyp
      exact resolves_iff.mp (h hkey typ (designates_iff.mpr htyp))
  · intro ⟨hkept, hshared⟩
    refine ⟨fun q hq doTypes hdoTypes typ htyp => ?_, ?_⟩
    · apply resolves_iff.mpr
      apply hkept q hq typ
      rw [hdoTypes]
      exact htyp
    · apply hshared.imp
      intro q q' h hkey typ htyp
      exact resolves_iff.mpr (h hkey typ (designates_iff.mp htyp))

theorem fresh_answers : (fun q => (ds.fresh.getDOType q).1) =
    GoMap.uncached (findDOType ds.dataTypeTemplates) DOType.empty :=
  funext ds.fresh_getDOType

/-- The queries are answered as by fresh copies if and only if those that share a key
agree. -/
theorem getDOTypes_transparent_iff (queries : List DOQuery) :
    ds.getDOTypes queries = queries.map (fun q => (ds.fresh.getDOType q).1) ↔
      ds.KeysAgree queries := by
  rw [getDOTypes_eq, fresh_answers, GoMap.cachedAnswers_eq_iff, keysAgree_iff]

end DataSetDetail

/-! ## Classes of one length -/

/-- With classes of one length, and names without a slash, the key tells the queries
apart. -/
theorem DOQuery.key_injective {q q' : DOQuery} (hclass : q.lnClass.length = q'.lnClass.length)
    (hname : '/' ∉ q.name) (hname' : '/' ∉ q'.name) (hkey : q.key = q'.key) : q = q' := by
  unfold key at hkey
  simp only [List.append_assoc] at hkey
  have hcut : q.lnPrefix ++ q.lnClass ++ '/' :: q.name =
      q'.lnPrefix ++ q'.lnClass ++ '/' :: q'.name := by simpa [lit] using hkey
  obtain ⟨hnode, hsame⟩ := append_cons_inj_of_not_mem hname hname' hcut
  obtain ⟨hfirst, hlnClass⟩ := List.append_inj' hnode hclass
  cases q
  cases q'
  simp_all

/-- So a data set of a file answers like fresh copies. -/
theorem getDataSet_transparent {scl : SCL} {ref : Str} {ds : DataSetDetail}
    (hds : getDataSet scl ref = .ok ds) {queries : List DOQuery} {n : ℕ}
    (hclass : ∀ q ∈ queries, q.lnClass.length = n) (hname : ∀ q ∈ queries, '/' ∉ q.name) :
    ds.getDOTypes queries = queries.map (fun q => (ds.fresh.getDOType q).1) := by
  have hdoTypes : ds.doTypes = none := by
    unfold getDataSet at hds
    split at hds
    next =>
      split at hds
      next => cases hds
      next =>
        cases hds
        rfl
    next => cases hds
  rw [ds.getDOTypes_eq, ds.fresh_answers, GoMap.cachedAnswers_eq_iff, DataSetDetail.cache,
    hdoTypes]
  apply GoMap.unambiguous_of_injective
  intro q hq q' hq' hkey
  have hlength : q.lnClass.length = q'.lnClass.length := by
    rw [hclass q hq, hclass q' hq']
  exact DOQuery.key_injective hlength (hname q hq) (hname q' hq') hkey

/-! ## A key of two queries -/

/-- Two breakers, one of a class and one with the id that the other's prefix and class
make. -/
def breakerDetail : DataSetDetail where
  dataSet := { name := lit "Positions", desc := [], fcda := [] }
  iedName := lit "IED1"
  dataTypeTemplates := {
    lNodeType := [
      { iD := lit "Breaker", lnClass := lit "XCBR", desc := []
        do' := [{ name := lit "Pos", type := lit "DPC1", desc := [], da := [] }] },
      { iD := lit "Q0XCBR", lnClass := lit "XSWI", desc := []
        do' := [{ name := lit "Pos", type := lit "DPC2", desc := [], da := [] }] }]
    doType := [
      { iD := lit "DPC1", da := [], desc := [], sdo := [] },
      { iD := lit "DPC2", da := [], desc := [], sdo := [] }]
    daType := []
    enumType := [] }

def breakerQueries : List DOQuery :=
  [⟨lit "Q0", lit "XCBR", lit "Pos"⟩, ⟨[], lit "Q0XCBR", lit "Pos"⟩]

theorem breakers_not_transparent :
    breakerDetail.getDOTypes breakerQueries ≠
      breakerQueries.map fun q => (breakerDetail.fresh.getDOType q).1 := by
  intro h
  have hids := congrArg (List.map DOType.iD) h
  revert hids
  decide +kernel

end Iec61850.SclXml
