import Iec61850.ModelInstantiation
import Iec61850.ReferenceCycles

/-!
# Termination of the instantiation

The calls of `NewDataObject` and `NewDataAttribute` form a graph whose nodes
are definitions and whose edges are the recursive calls that are really made,
that is, those before which every earlier definition of the same type has been
built.  The expansion of a definition comes back with a tree or an error
exactly when no definition it comes to refers back to itself and no data
object it comes to names a declaration that is not a `DOType`.
-/

namespace Iec61850.Scl

open Go
open Relation

/-- A call of the model builder, named by the definition it expands. -/
inductive Call
  | dataObject (definition : DataObjectDefinition)
  | dataAttribute (definition : DataAttributeDefinition)

variable (templates : DataTypeTemplates)

/-- The call comes back with a tree or an error, whatever constraint and
parent it is given. -/
def Call.Finishes : Call → Prop
  | .dataObject d => Go.Finishes fun n => newDataObject templates n d
  | .dataAttribute d =>
      ∀ fc parent, Go.Finishes fun n => newDataAttribute templates n d fc parent

/-- The definition has a finite, well-typed expansion. -/
inductive AttributeBuilds : DataAttributeDefinition → Prop
  | basic {d : DataAttributeDefinition} (hconstructed : d.attributeType ≠ .constructed)
      (henumerated : d.attributeType ≠ .enumerated) : AttributeBuilds d
  | enumerated {d : DataAttributeDefinition} {e : EnumerationType}
      (htype : d.attributeType = .enumerated)
      (hlookup : templates.lookupType d.type = some (.enumerationType e)) :
      AttributeBuilds d
  | constructed {d : DataAttributeDefinition} {t : DataAttributeType}
      (htype : d.attributeType = .constructed)
      (hlookup : templates.lookupType d.type = some (.dataAttributeType t))
      (hsubs : ∀ s ∈ t.subDataAttributes, AttributeBuilds s) :
      AttributeBuilds d

inductive ObjectBuilds : DataObjectDefinition → Prop
  | intro {d : DataObjectDefinition} {t : DataObjectType}
      (hlookup : templates.lookupType d.type = some (.dataObjectType t))
      (hattributes : ∀ a ∈ t.dataAttributes, AttributeBuilds templates a)
      (hobjects : ∀ o ∈ t.subDataObjects, ObjectBuilds o) :
      ObjectBuilds d

/-- One call makes another: the other definition belongs to the type of the
first, and all the definitions before it build. -/
inductive Expands : Call → Call → Prop
  | member {d s : DataAttributeDefinition} {t : DataAttributeType}
      (htype : d.attributeType = .constructed)
      (hlookup : templates.lookupType d.type = some (.dataAttributeType t))
      (hreached : Reached (AttributeBuilds templates) t.subDataAttributes s) :
      Expands (.dataAttribute d) (.dataAttribute s)
  | attributeOf {d : DataObjectDefinition} {s : DataAttributeDefinition} {t : SclType}
      (hlookup : templates.lookupType d.type = some t)
      (hreached : Reached (AttributeBuilds templates) t.daDefinitions s) :
      Expands (.dataObject d) (.dataAttribute s)
  | subObject {d o : DataObjectDefinition} {t : DataObjectType}
      (hlookup : templates.lookupType d.type = some (.dataObjectType t))
      (hattributes : ∀ a ∈ t.dataAttributes, AttributeBuilds templates a)
      (hreached : Reached (ObjectBuilds templates) t.subDataObjects o) :
      Expands (.dataObject d) (.dataObject o)

/-- A data object whose type id is declared, but not as a `DOType`, and whose
attributes build: its sub data objects cannot be created. -/
def Misdirected : Call → Prop
  | .dataObject d =>
      ∃ t, templates.lookupType d.type = some t ∧ (∀ o, t ≠ .dataObjectType o) ∧
        ∀ a ∈ t.daDefinitions, AttributeBuilds templates a
  | .dataAttribute _ => False

variable {templates}

/-! ## Data attributes -/

theorem newDataAttribute_constructed {d : DataAttributeDefinition}
    {t : DataAttributeType} (htype : d.attributeType = .constructed)
    (hlookup : templates.lookupType d.type = some (.dataAttributeType t))
    (n : ℕ) (fc : Str) (parent : ParentNode) :
    newDataAttribute templates (n + 1) d fc parent = (do
      let subs ← t.subDataAttributes.mapM fun s =>
        newDataAttribute templates n s (attributeFc d.fc fc)
          (.dataAttribute (attributeTriggerOptions d parent))
      pure { attributeOfDefinition d fc parent with
        sclType := some (.dataAttributeType t)
        subDataAttributes := subs }) := by
  simp only [newDataAttribute, attributeOfDefinition, htype, if_true,
    createConstructedAttribute, hlookup]

/-- Every other attribute comes back at once. -/
theorem returns_newDataAttribute_succ {d : DataAttributeDefinition}
    (h : d.attributeType = .constructed →
      ∀ t, templates.lookupType d.type ≠ some (.dataAttributeType t))
    (n : ℕ) (fc : Str) (parent : ParentNode) :
    Returns (newDataAttribute templates (n + 1) d fc parent) := by
  simp only [newDataAttribute]
  split
  next hconstructed =>
    unfold createConstructedAttribute
    split
    next => simp
    next t hlookup => exact absurd hlookup (h hconstructed t)
    next => simp
  next =>
    split
    next =>
      unfold createEnumeratedAttribute
      split <;> simp
    next => simp

theorem AttributeBuilds.succeeds {d : DataAttributeDefinition}
    (h : AttributeBuilds templates d) (fc : Str) (parent : ParentNode) :
    Succeeds fun n => newDataAttribute templates n d fc parent := by
  induction h generalizing fc parent with
  | @basic d hconstructed henumerated =>
      refine ⟨attributeOfDefinition d fc parent, 1, ?_⟩
      simp [newDataAttribute, attributeOfDefinition, hconstructed, henumerated]
  | @enumerated d e htype hlookup =>
      refine ⟨{ attributeOfDefinition d fc parent with
        sclType := some (.enumerationType e) }, 1, ?_⟩
      simp [newDataAttribute, attributeOfDefinition, htype, createEnumeratedAttribute,
        hlookup]
  | @constructed d t htype hlookup _ ih =>
      obtain ⟨subs, n, hn⟩ := (succeeds_mapM_iff fun s =>
        @fuelled_newDataAttribute templates s (attributeFc d.fc fc)
          (.dataAttribute (attributeTriggerOptions d parent))).mpr
        fun s hs => ih s hs _ _
      refine ⟨{ attributeOfDefinition d fc parent with
        sclType := some (.dataAttributeType t)
        subDataAttributes := subs }, n + 1, ?_⟩
      simp only [newDataAttribute_constructed htype hlookup]
      exact bind_eq_ok.mpr ⟨subs, hn, rfl⟩

theorem attributeBuilds_of_newDataAttribute {n : ℕ} {d : DataAttributeDefinition}
    {fc : Str} {parent : ParentNode} {da : DataAttribute}
    (h : newDataAttribute templates n d fc parent = .ok da) :
    AttributeBuilds templates d := by
  induction n generalizing d fc parent da with
  | zero => cases h
  | succ n ih =>
      cases attributeCreated_of_ok h with
      | constructed htype hlookup hsubs =>
          refine AttributeBuilds.constructed htype hlookup fun s hs => ?_
          obtain ⟨sub, -, hsub⟩ := exists_of_mapM_ok hsubs hs
          exact ih hsub
      | enumerated htype hlookup => exact AttributeBuilds.enumerated htype hlookup
      | basic hconstructed henumerated => exact AttributeBuilds.basic hconstructed henumerated

theorem newDataAttribute_ok_of_returns {n : ℕ} {d : DataAttributeDefinition} {fc : Str}
    {parent : ParentNode} (hreturns : Returns (newDataAttribute templates n d fc parent))
    (hbuilds : AttributeBuilds templates d) :
    ∃ da, newDataAttribute templates n d fc parent = .ok da := by
  obtain ⟨da, hda⟩ := hbuilds.succeeds fc parent
  exact ⟨da, (fuelled_newDataAttribute d fc parent).yields_of_returns hreturns hda⟩

theorem returns_mapM_newDataAttribute_iff {n : ℕ} {fc : Str} {parent : ParentNode}
    {ds : List DataAttributeDefinition} :
    Returns (ds.mapM fun d => newDataAttribute templates n d fc parent) ↔
      AllReached (AttributeBuilds templates)
        (fun d => Returns (newDataAttribute templates n d fc parent)) ds := by
  rw [returns_mapM_iff]
  constructor
  · intro h
    exact h.of_accepted fun d _ hreturns => newDataAttribute_ok_of_returns hreturns
  · intro h d hd
    exact h d (hd.mono fun s _ ⟨_, hs⟩ => attributeBuilds_of_newDataAttribute hs)

/-- Whether a call comes back does not depend on the constraint and the parent
it is given. -/
theorem returns_newDataAttribute_uniform {n : ℕ} {d : DataAttributeDefinition}
    {fc : Str} {parent : ParentNode} (fc' : Str) (parent' : ParentNode)
    (h : Returns (newDataAttribute templates n d fc parent)) :
    Returns (newDataAttribute templates n d fc' parent') := by
  induction n generalizing d fc fc' parent parent' with
  | zero => exact absurd h not_returns_outOfFuel
  | succ n ih =>
      by_cases hmember : ∃ t, d.attributeType = .constructed ∧
          templates.lookupType d.type = some (.dataAttributeType t)
      · obtain ⟨t, htype, hlookup⟩ := hmember
        rw [newDataAttribute_constructed htype hlookup, returns_bind_iff,
          returns_mapM_newDataAttribute_iff] at h ⊢
        exact ⟨fun s hs => ih _ _ (h.1 s hs), fun subs _ => returns_pure _⟩
      · exact returns_newDataAttribute_succ
          (fun htype t hlookup => hmember ⟨t, htype, hlookup⟩) n fc' parent'

/-- One unit of fuel pays for the call itself; the calls it makes are the
members of the type up to the first that does not build. -/
theorem returns_newDataAttribute_succ_iff {n : ℕ} {d : DataAttributeDefinition}
    {fc : Str} {parent : ParentNode} :
    Returns (newDataAttribute templates (n + 1) d fc parent) ↔
      ∀ s, Expands templates (.dataAttribute d) (.dataAttribute s) →
        Returns (newDataAttribute templates n s [] .dataObject) := by
  by_cases hmember : ∃ t, d.attributeType = .constructed ∧
      templates.lookupType d.type = some (.dataAttributeType t)
  · obtain ⟨t, htype, hlookup⟩ := hmember
    rw [newDataAttribute_constructed htype hlookup, returns_bind_iff,
      returns_mapM_newDataAttribute_iff]
    constructor
    · rintro ⟨h, -⟩ s hs
      cases hs with
      | member htype' hlookup' hreached =>
          rw [hlookup] at hlookup'
          cases hlookup'
          exact returns_newDataAttribute_uniform _ _ (h s hreached)
    · intro h
      refine ⟨fun s hs => ?_, fun subs _ => returns_pure _⟩
      exact returns_newDataAttribute_uniform _ _
        (h s (Expands.member htype hlookup hs))
  · refine iff_of_true (returns_newDataAttribute_succ
      (fun htype t hlookup => hmember ⟨t, htype, hlookup⟩) n fc parent) ?_
    intro s hs
    cases hs with
    | @member _ _ t htype hlookup _ => exact absurd ⟨t, htype, hlookup⟩ hmember

/-! ## The attributes of a data object -/

theorem createDataAttribute_ok_iff {n : ℕ} {attributes : List DataAttribute}
    {d : DataAttributeDefinition} :
    (∃ attributes',
        createDataAttribute (newDataAttribute templates n) attributes d = .ok attributes') ↔
      ∃ da, newDataAttribute templates n d [] .dataObject = .ok da := by
  unfold createDataAttribute
  split
  · constructor
    · rintro ⟨attributes', h⟩
      obtain ⟨twin, -, hrest⟩ := bind_eq_ok.mp h
      obtain ⟨da, hda, -⟩ := bind_eq_ok.mp hrest
      exact ⟨da, hda⟩
    · rintro ⟨da, hda⟩
      have hreturns : Returns (newDataAttribute templates n d [] .dataObject) := by
        simp [hda]
      obtain ⟨twin, htwin⟩ := newDataAttribute_ok_of_returns
        (returns_newDataAttribute_uniform (lit "SG") .dataObject hreturns)
        (attributeBuilds_of_newDataAttribute hda)
      exact ⟨_, bind_eq_ok.mpr ⟨twin, htwin, bind_eq_ok.mpr ⟨da, hda, rfl⟩⟩⟩
  · constructor
    · rintro ⟨attributes', h⟩
      obtain ⟨da, hda, -⟩ := bind_eq_ok.mp h
      exact ⟨da, hda⟩
    · rintro ⟨da, hda⟩
      exact ⟨_, bind_eq_ok.mpr ⟨da, hda, rfl⟩⟩

theorem returns_createDataAttribute_iff {n : ℕ} {attributes : List DataAttribute}
    {d : DataAttributeDefinition} :
    Returns (createDataAttribute (newDataAttribute templates n) attributes d) ↔
      Returns (newDataAttribute templates n d [] .dataObject) := by
  unfold createDataAttribute
  split
  · simp only [returns_bind_iff, returns_pure, implies_true, and_true]
    constructor
    · rintro ⟨htwin, -⟩
      exact returns_newDataAttribute_uniform _ _ htwin
    · intro h
      exact ⟨returns_newDataAttribute_uniform _ _ h, fun _ _ => h⟩
  · simp only [returns_bind_iff, returns_pure, implies_true, and_true]

theorem returns_createDataAttributes_iff {n : ℕ} {t : SclType} :
    Returns (createDataAttributes (newDataAttribute templates n) t) ↔
      AllReached (AttributeBuilds templates)
        (fun d => Returns (newDataAttribute templates n d [] .dataObject))
        t.daDefinitions := by
  rw [← returns_mapM_newDataAttribute_iff, returns_mapM_iff]
  exact returns_foldlM (f := createDataAttribute (newDataAttribute templates n))
    (I := fun _ => True) (fun attributes d _ => createDataAttribute_ok_iff)
    (fun attributes d _ => returns_createDataAttribute_iff) (fun _ _ _ _ _ => trivial) trivial

theorem attributeBuilds_of_createDataAttributes {n : ℕ} {t : SclType}
    {attributes : List DataAttribute}
    (h : createDataAttributes (newDataAttribute templates n) t = .ok attributes) :
    ∀ d ∈ t.daDefinitions, AttributeBuilds templates d := by
  intro d hd
  obtain ⟨before, after, hstep⟩ := exists_of_foldlM_ok h hd
  obtain ⟨da, hda⟩ := createDataAttribute_ok_iff.mp ⟨after, hstep⟩
  exact attributeBuilds_of_newDataAttribute hda

theorem createDataAttributes_ok_of_returns {n : ℕ} {t : SclType}
    (hreturns : Returns (createDataAttributes (newDataAttribute templates n) t))
    (hbuilds : ∀ d ∈ t.daDefinitions, AttributeBuilds templates d) :
    ∃ attributes, createDataAttributes (newDataAttribute templates n) t = .ok attributes := by
  have hall := (returns_createDataAttributes_iff.mp hreturns).forall_mem hbuilds
  refine (exists_foldlM_ok_iff (f := createDataAttribute (newDataAttribute templates n))
    (I := fun _ => True) (fun attributes d _ => createDataAttribute_ok_iff)
    (fun _ _ _ _ _ => trivial) trivial).mpr fun d hd => ?_
  exact newDataAttribute_ok_of_returns (hall d hd) (hbuilds d hd)

/-! ## Data objects -/

theorem objectBuilds_of_newDataObject {n : ℕ} {d : DataObjectDefinition}
    {node : DataObject} (h : newDataObject templates n d = .ok node) :
    ObjectBuilds templates d := by
  induction n generalizing d node with
  | zero => cases h
  | succ n ih =>
      obtain ⟨t, attributes, objects, hlookup, hattributes, hobjects, -⟩ :=
        newDataObject_eq_ok h
      refine ObjectBuilds.intro hlookup (attributeBuilds_of_createDataAttributes hattributes)
        fun o ho => ?_
      obtain ⟨sub, -, hsub⟩ := exists_of_mapM_ok hobjects ho
      exact ih hsub

theorem ObjectBuilds.succeeds {d : DataObjectDefinition} (h : ObjectBuilds templates d) :
    Succeeds fun n => newDataObject templates n d := by
  induction h with
  | @intro d t hlookup hattributes _ ih =>
      have hreached : AllReached (AttributeBuilds templates)
          (fun a => ∃ n, Returns (newDataAttribute templates n a [] .dataObject))
          t.dataAttributes := by
        intro a ha
        obtain ⟨da, hda⟩ := (hattributes a ha.mem).succeeds [] .dataObject
        exact hda.finishes
      obtain ⟨n, hn⟩ := hreached.exists_fuel fun n m a hle =>
        (fuelled_newDataAttribute a [] .dataObject).returns_of_le hle
      obtain ⟨objects, m, hm⟩ :=
        (succeeds_mapM_iff (@fuelled_newDataObject templates)).mpr ih
      let k := max n m
      have hk : Returns
          (createDataAttributes (newDataAttribute templates k) (.dataObjectType t)) := by
        refine returns_createDataAttributes_iff.mpr fun a ha => ?_
        exact (fuelled_newDataAttribute a [] .dataObject).returns_of_le
          (le_max_left n m) (hn a ha)
      obtain ⟨attributes, hk⟩ := createDataAttributes_ok_of_returns hk hattributes
      have hobjects : t.subDataObjects.mapM (newDataObject templates k) = .ok objects :=
        (Fuelled.mapM fuelled_newDataObject _).yields_of_le (le_max_right n m) hm
      refine ⟨{
        name := d.name
        count := d.count
        trans := d.transient
        dataAttributes := attributes
        subDataObjects := objects }, k + 1, ?_⟩
      simp only [newDataObject, hlookup]
      exact bind_eq_ok.mpr ⟨attributes, hk, bind_eq_ok.mpr ⟨objects, hobjects, rfl⟩⟩

theorem returns_mapM_newDataObject_iff {n : ℕ} {ds : List DataObjectDefinition} :
    Returns (ds.mapM (newDataObject templates n)) ↔
      AllReached (ObjectBuilds templates)
        (fun d => Returns (newDataObject templates n d)) ds := by
  rw [returns_mapM_iff]
  constructor
  · intro h
    refine h.of_accepted fun d _ hreturns hbuilds => ?_
    obtain ⟨node, hnode⟩ := hbuilds.succeeds
    exact ⟨node, (fuelled_newDataObject d).yields_of_returns hreturns hnode⟩
  · intro h d hd
    exact h d (hd.mono fun o _ ⟨_, ho⟩ => objectBuilds_of_newDataObject ho)

theorem returns_newDataObject_succ_iff {n : ℕ} {d : DataObjectDefinition} :
    Returns (newDataObject templates (n + 1) d) ↔
      (∀ a, Expands templates (.dataObject d) (.dataAttribute a) →
        Returns (newDataAttribute templates n a [] .dataObject)) ∧
      (∀ o, Expands templates (.dataObject d) (.dataObject o) →
        Returns (newDataObject templates n o)) ∧
      ¬ Misdirected templates (.dataObject d) := by
  simp only [newDataObject]
  cases hlookup : templates.lookupType d.type with
  | none =>
      refine iff_of_true (returns_error _) ⟨?_, ?_, ?_⟩
      · intro a ha
        cases ha with
        | attributeOf hlookup' => simp [hlookup] at hlookup'
      · intro o ho
        cases ho with
        | subObject hlookup' => simp [hlookup] at hlookup'
      · rintro ⟨t, ht, -⟩
        simp [hlookup] at ht
  | some t =>
      simp only [returns_bind_iff, returns_pure, implies_true, and_true]
      have hattributes : Returns
          (createDataAttributes (newDataAttribute templates n) t) ↔
            ∀ a, Expands templates (.dataObject d) (.dataAttribute a) →
              Returns (newDataAttribute templates n a [] .dataObject) := by
        rw [returns_createDataAttributes_iff]
        constructor
        · intro h a ha
          cases ha with
          | attributeOf hlookup' hreached =>
              rw [hlookup] at hlookup'
              cases hlookup'
              exact h a hreached
        · exact fun h a ha => h a (Expands.attributeOf hlookup ha)
      rw [← hattributes]
      refine and_congr_right fun hreturns => ?_
      constructor
      · intro h
        refine ⟨fun o ho => ?_, ?_⟩
        · cases ho with
          | subObject hlookup' hbuilds hreached =>
              rw [hlookup] at hlookup'
              cases hlookup'
              obtain ⟨attributes, hok⟩ :=
                createDataAttributes_ok_of_returns hreturns hbuilds
              exact returns_mapM_newDataObject_iff.mp (h attributes hok) o hreached
        · rintro ⟨t', hlookup', hother, hbuilds⟩
          rw [hlookup] at hlookup'
          cases hlookup'
          obtain ⟨attributes, hok⟩ := createDataAttributes_ok_of_returns hreturns hbuilds
          have hobjects := h attributes hok
          cases t with
          | dataObjectType o => exact hother o rfl
          | _ => exact not_returns_panic _ hobjects
      · rintro ⟨hobjects, hmisdirected⟩ attributes hok
        have hbuilds := attributeBuilds_of_createDataAttributes hok
        by_cases hobject : ∃ o, t = .dataObjectType o
        · obtain ⟨o, rfl⟩ := hobject
          exact returns_mapM_newDataObject_iff.mpr fun s hs =>
            hobjects s (Expands.subObject hlookup hbuilds hs)
        · refine absurd ⟨t, hlookup, fun o ho => hobject ⟨o, ho⟩, hbuilds⟩ hmisdirected

/-! ## The call graph -/

/-- The definitions listed in the type declarations. -/
def SclType.calls : SclType → List Call
  | .dataObjectType t =>
      t.dataAttributes.map .dataAttribute ++ t.subDataObjects.map .dataObject
  | .dataAttributeType t => t.subDataAttributes.map .dataAttribute
  | _ => []

theorem daDefinitions_mem_calls {t : SclType} {a : DataAttributeDefinition}
    (h : a ∈ t.daDefinitions) : Call.dataAttribute a ∈ t.calls := by
  cases t <;> simp_all [SclType.daDefinitions, SclType.calls]

theorem Expands.mem_calls {c c' : Call} (h : Expands templates c c') :
    c' ∈ templates.typeDeclarations.flatMap SclType.calls := by
  rw [List.mem_flatMap]
  cases h with
  | member _ hlookup hreached =>
      exact ⟨_, lookupType_mem hlookup, by simpa [SclType.calls] using hreached.mem⟩
  | attributeOf hlookup hreached =>
      exact ⟨_, lookupType_mem hlookup, daDefinitions_mem_calls hreached.mem⟩
  | subObject hlookup _ hreached =>
      exact ⟨_, lookupType_mem hlookup, by simpa [SclType.calls] using hreached.mem⟩

/-- The call comes back with this much fuel. -/
def Call.ReturnsWithin (templates : DataTypeTemplates) (n : ℕ) : Call → Prop
  | .dataObject d => Returns (newDataObject templates n d)
  | .dataAttribute d => Returns (newDataAttribute templates n d [] .dataObject)

theorem Call.finishes_iff {c : Call} :
    c.Finishes templates ↔ ∃ n, c.ReturnsWithin templates n := by
  cases c with
  | dataObject d => exact Iff.rfl
  | dataAttribute d =>
      constructor
      · exact fun h => h [] .dataObject
      · rintro ⟨n, hn⟩ fc parent
        exact ⟨n, returns_newDataAttribute_uniform fc parent hn⟩

theorem Call.ReturnsWithin.mono {n m : ℕ} (hle : n ≤ m) {c : Call}
    (h : c.ReturnsWithin templates n) : c.ReturnsWithin templates m := by
  cases c with
  | dataObject d => exact (fuelled_newDataObject d).returns_of_le hle h
  | dataAttribute d =>
      exact (fuelled_newDataAttribute d [] .dataObject).returns_of_le hle h

theorem Call.returnsWithin_succ_iff {n : ℕ} {c : Call} :
    c.ReturnsWithin templates (n + 1) ↔
      (∀ c', Expands templates c c' → c'.ReturnsWithin templates n) ∧
        ¬ Misdirected templates c := by
  cases c with
  | dataObject d =>
      simp only [Call.ReturnsWithin, returns_newDataObject_succ_iff]
      constructor
      · rintro ⟨hattributes, hobjects, hmisdirected⟩
        refine ⟨fun c' hc' => ?_, hmisdirected⟩
        cases c' with
        | dataObject o => exact hobjects o hc'
        | dataAttribute a => exact hattributes a hc'
      · rintro ⟨h, hmisdirected⟩
        exact ⟨fun a ha => h _ ha, fun o ho => h _ ho, hmisdirected⟩
  | dataAttribute d =>
      simp only [Call.ReturnsWithin, returns_newDataAttribute_succ_iff, Misdirected,
        not_false_eq_true, and_true]
      constructor
      · intro h c' hc'
        cases c' with
        | dataObject o => cases hc'
        | dataAttribute a => exact h a hc'
      · exact fun h a ha => h _ ha

theorem Call.not_returnsWithin_zero {c : Call} : ¬ c.ReturnsWithin templates 0 := by
  cases c <;> exact not_returns_outOfFuel

/-- A call that comes back makes finitely many calls, and they come back. -/
theorem Call.ReturnsWithin.acc {n : ℕ} {c : Call} (h : c.ReturnsWithin templates n) :
    Acc (Function.swap (Expands templates)) c := by
  induction n generalizing c with
  | zero => exact absurd h Call.not_returnsWithin_zero
  | succ n ih =>
      exact Acc.intro c fun c' hc' => ih ((Call.returnsWithin_succ_iff.mp h).1 c' hc')

theorem Call.ReturnsWithin.reachable {n : ℕ} {c c' : Call}
    (h : c.ReturnsWithin templates n) (hreach : ReflTransGen (Expands templates) c c') :
    c'.ReturnsWithin templates n := by
  induction hreach with
  | refl => exact h
  | tail _ hstep ih =>
      cases n with
      | zero => exact absurd ih Call.not_returnsWithin_zero
      | succ n =>
          exact ((Call.returnsWithin_succ_iff.mp ih).1 _ hstep).mono (Nat.le_succ n)

theorem Call.exists_fuel_of_children {c : Call}
    (hchildren : ∀ c', Expands templates c c' → ∃ n, c'.ReturnsWithin templates n)
    (hmisdirected : ¬ Misdirected templates c) : ∃ n, c.ReturnsWithin templates n := by
  -- finitely many definitions are listed, so one amount of fuel serves them all
  have hlisted : AllReached (fun _ => True)
      (fun c' => ∃ n, Expands templates c c' → c'.ReturnsWithin templates n)
      (templates.typeDeclarations.flatMap SclType.calls) := by
    intro c' _
    by_cases hc' : Expands templates c c'
    · obtain ⟨n, hn⟩ := hchildren c' hc'
      exact ⟨n, fun _ => hn⟩
    · exact ⟨0, fun h => absurd h hc'⟩
  obtain ⟨n, hn⟩ := hlisted.exists_fuel fun n m c' hle h hc' => (h hc').mono hle
  refine ⟨n + 1, Call.returnsWithin_succ_iff.mpr ⟨fun c' hc' => ?_, hmisdirected⟩⟩
  exact hn.forall_mem (by simp) c' hc'.mem_calls hc'

/-- No definition that the expansion comes to refers back to itself, and no
data object it comes to names a declaration of another kind. -/
def Call.Unfolds (templates : DataTypeTemplates) (c : Call) : Prop :=
  ∀ c', ReflTransGen (Expands templates) c c' →
    ¬ TransGen (Expands templates) c' c' ∧ ¬ Misdirected templates c'

theorem Call.finishes_iff_unfolds {c : Call} :
    c.Finishes templates ↔ c.Unfolds templates := by
  rw [Call.finishes_iff]
  constructor
  · rintro ⟨n, hn⟩ c' hreach
    have hc' : c'.ReturnsWithin templates n := hn.reachable hreach
    refine ⟨Reference.not_transGen_self_of_acc hc'.acc, ?_⟩
    cases n with
    | zero => exact absurd hc' Call.not_returnsWithin_zero
    | succ n => exact (Call.returnsWithin_succ_iff.mp hc').2
  · intro h
    have hacc : Acc (Function.swap (Expands templates)) c :=
      Reference.acc_of_no_reachable_cycle (List.finite_toSet _)
        (fun _ _ hstep => hstep.mem_calls) fun c' hc' => (h c' hc').1
    induction hacc with
    | intro c _ ih =>
        refine Call.exists_fuel_of_children (fun c' hc' => ?_) (h c ReflTransGen.refl).2
        exact ih c' hc' fun c'' hc'' => h c'' (ReflTransGen.head hc' hc'')

/-- The expansion of a data object or data attribute definition comes back
with a tree or an error exactly when no definition it comes to refers back to
itself and no data object it comes to names a declaration of another kind. -/
theorem instantiation_terminates_iff (templates : DataTypeTemplates) :
    (∀ d, (∃ fuel, Returns (newDataObject templates fuel d)) ↔
      (Call.dataObject d).Unfolds templates) ∧
    (∀ d fc parent, (∃ fuel, Returns (newDataAttribute templates fuel d fc parent)) ↔
      (Call.dataAttribute d).Unfolds templates) := by
  refine ⟨fun d => Call.finishes_iff_unfolds (c := .dataObject d), fun d fc parent => ?_⟩
  rw [← Call.finishes_iff_unfolds, Call.finishes_iff]
  constructor
  · rintro ⟨n, hn⟩
    exact ⟨n, returns_newDataAttribute_uniform _ _ hn⟩
  · rintro ⟨n, hn⟩
    exact ⟨n, returns_newDataAttribute_uniform _ _ hn⟩

/-- A `DOType` with a sub data object of its own type. -/
def selfReferringTemplates : DataTypeTemplates where
  typeDeclarations := [.dataObjectType {
    id := lit "WYE"
    subDataObjects := [{ name := lit "phsA", type := lit "WYE" }] }]

theorem newDataObject_selfReferring_diverges :
    ¬ ∃ fuel, Returns (newDataObject selfReferringTemplates fuel
      { name := lit "A", type := lit "WYE" }) := by
  rintro ⟨fuel, hfuel⟩
  have hstep : Expands selfReferringTemplates
      (.dataObject { name := lit "phsA", type := lit "WYE" })
      (.dataObject { name := lit "phsA", type := lit "WYE" }) :=
    Expands.subObject rfl (by simp) ⟨[], [], rfl, by simp⟩
  have hstart : Expands selfReferringTemplates
      (.dataObject { name := lit "A", type := lit "WYE" })
      (.dataObject { name := lit "phsA", type := lit "WYE" }) :=
    Expands.subObject rfl (by simp) ⟨[], [], rfl, by simp⟩
  have hunfolds := Call.finishes_iff_unfolds (c := .dataObject _).mp ⟨fuel, hfuel⟩
  exact (hunfolds _ (ReflTransGen.single hstart)).1 (TransGen.single hstep)

end Iec61850.Scl
