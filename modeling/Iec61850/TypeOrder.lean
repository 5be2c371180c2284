import Iec61850.TypeIndependence
import Iec61850.TypeReferences
import Mathlib.Data.List.Find
import Mathlib.Data.List.Perm.Basic

/-!
# The order of the type declarations

The parser keeps the types in one list and takes the first with an id.  As long as no id
is declared twice, the order in which the types are declared does not matter.
-/

namespace Iec61850.Scl

open Go

/-! ## Loops over a reordered list -/

section Loops

variable {α β γ : Type}

theorem mapM_perm {f : α → Outcome β} {xs xs' : List α} {ys : List β} (hperm : xs.Perm xs')
    (h : xs.mapM f = .ok ys) : ∃ ys', xs'.mapM f = .ok ys' ∧ ys.Perm ys' := by
  obtain ⟨ys', hys', hperm'⟩ := List.perm_comp_forall₂ hperm.symm (mapM_eq_ok.mp h)
  exact ⟨ys', mapM_eq_ok.mpr hys', hperm'.symm⟩

/-- A list with distinct keys has at most one element of a key. -/
theorem find?_perm_of_nodup [DecidableEq γ] {key : α → γ} {xs xs' : List α}
    (hperm : xs.Perm xs') (hdistinct : (xs.map key).Nodup) (k : γ) :
    xs'.find? (fun x => key x = k) = xs.find? fun x => key x = k := by
  apply (List.find?_eq_find?_of_perm hperm _).symm
  intro x hx y hy
  have hxkey : key x = k := by simpa using hx.2
  have hykey : key y = k := by simpa using hy.2
  exact List.inj_on_of_nodup_map hdistinct hx.1 hy.1 (hxkey.trans hykey.symm)

end Loops

/-! ## Declarations -/

/-- The same declarations, each of the four lists in an order of its own. -/
structure Reordered (declared declared' : DataTypeTemplates) : Prop where
  dataAttributeTypes : declared.dataAttributeTypes.Perm declared'.dataAttributeTypes
  dataObjectTypes : declared.dataObjectTypes.Perm declared'.dataObjectTypes
  enumTypes : declared.enumTypes.Perm declared'.enumTypes
  logicalNodeTypes : declared.logicalNodeTypes.Perm declared'.logicalNodeTypes

variable {rt : Runtime} {declared declared' templates templates' : DataTypeTemplates}

theorem Reordered.symm (h : Reordered declared declared') : Reordered declared' declared where
  dataAttributeTypes := h.dataAttributeTypes.symm
  dataObjectTypes := h.dataObjectTypes.symm
  enumTypes := h.enumTypes.symm
  logicalNodeTypes := h.logicalNodeTypes.symm

theorem Reordered.declarations (h : Reordered declared declared') (kind : TypeKind) :
    (declared.declarations kind).Perm (declared'.declarations kind) := by
  cases kind with
  | dataAttributeType => exact h.dataAttributeTypes.map _
  | dataObjectType => exact h.dataObjectTypes.map _
  | enumerationType => exact h.enumTypes.map _
  | logicalNodeType => exact h.logicalNodeTypes.map _

/-- Reordered declarations parse when the others do, to the same types reordered. -/
theorem Reordered.parse (h : Reordered declared declared')
    (hparse : parseTypeDeclarations rt declared = .ok templates) :
    ∃ templates', parseTypeDeclarations rt declared' = .ok templates' ∧
      Reordered templates templates' := by
  obtain ⟨attributeTypes, hattributeTypes, hrest⟩ := bind_eq_ok.mp hparse
  obtain ⟨objectTypes, hobjectTypes, htemplates⟩ := bind_eq_ok.mp hrest
  obtain rfl := Except.ok.inj htemplates
  obtain ⟨attributeTypes', hattributeTypes', hattributes⟩ :=
    mapM_perm h.dataAttributeTypes hattributeTypes
  obtain ⟨objectTypes', hobjectTypes', hobjects⟩ := mapM_perm h.dataObjectTypes hobjectTypes
  unfold parseTypeDeclarations
  simp only [hattributeTypes', hobjectTypes', ok_bind]
  exact ⟨_, rfl, {
    dataAttributeTypes := hattributes
    dataObjectTypes := hobjects
    enumTypes := h.enumTypes
    logicalNodeTypes := h.logicalNodeTypes }⟩

/-- Within a kind only the first declaration of an id counts; with distinct ids that is
the same one in every order. -/
theorem Reordered.lookupType (h : Reordered templates templates')
    (hparse : parseTypeDeclarations rt declared = .ok templates)
    (hparse' : parseTypeDeclarations rt declared' = .ok templates')
    (hdistinct : ∀ kind, (declared.declaredIds kind).Nodup) (id : Str) :
    templates'.lookupType id = templates.lookupType id := by
  have hkind : ∀ kind,
      (templates'.declarations kind).find? (fun t => t.getId = id) =
        (templates.declarations kind).find? fun t => t.getId = id := by
    intro kind
    apply find?_perm_of_nodup (h.declarations kind)
    have hids := declaredIds_parseTypeDeclarations hparse kind
    rw [DataTypeTemplates.declaredIds] at hids
    rw [hids]
    exact hdistinct kind
  unfold DataTypeTemplates.lookupType
  rw [parseTypeDeclarations_merged hparse, parseTypeDeclarations_merged hparse']
  simp only [List.find?_append, hkind]

/-- The type section of a document that is accepted has been parsed. -/
theorem parseTypeDeclarations_of_runGenModel {n : ℕ} {scl : SCL} {args : GeneratorArguments}
    {files : GeneratedFiles}
    (hrun : runGenModel rt n (scl.withTypes declared) args = .ok files) :
    ∃ templates, parseTypeDeclarations rt declared = .ok templates := by
  obtain ⟨model, hmodel, -⟩ := bind_eq_ok.mp hrun
  obtain ⟨source, templates, -, -, -, hsource, htemplates, -, -, -⟩ :=
    (ParsedModel.mk (scl.withTypes declared) n model hmodel).stages
  obtain rfl := Option.some.inj hsource
  exact ⟨templates, htemplates⟩

theorem Reordered.runGenModel_ok (h : Reordered declared declared')
    (hdistinct : ∀ kind, (declared.declaredIds kind).Nodup) {n : ℕ} {scl : SCL}
    {args : GeneratorArguments} {files : GeneratedFiles}
    (hrun : runGenModel rt n (scl.withTypes declared) args = .ok files) :
    runGenModel rt n (scl.withTypes declared') args = .ok files := by
  obtain ⟨templates, hparse⟩ := parseTypeDeclarations_of_runGenModel hrun
  obtain ⟨templates', hparse', hreordered⟩ := h.parse hparse
  rw [← hrun]
  apply runGenModel_agree rt n scl args hparse hparse' (closed_inUse templates scl.nodes)
    fun _ hln => .node hln
  intro id _
  exact hreordered.lookupType hparse hparse' hdistinct id

/-- The order in which types are declared does not change the generated files. -/
theorem runGenModel_declaration_order (rt : Runtime) (n : ℕ) (scl : SCL)
    (args : GeneratorArguments) (h : Reordered declared declared')
    (hdistinct : ∀ kind, (declared.declaredIds kind).Nodup) (files : GeneratedFiles) :
    runGenModel rt n (scl.withTypes declared') args = .ok files ↔
      runGenModel rt n (scl.withTypes declared) args = .ok files := by
  constructor
  · apply h.symm.runGenModel_ok
    intro kind
    have hids := (h.declarations kind).map SclType.getId
    exact hids.nodup_iff.mp (hdistinct kind)
  · exact h.runGenModel_ok hdistinct

/-- The spare types moved behind the others. -/
def reorderedTemplates : DataTypeTemplates where
  logicalNodeTypes := spareTemplates.logicalNodeTypes
  dataObjectTypes := spareTemplates.dataObjectTypes.reverse
  enumTypes := spareTemplates.enumTypes.reverse

theorem reordered_spareTemplates : Reordered spareTemplates reorderedTemplates where
  dataAttributeTypes := List.Perm.refl _
  dataObjectTypes := (List.reverse_perm _).symm
  enumTypes := (List.reverse_perm _).symm
  logicalNodeTypes := List.Perm.refl _

theorem runGenModel_declaration_order_spare :
    ∃ files,
      runGenModel plainRuntime 4
        ((documentOf {} [healthDevice []]).withTypes spareTemplates) {} = .ok files ∧
      runGenModel plainRuntime 4
        ((documentOf {} [healthDevice []]).withTypes reorderedTemplates) {} = .ok files := by
  have hrun : (runGenModel plainRuntime 4
      ((documentOf {} [healthDevice []]).withTypes spareTemplates) {}).isOk = true := by
    decide +kernel
  have hfiles := eq_ok_resultOf _ hrun
  refine ⟨_, hfiles, ?_⟩
  have hdistinct : ∀ kind, (spareTemplates.declaredIds kind).Nodup := by
    intro kind
    cases kind <;> decide +kernel
  exact (runGenModel_declaration_order plainRuntime 4 _ {} reordered_spareTemplates hdistinct
    _).mpr hfiles

end Iec61850.Scl
