import Iec61850.SetpointPlaces

/-!
# The data model under two prefixes

The forward declarations and the definitions of the data model, printed with
two model prefixes.  If `SE_` is inserted alike wherever it is inserted, they
are one output with either prefix in front of its names.
-/

namespace Iec61850.Scl

open Go

variable {p q : Str}

def PrintContext.withPrefix (ctx : PrintContext) (modelPrefix : Str) : PrintContext :=
  { ctx with insertSE := Scl.insertSE modelPrefix }

variable {ctx : PrintContext}

theorem cuttable_of_insertSE {modelPrefix name name' : Str}
    (h : insertSE modelPrefix name = .ok name') : Cuttable modelPrefix name := by
  by_contra hcut
  have hpanics := (panicsUnless_insertSE modelPrefix name).panics hcut
  rw [h] at hpanics
  exact not_panics_ok _ hpanics

/-- The variable of an attribute, where `SE_` is inserted alike. -/
theorem bothCarry_setpointName {fc w : Str}
    (h : fc = lit "SE" → Cuttable p (p ++ w) → Cuttable q (q ++ w) → SetpointPlace p q w) :
    BothCarry (fun f => f) p q ((ctx.withPrefix p).setpointName fc (p ++ w))
      ((ctx.withPrefix q).setpointName fc (q ++ w)) := by
  intro name name' hname hname'
  unfold PrintContext.setpointName at hname hname'
  by_cases hse : fc = lit "SE"
  · rw [if_pos hse] at hname hname'
    obtain ⟨r, hr, hr'⟩ :=
      (h hse (cuttable_of_insertSE hname) (cuttable_of_insertSE hname')).alike
    rw [insertSE_eq_ok hname, insertSE_eq_ok hname']
    exact ⟨r, hr, hr'⟩
  · rw [if_neg hse] at hname hname'
    obtain rfl := Except.ok.inj hname
    obtain rfl := Except.ok.inj hname'
    exact ⟨w, rfl, rfl⟩

/-- What the variable of an attribute is made of. -/
structure VariableRest (p q fc w r : Str) : Prop where
  place : fc = lit "SE" → SetpointPlace p q r
  plain : fc ≠ lit "SE" → r = w

theorem variableRest_of_setpointName {fc w r : Str}
    (h : fc = lit "SE" → Cuttable p (p ++ w) → Cuttable q (q ++ w) → SetpointPlace p q w)
    (hleft : (ctx.withPrefix p).setpointName fc (p ++ w) = .ok (p ++ r))
    (hright : (ctx.withPrefix q).setpointName fc (q ++ w) = .ok (q ++ r)) :
    VariableRest p q fc w r := by
  unfold PrintContext.setpointName at hleft hright
  constructor
  · intro hse
    rw [if_pos hse] at hleft hright
    have hplace := h hse (cuttable_of_insertSE hleft) (cuttable_of_insertSE hright)
    exact hplace.inserted (insertSE_eq_ok hleft).symm (insertSE_eq_ok hright).symm
  · intro hse
    rw [if_neg hse] at hleft
    exact (List.append_cancel_left (Except.ok.inj hleft)).symm

theorem VariableRest.rooted {fc w r : Str} (h : VariableRest p q fc w r) (hw : Rooted w) :
    Rooted r := by
  by_cases hse : fc = lit "SE"
  · exact (h.place hse).rooted
  · rw [h.plain hse]
    exact hw

/-! ## Forward declarations -/

/-- Declarations and recorded names. -/
def mapDeclared (f : Str → Str) (out : List ExternDeclaration × List Str) :
    List ExternDeclaration × List Str :=
  (out.1.map (ExternDeclaration.mapNames f), out.2.map f)

theorem append_mem_map_append_iff {p r : Str} {rests : List Str} :
    p ++ r ∈ rests.map (p ++ ·) ↔ r ∈ rests :=
  List.mem_map_of_injective fun _ _ => List.append_cancel_left

/-- One list of declarations after the other. -/
theorem bothCarry_declared {x y : Outcome (List ExternDeclaration × List Str)}
    {f g : List Str → Outcome (List ExternDeclaration × List Str)}
    (hxy : BothCarry mapDeclared p q x y)
    (hfg : ∀ rests : List Str,
      BothCarry mapDeclared p q (f (rests.map (p ++ ·))) (g (rests.map (q ++ ·)))) :
    BothCarry mapDeclared p q
      (do
        let (declared, names) ← x
        let (others, names) ← f names
        pure (declared ++ others, names))
      (do
        let (declared, names) ← y
        let (others, names) ← g names
        pure (declared ++ others, names)) := by
  refine hxy.bind fun first _ _ => (hfg first.2).bind fun second _ _ => .pure ?_
  exact ⟨(first.1 ++ second.1, second.2), by simp [mapDeclared], by simp [mapDeclared]⟩

theorem bothCarry_declareDataAttribute {u : Str} {da : DataAttribute}
    (hname : da.fc = lit "SE" → Cuttable p (p ++ joinName u da.name) →
      Cuttable q (q ++ joinName u da.name) → SetpointPlace p q (joinName u da.name))
    (hmembers : ∀ r, VariableRest p q da.fc (joinName u da.name) r → ∀ names : List Str,
      BothCarry mapDeclared p q
        (printDataObjectForwardDeclarationsByDA (ctx.withPrefix p) (p ++ r)
          da.subDataAttributes (names.map (p ++ ·)))
        (printDataObjectForwardDeclarationsByDA (ctx.withPrefix q) (q ++ r)
          da.subDataAttributes (names.map (q ++ ·)))) (names : List Str) :
    BothCarry mapDeclared p q
      (declareDataAttribute (ctx.withPrefix p) (p ++ u) da (names.map (p ++ ·)))
      (declareDataAttribute (ctx.withPrefix q) (q ++ u) da (names.map (q ++ ·))) := by
  rw [declareDataAttribute_eq, declareDataAttribute_eq, joinName_append, joinName_append]
  refine (bothCarry_setpointName hname).bind fun r hleft hright => ?_
  have hrest := variableRest_of_setpointName hname hleft hright
  simp only [append_mem_map_append_iff]
  split
  · exact .pure ⟨([], names), rfl, rfl⟩
  · refine (hmembers r hrest (r :: names)).bind fun out _ _ => .pure ?_
    exact ⟨(⟨.dataAttribute, r⟩ :: out.1, out.2), rfl, rfl⟩

theorem bothCarry_forwardDeclarationsByDA {u : Str} {das : List DataAttribute} (hu : Rooted u)
    (h : ∀ w ∈ outerSetpoints declaredParents u das,
      Cuttable p (p ++ w) → Cuttable q (q ++ w) → SetpointPlace p q w) (names : List Str) :
    BothCarry mapDeclared p q
      (printDataObjectForwardDeclarationsByDA (ctx.withPrefix p) (p ++ u) das
        (names.map (p ++ ·)))
      (printDataObjectForwardDeclarationsByDA (ctx.withPrefix q) (q ++ u) das
        (names.map (q ++ ·))) := by
  induction das using dataAttribute_induction generalizing u names with
  | nil => exact .pure ⟨([], names), rfl, rfl⟩
  | cons da rest ihm ihr =>
      rw [forall_mem_outerSetpoints_cons] at h
      obtain ⟨hown, hmembers, hrest⟩ := h
      refine bothCarry_declared (bothCarry_declareDataAttribute hown ?_ names) (ihr hu hrest)
      intro r hr names
      refine ihm (hr.rooted (hu.join da.name)) ?_ names
      by_cases hse : da.fc = lit "SE"
      · exact fun w hw _ _ =>
          (hr.place hse).outerSetpoints parentsBelow_declaredParents _ w hw
      · rw [hr.plain hse]
        exact hmembers hse _ (List.mem_singleton_self _)

theorem bothCarry_declareDataObject {u : Str} {node : DataObject} (hu : InModel [] 1 u)
    (hattributes : ∀ w ∈ outerSetpoints declaredParents (joinName u node.name)
      node.dataAttributes, Cuttable p (p ++ w) → Cuttable q (q ++ w) → SetpointPlace p q w)
    (hobjects : ∀ names : List Str, BothCarry mapDeclared p q
      (printDataObjectForwardDeclarationsByDO (ctx.withPrefix p) (p ++ joinName u node.name)
        node.subDataObjects (names.map (p ++ ·)))
      (printDataObjectForwardDeclarationsByDO (ctx.withPrefix q) (q ++ joinName u node.name)
        node.subDataObjects (names.map (q ++ ·)))) (names : List Str) :
    BothCarry mapDeclared p q
      (declareDataObject (ctx.withPrefix p) (p ++ u) node (names.map (p ++ ·)))
      (declareDataObject (ctx.withPrefix q) (q ++ u) node (names.map (q ++ ·))) := by
  rw [declareDataObject_eq, declareDataObject_eq]
  simp only [joinName_append, append_mem_map_append_iff]
  split
  · exact .pure ⟨([], names), rfl, rfl⟩
  · refine (hobjects (joinName u node.name :: names)).bind fun objects _ _ => ?_
    refine (bothCarry_forwardDeclarationsByDA (hu.child node.name).rooted hattributes []).bind
      fun attributes _ _ => .pure ?_
    exact ⟨(⟨.dataObject, joinName u node.name⟩ :: objects.1 ++ attributes.1, objects.2),
      by simp [mapDeclared, ExternDeclaration.mapNames],
      by simp [mapDeclared, ExternDeclaration.mapNames]⟩

theorem bothCarry_forwardDeclarationsByDO {u : Str} {nodes : List DataObject}
    (hu : InModel [] 1 u)
    (h : ∀ w ∈ objectSetpoints declaredParents u nodes,
      Cuttable p (p ++ w) → Cuttable q (q ++ w) → SetpointPlace p q w) (names : List Str) :
    BothCarry mapDeclared p q
      (printDataObjectForwardDeclarationsByDO (ctx.withPrefix p) (p ++ u) nodes
        (names.map (p ++ ·)))
      (printDataObjectForwardDeclarationsByDO (ctx.withPrefix q) (q ++ u) nodes
        (names.map (q ++ ·))) := by
  induction nodes using dataObject_induction generalizing u names with
  | nil => exact .pure ⟨([], names), rfl, rfl⟩
  | cons node rest ihm ihr =>
      rw [forall_mem_objectSetpoints_cons] at h
      obtain ⟨hobjects, hattributes, hrest⟩ := h
      exact bothCarry_declared (bothCarry_declareDataObject hu hattributes
        (ihm ((hu.child node.name).mono (by omega)) hobjects) names) (ihr hu hrest)

/-- The declarations of all devices. -/
theorem bothCarry_printForwardDeclarations {devices : List LogicalDevice}
    (h : ∀ device ∈ devices, ∀ ln ∈ device.logicalNodes,
      ∀ w ∈ objectSetpoints declaredParents (joinName (joinName [] device.inst) ln.getName)
        ln.dataObjects, Cuttable p (p ++ w) → Cuttable q (q ++ w) → SetpointPlace p q w) :
    BothCarry (fun f => List.map (ExternDeclaration.mapNames f)) p q
      (printForwardDeclarations (ctx.withPrefix p) p devices)
      (printForwardDeclarations (ctx.withPrefix q) q devices) := by
  refine (BothCarry.mapM_same (m := fun f => List.map (ExternDeclaration.mapNames f))
    fun device hdevice => ?_).bind fun declared _ _ => .pure ?_
  · refine (BothCarry.mapM_same (m := fun f => List.map (ExternDeclaration.mapNames f))
      fun ln hln => ?_).bind fun declared _ _ => .pure ?_
    · have hnode : InModel [] 1 (joinName (joinName [] device.inst) ln.getName) :=
        (inModel_joinName device.inst).child ln.getName
      have hobjects := @bothCarry_forwardDeclarationsByDO p q ctx _ _ hnode
        (h device hdevice ln hln) []
      unfold printLogicalNodeForwardDeclarations
      rw [joinName_eq_append p, joinName_eq_append q, joinName_append, joinName_append]
      refine hobjects.bind fun out _ _ => .pure ?_
      exact ⟨⟨.logicalNode, joinName (joinName [] device.inst) ln.getName⟩ :: out.1, rfl, rfl⟩
    · refine ⟨⟨.logicalDevice, joinName [] device.inst⟩ :: declared.flatten, ?_, ?_⟩ <;>
        simp [ExternDeclaration.mapNames, joinName, List.map_flatten]
  · refine ⟨⟨.iedModel, []⟩ :: declared.flatten, ?_, ?_⟩ <;>
      simp [ExternDeclaration.mapNames, List.map_flatten]

/-! ## Definitions -/

theorem bothCarry_printedValue {r : Str} (type : AttributeType) (value : Option GoValue) :
    BothCarry InitialValue.mapNames p q (printedValue (ctx.withPrefix p) (p ++ r) type value)
      (printedValue (ctx.withPrefix q) (q ++ r) type value) := by
  cases type with
  | octetString64 =>
      intro a b ha hb
      simp only [printedValue] at ha hb
      split at ha
      next decoded =>
        obtain rfl := Except.ok.inj ha
        obtain rfl := Except.ok.inj hb
        exact ⟨.octetString (r ++ lit "__val") decoded, by simp [InitialValue.mapNames],
          by simp [InitialValue.mapNames]⟩
      next => cases ha
  | _ =>
      intro a b ha hb
      obtain rfl : a = b := Except.ok.inj (ha.symm.trans hb)
      refine ⟨a, ?_, ?_⟩ <;>
      · obtain rfl := Except.ok.inj ha
        rfl

theorem bothCarry_printInitialValue {r : Str} (da : DataAttribute) :
    BothCarry (fun f => List.map (InitStatement.mapNames f)) p q
      (printInitialValue (ctx.withPrefix p) (p ++ r) da)
      (printInitialValue (ctx.withPrefix q) (q ++ r) da) := by
  refine BothCarry.bind_same (x := initialValue ctx da) fun value _ => ?_
  refine BothCarry.mapM_same fun v _ => ?_
  refine (bothCarry_printedValue da.attributeType v.value).bind fun printed _ _ => .pure ?_
  exact ⟨⟨r, ctx.initializeOnce, printed⟩, rfl, rfl⟩

theorem bothCarry_attributeSibling {u : Str} (hu : Rooted u) {next : Option DataAttribute}
    (h : ∀ da ∈ next, da.fc = lit "SE" → Cuttable p (p ++ joinName u da.name) →
      Cuttable q (q ++ joinName u da.name) → SetpointPlace p q (joinName u da.name)) :
    BothCarry Option.map p q (attributeSibling (ctx.withPrefix p) (p ++ u) next)
      (attributeSibling (ctx.withPrefix q) (q ++ u) next) := by
  cases next with
  | none => exact .pure ⟨none, rfl, rfl⟩
  | some da =>
      intro a b ha hb
      obtain ⟨name, hname, ha⟩ := bind_eq_ok.mp ha
      obtain ⟨name', hname', hb⟩ := bind_eq_ok.mp hb
      obtain rfl := Except.ok.inj ha
      obtain rfl := Except.ok.inj hb
      unfold PrintContext.setpointName at hname hname'
      by_cases hse : da.fc = lit "SE"
      · rw [if_pos hse] at hname hname'
        have hleft := cuttable_of_insertSE hname
        have hright := cuttable_of_insertSE hname'
        obtain ⟨r, hr, hr'⟩ := (h da rfl hse (cuttable_joinName hu hleft da.name)
          (cuttable_joinName hu hright da.name)).alike
        rw [hu.mangleSE_joinName hleft, ← insertSE_eq_ok hname] at hr
        rw [hu.mangleSE_joinName hright, ← insertSE_eq_ok hname'] at hr'
        exact ⟨some r, congrArg some hr, congrArg some hr'⟩
      · rw [if_neg hse] at hname hname'
        obtain rfl := Except.ok.inj hname
        obtain rfl := Except.ok.inj hname'
        exact ⟨some (joinName u da.name), by simp, by simp⟩

theorem mapNames_attributeNode (rt : Runtime) (r u : Str) (isTransient : Bool)
    (sibling : Option Str) (da : DataAttribute) :
    (attributeNode rt r u isTransient sibling da).mapNames (p ++ ·) =
      attributeNode rt (p ++ r) (p ++ u) isTransient (sibling.map (p ++ ·)) da := by
  simp only [attributeNode, NodeDefinition.mapNames]
  split <;> simp [Function.comp_def]

theorem mapNames_elementNode (r : Str) (isTransient : Bool) (idx : ℕ) (da : DataAttribute) :
    (elementNode r isTransient idx da).mapNames (p ++ ·) =
      elementNode (p ++ r) isTransient idx da := by
  simp only [elementNode, NodeDefinition.mapNames]
  split <;> simp [Function.comp_def]

/-- The members of an attribute, or its elements with their members. -/
theorem bothCarry_printAttributeChildren {r : Str} {isTransient : Bool} {da : DataAttribute}
    (hmembers : ∀ v ∈ memberParents da r, BothCarry Definitions.mapNames p q
      (printDataAttributeDefinitions (ctx.withPrefix p) (p ++ v) isTransient
        da.subDataAttributes)
      (printDataAttributeDefinitions (ctx.withPrefix q) (q ++ v) isTransient
        da.subDataAttributes)) :
    BothCarry Definitions.mapNames p q
      (printAttributeChildren (ctx.withPrefix p) (p ++ r) isTransient da)
      (printAttributeChildren (ctx.withPrefix q) (q ++ r) isTransient da) := by
  unfold printAttributeChildren
  unfold memberParents at hmembers
  by_cases harray : 0 < da.count
  · rw [if_pos harray] at hmembers
    simp only [if_pos harray]
    refine (BothCarry.mapM_same (m := Definitions.mapNames) fun idx hidx => ?_).bind
      fun elements _ _ => .pure ?_
    · have hmember := hmembers _ (List.mem_map_of_mem hidx)
      unfold printElement
      rw [joinName_append, joinName_append]
      refine hmember.bind fun members _ _ => .pure ?_
      exact ⟨Definitions.ofNode (elementNode r isTransient idx da) ++ members,
        by simp [mapNames_elementNode], by simp [mapNames_elementNode]⟩
    · exact ⟨Definitions.concat elements, by simp, by simp⟩
  · rw [if_neg harray] at hmembers
    simp only [if_neg harray]
    exact hmembers r (List.mem_singleton_self r)

theorem bothCarry_printDataAttributeDefinitions {u : Str} {isTransient : Bool}
    {das : List DataAttribute} (hu : Rooted u)
    (h : ∀ w ∈ outerSetpoints memberParents u das,
      Cuttable p (p ++ w) → Cuttable q (q ++ w) → SetpointPlace p q w) :
    BothCarry Definitions.mapNames p q
      (printDataAttributeDefinitions (ctx.withPrefix p) (p ++ u) isTransient das)
      (printDataAttributeDefinitions (ctx.withPrefix q) (q ++ u) isTransient das) := by
  induction das using dataAttribute_induction generalizing u with
  | nil => exact .pure ⟨{}, by simp, by simp⟩
  | cons da rest ihm ihr =>
      rw [forall_mem_outerSetpoints_cons] at h
      obtain ⟨hown, hmembers, hrest⟩ := h
      have hnext : ∀ next ∈ rest.head?, next.fc = lit "SE" →
          Cuttable p (p ++ joinName u next.name) → Cuttable q (q ++ joinName u next.name) →
          SetpointPlace p q (joinName u next.name) := by
        intro next hnext
        obtain ⟨others, rfl⟩ := List.head?_eq_some_iff.mp hnext
        exact (forall_mem_outerSetpoints_cons.mp hrest).1
      rw [printDataAttributeDefinitions, printDataAttributeDefinitions,
        printDataAttributeDefinition_eq, printDataAttributeDefinition_eq, joinName_append,
        joinName_append]
      refine BothCarry.bind (m := Definitions.mapNames) ?_ fun first _ _ =>
        (ihr hu hrest).bind fun others _ _ => .pure ⟨first ++ others, by simp, by simp⟩
      refine (bothCarry_setpointName hown).bind fun r hleft hright => ?_
      have hr := variableRest_of_setpointName hown hleft hright
      refine (bothCarry_attributeSibling hu hnext).bind fun sibling _ _ => ?_
      have hchildren : ∀ v ∈ memberParents da r, BothCarry Definitions.mapNames p q
          (printDataAttributeDefinitions (ctx.withPrefix p) (p ++ v) isTransient
            da.subDataAttributes)
          (printDataAttributeDefinitions (ctx.withPrefix q) (q ++ v) isTransient
            da.subDataAttributes) := by
        intro v hv
        by_cases hse : da.fc = lit "SE"
        · have hplace : SetpointPlace p q v := by
            rcases parentsBelow_memberParents da r v hv with rfl | ⟨name, rfl⟩
            · exact hr.place hse
            · exact (hr.place hse).join name
          exact ihm hplace.rooted fun w hw _ _ =>
            hplace.outerSetpoints parentsBelow_memberParents _ w hw
        · obtain rfl := hr.plain hse
          refine ihm ?_ (hmembers hse v hv)
          rcases parentsBelow_memberParents da _ v hv with rfl | ⟨name, rfl⟩
          · exact hu.join da.name
          · exact (hu.join da.name).join name
      refine (bothCarry_printAttributeChildren hchildren).bind fun children _ _ => ?_
      refine (bothCarry_printInitialValue da).bind fun statements _ _ => .pure ?_
      refine ⟨Definitions.ofNode (attributeNode ctx.rt r u isTransient sibling da) ++ children ++
        Definitions.ofStatements statements, ?_, ?_⟩ <;>
      · simp [mapNames_attributeNode]
        rfl

/-! ## Data objects -/

theorem carried_objectSibling {last last' : Str} (u : Str) (nodes : List DataObject)
    (hlast : Carried Option.map p q (pointerTo last) (pointerTo last')) :
    Carried Option.map p q (objectSibling (p ++ u) last nodes)
      (objectSibling (q ++ u) last' nodes) := by
  cases nodes with
  | nil => exact hlast
  | cons next rest => exact ⟨some (joinName u next.name), by simp [objectSibling],
      by simp [objectSibling]⟩

/-- The first attribute is named as the sibling of another would be. -/
theorem bothCarry_firstAttributeName {u : Str} (hu : Rooted u) {das : List DataAttribute}
    (h : ∀ w ∈ outerSetpoints memberParents u das,
      Cuttable p (p ++ w) → Cuttable q (q ++ w) → SetpointPlace p q w) {first first' : Str}
    (hfirst : firstAttributeName (ctx.withPrefix p) (p ++ u) das = .ok first)
    (hfirst' : firstAttributeName (ctx.withPrefix q) (q ++ u) das = .ok first') :
    Carried Option.map p q (pointerTo first) (pointerTo first') := by
  cases das with
  | nil =>
      obtain rfl := Except.ok.inj hfirst
      obtain rfl := Except.ok.inj hfirst'
      exact ⟨none, rfl, rfl⟩
  | cons da rest =>
      have hnext : ∀ next ∈ some da, next.fc = lit "SE" →
          Cuttable p (p ++ joinName u next.name) → Cuttable q (q ++ joinName u next.name) →
          SetpointPlace p q (joinName u next.name) := by
        rintro next ⟨⟩
        exact (forall_mem_outerSetpoints_cons.mp h).1
      obtain ⟨name, hname, hfirst⟩ := bind_eq_ok.mp hfirst
      obtain ⟨name', hname', hfirst'⟩ := bind_eq_ok.mp hfirst'
      obtain rfl := Except.ok.inj hfirst
      obtain rfl := Except.ok.inj hfirst'
      have hsame := bothCarry_attributeSibling hu hnext (some (joinName name da.name))
        (some (joinName name' da.name)) (bind_eq_ok.mpr ⟨name, hname, rfl⟩)
        (bind_eq_ok.mpr ⟨name', hname', rfl⟩)
      rw [pointerTo, if_neg (joinName_ne_nil name da.name), pointerTo,
        if_neg (joinName_ne_nil name' da.name)]
      exact hsame

theorem bothCarry_printDataObjectDefinitions {u last last' : Str} {isTransient : Bool}
    {nodes : List DataObject} (hu : InModel [] 1 u)
    (hlast : Carried Option.map p q (pointerTo last) (pointerTo last'))
    (h : ∀ w ∈ objectSetpoints memberParents u nodes,
      Cuttable p (p ++ w) → Cuttable q (q ++ w) → SetpointPlace p q w) :
    BothCarry Definitions.mapNames p q
      (printDataObjectDefinitions (ctx.withPrefix p) (p ++ u) last isTransient nodes)
      (printDataObjectDefinitions (ctx.withPrefix q) (q ++ u) last' isTransient nodes) := by
  induction nodes using dataObject_induction generalizing u last last' isTransient with
  | nil => exact .pure ⟨{}, by simp, by simp⟩
  | cons node rest ihm ihr =>
      rw [forall_mem_objectSetpoints_cons] at h
      obtain ⟨hobjects, hattributes, hrest⟩ := h
      have hdoName := hu.child node.name
      intro out out' hout hout'
      obtain ⟨first, objects, attributes, others, hfirst, hobjects₁, hattributes₁, hothers, rfl⟩ :=
        printDataObjectDefinitions_cons_ok hout
      obtain ⟨first', objects', attributes', others', hfirst', hobjects', hattributes', hothers',
        rfl⟩ := printDataObjectDefinitions_cons_ok hout'
      rw [joinName_append] at hfirst hobjects₁ hattributes₁ hfirst' hobjects' hattributes'
      have hpointer := bothCarry_firstAttributeName hdoName.rooted hattributes hfirst hfirst'
      obtain ⟨objectRests, rfl, rfl⟩ := ihm (hdoName.mono (by omega)) hpointer hobjects _ _
        hobjects₁ hobjects'
      obtain ⟨attributeRests, rfl, rfl⟩ := bothCarry_printDataAttributeDefinitions hdoName.rooted
        hattributes _ _ hattributes₁ hattributes'
      obtain ⟨otherRests, rfl, rfl⟩ := ihr hu hlast hrest _ _ hothers hothers'
      obtain ⟨sibling, hsibling, hsibling'⟩ :=
        carried_objectSibling u rest hlast
      obtain ⟨child, hchild, hchild'⟩ :=
        carried_objectSibling (joinName u node.name) node.subDataObjects hpointer
      refine ⟨Definitions.ofNode ⟨joinName u node.name, objectLabel node, u, sibling, child⟩ ++
        objectRests ++ attributeRests ++ otherRests, ?_, ?_⟩
      · simp [objectNode, NodeDefinition.mapNames, hsibling, hchild]
      · simp [objectNode, NodeDefinition.mapNames, hsibling', hchild']

end Iec61850.Scl
