import Iec61850.DataModelSafety
import Iec61850.LinkedDefinitions
import Iec61850.PlainTexts

/-!
# Models whose texts are plain

The names and the string values which the trees of a data model must have so
that all definitions and initial values printed for them are plain.
-/

namespace Iec61850.Scl

open Go CSource

/-! ## Conditions on the model -/

/-- The types whose values are printed between double quotes. -/
def AttributeType.isString : AttributeType → Bool
  | .unicodeString255 | .visibleString32 | .visibleString64 | .visibleString129
  | .visibleString255 | .visibleString65 | .currency => true
  | _ => false

def GoValue.string? : GoValue → Option Str
  | .string s => some s
  | _ => none

/-- The string that is the value of the attribute, or the default of its type. -/
def DataAttribute.quotedValue (da : DataAttribute) : Option Str :=
  if da.attributeType.isString then
    ((da.value.or da.definition.value).bind (·.value)).bind GoValue.string?
  else none

/-- Name and constraint go into identifiers, the value into a literal. -/
structure DataAttribute.Plain (da : DataAttribute) : Prop where
  name : IsName da.name
  fc : IsName da.fc
  value : ∀ s ∈ da.quotedValue, IsClean s

inductive DataObject.Plain : DataObject → Prop
  | intro {node : DataObject} (hname : IsName node.name)
      (hattributes : ∀ da ∈ node.dataAttributes, da.Everywhere DataAttribute.Plain)
      (hobjects : ∀ sub ∈ node.subDataObjects, sub.Plain) : node.Plain

/-! ## Initial values -/

variable {ctx : PrintContext}

def InitStatement.Plain (d : InitStatement) : Prop :=
  ∀ segments ∈ d.text, PlainText false segments

theorem InitStatement.plain_iff (d : InitStatement) :
    d.Plain ↔ ∀ quoted ∈ d.value.quotes, IsName d.target ∧ IsClean quoted.2 := by
  have hunformatted (s : Str) : IsUnformatted false s := fun h => absurd h (by decide)
  constructor
  · rintro h ⟨constructor, s⟩ hquotes
    obtain ⟨segments, htext⟩ : ∃ segments, d.text = some segments := by
      rw [InitStatement.text, hquotes]
      exact ⟨_, rfl⟩
    have hplain := (plain_initStatement hquotes htext).mp (h segments htext)
    exact ⟨hplain.1, hplain.2.1⟩
  · intro h segments htext
    obtain ⟨⟨constructor, s⟩, hquotes, -⟩ := Option.map_eq_some_iff.mp htext
    obtain ⟨htarget, hclean⟩ := h _ hquotes
    exact (plain_initStatement hquotes htext).mpr ⟨htarget, hclean, hunformatted s⟩

/-- The string of the value that is printed. -/
theorem initialValue_string {da : DataAttribute} {value : Option DataModelValue}
    (h : initialValue ctx da = .ok value) :
    (value.bind (·.value)).bind GoValue.string? =
      ((da.value.or da.definition.value).bind (·.value)).bind GoValue.string? := by
  unfold initialValue at h
  split at h
  next v hvalue =>
    obtain rfl := Except.ok.inj h
    rw [hvalue]
    rfl
  next hvalue =>
    rw [hvalue, Option.none_or]
    split at h
    next hnone =>
      obtain rfl := Except.ok.inj h
      rw [hnone]
    next v hv =>
      rw [hv]
      split at h
      next hunset =>
        obtain ⟨updated, hupdated, h⟩ := bind_eq_ok.mp h
        obtain rfl := Except.ok.inj h
        rcases value_of_updateEnumOrdValue hupdated with hsame | ⟨ord, hord⟩
        · simp [hsame]
        · simp [hord, hunset, GoValue.string?]
      next =>
        obtain rfl := Except.ok.inj h
        rfl

theorem printedValue_quotes {daName : Str} {type : AttributeType} {value : Option GoValue}
    {printed : InitialValue} (h : printedValue ctx daName type value = .ok printed) :
    printed.quotes.map Prod.snd =
      if type.isString then value.bind GoValue.string? else none := by
  cases type with
  | octetString64 =>
      simp only [printedValue] at h
      split at h
      · obtain rfl := Except.ok.inj h
        rfl
      · cases h
  | unicodeString255 | visibleString32 | visibleString64 | visibleString129
  | visibleString255 | visibleString65 | currency =>
      obtain rfl := Except.ok.inj h
      cases value with
      | none => rfl
      | some v => cases v <;> rfl
  | _ =>
      obtain rfl := Except.ok.inj h
      rfl

/-- The statements of an attribute assign to its variable and quote its value. -/
theorem plain_printInitialValue {daName : Str} {da : DataAttribute}
    {statements : List InitStatement} (h : printInitialValue ctx daName da = .ok statements)
    (hdaName : IsName daName) :
    (∀ d ∈ statements, d.Plain) ↔ ∀ s ∈ da.quotedValue, IsClean s := by
  obtain ⟨value, hvalue, hstatements⟩ := bind_eq_ok.mp h
  have hstring := initialValue_string hvalue
  unfold DataAttribute.quotedValue
  rw [← hstring]
  cases value with
  | none =>
      obtain rfl := Except.ok.inj hstatements
      simp
  | some v =>
      rw [Option.toList_some, List.mapM_cons] at hstatements
      obtain ⟨d, hd, hstatements⟩ := bind_eq_ok.mp hstatements
      obtain rfl := Except.ok.inj hstatements
      obtain ⟨printed, hprinted, hd⟩ := bind_eq_ok.mp hd
      obtain rfl := Except.ok.inj hd
      have hone : (∀ d ∈ ([{ target := daName, once := ctx.initializeOnce, value := printed }] :
          List InitStatement), d.Plain) ↔ _ :=
        List.forall_mem_singleton.trans (InitStatement.plain_iff _)
      rw [Option.bind_some, ← printedValue_quotes hprinted]
      refine hone.trans ?_
      cases printed.quotes with
      | none => simp
      | some quoted => simp [hdaName]

/-! ## Definitions -/

/-- Everything printed for a part of the model is plain. -/
structure Definitions.Plain (d : Definitions) : Prop where
  nodes : ∀ node ∈ d.cOut, PlainText false node.text
  statements : ∀ statement ∈ d.initializerBuffer, statement.Plain

theorem Definitions.plain_append {a b : Definitions} :
    (a ++ b).Plain ↔ a.Plain ∧ b.Plain := by
  constructor
  · rintro ⟨hnodes, hstatements⟩
    obtain ⟨ha, hb⟩ := List.forall_mem_append.mp hnodes
    obtain ⟨ha', hb'⟩ := List.forall_mem_append.mp hstatements
    exact ⟨⟨ha, ha'⟩, ⟨hb, hb'⟩⟩
  · rintro ⟨ha, hb⟩
    exact ⟨List.forall_mem_append.mpr ⟨ha.nodes, hb.nodes⟩,
      List.forall_mem_append.mpr ⟨ha.statements, hb.statements⟩⟩

theorem Definitions.plain_empty : Definitions.Plain {} :=
  ⟨fun _ hmem => absurd hmem List.not_mem_nil, fun _ hmem => absurd hmem List.not_mem_nil⟩

theorem Definitions.plain_concat {parts : List Definitions} :
    (Definitions.concat parts).Plain ↔ ∀ part ∈ parts, part.Plain := by
  induction parts with
  | nil => simp [Definitions.plain_empty]
  | cons part parts ih =>
      rw [Definitions.concat_cons, Definitions.plain_append, ih, List.forall_mem_cons]

theorem Definitions.plain_ofNode {d : NodeDefinition} :
    (Definitions.ofNode d).Plain ↔ PlainText false d.text := by
  constructor
  · intro h
    exact h.nodes d (List.mem_singleton_self d)
  · intro h
    exact ⟨List.forall_mem_singleton.mpr h, fun _ hmem => absurd hmem List.not_mem_nil⟩

theorem Definitions.plain_ofStatements {statements : List InitStatement} :
    (Definitions.ofStatements statements).Plain ↔ ∀ d ∈ statements, d.Plain :=
  ⟨fun h => h.statements, fun h => ⟨fun _ hmem => absurd hmem List.not_mem_nil, h⟩⟩

/-! ## Attributes -/

theorem isClean_of_isName {s : Str} (hs : IsName s) : IsClean s := by
  intro c hc
  refine ⟨?_, ?_, ?_⟩
  all_goals
    rintro rfl
    have hword := hs _ hc
    revert hword
    decide

theorem quotable_of_isName {formatted : Bool} {s : Str} (hs : IsName s) : Quotable formatted s :=
  ⟨isClean_of_isName hs, fun _ => hs.percent_not_mem⟩

/-- The names of the generator's context come from `insertSE`. -/
def PrintContext.Mangles (ctx : PrintContext) : Prop :=
  ∃ modelPrefix, ctx.insertSE = Scl.insertSE modelPrefix

theorem isName_setpointName (hctx : ctx.Mangles) {fc name name' : Str}
    (h : ctx.setpointName fc name = .ok name') : IsName name' ↔ IsName name := by
  obtain ⟨modelPrefix, hinsert⟩ := hctx
  unfold PrintContext.setpointName at h
  split at h
  next =>
    rw [hinsert] at h
    rw [insertSE_eq_ok h, isName_mangleSE]
  next => rw [Except.ok.inj h]

theorem isName_attributeSibling (hctx : ctx.Mangles) {doName : Str} {next : Option DataAttribute}
    {sibling : Option Str} (h : attributeSibling ctx doName next = .ok sibling)
    (hdoName : IsName doName) (hnext : ∀ da ∈ next, IsName da.name) :
    ∀ v ∈ sibling, IsName v := by
  cases next with
  | none =>
      obtain rfl := Except.ok.inj h
      simp
  | some da =>
      obtain ⟨name, hname, h⟩ := bind_eq_ok.mp h
      obtain rfl := Except.ok.inj h
      rintro v hv
      obtain rfl := Option.some.inj hv
      rw [isName_joinName, isName_setpointName hctx hname]
      exact ⟨hdoName, hnext da rfl⟩

theorem plain_attributeNode {rt : Runtime} {daName doName : Str} {isTransient : Bool}
    {sibling : Option Str} {da : DataAttribute} :
    PlainText false (attributeNode rt daName doName isTransient sibling da).text ↔
      IsName daName ∧ Quotable false da.name ∧ IsName doName ∧ (∀ v ∈ sibling, IsName v) ∧
        (∀ v ∈ (attributeNode rt daName doName isTransient sibling da).firstChild, IsName v) ∧
        IsName da.fc := by
  simp [plain_node, attributeNode, attributeLabel, NodeKind.fc?]

theorem plain_elementNode {daName : Str} {isTransient : Bool} {idx : ℕ} {da : DataAttribute}
    (hdaName : IsName daName) (hfc : IsName da.fc)
    (hsubs : ∀ sub ∈ da.subDataAttributes, IsName sub.name) :
    PlainText false (elementNode daName isTransient idx da).text := by
  rw [plain_node]
  refine ⟨by simp [elementNode, hdaName], by simp [elementNode, elementLabel], hdaName, ?_, ?_,
    by simpa [elementNode, elementLabel, NodeKind.fc?] using hfc⟩
  · intro v hv
    simp only [elementNode] at hv
    split at hv
    · obtain rfl := Option.some.inj hv
      simp [hdaName]
    · cases hv
  · intro v hv
    obtain ⟨sub, hsub, rfl⟩ := Option.map_eq_some_iff.mp hv
    simp [hdaName, hsubs sub (List.mem_of_head? hsub)]

theorem isName_attribute_firstChild {rt : Runtime} {daName doName : Str} {isTransient : Bool}
    {sibling : Option Str} {da : DataAttribute} (hdaName : IsName daName)
    (hsubs : ∀ sub ∈ da.subDataAttributes, IsName sub.name) :
    ∀ v ∈ (attributeNode rt daName doName isTransient sibling da).firstChild, IsName v := by
  intro v hv
  simp only [attributeNode] at hv
  split at hv
  · obtain rfl := Option.some.inj hv
    have hzero : IsName (lit "0") := by decide
    simp [hdaName, hzero]
  · obtain ⟨sub, hsub, rfl⟩ := Option.map_eq_some_iff.mp hv
    simp [hdaName, hsubs sub (List.mem_of_head? hsub)]

/-- What is printed for the children of an attribute is plain exactly if what
is printed for its sub attributes is, below any plain name. -/
theorem plain_printAttributeChildren {daName : Str} {isTransient : Bool} {da : DataAttribute}
    {children : Definitions} {P : DataAttribute → Prop}
    (hsubs : ∀ doName out, IsName doName →
      printDataAttributeDefinitions ctx doName isTransient da.subDataAttributes = .ok out →
      (out.Plain ↔ ∀ sub ∈ da.subDataAttributes, P sub))
    (hname : ∀ sub, P sub → IsName sub.name)
    (h : printAttributeChildren ctx daName isTransient da = .ok children)
    (hdaName : IsName daName) (hfc : IsName da.fc) :
    children.Plain ↔ ∀ sub ∈ da.subDataAttributes, P sub := by
  rcases printAttributeChildren_ok h with ⟨harray, elements, rfl, helements⟩ | ⟨-, hmembers⟩
  · have hmember (idx : ℕ) : IsName (joinName daName (itoa idx)) := by simp [hdaName]
    rw [Definitions.plain_concat]
    constructor
    · intro hall
      -- an array has an element 0, which has all members
      have hzero : 0 ∈ List.range da.count.toNat := List.mem_range.mpr (by omega)
      obtain ⟨element, hmem, helement⟩ := exists_mem_of_forall₂ helements hzero
      obtain ⟨members, hmembers, helement⟩ := bind_eq_ok.mp helement
      obtain rfl := Except.ok.inj helement
      exact (hsubs _ members (hmember 0) hmembers).mp
        (Definitions.plain_append.mp (hall _ hmem)).2
    · intro hall element hmem
      obtain ⟨idx, -, helement⟩ := exists_mem_of_forall₂ helements.flip hmem
      obtain ⟨members, hmembers, helement⟩ := bind_eq_ok.mp helement
      obtain rfl := Except.ok.inj helement
      refine Definitions.plain_append.mpr ⟨Definitions.plain_ofNode.mpr ?_,
        (hsubs _ members (hmember idx) hmembers).mpr hall⟩
      exact plain_elementNode hdaName hfc fun sub hsub => hname sub (hall sub hsub)
  · exact hsubs daName children hdaName hmembers

theorem plain_printDataAttributeDefinitions (hctx : ctx.Mangles) {isTransient : Bool}
    {doName : Str} {das : List DataAttribute} {out : Definitions}
    (h : printDataAttributeDefinitions ctx doName isTransient das = .ok out) :
    out.Plain ↔ (das ≠ [] → IsName doName) ∧
      ∀ da ∈ das, da.Everywhere DataAttribute.Plain := by
  induction das using dataAttribute_induction generalizing doName out with
  | nil =>
      obtain rfl := Except.ok.inj h
      simp [Definitions.plain_empty]
  | cons da rest ihSubs ihRest =>
      obtain ⟨daName, sibling, children, statements, others, hdaName, hsibling, hchildren,
        hstatements, hothers, rfl⟩ := printDataAttributeDefinitions_cons_ok h
      have hsubs : ∀ doName out, IsName doName →
          printDataAttributeDefinitions ctx doName isTransient da.subDataAttributes = .ok out →
          (out.Plain ↔ ∀ sub ∈ da.subDataAttributes, sub.Everywhere DataAttribute.Plain) := by
        intro doName out hdoName hout
        rw [ihSubs hout]
        simp [hdoName]
      have hname : ∀ sub : DataAttribute, sub.Everywhere DataAttribute.Plain → IsName sub.name :=
        fun sub hsub => (DataAttribute.everywhere_iff.mp hsub).1.name
      rw [Definitions.plain_append, Definitions.plain_append, Definitions.plain_append,
        Definitions.plain_ofNode, Definitions.plain_ofStatements, plain_attributeNode,
        ihRest hothers, List.forall_mem_cons, DataAttribute.everywhere_iff,
        isName_setpointName hctx hdaName, isName_joinName]
      constructor
      · rintro ⟨⟨⟨⟨hjoined, -, hdoName, -, -, hfc⟩, hplain⟩, hvalue⟩, -, hrest⟩
        have hdaPlain : IsName daName :=
          (isName_setpointName hctx hdaName).mpr (isName_joinName.mpr hjoined)
        refine ⟨fun _ => hdoName, ⟨⟨hjoined.2, hfc, ?_⟩, ?_⟩, hrest⟩
        · exact (plain_printInitialValue hstatements hdaPlain).mp hvalue
        · exact (plain_printAttributeChildren hsubs hname hchildren hdaPlain hfc).mp hplain
      · rintro ⟨hdoName, ⟨hself, hall⟩, hrest⟩
        have hdoName := hdoName (List.cons_ne_nil da rest)
        have hdaPlain : IsName daName :=
          (isName_setpointName hctx hdaName).mpr (isName_joinName.mpr ⟨hdoName, hself.name⟩)
        refine ⟨⟨⟨⟨⟨hdoName, hself.name⟩, quotable_of_isName hself.name, hdoName, ?_, ?_,
          hself.fc⟩, ?_⟩, ?_⟩, fun _ => hdoName, hrest⟩
        · refine isName_attributeSibling hctx hsibling hdoName fun next hnext => ?_
          exact hname next (hrest next (List.mem_of_head? hnext))
        · exact isName_attribute_firstChild hdaPlain fun sub hsub => hname sub (hall sub hsub)
        · exact (plain_printAttributeChildren hsubs hname hchildren hdaPlain hself.fc).mpr hall
        · exact (plain_printInitialValue hstatements hdaPlain).mpr hself.value

/-! ## Data objects -/

theorem DataObject.plain_iff {node : DataObject} :
    node.Plain ↔ IsName node.name ∧
      (∀ da ∈ node.dataAttributes, da.Everywhere DataAttribute.Plain) ∧
      ∀ sub ∈ node.subDataObjects, sub.Plain := by
  constructor
  · intro h
    cases h with
    | intro hname hattributes hobjects => exact ⟨hname, hattributes, hobjects⟩
  · rintro ⟨hname, hattributes, hobjects⟩
    exact .intro hname hattributes hobjects

theorem plain_objectNode {doName lnName firstDataAttributeName : Str} {sibling : Option Str}
    {node : DataObject} :
    PlainText false (objectNode doName lnName sibling firstDataAttributeName node).text ↔
      IsName doName ∧ Quotable false node.name ∧ IsName lnName ∧ (∀ v ∈ sibling, IsName v) ∧
        ∀ v ∈ objectSibling doName firstDataAttributeName node.subDataObjects, IsName v := by
  simp [plain_node, objectNode, objectLabel, NodeKind.fc?]

theorem isName_objectSibling {lnName dataAttributeSibling : Str} {rest : List DataObject}
    (hlnName : IsName lnName) (hsibling : IsName dataAttributeSibling)
    (hrest : ∀ node ∈ rest, IsName node.name) :
    ∀ v ∈ objectSibling lnName dataAttributeSibling rest, IsName v := by
  intro v hv
  cases rest with
  | nil =>
      simp only [objectSibling, pointerTo] at hv
      split at hv
      · cases hv
      · obtain rfl := Option.some.inj hv
        exact hsibling
  | cons next rest =>
      obtain rfl := Option.some.inj hv
      exact isName_joinName.mpr ⟨hlnName, hrest next List.mem_cons_self⟩

theorem isName_firstAttributeName (hctx : ctx.Mangles) {doName name : Str}
    {das : List DataAttribute} (h : firstAttributeName ctx doName das = .ok name)
    (hdoName : IsName doName) (hdas : ∀ da ∈ das, IsName da.name) : IsName name := by
  cases das with
  | nil =>
      obtain rfl := Except.ok.inj h
      exact isName_nil
  | cons da rest =>
      obtain ⟨fDoName, hname, h⟩ := bind_eq_ok.mp h
      obtain rfl := Except.ok.inj h
      rw [isName_joinName, isName_setpointName hctx hname]
      exact ⟨hdoName, hdas da List.mem_cons_self⟩

theorem objects_of_plain_definitions (hctx : ctx.Mangles) {isTransient : Bool}
    {lnName sibling : Str} {nodes : List DataObject} {out : Definitions}
    (h : printDataObjectDefinitions ctx lnName sibling isTransient nodes = .ok out)
    (hplain : out.Plain) : ∀ node ∈ nodes, node.Plain := by
  induction nodes using dataObject_induction generalizing lnName sibling isTransient out with
  | nil => simp
  | cons node rest ihObjects ihRest =>
      obtain ⟨firstName, objects, attributes, others, -, hobjects, hattributes, hothers, rfl⟩ :=
        printDataObjectDefinitions_cons_ok h
      simp only [Definitions.plain_append, Definitions.plain_ofNode, plain_objectNode] at hplain
      obtain ⟨⟨⟨hnode, hobjectsPlain⟩, hattributesPlain⟩, hothersPlain⟩ := hplain
      refine List.forall_mem_cons.mpr ⟨DataObject.plain_iff.mpr ⟨?_, ?_, ?_⟩,
        ihRest hothers hothersPlain⟩
      · exact (isName_joinName.mp hnode.1).2
      · exact ((plain_printDataAttributeDefinitions hctx hattributes).mp hattributesPlain).2
      · exact ihObjects hobjects hobjectsPlain

theorem plain_definitions_of_objects (hctx : ctx.Mangles) {isTransient : Bool}
    {lnName sibling : Str} {nodes : List DataObject} {out : Definitions}
    (h : printDataObjectDefinitions ctx lnName sibling isTransient nodes = .ok out)
    (hlnName : IsName lnName) (hsibling : IsName sibling)
    (hnodes : ∀ node ∈ nodes, node.Plain) : out.Plain := by
  induction nodes using dataObject_induction generalizing lnName sibling isTransient out with
  | nil =>
      obtain rfl := Except.ok.inj h
      exact Definitions.plain_empty
  | cons node rest ihObjects ihRest =>
      obtain ⟨firstName, objects, attributes, others, hfirst, hobjects, hattributes, hothers,
        rfl⟩ := printDataObjectDefinitions_cons_ok h
      obtain ⟨hnode, hrest⟩ := List.forall_mem_cons.mp hnodes
      obtain ⟨hname, hdas, hsubs⟩ := DataObject.plain_iff.mp hnode
      have hobjectName (node : DataObject) (hnode : node.Plain) : IsName node.name :=
        (DataObject.plain_iff.mp hnode).1
      have hdoName : IsName (joinName lnName node.name) := isName_joinName.mpr ⟨hlnName, hname⟩
      have hfirstName : IsName firstName := isName_firstAttributeName hctx hfirst hdoName
        fun da hda => (DataAttribute.everywhere_iff.mp (hdas da hda)).1.name
      simp only [Definitions.plain_append, Definitions.plain_ofNode, plain_objectNode]
      refine ⟨⟨⟨⟨hdoName, quotable_of_isName hname, hlnName, ?_, ?_⟩,
        ihObjects hobjects hdoName hfirstName hsubs⟩, ?_⟩,
        ihRest hothers hlnName hsibling hrest⟩
      · exact isName_objectSibling hlnName hsibling fun next hnext =>
          hobjectName next (hrest next hnext)
      · exact isName_objectSibling hdoName hfirstName fun sub hsub =>
          hobjectName sub (hsubs sub hsub)
      · exact (plain_printDataAttributeDefinitions hctx hattributes).mpr ⟨fun _ => hdoName, hdas⟩

/-! ## Logical nodes and devices -/

/-- The data model of a logical node. -/
structure LogicalNode.Plain (ln : LogicalNode) : Prop where
  name : IsName ln.getName
  objects : ∀ node ∈ ln.dataObjects, node.Plain

structure LogicalDevice.Plain (device : LogicalDevice) : Prop where
  inst : IsName device.inst
  nodes : ∀ ln ∈ device.logicalNodes, ln.Plain

variable {blocks : ControlBlockContext}

theorem plain_logicalNodeNode {ldName : Str} {next : Option LogicalNode}
    {firstChild : DataObject} {ln : LogicalNode} :
    PlainText false (logicalNodeNode ldName next firstChild ln).text ↔
      IsName ldName ∧ IsName ln.getName ∧ (∀ ln ∈ next, IsName ln.getName) ∧
        IsName firstChild.name := by
  have hquotable : IsName ln.getName → Quotable false ln.getName := quotable_of_isName
  simp only [plain_node, logicalNodeNode, logicalNodeLabel, NodeKind.fc?, isName_joinName]
  cases next with
  | none => simp; tauto
  | some next => simp; tauto

theorem nodes_of_plain_definitions (hctx : ctx.Mangles) {deviceInst ldName : Str}
    {nodes : List LogicalNode} {out out' : DeviceModel}
    (h : printLogicalNodeDefinitions ctx blocks deviceInst ldName nodes out = .ok out')
    (hplain : out'.definitions.Plain) :
    out.definitions.Plain ∧ ∀ ln ∈ nodes, ln.Plain := by
  induction nodes generalizing out with
  | nil =>
      obtain rfl := Except.ok.inj h
      exact ⟨hplain, by simp⟩
  | cons ln rest ih =>
      obtain ⟨between, hln, hrest⟩ := printLogicalNodeDefinitions_cons_ok h
      obtain ⟨firstChild, objects, -, hobjects, hdefinitions, -⟩ :=
        printLogicalNodeDefinition_ok hln
      obtain ⟨hbetween, hothers⟩ := ih hrest
      simp only [hdefinitions, Definitions.plain_append, Definitions.plain_ofNode,
        plain_logicalNodeNode] at hbetween
      obtain ⟨hout, hnode, hobjectsPlain⟩ := hbetween
      exact ⟨hout, List.forall_mem_cons.mpr
        ⟨⟨hnode.2.1, objects_of_plain_definitions hctx hobjects hobjectsPlain⟩, hothers⟩⟩

theorem plain_definitions_of_nodes (hctx : ctx.Mangles) {deviceInst ldName : Str}
    {nodes : List LogicalNode} {out out' : DeviceModel}
    (h : printLogicalNodeDefinitions ctx blocks deviceInst ldName nodes out = .ok out')
    (hldName : IsName ldName) (hout : out.definitions.Plain) (hnodes : ∀ ln ∈ nodes, ln.Plain) :
    out'.definitions.Plain := by
  induction nodes generalizing out with
  | nil =>
      obtain rfl := Except.ok.inj h
      exact hout
  | cons ln rest ih =>
      obtain ⟨between, hln, hrest⟩ := printLogicalNodeDefinitions_cons_ok h
      obtain ⟨firstChild, objects, hfirst, hobjects, hdefinitions, -⟩ :=
        printLogicalNodeDefinition_ok hln
      obtain ⟨hself, hothers⟩ := List.forall_mem_cons.mp hnodes
      refine ih hrest ?_ hothers
      simp only [hdefinitions, Definitions.plain_append, Definitions.plain_ofNode,
        plain_logicalNodeNode]
      refine ⟨hout, ⟨hldName, hself.name, fun next hnext => ?_, ?_⟩, ?_⟩
      · exact (hothers next (List.mem_of_head? hnext)).name
      · have hmem := List.mem_of_head? (first_eq_ok.mp hfirst)
        exact (DataObject.plain_iff.mp (hself.objects firstChild hmem)).1
      · exact plain_definitions_of_objects hctx hobjects
          (isName_joinName.mpr ⟨hldName, hself.name⟩) isName_nil hself.objects

theorem plain_logicalDeviceNode {modelPrefix : Str} {next : Option LogicalDevice}
    {firstChild : LogicalNode} {device : LogicalDevice} :
    PlainText false (logicalDeviceNode modelPrefix next firstChild device).text ↔
      IsName modelPrefix ∧ IsName device.inst ∧ (∀ ld ∈ next, IsName ld.inst) ∧
        IsName firstChild.getName := by
  have hquotable : IsName device.inst → Quotable false device.inst := quotable_of_isName
  simp only [plain_node, logicalDeviceNode, logicalDeviceLabel, NodeKind.fc?, isName_joinName]
  cases next with
  | none => simp; tauto
  | some next => simp; tauto

/-- The definitions printed for the devices are plain exactly if the devices are
and the prefix of all names is a name. -/
theorem plain_printLogicalDeviceDefinitions (hctx : ctx.Mangles) {modelPrefix : Str}
    {devices : List LogicalDevice} {out out' : DeviceModel}
    (h : printLogicalDeviceDefinitions ctx blocks modelPrefix devices out = .ok out') :
    out'.definitions.Plain ↔ out.definitions.Plain ∧ (devices ≠ [] → IsName modelPrefix) ∧
      ∀ device ∈ devices, device.Plain := by
  induction devices generalizing out with
  | nil =>
      obtain rfl := Except.ok.inj h
      simp
  | cons device rest ih =>
      obtain ⟨between, hdevice, hrest⟩ := printLogicalDeviceDefinitions_cons_ok h
      obtain ⟨firstChild, hfirst, hnodes⟩ := printLogicalDeviceDefinition_ok hdevice
      rw [ih hrest]
      constructor
      · rintro ⟨hbetween, -, hothers⟩
        obtain ⟨hout, hnodesPlain⟩ := nodes_of_plain_definitions hctx hnodes hbetween
        simp only [Definitions.plain_append, Definitions.plain_ofNode,
          plain_logicalDeviceNode] at hout
        obtain ⟨hout, hmodel, hinst, -, -⟩ := hout
        exact ⟨hout, fun _ => hmodel, List.forall_mem_cons.mpr ⟨⟨hinst, hnodesPlain⟩, hothers⟩⟩
      · rintro ⟨hout, hmodel, hall⟩
        have hmodel := hmodel (List.cons_ne_nil device rest)
        obtain ⟨hself, hothers⟩ := List.forall_mem_cons.mp hall
        refine ⟨?_, fun _ => hmodel, hothers⟩
        refine plain_definitions_of_nodes hctx hnodes
          (isName_joinName.mpr ⟨hmodel, hself.inst⟩) ?_ hself.nodes
        simp only [Definitions.plain_append, Definitions.plain_ofNode, plain_logicalDeviceNode]
        refine ⟨hout, hmodel, hself.inst, fun next hnext => ?_, ?_⟩
        · exact (hothers next (List.mem_of_head? hnext)).inst
        · exact (hself.nodes firstChild (List.mem_of_head? (first_eq_ok.mp hfirst))).name

end Iec61850.Scl
