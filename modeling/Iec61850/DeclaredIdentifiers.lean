import Iec61850.CLexemes
import Iec61850.ControlBlockChains
import Iec61850.DataSetMembers
import Iec61850.DeclarationOrder
import Iec61850.DefinedVariables
import Iec61850.PointerGraph

/-!
# Declared identifiers

The `.h` file declares the nodes of the model, from a recursion of its own, and
the `.c` file declares or defines everything else before it is used.  Both
files are compared with the names which the definitions and the initializers
refer to.
-/

namespace Iec61850.Scl

open Go Linked

/-! ## The identifiers of a file -/

/-- The words of a text that are no numbers. -/
def wordsOf (text : Str) : List Str :=
  (text.splitOnP fun c => !CSource.isWordChar c).filter fun word =>
    match word with
    | [] => false
    | c :: _ => !c.isDigit

/-- What `%v` prints for a float which is not finite. -/
def floatIdentifiers (exponent fraction bound : ℕ) : List Str :=
  if exponent = bound then (if fraction = 0 then [lit "Inf"] else [lit "NaN"]) else []

/-- The identifiers in what `%v` prints; `true` and `false` are from `stdbool.h`. -/
def verbIdentifiers : Option GoValue → List Str
  | none => [lit "nil"]
  | some (.float32 bits) => floatIdentifiers (bits.toNat / 2 ^ 23 % 2 ^ 8) (bits.toNat % 2 ^ 23) 255
  | some (.float64 bits) =>
      floatIdentifiers (bits.toNat / 2 ^ 52 % 2 ^ 11) (bits.toNat % 2 ^ 52) 2047
  | some (.string text) => wordsOf text
  | some (.int _) | some (.int64 _) | some (.bool _) | some (.bytes _) => []

/-- An octet string is declared by the statement itself.  What is printed between quotes
counts as one literal, also where a quote in the text ends it early. -/
def InitialValue.identifiers : InitialValue → List Str
  | .bitString v | .float v | .double v | .utcTime v => verbIdentifiers v
  | _ => []

def InitStatement.identifiers (statement : InitStatement) : List Str :=
  statement.target ::
    ((if statement.once then [lit "nil"] else []) ++ statement.value.identifiers)

def IedModelDefinition.targets (d : IedModelDefinition) : List Str :=
  d.firstChild :: (d.dataSets.toList ++ d.rcbs.toList ++ d.gseCBs.toList ++ d.svCBs.toList ++
    d.sgcbs.toList ++ d.lcbs.toList ++ d.logs.toList)

/-- The variables whose address is taken, and the identifiers of the statements. -/
def CItem.identifiers : CItem → List Str
  | .initializerPrototype | .externDeclaration _ | .phyComAddress _ => []
  | .dataSetEntry d => d.sibling.toList
  | .dataSet d => d.fcdas :: d.sibling.toList
  | .node d => d.parent :: (d.sibling.toList ++ d.firstChild.toList)
  | .reportControlBlock d => d.parent :: d.sibling.toList
  | .svControlBlock d =>
      d.parent :: ((d.dstAddress.map PhyComAddressDefinition.addressName).toList ++
        d.sibling.toList)
  | .gseControlBlock d =>
      d.parent :: ((d.address.map PhyComAddressDefinition.addressName).toList ++
        d.sibling.toList)
  | .settingGroupControlBlock d => d.parent :: d.sibling.toList
  | .logControlBlock d => d.parent :: d.sibling.toList
  | .log d => d.parent :: d.sibling.toList
  | .iedModel d => d.targets
  | .initializer statements => statements.flatMap InitStatement.identifiers

/-- The variables that are declared or defined. -/
def CItem.declares : CItem → List Str
  | .initializerPrototype | .initializer _ => []
  | .externDeclaration d => [d.name]
  | .dataSetEntry d => [d.entryName]
  | .dataSet d => [d.dataSetName]
  | .node d => [d.variableName]
  | .phyComAddress d => [d.addressName]
  | .reportControlBlock d => [d.blockName]
  | .svControlBlock d => [d.blockName]
  | .gseControlBlock d => [d.blockName]
  | .settingGroupControlBlock d => [d.blockName]
  | .logControlBlock d => [d.blockName]
  | .log d => [d.logName]
  | .iedModel d => [d.modelName]

/-- The variables declared in the `.h` file. -/
def GeneratedFiles.headerNames (files : GeneratedFiles) : List Str :=
  files.h.externs.map ExternDeclaration.name

/-- Every identifier is declared before it is used, and every node once. -/
structure GeneratedFiles.DeclaredBeforeUse (files : GeneratedFiles) : Prop where
  used : Texts.InOrder CItem.identifiers CItem.declares {v | v ∈ files.headerNames} files.c
  macros : ∀ d ∈ files.h.defines, d.variableName ∈ files.headerNames
  nodes : ∀ d ∈ files.nodeDefinitions, files.headerNames.count d.variableName = 1

/-! ## The names of the model -/

variable {mangle : Str → Str} {rt : Runtime} {ctx : PrintContext} {isTransient : Bool}

/-- The variables of a named tree. -/
def namesOf (forest : List (RoseTree (Str × NodeLabel))) : List Str :=
  (preorder forest).map Prod.fst

theorem namesOf_append (left right : List (RoseTree (Str × NodeLabel))) :
    namesOf (left ++ right) = namesOf left ++ namesOf right := by
  rw [namesOf, preorder_append, List.map_append]
  rfl

theorem namesOf_cons (name : Str) (label : NodeLabel)
    (children rest : List (RoseTree (Str × NodeLabel))) :
    namesOf (.node (name, label) children :: rest) =
      name :: (namesOf children ++ namesOf rest) := by
  rw [namesOf, preorder_cons, List.map_cons, List.map_append]
  rfl

/-- No attribute is an array. -/
def NoArrays (das : List DataAttribute) : Prop :=
  ∀ da ∈ das, da.Everywhere fun da => ¬ 0 < da.count

theorem namesOf_namedAttributes_cons {doName : Str} {da : DataAttribute}
    {rest : List DataAttribute} (harray : ¬ 0 < da.count) :
    namesOf (namedAttributes mangle rt isTransient doName (da :: rest)) =
      setpointVariable mangle da.fc (joinName doName da.name) ::
        (namesOf (namedAttributes mangle rt isTransient
          (setpointVariable mangle da.fc (joinName doName da.name)) da.subDataAttributes) ++
        namesOf (namedAttributes mangle rt isTransient doName rest)) := by
  rw [namedAttributes_cons, namesOf_cons, namedChildren, if_neg harray]

theorem NoArrays.cons {da : DataAttribute} {rest : List DataAttribute}
    (h : NoArrays (da :: rest)) :
    ¬ 0 < da.count ∧ NoArrays da.subDataAttributes ∧ NoArrays rest := by
  obtain ⟨hda, hrest⟩ := List.forall_mem_cons.mp h
  obtain ⟨hself, hsubs⟩ := DataAttribute.everywhere_iff.mp hda
  exact ⟨hself, hsubs, hrest⟩

/-! ## The names that are declared -/

/-- What a declaring recursion has declared, with the names it has recorded. -/
structure DeclaresAll (names recorded : List Str)
    (out : List ExternDeclaration × List Str) : Prop where
  declared : out.1.map ExternDeclaration.name = names
  recorded : ∀ v ∈ out.2, v ∈ recorded ∨ v ∈ names

section Externs

variable (hmangle : ∀ name name', ctx.insertSE name = .ok name' → name' = mangle name)

include hmangle

theorem declaresAll_dataAttributes {doName : Str} {das : List DataAttribute}
    {recorded : List Str} {out : List ExternDeclaration × List Str}
    (harrays : NoArrays das)
    (hnodup : (namesOf (namedAttributes mangle rt isTransient doName das)).Nodup)
    (hnew : ∀ v ∈ namesOf (namedAttributes mangle rt isTransient doName das), v ∉ recorded)
    (h : printDataObjectForwardDeclarationsByDA ctx doName das recorded = .ok out) :
    DeclaresAll (namesOf (namedAttributes mangle rt isTransient doName das)) recorded out := by
  induction das using dataAttribute_induction generalizing doName recorded out with
  | nil =>
      obtain rfl := Except.ok.inj h
      exact ⟨by simp [namesOf], fun v hv => Or.inl hv⟩
  | cons da rest ihm ihr =>
      obtain ⟨harray, hsubs, hrest⟩ := harrays.cons
      rw [namesOf_namedAttributes_cons harray] at hnodup hnew ⊢
      obtain ⟨hfresh, hnodup⟩ := List.nodup_cons.mp hnodup
      obtain ⟨hnodupSubs, hnodupRest, hdisjoint⟩ := List.nodup_append'.mp hnodup
      rw [printDataObjectForwardDeclarationsByDA] at h
      obtain ⟨⟨declared, between⟩, hda, h⟩ := bind_eq_ok.mp h
      obtain ⟨⟨others, after⟩, hothers, h⟩ := bind_eq_ok.mp h
      obtain rfl := Except.ok.inj h
      rw [declareDataAttribute_eq] at hda
      obtain ⟨daName, hdaName, hda⟩ := bind_eq_ok.mp hda
      obtain rfl := setpointName_eq_ok hmangle hdaName
      rw [if_neg (hnew _ List.mem_cons_self)] at hda
      obtain ⟨⟨below, inner⟩, hbelow, hda⟩ := bind_eq_ok.mp hda
      obtain ⟨rfl, rfl⟩ := Prod.mk.inj (Except.ok.inj hda)
      have hown := ihm hsubs hnodupSubs (fun v hv hmem => by
        rcases List.mem_cons.mp hmem with rfl | hmem
        · exact hfresh (List.mem_append_left _ hv)
        · exact hnew v (List.mem_cons_of_mem _ (List.mem_append_left _ hv)) hmem) hbelow
      have hmore := ihr hrest hnodupRest (fun v hv hmem => by
        rcases hown.recorded v hmem with hmem | hmem
        · rcases List.mem_cons.mp hmem with rfl | hmem
          · exact hfresh (List.mem_append_right _ hv)
          · exact hnew v (List.mem_cons_of_mem _ (List.mem_append_right _ hv)) hmem
        · exact hdisjoint hmem hv) hothers
      refine ⟨?_, fun v hv => ?_⟩
      · rw [List.map_append, List.map_cons, hown.declared, hmore.declared, List.cons_append]
      · rcases hmore.recorded v hv with hv | hv
        · rcases hown.recorded v hv with hv | hv
          · rcases List.mem_cons.mp hv with rfl | hv
            · exact Or.inr List.mem_cons_self
            · exact Or.inl hv
          · exact Or.inr (List.mem_cons_of_mem _ (List.mem_append_left _ hv))
        · exact Or.inr (List.mem_cons_of_mem _ (List.mem_append_right _ hv))

theorem declaresAll_dataObjects {parent : Str} {nodes : List DataObject}
    {recorded : List Str} {out : List ExternDeclaration × List Str}
    (harrays : ∀ node ∈ nodes,
      node.AllAttributes fun da => da.Everywhere fun da => ¬ 0 < da.count)
    (hnodup : (namesOf (namedObjects mangle rt isTransient parent nodes)).Nodup)
    (hnew : ∀ v ∈ namesOf (namedObjects mangle rt isTransient parent nodes), v ∉ recorded)
    (h : printDataObjectForwardDeclarationsByDO ctx parent nodes recorded = .ok out) :
    DeclaresAll (namesOf (namedObjects mangle rt isTransient parent nodes)) recorded out := by
  induction nodes using dataObject_induction generalizing isTransient parent recorded out with
  | nil =>
      obtain rfl := Except.ok.inj h
      exact ⟨by simp [namesOf], fun v hv => Or.inl hv⟩
  | cons node rest ihm ihr =>
      obtain ⟨hnode, hrest⟩ := List.forall_mem_cons.mp harrays
      rw [namedObjects_cons, namesOf_cons, namesOf_append] at hnodup hnew ⊢
      obtain ⟨hfresh, hnodup⟩ := List.nodup_cons.mp hnodup
      obtain ⟨hnodupNode, hnodupRest, hdisjoint⟩ := List.nodup_append'.mp hnodup
      obtain ⟨hnodupSubs, hnodupAttributes, -⟩ := List.nodup_append'.mp hnodupNode
      rw [printDataObjectForwardDeclarationsByDO] at h
      obtain ⟨⟨declared, between⟩, hdo, h⟩ := bind_eq_ok.mp h
      obtain ⟨⟨others, after⟩, hothers, h⟩ := bind_eq_ok.mp h
      obtain rfl := Except.ok.inj h
      rw [declareDataObject_eq] at hdo
      simp only [if_neg (hnew _ List.mem_cons_self)] at hdo
      obtain ⟨⟨objects, inner⟩, hobjects, hdo⟩ := bind_eq_ok.mp hdo
      obtain ⟨⟨attributes, apart⟩, hattributes, hdo⟩ := bind_eq_ok.mp hdo
      obtain ⟨rfl, rfl⟩ := Prod.mk.inj (Except.ok.inj hdo)
      have hown := ihm hnode.objects hnodupSubs (fun v hv hmem => by
        have hv := List.mem_append_left (namesOf (namedAttributes mangle rt
          (isTransient || node.trans) (joinName parent node.name) node.dataAttributes)) hv
        rcases List.mem_cons.mp hmem with rfl | hmem
        · exact hfresh (List.mem_append_left _ hv)
        · exact hnew v (List.mem_cons_of_mem _ (List.mem_append_left _ hv)) hmem) hobjects
      have hmembers := declaresAll_dataAttributes hmangle hnode.attributes hnodupAttributes
        (fun v _ hmem => absurd hmem List.not_mem_nil) hattributes
      have hmore := ihr hrest hnodupRest (fun v hv hmem => by
        rcases hown.recorded v hmem with hmem | hmem
        · rcases List.mem_cons.mp hmem with rfl | hmem
          · exact hfresh (List.mem_append_right _ hv)
          · exact hnew v (List.mem_cons_of_mem _ (List.mem_append_right _ hv)) hmem
        · exact hdisjoint (List.mem_append_left _ hmem) hv) hothers
      refine ⟨?_, fun v hv => ?_⟩
      · simp only [List.map_append, List.map_cons, hown.declared, hmembers.declared,
          hmore.declared, List.cons_append]
      · rcases hmore.recorded v hv with hv | hv
        · rcases hown.recorded v hv with hv | hv
          · rcases List.mem_cons.mp hv with rfl | hv
            · exact Or.inr List.mem_cons_self
            · exact Or.inl hv
          · exact Or.inr (List.mem_cons_of_mem _ (List.mem_append_left _
              (List.mem_append_left _ hv)))
        · exact Or.inr (List.mem_cons_of_mem _ (List.mem_append_right _ hv))

end Externs

theorem namesOf_namedNodes (ldName : Str) (nodes : List LogicalNode) :
    namesOf (namedNodes mangle rt ldName nodes) = nodes.flatMap fun ln =>
      joinName ldName ln.getName ::
        namesOf (namedObjects mangle rt false (joinName ldName ln.getName) ln.dataObjects) := by
  rw [namesOf, namedNodes, preorder_map_node, List.map_flatMap]
  rfl

theorem namesOf_namedDevices (modelPrefix : Str) (devices : List LogicalDevice) :
    namesOf (namedDevices mangle rt modelPrefix devices) = devices.flatMap fun device =>
      joinName modelPrefix device.inst ::
        namesOf (namedNodes mangle rt (joinName modelPrefix device.inst)
          device.logicalNodes) := by
  rw [namesOf, namedDevices, preorder_map_node, List.map_flatMap]
  rfl

/-- The variables of a node and its data objects are among those of all devices. -/
theorem namesOf_placedNode {modelPrefix : Str} {devices : List LogicalDevice} {p : PlacedNode}
    (hp : p ∈ placedNodes devices) :
    ∀ v ∈ p.variableName modelPrefix ::
        namesOf (namedObjects mangle rt false (p.variableName modelPrefix) p.node.dataObjects),
      v ∈ namesOf (namedDevices mangle rt modelPrefix devices) := by
  intro v hv
  obtain ⟨hdevice, hnode⟩ := mem_placedNodes.mp hp
  rw [namesOf_namedDevices]
  refine List.mem_flatMap.mpr ⟨p.device, hdevice, List.mem_cons_of_mem _ ?_⟩
  rw [namesOf_namedNodes]
  exact List.mem_flatMap.mpr ⟨p.node, hnode, hv⟩

/-- One list of declarations after the other. -/
theorem map_name_flatten {α : Type} {f : α → Outcome (List ExternDeclaration)}
    {names : α → List Str} {xs : List α} {declared : List (List ExternDeclaration)}
    (h : xs.mapM f = .ok declared)
    (hnames : ∀ x ∈ xs, ∀ own, f x = .ok own → own.map ExternDeclaration.name = names x) :
    declared.flatten.map ExternDeclaration.name = xs.flatMap names := by
  have hall := mapM_eq_ok.mp h
  clear h
  induction hall with
  | nil => rfl
  | cons hx _ ih =>
      obtain ⟨hown, hrest⟩ := List.forall_mem_cons.mp hnames
      rw [List.flatten_cons, List.map_append, hown _ hx, ih hrest, List.flatMap_cons]

theorem nodup_of_mem_flatMap {α κ : Type} {f : α → List κ} {xs : List α}
    (h : (xs.flatMap f).Nodup) {x : α} (hx : x ∈ xs) : (f x).Nodup :=
  (List.nodup_flatMap.mp h).1 x hx

/-- Without arrays, and if the names are distinct, each node is declared once. -/
theorem map_name_printForwardDeclarations {modelPrefix : Str} {devices : List LogicalDevice}
    {externs : List ExternDeclaration}
    (hmangle : ∀ name name', ctx.insertSE name = .ok name' → name' = mangle name)
    (harrays : ∀ device ∈ devices, ∀ ln ∈ device.logicalNodes, ∀ node ∈ ln.dataObjects,
      node.AllAttributes fun da => da.Everywhere fun da => ¬ 0 < da.count)
    (hnodup : (namesOf (namedDevices mangle rt modelPrefix devices)).Nodup)
    (h : printForwardDeclarations ctx modelPrefix devices = .ok externs) :
    externs.map ExternDeclaration.name =
      modelPrefix :: namesOf (namedDevices mangle rt modelPrefix devices) := by
  obtain ⟨declared, hdeclared, h⟩ := bind_eq_ok.mp h
  obtain rfl := Except.ok.inj h
  rw [namesOf_namedDevices] at hnodup ⊢
  rw [List.map_cons]
  congr 1
  apply map_name_flatten hdeclared
  intro device hdevice own hown
  obtain ⟨nodes, hnodes, hown⟩ := bind_eq_ok.mp hown
  obtain rfl := Except.ok.inj hown
  have hnodup := (List.nodup_cons.mp (nodup_of_mem_flatMap hnodup hdevice)).2
  rw [namesOf_namedNodes] at hnodup ⊢
  rw [List.map_cons]
  congr 1
  apply map_name_flatten hnodes
  intro ln hln own hown
  obtain ⟨⟨objects, recorded⟩, hobjects, hown⟩ := bind_eq_ok.mp hown
  obtain rfl := Except.ok.inj hown
  have hnodup := (List.nodup_cons.mp (nodup_of_mem_flatMap hnodup hln)).2
  have hall := declaresAll_dataObjects hmangle (harrays device hdevice ln hln) hnodup
    (fun v _ hmem => absurd hmem List.not_mem_nil) hobjects
  rw [List.map_cons, hall.declared]

/-! ## The names that are pointed to -/

/-- What a pointer to an attribute of the object `doName` names. -/
def pointedAttribute (mangle : Str → Str) (doName : Str) (da : DataAttribute) : Str :=
  joinName (setpointVariable mangle da.fc doName) da.name

def attributeVariable (mangle : Str → Str) (doName : Str) (da : DataAttribute) : Str :=
  setpointVariable mangle da.fc (joinName doName da.name)

/-- The pointers among the attributes of `doName` name attributes: a sibling,
and the first member, in whose name nothing is inserted. -/
inductive AttributesLinked (mangle : Str → Str) : Str → List DataAttribute → Prop
  | nil (doName : Str) : AttributesLinked mangle doName []
  | cons {doName : Str} {da : DataAttribute} {rest : List DataAttribute}
      (hsibling : ∀ next ∈ rest.head?,
        pointedAttribute mangle doName next = attributeVariable mangle doName next)
      (hfirst : ∀ sub ∈ da.subDataAttributes.head?,
        joinName (attributeVariable mangle doName da) sub.name =
          attributeVariable mangle (attributeVariable mangle doName da) sub)
      (hsubs : AttributesLinked mangle (attributeVariable mangle doName da)
        da.subDataAttributes)
      (hrest : AttributesLinked mangle doName rest) :
      AttributesLinked mangle doName (da :: rest)

theorem attributesLinked_cons {mangle : Str → Str} {doName : Str} {da : DataAttribute}
    {rest : List DataAttribute} :
    AttributesLinked mangle doName (da :: rest) ↔
      (∀ next ∈ rest.head?,
        pointedAttribute mangle doName next = attributeVariable mangle doName next) ∧
      (∀ sub ∈ da.subDataAttributes.head?,
        joinName (attributeVariable mangle doName da) sub.name =
          attributeVariable mangle (attributeVariable mangle doName da) sub) ∧
      AttributesLinked mangle (attributeVariable mangle doName da) da.subDataAttributes ∧
      AttributesLinked mangle doName rest := by
  constructor
  · intro h
    cases h with
    | cons hsibling hfirst hsubs hrest => exact ⟨hsibling, hfirst, hsubs, hrest⟩
  · rintro ⟨hsibling, hfirst, hsubs, hrest⟩
    exact .cons hsibling hfirst hsubs hrest

/-- The pointers below a data object whose variable is `doName`. -/
inductive ObjectLinked (mangle : Str → Str) : Str → DataObject → Prop
  | intro {doName : Str} {node : DataObject}
      (hfirst : ∀ da ∈ node.dataAttributes.head?,
        pointedAttribute mangle doName da = attributeVariable mangle doName da)
      (hattributes : AttributesLinked mangle doName node.dataAttributes)
      (hobjects : ∀ sub ∈ node.subDataObjects,
        ObjectLinked mangle (joinName doName sub.name) sub) :
      ObjectLinked mangle doName node

/-- The pointers of the definitions name `parent`, the name given for the end
of the list, or a variable of the tree. -/
def PointsInto (parent : Str) (last : Option Str) (names : List Str)
    (definitions : List NodeDefinition) : Prop :=
  ∀ d ∈ definitions, (d.parent = parent ∨ d.parent ∈ names) ∧
    (∀ v ∈ d.sibling, v ∈ names ∨ last = some v) ∧ ∀ v ∈ d.firstChild, v ∈ names

theorem PointsInto.mono {parent : Str} {last : Option Str} {names names' : List Str}
    {definitions : List NodeDefinition} (h : PointsInto parent last names definitions)
    (hsub : ∀ v ∈ names, v ∈ names') : PointsInto parent last names' definitions := by
  intro d hd
  obtain ⟨hparent, hsibling, hfirst⟩ := h d hd
  exact ⟨hparent.imp_right (hsub _), fun v hv => (hsibling v hv).imp_left (hsub v),
    fun v hv => hsub v (hfirst v hv)⟩

/-- What is printed below a node points into the tree around it. -/
theorem PointsInto.below {parent above : Str} {last last' : Option Str}
    {names names' : List Str} {definitions : List NodeDefinition}
    (h : PointsInto parent last names definitions) (hsub : ∀ v ∈ names, v ∈ names')
    (hparent : parent ∈ names') (hlast : ∀ v ∈ last, v ∈ names') :
    PointsInto above last' names' definitions := by
  intro d hd
  obtain ⟨hown, hsibling, hfirst⟩ := h d hd
  refine ⟨Or.inr ?_, fun v hv => Or.inl ?_, fun v hv => hsub v (hfirst v hv)⟩
  · rcases hown with hown | hown
    · rwa [hown]
    · exact hsub _ hown
  · rcases hsibling v hv with hv | hv
    · exact hsub v hv
    · exact hlast v hv

theorem attributeVariable_mem {doName : Str} {das : List DataAttribute} {da : DataAttribute}
    (hda : da ∈ das.head?) :
    attributeVariable mangle doName da ∈
      namesOf (namedAttributes mangle rt isTransient doName das) := by
  cases das with
  | nil => cases hda
  | cons first rest =>
      obtain rfl := Option.some.inj hda
      rw [namedAttributes_cons, namesOf_cons]
      exact List.mem_cons_self

theorem objectVariable_mem {parent : Str} {nodes : List DataObject} {node : DataObject}
    (hnode : node ∈ nodes.head?) :
    joinName parent node.name ∈ namesOf (namedObjects mangle rt isTransient parent nodes) := by
  cases nodes with
  | nil => cases hnode
  | cons first rest =>
      obtain rfl := Option.some.inj hnode
      rw [namedObjects_cons, namesOf_cons]
      exact List.mem_cons_self

section Pointers

variable (hmangle : ∀ name name', ctx.insertSE name = .ok name' → name' = mangle name)

include hmangle

theorem attributeSibling_mem (rt : Runtime) (isTransient : Bool) {doName : Str}
    {das : List DataAttribute} {sibling : Option Str}
    (hlinked : ∀ next ∈ das.head?,
      pointedAttribute mangle doName next = attributeVariable mangle doName next)
    (h : attributeSibling ctx doName das.head? = .ok sibling) :
    ∀ v ∈ sibling, v ∈ namesOf (namedAttributes mangle rt isTransient doName das) := by
  intro v hv
  cases hhead : das.head? with
  | none =>
      rw [hhead] at h
      obtain rfl := Except.ok.inj h
      cases hv
  | some next =>
      rw [hhead] at h
      obtain ⟨siblingDoName, hname, h⟩ := bind_eq_ok.mp h
      obtain rfl := setpointName_eq_ok hmangle hname
      obtain rfl := Except.ok.inj h
      obtain rfl := Option.some.inj hv
      have hpointed := hlinked next hhead
      rw [pointedAttribute] at hpointed
      rw [hpointed]
      exact attributeVariable_mem hhead

theorem firstAttributeName_mem (rt : Runtime) (isTransient : Bool) {doName name : Str}
    {das : List DataAttribute}
    (hlinked : ∀ da ∈ das.head?,
      pointedAttribute mangle doName da = attributeVariable mangle doName da)
    (h : firstAttributeName ctx doName das = .ok name) :
    ∀ v ∈ pointerTo name, v ∈ namesOf (namedAttributes mangle rt isTransient doName das) := by
  intro v hv
  unfold pointerTo at hv
  split at hv
  next => cases hv
  next hne =>
    obtain rfl := Option.some.inj hv
    cases das with
    | nil => exact absurd (Except.ok.inj h).symm hne
    | cons da others =>
        obtain ⟨fDoName, hda, h⟩ := bind_eq_ok.mp h
        obtain rfl := setpointName_eq_ok hmangle hda
        obtain rfl := Except.ok.inj h
        have hpointed := hlinked da rfl
        rw [pointedAttribute] at hpointed
        rw [hpointed]
        exact attributeVariable_mem rfl

theorem pointsInto_dataAttributes (rt : Runtime) {doName : Str} {das : List DataAttribute}
    {out : Definitions}
    (harrays : NoArrays das) (hlinked : AttributesLinked mangle doName das)
    (h : printDataAttributeDefinitions ctx doName isTransient das = .ok out) :
    PointsInto doName none (namesOf (namedAttributes mangle rt isTransient doName das))
      out.cOut := by
  induction das using dataAttribute_induction generalizing doName out with
  | nil =>
      obtain rfl := Except.ok.inj h
      intro d hd
      cases hd
  | cons da rest ihm ihr =>
      obtain ⟨harray, hsubs, hrest⟩ := harrays.cons
      obtain ⟨hsibling, hfirst, hlinkedSubs, hlinkedRest⟩ := attributesLinked_cons.mp hlinked
      obtain ⟨daName, sibling, children, statements, others, hdaName, hnext, hchildren, -,
        hothers, rfl⟩ := printDataAttributeDefinitions_cons_ok h
      obtain rfl := setpointName_eq_ok hmangle hdaName
      rw [printAttributeChildren, if_neg harray] at hchildren
      have hown := ihm hsubs hlinkedSubs hchildren
      have hmore := ihr hrest hlinkedRest hothers
      rw [namesOf_namedAttributes_cons harray]
      intro d hd
      simp only [Definitions.append_cOut, Definitions.ofNode_cOut,
        Definitions.ofStatements_cOut, List.append_nil, List.mem_append,
        List.mem_singleton] at hd
      rcases hd with (rfl | hd) | hd
      · refine ⟨Or.inl rfl, fun v hv => Or.inl ?_, fun v hv => ?_⟩
        · have hv := attributeSibling_mem hmangle rt isTransient
            hsibling hnext v hv
          exact List.mem_cons_of_mem _ (List.mem_append_right _ hv)
        · rw [attributeNode, if_neg harray] at hv
          obtain ⟨sub, hsub, rfl⟩ := Option.map_eq_some_iff.mp hv
          have hname := hfirst sub hsub
          rw [attributeVariable] at hname
          rw [hname]
          exact List.mem_cons_of_mem _ (List.mem_append_left _ (attributeVariable_mem hsub))
      · apply hown.below (fun v hv => List.mem_cons_of_mem _ (List.mem_append_left _ hv))
          List.mem_cons_self (fun v hv => absurd hv (by simp)) d hd
      · exact hmore.mono (fun v hv => List.mem_cons_of_mem _ (List.mem_append_right _ hv)) d hd

theorem pointsInto_dataObjects (rt : Runtime) {lnName last : Str} {nodes : List DataObject}
    {out : Definitions}
    (harrays : ∀ node ∈ nodes,
      node.AllAttributes fun da => da.Everywhere fun da => ¬ 0 < da.count)
    (hlinked : ∀ node ∈ nodes, ObjectLinked mangle (joinName lnName node.name) node)
    (h : printDataObjectDefinitions ctx lnName last isTransient nodes = .ok out) :
    PointsInto lnName (pointerTo last)
      (namesOf (namedObjects mangle rt isTransient lnName nodes)) out.cOut := by
  induction nodes using dataObject_induction generalizing lnName last isTransient out with
  | nil =>
      obtain rfl := Except.ok.inj h
      intro d hd
      cases hd
  | cons node rest ihm ihr =>
      obtain ⟨hnode, hrest⟩ := List.forall_mem_cons.mp harrays
      obtain ⟨hlinkedNode, hlinkedRest⟩ := List.forall_mem_cons.mp hlinked
      obtain ⟨hfirst, hlinkedAttributes, hlinkedObjects⟩ := hlinkedNode
      obtain ⟨first, objects, attributes, others, hname, hobjects, hattributes, hothers, rfl⟩ :=
        printDataObjectDefinitions_cons_ok h
      have hbelow := ihm hnode.objects hlinkedObjects hobjects
      have hmembers := pointsInto_dataAttributes hmangle rt hnode.attributes
        hlinkedAttributes hattributes
      have hmore := ihr hrest hlinkedRest hothers
      -- the name given for the end of the sub data objects is the first attribute
      have hpointer := firstAttributeName_mem hmangle rt (isTransient || node.trans) hfirst hname
      rw [namedObjects_cons, namesOf_cons, namesOf_append]
      intro d hd
      simp only [Definitions.append_cOut, Definitions.ofNode_cOut, List.mem_append,
        List.mem_singleton] at hd
      rcases hd with ((rfl | hd) | hd) | hd
      · refine ⟨Or.inl rfl, fun v hv => ?_, fun v hv => ?_⟩
        · cases rest with
          | nil => exact Or.inr hv
          | cons next others =>
              obtain rfl := Option.some.inj hv
              exact Or.inl (List.mem_cons_of_mem _ (List.mem_append_right _
                (objectVariable_mem rfl)))
        · refine List.mem_cons_of_mem _ (List.mem_append_left _ ?_)
          cases hsubs : node.subDataObjects with
          | nil =>
              rw [objectNode, hsubs] at hv
              exact List.mem_append_right _ (hpointer v hv)
          | cons sub others =>
              rw [objectNode, hsubs] at hv
              obtain rfl := Option.some.inj hv
              exact List.mem_append_left _ (objectVariable_mem rfl)
      · apply hbelow.below
          (fun v hv => List.mem_cons_of_mem _ (List.mem_append_left _
            (List.mem_append_left _ hv))) List.mem_cons_self
          (fun v hv => List.mem_cons_of_mem _ (List.mem_append_left _
            (List.mem_append_right _ (hpointer v hv)))) d hd
      · apply hmembers.below
          (fun v hv => List.mem_cons_of_mem _ (List.mem_append_left _
            (List.mem_append_right _ hv))) List.mem_cons_self
          (fun v hv => absurd hv (by simp)) d hd
      · exact hmore.mono (fun v hv => List.mem_cons_of_mem _ (List.mem_append_right _ hv)) d hd

end Pointers

/-! ## The definitions of all devices -/

section Devices

variable {blocks : ControlBlockContext} {modelPrefix : Str}
  (hmangle : ∀ name name', ctx.insertSE name = .ok name' → name' = mangle name)

include hmangle

theorem pointsInto_logicalNodes (rt : Runtime) {deviceInst ldName : Str}
    {nodes : List LogicalNode} {out out' : DeviceModel}
    (harrays : ∀ ln ∈ nodes, ∀ node ∈ ln.dataObjects,
      node.AllAttributes fun da => da.Everywhere fun da => ¬ 0 < da.count)
    (hlinked : ∀ ln ∈ nodes, ∀ node ∈ ln.dataObjects,
      ObjectLinked mangle (joinName (joinName ldName ln.getName) node.name) node)
    (h : printLogicalNodeDefinitions ctx blocks deviceInst ldName nodes out = .ok out') :
    ∃ added, out'.definitions.cOut = out.definitions.cOut ++ added ∧
      PointsInto ldName none (namesOf (namedNodes mangle rt ldName nodes)) added := by
  induction nodes generalizing out with
  | nil =>
      obtain rfl := Except.ok.inj h
      exact ⟨[], (List.append_nil _).symm, fun d hd => absurd hd List.not_mem_nil⟩
  | cons ln rest ih =>
      obtain ⟨between, hln, hrest⟩ := printLogicalNodeDefinitions_cons_ok h
      obtain ⟨firstChild, objects, hfirst, hobjects, hbetween, -⟩ :=
        printLogicalNodeDefinition_ok hln
      obtain ⟨harraysNode, harraysRest⟩ := List.forall_mem_cons.mp harrays
      obtain ⟨hlinkedNode, hlinkedRest⟩ := List.forall_mem_cons.mp hlinked
      obtain ⟨added, hadded, hmore⟩ := ih harraysRest hlinkedRest hrest
      have hbelow := pointsInto_dataObjects hmangle rt harraysNode hlinkedNode hobjects
      rw [hbetween] at hadded
      refine ⟨logicalNodeNode ldName rest.head? firstChild ln :: (objects.cOut ++ added), ?_, ?_⟩
      · rw [hadded]
        simp
      · rw [namesOf_namedNodes, List.flatMap_cons, ← namesOf_namedNodes]
        intro d hd
        rcases List.mem_cons.mp hd with rfl | hd
        · refine ⟨Or.inl rfl, fun v hv => Or.inl ?_, fun v hv => ?_⟩
          · obtain ⟨next, hnext, rfl⟩ := Option.map_eq_some_iff.mp hv
            apply List.mem_append_right
            rw [namesOf_namedNodes]
            exact List.mem_flatMap.mpr ⟨next, List.mem_of_head? hnext, List.mem_cons_self⟩
          · obtain rfl := Option.some.inj hv
            apply List.mem_append_left
            exact List.mem_cons_of_mem _ (objectVariable_mem (first_eq_ok.mp hfirst))
        · rcases List.mem_append.mp hd with hd | hd
          · exact hbelow.below
              (fun v hv => List.mem_append_left _ (List.mem_cons_of_mem _ hv))
              (List.mem_append_left _ List.mem_cons_self)
              (fun v hv => absurd hv (by simp [pointerTo])) d hd
          · exact hmore.mono (fun v hv => List.mem_append_right _ hv) d hd

theorem pointsInto_logicalDevices (rt : Runtime) {devices : List LogicalDevice}
    {out out' : DeviceModel}
    (harrays : ∀ device ∈ devices, ∀ ln ∈ device.logicalNodes, ∀ node ∈ ln.dataObjects,
      node.AllAttributes fun da => da.Everywhere fun da => ¬ 0 < da.count)
    (hlinked : ∀ device ∈ devices, ∀ ln ∈ device.logicalNodes, ∀ node ∈ ln.dataObjects,
      ObjectLinked mangle
        (joinName (joinName (joinName modelPrefix device.inst) ln.getName) node.name) node)
    (h : printLogicalDeviceDefinitions ctx blocks modelPrefix devices out = .ok out') :
    ∃ added, out'.definitions.cOut = out.definitions.cOut ++ added ∧
      PointsInto modelPrefix none (namesOf (namedDevices mangle rt modelPrefix devices))
        added := by
  induction devices generalizing out with
  | nil =>
      obtain rfl := Except.ok.inj h
      exact ⟨[], (List.append_nil _).symm, fun d hd => absurd hd List.not_mem_nil⟩
  | cons device rest ih =>
      obtain ⟨between, hdevice, hrest⟩ := printLogicalDeviceDefinitions_cons_ok h
      obtain ⟨firstChild, hfirst, hnodes⟩ := printLogicalDeviceDefinition_ok hdevice
      obtain ⟨harraysDevice, harraysRest⟩ := List.forall_mem_cons.mp harrays
      obtain ⟨hlinkedDevice, hlinkedRest⟩ := List.forall_mem_cons.mp hlinked
      obtain ⟨below, hbelowEq, hbelow⟩ :=
        pointsInto_logicalNodes hmangle rt harraysDevice hlinkedDevice hnodes
      obtain ⟨added, hadded, hmore⟩ := ih harraysRest hlinkedRest hrest
      rw [hbelowEq] at hadded
      refine ⟨logicalDeviceNode modelPrefix rest.head? firstChild device :: (below ++ added),
        ?_, ?_⟩
      · rw [hadded]
        simp
      · rw [namesOf_namedDevices, List.flatMap_cons, ← namesOf_namedDevices]
        intro d hd
        rcases List.mem_cons.mp hd with rfl | hd
        · refine ⟨Or.inl rfl, fun v hv => Or.inl ?_, fun v hv => ?_⟩
          · obtain ⟨next, hnext, rfl⟩ := Option.map_eq_some_iff.mp hv
            apply List.mem_append_right
            rw [namesOf_namedDevices]
            exact List.mem_flatMap.mpr ⟨next, List.mem_of_head? hnext, List.mem_cons_self⟩
          · obtain rfl := Option.some.inj hv
            apply List.mem_append_left
            apply List.mem_cons_of_mem
            rw [namesOf_namedNodes]
            exact List.mem_flatMap.mpr
              ⟨firstChild, List.mem_of_head? (first_eq_ok.mp hfirst), List.mem_cons_self⟩
        · rcases List.mem_append.mp hd with hd | hd
          · exact hbelow.below
              (fun v hv => List.mem_append_left _ (List.mem_cons_of_mem _ hv))
              (List.mem_append_left _ List.mem_cons_self)
              (fun v hv => absurd hv (by simp)) d hd
          · exact hmore.mono (fun v hv => List.mem_append_right _ hv) d hd

end Devices

/-! ## Data sets -/

section DataSets

open Texts

variable {known : Set Str} {modelPrefix : Str}

theorem inOrder_externDeclarations (type : DeclaredType) (names : List Str) :
    InOrder CItem.identifiers CItem.declares known (externDeclarations type names) := by
  apply inOrder_of_known
  intro item hitem v hv
  obtain ⟨name, -, rfl⟩ := List.mem_map.mp hitem
  cases hv

/-- The entries of a data set are declared before they are defined. -/
theorem inOrder_printDataSet {name : Str} {next : Option Str} {p : PlacedDataSet}
    {items : List CItem} (hmembers : p.dataSet.fcda ≠ []) (hnext : ∀ v ∈ next, v ∈ known)
    (h : printDataSet rt name next p = .ok items) :
    InOrder CItem.identifiers CItem.declares known items := by
  obtain ⟨entries, hentries, h⟩ := bind_eq_ok.mp h
  obtain rfl := Except.ok.inj h
  have hdeclared : ∀ i < p.dataSet.fcda.length, ∃ declaring ∈
      (List.range p.dataSet.fcda.length).map (fun i =>
        CItem.externDeclaration ⟨.dataSetEntry, entryName name i⟩),
      entryName name i ∈ declaring.declares := by
    intro i hi
    exact ⟨_, List.mem_map.mpr ⟨i, List.mem_range.mpr hi, rfl⟩, List.mem_singleton_self _⟩
  rw [List.append_assoc]
  apply InOrder.append_of_declared
  · apply inOrder_of_known
    intro item hitem v hv
    obtain ⟨i, -, rfl⟩ := List.mem_map.mp hitem
    cases hv
  · intro item hitem v hv
    rcases List.mem_append.mp hitem with hitem | hitem
    · obtain ⟨entry, hentry, rfl⟩ := List.mem_map.mp hitem
      obtain ⟨⟨fcda, i⟩, -, hprinted⟩ := exists_of_mem_mapM_ok hentries hentry
      obtain ⟨found, -, hprinted⟩ := bind_eq_ok.mp hprinted
      obtain rfl := Except.ok.inj hprinted
      have hv := Option.mem_toList.mp hv
      split at hv
      next hi =>
        obtain rfl := Option.some.inj hv
        exact Or.inr (hdeclared (i + 1) hi)
      next => cases hv
    · obtain rfl := List.mem_singleton.mp hitem
      rcases List.mem_cons.mp hv with rfl | hv
      · exact Or.inr (hdeclared 0 (List.length_pos_iff.mpr hmembers))
      · exact Or.inl (hnext v (Option.mem_toList.mp hv))

theorem inOrder_printPlacedDataSets {names : List Str} {placed : List PlacedDataSet}
    {items : List CItem} (hmembers : ∀ p ∈ placed, p.dataSet.fcda ≠ [])
    (hnames : ∀ v ∈ names, v ∈ known) (h : printPlacedDataSets rt names placed = .ok items) :
    InOrder CItem.identifiers CItem.declares known items := by
  induction placed generalizing names items with
  | nil =>
      obtain rfl := Except.ok.inj h
      trivial
  | cons p rest ih =>
      obtain ⟨name, -, h⟩ := bind_eq_ok.mp h
      obtain ⟨own, hown, h⟩ := bind_eq_ok.mp h
      obtain ⟨others, hothers, h⟩ := bind_eq_ok.mp h
      obtain rfl := Except.ok.inj h
      obtain ⟨hself, hrest⟩ := List.forall_mem_cons.mp hmembers
      have hfirst := inOrder_printDataSet hself (fun v hv =>
        hnames v (List.mem_of_mem_tail (List.mem_of_head? hv))) hown
      have hmore := ih hrest (fun v hv => hnames v (List.mem_of_mem_tail hv)) hothers
      exact hfirst.append (hmore.mono Set.subset_union_left)

theorem inOrder_printDataSets (known : Set Str) {devices : List LogicalDevice} {items : List CItem}
    (hmembers : ∀ p ∈ placedDataSets devices, p.dataSet.fcda ≠ [])
    (h : printDataSets rt modelPrefix devices = .ok items) :
    InOrder CItem.identifiers CItem.declares known items ∧
      ∀ v ∈ dataSetNames modelPrefix devices, ∃ item ∈ items, v ∈ item.declares := by
  obtain ⟨sets, hsets, h⟩ := bind_eq_ok.mp h
  obtain rfl := Except.ok.inj h
  have hdeclared : ∀ v ∈ dataSetNames modelPrefix devices, ∃ item ∈
      externDeclarations .dataSet (dataSetNames modelPrefix devices), v ∈ item.declares :=
    fun v hv => ⟨_, List.mem_map_of_mem hv, List.mem_singleton_self v⟩
  constructor
  · apply InOrder.append (inOrder_externDeclarations .dataSet _)
    exact inOrder_printPlacedDataSets hmembers (fun v hv => Or.inr (hdeclared v hv)) hsets
  · intro v hv
    obtain ⟨item, hitem, hv⟩ := hdeclared v hv
    exact ⟨item, List.mem_append_left _ hitem, hv⟩

end DataSets

/-! ## Control blocks -/

section ControlBlocks

open Texts

variable {known : Set Str} {blocks : ControlBlockContext} {lnPrefix : Str}
  {out out' : ControlBlockBuffers}

/-- A block below a known node that points to one of these names. -/
def PointsAlong (known : Set Str) (names : List Str) (parent : Str) (sibling : Option Str) :
    Prop :=
  parent ∈ known ∧ ∀ v ∈ sibling, v ∈ names

structure BuffersLinked (known : Set Str) (names : VariableNames)
    (out : ControlBlockBuffers) : Prop where
  rcb : ∀ d ∈ out.reportControlBlocks, PointsAlong known names.rcb d.parent d.sibling
  lcb : ∀ d ∈ out.logControlBlocks, PointsAlong known names.lcb d.parent d.sibling
  log : ∀ d ∈ out.logs, PointsAlong known names.log d.parent d.sibling
  gse : ∀ d ∈ out.gseControlBlocks, PointsAlong known names.gse d.parent d.sibling
  smv : ∀ d ∈ out.smvControlBlocks, PointsAlong known names.smv d.parent d.sibling
  sgcb : ∀ d ∈ out.settingGroupControlBlocks,
    PointsAlong known names.sgcb d.parent d.sibling

/-- One more block, which points to a name by its position. -/
theorem forall_mem_concat {α : Type} {P : α → Prop} {xs : List α} {x : α}
    (hxs : ∀ y ∈ xs, P y) (hx : P x) : ∀ y ∈ xs ++ [x], P y :=
  List.forall_mem_append.mpr ⟨hxs, List.forall_mem_singleton.mpr hx⟩

theorem pointsAlong_getElem? {names : List Str} {parent : Str} (hparent : parent ∈ known)
    (i : ℕ) : PointsAlong known names parent names[i]? :=
  ⟨hparent, fun _ hv => List.mem_of_getElem? hv⟩

variable (hnode : lnPrefix ∈ known)

include hnode

theorem linked_printReportControlBlocks {ln : LogicalNode}
    (hout : BuffersLinked known blocks.names out)
    (h : printReportControlBlocks blocks lnPrefix ln out = .ok out') :
    BuffersLinked known blocks.names out' := by
  obtain ⟨instances, -, h⟩ := bind_eq_ok.mp h
  obtain rfl := Except.ok.inj h
  apply List.foldlRecOn (motive := BuffersLinked known blocks.names) _ _ hout
  intro before hbefore numbered _
  exact { hbefore with rcb := forall_mem_concat hbefore.rcb (pointsAlong_getElem? hnode _) }

theorem linked_printLogControlBlocks (deviceInst : Str) (ln : LogicalNode)
    (hout : BuffersLinked known blocks.names out) :
    BuffersLinked known blocks.names
      (printLogControlBlocks blocks deviceInst lnPrefix ln out) := by
  apply List.foldlRecOn (motive := BuffersLinked known blocks.names) _ _ hout
  intro before hbefore numbered _
  exact { hbefore with lcb := forall_mem_concat hbefore.lcb (pointsAlong_getElem? hnode _) }

theorem linked_printLogs (ln : LogicalNode) (hout : BuffersLinked known blocks.names out) :
    BuffersLinked known blocks.names (printLogs blocks lnPrefix ln out) := by
  apply List.foldlRecOn (motive := BuffersLinked known blocks.names) _ _ hout
  intro before hbefore numbered _
  exact { hbefore with log := forall_mem_concat hbefore.log (pointsAlong_getElem? hnode _) }

theorem linked_printGSEControlBlocks {ldName : Str} {ln : LogicalNode}
    (hout : BuffersLinked known blocks.names out)
    (h : printGSEControlBlocks blocks ldName lnPrefix ln out = .ok out') :
    BuffersLinked known blocks.names out' := by
  obtain ⟨part, -, h⟩ := bind_eq_ok.mp h
  obtain ⟨⟨n, after⟩, hloop, h⟩ := bind_eq_ok.mp h
  obtain rfl := Except.ok.inj h
  apply foldlM_invariant (P := fun state : ℕ × ControlBlockBuffers =>
    BuffersLinked known blocks.names state.2) hloop hout
  rintro ⟨m, before⟩ state control _ hbefore hcontrol
  obtain ⟨connectedAP, -, hcontrol⟩ := bind_eq_ok.mp hcontrol
  split at hcontrol
  next =>
    obtain rfl := Except.ok.inj hcontrol
    exact hbefore
  next =>
    obtain rfl := Except.ok.inj hcontrol
    exact { hbefore with gse := forall_mem_concat hbefore.gse (pointsAlong_getElem? hnode _) }

theorem linked_printSVControlBlocks {ldName : Str} {ln : LogicalNode}
    (hout : BuffersLinked known blocks.names out)
    (h : printSVControlBlocks blocks ldName lnPrefix ln out = .ok out') :
    BuffersLinked known blocks.names out' := by
  obtain ⟨part, -, hloop⟩ := bind_eq_ok.mp h
  apply foldlM_invariant hloop hout
  intro before after numbered _ hbefore hblock
  obtain ⟨connectedAP, -, hblock⟩ := bind_eq_ok.mp hblock
  obtain ⟨smvOpts, -, hblock⟩ := bind_eq_ok.mp hblock
  obtain rfl := Except.ok.inj hblock
  exact { hbefore with smv := forall_mem_concat hbefore.smv (pointsAlong_getElem? hnode _) }

theorem linked_printSettingControlBlock (ln : LogicalNode)
    (hout : BuffersLinked known blocks.names out) :
    BuffersLinked known blocks.names (printSettingControlBlock blocks lnPrefix ln out) := by
  unfold printSettingControlBlock
  split
  · exact hout
  · exact { hout with sgcb := forall_mem_concat hout.sgcb (pointsAlong_getElem? hnode _) }

theorem linked_printControlBlocks {deviceInst ldName : Str} {ln : LogicalNode}
    (hout : BuffersLinked known blocks.names out)
    (h : printControlBlocks blocks deviceInst ldName lnPrefix ln out = .ok out') :
    BuffersLinked known blocks.names out' := by
  obtain ⟨reports, hreports, h⟩ := bind_eq_ok.mp h
  obtain ⟨between, hgse, h⟩ := bind_eq_ok.mp h
  obtain ⟨after, hsv, h⟩ := bind_eq_ok.mp h
  obtain rfl := Except.ok.inj h
  have hreports := linked_printReportControlBlocks hnode hout hreports
  have hlogs := linked_printLogs hnode ln
    (linked_printLogControlBlocks hnode deviceInst ln hreports)
  have hgse := linked_printGSEControlBlocks hnode hlogs hgse
  have hsv := linked_printSVControlBlocks hnode hgse hsv
  exact linked_printSettingControlBlock hnode ln hsv

omit hnode

/-- A kind of block: the declarations of all names, then the blocks. -/
theorem inOrder_kind (type : DeclaredType) {names : List Str} {items : List CItem}
    (hitems : InOrder CItem.identifiers CItem.declares (known ∪ {v | v ∈ names}) items) :
    InOrder CItem.identifiers CItem.declares known (externDeclarations type names ++ items) := by
  apply InOrder.append (inOrder_externDeclarations type names)
  apply hitems.mono
  rintro v (hv | hv)
  · exact Or.inl hv
  · exact Or.inr ⟨_, List.mem_map_of_mem hv, List.mem_singleton_self v⟩

theorem inOrder_map {α : Type} (item : α → CItem) {names : List Str} {parent : α → Str}
    {sibling : α → Option Str} {ds : List α}
    (hitem : ∀ d, (item d).identifiers = parent d :: (sibling d).toList)
    (hds : ∀ d ∈ ds, PointsAlong known names (parent d) (sibling d)) :
    InOrder CItem.identifiers CItem.declares (known ∪ {v | v ∈ names}) (ds.map item) := by
  apply inOrder_of_known
  intro declared hdeclared v hv
  obtain ⟨d, hd, rfl⟩ := List.mem_map.mp hdeclared
  obtain ⟨hparent, hsibling⟩ := hds d hd
  rw [hitem] at hv
  rcases List.mem_cons.mp hv with rfl | hv
  · exact Or.inl hparent
  · exact Or.inr (hsibling v (Option.mem_toList.mp hv))

/-- The address of a block is defined right before the block. -/
theorem inOrder_addressed {α : Type} (item : α → CItem) (group : α → List CItem)
    {names : List Str} {parent : α → Str} {sibling : α → Option Str}
    {address : α → Option PhyComAddressDefinition} {ds : List α}
    (hgroup : ∀ d, group d = ((address d).map CItem.phyComAddress).toList ++ [item d])
    (hitem : ∀ d, (item d).identifiers = parent d ::
      (((address d).map PhyComAddressDefinition.addressName).toList ++ (sibling d).toList))
    (hds : ∀ d ∈ ds, PointsAlong known names (parent d) (sibling d)) :
    InOrder CItem.identifiers CItem.declares (known ∪ {v | v ∈ names})
      (ds.flatMap group) := by
  apply inOrder_flatMap
  intro d hd
  rw [hgroup]
  obtain ⟨hparent, hsibling⟩ := hds d hd
  apply InOrder.append_of_declared
  · apply inOrder_of_known
    intro declared hdeclared v hv
    obtain ⟨a, -, rfl⟩ := Option.map_eq_some_iff.mp (Option.mem_toList.mp hdeclared)
    cases hv
  · intro block hblock v hv
    obtain rfl := List.mem_singleton.mp hblock
    rw [hitem] at hv
    rcases List.mem_cons.mp hv with rfl | hv
    · exact Or.inl (Or.inl hparent)
    · rcases List.mem_append.mp hv with hv | hv
      · obtain ⟨a, ha, rfl⟩ := Option.map_eq_some_iff.mp (Option.mem_toList.mp hv)
        refine Or.inr ⟨.phyComAddress a, ?_, List.mem_singleton_self _⟩
        rw [ha]
        exact List.mem_singleton_self _
      · exact Or.inl (Or.inr (hsibling v (Option.mem_toList.mp hv)))

theorem inOrder_printBuffers {names : VariableNames} {buffers : ControlBlockBuffers}
    (hbuffers : BuffersLinked known names buffers) :
    InOrder CItem.identifiers CItem.declares known (printBuffers names buffers) := by
  have hrcb := inOrder_kind .reportControlBlock
    (inOrder_map .reportControlBlock (fun _ => rfl) hbuffers.rcb)
  have hsmv := inOrder_kind .svControlBlock
    (inOrder_addressed .svControlBlock svItems (fun _ => rfl) (fun _ => rfl)
      hbuffers.smv)
  have hgse := inOrder_kind .gseControlBlock
    (inOrder_addressed .gseControlBlock gseItems (fun _ => rfl) (fun _ => rfl)
      hbuffers.gse)
  have hsgcb := inOrder_kind .settingGroupControlBlock
    (inOrder_map .settingGroupControlBlock (fun _ => rfl) hbuffers.sgcb)
  have hlcb := inOrder_kind .logControlBlock
    (inOrder_map .logControlBlock (fun _ => rfl) hbuffers.lcb)
  have hlog := inOrder_kind .log (inOrder_map .log (fun _ => rfl) hbuffers.log)
  have hall := (((((hrcb.append (hsmv.mono Set.subset_union_left)).append
    (hgse.mono Set.subset_union_left)).append (hsgcb.mono Set.subset_union_left)).append
    (hlcb.mono Set.subset_union_left)).append (hlog.mono Set.subset_union_left))
  simpa only [printBuffers, List.append_assoc] using hall

end ControlBlocks

/-! ## Initial values -/

/-- The types whose value is printed with `%v` outside quotes. -/
def AttributeType.printsVerb : AttributeType → Bool
  | .codedEnum | .float32 | .float64 | .timestamp => true
  | _ => false

/-- No array, and a value whose statement names no identifier but the attribute. -/
structure DataAttribute.Declarable (ctx : PrintContext) (da : DataAttribute) : Prop where
  single : ¬ 0 < da.count
  value : ∀ v, initialValue ctx da = .ok (some v) → ctx.initializeOnce = false ∧
    (da.attributeType.printsVerb = true → verbIdentifiers v.value = [])

theorem identifiers_printedValue {daName : Str} {type : AttributeType} {value : Option GoValue}
    {printed : InitialValue} (hverb : type.printsVerb = true → verbIdentifiers value = [])
    (h : printedValue ctx daName type value = .ok printed) : printed.identifiers = [] := by
  cases type with
  | codedEnum | float32 | float64 | timestamp =>
      obtain rfl := Except.ok.inj h
      exact hverb rfl
  | octetString64 =>
      simp only [printedValue] at h
      split at h
      next =>
        obtain rfl := Except.ok.inj h
        rfl
      next => cases h
  | _ =>
      obtain rfl := Except.ok.inj h
      rfl

theorem identifiers_printInitialValue {daName : Str} {da : DataAttribute}
    {statements : List InitStatement} (hda : da.Declarable ctx)
    (h : printInitialValue ctx daName da = .ok statements) :
    ∀ statement ∈ statements, statement.identifiers = [daName] := by
  obtain ⟨value, hvalue, h⟩ := bind_eq_ok.mp h
  intro statement hstatement
  obtain ⟨v, hv, hprinted⟩ := exists_of_mem_mapM_ok h hstatement
  obtain rfl := Option.mem_toList.mp hv
  obtain ⟨honce, hverb⟩ := hda.value v hvalue
  obtain ⟨printed, hprintedValue, hprinted⟩ := bind_eq_ok.mp hprinted
  obtain rfl := Except.ok.inj hprinted
  simp [InitStatement.identifiers, honce, identifiers_printedValue hverb hprintedValue]

/-- The statements name nothing but these variables. -/
def StatementsName (names : List Str) (statements : List InitStatement) : Prop :=
  ∀ statement ∈ statements, ∀ v ∈ statement.identifiers, v ∈ names

theorem StatementsName.mono {names names' : List Str} {statements : List InitStatement}
    (h : StatementsName names statements) (hsub : ∀ v ∈ names, v ∈ names') :
    StatementsName names' statements :=
  fun statement hstatement v hv => hsub v (h statement hstatement v hv)

theorem StatementsName.append {names : List Str} {statements more : List InitStatement}
    (h : StatementsName names statements) (hmore : StatementsName names more) :
    StatementsName names (statements ++ more) :=
  List.forall_mem_append.mpr ⟨h, hmore⟩

section Statements

variable (hmangle : ∀ name name', ctx.insertSE name = .ok name' → name' = mangle name)

include hmangle

theorem statementsName_dataAttributes (rt : Runtime) {doName : Str} {das : List DataAttribute}
    {out : Definitions} (hdas : ∀ da ∈ das, da.Everywhere (DataAttribute.Declarable ctx))
    (h : printDataAttributeDefinitions ctx doName isTransient das = .ok out) :
    StatementsName (namesOf (namedAttributes mangle rt isTransient doName das))
      out.initializerBuffer := by
  induction das using dataAttribute_induction generalizing doName out with
  | nil =>
      obtain rfl := Except.ok.inj h
      exact fun statement hstatement => absurd hstatement List.not_mem_nil
  | cons da rest ihm ihr =>
      obtain ⟨hda, hrest⟩ := List.forall_mem_cons.mp hdas
      obtain ⟨hself, hsubs⟩ := DataAttribute.everywhere_iff.mp hda
      obtain ⟨daName, sibling, children, statements, others, hdaName, -, hchildren, hstatements,
        hothers, rfl⟩ := printDataAttributeDefinitions_cons_ok h
      obtain rfl := setpointName_eq_ok hmangle hdaName
      rw [printAttributeChildren, if_neg hself.single] at hchildren
      have hown := ihm hsubs hchildren
      have hmore := ihr hrest hothers
      rw [namesOf_namedAttributes_cons hself.single]
      simp only [Definitions.append_initializerBuffer, Definitions.ofNode_initializerBuffer,
        Definitions.ofStatements_initializerBuffer, List.nil_append]
      refine ((hown.mono fun v hv => ?_).append fun statement hstatement v hv => ?_).append
        (hmore.mono fun v hv => ?_)
      · exact List.mem_cons_of_mem _ (List.mem_append_left _ hv)
      · rw [identifiers_printInitialValue hself hstatements statement hstatement] at hv
        obtain rfl := List.mem_singleton.mp hv
        exact List.mem_cons_self
      · exact List.mem_cons_of_mem _ (List.mem_append_right _ hv)

theorem statementsName_dataObjects (rt : Runtime) {lnName last : Str} {nodes : List DataObject}
    {out : Definitions}
    (hnodes : ∀ node ∈ nodes,
      node.AllAttributes fun da => da.Everywhere (DataAttribute.Declarable ctx))
    (h : printDataObjectDefinitions ctx lnName last isTransient nodes = .ok out) :
    StatementsName (namesOf (namedObjects mangle rt isTransient lnName nodes))
      out.initializerBuffer := by
  induction nodes using dataObject_induction generalizing lnName last isTransient out with
  | nil =>
      obtain rfl := Except.ok.inj h
      exact fun statement hstatement => absurd hstatement List.not_mem_nil
  | cons node rest ihm ihr =>
      obtain ⟨hnode, hrest⟩ := List.forall_mem_cons.mp hnodes
      obtain ⟨first, objects, attributes, others, -, hobjects, hattributes, hothers, rfl⟩ :=
        printDataObjectDefinitions_cons_ok h
      have hbelow := ihm hnode.objects hobjects
      have hmembers := statementsName_dataAttributes hmangle rt hnode.attributes hattributes
      have hmore := ihr hrest hothers
      rw [namedObjects_cons, namesOf_cons, namesOf_append]
      simp only [Definitions.append_initializerBuffer, Definitions.ofNode_initializerBuffer,
        List.nil_append]
      refine ((hbelow.mono fun v hv => ?_).append (hmembers.mono fun v hv => ?_)).append
        (hmore.mono fun v hv => ?_)
      · exact List.mem_cons_of_mem _ (List.mem_append_left _ (List.mem_append_left _ hv))
      · exact List.mem_cons_of_mem _ (List.mem_append_left _ (List.mem_append_right _ hv))
      · exact List.mem_cons_of_mem _ (List.mem_append_right _ hv)

theorem statementsName_logicalDevices (rt : Runtime) {blocks : ControlBlockContext}
    {modelPrefix : Str} {devices : List LogicalDevice} {out : DeviceModel}
    (hdevices : ∀ p ∈ placedNodes devices, ∀ node ∈ p.node.dataObjects,
      node.AllAttributes fun da => da.Everywhere (DataAttribute.Declarable ctx))
    (h : printLogicalDeviceDefinitions ctx blocks modelPrefix devices {} = .ok out) :
    StatementsName (namesOf (namedDevices mangle rt modelPrefix devices))
      out.definitions.initializerBuffer := by
  intro s hs
  obtain ⟨groups, hgroups, hbuffer⟩ := printLogicalDeviceDefinitions_initializers h
  rw [hbuffer, List.mem_append] at hs
  rcases hs with hs | hs
  · cases hs
  obtain ⟨objects, hmem, hs⟩ := List.mem_flatMap.mp hs
  obtain ⟨p, hp, hobjects⟩ := exists_mem_of_forall₂ hgroups.flip hmem
  have hown := statementsName_dataObjects hmangle rt (hdevices p hp) hobjects
  exact hown.mono (fun v hv => namesOf_placedNode hp v (List.mem_cons_of_mem _ hv)) s hs

end Statements

/-! ## The whole file -/

/-- The variables of all nodes of the model. -/
def Selection.nodeNames {scl : SCL} {args : GeneratorArguments} (rt : Runtime)
    (S : Selection scl args) : List Str :=
  namesOf (namedDevices (mangleSE args.modelPrefix) rt args.modelPrefix S.logicalDevices)

/-- What keeps a run away from undeclared names: every data set has a member, no
attribute is an array, a value is not assigned behind a test and names nothing,
`SE_` is inserted alike wherever an attribute is named, and names are distinct. -/
structure Selection.Declarable {scl : SCL} {args : GeneratorArguments} (rt : Runtime)
    (S : Selection scl args) : Prop where
  dataSets : ∀ p ∈ placedDataSets S.logicalDevices, p.dataSet.fcda ≠ []
  attributes : ∀ device ∈ S.logicalDevices, ∀ ln ∈ device.logicalNodes,
    ∀ node ∈ ln.dataObjects, node.AllAttributes fun da =>
      da.Everywhere (DataAttribute.Declarable (S.generator rt).printContext)
  pointers : ∀ device ∈ S.logicalDevices, ∀ ln ∈ device.logicalNodes,
    ∀ node ∈ ln.dataObjects, ObjectLinked (mangleSE args.modelPrefix)
      (joinName (joinName (joinName args.modelPrefix device.inst) ln.getName) node.name) node
  distinct : (S.nodeNames rt).Nodup

section Run

open Texts

variable {scl : SCL} {args : GeneratorArguments} {S : Selection scl args}
  {files : GeneratedFiles}

theorem Selection.Declarable.noArrays (h : S.Declarable rt) :
    ∀ device ∈ S.logicalDevices, ∀ ln ∈ device.logicalNodes, ∀ node ∈ ln.dataObjects,
      node.AllAttributes fun da => da.Everywhere fun da => ¬ 0 < da.count :=
  fun device hdevice ln hln node hnode =>
    (h.attributes device hdevice ln hln node hnode).imp fun _ hda =>
      hda.imp fun _ hdeclarable => hdeclarable.single

theorem insertSE_mangles (S : Selection scl args) (rt : Runtime) :
    ∀ name name', (S.generator rt).printContext.insertSE name = .ok name' →
      name' = mangleSE args.modelPrefix name :=
  fun _ _ => insertSE_eq_ok

theorem RunStages.headerNames_eq (h : S.Declarable rt)
    (R : RunStages (S.generator rt) args.outFileName S.logicalDevices files) :
    files.headerNames = args.modelPrefix :: S.nodeNames rt := by
  have hexterns := map_name_printForwardDeclarations (insertSE_mangles S rt) h.noArrays
    h.distinct R.externs_eq
  rw [GeneratedFiles.headerNames, R.files_eq]
  exact hexterns

theorem RunStages.variableNames_eq
    (R : RunStages (S.generator rt) args.outFileName S.logicalDevices files) :
    R.model.definitions.cOut.map NodeDefinition.variableName = S.nodeNames rt := by
  have hnamed := printLogicalDeviceDefinitions_named (insertSE_mangles S rt) R.model_eq
  have hnames := congrArg (List.map Prod.fst) hnamed
  rw [List.map_append, List.map_map] at hnames
  exact hnames

theorem length_lt_of_mem_nodeNames {v : Str} (hv : v ∈ S.nodeNames rt) :
    args.modelPrefix.length < v.length := by
  obtain ⟨named, hnamed, rfl⟩ := List.mem_map.mp hv
  exact length_lt_of_mem_namedDevices hnamed

theorem variableName_printVariablePointerDefine {modelPrefix v : Str} {d : PointerDefine}
    (h : printVariablePointerDefine rt modelPrefix v = .ok d) : d.variableName = v := by
  unfold printVariablePointerDefine at h
  split at h
  next => cases h
  next =>
    obtain rfl := Except.ok.inj h
    rfl

theorem RunStages.pointsInto (h : S.Declarable rt)
    (R : RunStages (S.generator rt) args.outFileName S.logicalDevices files) :
    PointsInto args.modelPrefix none (S.nodeNames rt) R.model.definitions.cOut := by
  obtain ⟨added, hadded, hpoints⟩ := pointsInto_logicalDevices (insertSE_mangles S rt) rt
    h.noArrays h.pointers R.model_eq
  rw [hadded]
  exact hpoints

theorem RunStages.statementsName (h : S.Declarable rt)
    (R : RunStages (S.generator rt) args.outFileName S.logicalDevices files) :
    StatementsName (S.nodeNames rt) R.model.definitions.initializerBuffer :=
  statementsName_logicalDevices (insertSE_mangles S rt) rt
    (fun _ hp => h.attributes _ (mem_placedNodes.mp hp).1 _ (mem_placedNodes.mp hp).2)
    R.model_eq

theorem variableName_mem_nodeNames {p : PlacedNode} (hp : p ∈ placedNodes S.logicalDevices) :
    p.variableName args.modelPrefix ∈ S.nodeNames rt :=
  namesOf_placedNode hp _ List.mem_cons_self

theorem RunStages.buffersLinked
    (R : RunStages (S.generator rt) args.outFileName S.logicalDevices files) {known : Set Str}
    (hknown : ∀ v ∈ S.nodeNames rt, v ∈ known) :
    BuffersLinked known (createLNSubVariableList args.modelPrefix S.logicalDevices)
      R.model.buffers := by
  have hloop := printLogicalDeviceDefinitions_buffers R.model_eq
  apply foldlM_invariant hloop
  · constructor <;> exact fun d hd => absurd hd List.not_mem_nil
  · intro before after p hp hbefore hprinted
    exact linked_printControlBlocks (hknown _ (variableName_mem_nodeNames hp)) hbefore hprinted

/-- The variables of control blocks and logs. -/
def VariableNames.all (names : VariableNames) : List Str :=
  names.rcb ++ names.smv ++ names.gse ++ names.sgcb ++ names.lcb ++ names.log

theorem declared_printBuffers (names : VariableNames) (buffers : ControlBlockBuffers) :
    ∀ v ∈ names.all, ∃ item ∈ printBuffers names buffers, v ∈ item.declares := by
  intro v hv
  have hkind : ∀ type, CItem.externDeclaration ⟨type, v⟩ ∈ printBuffers names buffers →
      ∃ item ∈ printBuffers names buffers, v ∈ item.declares :=
    fun type hitem => ⟨_, hitem, List.mem_singleton_self v⟩
  simp only [VariableNames.all, List.mem_append] at hv
  simp only [printBuffers, externDeclarations] at hkind
  rcases hv with ((((hv | hv) | hv) | hv) | hv) | hv
  · exact hkind .reportControlBlock (by simp [hv])
  · exact hkind .svControlBlock (by simp [hv])
  · exact hkind .gseControlBlock (by simp [hv])
  · exact hkind .settingGroupControlBlock (by simp [hv])
  · exact hkind .logControlBlock (by simp [hv])
  · exact hkind .log (by simp [hv])

theorem targets_printIedModel {s : StaticModelGenerator} {firstDevice : LogicalDevice}
    {dataSets : List Str} {names : VariableNames} :
    ∀ v ∈ (printIedModel s firstDevice dataSets names).targets,
      v = joinName s.modelPrefix firstDevice.inst ∨ v ∈ dataSets ∨ v ∈ names.all := by
  intro v hv
  simp only [IedModelDefinition.targets, printIedModel, List.mem_cons, List.mem_append,
    Option.mem_toList] at hv
  rcases hv with rfl | ((((((hv | hv) | hv) | hv) | hv) | hv) | hv)
  · exact Or.inl rfl
  · exact Or.inr (Or.inl (List.mem_of_head? hv))
  all_goals
    have hmem := List.mem_of_head? hv
    simp [VariableNames.all, hmem]

theorem RunStages.inOrder (h : S.Declarable rt)
    (R : RunStages (S.generator rt) args.outFileName S.logicalDevices files) :
    InOrder CItem.identifiers CItem.declares
      {v | v = args.modelPrefix ∨ v ∈ S.nodeNames rt} files.c := by
  have hnode : ∀ v ∈ S.nodeNames rt,
      v ∈ {v | v = args.modelPrefix ∨ v ∈ S.nodeNames rt} := fun v hv => Or.inr hv
  obtain ⟨hdataSets, hdeclaredSets⟩ := inOrder_printDataSets
    {v | v = args.modelPrefix ∨ v ∈ S.nodeNames rt} h.dataSets R.dataSets_eq
  have hnodes : InOrder CItem.identifiers CItem.declares
      {v | v = args.modelPrefix ∨ v ∈ S.nodeNames rt}
      (R.model.definitions.cOut.map .node) := by
    apply inOrder_of_known
    intro item hitem v hv
    obtain ⟨d, hd, rfl⟩ := List.mem_map.mp hitem
    obtain ⟨hparent, hsibling, hfirst⟩ := R.pointsInto h d hd
    rcases List.mem_cons.mp hv with rfl | hv
    · exact hparent
    · rcases List.mem_append.mp hv with hv | hv
      · exact Or.inr ((hsibling v (Option.mem_toList.mp hv)).resolve_right (by simp))
      · exact Or.inr (hfirst v (Option.mem_toList.mp hv))
  have hbuffers := inOrder_printBuffers (R.buffersLinked hnode)
  have hitems := (hdataSets.append (hnodes.mono Set.subset_union_left)).append
    (hbuffers.mono Set.subset_union_left)
  have hdevice : joinName args.modelPrefix R.firstDevice.inst ∈ S.nodeNames rt := by
    have hmem := List.mem_of_head? (first_eq_ok.mp R.firstDevice_eq)
    rw [Selection.nodeNames, namesOf_namedDevices]
    exact List.mem_flatMap.mpr ⟨R.firstDevice, hmem, List.mem_cons_self⟩
  rw [R.c_eq]
  refine ⟨fun v hv => absurd hv List.not_mem_nil, ?_⟩
  apply InOrder.mono Set.subset_union_left
  apply InOrder.append_of_declared
  · apply hitems.append_of_declared
    intro item hitem v hv
    obtain rfl := List.mem_singleton.mp hitem
    rcases targets_printIedModel v hv with rfl | hv | hv
    · exact Or.inl (Or.inr hdevice)
    · obtain ⟨declaring, hmem, hv⟩ := hdeclaredSets v hv
      exact Or.inr ⟨declaring, List.mem_append_left _ (List.mem_append_left _ hmem), hv⟩
    · obtain ⟨declaring, hmem, hv⟩ := declared_printBuffers _ R.model.buffers v hv
      exact Or.inr ⟨declaring, List.mem_append_right _ hmem, hv⟩
  · intro item hitem v hv
    obtain rfl := List.mem_singleton.mp hitem
    obtain ⟨statement, hstatement, hv⟩ := List.mem_flatMap.mp hv
    exact Or.inl (Or.inr (R.statementsName h statement hstatement v hv))

end Run

/-! ## Flat data objects -/

/-- A data object whose attributes are single values without an initial value. -/
def DataObject.isFlat (node : DataObject) : Bool :=
  node.subDataObjects.isEmpty && node.dataAttributes.all fun da =>
    da.subDataAttributes.isEmpty && decide (da.count ≤ 0) && decide (da.fc ≠ lit "SE") &&
      da.value.isNone && da.definition.value.isNone

theorem attributesLinked_of_unmangled {doName : Str} {das : List DataAttribute}
    (hdas : ∀ da ∈ das, da.subDataAttributes = [] ∧ da.fc ≠ lit "SE") :
    AttributesLinked mangle doName das := by
  induction das with
  | nil => exact .nil doName
  | cons da rest ih =>
      obtain ⟨⟨hsubs, -⟩, hrest⟩ := List.forall_mem_cons.mp hdas
      refine .cons (fun next hnext => ?_) (by simp [hsubs]) (by rw [hsubs]; exact .nil _) (ih hrest)
      have hfc := (hrest next (List.mem_of_head? hnext)).2
      simp [pointedAttribute, attributeVariable, setpointVariable, hfc]

theorem DataObject.isFlat_iff {node : DataObject} :
    node.isFlat = true ↔ node.subDataObjects = [] ∧ ∀ da ∈ node.dataAttributes,
      (((da.subDataAttributes = [] ∧ da.count ≤ 0) ∧ da.fc ≠ lit "SE") ∧ da.value = none) ∧
        da.definition.value = none := by
  simp only [DataObject.isFlat, Bool.and_eq_true, List.isEmpty_iff, List.all_eq_true,
    decide_eq_true_eq, Option.isNone_iff_eq_none]

theorem allAttributes_declarable_of_isFlat {node : DataObject} (h : node.isFlat = true) :
    node.AllAttributes fun da => da.Everywhere (DataAttribute.Declarable ctx) := by
  obtain ⟨hobjects, hattributes⟩ := DataObject.isFlat_iff.mp h
  refine .intro (fun da hda => .intro ⟨?_, fun v hv => ?_⟩ ?_) (by simp [hobjects])
  · have hcount := (hattributes da hda).1.1.1.2
    omega
  · obtain ⟨⟨-, hvalue⟩, hdefault⟩ := hattributes da hda
    rw [initialValue, hvalue, hdefault] at hv
    cases Except.ok.inj hv
  · simp [(hattributes da hda).1.1.1.1]

theorem objectLinked_of_isFlat {node : DataObject} (h : node.isFlat = true) (doName : Str) :
    ObjectLinked mangle doName node := by
  obtain ⟨hobjects, hattributes⟩ := DataObject.isFlat_iff.mp h
  refine .intro (fun da hda => ?_) (attributesLinked_of_unmangled fun da hda => ?_)
    (by simp [hobjects])
  · have hfc := (hattributes da (List.mem_of_head? hda)).1.1.2
    simp [pointedAttribute, attributeVariable, setpointVariable, hfc]
  · exact ⟨(hattributes da hda).1.1.1.1, (hattributes da hda).1.1.2⟩

end Iec61850.Scl
