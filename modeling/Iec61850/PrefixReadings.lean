import Iec61850.DeclaredIdentifiers
import Iec61850.RenamedFiles

/-!
# What renamed files say about the prefixes

If two runs print one pair of files with either prefix in front of its names,
`SE_` has been inserted alike at every setting and the communication section
has been read alike for every control.
-/

namespace Iec61850.Scl

open Go Linked

variable {p q : Str} {rt : Runtime}

/-! ## Lists of names -/

/-- The same names behind `p` and behind `q`. -/
abbrev CarriedNames (p q : Str) (names names' : List Str) : Prop :=
  Carried List.map p q names names'

theorem CarriedNames.cons {name name' : Str} {names names' : List Str}
    (h : CarriedNames p q (name :: names) (name' :: names')) :
    CarriedName p q name name' ∧ CarriedNames p q names names' := by
  obtain ⟨rests, hleft, hright⟩ := h
  cases rests with
  | nil => cases hleft
  | cons r others =>
      obtain ⟨hname, hnames⟩ := List.cons.inj hleft
      obtain ⟨hname', hnames'⟩ := List.cons.inj hright
      exact ⟨⟨r, hname, hname'⟩, others, hnames, hnames'⟩

theorem CarriedNames.append {names names' others others' : List Str}
    (hlength : names.length = names'.length)
    (h : CarriedNames p q (names ++ others) (names' ++ others')) :
    CarriedNames p q names names' ∧ CarriedNames p q others others' := by
  obtain ⟨rests, hleft, hright⟩ := h
  constructor
  · refine ⟨rests.take names.length, ?_, ?_⟩
    · rw [List.map_take, ← hleft, List.take_left]
    · rw [List.map_take, ← hright, hlength, List.take_left]
  · refine ⟨rests.drop names.length, ?_, ?_⟩
    · rw [List.map_drop, ← hleft, List.drop_left]
    · rw [List.map_drop, ← hright, hlength, List.drop_left]

theorem CarriedNames.flatMap {α : Type} {f g : α → List Str} {xs : List α}
    (hlength : ∀ x ∈ xs, (f x).length = (g x).length)
    (h : CarriedNames p q (xs.flatMap f) (xs.flatMap g)) :
    ∀ x ∈ xs, CarriedNames p q (f x) (g x) := by
  induction xs with
  | nil => simp
  | cons x rest ih =>
      obtain ⟨hx, hrest⟩ := List.forall_mem_cons.mp hlength
      rw [List.flatMap_cons, List.flatMap_cons] at h
      obtain ⟨hown, hothers⟩ := h.append hx
      exact List.forall_mem_cons.mpr ⟨hown, ih hrest hothers⟩

/-! ## Settings -/

section Settings

variable {isTransient : Bool}

section Lengths

variable (mangle mangle' : Str → Str) (rt : Runtime) (isTransient : Bool) (u u' : Str)

/-- The number of names does not depend on them. -/
theorem length_namesOf_namedAttributes (das : List DataAttribute) :
    (namesOf (namedAttributes mangle rt isTransient u das)).length =
      (namesOf (namedAttributes mangle' rt isTransient u' das)).length := by
  have hlabels := congrArg (fun forest => (preorder forest).length)
    ((@mapForest_namedAttributes mangle rt isTransient u das).trans
      (@mapForest_namedAttributes mangle' rt isTransient u' das).symm)
  simpa [namesOf, preorder_mapForest] using hlabels

theorem length_namesOf_namedObjects (nodes : List DataObject) :
    (namesOf (namedObjects mangle rt isTransient u nodes)).length =
      (namesOf (namedObjects mangle' rt isTransient u' nodes)).length := by
  have hlabels := congrArg (fun forest => (preorder forest).length)
    ((@mapForest_namedObjects mangle rt isTransient u nodes).trans
      (@mapForest_namedObjects mangle' rt isTransient u' nodes).symm)
  simpa [namesOf, preorder_mapForest] using hlabels

theorem namesOf_namedChildren (da : DataAttribute) :
    namesOf (namedChildren mangle rt isTransient u da) =
      if 0 < da.count then
        (List.range da.count.toNat).flatMap fun idx => joinName u (itoa idx) ::
          namesOf (namedAttributes mangle rt isTransient (joinName u (itoa idx))
            da.subDataAttributes)
      else namesOf (namedAttributes mangle rt isTransient u da.subDataAttributes) := by
  unfold namedChildren
  split
  · rw [namesOf, preorder_map_node, List.map_flatMap]
    rfl
  · rfl

theorem length_namesOf_namedChildren (da : DataAttribute) :
    (namesOf (namedChildren mangle rt isTransient u da)).length =
      (namesOf (namedChildren mangle' rt isTransient u' da)).length := by
  rw [namesOf_namedChildren, namesOf_namedChildren]
  split
  · rw [List.length_flatMap, List.length_flatMap]
    congr 1
    refine List.map_congr_left fun idx _ => ?_
    rw [List.length_cons, List.length_cons,
      length_namesOf_namedAttributes mangle mangle' rt isTransient _ (joinName u' (itoa idx))]
  · exact length_namesOf_namedAttributes mangle mangle' rt isTransient u u' da.subDataAttributes

end Lengths

/-- Settings named by one list of rests have `SE_` inserted alike. -/
theorem insertedAlike_of_attributeNames {u : Str} {das : List DataAttribute}
    (h : CarriedNames p q
      (namesOf (namedAttributes (mangleSE p) rt isTransient (p ++ u) das))
      (namesOf (namedAttributes (mangleSE q) rt isTransient (q ++ u) das))) :
    ∀ w ∈ outerSetpoints memberParents u das, InsertedAlike p q w := by
  induction das using dataAttribute_induction generalizing u with
  | nil => simp
  | cons da rest ihm ihr =>
      rw [namedAttributes_cons, namedAttributes_cons, namesOf_cons, namesOf_cons, joinName_append,
        joinName_append] at h
      obtain ⟨hname, h⟩ := h.cons
      obtain ⟨hchildren, hrest⟩ := h.append (length_namesOf_namedChildren _ _ rt isTransient _ _ da)
      rw [forall_mem_outerSetpoints_cons]
      refine ⟨fun hse => ?_, fun hse => ?_, ihr hrest⟩
      · rw [setpointVariable, if_pos hse, setpointVariable, if_pos hse] at hname
        exact hname
      · rw [setpointVariable, if_neg hse, setpointVariable, if_neg hse, namesOf_namedChildren,
          namesOf_namedChildren] at hchildren
        unfold memberParents
        by_cases harray : 0 < da.count
        · rw [if_pos harray, if_pos harray] at hchildren
          rw [if_pos harray]
          have helements := hchildren.flatMap fun idx _ =>
            congrArg (· + 1) (length_namesOf_namedAttributes _ _ rt isTransient _ _ _)
          intro v hv
          obtain ⟨idx, hidx, rfl⟩ := List.mem_map.mp hv
          have helement := helements idx hidx
          rw [joinName_append, joinName_append] at helement
          exact ihm helement.cons.2
        · rw [if_neg harray, if_neg harray] at hchildren
          rw [if_neg harray]
          intro v hv
          obtain rfl := List.mem_singleton.mp hv
          exact ihm hchildren

theorem insertedAlike_of_objectNames {u : Str} {nodes : List DataObject}
    (h : CarriedNames p q
      (namesOf (namedObjects (mangleSE p) rt isTransient (p ++ u) nodes))
      (namesOf (namedObjects (mangleSE q) rt isTransient (q ++ u) nodes))) :
    ∀ w ∈ objectSetpoints memberParents u nodes, InsertedAlike p q w := by
  induction nodes using dataObject_induction generalizing isTransient u with
  | nil => simp
  | cons node rest ihm ihr =>
      rw [namedObjects_cons, namedObjects_cons, namesOf_cons, namesOf_cons, joinName_append,
        joinName_append, namesOf_append, namesOf_append] at h
      obtain ⟨-, h⟩ := h.cons
      have hobjects := length_namesOf_namedObjects (mangleSE p) (mangleSE q) rt
        (isTransient || node.trans) (p ++ joinName u node.name) (q ++ joinName u node.name)
        node.subDataObjects
      have hattributes := length_namesOf_namedAttributes (mangleSE p) (mangleSE q) rt
        (isTransient || node.trans) (p ++ joinName u node.name) (q ++ joinName u node.name)
        node.dataAttributes
      obtain ⟨hown, hrest⟩ := h.append (by
        rw [List.length_append, List.length_append, hobjects, hattributes])
      obtain ⟨hsubs, hown⟩ := hown.append hobjects
      rw [forall_mem_objectSetpoints_cons]
      exact ⟨ihm hsubs, insertedAlike_of_attributeNames hown, ihr hrest⟩

/-- Every device and every node of the model. -/
theorem insertedAlike_of_deviceNames {devices : List LogicalDevice}
    (h : CarriedNames p q (namesOf (namedDevices (mangleSE p) rt p devices))
      (namesOf (namedDevices (mangleSE q) rt q devices))) :
    ∀ device ∈ devices, ∀ ln ∈ device.logicalNodes,
      ∀ w ∈ objectSetpoints memberParents (joinName (joinName [] device.inst) ln.getName)
        ln.dataObjects, InsertedAlike p q w := by
  have hnode : ∀ (device : LogicalDevice) (ln : LogicalNode),
      (namesOf (namedObjects (mangleSE p) rt false
        (joinName (joinName p device.inst) ln.getName) ln.dataObjects)).length =
      (namesOf (namedObjects (mangleSE q) rt false
        (joinName (joinName q device.inst) ln.getName) ln.dataObjects)).length :=
    fun _ ln => length_namesOf_namedObjects _ _ rt false _ _ ln.dataObjects
  rw [namesOf_namedDevices, namesOf_namedDevices] at h
  simp only [namesOf_namedNodes] at h
  intro device hdevice ln hln
  obtain ⟨-, hnodes⟩ := (h.flatMap (fun device _ => by
    simp only [List.length_cons, List.length_flatMap, hnode]) device hdevice).cons
  obtain ⟨-, hobjects⟩ := (hnodes.flatMap (fun ln _ => by
    rw [List.length_cons, List.length_cons, hnode]) ln hln).cons
  have hname : ∀ o, joinName (joinName o device.inst) ln.getName =
      o ++ joinName (joinName [] device.inst) ln.getName := by simp [joinName]
  rw [hname p, hname q] at hobjects
  exact insertedAlike_of_objectNames hobjects

end Settings

/-! ## The records of renamed files -/

/-- The records of one kind carry the prefixes as the files do. -/
theorem Renamed.picked {β : Type} {files files' : GeneratedFiles}
    (h : Renamed rt p q files files') (pick : CItem → Option β) (m : (Str → Str) → β → β)
    (hpick : ∀ f item, pick (CItem.mapNames f item) = (pick item).map (m f)) :
    Carried (fun f => List.map (m f)) p q (files.c.filterMap pick) (files'.c.filterMap pick) := by
  obtain ⟨rests, rfl, rfl⟩ := h
  have hitems : ∀ f, (rests.c.map (CItem.mapNames f)).filterMap pick =
      (rests.c.filterMap pick).map (m f) := by
    intro f
    rw [List.filterMap_map, List.map_filterMap]
    exact congrArg (fun g => List.filterMap g rests.c) (funext (hpick f))
  exact ⟨rests.c.filterMap pick, hitems (p ++ ·), hitems (q ++ ·)⟩

theorem Renamed.nodeNames {files files' : GeneratedFiles} (h : Renamed rt p q files files') :
    CarriedNames p q (files.nodeDefinitions.map NodeDefinition.variableName)
      (files'.nodeDefinitions.map NodeDefinition.variableName) := by
  obtain ⟨rests, hleft, hright⟩ := h.picked CItem.node? NodeDefinition.mapNames
    fun f item => by cases item <;> rfl
  have hnames : ∀ f : Str → Str, (rests.map (NodeDefinition.mapNames f)).map
      NodeDefinition.variableName = (rests.map NodeDefinition.variableName).map f := by
    intro f
    rw [List.map_map, List.map_map]
    rfl
  refine ⟨rests.map NodeDefinition.variableName, ?_, ?_⟩
  · rw [GeneratedFiles.nodeDefinitions, hleft, hnames]
  · rw [GeneratedFiles.nodeDefinitions, hright, hnames]

/-! ## The communication section -/

theorem split_append (c : Char) (s rest : Str) :
    split c (s ++ c :: rest) = split c s ++ split c rest := by
  induction s with
  | nil => simp [split]
  | cons d tail ih =>
      by_cases hd : d = c
      · simp [split, hd, ih]
      · simp only [List.cons_append, split, if_neg hd, ih]
        cases htail : split c tail with
        | nil => exact absurd htail (split_ne_nil c tail)
        | cons part parts => rfl

/-- The variable of a node tells the part of the device variable. -/
theorem devicePart_eq (o : Str) (placed : PlacedNode) :
    devicePart o placed.device = (split '_' (o ++ placed.variableName []))[1]? := by
  have hname : o ++ placed.variableName [] =
      joinName o placed.device.inst ++ '_' :: placed.node.getName := by
    simp [PlacedNode.variableName, joinName]
  have hlength : 1 < (split '_' (joinName o placed.device.inst)).length := by
    rw [length_split, joinName, List.count_append, List.count_cons_self]
    omega
  rw [hname, split_append, List.getElem?_append_left hlength, devicePart]

theorem variableName_eq (o : Str) (placed : PlacedNode) :
    placed.variableName o = o ++ placed.variableName [] := by
  simp [PlacedNode.variableName, joinName]

section Lookups

variable {scl : SCL} {args : GeneratorArguments} {S : Selection scl args}
  {files files' : GeneratedFiles}

theorem Selection.located_congr {α : Type} {elements : ConnectedAP → List α}
    {key : α → Str × Str} {o : Str} {placed placed' : PlacedNode}
    (h : placed.variableName [] = placed'.variableName []) (cbName : Str) :
    (S.withPrefix o).located elements key placed.device cbName =
      (S.withPrefix o).located elements key placed'.device cbName := by
  have hpart : devicePart (args.withPrefix o).modelPrefix placed.device =
      devicePart (args.withPrefix o).modelPrefix placed'.device := by
    rw [devicePart_eq, devicePart_eq, h]
  simp only [Selection.located, hpart]

/-- The block of a GOOSE control that is found. -/
theorem RunStages.gse_printed {o : Str}
    (R : RunStages ((S.withPrefix o).generator rt) args.outFileName S.logicalDevices files)
    {placed : PlacedNode × GSEControl}
    (hplaced : placed ∈ placedControls LogicalNode.gseControlBlocks S.logicalDevices)
    {gse : GSE} (hgse : (S.withPrefix o).locatedGSE placed.1.device placed.2.name = some gse) :
    ∃ block ∈ files.gseControlBlocks, block.parent = o ++ placed.1.variableName [] ∧
      block.name = placed.2.name ∧ block.parameters = gse.parameters := by
  obtain ⟨results, hresults, hall⟩ := RunStages.gseResults (S := S.withPrefix o) R
  obtain ⟨result, hresult, hlocated⟩ := exists_mem_of_forall₂ hall hplaced
  unfold GseResult at hlocated
  rw [hgse] at hlocated
  cases hlocated with
  | some hblock =>
      obtain ⟨hprinted, hparameters⟩ := hblock
      refine ⟨_, ?_, hprinted.parent.trans (variableName_eq o _), hprinted.name, hparameters⟩
      rw [hresults]
      exact List.mem_flatMap.mpr ⟨_, hresult, by simp⟩

/-- A printed block belongs to a control that is found. -/
theorem RunStages.gse_found {o : Str}
    (R : RunStages ((S.withPrefix o).generator rt) args.outFileName S.logicalDevices files)
    {block : GSEControlBlockDefinition} (hblock : block ∈ files.gseControlBlocks) :
    ∃ (placed : PlacedNode) (gse : GSE),
      (S.withPrefix o).locatedGSE placed.device block.name = some gse ∧
      block.parent = o ++ placed.variableName [] ∧ block.parameters = gse.parameters := by
  obtain ⟨results, hresults, hall⟩ := RunStages.gseResults (S := S.withPrefix o) R
  rw [hresults] at hblock
  obtain ⟨result, hresult, hmem⟩ := List.mem_flatMap.mp hblock
  obtain rfl := Option.mem_toList.mp hmem
  obtain ⟨placed, -, hlocated⟩ := exists_mem_of_forall₂ hall.flip hresult
  cases hgse : (S.withPrefix o).locatedGSE placed.1.device placed.2.name with
  | none =>
      rw [hgse] at hlocated
      cases hlocated
  | some gse =>
      rw [hgse] at hlocated
      cases hlocated with
      | some hfound =>
          obtain ⟨hprinted, hparameters⟩ := hfound
          refine ⟨placed.1, gse, ?_, hprinted.parent.trans (variableName_eq o _), hparameters⟩
          rw [hprinted.name]
          exact hgse

theorem parameters_mapNames (f : Str → Str) (d : GSEControlBlockDefinition) :
    (d.mapNames f).parameters = d.parameters := by
  simp only [GSEControlBlockDefinition.parameters, GSEControlBlockDefinition.mapNames,
    Option.map_map]
  rfl

/-- What one run finds for a control, the other finds, too. -/
theorem gse_found_of_carried {o o' : Str}
    (R : RunStages ((S.withPrefix o).generator rt) args.outFileName S.logicalDevices files)
    (R' : RunStages ((S.withPrefix o').generator rt) args.outFileName S.logicalDevices files')
    (hblocks : Carried (fun f => List.map (GSEControlBlockDefinition.mapNames f)) o o'
      files.gseControlBlocks files'.gseControlBlocks)
    {placed : PlacedNode × GSEControl}
    (hplaced : placed ∈ placedControls LogicalNode.gseControlBlocks S.logicalDevices)
    {gse : GSE} (hgse : (S.withPrefix o).locatedGSE placed.1.device placed.2.name = some gse) :
    ((S.withPrefix o').locatedGSE placed.1.device placed.2.name).map GSE.parameters =
      some gse.parameters := by
  obtain ⟨block, hblock, hparent, hname, hparameters⟩ := R.gse_printed hplaced hgse
  obtain ⟨rests, hleft, hright⟩ := hblocks
  rw [hleft] at hblock
  obtain ⟨r, hr, rfl⟩ := List.mem_map.mp hblock
  have hrest : r.parent = placed.1.variableName [] := List.append_cancel_left hparent
  have hblock' : r.mapNames (o' ++ ·) ∈ files'.gseControlBlocks := by
    rw [hright]
    exact List.mem_map_of_mem hr
  obtain ⟨placed', gse', hgse', hparent', hparameters'⟩ := R'.gse_found hblock'
  have hrest' : r.parent = placed'.variableName [] := List.append_cancel_left hparent'
  have hlocated : (S.withPrefix o').locatedGSE placed.1.device placed.2.name = some gse' := by
    rw [← hname]
    exact (Selection.located_congr (hrest.symm.trans hrest') _).trans hgse'
  rw [parameters_mapNames] at hparameters hparameters'
  rw [hlocated, Option.map_some, ← hparameters', hparameters]

theorem Renamed.gseAlike
    (R : RunStages ((S.withPrefix p).generator rt) args.outFileName S.logicalDevices files)
    (R' : RunStages ((S.withPrefix q).generator rt) args.outFileName S.logicalDevices files')
    (h : Renamed rt p q files files') :
    ∀ placed ∈ placedControls LogicalNode.gseControlBlocks S.logicalDevices,
      ((S.withPrefix p).locatedGSE placed.1.device placed.2.name).map GSE.parameters =
        ((S.withPrefix q).locatedGSE placed.1.device placed.2.name).map GSE.parameters := by
  intro placed hplaced
  have hblocks := h.picked CItem.gseControlBlock? GSEControlBlockDefinition.mapNames
    fun f item => by cases item <;> rfl
  have hback : Carried (fun f => List.map (GSEControlBlockDefinition.mapNames f)) q p
      files'.gseControlBlocks files.gseControlBlocks := by
    obtain ⟨rests, hleft, hright⟩ := hblocks
    exact ⟨rests, hright, hleft⟩
  cases hleft : (S.withPrefix p).locatedGSE placed.1.device placed.2.name with
  | some gse => exact (gse_found_of_carried R R' hblocks hplaced hleft).symm
  | none =>
      cases hright : (S.withPrefix q).locatedGSE placed.1.device placed.2.name with
      | none => rfl
      | some gse =>
          have hfound := gse_found_of_carried R' R hback hplaced hright
          rw [hleft] at hfound
          cases hfound

theorem Renamed.smvAlike
    (R : RunStages ((S.withPrefix p).generator rt) args.outFileName S.logicalDevices files)
    (R' : RunStages ((S.withPrefix q).generator rt) args.outFileName S.logicalDevices files')
    (h : Renamed rt p q files files') :
    ∀ placed ∈ placedControls LogicalNode.smvControlBlocks S.logicalDevices,
      (((S.withPrefix p).locatedSMV placed.1.device placed.2.name).bind SMV.address).map
          PhyComAddress.parameters =
        (((S.withPrefix q).locatedSMV placed.1.device placed.2.name).bind SMV.address).map
          PhyComAddress.parameters := by
  obtain ⟨rests, hleft, hright⟩ := h.picked CItem.svControlBlock?
    SVControlBlockDefinition.mapNames fun f item => by cases item <;> rfl
  have hresults := RunStages.smvResults (S := S.withPrefix p) R
  have hresults' := RunStages.smvResults (S := S.withPrefix q) R'
  rw [GeneratedFiles.svControlBlocks, hleft, List.forall₂_map_right_iff] at hresults
  rw [GeneratedFiles.svControlBlocks, hright, List.forall₂_map_right_iff] at hresults'
  have haddress : ∀ (f : Str → Str) (d : SVControlBlockDefinition),
      (d.mapNames f).dstAddress.map PhyComAddressDefinition.parameters =
        d.dstAddress.map PhyComAddressDefinition.parameters := by
    intro f d
    simp only [SVControlBlockDefinition.mapNames, Option.map_map]
    rfl
  have hboth := List.Forall₂.mp (fun placed d hd (hd' : SmvResult (S.withPrefix q) placed.1
    placed.2 (d.mapNames (q ++ ·))) => hd.address.symm.trans
      ((haddress _ d).trans ((haddress _ d).symm.trans hd'.address))) hresults hresults'
  intro placed hplaced
  obtain ⟨d, -, hsame⟩ := exists_mem_of_forall₂ hboth hplaced
  exact hsame

end Lookups

end Iec61850.Scl
