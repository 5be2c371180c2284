import Iec61850.AttributePlaces
import Iec61850.InstancePaths
import Iec61850.IntegerValues
import Iec61850.LastWrite

/-!
# Short addresses from the document to the file

The `sAddr` of a `DAI` element is kept only where the element has a value, and a later
element for the same attribute replaces it.  The text is converted when the definition is
printed; every other definition has the address 0.
-/

namespace Iec61850.Scl

open Go LastWrite

/-! ## Addresses of the document -/

/-- Decimal digits of a number of 32 bits. -/
structure DecimalAddress (text : Str) (n : ℕ) : Prop where
  ne_nil : text ≠ []
  decimal : ∀ c ∈ text, c.isDigit = true
  value : Nat.ofDigitChars 10 text 0 = n
  range : n < 2 ^ 32

/-- The `DAI` elements directly under a `DOI`, each with the name of its `DOI`. -/
def LogicalNode.instances (ln : LogicalNode) : List (Str × DOINode) :=
  ln.doiNodes.flatMap DOINode.instances

/-- The address of a `DAI` element that has a value too. -/
def DOINode.valuedAddress (dai : DOINode) : Option Str :=
  if dai.val.isSome = true ∧ dai.sAddr ≠ [] then some dai.sAddr else none

def addressAt (doName daName : Str) (doiDai : Str × DOINode) : Option Str :=
  if doiDai.1 = doName ∧ doiDai.2.name = daName then doiDai.2.valuedAddress else none

/-- The address of the last element for the attribute that has a value too, or the empty
text. -/
def lastAddress (instances : List (Str × DOINode)) (doName daName : Str) : Str :=
  (lastArgument (addressAt doName daName) instances).getD []

/-- `cast` reads the text as the number; what it does not read counts as 0. -/
def ReadAs (rt : Runtime) (text : Str) (n : ℤ) : Prop :=
  match rt.castToInt64E text with
  | .ok m => m = n
  | .error _ => n = 0

theorem readAs_iff {rt : Runtime} {text : Str} {n : ℤ} :
    ReadAs rt text n ↔ shortAddressValue rt text = n := by
  unfold ReadAs shortAddressValue
  cases rt.castToInt64E text with
  | ok m => rfl
  | error message => exact eq_comm

namespace DecimalAddress

variable {text : Str} {n : ℕ}

def numeral (h : DecimalAddress text n) : Numeral where
  digits := text
  ne_nil := h.ne_nil
  decimal := h.decimal

theorem numeral_value (h : DecimalAddress text n) : h.numeral.value = n :=
  congrArg Nat.cast h.value

/-- A single zero is read as zero in both bases. -/
theorem leadingZero_imp_iff (h : DecimalAddress text n) :
    (h.numeral.LeadingZero → n < 8) ↔ (text.head? = some '0' → n < 8) := by
  refine ⟨fun hlt hhead => ?_, fun hlt hzero => hlt hzero.1⟩
  by_cases hlength : 1 < text.length
  · exact hlt ⟨hhead, hlength⟩
  · obtain ⟨c, rest, htext, -⟩ := h.numeral.digits_eq_cons
    change text = c :: rest at htext
    have hrest : rest = [] := by
      rw [htext, List.length_cons] at hlength
      exact List.length_eq_zero_iff.mp (by omega)
    have hc : c = '0' := by simpa [htext] using hhead
    rw [← h.value, htext, hrest, hc]
    decide

/-- Within 32 bits only octal-looking addresses are rejected. -/
theorem octal_of_rejected (h : DecimalAddress text n) (hrejected : h.numeral.Rejected) :
    h.numeral.LeadingZero ∧ 8 ≤ n := by
  have hbetween := h.numeral.readValue_between
  have hvalue := h.numeral_value
  have hn := h.range
  rcases hrejected with ⟨hzero, c, hc, hdigit⟩ | hlow | hhigh
  · have hle : _ ≤ Nat.ofDigitChars 10 text 0 := digit_le_ofDigitChars (by omega) hc 0
    rw [h.value] at hle
    refine ⟨hzero, le_trans ?_ hle⟩
    rcases hdigit with rfl | rfl <;> decide
  · omega
  · omega

end DecimalAddress

/-- A decimal address is read as its number, unless it has a leading zero and is not a
single octal digit. -/
theorem readAs_decimalAddress_iff {rt : Runtime} (hcast : CastsIntegers rt) {text : Str}
    {n : ℕ} (h : DecimalAddress text n) :
    ReadAs rt text n ↔ (text.head? = some '0' → n < 8) := by
  have hparsed (m : ℤ) : rt.castToInt64E text = .ok m ↔
      ¬ h.numeral.Rejected ∧ h.numeral.readValue = m :=
    (hcast.parsed h.numeral m).trans (h.numeral.parseIntAuto_text m)
  rw [← h.leadingZero_imp_iff]
  unfold ReadAs
  by_cases hrejected : h.numeral.Rejected
  · obtain ⟨hzero, hlarge⟩ := h.octal_of_rejected hrejected
    have hnot : ¬ (h.numeral.LeadingZero → n < 8) := by
      intro hlt
      exact absurd (hlt hzero) (by omega)
    cases hresult : rt.castToInt64E text with
    | error message => exact iff_of_false (by dsimp only; omega) hnot
    | ok m => exact absurd hrejected ((hparsed m).mp hresult).1
  · have hresult := (hparsed _).mpr ⟨hrejected, rfl⟩
    have hread := h.numeral.readValue_eq_value_iff hrejected
    have hdigits : Nat.ofDigitChars 10 h.numeral.digits 0 = n := h.value
    rw [hdigits, h.numeral_value] at hread
    rw [hresult]
    exact hread

variable {rt : Runtime} {templates : DataTypeTemplates}

/-! ## What the elements assign -/

theorem shortAddress_setInstanceValue {dai : DOINode} {da da' : DataAttribute}
    (h : setInstanceValue rt dai da = .ok da') :
    da'.shortAddress = dai.valuedAddress.getD da.shortAddress := by
  unfold DOINode.valuedAddress
  rcases setInstanceValue_cases h with ⟨hval, rfl⟩ | ⟨text, v, hval, -, rfl⟩
  · simp [hval]
  · by_cases hempty : dai.sAddr = []
    · simp [hempty]
    · simp [hval, hempty]

/-- After all elements the attribute has the last address for it. -/
theorem attributeAt_lastAddress {doName daName : Str} {instances : List (Str × DOINode)}
    {objects objects' : List DataObject} {da : DataAttribute}
    (h : instances.foldlM (assignInstance rt) objects = .ok objects')
    (hda : attributeAt objects doName daName = some da) (hclear : da.shortAddress = []) :
    ∃ da', attributeAt objects' doName daName = some da' ∧
      da'.shortAddress = lastAddress instances doName daName := by
  induction instances using List.reverseRecOn generalizing objects' with
  | nil =>
      obtain rfl := Except.ok.inj h
      exact ⟨da, hda, hclear⟩
  | append_singleton instances last ih =>
      rw [List.foldlM_append] at h
      obtain ⟨between, hbetween, h⟩ := bind_eq_ok.mp h
      rw [List.foldlM_cons] at h
      obtain ⟨after, hlast, h⟩ := bind_eq_ok.mp h
      obtain rfl := Except.ok.inj h
      obtain ⟨before, hbefore, haddress⟩ := ih hbetween
      obtain ⟨name, dai⟩ := last
      rw [lastAddress, lastArgument_concat]
      by_cases hsame : doName = name ∧ daName = dai.name
      · obtain ⟨rfl, rfl⟩ := hsame
        obtain ⟨found, assigned, hfound, hassigned, hafter⟩ := attributeAt_assignInstance hlast
        rw [hbefore] at hfound
        obtain rfl := Option.some.inj hfound
        refine ⟨assigned, hafter, ?_⟩
        rw [shortAddress_setInstanceValue hassigned, haddress, addressAt, if_pos ⟨rfl, rfl⟩]
        cases dai.valuedAddress <;> rfl
      · refine ⟨before, ?_, ?_⟩
        · rw [attributeAt_assignInstance_of_ne hlast hsame, hbefore]
        · have hother : addressAt doName daName (name, dai) = none :=
            if_neg fun hboth => hsame ⟨hboth.1.symm, hboth.2.symm⟩
          rw [hother, haddress, lastAddress, Option.none_or]

/-! ## Addresses stand on the first attribute of a name -/

/-- Of the attributes of one name only the first has an address, of the data objects of
one name only the first has some, and nothing deeper has one. -/
structure AddressesOnFirst (nodes : List DataObject) : Prop where
  firstObject : nodes.Pairwise fun a b =>
    a.name = b.name → ∀ da ∈ b.dataAttributes, da.shortAddress = []
  firstAttribute : ∀ node ∈ nodes, node.dataAttributes.Pairwise fun a b =>
    a.name = b.name → b.shortAddress = []
  members : ∀ node ∈ nodes, ∀ da ∈ node.dataAttributes, ∀ sub ∈ da.subDataAttributes,
    sub.Everywhere fun deep => deep.shortAddress = []
  inner : ∀ node ∈ nodes, ∀ sub ∈ node.subDataObjects, sub.AllAttributes fun da =>
    da.Everywhere fun deep => deep.shortAddress = []

theorem pairwise_assignFirst {α : Type} {R : α → α → Prop} {p : α → Bool} {a a' : α}
    {as : List α} (hfind : as.find? p = some a) (hbefore : ∀ b, p b = false → R b a')
    (hafter : ∀ b, R a b → R a' b) (h : as.Pairwise R) :
    (assignFirst p a' as).Pairwise R := by
  induction as with
  | nil => cases hfind
  | cons b rest ih =>
      obtain ⟨hb, hrest⟩ := List.pairwise_cons.mp h
      rw [assignFirst]
      by_cases hp : p b = true
      · rw [List.find?_cons_of_pos hp] at hfind
        obtain rfl := Option.some.inj hfind
        rw [if_pos hp]
        exact .cons (fun c hc => hafter c (hb c hc)) hrest
      · rw [List.find?_cons_of_neg hp] at hfind
        rw [if_neg hp]
        refine .cons (fun c hc => ?_) (ih hfind hrest)
        rcases mem_of_mem_assignFirst hc with rfl | hc
        · exact hbefore b (by simpa using hp)
        · exact hb c hc

theorem find?_of_pairwise {α : Type} (name : α → Str) {C : α → Prop} {a : α} {as : List α}
    (h : as.Pairwise fun b c => name b = name c → C c) (ha : a ∈ as) (hnot : ¬ C a) :
    as.find? (fun b => name b = name a) = some a := by
  induction as with
  | nil => cases ha
  | cons b rest ih =>
      obtain ⟨hb, hrest⟩ := List.pairwise_cons.mp h
      rcases List.mem_cons.mp ha with rfl | ha
      · simp
      · have hname : name b ≠ name a := fun heq => hnot (hb a ha heq)
        rw [List.find?_cons_of_neg (by simpa using hname)]
        exact ih hrest ha

theorem AddressesOnFirst.of_clear {nodes : List DataObject}
    (h : ∀ node ∈ nodes, node.AllAttributes fun da =>
      da.Everywhere fun deep => deep.shortAddress = []) : AddressesOnFirst nodes where
  firstObject := List.pairwise_of_forall_mem_list fun _ _ b hb _ da hda =>
    (DataAttribute.everywhere_iff.mp ((h b hb).attributes da hda)).1
  firstAttribute := fun node hnode => List.pairwise_of_forall_mem_list fun _ _ b hb _ =>
    (DataAttribute.everywhere_iff.mp ((h node hnode).attributes b hb)).1
  members := fun node hnode da hda =>
    (DataAttribute.everywhere_iff.mp ((h node hnode).attributes da hda)).2
  inner := fun node hnode => (h node hnode).objects

theorem AddressesOnFirst.assignInstance {nodes nodes' : List DataObject}
    {doiDai : Str × DOINode} (h : assignInstance rt nodes doiDai = .ok nodes')
    (hnodes : AddressesOnFirst nodes) : AddressesOnFirst nodes' := by
  unfold Scl.assignInstance at h
  split at h
  next => cases h
  next node hfind =>
    obtain ⟨node', hnode', h⟩ := bind_eq_ok.mp h
    obtain rfl := Except.ok.inj h
    obtain ⟨da, da', hda, hda', rfl⟩ := parseDataAttributeNode_eq_ok hnode'
    have hmem := List.mem_of_find?_eq_some hfind
    have hdaMem := List.mem_of_find?_eq_some hda
    have hname : node.name = doiDai.1 := by simpa using List.find?_some hfind
    obtain ⟨hshape, -, hsubs, -⟩ := setInstanceValue_eq_ok hda'
    have hdaName : da'.name = da.name := congrArg AttributeShape.name hshape
    have hdaiName : da.name = doiDai.2.name := by simpa using List.find?_some hda
    refine ⟨?_, ?_, ?_, ?_⟩
    · refine pairwise_assignFirst hfind (fun b hb heq => ?_) (fun b hb heq => hb heq)
        hnodes.firstObject
      have hother : b.name ≠ doiDai.1 := by simpa using hb
      exact absurd (heq.trans hname) hother
    · intro other hother
      rcases mem_of_mem_assignFirst hother with rfl | hother
      · refine pairwise_assignFirst hda (fun b hb heq => ?_) (fun b hb heq => ?_)
          (hnodes.firstAttribute node hmem)
        · have hother : b.name ≠ doiDai.2.name := by simpa using hb
          exact absurd (heq.trans (hdaName.trans hdaiName)) hother
        · exact hb (hdaName.symm.trans heq)
      · exact hnodes.firstAttribute other hother
    · intro other hother
      rcases mem_of_mem_assignFirst hother with rfl | hother
      · intro assigned hassigned
        rcases mem_of_mem_assignFirst hassigned with rfl | hassigned
        · rw [hsubs]
          exact hnodes.members node hmem da hdaMem
        · exact hnodes.members node hmem assigned hassigned
      · exact hnodes.members other hother
    · intro other hother
      rcases mem_of_mem_assignFirst hother with rfl | hother
      · exact hnodes.inner node hmem
      · exact hnodes.inner other hother

theorem attributeAt_isSome_assignInstance {nodes nodes' : List DataObject}
    {doiDai : Str × DOINode} (h : assignInstance rt nodes doiDai = .ok nodes')
    (doName daName : Str) :
    (attributeAt nodes' doName daName).isSome = (attributeAt nodes doName daName).isSome := by
  obtain ⟨name, dai⟩ := doiDai
  by_cases hsame : doName = name ∧ daName = dai.name
  · obtain ⟨rfl, rfl⟩ := hsame
    obtain ⟨da, da', hda, -, hda'⟩ := attributeAt_assignInstance h
    rw [hda, hda']
    rfl
  · rw [attributeAt_assignInstance_of_ne h hsame]

theorem attributeAt_isSome_foldlM {instances : List (Str × DOINode)}
    {nodes nodes' : List DataObject}
    (h : instances.foldlM (assignInstance rt) nodes = .ok nodes') (doName daName : Str) :
    (attributeAt nodes' doName daName).isSome = (attributeAt nodes doName daName).isSome :=
  foldlM_invariant (P := fun after => (attributeAt after doName daName).isSome =
    (attributeAt nodes doName daName).isSome) h rfl fun _ _ _ _ hbefore hstep =>
      (attributeAt_isSome_assignInstance hstep doName daName).trans hbefore

/-- Every element addresses an attribute. -/
theorem attributeAt_of_instance {instances : List (Str × DOINode)}
    {nodes nodes' : List DataObject}
    (h : instances.foldlM (assignInstance rt) nodes = .ok nodes') {doName : Str}
    {dai : DOINode} (hmem : (doName, dai) ∈ instances) :
    (attributeAt nodes' doName dai.name).isSome = true := by
  obtain ⟨earlier, later, rfl⟩ := List.append_of_mem hmem
  rw [List.foldlM_append] at h
  obtain ⟨between, -, h⟩ := bind_eq_ok.mp h
  rw [List.foldlM_cons] at h
  obtain ⟨after, hstep, h⟩ := bind_eq_ok.mp h
  obtain ⟨da, da', -, -, hda'⟩ := attributeAt_assignInstance hstep
  rw [attributeAt_isSome_foldlM h, hda']
  rfl

/-! ## Parsed nodes -/

/-- The elements of a parsed node are those of the document. -/
theorem clear_newDataAttribute {n : ℕ} {d : DataAttributeDefinition} {fc : Str}
    {parent : ParentNode} {da : DataAttribute}
    (h : newDataAttribute templates n d fc parent = .ok da) :
    da.Everywhere fun deep => deep.shortAddress = [] :=
  newDataAttribute_everywhere (Q := fun _ _ _ => True) (fun _ _ _ _ _ _ => rfl)
    (fun _ _ _ _ _ => trivial) trivial h

/-- The addresses of a parsed node. -/
structure LogicalNode.Addressed (ln : LogicalNode) : Prop where
  onFirst : AddressesOnFirst ln.dataObjects
  last : ∀ doName daName da, attributeAt ln.dataObjects doName daName = some da →
    da.shortAddress = lastAddress ln.instances doName daName
  found : ∀ doName dai, (doName, dai) ∈ ln.instances →
    (attributeAt ln.dataObjects doName dai.name).isSome = true

theorem addressed_parseLogicalNode {n : ℕ} {ln parsed : LogicalNode}
    (h : parseLogicalNode rt templates n ln = .ok parsed) : parsed.Addressed := by
  obtain ⟨t, created, checked, objects, -, hcreated, hchecked, hobjects, rfl⟩ :=
    parseLogicalNode_eq_ok h
  have hclear : ∀ node ∈ created, node.AllAttributes fun da =>
      da.Everywhere fun deep => deep.shortAddress = [] := by
    intro node hnode
    obtain ⟨d, -, hd⟩ := exists_of_mem_mapM_ok hcreated hnode
    exact allAttributes_newDataObject (fun _ _ _ _ _ _ _ hda => clear_newDataAttribute hda) hd
  have hfold : (ln.doiNodes.flatMap DOINode.instances).foldlM (assignInstance rt) created =
      .ok objects := foldlM_instances hobjects
  have hinstances : LogicalNode.instances { checked with dataObjects := objects } =
      ln.doiNodes.flatMap DOINode.instances := by
    change checked.doiNodes.flatMap DOINode.instances = _
    rw [(parseControlBlocks_eq_ok hchecked).2.2]
  refine ⟨?_, fun doName daName da hda => ?_, fun doName dai hmem => ?_⟩
  · exact foldlM_invariant (P := AddressesOnFirst) hfold (.of_clear hclear)
      fun _ _ _ _ hbefore hstep => hbefore.assignInstance hstep
  · have hsome := attributeAt_isSome_foldlM hfold doName daName
    rw [show attributeAt objects doName daName = some da from hda] at hsome
    obtain ⟨first, hfirst⟩ := Option.isSome_iff_exists.mp hsome.symm
    obtain ⟨node, hnode, hfound⟩ := Option.bind_eq_some_iff.mp hfirst
    have hunset := (DataAttribute.everywhere_iff.mp
      ((hclear node (List.mem_of_find?_eq_some hnode)).attributes first
        (List.mem_of_find?_eq_some hfound))).1
    obtain ⟨last, hlast, haddress⟩ := attributeAt_lastAddress hfold hfirst hunset
    obtain rfl := Option.some.inj (hda.symm.trans hlast)
    rw [hinstances]
    exact haddress
  · rw [hinstances] at hmem
    exact attributeAt_of_instance hfold hmem

/-! ## Places and the attributes that are addressed -/

/-- The place is the attribute that a `DAI` of this name under a `DOI` of this name
addresses. -/
structure DefinitionPlace.AddressedBy (place : DefinitionPlace) (doName daName : Str) :
    Prop where
  found : ∃ node, place.objects = [node] ∧
    place.node.dataObjects.find? (fun node => node.name = doName) = some node ∧
    node.dataAttributes.find? (fun da => da.name = daName) = some place.root
  path : place.path = [daName]
  element : place.element = none

theorem DefinitionPlace.AddressedBy.attributeAt {place : DefinitionPlace}
    {doName daName : Str} (h : place.AddressedBy doName daName) :
    attributeAt place.node.dataObjects doName daName = some place.root := by
  obtain ⟨node, -, hnode, hda⟩ := h.found
  rw [Scl.attributeAt, hnode, Option.bind_some, hda]

theorem DefinitionPlace.AddressedBy.unique {place : DefinitionPlace}
    {doName doName' daName daName' : Str} (h : place.AddressedBy doName daName)
    (h' : place.AddressedBy doName' daName') : doName' = doName ∧ daName' = daName := by
  obtain ⟨node, hobjects, hnode, -⟩ := h.found
  obtain ⟨node', hobjects', hnode', -⟩ := h'.found
  obtain rfl : node' = node := List.singleton_inj.mp (hobjects'.symm.trans hobjects)
  have hname : node'.name = doName := by simpa using List.find?_some hnode
  have hname' : node'.name = doName' := by simpa using List.find?_some hnode'
  exact ⟨hname'.symm.trans hname, List.singleton_inj.mp (h'.path.symm.trans h.path)⟩

/-- What a place is: an attribute of a data object of the node, or an element of it, or
something deeper, which has no address. -/
inductive DefinitionPlace.Located (place : DefinitionPlace) (nodes : List DataObject) : Prop
  | direct {node : DataObject} (hobjects : place.objects = [node]) (hnode : node ∈ nodes)
      (hroot : place.root ∈ node.dataAttributes) (hpath : place.path = [place.root.name])
      (hself : place.dataAttribute = place.root)
  | deep (hdeep : 2 ≤ place.objects.length ∨ 2 ≤ place.path.length)
      (hclear : place.dataAttribute.shortAddress = [])

variable {ln : LogicalNode}

theorem path_of_mem_memberPlaces {objects : List DataObject} {root : DataAttribute}
    {path : List Str} {das : List DataAttribute} {place : DefinitionPlace}
    (h : place ∈ memberPlaces ln objects root path das) :
    path.length < place.path.length := by
  induction das using dataAttribute_induction generalizing path with
  | nil => simp at h
  | cons da rest ihm ihr =>
      have hmember : place ∈ memberPlaces ln objects root (path ++ [da.name])
          da.subDataAttributes → path.length < place.path.length := by
        intro hmember
        have hlonger := ihm hmember
        rw [List.length_append, List.length_singleton] at hlonger
        omega
      rw [memberPlaces] at h
      rcases List.mem_cons.mp h with rfl | h
      · simp
      · rcases List.mem_append.mp h with h | h
        · split at h
          · obtain ⟨idx, -, h⟩ := List.mem_flatMap.mp h
            rcases List.mem_cons.mp h with rfl | h
            · simp
            · exact hmember h
          · exact hmember h
        · exact ihr h

/-- A place of an attribute is the attribute, an element of it, or below it. -/
theorem mem_memberPlaces_singleton {objects : List DataObject} {root : DataAttribute}
    {place : DefinitionPlace} (h : place ∈ memberPlaces ln objects root [] [root]) :
    (place.path = [root.name] ∧ place.dataAttribute = root) ∨
      place ∈ memberPlaces ln objects root [root.name] root.subDataAttributes := by
  rw [memberPlaces, memberPlaces_nil, List.append_nil] at h
  rcases List.mem_cons.mp h with rfl | h
  · exact Or.inl ⟨rfl, rfl⟩
  · split at h
    · obtain ⟨idx, -, h⟩ := List.mem_flatMap.mp h
      rcases List.mem_cons.mp h with rfl | h
      · exact Or.inl ⟨rfl, rfl⟩
      · exact Or.inr h
    · exact Or.inr h

/-- The place of an attribute of a data object. -/
def rootPlace (ln : LogicalNode) (objects : List DataObject) (root : DataAttribute) :
    DefinitionPlace where
  node := ln
  objects := objects
  root := root
  path := [root.name]
  dataAttribute := root

theorem rootPlace_mem {objects : List DataObject} {das : List DataAttribute}
    {root : DataAttribute} (hroot : root ∈ das) :
    rootPlace ln objects root ∈ rootPlaces ln objects das := by
  refine List.mem_flatMap.mpr ⟨root, hroot, ?_⟩
  rw [memberPlaces]
  exact List.mem_cons_self

theorem rootPlaces_subset_objectPlaces {objects nodes : List DataObject} {node : DataObject}
    (hnode : node ∈ nodes) :
    rootPlaces ln (node :: objects) node.dataAttributes ⊆ objectPlaces ln objects nodes := by
  induction nodes with
  | nil => cases hnode
  | cons other rest ih =>
      rw [objectPlaces_cons]
      intro place hplace
      rcases List.mem_cons.mp hnode with rfl | hnode
      · exact List.mem_append_left _ (List.mem_append_right _ hplace)
      · exact List.mem_append_right _ (ih hnode hplace)

/-- Places in sub data objects. -/
theorem clear_objectPlaces {objects nodes : List DataObject}
    (hnodes : ∀ node ∈ nodes, node.AllAttributes fun da =>
      da.Everywhere fun deep => deep.shortAddress = []) {place : DefinitionPlace}
    (h : place ∈ objectPlaces ln objects nodes) :
    place.node = ln ∧ objects.length < place.objects.length ∧
      place.dataAttribute.shortAddress = [] := by
  induction nodes using dataObject_induction generalizing objects with
  | nil => simp at h
  | cons node rest ihm ihr =>
      have hnode := hnodes node List.mem_cons_self
      rw [objectPlaces_cons] at h
      rcases List.mem_append.mp h with h | h
      · rcases List.mem_append.mp h with h | h
        · obtain ⟨hln, hlength, hclear⟩ := ihm hnode.objects h
          rw [List.length_cons] at hlength
          exact ⟨hln, by omega, hclear⟩
        · obtain ⟨root, hroot, h⟩ := List.mem_flatMap.mp h
          have hself : ∀ da ∈ [root], da.Everywhere fun deep => deep.shortAddress = [] := by
            intro da hda
            obtain rfl := List.mem_singleton.mp hda
            exact hnode.attributes da hroot
          obtain ⟨hln, hobjects, -, hclear⟩ := mem_memberPlaces hself h
          exact ⟨hln, by simp [hobjects], hclear⟩
      · exact ihr (fun other hother => hnodes other (List.mem_cons_of_mem node hother)) h

theorem DataAttribute.everywhere_of_forall {P : DataAttribute → Prop} (h : ∀ da, P da) :
    ∀ das : List DataAttribute, ∀ da ∈ das, da.Everywhere P := by
  intro das
  induction das using dataAttribute_induction with
  | nil => simp
  | cons first rest ihm ihr =>
      intro da hda
      rcases List.mem_cons.mp hda with rfl | hda
      · exact .intro (h da) ihm
      · exact ihr da hda

theorem located_objectPlaces {nodes : List DataObject}
    (hnodes : ∀ node ∈ nodes, ∀ da ∈ node.dataAttributes, ∀ sub ∈ da.subDataAttributes,
      sub.Everywhere fun deep => deep.shortAddress = [])
    (hinner : ∀ node ∈ nodes, ∀ sub ∈ node.subDataObjects, sub.AllAttributes fun da =>
      da.Everywhere fun deep => deep.shortAddress = [])
    {place : DefinitionPlace} (h : place ∈ objectPlaces ln [] nodes) :
    place.node = ln ∧ place.Located nodes := by
  induction nodes with
  | nil => simp at h
  | cons node rest ih =>
      rw [objectPlaces_cons] at h
      rcases List.mem_append.mp h with h | h
      · rcases List.mem_append.mp h with h | h
        · obtain ⟨hln, hlength, hclear⟩ :=
            clear_objectPlaces (hinner node List.mem_cons_self) h
          exact ⟨hln, .deep (Or.inl hlength) hclear⟩
        · obtain ⟨root, hroot, h⟩ := List.mem_flatMap.mp h
          obtain ⟨hln, hobjects, hplaceRoot, -⟩ :=
            mem_memberPlaces (DataAttribute.everywhere_of_forall (fun _ => trivial) _) h
          refine ⟨hln, ?_⟩
          rcases mem_memberPlaces_singleton h with ⟨hpath, hself⟩ | hmember
          · exact .direct hobjects List.mem_cons_self (hplaceRoot ▸ hroot)
              (hplaceRoot ▸ hpath) (hself.trans hplaceRoot.symm)
          · obtain ⟨-, -, -, hclear⟩ :=
              mem_memberPlaces (hnodes node List.mem_cons_self root hroot) hmember
            exact .deep (Or.inr (path_of_mem_memberPlaces hmember)) hclear
      · obtain ⟨hln, hlocated⟩ := ih
          (fun other hother => hnodes other (List.mem_cons_of_mem node hother))
          (fun other hother => hinner other (List.mem_cons_of_mem node hother)) h
        refine ⟨hln, ?_⟩
        cases hlocated with
        | direct hobjects hnode hroot hpath hself =>
            exact .direct hobjects (List.mem_cons_of_mem node hnode) hroot hpath hself
        | deep hdeep hclear => exact .deep hdeep hclear

/-! ## The definitions of a run -/

def NodeLabel.sAddr (label : NodeLabel) : ℤ :=
  match label.kind with
  | .dataAttribute _ _ _ _ _ sAddr => sAddr
  | _ => 0

/-- The definition has the number of every decimal address given for its attribute, and 0
if no such address is given. -/
structure ShortAddressReaches (label : NodeLabel) (place : DefinitionPlace) : Prop where
  given : ∀ doName daName, place.AddressedBy doName daName →
    ∀ dai, (doName, dai) ∈ place.node.instances → dai.name = daName →
      ∀ n, DecimalAddress dai.sAddr n → label.sAddr = n
  otherwise : (∀ doName daName, place.AddressedBy doName daName →
    ∀ dai, (doName, dai) ∈ place.node.instances → dai.name = daName →
      ∀ n, ¬ DecimalAddress dai.sAddr n) → label.sAddr = 0

/-- The last address for the attribute that comes with a value is read as the number of
every decimal address for it, and as 0 if there is none. -/
structure AddressesAgree (rt : Runtime) (place : DefinitionPlace) (doName daName : Str) :
    Prop where
  given : ∀ dai, (doName, dai) ∈ place.node.instances → dai.name = daName →
    ∀ n, DecimalAddress dai.sAddr n →
      ReadAs rt (lastAddress place.node.instances doName daName) n
  otherwise : (∀ dai, (doName, dai) ∈ place.node.instances → dai.name = daName →
      ∀ n, ¬ DecimalAddress dai.sAddr n) →
    ReadAs rt (lastAddress place.node.instances doName daName) 0

theorem sAddr_label_of_element {place : DefinitionPlace} {idx : ℕ}
    (h : place.element = some idx) : (place.label rt).sAddr = 0 := by
  rw [DefinitionPlace.label, h]
  rfl

theorem sAddr_label {place : DefinitionPlace} (h : place.element = none) :
    (place.label rt).sAddr = shortAddressValue rt place.dataAttribute.shortAddress := by
  rw [DefinitionPlace.label, h]
  rfl

/-- The empty text is no number, or 0. -/
def EmptyIsZero (rt : Runtime) : Prop := ReadAs rt [] 0

/-- An attribute that no element can address has no address. -/
theorem sAddr_eq_zero_of_not_addressed (hempty : EmptyIsZero rt) {place : DefinitionPlace}
    (hnode : place.node.Addressed) (hlocated : place.Located place.node.dataObjects)
    (hnot : ∀ doName daName, ¬ place.AddressedBy doName daName) :
    (place.label rt).sAddr = 0 := by
  cases helement : place.element with
  | some idx => exact sAddr_label_of_element helement
  | none =>
      have hclear : place.dataAttribute.shortAddress = [] := by
        cases hlocated with
        | deep _ hclear => exact hclear
        | @direct node hobjects hmem hroot hpath hself =>
            by_contra haddress
            rw [hself] at haddress
            have hobject := find?_of_pairwise DataObject.name
              hnode.onFirst.firstObject hmem fun hall => haddress (hall place.root hroot)
            have hattribute := find?_of_pairwise DataAttribute.name
              (hnode.onFirst.firstAttribute node hmem) hroot haddress
            exact hnot node.name place.root.name
              ⟨⟨node, hobjects, hobject, hattribute⟩, hpath, helement⟩
      rw [sAddr_label helement, hclear]
      exact readAs_iff.mp hempty

theorem sAddr_of_addressed {place : DefinitionPlace} (hnode : place.node.Addressed)
    (hlocated : place.Located place.node.dataObjects) {doName daName : Str}
    (h : place.AddressedBy doName daName) :
    (place.label rt).sAddr =
      shortAddressValue rt (lastAddress place.node.instances doName daName) := by
  have hself : place.dataAttribute = place.root := by
    cases hlocated with
    | direct _ _ _ _ hself => exact hself
    | deep hdeep _ =>
        obtain ⟨node, hobjects, -⟩ := h.found
        rw [hobjects, h.path, List.length_singleton, List.length_singleton] at hdeep
        omega
  rw [sAddr_label h.element, hself, hnode.last doName daName place.root h.attributeAt]

theorem shortAddressReaches_iff (hempty : EmptyIsZero rt) {place : DefinitionPlace}
    (hnode : place.node.Addressed) (hlocated : place.Located place.node.dataObjects) :
    ShortAddressReaches (place.label rt) place ↔
      ∀ doName daName, place.AddressedBy doName daName →
        AddressesAgree rt place doName daName := by
  have hread : ∀ {doName daName}, place.AddressedBy doName daName → ∀ n,
      ReadAs rt (lastAddress place.node.instances doName daName) n ↔
        (place.label rt).sAddr = n := by
    intro doName daName haddressed n
    rw [readAs_iff, sAddr_of_addressed hnode hlocated haddressed]
  constructor
  · intro hreaches doName daName haddressed
    refine ⟨fun dai hdai hname n hn => ?_, fun hnone => ?_⟩
    · exact (hread haddressed n).mpr (hreaches.given doName daName haddressed dai hdai hname n hn)
    · refine (hread haddressed 0).mpr (hreaches.otherwise fun doName' daName' haddressed' => ?_)
      obtain ⟨rfl, rfl⟩ := haddressed.unique haddressed'
      exact hnone
  · intro hagree
    refine ⟨fun doName daName haddressed dai hdai hname n hn => ?_, fun hnone => ?_⟩
    · exact (hread haddressed n).mp ((hagree doName daName haddressed).given dai hdai hname n hn)
    · by_cases haddressed : ∃ doName daName, place.AddressedBy doName daName
      · obtain ⟨doName, daName, haddressed⟩ := haddressed
        exact (hread haddressed 0).mp
          ((hagree doName daName haddressed).otherwise (hnone doName daName haddressed))
      · exact sAddr_eq_zero_of_not_addressed hempty hnode hlocated fun doName daName h =>
          haddressed ⟨doName, daName, h⟩

variable {args : GeneratorArguments} {files : GeneratedFiles}

theorem located_modelPlaces {P : ParsedModel rt} (S : Selection P.model args)
    {place : DefinitionPlace} (h : place ∈ modelPlaces S.logicalDevices) :
    place.node.Addressed ∧ place.Located place.node.dataObjects := by
  obtain ⟨templates, -, hdevices⟩ := S.parsedDevices
  obtain ⟨device, hdevice, h⟩ := List.mem_flatMap.mp h
  obtain ⟨ln, hln, h⟩ := List.mem_flatMap.mp h
  obtain ⟨source, resolved, -, hparsed⟩ := hdevices.parsedNode hdevice hln
  have haddressed := addressed_parseLogicalNode hparsed
  obtain ⟨rfl, hlocated⟩ :=
    located_objectPlaces haddressed.onFirst.members haddressed.onFirst.inner h
  exact ⟨haddressed, hlocated⟩

/-- Every `DAI` directly under a `DOI` addresses one of the places. -/
theorem exists_addressed_place {P : ParsedModel rt} (S : Selection P.model args)
    {device : LogicalDevice} (hdevice : device ∈ S.logicalDevices) {ln : LogicalNode}
    (hln : ln ∈ device.logicalNodes) {doName : Str} {dai : DOINode}
    (hdai : (doName, dai) ∈ ln.instances) :
    ∃ place ∈ modelPlaces S.logicalDevices, place.node = ln ∧
      place.AddressedBy doName dai.name := by
  obtain ⟨templates, -, hdevices⟩ := S.parsedDevices
  obtain ⟨source, resolved, -, hparsed⟩ := hdevices.parsedNode hdevice hln
  have hfound := (addressed_parseLogicalNode hparsed).found doName dai hdai
  obtain ⟨root, hroot⟩ := Option.isSome_iff_exists.mp hfound
  obtain ⟨node, hnode, hattribute⟩ := Option.bind_eq_some_iff.mp hroot
  have hname : root.name = dai.name := by simpa using List.find?_some hattribute
  refine ⟨rootPlace ln [node] root, ?_, rfl, ⟨node, rfl, hnode, hattribute⟩, ?_, rfl⟩
  · refine List.mem_flatMap.mpr ⟨device, hdevice, List.mem_flatMap.mpr ⟨ln, hln, ?_⟩⟩
    exact rootPlaces_subset_objectPlaces (List.mem_of_find?_eq_some hnode)
      (rootPlace_mem (List.mem_of_find?_eq_some hattribute))
  · exact congrArg List.singleton hname

/-- The addresses of the document reach the definitions of the places that they address:
each definition has its address exactly when the last address with a value is read as
every decimal address of the attribute. -/
theorem short_addresses_reach_iff {P : ParsedModel rt} (S : Selection P.model args)
    (hgenerate : generate rt P.model args = .ok files) (hempty : EmptyIsZero rt) :
    (∀ device ∈ S.logicalDevices, ∀ ln ∈ device.logicalNodes,
      ∀ doName dai, (doName, dai) ∈ ln.instances →
        ∃ place ∈ modelPlaces S.logicalDevices, place.node = ln ∧
          place.AddressedBy doName dai.name) ∧
    List.Forall₂ (fun definition place => definition.label = place.label rt ∧
        (ShortAddressReaches definition.label place ↔
          ∀ doName daName, place.AddressedBy doName daName →
            AddressesAgree rt place doName daName))
      files.attributeDefinitions (modelPlaces S.logicalDevices) := by
  obtain ⟨R⟩ := S.stages hgenerate
  refine ⟨fun device hdevice ln hln doName dai => exists_addressed_place S hdevice hln, ?_⟩
  refine forall₂_imp_of_mem R.definitions_places fun definition _ place hplace hlabel => ?_
  obtain ⟨hnode, hlocated⟩ := located_modelPlaces S hplace
  rw [hlabel]
  exact ⟨rfl, shortAddressReaches_iff hempty hnode hlocated⟩

/-- A measured value whose only instance element has an address and no value. -/
def analogueTemplates : DataTypeTemplates where
  logicalNodeTypes := [{
    id := lit "LN0T"
    dataObjectDefinitions := [{ name := lit "AnIn2", type := lit "MV" }] }]
  dataObjectTypes := [{
    id := lit "MV"
    dataAttributes := [{ name := lit "mag", fc := lit "MX", bType := lit "INT32" }] }]

def analogueAddress : DOINode := { name := lit "mag", sAddr := lit "101" }

def analogueModel : ParsedModel plainRuntime :=
  ParsedModel.ofDocument plainRuntime 4
    (documentOf analogueTemplates [{
      inst := lit "LD1"
      ln0 := some {
        lnClass := lit "LLN0"
        lnType := lit "LN0T"
        doiNodes := [{ name := lit "AnIn2", daiNodes := [analogueAddress] }] } }])
    (by decide +kernel)

theorem generate_analogueModel :
    (generate plainRuntime analogueModel.model {}).isOk = true := by
  decide +kernel

theorem selectedDevices_analogueModel :
    (selectedDevices analogueModel.model {}).isOk = true := by
  decide +kernel

theorem short_addresses_reach_iff_analogueModel :
    ∃ S : Selection analogueModel.model {}, ∃ files,
      generate plainRuntime analogueModel.model {} = .ok files ∧
      List.Forall₂ (fun definition place => definition.label = place.label plainRuntime ∧
          (ShortAddressReaches definition.label place ↔
            ∀ doName daName, place.AddressedBy doName daName →
              AddressesAgree plainRuntime place doName daName))
        files.attributeDefinitions (modelPlaces S.logicalDevices) := by
  have hgenerate := eq_ok_resultOf _ generate_analogueModel
  obtain ⟨S⟩ := exists_selection_of_generate hgenerate
  exact ⟨S, _, hgenerate, (short_addresses_reach_iff S hgenerate rfl).2⟩

/-- The addresses of all elements of the nodes, with what they address. -/
def addressesOf (devices : List LogicalDevice) : List (Str × Str × Str) :=
  devices.flatMap fun device => device.logicalNodes.flatMap fun ln =>
    ln.instances.map fun doiDai => (doiDai.1, doiDai.2.name, doiDai.2.sAddr)

theorem addressesOf_analogueModel :
    addressesOf (resultOf _ selectedDevices_analogueModel) =
      [(lit "AnIn2", lit "mag", lit "101")] := by
  decide +kernel

theorem sAddr_analogueModel :
    ((resultOf _ generate_analogueModel).attributeDefinitions.all fun definition =>
      definition.label.sAddr = 0) = true := by
  decide +kernel

/-- The address 101 does not reach the file. -/
theorem analogueModel_address_lost :
    ∃ S : Selection analogueModel.model {}, ∃ files,
      generate plainRuntime analogueModel.model {} = .ok files ∧
      ¬ List.Forall₂ (fun definition place => ShortAddressReaches definition.label place)
        files.attributeDefinitions (modelPlaces S.logicalDevices) := by
  have hgenerate := eq_ok_resultOf _ generate_analogueModel
  obtain ⟨S, hdevices⟩ :=
    exists_selection_of_devices hgenerate (eq_ok_resultOf _ selectedDevices_analogueModel)
  refine ⟨S, _, hgenerate, fun hreaches => ?_⟩
  have hmem : (lit "AnIn2", lit "mag", lit "101") ∈ addressesOf S.logicalDevices := by
    rw [hdevices, addressesOf_analogueModel]
    exact List.mem_singleton_self _
  obtain ⟨device, hdevice, hmem⟩ := List.mem_flatMap.mp hmem
  obtain ⟨ln, hln, hmem⟩ := List.mem_flatMap.mp hmem
  obtain ⟨⟨doName, dai⟩, hdai, heq⟩ := List.mem_map.mp hmem
  obtain ⟨-, hnames⟩ := Prod.mk.inj heq
  obtain ⟨-, haddress⟩ := Prod.mk.inj hnames
  obtain ⟨place, hplace, rfl, haddressed⟩ := exists_addressed_place S hdevice hln hdai
  obtain ⟨definition, hdefinition, hreach⟩ := exists_mem_of_forall₂ hreaches.flip hplace
  have hdecimal : DecimalAddress dai.sAddr 101 := by
    rw [haddress]
    exact ⟨by decide, by decide, by decide, by decide⟩
  have hgiven := hreach.given doName dai.name haddressed dai hdai rfl 101 hdecimal
  have hzero := of_decide_eq_true (List.all_eq_true.mp sAddr_analogueModel definition hdefinition)
  omega

end Iec61850.Scl
