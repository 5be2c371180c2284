import Iec61850.DelimitedText
import Iec61850.PrefixReadings

/-!
# Distinct variables

The variable of an element of the model is put together from the names on the path to
it.  Without separators in the names the path can be read back, so that the variables
are distinct when the names under each parent are.
-/

namespace Iec61850.Scl

open Go Linked Delimited

/-! ## Variables and paths -/

def SE : Str := lit "SE"

/-- The variable of a path below the model prefix. -/
def pathVariable (modelPrefix : Str) (path : List Str) : Str :=
  modelPrefix ++ joined '_' path

/-- The names on a path hold no separator. -/
def Unseparated (path : List Str) : Prop := ∀ name ∈ path, '_' ∉ name

instance (path : List Str) : Decidable (Unseparated path) :=
  inferInstanceAs (Decidable (∀ name ∈ path, '_' ∉ name))

section Paths

variable {modelPrefix : Str} {path path' : List Str}

theorem unseparated_append : Unseparated (path ++ path') ↔ Unseparated path ∧ Unseparated path' :=
  List.forall_mem_append

theorem unseparated_singleton {name : Str} : Unseparated [name] ↔ '_' ∉ name := by
  simp [Unseparated]

theorem unseparated_SE : Unseparated [SE] := by
  decide

theorem joinName_pathVariable (name : Str) :
    joinName (pathVariable modelPrefix path) name =
      pathVariable modelPrefix (path ++ [name]) := by
  simp [joinName, pathVariable, joined_append]

theorem joinName_eq_pathVariable (name : Str) :
    joinName modelPrefix name = pathVariable modelPrefix [name] := by
  simp [joinName, pathVariable]

theorem pathVariable_inj (hpath : Unseparated path) (hpath' : Unseparated path')
    (h : pathVariable modelPrefix path = pathVariable modelPrefix path') : path = path' :=
  joined_inj hpath hpath' (List.append_cancel_left h)

end Paths

/-! ## Where `SE_` goes -/

/-- The path under which an attribute is defined: `SE` stands before that of a setpoint,
once. -/
def setpointPath (fc : Str) (path : List Str) : List Str :=
  if fc = SE ∧ path.head? ≠ some SE then SE :: path else path

section Setpoints

variable {modelPrefix : Str} {path : List Str}

theorem hasPrefix_pathVariable (hpath : Unseparated path) (hdepth : 2 ≤ path.length) :
    hasPrefix (pathVariable modelPrefix path) (modelPrefix ++ lit "_SE_") = true ↔
      path.head? = some SE := by
  obtain ⟨first, second, rest, rfl⟩ : ∃ first second rest, path = first :: second :: rest := by
    match path, hdepth with
    | first :: second :: rest, _ => exact ⟨first, second, rest, rfl⟩
  have hhead : lit "_SE_" = '_' :: (SE ++ ['_']) := rfl
  rw [hasPrefix_iff, pathVariable, List.prefix_append_right_inj, hhead, joined_cons,
    joined_cons, List.cons_prefix_cons, List.head?_cons, Option.some.injEq]
  constructor
  · rintro ⟨-, tail, htail⟩
    rw [List.append_assoc] at htail
    have hfirst : Free (· = '_') first :=
      fun c hc hstop => hpath first List.mem_cons_self (hstop ▸ hc)
    exact (append_inj_of_free (by simp [Free, SE, lit]) hfirst (ends_cons.mpr rfl)
      (ends_cons.mpr rfl) htail).1.symm
  · intro hfirst
    rw [hfirst]
    refine ⟨rfl, second ++ joined '_' rest, ?_⟩
    simp

/-- Behind a prefix of eight characters `SE_` is a component of the path. -/
theorem mangleSE_pathVariable (hlength : modelPrefix.length = 8) (hpath : Unseparated path)
    (hdepth : 2 ≤ path.length) :
    mangleSE modelPrefix (pathVariable modelPrefix path) =
      pathVariable modelPrefix (setpointPath SE path) := by
  unfold mangleSE setpointPath
  by_cases hhead : path.head? = some SE
  · rw [if_pos ((hasPrefix_pathVariable hpath hdepth).mpr hhead), if_neg (by simp [hhead])]
  · have hprefix : ¬ hasPrefix (pathVariable modelPrefix path)
        (modelPrefix ++ lit "_SE_") = true :=
      fun h => hhead ((hasPrefix_pathVariable hpath hdepth).mp h)
    rw [if_neg hprefix, if_pos ⟨rfl, hhead⟩]
    obtain ⟨first, rest, rfl⟩ : ∃ first rest, path = first :: rest := by
      match path, hdepth with
      | first :: rest, _ => exact ⟨first, rest, rfl⟩
    simp only [pathVariable, joined_cons]
    rw [List.take_append, List.drop_append, hlength,
      List.take_of_length_le (by omega), List.drop_of_length_le (by omega)]
    simp [SE, lit]

theorem setpointVariable_pathVariable (hlength : modelPrefix.length = 8) (hpath : Unseparated path)
    (hdepth : 2 ≤ path.length) (fc : Str) :
    setpointVariable (mangleSE modelPrefix) fc (pathVariable modelPrefix path) =
      pathVariable modelPrefix (setpointPath fc path) := by
  unfold setpointVariable
  by_cases hfc : fc = lit "SE"
  · rw [if_pos hfc, mangleSE_pathVariable hlength hpath hdepth, hfc]
    rfl
  · have hpath : setpointPath fc path = path := if_neg fun h => hfc h.1
    rw [if_neg hfc, hpath]

theorem unseparated_setpointPath {fc : Str} (hpath : Unseparated path) :
    Unseparated (setpointPath fc path) := by
  unfold setpointPath
  split
  next => exact unseparated_append.mpr ⟨unseparated_SE, hpath⟩
  next => exact hpath

theorem length_le_setpointPath (fc : Str) (path : List Str) :
    path.length ≤ (setpointPath fc path).length := by
  unfold setpointPath
  split
  next => simp
  next => rfl

theorem head?_setpointPath_SE {path : List Str} : (setpointPath SE path).head? = some SE := by
  unfold setpointPath
  by_cases hhead : path.head? = some SE
  · rw [if_neg (by simp [hhead]), hhead]
  · rw [if_pos ⟨rfl, hhead⟩]
    rfl

theorem setpointPath_of_head {fc : Str} (hhead : path.head? = some SE) :
    setpointPath fc path = path :=
  if_neg fun h => h.2 hhead

theorem setpointPath_of_ne {fc : Str} (hfc : fc ≠ SE) : setpointPath fc path = path :=
  if_neg fun h => hfc h.1

end Setpoints

/-! ## Distinct names -/

mutual

/-- The attributes below an attribute have distinct names. -/
def DataAttribute.Distinct : DataAttribute → Prop
  | ⟨_, _, _, _, _, _, subDataAttributes, _, _, _⟩ => DistinctAttributes subDataAttributes

/-- The attributes of one parent, and those below them, have names without separator, and
no two of one parent have one name, unless one of them is the setpoint that is edited. -/
def DistinctAttributes : List DataAttribute → Prop
  | [] => True
  | da :: rest =>
      '_' ∉ da.name ∧ (∀ other ∈ rest, other.name = da.name → ¬ (other.fc = SE ↔ da.fc = SE)) ∧
        da.Distinct ∧ DistinctAttributes rest

end

mutual

/-- The sub data objects and the attributes of a data object have distinct names. -/
def DataObject.Distinct : DataObject → Prop
  | ⟨_, _, _, dataAttributes, subDataObjects⟩ =>
      (∀ sub ∈ subDataObjects, ∀ da ∈ dataAttributes, sub.name ≠ da.name) ∧
        DistinctAttributes dataAttributes ∧ DistinctObjects subDataObjects

/-- The data objects of one parent have names without separator, each its own. -/
def DistinctObjects : List DataObject → Prop
  | [] => True
  | node :: rest =>
      '_' ∉ node.name ∧ (∀ other ∈ rest, other.name ≠ node.name) ∧
        node.Distinct ∧ DistinctObjects rest

end

mutual

instance decidableDistinctBelow : (da : DataAttribute) → Decidable da.Distinct
  | ⟨_, _, _, _, _, _, subDataAttributes, _, _, _⟩ =>
      decidableDistinctAttributes subDataAttributes

instance decidableDistinctAttributes : (das : List DataAttribute) →
    Decidable (DistinctAttributes das)
  | [] => isTrue trivial
  | da :: rest =>
      have := decidableDistinctBelow da
      have := decidableDistinctAttributes rest
      inferInstanceAs (Decidable ('_' ∉ da.name ∧
        (∀ other ∈ rest, other.name = da.name → ¬ (other.fc = SE ↔ da.fc = SE)) ∧
        da.Distinct ∧ DistinctAttributes rest))

end

mutual

instance decidableDistinctMembers : (node : DataObject) → Decidable node.Distinct
  | ⟨_, _, _, dataAttributes, subDataObjects⟩ =>
      have := decidableDistinctObjects subDataObjects
      inferInstanceAs (Decidable
        ((∀ sub ∈ subDataObjects, ∀ da ∈ dataAttributes, sub.name ≠ da.name) ∧
          DistinctAttributes dataAttributes ∧ DistinctObjects subDataObjects))

instance decidableDistinctObjects : (nodes : List DataObject) → Decidable (DistinctObjects nodes)
  | [] => isTrue trivial
  | node :: rest =>
      have := decidableDistinctMembers node
      have := decidableDistinctObjects rest
      inferInstanceAs (Decidable ('_' ∉ node.name ∧ (∀ other ∈ rest, other.name ≠ node.name) ∧
        node.Distinct ∧ DistinctObjects rest))

end

theorem DataAttribute.distinct_eq (da : DataAttribute) :
    da.Distinct = DistinctAttributes da.subDataAttributes := by
  cases da
  rfl

theorem distinctAttributes_cons {da : DataAttribute} {rest : List DataAttribute} :
    DistinctAttributes (da :: rest) ↔
      '_' ∉ da.name ∧ (∀ other ∈ rest, other.name = da.name → ¬ (other.fc = SE ↔ da.fc = SE)) ∧
        DistinctAttributes da.subDataAttributes ∧ DistinctAttributes rest := by
  rw [DistinctAttributes, da.distinct_eq]

theorem DataObject.distinct_iff (node : DataObject) :
    node.Distinct ↔
      (∀ sub ∈ node.subDataObjects, ∀ da ∈ node.dataAttributes, sub.name ≠ da.name) ∧
        DistinctAttributes node.dataAttributes ∧ DistinctObjects node.subDataObjects := by
  cases node
  rfl

theorem distinctObjects_cons {node : DataObject} {rest : List DataObject} :
    DistinctObjects (node :: rest) ↔
      '_' ∉ node.name ∧ (∀ other ∈ rest, other.name ≠ node.name) ∧
        node.Distinct ∧ DistinctObjects rest := by
  rw [DistinctObjects]

theorem DistinctAttributes.unseparated {das : List DataAttribute} (h : DistinctAttributes das) :
    ∀ da ∈ das, '_' ∉ da.name := by
  induction das with
  | nil => exact fun _ hda => absurd hda List.not_mem_nil
  | cons da rest ih =>
      obtain ⟨hname, -, -, hrest⟩ := distinctAttributes_cons.mp h
      exact List.forall_mem_cons.mpr ⟨hname, ih hrest⟩

theorem DistinctObjects.unseparated {nodes : List DataObject} (h : DistinctObjects nodes) :
    ∀ node ∈ nodes, '_' ∉ node.name := by
  induction nodes with
  | nil => exact fun _ hnode => absurd hnode List.not_mem_nil
  | cons node rest ih =>
      obtain ⟨hname, -, -, hrest⟩ := distinctObjects_cons.mp h
      exact List.forall_mem_cons.mpr ⟨hname, ih hrest⟩

/-! ## Variables below a path -/

/-- The path of the variable goes on from the given one. -/
def Below (modelPrefix : Str) (path : List Str) (v : Str) : Prop :=
  ∃ tail, Unseparated tail ∧ v = pathVariable modelPrefix (path ++ tail)

/-- The variable stands below the path, or below that of its setpoints. -/
def BelowEither (modelPrefix : Str) (path : List Str) (v : Str) : Prop :=
  Below modelPrefix path v ∨ Below modelPrefix (SE :: path) v

section Below

variable {modelPrefix v : Str} {path : List Str}

theorem below_self (modelPrefix : Str) (path : List Str) :
    Below modelPrefix path (pathVariable modelPrefix path) :=
  ⟨[], by simp [Unseparated], by rw [List.append_nil]⟩

theorem Below.of_append {more : List Str} (h : Below modelPrefix (path ++ more) v)
    (hmore : Unseparated more) : Below modelPrefix path v := by
  obtain ⟨tail, htail, rfl⟩ := h
  exact ⟨more ++ tail, unseparated_append.mpr ⟨hmore, htail⟩, by rw [List.append_assoc]⟩

theorem BelowEither.of_append {more : List Str} (h : BelowEither modelPrefix (path ++ more) v)
    (hmore : Unseparated more) : BelowEither modelPrefix path v := by
  rcases h with h | h
  · exact Or.inl (h.of_append hmore)
  · have hsetpoint : Below modelPrefix (SE :: path ++ more) v := h
    exact Or.inr (hsetpoint.of_append hmore)

/-- What stands below two paths has a path that goes on from both. -/
theorem Below.common {path' : List Str} (h : Below modelPrefix path v)
    (h' : Below modelPrefix path' v) (hpath : Unseparated path) (hpath' : Unseparated path') :
    ∃ tail tail', path ++ tail = path' ++ tail' := by
  obtain ⟨tail, htail, rfl⟩ := h
  obtain ⟨tail', htail', hsame⟩ := h'
  exact ⟨tail, tail', pathVariable_inj (unseparated_append.mpr ⟨hpath, htail⟩)
    (unseparated_append.mpr ⟨hpath', htail'⟩) hsame⟩

/-- No variable stands below a component that follows its own path. -/
theorem not_below_component {name : Str} (hpath : Unseparated path) (hname : '_' ∉ name) :
    ¬ Below modelPrefix (path ++ [name]) (pathVariable modelPrefix path) := by
  rintro ⟨more, hmore, hvariable⟩
  have hlonger : Unseparated (path ++ [name] ++ more) :=
    unseparated_append.mpr
      ⟨unseparated_append.mpr ⟨hpath, unseparated_singleton.mpr hname⟩, hmore⟩
  have hlength := congrArg List.length (pathVariable_inj hpath hlonger hvariable)
  simp only [List.length_append, List.length_singleton] at hlength
  omega

end Below

/-! ## The variables of attributes -/

section Attributes

variable {modelPrefix v : Str} {rt : Runtime} {isTransient : Bool} {path : List Str}
  {das : List DataAttribute}

/-- The attributes of a parent hand their constraints down. -/
def HandDown (das : List DataAttribute) : Prop := ∀ da ∈ das, FcInherited da ∧ da.fc ≠ []

theorem HandDown.sub {da : DataAttribute} (h : FcInherited da ∧ da.fc ≠ []) :
    HandDown da.subDataAttributes ∧ ∀ sub ∈ da.subDataAttributes, sub.fc = da.fc := by
  have hfc : ∀ sub ∈ da.subDataAttributes, sub.fc = da.fc := fun sub hsub => h.1.fc h.2 hsub
  exact ⟨fun sub hsub => ⟨h.1.sub hsub, hfc sub hsub ▸ h.2⟩, hfc⟩

theorem setpointPath_append (fc : Str) (path more : List Str) :
    setpointPath fc (setpointPath fc path ++ more) = setpointPath fc path ++ more := by
  by_cases hfc : fc = SE
  · subst hfc
    apply setpointPath_of_head
    obtain ⟨rest, hrest⟩ := List.head?_eq_some_iff.mp (@head?_setpointPath_SE path)
    rw [hrest]
    rfl
  · rw [setpointPath_of_ne hfc]

theorem attributeVariable_eq (hlength : modelPrefix.length = 8) (hpath : Unseparated path)
    (hdepth : 1 ≤ path.length) {da : DataAttribute} (hname : '_' ∉ da.name) :
    setpointVariable (mangleSE modelPrefix) da.fc
        (joinName (pathVariable modelPrefix path) da.name) =
      pathVariable modelPrefix (setpointPath da.fc (path ++ [da.name])) := by
  rw [joinName_pathVariable]
  apply setpointVariable_pathVariable hlength
  · exact unseparated_append.mpr ⟨hpath, unseparated_singleton.mpr hname⟩
  · rw [List.length_append, List.length_singleton]
    omega

/-- The variables of sub attributes stand each below one of them, wherever the sub
attributes are placed below the given path. -/
def SubAttributesBelow (modelPrefix : Str) (rt : Runtime) (isTransient : Bool)
    (path : List Str) (das : List DataAttribute) : Prop :=
  ∀ more, Unseparated more → ∀ v ∈ namesOf (namedAttributes (mangleSE modelPrefix) rt
    isTransient (pathVariable modelPrefix (path ++ more)) das),
    ∃ da ∈ das, Below modelPrefix (path ++ more ++ [da.name]) v

/-- What is defined below an attribute has a further component. -/
theorem exists_component_of_mem_children {da : DataAttribute}
    (hnames : ∀ sub ∈ da.subDataAttributes, '_' ∉ sub.name)
    (hsubs : SubAttributesBelow modelPrefix rt isTransient path da.subDataAttributes)
    (hv : v ∈ namesOf (namedChildren (mangleSE modelPrefix) rt isTransient
      (pathVariable modelPrefix path) da)) :
    ∃ name, '_' ∉ name ∧ Below modelPrefix (path ++ [name]) v := by
  rw [namesOf_namedChildren] at hv
  split at hv
  next =>
    obtain ⟨idx, -, hv⟩ := List.mem_flatMap.mp hv
    have hindex := underscore_not_mem_itoa idx
    refine ⟨itoa idx, hindex, ?_⟩
    rw [joinName_pathVariable, List.mem_cons] at hv
    rcases hv with rfl | hv
    · exact below_self ..
    · obtain ⟨sub, hsub, h⟩ := hsubs [itoa idx] (unseparated_singleton.mpr hindex) v hv
      exact h.of_append (unseparated_singleton.mpr (hnames sub hsub))
  next =>
    obtain ⟨sub, hsub, h⟩ := hsubs [] (by simp [Unseparated]) v (by rwa [List.append_nil])
    rw [List.append_nil] at h
    exact ⟨sub.name, hnames sub hsub, h⟩

/-- Each variable that is defined for the attributes of a parent stands below one of
them. -/
theorem exists_below_of_mem_attributes (hlength : modelPrefix.length = 8)
    (hhand : HandDown das) (hdistinct : DistinctAttributes das) (hpath : Unseparated path)
    (hdepth : 1 ≤ path.length)
    (hv : v ∈ namesOf (namedAttributes (mangleSE modelPrefix) rt isTransient
      (pathVariable modelPrefix path) das)) :
    ∃ da ∈ das, Below modelPrefix (setpointPath da.fc (path ++ [da.name])) v := by
  induction das using dataAttribute_induction generalizing path v with
  | nil => simp [namesOf] at hv
  | cons da rest ihm ihr =>
      obtain ⟨hda, hrest⟩ := List.forall_mem_cons.mp hhand
      obtain ⟨hsubs, hfc⟩ := HandDown.sub hda
      obtain ⟨hname, -, hdistinctSubs, hdistinctRest⟩ := distinctAttributes_cons.mp hdistinct
      rw [namedAttributes_cons, namesOf_cons, attributeVariable_eq hlength hpath hdepth hname,
        List.mem_cons, List.mem_append] at hv
      have hown : Unseparated (setpointPath da.fc (path ++ [da.name])) :=
        unseparated_setpointPath
          (unseparated_append.mpr ⟨hpath, unseparated_singleton.mpr hname⟩)
      have hownDepth := length_le_setpointPath da.fc (path ++ [da.name])
      rw [List.length_append, List.length_singleton] at hownDepth
      rcases hv with rfl | hv | hv
      · exact ⟨da, List.mem_cons_self, below_self ..⟩
      · have hbelow : SubAttributesBelow modelPrefix rt isTransient
            (setpointPath da.fc (path ++ [da.name])) da.subDataAttributes := by
          intro more hmore w hw
          obtain ⟨sub, hsub, h⟩ := ihm hsubs hdistinctSubs (unseparated_append.mpr ⟨hown, hmore⟩)
            (by rw [List.length_append]; omega) hw
          -- a sub attribute keeps the constraint, so that nothing is inserted again
          rw [hfc sub hsub, List.append_assoc, setpointPath_append] at h
          exact ⟨sub, hsub, by rwa [List.append_assoc]⟩
        obtain ⟨name, hplain, h⟩ :=
          exists_component_of_mem_children hdistinctSubs.unseparated hbelow hv
        exact ⟨da, List.mem_cons_self, h.of_append (unseparated_singleton.mpr hplain)⟩
      · obtain ⟨other, hother, h⟩ := ihr hrest hdistinctRest hpath hdepth hv
        exact ⟨other, List.mem_cons_of_mem _ hother, h⟩

theorem subAttributesBelow (hlength : modelPrefix.length = 8) {da : DataAttribute}
    (hda : FcInherited da ∧ da.fc ≠ []) (hdistinct : DistinctAttributes da.subDataAttributes)
    (hpath : Unseparated (setpointPath da.fc path)) (hdepth : 1 ≤ path.length) :
    SubAttributesBelow modelPrefix rt isTransient (setpointPath da.fc path)
      da.subDataAttributes := by
  obtain ⟨hsubs, hfc⟩ := HandDown.sub hda
  intro more hmore w hw
  have hle := length_le_setpointPath da.fc path
  obtain ⟨sub, hsub, h⟩ := exists_below_of_mem_attributes hlength hsubs hdistinct
    (unseparated_append.mpr ⟨hpath, hmore⟩) (by rw [List.length_append]; omega) hw
  rw [hfc sub hsub, List.append_assoc, setpointPath_append] at h
  exact ⟨sub, hsub, by rwa [List.append_assoc]⟩

/-- Below an editable setpoint all attributes are such. -/
def SettledAt (path : List Str) (das : List DataAttribute) : Prop :=
  path.head? = some SE → ∀ da ∈ das, da.fc = SE

/-- Attributes of one parent whose variables go on from one path have one name, and both
are editable or neither is. -/
theorem setpointPath_inj {fc fc' name name' : Str} {tail tail' : List Str} (hdepth : path ≠ [])
    (hsettled : path.head? = some SE → fc = SE ∧ fc' = SE)
    (h : setpointPath fc (path ++ [name]) ++ tail = setpointPath fc' (path ++ [name']) ++ tail') :
    name = name' ∧ (fc = SE ↔ fc' = SE) := by
  have hhead : ∀ n : Str, (path ++ [n]).head? = path.head? := fun n =>
    List.head?_append_of_ne_nil path hdepth
  have hnext : path ++ [name] ++ tail = path ++ [name'] ++ tail' → name = name' := by
    intro hsame
    rw [List.append_assoc, List.append_assoc] at hsame
    exact (List.cons.inj (List.append_cancel_left hsame)).1
  have hmixed : ∀ {n n' : Str} {t t' : List Str}, path.head? ≠ some SE →
      SE :: (path ++ [n]) ++ t ≠ path ++ [n'] ++ t' := by
    intro n n' t t' hne hsame
    have hheads := congrArg List.head? hsame
    rw [List.append_assoc path, List.head?_append_of_ne_nil path hdepth] at hheads
    exact hne hheads.symm
  by_cases hpath : path.head? = some SE
  · obtain ⟨hfc, hfc'⟩ := hsettled hpath
    rw [setpointPath_of_head ((hhead name).trans hpath),
      setpointPath_of_head ((hhead name').trans hpath)] at h
    exact ⟨hnext h, by simp [hfc, hfc']⟩
  · unfold setpointPath at h
    rw [hhead, hhead] at h
    by_cases hfc : fc = SE
    · by_cases hfc' : fc' = SE
      · rw [if_pos ⟨hfc, hpath⟩, if_pos ⟨hfc', hpath⟩] at h
        exact ⟨hnext (List.cons.inj h).2, by simp [hfc, hfc']⟩
      · rw [if_pos ⟨hfc, hpath⟩, if_neg fun hand => hfc' hand.1] at h
        exact absurd h (hmixed hpath)
    · by_cases hfc' : fc' = SE
      · rw [if_neg fun hand => hfc hand.1, if_pos ⟨hfc', hpath⟩] at h
        exact absurd h.symm (hmixed hpath)
      · rw [if_neg fun hand => hfc hand.1, if_neg fun hand => hfc' hand.1] at h
        exact ⟨hnext h, by simp [hfc, hfc']⟩

/-- The variables of different components of one path are different. -/
theorem disjoint_of_component {names names' : List Str} {name name' : Str}
    (hpath : Unseparated path) (hname : '_' ∉ name) (hname' : '_' ∉ name') (hne : name ≠ name')
    (hnames : ∀ v ∈ names, Below modelPrefix (path ++ [name]) v)
    (hnames' : ∀ v ∈ names', Below modelPrefix (path ++ [name']) v) :
    names.Disjoint names' := by
  intro v hv hv'
  obtain ⟨tail, tail', hsame⟩ := (hnames v hv).common (hnames' v hv')
    (unseparated_append.mpr ⟨hpath, unseparated_singleton.mpr hname⟩)
    (unseparated_append.mpr ⟨hpath, unseparated_singleton.mpr hname'⟩)
  rw [List.append_assoc, List.append_assoc] at hsame
  exact hne (List.cons.inj (List.append_cancel_left hsame)).1

theorem nodup_namedChildren {da : DataAttribute} (hpath : Unseparated path)
    (hnames : ∀ sub ∈ da.subDataAttributes, '_' ∉ sub.name)
    (hsubs : SubAttributesBelow modelPrefix rt isTransient path da.subDataAttributes)
    (hnodup : ∀ more, Unseparated more → (namesOf (namedAttributes (mangleSE modelPrefix) rt
      isTransient (pathVariable modelPrefix (path ++ more)) da.subDataAttributes)).Nodup) :
    (namesOf (namedChildren (mangleSE modelPrefix) rt isTransient
      (pathVariable modelPrefix path) da)).Nodup := by
  rw [namesOf_namedChildren]
  split
  next =>
    have hindex : ∀ idx, Unseparated [itoa idx] := fun idx =>
      unseparated_singleton.mpr (underscore_not_mem_itoa idx)
    have helement : ∀ idx, Unseparated (path ++ [itoa idx]) := fun idx =>
      unseparated_append.mpr ⟨hpath, hindex idx⟩
    simp only [joinName_pathVariable]
    rw [List.nodup_flatMap]
    constructor
    · intro idx _
      refine List.nodup_cons.mpr ⟨fun hmem => ?_, hnodup _ (hindex idx)⟩
      obtain ⟨sub, hsub, h⟩ := hsubs _ (hindex idx) _ hmem
      exact not_below_component (helement idx) (hnames sub hsub) h
    · apply List.nodup_range.imp
      intro idx idx' hne
      have hbelow : ∀ i, ∀ v ∈ pathVariable modelPrefix (path ++ [itoa i]) ::
          namesOf (namedAttributes (mangleSE modelPrefix) rt isTransient
            (pathVariable modelPrefix (path ++ [itoa i])) da.subDataAttributes),
          Below modelPrefix (path ++ [itoa i]) v := by
        intro i v hv
        rcases List.mem_cons.mp hv with rfl | hv
        · exact below_self ..
        · obtain ⟨sub, hsub, h⟩ := hsubs _ (hindex i) _ hv
          exact h.of_append (unseparated_singleton.mpr (hnames sub hsub))
      exact disjoint_of_component hpath (underscore_not_mem_itoa idx)
        (underscore_not_mem_itoa idx') (fun h => hne (itoa_injective h)) (hbelow idx) (hbelow idx')
  next =>
    have hplain := hnodup [] (by simp [Unseparated])
    rwa [List.append_nil] at hplain

/-- Distinct attributes are defined under distinct variables. -/
theorem nodup_namedAttributes (hlength : modelPrefix.length = 8) (hhand : HandDown das)
    (hdistinct : DistinctAttributes das) (hpath : Unseparated path) (hdepth : 1 ≤ path.length)
    (hsettled : SettledAt path das) :
    (namesOf (namedAttributes (mangleSE modelPrefix) rt isTransient
      (pathVariable modelPrefix path) das)).Nodup := by
  induction das using dataAttribute_induction generalizing path with
  | nil => simp [namesOf]
  | cons da rest ihm ihr =>
      obtain ⟨hda, hrest⟩ := List.forall_mem_cons.mp hhand
      obtain ⟨hsubs, hfc⟩ := HandDown.sub hda
      obtain ⟨hname, hothers, hdistinctSubs, hdistinctRest⟩ :=
        distinctAttributes_cons.mp hdistinct
      have hne : path ≠ [] := List.length_pos_iff.mp hdepth
      have hown : Unseparated (setpointPath da.fc (path ++ [da.name])) :=
        unseparated_setpointPath
          (unseparated_append.mpr ⟨hpath, unseparated_singleton.mpr hname⟩)
      have hownDepth := length_le_setpointPath da.fc (path ++ [da.name])
      rw [List.length_append, List.length_singleton] at hownDepth
      have hbelow : SubAttributesBelow modelPrefix rt isTransient
          (setpointPath da.fc (path ++ [da.name])) da.subDataAttributes :=
        subAttributesBelow hlength hda hdistinctSubs hown (by simp)
      have hchildren : ∀ v ∈ namesOf (namedChildren (mangleSE modelPrefix) rt isTransient
          (pathVariable modelPrefix (setpointPath da.fc (path ++ [da.name]))) da),
          ∃ name, '_' ∉ name ∧
            Below modelPrefix (setpointPath da.fc (path ++ [da.name]) ++ [name]) v :=
        fun v hv => exists_component_of_mem_children hdistinctSubs.unseparated hbelow hv
      -- what stands below another attribute does not stand below this one
      have hapart : ∀ v, Below modelPrefix (setpointPath da.fc (path ++ [da.name])) v →
          v ∉ namesOf (namedAttributes (mangleSE modelPrefix) rt isTransient
            (pathVariable modelPrefix path) rest) := by
        intro v hv hmem
        obtain ⟨other, hother, hv'⟩ :=
          exists_below_of_mem_attributes hlength hrest hdistinctRest hpath hdepth hmem
        have hplain := unseparated_singleton.mpr (hdistinctRest.unseparated other hother)
        obtain ⟨tail, tail', hsame⟩ := hv.common hv' hown
          (unseparated_setpointPath (unseparated_append.mpr ⟨hpath, hplain⟩))
        obtain ⟨hnames, hflags⟩ := setpointPath_inj hne (fun hhead =>
          ⟨hsettled hhead da List.mem_cons_self,
            hsettled hhead other (List.mem_cons_of_mem _ hother)⟩) hsame
        exact hothers other hother hnames.symm hflags.symm
      rw [namedAttributes_cons, namesOf_cons, attributeVariable_eq hlength hpath hdepth hname,
        List.nodup_cons, List.mem_append, List.nodup_append']
      refine ⟨?_, ?_, ?_, ?_⟩
      · rintro (hmem | hmem)
        · obtain ⟨name, hplain, h⟩ := hchildren _ hmem
          exact not_below_component hown hplain h
        · exact hapart _ (below_self ..) hmem
      · apply nodup_namedChildren hown hdistinctSubs.unseparated hbelow
        intro more hmore
        apply ihm hsubs hdistinctSubs (unseparated_append.mpr ⟨hown, hmore⟩)
        · rw [List.length_append]
          omega
        · intro hhead sub hsub
          rw [hfc sub hsub]
          by_contra hse
          rw [setpointPath_of_ne hse, List.append_assoc,
            List.head?_append_of_ne_nil path hne] at hhead
          exact hse (hsettled hhead da List.mem_cons_self)
      · apply ihr hrest hdistinctRest hpath hdepth
        exact fun hhead other hother => hsettled hhead other (List.mem_cons_of_mem _ hother)
      · intro v hv hmem
        obtain ⟨name, hplain, h⟩ := hchildren v hv
        exact hapart v (h.of_append (unseparated_singleton.mpr hplain)) hmem

end Attributes

/-! ## The variables of data objects -/

section Objects

variable {modelPrefix v : Str} {rt : Runtime} {isTransient : Bool} {path : List Str}
  {nodes : List DataObject}

theorem Below.either {fc : Str} (h : Below modelPrefix (setpointPath fc path) v) :
    BelowEither modelPrefix path v := by
  unfold setpointPath at h
  split at h
  next => exact Or.inr h
  next => exact Or.inl h

theorem not_belowEither_component {name : Str} (hpath : Unseparated path) (hname : '_' ∉ name) :
    ¬ BelowEither modelPrefix (path ++ [name]) (pathVariable modelPrefix path) := by
  rintro (h | h)
  · exact not_below_component hpath hname h
  · obtain ⟨more, hmore, hvariable⟩ := h
    have hlonger : Unseparated (SE :: (path ++ [name]) ++ more) :=
      unseparated_append.mpr ⟨unseparated_append.mpr ⟨unseparated_SE,
        unseparated_append.mpr ⟨hpath, unseparated_singleton.mpr hname⟩⟩, hmore⟩
    have hlength := congrArg List.length (pathVariable_inj hpath hlonger hvariable)
    simp only [List.length_append, List.length_cons] at hlength
    omega

/-- What stands below two paths, neither of which is that of a setpoint, has a path that
goes on from both. -/
theorem BelowEither.common {path' : List Str} (h : BelowEither modelPrefix path v)
    (h' : BelowEither modelPrefix path' v) (hpath : Unseparated path)
    (hpath' : Unseparated path') (hne : path ≠ []) (hne' : path' ≠ [])
    (hhead : path.head? ≠ some SE) (hhead' : path'.head? ≠ some SE) :
    ∃ tail tail', path ++ tail = path' ++ tail' := by
  have hcons : ∀ {p : List Str}, Unseparated p → Unseparated (SE :: p) := fun hp =>
    unseparated_append.mpr ⟨unseparated_SE, hp⟩
  rcases h with h | h
  · rcases h' with h' | h'
    · exact h.common h' hpath hpath'
    · obtain ⟨tail, tail', hsame⟩ := h.common h' hpath (hcons hpath')
      have hheads := congrArg List.head? hsame
      rw [List.head?_append_of_ne_nil _ hne] at hheads
      exact absurd hheads hhead
  · rcases h' with h' | h'
    · obtain ⟨tail, tail', hsame⟩ := h.common h' (hcons hpath) hpath'
      have hheads := congrArg List.head? hsame
      rw [List.head?_append_of_ne_nil path' hne'] at hheads
      exact absurd hheads.symm hhead'
    · obtain ⟨tail, tail', hsame⟩ := h.common h' (hcons hpath) (hcons hpath')
      exact ⟨tail, tail', (List.cons.inj hsame).2⟩

/-- Components of one path that lead to one variable are the same. -/
theorem BelowEither.component_eq {name name' : Str}
    (h : BelowEither modelPrefix (path ++ [name]) v)
    (h' : BelowEither modelPrefix (path ++ [name']) v) (hpath : Unseparated path)
    (hname : '_' ∉ name) (hname' : '_' ∉ name') (hhead : (path ++ [name]).head? ≠ some SE)
    (hhead' : (path ++ [name']).head? ≠ some SE) : name = name' := by
  obtain ⟨tail, tail', hsame⟩ := h.common h'
    (unseparated_append.mpr ⟨hpath, unseparated_singleton.mpr hname⟩)
    (unseparated_append.mpr ⟨hpath, unseparated_singleton.mpr hname'⟩) (by simp) (by simp)
    hhead hhead'
  rw [List.append_assoc, List.append_assoc] at hsame
  exact (List.cons.inj (List.append_cancel_left hsame)).1

/-- The attributes of data objects hand their constraints down. -/
def ObjectsHandDown (nodes : List DataObject) : Prop :=
  ∀ node ∈ nodes, node.AllAttributes fun da => FcInherited da ∧ da.fc ≠ []

/-- Each variable that is defined for the data objects of a parent stands below one of
them. -/
theorem exists_below_of_mem_objects (hlength : modelPrefix.length = 8)
    (hhand : ObjectsHandDown nodes) (hdistinct : DistinctObjects nodes)
    (hpath : Unseparated path) (hdepth : 1 ≤ path.length)
    (hv : v ∈ namesOf (namedObjects (mangleSE modelPrefix) rt isTransient
      (pathVariable modelPrefix path) nodes)) :
    ∃ node ∈ nodes, BelowEither modelPrefix (path ++ [node.name]) v := by
  induction nodes using dataObject_induction generalizing isTransient path v with
  | nil => simp [namesOf] at hv
  | cons node rest ihm ihr =>
      obtain ⟨hnode, hrest⟩ := List.forall_mem_cons.mp hhand
      obtain ⟨hname, -, hmembers, hdistinctRest⟩ := distinctObjects_cons.mp hdistinct
      obtain ⟨-, hattributes, hobjects⟩ := node.distinct_iff.mp hmembers
      have hown : Unseparated (path ++ [node.name]) :=
        unseparated_append.mpr ⟨hpath, unseparated_singleton.mpr hname⟩
      rw [namedObjects_cons, namesOf_cons, namesOf_append, joinName_pathVariable,
        List.mem_cons, List.mem_append, List.mem_append] at hv
      rcases hv with rfl | (hv | hv) | hv
      · exact ⟨node, List.mem_cons_self, Or.inl (below_self ..)⟩
      · obtain ⟨sub, hsub, h⟩ := ihm hnode.objects hobjects hown (by simp) hv
        exact ⟨node, List.mem_cons_self,
          h.of_append (unseparated_singleton.mpr (hobjects.unseparated sub hsub))⟩
      · obtain ⟨da, hda, h⟩ := exists_below_of_mem_attributes hlength hnode.attributes
          hattributes hown (by simp) hv
        exact ⟨node, List.mem_cons_self,
          h.either.of_append (unseparated_singleton.mpr (hattributes.unseparated da hda))⟩
      · obtain ⟨other, hother, h⟩ := ihr hrest hdistinctRest hpath hdepth hv
        exact ⟨other, List.mem_cons_of_mem _ hother, h⟩

/-- Distinct data objects are defined under distinct variables. -/
theorem nodup_namedObjects (hlength : modelPrefix.length = 8)
    (hhand : ObjectsHandDown nodes) (hdistinct : DistinctObjects nodes)
    (hpath : Unseparated path) (hdepth : 1 ≤ path.length) (hhead : path.head? ≠ some SE) :
    (namesOf (namedObjects (mangleSE modelPrefix) rt isTransient
      (pathVariable modelPrefix path) nodes)).Nodup := by
  induction nodes using dataObject_induction generalizing isTransient path with
  | nil => simp [namesOf]
  | cons node rest ihm ihr =>
      obtain ⟨hnode, hrest⟩ := List.forall_mem_cons.mp hhand
      obtain ⟨hname, hothers, hmembers, hdistinctRest⟩ := distinctObjects_cons.mp hdistinct
      obtain ⟨hunlike, hattributes, hobjects⟩ := node.distinct_iff.mp hmembers
      have hown : Unseparated (path ++ [node.name]) :=
        unseparated_append.mpr ⟨hpath, unseparated_singleton.mpr hname⟩
      have hheads : ∀ more, (path ++ more).head? ≠ some SE := by
        intro more
        rwa [List.head?_append_of_ne_nil _ (List.length_pos_iff.mp hdepth)]
      have hsubs : ∀ v ∈ namesOf (namedObjects (mangleSE modelPrefix) rt
          (isTransient || node.trans) (pathVariable modelPrefix (path ++ [node.name]))
          node.subDataObjects), ∃ sub ∈ node.subDataObjects,
          BelowEither modelPrefix (path ++ [node.name] ++ [sub.name]) v := fun v hv =>
        exists_below_of_mem_objects hlength hnode.objects hobjects hown (by simp) hv
      have hdas : ∀ v ∈ namesOf (namedAttributes (mangleSE modelPrefix) rt
          (isTransient || node.trans) (pathVariable modelPrefix (path ++ [node.name]))
          node.dataAttributes), ∃ da ∈ node.dataAttributes,
          BelowEither modelPrefix (path ++ [node.name] ++ [da.name]) v := by
        intro v hv
        obtain ⟨da, hda, h⟩ := exists_below_of_mem_attributes hlength hnode.attributes
          hattributes hown (by simp) hv
        exact ⟨da, hda, h.either⟩
      -- what stands below another data object does not stand below this one
      have hapart : ∀ v, BelowEither modelPrefix (path ++ [node.name]) v →
          v ∉ namesOf (namedObjects (mangleSE modelPrefix) rt isTransient
            (pathVariable modelPrefix path) rest) := by
        intro v hv hmem
        obtain ⟨other, hother, hv'⟩ :=
          exists_below_of_mem_objects hlength hrest hdistinctRest hpath hdepth hmem
        exact hothers other hother (hv'.component_eq hv hpath
          (hdistinctRest.unseparated other hother) hname (hheads _) (hheads _))
      rw [namedObjects_cons, namesOf_cons, namesOf_append, joinName_pathVariable,
        List.nodup_cons, List.mem_append, List.mem_append, List.nodup_append',
        List.nodup_append']
      refine ⟨?_, ⟨?_, ?_, ?_⟩, ?_, ?_⟩
      · rintro ((hmem | hmem) | hmem)
        · obtain ⟨sub, hsub, h⟩ := hsubs _ hmem
          exact not_belowEither_component hown (hobjects.unseparated sub hsub) h
        · obtain ⟨da, hda, h⟩ := hdas _ hmem
          exact not_belowEither_component hown (hattributes.unseparated da hda) h
        · exact hapart _ (Or.inl (below_self ..)) hmem
      · exact ihm hnode.objects hobjects hown (by simp) (hheads _)
      · exact nodup_namedAttributes hlength hnode.attributes hattributes hown (by simp)
          fun hsettled => absurd hsettled (hheads _)
      · intro v hv hv'
        obtain ⟨sub, hsub, h⟩ := hsubs v hv
        obtain ⟨da, hda, h'⟩ := hdas v hv'
        apply hunlike sub hsub da hda
        apply h.component_eq h' hown (hobjects.unseparated sub hsub)
          (hattributes.unseparated da hda)
        · rw [List.append_assoc]
          exact hheads _
        · rw [List.append_assoc]
          exact hheads _
      · exact ihr hrest hdistinctRest hpath hdepth hhead
      · intro v hv hmem
        rcases List.mem_append.mp hv with hv | hv
        · obtain ⟨sub, hsub, h⟩ := hsubs v hv
          exact hapart v
            (h.of_append (unseparated_singleton.mpr (hobjects.unseparated sub hsub))) hmem
        · obtain ⟨da, hda, h⟩ := hdas v hv
          exact hapart v
            (h.of_append (unseparated_singleton.mpr (hattributes.unseparated da hda))) hmem

end Objects

end Iec61850.Scl
