import Iec61850.PointerGraph
import Mathlib.Data.List.Nodup

/-!
# The attributes of a data object by name and constraint

`createDataAttributes` adds the attributes of one definition after the other.
A definition of constraint SE adds an SG and an SE attribute, and the SE one
takes the place of an SP attribute of its name that is already there.  What
becomes of the names and constraints is followed without the attributes.
-/

namespace Iec61850.Scl

open Go

/-! ## Names and constraints -/

def DataAttribute.pair (da : DataAttribute) : Str × Str := (da.name, da.fc)

def DataAttributeDefinition.pair (d : DataAttributeDefinition) : Str × Str := (d.name, d.fc)

def addPair (pairs : List (Str × Str)) (added : Str × Str) : List (Str × Str) :=
  if added.2 = lit "SE" ∧ (added.1, lit "SP") ∈ pairs then
    pairs.replace (added.1, lit "SP") added
  else pairs ++ [added]

/-- What one definition adds. -/
def addDefinition (pairs : List (Str × Str)) (d : Str × Str) : List (Str × Str) :=
  addPair (if d.2 = lit "SE" then pairs ++ [(d.1, lit "SG")] else pairs) d

theorem replaceSetpoint_pair (added : DataAttribute) (attributes : List DataAttribute) :
    (replaceSetpoint added attributes).map (List.map DataAttribute.pair) =
      if added.fc = lit "SE" ∧ (added.name, lit "SP") ∈ attributes.map DataAttribute.pair then
        some ((attributes.map DataAttribute.pair).replace (added.name, lit "SP") added.pair)
      else none := by
  have hapart : lit "SP" ≠ lit "SG" := by decide
  induction attributes with
  | nil => simp [replaceSetpoint]
  | cons da rest ih =>
      rw [replaceSetpoint]
      by_cases hda : da.fc ≠ lit "SG" ∧ da.name = added.name ∧ da.fc = lit "SP" ∧
          added.fc = lit "SE"
      · obtain ⟨-, hname, hfc, hse⟩ := hda
        have hpair : da.pair = (added.name, lit "SP") := by rw [DataAttribute.pair, hname, hfc]
        simp [hname, hfc, hse, hpair, hapart]
      · rw [if_neg hda, Option.map_map]
        have hcons : List.map DataAttribute.pair ∘ (da :: ·) =
            (da.pair :: ·) ∘ List.map DataAttribute.pair := rfl
        rw [hcons, ← Option.map_map, ih]
        by_cases hse : added.fc = lit "SE"
        · have hpair : (added.name, lit "SP") ≠ da.pair := by
            intro hpair
            obtain ⟨hname, hfc⟩ := Prod.mk.inj hpair
            exact hda ⟨hfc ▸ hapart, hname.symm, hfc.symm, hse⟩
          have hmem : (added.name, lit "SP") ∈ (da :: rest).map DataAttribute.pair ↔
              (added.name, lit "SP") ∈ rest.map DataAttribute.pair := by
            rw [List.map_cons, List.mem_cons, or_iff_right hpair]
          have hreplace : ((da :: rest).map DataAttribute.pair).replace
              (added.name, lit "SP") added.pair =
              da.pair :: (rest.map DataAttribute.pair).replace (added.name, lit "SP")
                added.pair := by
            rw [List.map_cons, List.replace_cons, beq_false_of_ne hpair]
          simp only [hmem, hreplace]
          split
          next => rfl
          next => rfl
        · rw [if_neg (fun h => hse h.1), if_neg (fun h => hse h.1)]
          rfl

theorem addDataAttribute_pair (attributes : List DataAttribute) (added : DataAttribute) :
    (addDataAttribute attributes added).map DataAttribute.pair =
      addPair (attributes.map DataAttribute.pair) added.pair := by
  have hreplace := replaceSetpoint_pair added attributes
  unfold addDataAttribute addPair
  by_cases hse : added.fc = lit "SE" ∧
      (added.name, lit "SP") ∈ attributes.map DataAttribute.pair
  · rw [if_pos hse] at hreplace
    obtain ⟨replaced, hreplaced, hmap⟩ := Option.map_eq_some_iff.mp hreplace
    rw [hreplaced, if_pos (show added.pair.2 = lit "SE" ∧
      (added.pair.1, lit "SP") ∈ attributes.map DataAttribute.pair from hse)]
    exact hmap
  · rw [if_neg hse] at hreplace
    have hnone : replaceSetpoint added attributes = none := by simpa using hreplace
    rw [hnone, if_neg (show ¬ (added.pair.2 = lit "SE" ∧
      (added.pair.1, lit "SP") ∈ attributes.map DataAttribute.pair) from hse)]
    simp

variable {templates : DataTypeTemplates} {n : ℕ}

theorem newDataAttribute_name {d : DataAttributeDefinition} {fc : Str} {parent : ParentNode}
    {da : DataAttribute} (h : newDataAttribute templates n d fc parent = .ok da) :
    da.name = d.name := by
  obtain ⟨_, _, rfl⟩ := newDataAttribute_shape h
  rfl

theorem createDataAttribute_pair {d : DataAttributeDefinition}
    {attributes after : List DataAttribute}
    (h : createDataAttribute (newDataAttribute templates n) attributes d = .ok after) :
    after.map DataAttribute.pair =
      addDefinition (attributes.map DataAttribute.pair) d.pair := by
  have hpair : ∀ fc da, newDataAttribute templates n d fc .dataObject = .ok da →
      da.pair = (d.name, attributeFc d.fc fc) := by
    intro fc da hda
    rw [DataAttribute.pair, newDataAttribute_name hda, newDataAttribute_fc hda]
  unfold createDataAttribute at h
  unfold addDefinition
  by_cases hse : d.fc = lit "SE"
  · rw [if_pos hse] at h
    obtain ⟨twin, htwin, h⟩ := bind_eq_ok.mp h
    obtain ⟨added, hadded, h⟩ := bind_eq_ok.mp h
    obtain rfl := Except.ok.inj h
    have hsg : twin.pair = (d.name, lit "SG") := hpair _ _ htwin
    rw [addDataAttribute_pair, List.map_append, List.map_singleton, hpair _ _ hadded, hsg,
      if_pos (show d.pair.2 = lit "SE" from hse)]
    rfl
  · rw [if_neg hse] at h
    obtain ⟨added, hadded, h⟩ := bind_eq_ok.mp h
    obtain rfl := Except.ok.inj h
    rw [addDataAttribute_pair, hpair _ _ hadded, if_neg (show ¬ d.pair.2 = lit "SE" from hse)]
    rfl

/-- The names and constraints of a data object are those of its definitions, one after
the other. -/
theorem createDataAttributes_pair {sclType : SclType} {attributes : List DataAttribute}
    (h : createDataAttributes (newDataAttribute templates n) sclType = .ok attributes) :
    attributes.map DataAttribute.pair =
      (sclType.daDefinitions.map DataAttributeDefinition.pair).foldl addDefinition [] := by
  have hfold : ∀ (ds : List DataAttributeDefinition) (before after : List DataAttribute),
      ds.foldlM (createDataAttribute (newDataAttribute templates n)) before = .ok after →
      after.map DataAttribute.pair =
        (ds.map DataAttributeDefinition.pair).foldl addDefinition
          (before.map DataAttribute.pair) := by
    intro ds
    induction ds with
    | nil =>
        intro before after h
        obtain rfl := Except.ok.inj h
        rfl
    | cons d ds ih =>
        intro before after h
        rw [List.foldlM_cons] at h
        obtain ⟨between, hbetween, hrest⟩ := bind_eq_ok.mp h
        rw [ih between after hrest, createDataAttribute_pair hbetween, List.map_cons,
          List.foldl_cons]
  exact hfold _ _ _ h

/-! ## Definitions without a conflict -/

/-- What a definition stands for. -/
def standsFor (d : Str × Str) : List (Str × Str) :=
  if d.2 = lit "SE" then [(d.1, lit "SG"), d] else [d]

/-- No name has a definition of constraint SE and one of constraint SG or SP. -/
def NoSetpointConflict (ds : List (Str × Str)) : Prop :=
  ∀ d ∈ ds, d.2 = lit "SE" → (d.1, lit "SG") ∉ ds ∧ (d.1, lit "SP") ∉ ds

theorem mem_standsFor {d pair : Str × Str} (h : pair ∈ standsFor d) :
    pair = d ∨ d.2 = lit "SE" ∧ pair = (d.1, lit "SG") := by
  unfold standsFor at h
  split at h
  next hse =>
    rcases List.mem_cons.mp h with rfl | h
    · exact Or.inr ⟨hse, rfl⟩
    · exact Or.inl (List.mem_singleton.mp h)
  next => exact Or.inl (List.mem_singleton.mp h)

/-- Without a conflict nothing is replaced. -/
theorem foldl_addDefinition_of_no_conflict {ds pairs : List (Str × Str)}
    (hds : NoSetpointConflict ds)
    (hpairs : ∀ d ∈ ds, d.2 = lit "SE" → (d.1, lit "SP") ∉ pairs) :
    ds.foldl addDefinition pairs = pairs ++ ds.flatMap standsFor := by
  have hapart : lit "SG" ≠ lit "SP" := by decide
  induction ds generalizing pairs with
  | nil => simp
  | cons d ds ih =>
      have hstep : addDefinition pairs d = pairs ++ standsFor d := by
        unfold addDefinition addPair standsFor
        by_cases hse : d.2 = lit "SE"
        · have hnone : (d.1, lit "SP") ∉ pairs ++ [(d.1, lit "SG")] := by
            have hbefore := hpairs d List.mem_cons_self hse
            simp [hbefore, hapart.symm]
          simp only [if_pos hse]
          rw [if_neg (fun h => hnone h.2)]
          simp
        · simp [hse]
      have hrest : NoSetpointConflict ds := by
        intro d' hd' hse
        obtain ⟨hsg, hsp⟩ := hds d' (List.mem_cons_of_mem d hd') hse
        exact ⟨fun h => hsg (List.mem_cons_of_mem d h), fun h => hsp (List.mem_cons_of_mem d h)⟩
      rw [List.foldl_cons, hstep, ih hrest, List.append_assoc, List.flatMap_cons]
      intro d' hd' hse hmem
      rcases List.mem_append.mp hmem with hmem | hmem
      · exact hpairs d' (List.mem_cons_of_mem d hd') hse hmem
      · rcases mem_standsFor hmem with hd | ⟨-, hd⟩
        · exact (hds d' (List.mem_cons_of_mem d hd') hse).2 (hd ▸ List.mem_cons_self)
        · exact hapart (Prod.mk.inj hd).2.symm

theorem nodup_flatMap_standsFor {ds : List (Str × Str)} (hnodup : ds.Nodup)
    (hds : NoSetpointConflict ds) : (ds.flatMap standsFor).Nodup := by
  have hapart : lit "SG" ≠ lit "SE" := by decide
  rw [List.nodup_flatMap]
  constructor
  · intro d _
    unfold standsFor
    split
    next hse =>
      have hne : (d.1, lit "SG") ≠ d := fun heq => hapart (by rw [← hse, ← heq])
      simpa using hne
    next => exact List.nodup_singleton d
  · refine hnodup.imp_of_mem fun {d d'} hd hd' hne => ?_
    intro pair hpair hpair'
    rcases mem_standsFor hpair with rfl | ⟨hse, rfl⟩ <;>
      rcases mem_standsFor hpair' with h' | ⟨hse', h'⟩
    · exact hne h'
    · exact (hds d' hd' hse').1 (h' ▸ hd)
    · exact (hds d hd hse).1 (h' ▸ hd')
    · exact hne (Prod.ext (Prod.mk.inj h').1 (hse.trans hse'.symm))

/-! ## Definitions with a conflict -/

theorem count_replace_of_ne {α : Type} [BEq α] [LawfulBEq α] {as : List α} {a b x : α} (ha : a ≠ x)
    (hb : b ≠ x) : (as.replace a b).count x = as.count x := by
  induction as with
  | nil => rfl
  | cons c rest ih =>
      by_cases hc : a = c
      · rw [← hc, List.replace_cons_self, List.count_cons_of_ne hb, List.count_cons_of_ne ha]
      · rw [List.replace_cons, beq_false_of_ne hc]
        simp only [List.count_cons, ih]

/-- No SG attribute is ever replaced. -/
theorem count_addDefinition_SG (pairs : List (Str × Str)) (d : Str × Str) (name : Str) :
    (addDefinition pairs d).count (name, lit "SG") =
      pairs.count (name, lit "SG") + (standsFor d).count (name, lit "SG") := by
  have hSP : lit "SP" ≠ lit "SG" := by decide
  have hSE : lit "SE" ≠ lit "SG" := by decide
  unfold addDefinition addPair standsFor
  by_cases hse : d.2 = lit "SE"
  · have hd : d ≠ (name, lit "SG") := fun heq => hSE (by rw [← hse, heq])
    simp only [if_pos hse]
    split
    next =>
      have hreplaced : (d.1, lit "SP") ≠ (name, lit "SG") := fun heq => hSP (Prod.mk.inj heq).2
      have hadded : [(d.1, lit "SG"), d].count (name, lit "SG") =
          [(d.1, lit "SG")].count (name, lit "SG") := by
        simp [List.count_cons, hd]
      rw [count_replace_of_ne hreplaced hd, List.count_append, hadded]
    next =>
      rw [List.append_assoc, List.count_append]
      rfl
  · rw [if_neg (fun h => hse h.1), if_neg hse, if_neg hse, List.count_append]

theorem count_foldl_SG (ds pairs : List (Str × Str)) (name : Str) :
    (ds.foldl addDefinition pairs).count (name, lit "SG") =
      pairs.count (name, lit "SG") + (ds.flatMap standsFor).count (name, lit "SG") := by
  induction ds generalizing pairs with
  | nil => simp
  | cons d ds ih =>
      rw [List.foldl_cons, ih, count_addDefinition_SG, List.flatMap_cons, List.count_append,
        Nat.add_assoc]

/-- An SG definition beside an SE definition of the same name gives two SG attributes. -/
theorem not_nodup_of_conflict_SG {ds : List (Str × Str)} {name : Str}
    (hse : (name, lit "SE") ∈ ds) (hsg : (name, lit "SG") ∈ ds) :
    ¬ (ds.foldl addDefinition []).Nodup := by
  have hSE : lit "SE" ≠ lit "SG" := by decide
  intro hnodup
  have hrest : (name, lit "SG") ∈ ds.erase (name, lit "SE") :=
    (List.mem_erase_of_ne fun heq => hSE (Prod.mk.inj heq).2.symm).mpr hsg
  have hperm := (List.perm_cons_erase hse).trans ((List.perm_cons_erase hrest).cons _)
  have hcount := (hperm.flatMap_right standsFor).count_eq (name, lit "SG")
  have hone := List.nodup_iff_count_le_one.mp hnodup (name, lit "SG")
  rw [count_foldl_SG, hcount] at hone
  have hfirst : standsFor (name, lit "SE") = [(name, lit "SG"), (name, lit "SE")] := rfl
  have hsecond : standsFor (name, lit "SG") = [(name, lit "SG")] := if_neg hSE.symm
  have hne : (name, lit "SE") ≠ (name, lit "SG") := fun heq => hSE (Prod.mk.inj heq).2
  rw [List.flatMap_cons, List.flatMap_cons, hfirst, hsecond, List.cons_append, List.cons_append,
    List.nil_append, List.count_cons_self, List.count_cons_of_ne hne, List.cons_append,
    List.count_cons_self] at hone
  omega

theorem mem_replace_imp {α : Type} [BEq α] [LawfulBEq α] {as : List α} {a b x : α}
    (h : x ∈ as.replace a b) : x = b ∨ x ∈ as := by
  induction as with
  | nil => exact Or.inr h
  | cons c rest ih =>
      by_cases hc : a = c
      · rw [← hc, List.replace_cons_self] at h
        exact (List.mem_cons.mp h).imp_right (List.mem_cons_of_mem c)
      · rw [List.replace_cons, beq_false_of_ne hc] at h
        rcases List.mem_cons.mp h with rfl | h
        · exact Or.inr List.mem_cons_self
        · exact (ih h).imp_right (List.mem_cons_of_mem c)

theorem mem_replace_of_ne {α : Type} [BEq α] [LawfulBEq α] {as : List α} {a b x : α}
    (h : x ∈ as) (hne : x ≠ a) : x ∈ as.replace a b := by
  induction as with
  | nil => exact h
  | cons c rest ih =>
      by_cases hc : a = c
      · rw [← hc, List.replace_cons_self]
        rcases List.mem_cons.mp h with rfl | h
        · exact absurd hc.symm hne
        · exact List.mem_cons_of_mem b h
      · rw [List.replace_cons, beq_false_of_ne hc]
        rcases List.mem_cons.mp h with rfl | h
        · exact List.mem_cons_self
        · exact List.mem_cons_of_mem c (ih h)

/-- Only its own definition adds an SP attribute. -/
theorem mem_foldl_SP {ds pairs : List (Str × Str)} {name : Str}
    (h : (name, lit "SP") ∈ ds.foldl addDefinition pairs) :
    (name, lit "SP") ∈ pairs ∨ (name, lit "SP") ∈ ds := by
  have hSE : lit "SE" ≠ lit "SP" := by decide
  have hSG : lit "SG" ≠ lit "SP" := by decide
  induction ds generalizing pairs with
  | nil => exact Or.inl h
  | cons d ds ih =>
      rcases ih h with h | h
      · unfold addDefinition addPair at h
        by_cases hse : d.2 = lit "SE"
        · have hd : (name, lit "SP") ≠ d := fun heq => hSE (by rw [← hse, ← heq])
          have hsg : (name, lit "SP") ≠ (d.1, lit "SG") := fun heq => hSG (Prod.mk.inj heq).2.symm
          simp only [if_pos hse] at h
          refine Or.inl ?_
          split at h
          next =>
            have hmem := (mem_replace_imp h).resolve_left hd
            exact (List.mem_append.mp hmem).resolve_right fun hlast =>
              hsg (List.mem_singleton.mp hlast)
          next => simpa [hd, hsg] using h
        · rw [if_neg (fun hboth => hse hboth.1), if_neg hse] at h
          rcases List.mem_append.mp h with h | h
          · exact Or.inl h
          · exact Or.inr (List.mem_cons.mpr (Or.inl (List.mem_singleton.mp h)))
      · exact Or.inr (List.mem_cons_of_mem d h)

theorem mem_addPair_SP_of_mem {pairs : List (Str × Str)} {d : Str × Str} {name : Str}
    (h : (name, lit "SP") ∈ pairs) (hd : (name, lit "SE") ≠ d) :
    (name, lit "SP") ∈ addPair pairs d := by
  unfold addPair
  split
  next hreplaced =>
    refine mem_replace_of_ne h fun heq => hd ?_
    exact Prod.ext (Prod.mk.inj heq).1 hreplaced.1.symm
  next => exact List.mem_append_left _ h

/-- Only an SE definition of its name replaces an SP attribute. -/
theorem mem_foldl_SP_of_mem {ds pairs : List (Str × Str)} {name : Str}
    (h : (name, lit "SP") ∈ pairs) (hds : (name, lit "SE") ∉ ds) :
    (name, lit "SP") ∈ ds.foldl addDefinition pairs := by
  induction ds generalizing pairs with
  | nil => exact h
  | cons d ds ih =>
      have hd : (name, lit "SE") ≠ d := fun heq => hds (heq ▸ List.mem_cons_self)
      refine ih ?_ fun hmem => hds (List.mem_cons_of_mem d hmem)
      unfold addDefinition
      split
      next => exact mem_addPair_SP_of_mem (List.mem_append_left _ h) hd
      next => exact mem_addPair_SP_of_mem h hd

/-- Of an SP and an SE definition of one name, the SP attribute stays if it comes last. -/
theorem order_matters_of_conflict_SP {rest : List (Str × Str)} {name : Str}
    (hsp : (name, lit "SP") ∉ rest) (hse : (name, lit "SE") ∉ rest) :
    (name, lit "SP") ∉ ((name, lit "SP") :: (name, lit "SE") :: rest).foldl addDefinition [] ∧
      (name, lit "SP") ∈
        ((name, lit "SE") :: (name, lit "SP") :: rest).foldl addDefinition [] := by
  have hSE : lit "SP" ≠ lit "SE" := by decide
  have hSG : lit "SP" ≠ lit "SG" := by decide
  constructor
  · intro h
    have hpairs : (name, lit "SP") ∉
        addDefinition (addDefinition [] (name, lit "SP")) (name, lit "SE") := by
      simp [addDefinition, addPair, hSE, hSG]
    rw [List.foldl_cons, List.foldl_cons] at h
    rcases mem_foldl_SP h with h | h
    · exact hpairs h
    · exact hsp h
  · rw [List.foldl_cons, List.foldl_cons]
    refine mem_foldl_SP_of_mem ?_ hse
    simp [addDefinition, addPair, hSE, hSG]

/-! ## The attributes of a type -/

/-- The attributes that `createDataAttributes` makes of a type hold no name twice with
one constraint, both attributes of every SE definition, and the same names and
constraints in whatever order the definitions stand. -/
structure PairsDistinct (templates : DataTypeTemplates) (n : ℕ) (o : DataObjectType)
    (attributes : List DataAttribute) : Prop where
  nodup : (attributes.map DataAttribute.pair).Nodup
  setpoints : ∀ d ∈ o.dataAttributes, d.fc = lit "SE" →
    (d.name, lit "SE") ∈ attributes.map DataAttribute.pair ∧
      (d.name, lit "SG") ∈ attributes.map DataAttribute.pair
  ordered : ∀ o' : DataObjectType, o'.dataAttributes.Perm o.dataAttributes →
    ∀ attributes',
      createDataAttributes (newDataAttribute templates n) (.dataObjectType o') =
        .ok attributes' →
      ∀ pair, pair ∈ attributes'.map DataAttribute.pair ↔
        pair ∈ attributes.map DataAttribute.pair

/-- Whether a definition can be added does not depend on the attributes before it. -/
theorem exists_createDataAttribute
    {new : DataAttributeDefinition → Str → ParentNode → Outcome DataAttribute}
    {d : DataAttributeDefinition} {attributes after : List DataAttribute}
    (h : createDataAttribute new attributes d = .ok after) (before : List DataAttribute) :
    ∃ after, createDataAttribute new before d = .ok after := by
  unfold createDataAttribute at h ⊢
  split at h
  next hse =>
    obtain ⟨twin, htwin, h⟩ := bind_eq_ok.mp h
    obtain ⟨added, hadded, -⟩ := bind_eq_ok.mp h
    exact ⟨_, by rw [if_pos hse, htwin, ok_bind, hadded, ok_bind]; rfl⟩
  next hse =>
    obtain ⟨added, hadded, -⟩ := bind_eq_ok.mp h
    exact ⟨_, by rw [if_neg hse, hadded, ok_bind]; rfl⟩

theorem exists_createDataAttributes_of_perm {o : DataObjectType} (o' : DataObjectType)
    {attributes : List DataAttribute}
    (h : createDataAttributes (newDataAttribute templates n) (.dataObjectType o) =
      .ok attributes)
    (hperm : o'.dataAttributes.Perm o.dataAttributes) :
    ∃ attributes', createDataAttributes (newDataAttribute templates n) (.dataObjectType o') =
      .ok attributes' := by
  have hadds : ∀ d ∈ o'.dataAttributes, ∀ before, ∃ after,
      createDataAttribute (newDataAttribute templates n) before d = .ok after := by
    intro d hd before
    obtain ⟨b, c, hstep⟩ := exists_of_foldlM_ok h (hperm.mem_iff.mp hd)
    exact exists_createDataAttribute hstep before
  have hfold : ∀ (ds : List DataAttributeDefinition), (∀ d ∈ ds, d ∈ o'.dataAttributes) →
      ∀ before, ∃ after,
        ds.foldlM (createDataAttribute (newDataAttribute templates n)) before = .ok after := by
    intro ds
    induction ds with
    | nil => exact fun _ before => ⟨before, rfl⟩
    | cons d ds ih =>
        intro hds before
        obtain ⟨between, hbetween⟩ := hadds d (hds d List.mem_cons_self) before
        obtain ⟨after, hafter⟩ := ih (fun e he => hds e (List.mem_cons_of_mem d he)) between
        exact ⟨after, by rw [List.foldlM_cons, hbetween, ok_bind, hafter]⟩
  exact hfold o'.dataAttributes (fun _ hd => hd) []

theorem pairsDistinct_of_no_conflict {o : DataObjectType} {attributes : List DataAttribute}
    (h : createDataAttributes (newDataAttribute templates n) (.dataObjectType o) =
      .ok attributes)
    (hnodup : (o.dataAttributes.map DataAttributeDefinition.pair).Nodup)
    (hds : NoSetpointConflict (o.dataAttributes.map DataAttributeDefinition.pair)) :
    PairsDistinct templates n o attributes := by
  have hpairs : attributes.map DataAttribute.pair =
      (o.dataAttributes.map DataAttributeDefinition.pair).flatMap standsFor :=
    (createDataAttributes_pair h).trans (foldl_addDefinition_of_no_conflict hds (by simp))
  refine ⟨hpairs ▸ nodup_flatMap_standsFor hnodup hds, fun d hd hse => ?_,
    fun o' hperm attributes' h' pair => ?_⟩
  · have hstands : standsFor d.pair = [(d.name, lit "SG"), d.pair] := if_pos hse
    have hpair : d.pair = (d.name, lit "SE") := Prod.ext rfl hse
    have hmem := List.mem_map_of_mem (f := DataAttributeDefinition.pair) hd
    rw [hpairs]
    constructor
    · exact List.mem_flatMap.mpr ⟨_, hmem, by rw [hstands, hpair]; simp⟩
    · exact List.mem_flatMap.mpr ⟨_, hmem, by rw [hstands]; simp⟩
  · have hperm := hperm.map DataAttributeDefinition.pair
    have hds' : NoSetpointConflict (o'.dataAttributes.map DataAttributeDefinition.pair) := by
      intro d hd hse
      rw [hperm.mem_iff, hperm.mem_iff]
      exact hds d (hperm.mem_iff.mp hd) hse
    have hpairs' : attributes'.map DataAttribute.pair =
        (o'.dataAttributes.map DataAttributeDefinition.pair).flatMap standsFor :=
      (createDataAttributes_pair h').trans (foldl_addDefinition_of_no_conflict hds' (by simp))
    rw [hpairs, hpairs']
    exact (hperm.flatMap_right standsFor).mem_iff

/-- Definitions that stand at the front in two orders. -/
theorem PairsDistinct.no_conflict_SP {o : DataObjectType} {attributes : List DataAttribute}
    (h : createDataAttributes (newDataAttribute templates n) (.dataObjectType o) =
      .ok attributes)
    (hnodup : (o.dataAttributes.map DataAttributeDefinition.pair).Nodup)
    (hdistinct : PairsDistinct templates n o attributes) {name : Str}
    (hse : (name, lit "SE") ∈ o.dataAttributes.map DataAttributeDefinition.pair) :
    (name, lit "SP") ∉ o.dataAttributes.map DataAttributeDefinition.pair := by
  intro hsp
  have hapart : lit "SE" ≠ lit "SP" := by decide
  obtain ⟨setpoint, hsetpoint, hsetpointPair⟩ := List.mem_map.mp hse
  obtain ⟨plain, hplain, hplainPair⟩ := List.mem_map.mp hsp
  have hne : setpoint ≠ plain := by
    rintro rfl
    exact hapart (Prod.mk.inj (hsetpointPair.symm.trans hplainPair)).2
  have hrest : setpoint ∈ o.dataAttributes.erase plain :=
    (List.mem_erase_of_ne hne).mpr hsetpoint
  have hperm : o.dataAttributes.Perm
      (plain :: setpoint :: (o.dataAttributes.erase plain).erase setpoint) :=
    (List.perm_cons_erase hplain).trans ((List.perm_cons_erase hrest).cons plain)
  generalize (o.dataAttributes.erase plain).erase setpoint = rest at hperm
  have hdefinitions := hperm.map DataAttributeDefinition.pair
  rw [List.map_cons, List.map_cons, hplainPair, hsetpointPair] at hdefinitions
  have hrestNodup := hdefinitions.nodup_iff.mp hnodup
  have hspRest : (name, lit "SP") ∉ rest.map DataAttributeDefinition.pair := fun hmem =>
    (List.nodup_cons.mp hrestNodup).1 (List.mem_cons_of_mem _ hmem)
  have hseRest := (List.nodup_cons.mp (List.nodup_cons.mp hrestNodup).2).1
  obtain ⟨hlost, hkept⟩ := order_matters_of_conflict_SP hspRest hseRest
  -- the same definitions in the two orders
  have hfirst : (plain :: setpoint :: rest).Perm o.dataAttributes := hperm.symm
  have hsecond : (setpoint :: plain :: rest).Perm o.dataAttributes :=
    (List.Perm.swap plain setpoint rest).trans hfirst
  obtain ⟨first, hfirstOk⟩ := exists_createDataAttributes_of_perm {
    o with dataAttributes := plain :: setpoint :: rest } h hfirst
  obtain ⟨second, hsecondOk⟩ := exists_createDataAttributes_of_perm {
    o with dataAttributes := setpoint :: plain :: rest } h hsecond
  have hsame := (hdistinct.ordered _ hfirst first hfirstOk (name, lit "SP")).trans
    (hdistinct.ordered _ hsecond second hsecondOk (name, lit "SP")).symm
  rw [createDataAttributes_pair hfirstOk, createDataAttributes_pair hsecondOk] at hsame
  simp only [SclType.daDefinitions, List.map_cons, hplainPair, hsetpointPair] at hsame
  exact hlost (hsame.mpr hkept)

/-- A data object holds every attribute once, both attributes of every setting, and the
same whatever the order of the definitions, exactly when no name has an SE definition
beside one of constraint SG or SP. -/
theorem createDataAttributes_distinct_iff {o : DataObjectType}
    {attributes : List DataAttribute}
    (h : createDataAttributes (newDataAttribute templates n) (.dataObjectType o) =
      .ok attributes)
    (hnodup : (o.dataAttributes.map DataAttributeDefinition.pair).Nodup) :
    PairsDistinct templates n o attributes ↔
      NoSetpointConflict (o.dataAttributes.map DataAttributeDefinition.pair) := by
  refine ⟨fun hdistinct d hd hse => ?_, pairsDistinct_of_no_conflict h hnodup⟩
  have hpair : (d.1, lit "SE") ∈ o.dataAttributes.map DataAttributeDefinition.pair := by
    rw [← hse]
    exact hd
  refine ⟨fun hsg => ?_, hdistinct.no_conflict_SP h hnodup hpair⟩
  have hpairs := hdistinct.nodup
  rw [createDataAttributes_pair h] at hpairs
  exact not_nodup_of_conflict_SG hpair hsg hpairs

/-- A setting that is declared once for editing and once as a set point. -/
def setpointType : DataObjectType where
  id := lit "ASG"
  dataAttributes := [
    { name := lit "setMag", fc := lit "SP", bType := lit "INT32" },
    { name := lit "setMag", fc := lit "SE", bType := lit "INT32" }]

theorem createDataAttributes_setpointType :
    (createDataAttributes (newDataAttribute {} 1) (.dataObjectType setpointType)).isOk = true := by
  decide +kernel

theorem createDataAttributes_distinct_iff_setpointType :
    PairsDistinct {} 1 setpointType (resultOf _ createDataAttributes_setpointType) ↔
      NoSetpointConflict (setpointType.dataAttributes.map DataAttributeDefinition.pair) :=
  createDataAttributes_distinct_iff (eq_ok_resultOf _ createDataAttributes_setpointType)
    (by decide +kernel)

theorem createDataAttributes_setpointType_reversed :
    (createDataAttributes (newDataAttribute {} 1) (.dataObjectType
      { setpointType with
        dataAttributes := setpointType.dataAttributes.reverse })).isOk = true := by
  decide +kernel

theorem pairs_setpointType :
    ¬((lit "setMag", lit "SP") ∈ (resultOf _ createDataAttributes_setpointType).map
          DataAttribute.pair ↔
      (lit "setMag", lit "SP") ∈ (resultOf _ createDataAttributes_setpointType_reversed).map
        DataAttribute.pair) := by
  decide +kernel

/-- Which attributes it has depends on which definition comes first. -/
theorem setpointType_not_distinct :
    ∃ attributes,
      createDataAttributes (newDataAttribute {} 1) (.dataObjectType setpointType) =
        .ok attributes ∧
      ¬ PairsDistinct {} 1 setpointType attributes := by
  refine ⟨_, eq_ok_resultOf _ createDataAttributes_setpointType, fun hdistinct => ?_⟩
  have hsame := hdistinct.ordered _ (List.reverse_perm _) _
    (eq_ok_resultOf _ createDataAttributes_setpointType_reversed) (lit "setMag", lit "SP")
  exact pairs_setpointType hsame.symm

end Iec61850.Scl
