import Iec61850.VariableValues
import Mathlib.Data.List.TakeWhile

/-!
# Grouping of variable names

The names of the variables of a logical device are cut at their first three `$`.
`GetLogicalDeviceVariablesHierarchical` keeps every remainder, in the order of the names,
and its result does not depend on the order in which a map is ranged over.
-/

namespace Iec61850.Mms

open Go

/-! ## The parts of a name -/

/-- `node$fc$base` -/
def keyText (node fc base : Str) : Str := node ++ '$' :: (fc ++ '$' :: base)

/-- The name is `node$fc$base` or goes on with another `$`. -/
def HasKey (node fc base name : Str) : Prop :=
  ('$' ∉ node ∧ '$' ∉ fc ∧ '$' ∉ base) ∧
  (name = keyText node fc base ∨ keyText node fc base ++ ['$'] <+: name)

instance (node fc base name : Str) : Decidable (HasKey node fc base name) :=
  inferInstanceAs (Decidable (_ ∧ _))

/-- The text `r` of a name `node$fc$base$r`. -/
def remainder (node fc base name : Str) : Option Str :=
  if keyText node fc base ++ ['$'] <+: name then
    some (name.drop (keyText node fc base ++ ['$']).length)
  else none

/-! ## The result -/

/-- Before it in the order of `strings.Compare`. -/
def compareLt (s t : Str) : Prop := compareLe t s = false

/-- The result lists the nodes of the names in order, and under each key the remainders. -/
structure GroupsNames (names : List Str) (ret : List FCVar) : Prop where
  sorted : ret.Pairwise fun a b => compareLt a.ln b.ln
  nodes : ∀ node, (∃ v ∈ ret, v.ln = node) ↔ ∃ name ∈ names, ∃ fc base, HasKey node fc base name
  constraints : ∀ v ∈ ret, ∀ fc, (v.fcVars.lookup fc).isSome = true ↔
    ∃ name ∈ names, ∃ base, HasKey v.ln fc base name
  objects : ∀ v ∈ ret, ∀ fc vars, v.fcVars.lookup fc = some vars → ∀ base,
    (vars.lookup base).isSome = true ↔ ∃ name ∈ names, HasKey v.ln fc base name
  lists : ∀ v ∈ ret, ∀ fc vars, v.fcVars.lookup fc = some vars → ∀ base listed,
    vars.lookup base = some listed → listed = names.filterMap (remainder v.ln fc base)

/-- The entries of the map as they are ranged over in any order, and sorted in any way. -/
def Collected (names : List Str) (ret : List FCVar) : Prop :=
  ret.Perm ((names.foldl addVariable []).map fun (lnName, fcVars) => ⟨lnName, fcVars⟩) ∧
  ret.Pairwise fun a b => compareLe a.ln b.ln = true

/-- The same keys with the same values; a Go map has no order. -/
def SameMap {V : Type} (same : V → V → Prop) (m m' : GoMap V) : Prop :=
  ∀ key, Option.Rel same (m.lookup key) (m'.lookup key)

def FCVar.Same (v v' : FCVar) : Prop :=
  v.ln = v'.ln ∧ SameMap (SameMap Eq) v.fcVars v'.fcVars

/-- The names of every key stand in the same order. -/
def SameOrder (names names' : List Str) : Prop :=
  ∀ node fc base, names.filter (HasKey node fc base ·) = names'.filter (HasKey node fc base ·)

/-! ## Cutting a name -/

theorem splitN_of_not_mem {s : Str} {c : Char} (hs : c ∉ s) (n : ℕ) :
    splitN c (n + 1) s = [s] := by
  cases n with
  | zero => rfl
  | succ n =>
      have hnil : s.dropWhile (· ≠ c) = [] := by
        rw [List.dropWhile_eq_nil_iff]
        intro d hd
        simpa using fun h : d = c => hs (h ▸ hd)
      rw [splitN, hnil]

theorem splitN_append {front : Str} {c : Char} (hfront : c ∉ front) (n : ℕ) (rest : Str) :
    splitN c (n + 2) (front ++ c :: rest) = front :: splitN c (n + 1) rest := by
  have hkeep : ∀ d ∈ front, decide (d ≠ c) = true := by
    intro d hd
    simpa using fun h : d = c => hfront (h ▸ hd)
  have hdrop : (front ++ c :: rest).dropWhile (· ≠ c) = c :: rest := by
    rw [List.dropWhile_append_of_pos hkeep, List.dropWhile_cons_of_neg (by simp)]
  have htake : (front ++ c :: rest).takeWhile (· ≠ c) = front := by
    rw [List.takeWhile_append_of_pos hkeep, List.takeWhile_cons_of_neg (by simp),
      List.append_nil]
  rw [splitN, hdrop, htake]

structure NameParts where
  node : Str
  fc : Str
  base : Str
  subs : List Str

/-- A name of at least three parts as the loop cuts it. -/
def nameParts (v : Str) : Option NameParts :=
  match splitN '$' 3 v with
  | [lnName, fc, path] =>
      some ⟨lnName, fc, (splitN '$' 2 path).headD [], (splitN '$' 2 path).tail⟩
  | _ => none

section

variable {node fc base : Str}

theorem remainder_eq_some_iff (name r : Str) :
    remainder node fc base name = some r ↔ name = keyText node fc base ++ '$' :: r := by
  have happend : keyText node fc base ++ '$' :: r = (keyText node fc base ++ ['$']) ++ r := by
    simp
  unfold remainder
  rw [happend]
  by_cases hprefix : keyText node fc base ++ ['$'] <+: name
  · obtain ⟨rest, rfl⟩ := hprefix
    rw [if_pos (List.prefix_append _ _), List.drop_left, Option.some.injEq,
      List.append_cancel_left_eq]
  · rw [if_neg hprefix]
    constructor
    · intro h
      cases h
    · rintro rfl
      exact absurd (List.prefix_append _ _) hprefix

theorem remainder_keyText : remainder node fc base (keyText node fc base) = none := by
  cases h : remainder node fc base (keyText node fc base) with
  | none => rfl
  | some r =>
      have hlength := congrArg List.length ((remainder_eq_some_iff _ _).mp h)
      simp at hlength

/-- The key of a name is what the name is cut into. -/
theorem nameParts_of_hasKey {name : Str} (h : HasKey node fc base name) :
    nameParts name = some ⟨node, fc, base, (remainder node fc base name).toList⟩ := by
  obtain ⟨⟨hnode, hfc, hbase⟩, rfl | ⟨r, rfl⟩⟩ := h
  · rw [remainder_keyText]
    unfold nameParts keyText
    rw [splitN_append hnode, splitN_append hfc, splitN]
    simp only [splitN_of_not_mem hbase]
    rfl
  · have hr : remainder node fc base (keyText node fc base ++ ['$'] ++ r) = some r := by
      rw [remainder_eq_some_iff]
      simp
    rw [hr]
    unfold nameParts keyText
    have htext : node ++ '$' :: (fc ++ '$' :: base) ++ ['$'] ++ r =
        node ++ '$' :: (fc ++ '$' :: (base ++ '$' :: r)) := by
      simp
    rw [htext, splitN_append hnode, splitN_append hfc, splitN]
    simp only [splitN_append hbase]
    rfl

theorem hasKey_of_nameParts {name : Str} {p : NameParts} (h : nameParts name = some p) :
    HasKey p.node p.fc p.base name := by
  unfold nameParts at h
  by_cases hname : '$' ∈ name
  · obtain ⟨node, rest, rfl, hnode⟩ := List.eq_append_cons_of_mem hname
    rw [splitN_append hnode] at h
    by_cases hrest : '$' ∈ rest
    · obtain ⟨fc, path, rfl, hfc⟩ := List.eq_append_cons_of_mem hrest
      rw [splitN_append hfc] at h
      obtain rfl := Option.some.inj h
      by_cases hpath : '$' ∈ path
      · obtain ⟨base, r, rfl, hbase⟩ := List.eq_append_cons_of_mem hpath
        simp only [splitN_append hbase]
        exact ⟨⟨hnode, hfc, hbase⟩, Or.inr ⟨r, by simp [keyText]⟩⟩
      · simp only [splitN_of_not_mem hpath]
        exact ⟨⟨hnode, hfc, hpath⟩, Or.inl rfl⟩
    · rw [splitN_of_not_mem hrest] at h
      cases h
  · rw [splitN_of_not_mem hname] at h
    cases h

theorem nameParts_eq_some_iff (name : Str) (p : NameParts) :
    nameParts name = some p ↔
      HasKey p.node p.fc p.base name ∧ p.subs = (remainder p.node p.fc p.base name).toList := by
  constructor
  · intro h
    have hkey := hasKey_of_nameParts h
    have hparts := (nameParts_of_hasKey hkey).symm.trans h
    exact ⟨hkey, (congrArg NameParts.subs (Option.some.inj hparts)).symm⟩
  · rintro ⟨hkey, hsubs⟩
    rw [nameParts_of_hasKey hkey, ← hsubs]

end

/-! ## The groups -/

def groupObjects (parts : List NameParts) : Vars :=
  GoMap.group NameParts.base [] (fun p listed => listed ++ p.subs) parts

def groupConstraints (parts : List NameParts) : GoMap Vars :=
  GoMap.group NameParts.fc [] (fun p vars => vars.modify p.base [] fun listed => listed ++ p.subs)
    parts

def groupNodes (parts : List NameParts) : GoMap (GoMap Vars) :=
  GoMap.group NameParts.node []
    (fun p fcVars => fcVars.modify p.fc [] fun vars =>
      vars.modify p.base [] fun listed => listed ++ p.subs) parts

theorem foldl_addVariable (names : List Str) :
    names.foldl addVariable [] = groupNodes (names.filterMap nameParts) := by
  unfold groupNodes GoMap.group
  rw [List.foldl_filterMap]
  congr 1
  funext m v
  unfold addVariable nameParts
  rcases splitN '$' 3 v with _ | ⟨lnName, _ | ⟨fc, _ | ⟨path, _ | ⟨_, _⟩⟩⟩⟩ <;> rfl

theorem lookup_groupNodes (parts : List NameParts) (node : Str) :
    (groupNodes parts).lookup node =
      if ∃ p ∈ parts, p.node = node then
        some (groupConstraints (parts.filter fun p => p.node = node))
      else none :=
  GoMap.lookup_group NameParts.node [] _ parts node

theorem lookup_groupConstraints (parts : List NameParts) (fc : Str) :
    (groupConstraints parts).lookup fc =
      if ∃ p ∈ parts, p.fc = fc then some (groupObjects (parts.filter fun p => p.fc = fc))
      else none :=
  GoMap.lookup_group NameParts.fc [] _ parts fc

theorem lookup_groupObjects (parts : List NameParts) (base : Str) :
    (groupObjects parts).lookup base =
      if ∃ p ∈ parts, p.base = base then
        some ((parts.filter fun p => p.base = base).flatMap NameParts.subs)
      else none := by
  have h := GoMap.lookup_group NameParts.base [] (fun p listed => listed ++ p.subs) parts base
  rw [← List.flatMap_eq_foldl] at h
  exact h

/-- The parts of the names of one key hold the remainders. -/
theorem flatMap_subs {node fc base : Str} (hplain : '$' ∉ node ∧ '$' ∉ fc ∧ '$' ∉ base)
    (names : List Str) :
    (((((names.filterMap nameParts).filter fun p => p.node = node).filter
      fun p => p.fc = fc).filter fun p => p.base = base).flatMap NameParts.subs) =
      names.filterMap (remainder node fc base) := by
  rw [List.filter_filter, List.filter_filter]
  induction names with
  | nil => rfl
  | cons name names ih =>
      by_cases hkey : HasKey node fc base name
      · have hparts := nameParts_of_hasKey hkey
        cases hr : remainder node fc base name with
        | none =>
            rw [hr] at hparts
            simpa [hparts, hr] using ih
        | some r =>
            rw [hr] at hparts
            simpa [hparts, hr] using ih
      · have hr : remainder node fc base name = none := by
          cases hr : remainder node fc base name with
          | none => rfl
          | some r =>
              have hname := (remainder_eq_some_iff name r).mp hr
              exact absurd ⟨hplain, Or.inr ⟨r, by rw [hname]; simp⟩⟩ hkey
        cases hparts : nameParts name with
        | none => simpa [hparts, hr] using ih
        | some p =>
            have hother : ¬ (p.base = base ∧ p.fc = fc ∧ p.node = node) := by
              rintro ⟨rfl, rfl, rfl⟩
              exact hkey (hasKey_of_nameParts hparts)
            rw [List.filterMap_cons_some hparts, List.filterMap_cons_none hr,
              List.filter_cons_of_neg]
            · exact ih
            · simpa [and_assoc] using hother

theorem exists_parts_iff {names : List Str} {P : NameParts → Prop} :
    (∃ p ∈ names.filterMap nameParts, P p) ↔
      ∃ name ∈ names, ∃ node fc base, HasKey node fc base name ∧
        P ⟨node, fc, base, (remainder node fc base name).toList⟩ := by
  simp only [List.mem_filterMap]
  constructor
  · rintro ⟨p, ⟨name, hname, hparts⟩, hP⟩
    obtain ⟨hkey, hsubs⟩ := (nameParts_eq_some_iff name p).mp hparts
    refine ⟨name, hname, p.node, p.fc, p.base, hkey, ?_⟩
    rw [← hsubs]
    exact hP
  · rintro ⟨name, hname, node, fc, base, hkey, hP⟩
    exact ⟨_, ⟨name, hname, nameParts_of_hasKey hkey⟩, hP⟩

/-- What a node of the map is. -/
structure NodeOf (names : List Str) (v : FCVar) : Prop where
  occurs : ∃ name ∈ names, ∃ fc base, HasKey v.ln fc base name
  fcVars : v.fcVars = groupConstraints ((names.filterMap nameParts).filter fun p => p.node = v.ln)

theorem mem_groupNodes_iff (names : List Str) (v : FCVar) :
    (v.ln, v.fcVars) ∈ groupNodes (names.filterMap nameParts) ↔ NodeOf names v := by
  have hnodup : (groupNodes (names.filterMap nameParts)).keys.Nodup :=
    GoMap.nodup_keys_group NameParts.node [] _ _
  rw [GoMap.mem_iff_lookup hnodup, lookup_groupNodes]
  have hexists : (∃ p ∈ names.filterMap nameParts, p.node = v.ln) ↔
      ∃ name ∈ names, ∃ fc base, HasKey v.ln fc base name := by
    rw [exists_parts_iff]
    constructor
    · rintro ⟨name, hname, _, fc, base, hkey, rfl⟩
      exact ⟨name, hname, fc, base, hkey⟩
    · rintro ⟨name, hname, fc, base, hkey⟩
      exact ⟨name, hname, v.ln, fc, base, hkey, rfl⟩
  by_cases h : ∃ p ∈ names.filterMap nameParts, p.node = v.ln
  · rw [if_pos h, Option.some.injEq]
    exact ⟨fun heq => ⟨hexists.mp h, heq.symm⟩, fun hv => hv.fcVars.symm⟩
  · rw [if_neg h]
    constructor
    · intro hnone
      cases hnone
    · intro hv
      exact absurd (hexists.mpr hv.occurs) h

section

variable {names : List Str} {v : FCVar}

theorem NodeOf.lookup_fc_iff (h : NodeOf names v) (fc : Str) (vars : Vars) :
    v.fcVars.lookup fc = some vars ↔ (∃ name ∈ names, ∃ base, HasKey v.ln fc base name) ∧
      vars = groupObjects (((names.filterMap nameParts).filter fun p => p.node = v.ln).filter
        fun p => p.fc = fc) := by
  have hexists : (∃ p ∈ (names.filterMap nameParts).filter fun p => p.node = v.ln, p.fc = fc) ↔
      ∃ name ∈ names, ∃ base, HasKey v.ln fc base name := by
    simp only [List.mem_filter, decide_eq_true_eq, and_assoc]
    rw [exists_parts_iff]
    constructor
    · rintro ⟨name, hname, _, _, base, hkey, rfl, rfl⟩
      exact ⟨name, hname, base, hkey⟩
    · rintro ⟨name, hname, base, hkey⟩
      exact ⟨name, hname, v.ln, fc, base, hkey, rfl, rfl⟩
  rw [h.fcVars, lookup_groupConstraints, Option.ite_none_right_eq_some, hexists, Option.some.injEq,
    eq_comm (b := vars)]

theorem NodeOf.lookup_base_iff (h : NodeOf names v) {fc : Str} {vars : Vars}
    (hvars : v.fcVars.lookup fc = some vars) (base : Str) (listed : List Str) :
    vars.lookup base = some listed ↔ (∃ name ∈ names, HasKey v.ln fc base name) ∧
      listed = names.filterMap (remainder v.ln fc base) := by
  have hexists : (∃ p ∈ ((names.filterMap nameParts).filter fun p => p.node = v.ln).filter
      fun p => p.fc = fc, p.base = base) ↔ ∃ name ∈ names, HasKey v.ln fc base name := by
    simp only [List.mem_filter, decide_eq_true_eq, and_assoc]
    rw [exists_parts_iff]
    constructor
    · rintro ⟨name, hname, _, _, _, hkey, rfl, rfl, rfl⟩
      exact ⟨name, hname, hkey⟩
    · rintro ⟨name, hname, hkey⟩
      exact ⟨name, hname, v.ln, fc, base, hkey, rfl, rfl, rfl⟩
  obtain ⟨-, rfl⟩ := (h.lookup_fc_iff fc vars).mp hvars
  rw [lookup_groupObjects, Option.ite_none_right_eq_some, hexists, Option.some.injEq]
  apply and_congr_right
  rintro ⟨name, -, hplain, -⟩
  rw [flatMap_subs hplain, eq_comm]

end

/-! ## The order of the nodes -/

theorem compareLe_total (s t : Str) : compareLe s t = true ∨ compareLe t s = true := by
  induction s generalizing t with
  | nil => exact Or.inl rfl
  | cons c s ih =>
      cases t with
      | nil => exact Or.inr rfl
      | cons d t =>
          by_cases hlt : c < d
          · exact Or.inl (by simp [compareLe, hlt])
          · by_cases hgt : d < c
            · exact Or.inr (by simp [compareLe, hgt])
            · obtain rfl := Char.le_antisymm (Char.not_lt.mp hgt) (Char.not_lt.mp hlt)
              simpa [compareLe] using ih t

theorem compareLe_antisymm {s t : Str} (hst : compareLe s t = true)
    (hts : compareLe t s = true) : s = t := by
  induction s generalizing t with
  | nil =>
      cases t with
      | nil => rfl
      | cons d t => cases hts
  | cons c s ih =>
      cases t with
      | nil => cases hst
      | cons d t =>
          simp only [compareLe, Bool.or_eq_true, Bool.and_eq_true, decide_eq_true_eq] at hst hts
          rcases hst with hlt | ⟨rfl, hst⟩
          · rcases hts with hgt | ⟨rfl, -⟩
            · exact absurd hgt (Char.lt_asymm hlt)
            · exact absurd hlt (Char.lt_irrefl _)
          · rcases hts with hgt | ⟨-, hts⟩
            · exact absurd hgt (Char.lt_irrefl _)
            · rw [ih hst hts]

theorem compareLe_trans {s t u : Str} (hst : compareLe s t = true)
    (htu : compareLe t u = true) : compareLe s u = true := by
  induction s generalizing t u with
  | nil => rfl
  | cons c s ih =>
      cases t with
      | nil => cases hst
      | cons d t =>
          cases u with
          | nil => cases htu
          | cons e u =>
              simp only [compareLe, Bool.or_eq_true, Bool.and_eq_true,
                decide_eq_true_eq] at hst htu ⊢
              rcases hst with hlt | ⟨rfl, hst⟩
              · rcases htu with hlt' | ⟨rfl, -⟩
                · exact Or.inl (Char.lt_trans hlt hlt')
                · exact Or.inl hlt
              · rcases htu with hlt' | ⟨rfl, htu⟩
                · exact Or.inl hlt'
                · exact Or.inr ⟨rfl, ih hst htu⟩

theorem nodup_nodes (names : List Str) :
    ((names.foldl addVariable []).map fun (lnName, fcVars) => FCVar.mk lnName fcVars).Pairwise
      fun a b => a.ln ≠ b.ln := by
  have hnodup : (groupNodes (names.filterMap nameParts)).keys.Nodup :=
    GoMap.nodup_keys_group NameParts.node [] _ _
  rw [foldl_addVariable]
  exact List.pairwise_map.mpr (List.pairwise_map.mp hnodup)

theorem mem_nodes_iff (names : List Str) (v : FCVar) :
    v ∈ (names.foldl addVariable []).map (fun (lnName, fcVars) => FCVar.mk lnName fcVars) ↔
      NodeOf names v := by
  rw [foldl_addVariable, ← mem_groupNodes_iff, List.mem_map]
  constructor
  · rintro ⟨entry, hentry, rfl⟩
    exact hentry
  · intro hmem
    exact ⟨(v.ln, v.fcVars), hmem, rfl⟩

section

variable {names : List Str} {ret : List FCVar}

theorem Collected.mem_iff (h : Collected names ret) (v : FCVar) : v ∈ ret ↔ NodeOf names v :=
  h.1.mem_iff.trans (mem_nodes_iff names v)

theorem Collected.distinct (h : Collected names ret) : ret.Pairwise fun a b => a.ln ≠ b.ln :=
  (h.1.pairwise_iff fun {_ _} hne => Ne.symm hne).mpr (nodup_nodes names)

theorem Collected.sorted (h : Collected names ret) :
    ret.Pairwise fun a b => compareLt a.ln b.ln := by
  refine (h.2.and h.distinct).imp ?_
  rintro a b ⟨hle, hne⟩
  by_contra hlt
  exact hne (compareLe_antisymm hle (Bool.not_eq_false _ ▸ hlt))

theorem Collected.groupsNames (h : Collected names ret) : GroupsNames names ret where
  sorted := h.sorted
  nodes node := by
    constructor
    · rintro ⟨v, hv, rfl⟩
      exact ((h.mem_iff v).mp hv).occurs
    · intro hoccurs
      let own := (names.filterMap nameParts).filter fun p => p.node = node
      have hnode : NodeOf names ⟨node, groupConstraints own⟩ := ⟨hoccurs, rfl⟩
      exact ⟨_, (h.mem_iff _).mpr hnode, rfl⟩
  constraints v hv fc := by
    rw [Option.isSome_iff_exists]
    have hnode := (h.mem_iff v).mp hv
    simp only [hnode.lookup_fc_iff, exists_and_left, exists_eq, and_true]
  objects v hv fc vars hvars base := by
    rw [Option.isSome_iff_exists]
    have hnode := (h.mem_iff v).mp hv
    simp only [hnode.lookup_base_iff hvars, exists_and_left, exists_eq, and_true]
  lists v hv fc vars hvars base listed hlisted :=
    ((((h.mem_iff v).mp hv).lookup_base_iff hvars base listed).mp hlisted).2

/-- Neither the order of iteration nor the way of sorting changes the result. -/
theorem Collected.eq {ret' : List FCVar} (h : Collected names ret) (h' : Collected names ret') :
    ret' = ret := by
  apply List.Perm.eq_of_pairwise _ h'.2 h.2 (h'.1.trans h.1.symm)
  intro a b ha hb hab hba
  have hln := compareLe_antisymm hab hba
  have hfa := ((h'.mem_iff a).mp ha).fcVars
  have hfb := ((h.mem_iff b).mp hb).fcVars
  cases a
  cases b
  simp only at hln hfa hfb
  subst hln
  rw [hfa, hfb]

theorem collected_groupVariables (names : List Str) : Collected names (groupVariables names) := by
  have : Std.Total fun a b : FCVar => compareLe a.ln b.ln = true :=
    ⟨fun a b => compareLe_total a.ln b.ln⟩
  have : IsTrans FCVar fun a b => compareLe a.ln b.ln = true :=
    ⟨fun _ _ _ hab hbc => compareLe_trans hab hbc⟩
  exact ⟨List.perm_insertionSort _ _, List.pairwise_insertionSort _ _⟩

end

/-! ## Names in another order -/

section

variable {names names' : List Str}

theorem SameOrder.symm (h : SameOrder names names') : SameOrder names' names :=
  fun node fc base => (h node fc base).symm

theorem SameOrder.exists_hasKey (h : SameOrder names names') {node fc base : Str}
    (hkey : ∃ name ∈ names, HasKey node fc base name) :
    ∃ name ∈ names', HasKey node fc base name := by
  obtain ⟨name, hname, hkey⟩ := hkey
  have hmem : name ∈ names.filter (HasKey node fc base ·) :=
    List.mem_filter.mpr ⟨hname, decide_eq_true hkey⟩
  rw [h] at hmem
  exact ⟨name, (List.mem_filter.mp hmem).1, hkey⟩

theorem filterMap_remainder_eq {node fc base : Str}
    (hplain : '$' ∉ node ∧ '$' ∉ fc ∧ '$' ∉ base) (names : List Str) :
    (names.filter (HasKey node fc base ·)).filterMap (remainder node fc base) =
      names.filterMap (remainder node fc base) := by
  rw [List.filterMap_filter]
  congr 1
  funext name
  by_cases hkey : HasKey node fc base name
  · simp [hkey]
  · cases hr : remainder node fc base name with
    | none => simp
    | some r =>
        have hname := (remainder_eq_some_iff name r).mp hr
        exact absurd ⟨hplain, Or.inr ⟨r, by rw [hname]; simp⟩⟩ hkey

theorem rel_of_some {A B : Type} {r : A → B → Prop} {a : Option A} {b : Option B}
    (hleft : ∀ x, a = some x → ∃ y, b = some y ∧ r x y)
    (hright : ∀ y, b = some y → ∃ x, a = some x) : Option.Rel r a b := by
  cases a with
  | none =>
      cases b with
      | none => exact .none
      | some y =>
          obtain ⟨x, hx⟩ := hright y rfl
          cases hx
  | some x =>
      obtain ⟨y, rfl, hr⟩ := hleft x rfl
      exact .some hr

section

variable {v v' : FCVar}

theorem SameOrder.lookup_fc (h : SameOrder names names') (hv : NodeOf names v)
    (hv' : NodeOf names' v') (hln : v.ln = v'.ln) {fc : Str} {vars : Vars}
    (hvars : v.fcVars.lookup fc = some vars) : ∃ vars', v'.fcVars.lookup fc = some vars' := by
  obtain ⟨⟨name, hname, base, hkey⟩, -⟩ := (hv.lookup_fc_iff fc vars).mp hvars
  obtain ⟨name', hname', hkey'⟩ := h.exists_hasKey ⟨name, hname, hkey⟩
  rw [hln] at hkey'
  exact ⟨_, (hv'.lookup_fc_iff fc _).mpr ⟨⟨name', hname', base, hkey'⟩, rfl⟩⟩

theorem SameOrder.lookup_base (h : SameOrder names names') (hv : NodeOf names v)
    (hv' : NodeOf names' v') (hln : v.ln = v'.ln) {fc base : Str} {vars vars' : Vars}
    (hvars : v.fcVars.lookup fc = some vars) (hvars' : v'.fcVars.lookup fc = some vars')
    {listed : List Str} (hlisted : vars.lookup base = some listed) :
    vars'.lookup base = some listed := by
  obtain ⟨hkey, rfl⟩ := (hv.lookup_base_iff hvars base listed).mp hlisted
  obtain ⟨name', hname', hkey'⟩ := h.exists_hasKey hkey
  have hplain := hkey'.1
  rw [← filterMap_remainder_eq hplain, h, filterMap_remainder_eq hplain, hln]
  rw [hln] at hkey'
  exact (hv'.lookup_base_iff hvars' base _).mpr ⟨⟨name', hname', hkey'⟩, rfl⟩

/-- A node is the same if the names of every key stand in the same order. -/
theorem SameOrder.same (h : SameOrder names names') (hv : NodeOf names v)
    (hv' : NodeOf names' v') (hln : v.ln = v'.ln) : v.Same v' := by
  refine ⟨hln, fun fc => rel_of_some ?_ ?_⟩
  · intro vars hvars
    obtain ⟨vars', hvars'⟩ := h.lookup_fc hv hv' hln hvars
    refine ⟨vars', hvars', fun base => rel_of_some ?_ ?_⟩
    · intro listed hlisted
      exact ⟨listed, h.lookup_base hv hv' hln hvars hvars' hlisted, rfl⟩
    · intro listed hlisted
      exact ⟨listed, h.symm.lookup_base hv' hv hln.symm hvars' hvars hlisted⟩
  · intro vars' hvars'
    exact h.symm.lookup_fc hv' hv hln.symm hvars'

end

theorem SameOrder.exists_ln (h : SameOrder names names') {ret ret' : List FCVar}
    (hret : Collected names ret) (hret' : Collected names' ret') {node : Str}
    (hnode : node ∈ ret.map FCVar.ln) : node ∈ ret'.map FCVar.ln := by
  obtain ⟨v, hv, rfl⟩ := List.mem_map.mp hnode
  obtain ⟨name, hname, fc, base, hkey⟩ := ((hret.mem_iff v).mp hv).occurs
  obtain ⟨name', hname', hkey'⟩ := h.exists_hasKey ⟨name, hname, hkey⟩
  obtain ⟨v', hv', hln⟩ := (hret'.groupsNames.nodes v.ln).mpr ⟨name', hname', fc, base, hkey'⟩
  exact List.mem_map.mpr ⟨v', hv', hln⟩

/-- The same nodes stand in the result, each with the same maps. -/
theorem SameOrder.forall₂_same (h : SameOrder names names') {ret ret' : List FCVar}
    (hret : Collected names ret) (hret' : Collected names' ret') :
    List.Forall₂ FCVar.Same ret ret' := by
  have hlns : ret.map FCVar.ln = ret'.map FCVar.ln := by
    have hperm : (ret.map FCVar.ln).Perm (ret'.map FCVar.ln) := by
      rw [List.perm_ext_iff_of_nodup]
      · intro node
        exact ⟨h.exists_ln hret hret', h.symm.exists_ln hret' hret⟩
      · exact List.pairwise_map.mpr hret.distinct
      · exact List.pairwise_map.mpr hret'.distinct
    have hanti : ∀ a b, a ∈ ret.map FCVar.ln → b ∈ ret'.map FCVar.ln →
        compareLe a b = true → compareLe b a = true → a = b :=
      fun _ _ _ _ hab hba => compareLe_antisymm hab hba
    apply hperm.eq_of_pairwise hanti
    · exact List.pairwise_map.mpr hret.2
    · exact List.pairwise_map.mpr hret'.2
  have hall : List.Forall₂ (fun v v' => v.ln = v'.ln) ret ret' := by
    have heq : List.Forall₂ Eq (ret.map FCVar.ln) (ret'.map FCVar.ln) := by
      rw [hlns]
      exact List.forall₂_same.mpr fun _ _ => rfl
    exact List.forall₂_map_left_iff.mp (List.forall₂_map_right_iff.mp heq)
  rw [List.forall₂_iff_zip] at hall ⊢
  refine ⟨hall.1, fun {v v'} hmem => ?_⟩
  obtain ⟨hv, hv'⟩ := List.of_mem_zip hmem
  exact h.same ((hret.mem_iff v).mp hv) ((hret'.mem_iff v').mp hv') (hall.2 hmem)

end

/-! ## The result of the request -/

/-- Grouping loses no name, and neither the order of a map nor that of names with
different keys matters. -/
theorem getLogicalDeviceVariablesHierarchical_groups {Value : Type}
    (server : VariableServer Value) {ldName : Str} {names : List Str}
    (hnames : server.getLogicalDeviceVariables ldName = .ok names) :
    ∃ ret, server.getLogicalDeviceVariablesHierarchical ldName = .ok ret ∧
      GroupsNames names ret ∧
      (∀ ret', Collected names ret' → ret' = ret) ∧
      ∀ names' ret', SameOrder names names' → Collected names' ret' →
        List.Forall₂ FCVar.Same ret ret' := by
  have hret := collected_groupVariables names
  refine ⟨groupVariables names, ?_, hret.groupsNames, fun ret' => hret.eq,
    fun names' ret' hsame => hsame.forall₂_same hret⟩
  unfold VariableServer.getLogicalDeviceVariablesHierarchical
  rw [hnames]
  rfl

def sampleNames : List Str := [lit "LLN0", lit "LLN0$ST$Mod$q", lit "GGIO1$MX$A", lit "LLN0$ST$Mod"]

def listedNamesServer : VariableServer Unit where
  getDeviceModelFromServer := none
  getLogicalDeviceList := .ok []
  getLogicalDeviceVariables _ := .ok sampleNames
  getVariableTypeValues _ _ := .ok []
  functionalConstraintFromString _ := 0

theorem getLogicalDeviceVariablesHierarchical_groups_sample :
    ∃ ret, listedNamesServer.getLogicalDeviceVariablesHierarchical (lit "LD0") = .ok ret ∧
      GroupsNames sampleNames ret ∧
      (∀ ret', Collected sampleNames ret' → ret' = ret) ∧
      ∀ names' ret', SameOrder sampleNames names' → Collected names' ret' →
        List.Forall₂ FCVar.Same ret ret' :=
  getLogicalDeviceVariablesHierarchical_groups listedNamesServer rfl

end Iec61850.Mms
