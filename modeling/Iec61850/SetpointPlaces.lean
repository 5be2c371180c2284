import Iec61850.DataModelSafety
import Iec61850.NamedOutput
import Iec61850.WordInsertion

/-!
# Places of `SE_`

A variable is the model prefix and a rest.  `SE_` is inserted after nine bytes
of the variable, that is inside the prefix or inside the rest.  Two prefixes
are treated alike if it stays behind both and changes the rest in the same way.
-/

namespace Iec61850.Scl

open Go

/-! ## Rests -/

/-- The rest of a variable, behind which a name can be appended without making
it start with `_SE_`. -/
def Rooted (w : Str) : Prop :=
  ∀ name, lit "_SE_" <+: joinName w name ↔ lit "_SE_" <+: w

theorem Rooted.join {w : Str} (h : Rooted w) (name : Str) : Rooted (joinName w name) := by
  intro other
  have hassoc : joinName (joinName w name) other = joinName w (joinName name other) := by
    simp [joinName]
  rw [hassoc, h, h]

theorem rooted_of_length {w : Str} (h : 4 ≤ w.length) : Rooted w := by
  intro name
  constructor
  · intro hprefix
    exact List.prefix_of_prefix_length_le hprefix (List.prefix_append ..) (by simpa [lit] using h)
  · intro hprefix
    exact hprefix.trans (List.prefix_append ..)

theorem Rooted.ne_nil {w : Str} (h : Rooted w) : w ≠ [] := by
  rintro rfl
  have hprefix := (h (lit "SE_")).mp (by simp [joinName, lit])
  simp [lit] at hprefix

theorem InModel.rooted {w : Str} (h : InModel [] 2 w) : Rooted w := by
  intro name
  have hsame := h.hasPrefix_joinName name
  rw [Bool.eq_iff_iff, hasPrefix_iff, hasPrefix_iff] at hsame
  exact hsame

/-! ## Inserting behind a prefix -/

variable {p q w : Str}

theorem mangleSE_of_settled (h : lit "_SE_" <+: w) : mangleSE p (p ++ w) = p ++ w := by
  rw [mangleSE, if_pos]
  rw [hasPrefix_iff]
  exact (List.prefix_append_right_inj p).mpr h

theorem mangleSE_of_not_settled (h : ¬ lit "_SE_" <+: w) :
    mangleSE p (p ++ w) = Words.insertAt (lit "SE_") 9 (p ++ w) := by
  rw [mangleSE, if_neg]
  · rfl
  · rw [hasPrefix_iff]
    exact fun hprefix => h ((List.prefix_append_right_inj p).mp hprefix)

theorem cuttable_append_iff :
    Cuttable p (p ++ w) ↔ lit "_SE_" <+: w ∨ 9 ≤ (p ++ w).length := by
  rw [Cuttable, List.prefix_append_right_inj]

/-- Appending a name comes to the same before and after the insertion. -/
theorem Rooted.mangleSE_joinName (h : Rooted w) (hcut : Cuttable p (p ++ w)) (name : Str) :
    mangleSE p (p ++ joinName w name) = joinName (mangleSE p (p ++ w)) name := by
  by_cases hse : lit "_SE_" <+: w
  · rw [mangleSE_of_settled hse, mangleSE_of_settled ((h name).mpr hse), joinName_append]
  · have hlength := (cuttable_append_iff.mp hcut).resolve_left hse
    rw [mangleSE_of_not_settled hse, mangleSE_of_not_settled (fun hpre => hse ((h name).mp hpre)),
      ← joinName_append, joinName, joinName, Words.insertAt_append hlength]

/-- `SE_` stays behind both prefixes and changes the rest in the same way. -/
def InsertedAlike (p q w : Str) : Prop :=
  CarriedName p q (mangleSE p (p ++ w)) (mangleSE q (q ++ w))

/-- Prefixes of one length, up to nine, are treated alike. -/
theorem insertedAlike_of_length_eq (hlength : p.length = q.length) (hnine : p.length ≤ 9)
    (w : Str) : InsertedAlike p q w := by
  by_cases hse : lit "_SE_" <+: w
  · exact ⟨w, mangleSE_of_settled hse, mangleSE_of_settled hse⟩
  · obtain ⟨k, hk⟩ : ∃ k, 9 = p.length + k := ⟨9 - p.length, by omega⟩
    rw [InsertedAlike, mangleSE_of_not_settled hse, mangleSE_of_not_settled hse]
    refine ⟨Words.insertAt (lit "SE_") k w, ?_, ?_⟩
    · rw [hk, Words.insertAt_append_left]
    · rw [hk, hlength, Words.insertAt_append_left]

/-- A rest into which `SE_` is inserted behind both prefixes. -/
structure SetpointPlace (p q w : Str) : Prop where
  rooted : Rooted w
  left : Cuttable p (p ++ w)
  right : Cuttable q (q ++ w)
  alike : InsertedAlike p q w

theorem cuttable_joinName (hrooted : Rooted w) (h : Cuttable p (p ++ w)) (name : Str) :
    Cuttable p (p ++ joinName w name) := by
  rw [cuttable_append_iff] at h ⊢
  refine h.imp (hrooted name).mpr fun hlength => ?_
  simp only [List.length_append, joinName] at hlength ⊢
  omega

/-- The places are kept when a name is appended. -/
theorem SetpointPlace.join (h : SetpointPlace p q w) (name : Str) :
    SetpointPlace p q (joinName w name) := by
  obtain ⟨r, hleft, hright⟩ := h.alike
  refine ⟨h.rooted.join name, cuttable_joinName h.rooted h.left name,
    cuttable_joinName h.rooted h.right name, joinName r name, ?_, ?_⟩
  · rw [h.rooted.mangleSE_joinName h.left, hleft, joinName_append]
  · rw [h.rooted.mangleSE_joinName h.right, hright, joinName_append]

/-- The places are kept by the insertion itself. -/
theorem SetpointPlace.inserted (h : SetpointPlace p q w) {r : Str}
    (hleft : mangleSE p (p ++ w) = p ++ r) (hright : mangleSE q (q ++ w) = q ++ r) :
    SetpointPlace p q r := by
  by_cases hse : lit "_SE_" <+: w
  · rw [mangleSE_of_settled hse] at hleft
    obtain rfl := List.append_cancel_left hleft
    exact h
  · have hlengthp := (cuttable_append_iff.mp h.left).resolve_left hse
    have hlengthq := (cuttable_append_iff.mp h.right).resolve_left hse
    rw [mangleSE_of_not_settled hse] at hleft hright
    have hlength : r.length = w.length + 3 := by
      have hcount := congrArg List.length hleft
      simp only [Words.length_insertAt, List.length_append] at hcount
      have hthree : (lit "SE_").length = 3 := rfl
      omega
    have hpositive := List.length_pos_iff.mpr h.rooted.ne_nil
    rw [List.length_append] at hlengthp hlengthq
    refine ⟨rooted_of_length (by omega), ?_, ?_, ?_⟩
    · rw [cuttable_append_iff, List.length_append]
      omega
    · rw [cuttable_append_iff, List.length_append]
      omega
    · by_cases hagain : lit "_SE_" <+: r
      · exact ⟨r, mangleSE_of_settled hagain, mangleSE_of_settled hagain⟩
      · obtain ⟨r', hr, hr'⟩ := Words.insertAt_alike_twice
          (by rw [List.length_append]; omega) (by rw [List.length_append]; omega) hleft hright
        exact ⟨r', by rw [mangleSE_of_not_settled hagain, hr],
          by rw [mangleSE_of_not_settled hagain, hr']⟩

/-! ## Elements of arrays -/

theorem commuting_with_SE {y : Str} (h : lit "SE_" ++ y = y ++ lit "SE_") (hlength : y.length < 3) :
    y = [] := by
  match y, hlength with
  | [], _ => rfl
  | [a], _ => simp [lit] at h
  | [a, b], _ => simp [lit] at h

/-- Two insertions of `SE_` at less than three letters from each other are one. -/
theorem insertAt_SE_eq {k k' : ℕ} (hk : k ≤ w.length) (hk' : k' ≤ w.length) (hnear : k < k' + 3)
    (hnear' : k' < k + 3)
    (h : Words.insertAt (lit "SE_") k w = Words.insertAt (lit "SE_") k' w) : k = k' := by
  rcases Nat.le_total k k' with hle | hle
  · obtain ⟨x, y, z, -, rfl, rfl, hcommute⟩ := Words.exists_commuting_of_le hle hk' h
    rw [List.length_append] at hnear'
    rw [commuting_with_SE hcommute (by omega), List.append_nil]
  · obtain ⟨x, y, z, -, rfl, rfl, hcommute⟩ := Words.exists_commuting_of_le hle hk h.symm
    rw [List.length_append] at hnear
    rw [commuting_with_SE hcommute (by omega), List.append_nil]

theorem not_mem_SE_of_isDigit {c : Char} (h : c.isDigit = true) : c ∉ lit "SE_" := by
  intro hmem
  have hletters : c = 'S' ∨ c = 'E' ∨ c = '_' := by simpa [lit] using hmem
  rcases hletters with rfl | rfl | rfl <;> simp [Char.isDigit] at h

/-- The place in the name of an element of an array is in front of the index, or
the same behind both prefixes. -/
theorem insertedAlike_of_digit {x y z : Str} {c : Char} (hp : p ≠ []) (hq : q ≠ [])
    (hx : 5 ≤ x.length) (hdigit : c.isDigit = true) (hse : ¬ lit "_SE_" <+: x ++ c :: y)
    (hz : ¬ lit "_SE_" <+: x ++ z) (hleft : 9 ≤ (p ++ (x ++ c :: y)).length)
    (hright : 9 ≤ (q ++ (x ++ c :: y)).length) (halike : InsertedAlike p q (x ++ c :: y)) :
    InsertedAlike p q (x ++ z) := by
  obtain ⟨r, h, h'⟩ := halike
  rw [mangleSE_of_not_settled hse] at h h'
  rw [InsertedAlike, mangleSE_of_not_settled hz, mangleSE_of_not_settled hz]
  have hse_ne : lit "SE_" ≠ [] := by simp [lit]
  have hc := not_mem_SE_of_isDigit hdigit
  have hlengthp := List.length_pos_iff.mpr hp
  have hlengthq := List.length_pos_iff.mpr hq
  -- behind the digit the rest goes on with it, in front of the digit it does not
  have hbehind : ∀ {o : Str}, (o ++ x).length < 9 →
      Words.insertAt (lit "SE_") 9 (o ++ (x ++ c :: y)) = o ++ r → ∃ v, r = x ++ c :: v := by
    intro o ho hinserted
    obtain ⟨j, hj⟩ : ∃ j, 9 = o.length + (x.length + (1 + j)) := by
      rw [List.length_append] at ho
      exact ⟨9 - o.length - x.length - 1, by omega⟩
    have hsplit : x ++ c :: y = x ++ ([c] ++ y) := rfl
    have hone : 1 + j = [c].length + j := rfl
    rw [hj, hsplit, Words.insertAt_append_left, Words.insertAt_append_left, hone,
      Words.insertAt_append_left] at hinserted
    exact ⟨_, (List.append_cancel_left hinserted).symm⟩
  by_cases hkp : 9 ≤ (p ++ x).length
  · by_cases hkq : 9 ≤ (q ++ x).length
    · obtain ⟨s, hs, hr⟩ := Words.exists_insertAt_before hkp h
      obtain ⟨s', hs', hr'⟩ := Words.exists_insertAt_before hkq h'
      obtain rfl := List.append_cancel_right (hr.symm.trans hr')
      refine ⟨s ++ z, ?_, ?_⟩
      · rw [← List.append_assoc, Words.insertAt_append hkp, hs, List.append_assoc]
      · rw [← List.append_assoc, Words.insertAt_append hkq, hs', List.append_assoc]
    · obtain ⟨v, hv⟩ := hbehind (by omega) h'
      exact absurd hv (Words.insertAt_ne_of_before hse_ne hc hkp h)
  · by_cases hkq : 9 ≤ (q ++ x).length
    · obtain ⟨v, hv⟩ := hbehind (by omega) h
      exact absurd hv (Words.insertAt_ne_of_before hse_ne hc hkq h')
    · rw [List.length_append] at hkp hkq hleft hright
      obtain ⟨k, hk⟩ : ∃ k, 9 = p.length + k := ⟨9 - p.length, by omega⟩
      obtain ⟨k', hk'⟩ : ∃ k', 9 = q.length + k' := ⟨9 - q.length, by omega⟩
      nth_rewrite 1 [hk] at h
      nth_rewrite 1 [hk'] at h'
      rw [Words.insertAt_append_left] at h h'
      have hsame : k = k' := insertAt_SE_eq (by omega) (by omega) (by omega) (by omega)
        ((List.append_cancel_left h).trans (List.append_cancel_left h').symm)
      refine ⟨Words.insertAt (lit "SE_") k (x ++ z), ?_, ?_⟩
      · nth_rewrite 1 [hk]
        rw [Words.insertAt_append_left]
      · nth_rewrite 1 [hk']
        rw [Words.insertAt_append_left, ← hsame]

theorem exists_digit_itoa (i : ℕ) : ∃ c digits, itoa i = c :: digits ∧ c.isDigit = true := by
  cases hdigits : itoa i with
  | nil => simp [itoa, Nat.toDigits_ne_nil] at hdigits
  | cons c digits =>
      have hmem : c ∈ Nat.toDigits 10 i := by
        have hsame : Nat.toDigits 10 i = c :: digits := hdigits
        rw [hsame]
        exact List.mem_cons_self ..
      exact ⟨c, digits, rfl, Nat.isDigit_of_mem_toDigits (by omega) (by omega) hmem⟩

/-- If a name below an element of an array is a place, every name of the
attribute itself is one. -/
theorem SetpointPlace.of_element (hp : p ≠ []) (hq : q ≠ []) (hrooted : Rooted w)
    (hlength : 4 ≤ w.length) {i : ℕ} {y z : Str}
    (h : SetpointPlace p q (joinName (joinName w (itoa i)) y))
    (hleft : Cuttable p (p ++ joinName w z)) (hright : Cuttable q (q ++ joinName w z)) :
    SetpointPlace p q (joinName w z) := by
  refine ⟨hrooted.join z, hleft, hright, ?_⟩
  by_cases hse : lit "_SE_" <+: w
  · exact ⟨joinName w z, mangleSE_of_settled ((hrooted z).mpr hse),
      mangleSE_of_settled ((hrooted z).mpr hse)⟩
  · obtain ⟨c, digits, hdigits, hdigit⟩ := exists_digit_itoa i
    have hname : joinName (joinName w (itoa i)) y =
        (w ++ ['_']) ++ c :: (digits ++ '_' :: y) := by
      rw [hdigits]
      simp [joinName]
    have hother : joinName w z = (w ++ ['_']) ++ z := by simp [joinName]
    have hnse : ¬ lit "_SE_" <+: joinName (joinName w (itoa i)) y := by
      rw [hrooted.join (itoa i) y, hrooted (itoa i)]
      exact hse
    have hnsez : ¬ lit "_SE_" <+: joinName w z := by
      rw [hrooted z]
      exact hse
    have hcutp := (cuttable_append_iff.mp h.left).resolve_left hnse
    have hcutq := (cuttable_append_iff.mp h.right).resolve_left hnse
    have halike := h.alike
    rw [hname] at hnse hcutp hcutq halike
    rw [hother] at hnsez ⊢
    exact insertedAlike_of_digit hp hq (by simp; omega) hdigit hnse hnsez hcutp hcutq halike

/-! ## The attributes of constraint SE -/

/-- The names below which the members of an attribute are defined. -/
def memberParents (da : DataAttribute) (w : Str) : List Str :=
  if 0 < da.count then (List.range da.count.toNat).map fun idx => joinName w (itoa idx) else [w]

/-- The names below which they are declared. -/
def declaredParents (_ : DataAttribute) (w : Str) : List Str := [w]

section Outer

variable (parents : DataAttribute → Str → List Str)

/-- The rests of the attributes of constraint SE which are below no other. -/
def outerSetpoints (u : Str) : List DataAttribute → List Str
  | [] => []
  | da :: rest =>
      have := da.sizeOf_subDataAttributes
      (if da.fc = lit "SE" then [joinName u da.name]
        else (parents da (joinName u da.name)).flatMap fun v =>
          outerSetpoints v da.subDataAttributes) ++ outerSetpoints u rest
  termination_by das => sizeOf das

def objectSetpoints (u : Str) : List DataObject → List Str
  | [] => []
  | node :: rest =>
      have := node.sizeOf_subDataObjects
      objectSetpoints (joinName u node.name) node.subDataObjects ++
        outerSetpoints parents (joinName u node.name) node.dataAttributes ++
        objectSetpoints u rest
  termination_by nodes => sizeOf nodes

end Outer

variable {parents : DataAttribute → Str → List Str}

@[simp] theorem outerSetpoints_nil (u : Str) : outerSetpoints parents u [] = [] := by
  rw [outerSetpoints]

theorem forall_mem_outerSetpoints_cons {u : Str} {da : DataAttribute} {rest : List DataAttribute}
    {P : Str → Prop} :
    (∀ w ∈ outerSetpoints parents u (da :: rest), P w) ↔
      (da.fc = lit "SE" → P (joinName u da.name)) ∧
      (da.fc ≠ lit "SE" → ∀ v ∈ parents da (joinName u da.name),
        ∀ w ∈ outerSetpoints parents v da.subDataAttributes, P w) ∧
      ∀ w ∈ outerSetpoints parents u rest, P w := by
  rw [outerSetpoints]
  by_cases hse : da.fc = lit "SE" <;> simp [hse, or_imp, forall_and]
  grind

/-- The members are named below the attribute itself or below an element. -/
def ParentsBelow (parents : DataAttribute → Str → List Str) : Prop :=
  ∀ da w, ∀ v ∈ parents da w, v = w ∨ ∃ name, v = joinName w name

theorem parentsBelow_memberParents : ParentsBelow memberParents := by
  intro da w v hv
  unfold memberParents at hv
  split at hv
  · obtain ⟨idx, -, rfl⟩ := List.mem_map.mp hv
    exact Or.inr ⟨_, rfl⟩
  · exact Or.inl (List.mem_singleton.mp hv)

theorem parentsBelow_declaredParents : ParentsBelow declaredParents :=
  fun _ _ _ hv => Or.inl (List.mem_singleton.mp hv)

/-- Names of attributes below `u`. -/
theorem exists_joinName_of_mem_outerSetpoints (hparents : ParentsBelow parents) {u w : Str}
    {das : List DataAttribute} (hw : w ∈ outerSetpoints parents u das) :
    ∃ name, w = joinName u name := by
  revert w
  induction das using dataAttribute_induction generalizing u with
  | nil => simp
  | cons da rest ihm ihr =>
      rw [forall_mem_outerSetpoints_cons]
      refine ⟨fun _ => ⟨_, rfl⟩, fun _ v hv w hw => ?_, fun w hw => ihr hw⟩
      obtain ⟨name, rfl⟩ := ihm hw
      rcases hparents da _ v hv with rfl | ⟨between, rfl⟩
      · exact ⟨joinName da.name name, by simp [joinName]⟩
      · exact ⟨joinName da.name (joinName between name), by simp [joinName]⟩

/-- Below a place all names are places. -/
theorem SetpointPlace.outerSetpoints (hparents : ParentsBelow parents) {u : Str}
    (hu : SetpointPlace p q u) (das : List DataAttribute) :
    ∀ w ∈ outerSetpoints parents u das, SetpointPlace p q w := by
  intro w hw
  obtain ⟨name, rfl⟩ := exists_joinName_of_mem_outerSetpoints hparents hw
  exact hu.join name

/-- An attribute with a declared setting has one in every element. -/
theorem exists_mem_outerSetpoints {u w : Str} {das : List DataAttribute}
    (hw : w ∈ outerSetpoints declaredParents u das) (v : Str) :
    ∃ w', w' ∈ outerSetpoints memberParents v das := by
  revert w
  induction das using dataAttribute_induction generalizing u v with
  | nil => simp
  | cons da rest ihm ihr =>
      rw [forall_mem_outerSetpoints_cons]
      have hrest : ∀ w ∈ outerSetpoints declaredParents u rest,
          ∃ w', w' ∈ outerSetpoints memberParents v (da :: rest) := by
        intro w hw
        obtain ⟨w', hw'⟩ := ihr v hw
        refine ⟨w', ?_⟩
        rw [outerSetpoints]
        exact List.mem_append_right _ hw'
      refine ⟨fun hse => ?_, fun hse x _ w hw => ?_, hrest⟩
      · refine ⟨joinName v da.name, ?_⟩
        rw [outerSetpoints, if_pos hse]
        exact List.mem_append_left _ (List.mem_singleton_self _)
      · obtain ⟨parent, hparent⟩ : ∃ parent, parent ∈ memberParents da (joinName v da.name) := by
          unfold memberParents
          split
          next harray =>
            exact ⟨_, List.mem_map_of_mem (List.mem_range.mpr (show 0 < da.count.toNat by omega))⟩
          next => exact ⟨_, List.mem_singleton_self _⟩
        obtain ⟨w', hw'⟩ := ihm parent hw
        refine ⟨w', ?_⟩
        rw [outerSetpoints, if_neg hse]
        exact List.mem_append_left _ (List.mem_flatMap.mpr ⟨parent, hparent, hw'⟩)

/-- The names declared for the members of an array are places if those of its
elements are. -/
theorem declared_setpointPlaces (hp : p ≠ []) (hq : q ≠ []) {u : Str} {das : List DataAttribute}
    (hrooted : Rooted u) (hlength : 3 ≤ u.length)
    (h : ∀ w ∈ outerSetpoints memberParents u das, SetpointPlace p q w) :
    ∀ w ∈ outerSetpoints declaredParents u das,
      Cuttable p (p ++ w) → Cuttable q (q ++ w) → SetpointPlace p q w := by
  induction das using dataAttribute_induction generalizing u with
  | nil => simp
  | cons da rest ihm ihr =>
      rw [forall_mem_outerSetpoints_cons] at h ⊢
      obtain ⟨hown, hmembers, hrest⟩ := h
      have hbelow : 4 ≤ (joinName u da.name).length := by
        simp only [joinName, List.length_append, List.length_cons]
        omega
      refine ⟨fun hse _ _ => hown hse, fun hse v hv => ?_, ihr hrooted hlength hrest⟩
      obtain rfl : v = joinName u da.name := List.mem_singleton.mp hv
      by_cases harray : 0 < da.count
      · intro w hw hleft hright
        have hzero : joinName (joinName u da.name) (itoa 0) ∈
            memberParents da (joinName u da.name) := by
          rw [memberParents, if_pos harray]
          exact List.mem_map_of_mem (List.mem_range.mpr (by omega))
        obtain ⟨w', hw'⟩ := exists_mem_outerSetpoints hw
          (joinName (joinName u da.name) (itoa 0))
        have hplace := hmembers hse _ hzero w' hw'
        obtain ⟨y, rfl⟩ := exists_joinName_of_mem_outerSetpoints parentsBelow_memberParents hw'
        obtain ⟨z, rfl⟩ := exists_joinName_of_mem_outerSetpoints parentsBelow_declaredParents hw
        exact hplace.of_element hp hq (hrooted.join _) hbelow hleft hright
      · refine ihm (hrooted.join _) (by omega) (hmembers hse _ ?_)
        rw [memberParents, if_neg harray]
        exact List.mem_singleton_self _

/-! ## The settings of data objects -/

@[simp] theorem objectSetpoints_nil (u : Str) : objectSetpoints parents u [] = [] := by
  rw [objectSetpoints]

theorem forall_mem_objectSetpoints_cons {u : Str} {node : DataObject} {rest : List DataObject}
    {P : Str → Prop} :
    (∀ w ∈ objectSetpoints parents u (node :: rest), P w) ↔
      (∀ w ∈ objectSetpoints parents (joinName u node.name) node.subDataObjects, P w) ∧
      (∀ w ∈ outerSetpoints parents (joinName u node.name) node.dataAttributes, P w) ∧
      ∀ w ∈ objectSetpoints parents u rest, P w := by
  rw [objectSetpoints, List.forall_mem_append, List.forall_mem_append, and_assoc]

theorem InModel.length_rest {w : Str} (h : InModel [] 2 w) : 3 ≤ w.length := by
  obtain ⟨rest, rfl, hcount⟩ := h
  have hlength := List.count_le_length (a := '_') (l := rest)
  simp only [joinName, List.length_append, List.length_cons]
  omega

theorem declared_objectPlaces (hp : p ≠ []) (hq : q ≠ []) {u : Str} {nodes : List DataObject}
    (hu : InModel [] 1 u) (h : ∀ w ∈ objectSetpoints memberParents u nodes, SetpointPlace p q w) :
    ∀ w ∈ objectSetpoints declaredParents u nodes,
      Cuttable p (p ++ w) → Cuttable q (q ++ w) → SetpointPlace p q w := by
  induction nodes using dataObject_induction generalizing u with
  | nil => simp
  | cons node rest ihm ihr =>
      rw [forall_mem_objectSetpoints_cons] at h ⊢
      obtain ⟨hobjects, hattributes, hrest⟩ := h
      have hdoName := hu.child node.name
      exact ⟨ihm (hdoName.mono (by omega)) hobjects,
        declared_setpointPlaces hp hq hdoName.rooted hdoName.length_rest hattributes,
        ihr hu hrest⟩

theorem rooted_of_mem_outerSetpoints (hparents : ParentsBelow parents) {u w : Str}
    {das : List DataAttribute} (hu : Rooted u) (hw : w ∈ outerSetpoints parents u das) :
    Rooted w := by
  obtain ⟨name, rfl⟩ := exists_joinName_of_mem_outerSetpoints hparents hw
  exact hu.join name

theorem rooted_of_mem_objectSetpoints (hparents : ParentsBelow parents) {u : Str}
    {nodes : List DataObject} (hu : InModel [] 1 u) :
    ∀ w ∈ objectSetpoints parents u nodes, Rooted w := by
  induction nodes using dataObject_induction generalizing u with
  | nil => simp
  | cons node rest ihm ihr =>
      rw [forall_mem_objectSetpoints_cons]
      have hdoName := hu.child node.name
      exact ⟨ihm (hdoName.mono (by omega)),
        fun w hw => rooted_of_mem_outerSetpoints hparents hdoName.rooted hw, ihr hu⟩

/-! ## Runs that insert `SE_` -/

/-- The definitions insert `SE_` into every setting. -/
theorem mem_definedAttributes {u : Str} {das : List DataAttribute} :
    ∀ w ∈ outerSetpoints memberParents u das, p ++ w ∈ definedAttributes p (p ++ u) das := by
  induction das using dataAttribute_induction generalizing u with
  | nil => simp
  | cons da rest ihm ihr =>
      rw [forall_mem_outerSetpoints_cons, definedAttributes, joinName_append]
      refine ⟨fun hse => ?_, fun hse v hv w hw => ?_, fun w hw => ?_⟩
      · rw [setpoints, if_pos hse]
        exact List.mem_append_left _ (List.mem_singleton_self _)
      · apply List.mem_append_right
        apply List.mem_append_right
        apply List.mem_append_left
        rw [setpointVariable, if_neg hse]
        unfold memberParents at hv
        by_cases harray : 0 < da.count
        · rw [if_pos harray] at hv ⊢
          obtain ⟨idx, hidx, rfl⟩ := List.mem_map.mp hv
          refine List.mem_flatMap.mpr ⟨idx, hidx, ?_⟩
          rw [joinName_append]
          exact ihm w hw
        · rw [if_neg harray] at hv ⊢
          obtain rfl := List.mem_singleton.mp hv
          exact ihm w hw
      · apply List.mem_append_right
        apply List.mem_append_right
        apply List.mem_append_right
        exact ihr w hw

theorem mem_definedObjects {u : Str} {nodes : List DataObject} :
    ∀ w ∈ objectSetpoints memberParents u nodes, p ++ w ∈ definedObjects p (p ++ u) nodes := by
  induction nodes using dataObject_induction generalizing u with
  | nil => simp
  | cons node rest ihm ihr =>
      rw [forall_mem_objectSetpoints_cons, definedObjects, joinName_append]
      refine ⟨fun w hw => ?_, fun w hw => ?_, fun w hw => ?_⟩
      · exact List.mem_append_right _ (List.mem_append_left _ (ihm w hw))
      · exact List.mem_append_right _ (List.mem_append_right _
          (List.mem_append_left _ (mem_definedAttributes w hw)))
      · exact List.mem_append_right _ (List.mem_append_right _
          (List.mem_append_right _ (ihr w hw)))

end Iec61850.Scl
