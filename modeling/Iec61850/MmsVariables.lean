import Iec61850.ClientErrors
import Iec61850.GoMap
import Mathlib.Data.List.Sort

/-!
# Variables of a logical device

`GetLogicalDeviceVariablesHierarchical` groups the MMS variable names of a
logical device by logical node, functional constraint and data object.
-/

namespace Iec61850.Mms

open Go

/-- `strings.SplitN` for a one-byte separator. -/
def splitN (c : Char) : ℕ → Str → List Str
  | 0, _ => []
  | 1, s => [s]
  | n + 2, s =>
      match s.dropWhile (· ≠ c) with
      | [] => [s]
      | _ :: rest => s.takeWhile (· ≠ c) :: splitN c (n + 1) rest

/-- The components below each data object, `Vars`. -/
abbrev Vars := GoMap (List Str)

structure FCVar where
  ln : Str
  fcVars : GoMap Vars
  deriving DecidableEq

/-- The body of the loop over the names; those without a constraint are skipped. -/
def addVariable (m : GoMap (GoMap Vars)) (v : Str) : GoMap (GoMap Vars) :=
  match splitN '$' 3 v with
  | [lnName, fc, path] =>
      let parts := splitN '$' 2 path
      let base := parts.headD []
      let subs := parts.tail
      m.modify lnName [] fun fcVars =>
        fcVars.modify fc [] fun vars => vars.modify base [] fun listed => listed ++ subs
  | _ => m

/-- `strings.Compare` as an order. -/
def compareLe : Str → Str → Bool
  | [], _ => true
  | _ :: _, [] => false
  | c :: s, d :: t => c < d || (c = d && compareLe s t)

def groupVariables (vars : List Str) : List FCVar :=
  ((vars.foldl addVariable []).map fun (lnName, fcVars) => ⟨lnName, fcVars⟩).insertionSort
    fun a b => compareLe a.ln b.ln

/-- The distinct nodes and, in each, the distinct constraints. -/
structure Grouped (m : GoMap (GoMap Vars)) : Prop where
  nodes : m.keys.Nodup
  constraints : ∀ entry ∈ m, entry.2.keys.Nodup

theorem grouped_addVariable {m : GoMap (GoMap Vars)} (h : Grouped m) (v : Str) :
    Grouped (addVariable m v) := by
  unfold addVariable
  split
  next =>
    refine ⟨GoMap.nodup_keys_modify h.nodes,
      GoMap.forall_modify (P := fun fcVars : GoMap Vars => fcVars.keys.Nodup) h.constraints ?_ ?_⟩
    · exact List.nodup_nil
    · intro fcVars hfcVars
      exact GoMap.nodup_keys_modify hfcVars
  next => exact h

theorem grouped_foldl (vars : List Str) (m : GoMap (GoMap Vars)) (h : Grouped m) :
    Grouped (vars.foldl addVariable m) := by
  induction vars generalizing m with
  | nil => exact h
  | cons v vars ih => exact ih _ (grouped_addVariable h v)

def nodeConstraints (m : GoMap (GoMap Vars)) : List (Str × Str) :=
  m.flatMap fun (lnName, fcVars) => fcVars.map fun (fc, _) => (lnName, fc)

theorem nodup_nodeConstraints {m : GoMap (GoMap Vars)} (h : Grouped m) :
    (nodeConstraints m).Nodup := by
  unfold nodeConstraints
  rw [List.nodup_flatMap]
  constructor
  · intro entry hentry
    have hkeys := h.constraints entry hentry
    refine List.Nodup.of_map Prod.snd ?_
    rw [List.map_map]
    exact hkeys
  · refine (List.pairwise_map.mp h.nodes).imp ?_
    intro a b hne pair ha hb
    obtain ⟨fcA, -, rfl⟩ := List.mem_map.mp ha
    obtain ⟨fcB, -, hpair⟩ := List.mem_map.mp hb
    exact hne (congrArg Prod.fst hpair).symm

/-- No pair of a logical node and a functional constraint is listed twice. -/
theorem nodup_groupVariables (vars : List Str) :
    ((groupVariables vars).flatMap fun v => v.fcVars.map fun (fc, _) => (v.ln, fc)).Nodup := by
  have hgrouped := grouped_foldl vars [] ⟨List.nodup_nil, by simp⟩
  have hperm := List.perm_insertionSort (fun a b : FCVar => compareLe a.ln b.ln)
    ((vars.foldl addVariable []).map fun (lnName, fcVars) => ⟨lnName, fcVars⟩)
  refine (hperm.flatMap_right _).nodup_iff.mpr ?_
  rw [List.flatMap_map]
  exact nodup_nodeConstraints hgrouped

example : groupVariables [lit "LLN0", lit "LLN0$ST$Mod$q", lit "LLN0$ST$Mod", lit "GGIO1$MX$A"] =
    [⟨lit "GGIO1", [(lit "MX", [(lit "A", [])])]⟩,
      ⟨lit "LLN0", [(lit "ST", [(lit "Mod", [lit "q"])])]⟩] := by
  decide +kernel

end Iec61850.Mms
