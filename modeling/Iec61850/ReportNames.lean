import Iec61850.ReportInstances
import Mathlib.Data.List.Pairwise

/-!
# Names of report instances

An instance of an indexed report control block is named by the name of the
block and its index, padded to two digits; a block that is not indexed keeps
its name.  The names of a node are distinct unless one block's name continues
another one's with the digits of an index.
-/

namespace Iec61850.Scl

open Go

/-! ## Padded indices -/

theorem ofDigitChars_twoDigits (n : ℕ) : Nat.ofDigitChars 10 (twoDigits n) 0 = n := by
  unfold twoDigits
  split
  next => simp [itoa, Nat.ofDigitChars_cons]
  next => simp [itoa]

theorem twoDigits_injective : Function.Injective twoDigits := by
  intro m n h
  have hvalue := congrArg (Nat.ofDigitChars 10 · 0) h
  simpa only [ofDigitChars_twoDigits] using hvalue

/-! ## Names of the instances -/

def ReportControl.instanceNames (rcb : ReportControl) : List Str :=
  rcb.instanceIndices.map fun index => rcb.name ++ index

theorem ReportControl.mem_instanceNames {rcb : ReportControl} {name : Str} :
    name ∈ rcb.instanceNames ↔
      (rcb.indexed = false ∧ name = rcb.name) ∨
        (rcb.indexed = true ∧ ∃ i < rcb.maxInstances, name = rcb.name ++ twoDigits (i + 1)) := by
  cases hindexed : rcb.indexed with
  | false => simp [instanceNames, instanceIndices, hindexed]
  | true =>
      simp only [instanceNames, instanceIndices, hindexed, indexTexts, if_true, List.map_map,
        List.mem_map, List.mem_range, Function.comp_apply, eq_comm (a := name), true_and,
        reduceCtorEq, false_and, false_or]

theorem ReportControl.nodup_instanceNames (rcb : ReportControl) : rcb.instanceNames.Nodup := by
  unfold instanceNames instanceIndices indexTexts
  split
  next =>
    rw [List.map_map]
    apply List.Nodup.map _ List.nodup_range
    intro i j h
    exact Nat.succ_injective (twoDigits_injective (List.append_cancel_left h))
  next => exact List.nodup_singleton _

/-- No name is the name of an indexed block and one of its indices, and no name of
an indexed block continues the one of another with the first digits of an index. -/
structure NoNameClash (rcbs : List ReportControl) : Prop where
  plain : ∀ a ∈ rcbs, ∀ b ∈ rcbs, a.indexed = false → b.indexed = true →
    ∀ j < b.maxInstances, a.name ≠ b.name ++ twoDigits (j + 1)
  indexed : ∀ a ∈ rcbs, ∀ b ∈ rcbs, a.indexed = true → b.indexed = true →
    ∀ digits, digits ≠ [] → a.name = b.name ++ digits →
      ∀ i < a.maxInstances, ∀ j < b.maxInstances,
        digits ++ twoDigits (i + 1) ≠ twoDigits (j + 1)

theorem disjoint_instanceNames {rcbs : List ReportControl} (hclash : NoNameClash rcbs)
    {a b : ReportControl} (ha : a ∈ rcbs) (hb : b ∈ rcbs) (hne : a.name ≠ b.name) :
    a.instanceNames.Disjoint b.instanceNames := by
  intro name hamem hbmem
  rcases ReportControl.mem_instanceNames.mp hamem with ⟨haplain, rfl⟩ | ⟨haindexed, i, hi, rfl⟩
  · rcases ReportControl.mem_instanceNames.mp hbmem with ⟨-, hname⟩ | ⟨hbindexed, j, hj, hname⟩
    · exact hne hname
    · exact hclash.plain a ha b hb haplain hbindexed j hj hname
  · rcases ReportControl.mem_instanceNames.mp hbmem with
      ⟨hbplain, hname⟩ | ⟨hbindexed, j, hj, hname⟩
    · exact hclash.plain b hb a ha hbplain haindexed i hi hname.symm
    · rcases List.append_eq_append_iff.mp hname with
        ⟨digits, hb', hsplit⟩ | ⟨digits, ha', hsplit⟩
      · have hdigits : digits ≠ [] := by
          rintro rfl
          exact hne (by rw [hb', List.append_nil])
        exact hclash.indexed b hb a ha hbindexed haindexed digits hdigits hb' j hj i hi
          hsplit.symm
      · have hdigits : digits ≠ [] := by
          rintro rfl
          exact hne (by rw [ha', List.append_nil])
        exact hclash.indexed a ha b hb haindexed hbindexed digits hdigits ha' i hi j hj
          hsplit.symm

theorem noNameClash_of_disjoint {rcbs : List ReportControl}
    (h : ∀ a ∈ rcbs, ∀ b ∈ rcbs, a ≠ b → a.instanceNames.Disjoint b.instanceNames) :
    NoNameClash rcbs where
  plain := by
    intro a ha b hb haplain hbindexed j hj hname
    have hne : a ≠ b := by
      rintro rfl
      rw [haplain] at hbindexed
      cases hbindexed
    exact h a ha b hb hne (ReportControl.mem_instanceNames.mpr (.inl ⟨haplain, rfl⟩))
      (ReportControl.mem_instanceNames.mpr (.inr ⟨hbindexed, j, hj, hname⟩))
  indexed := by
    intro a ha b hb haindexed hbindexed digits hdigits hname i hi j hj hsplit
    have hne : a ≠ b := by
      rintro rfl
      exact hdigits (List.self_eq_append_right.mp hname)
    refine h a ha b hb hne (ReportControl.mem_instanceNames.mpr (.inr ⟨haindexed, i, hi, rfl⟩))
      (ReportControl.mem_instanceNames.mpr (.inr ⟨hbindexed, j, hj, ?_⟩))
    rw [hname, List.append_assoc, hsplit]

/-- With distinct names of the blocks, the names of all instances are distinct if
and only if none clash. -/
theorem nodup_instanceNames_iff {rcbs : List ReportControl}
    (hnames : (rcbs.map ReportControl.name).Nodup) :
    (rcbs.flatMap ReportControl.instanceNames).Nodup ↔ NoNameClash rcbs := by
  rw [List.nodup_flatMap]
  constructor
  · rintro ⟨-, hpairwise⟩
    have hsymm : Std.Symm (Function.onFun List.Disjoint ReportControl.instanceNames) :=
      ⟨fun _ _ hdisjoint _ hb ha => hdisjoint ha hb⟩
    apply noNameClash_of_disjoint
    intro a ha b hb hne
    exact hpairwise.forall ha hb hne
  · intro hclash
    refine ⟨fun rcb _ => rcb.nodup_instanceNames, ?_⟩
    have hdistinct := List.pairwise_map.mp hnames
    apply hdistinct.imp_of_mem
    intro a b ha hb hne
    exact disjoint_instanceNames hclash ha hb hne

/-! ## The names of a node -/

variable {rt : Runtime} {scl : SCL} {args : GeneratorArguments}

/-- A block with the name of the first instance of another one. -/
def twinReportsDevice : LogicalDevice where
  inst := lit "LD1"
  ln0 := some {
    lnClass := lit "LLN0"
    lnType := lit "LN0T"
    reportControlBlocks := [
      { name := lit "events", rptEnabled := some { maxStr := lit "2" } },
      { name := lit "events01", indexedStr := lit "false" }] }

def twinReportsModel : ParsedModel plainRuntime :=
  ParsedModel.ofDocument plainRuntime 4 (documentOf measurementTemplates [twinReportsDevice])
    (by decide +kernel)

theorem generate_twinReportsModel :
    (generate plainRuntime twinReportsModel.model {}).isOk = true := by
  decide +kernel

theorem selectedDevices_twinReportsModel :
    (selectedDevices twinReportsModel.model {}).isOk = true := by
  decide +kernel

end Iec61850.Scl
