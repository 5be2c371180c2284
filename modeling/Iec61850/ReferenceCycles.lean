import Mathlib.Data.Fintype.Card
import Mathlib.Data.Set.Finite.Basic
import Mathlib.Logic.Relation

/-!
# Reference cycles and well-foundedness

Following references from one node of a graph comes to an end exactly when no
cycle can be reached from it, provided the targets of references form a finite
set.
-/

namespace Iec61850.Reference

open Relation

variable {α : Type*} {r : α → α → Prop}

theorem not_transGen_self_of_acc {a : α} (ha : Acc (Function.swap r) a) :
    ¬ TransGen r a a := by
  intro hcycle
  have hacc : Acc (TransGen (Function.swap r)) a := ha.transGen
  have hloop : TransGen (Function.swap r) a a := transGen_swap.mpr hcycle
  induction hacc with
  | intro b _ ih =>
      exact ih b hloop (ha.inv_of_transGen hloop) hcycle hloop

/-- Over finitely many targets, following references from a node ends when no
reachable node refers back to itself. -/
theorem acc_of_no_reachable_cycle {targets : Set α} (hfinite : targets.Finite)
    (htargets : ∀ a b, r a b → b ∈ targets) {a : α}
    (hcycle : ∀ b, ReflTransGen r a b → ¬ TransGen r b b) :
    Acc (Function.swap r) a := by
  let reachable := {b | ReflTransGen r a b}
  have hsubset : reachable ⊆ insert a targets := by
    intro b hb
    rcases ReflTransGen.cases_tail hb with rfl | ⟨c, -, hc⟩
    · exact Set.mem_insert _ _
    · exact Set.mem_insert_of_mem _ (htargets c b hc)
  have : Finite reachable := (hfinite.insert a).subset hsubset
  let later : reachable → reachable → Prop := fun x y => TransGen r y.1 x.1
  have : IsTrans reachable later := ⟨fun _ _ _ hxy hyz => hyz.trans hxy⟩
  have : Std.Irrefl later := ⟨fun x => hcycle x.1 x.2⟩
  have hwf : WellFounded later := Finite.wellFounded_of_trans_of_irrefl later
  have hacc : ∀ x : reachable, Acc (Function.swap r) x.1 := by
    intro x
    induction x using hwf.induction with
    | _ x ih =>
        refine Acc.intro _ fun y hy => ?_
        have hreach : ReflTransGen r a y := x.2.tail hy
        exact ih ⟨y, hreach⟩ (TransGen.single hy)
  exact hacc ⟨a, ReflTransGen.refl⟩

end Iec61850.Reference
