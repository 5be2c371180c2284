import Mathlib.Data.List.Induction

/-!
# The last write of a run

A field of a state that each call either overwrites with an encoding of its
argument or leaves alone holds, after any number of calls, the encoding of the
last argument.
-/

namespace Iec61850.LastWrite

variable {State Call Value Stored : Type}

/-- The argument of the last call that has one. -/
def lastArgument (argument : Call → Option Value) (calls : List Call) : Option Value :=
  (calls.filterMap argument).getLast?

theorem lastArgument_concat (argument : Call → Option Value) (calls : List Call)
    (call : Call) :
    lastArgument argument (calls ++ [call]) =
      (argument call).or (lastArgument argument calls) := by
  unfold lastArgument
  cases h : argument call with
  | none => simp [List.filterMap_append, h]
  | some v => simp [List.filterMap_append, h]

section Field

variable {step : State → Call → State} (get : State → Stored)
  {argument : Call → Option Value} (encode : Value → Stored)
  (hstep : ∀ s call, get (step s call) = ((argument call).map encode).getD (get s))
include hstep

/-- The field after a run of calls. -/
theorem get_foldl (s : State) (calls : List Call) :
    get (calls.foldl step s) =
      ((lastArgument argument calls).map encode).getD (get s) := by
  induction calls using List.reverseRecOn with
  | nil => rfl
  | append_singleton calls call ih =>
      rw [List.foldl_append, lastArgument_concat]
      simp only [List.foldl_cons, List.foldl_nil]
      rw [hstep, ih]
      cases argument call with
      | none => rfl
      | some v => rfl

/-- The field reads back if and only if decoding undoes the encoding of the last
argument. -/
theorem reads_back_iff (decode : Stored → Value) (s : State) (calls : List Call) :
    (∀ v, lastArgument argument calls = some v → decode (get (calls.foldl step s)) = v) ↔
      ∀ v, lastArgument argument calls = some v → decode (encode v) = v := by
  refine forall_congr' fun v => imp_congr_right fun hlast => ?_
  rw [get_foldl get encode hstep, hlast]
  rfl

end Field

/-- A field that no call overwrites. -/
theorem get_foldl_of_kept {step : State → Call → State} (get : State → Stored)
    (hstep : ∀ s call, get (step s call) = get s) (s : State) (calls : List Call) :
    get (calls.foldl step s) = get s := by
  induction calls generalizing s with
  | nil => rfl
  | cons call calls ih => rw [List.foldl_cons, ih, hstep]

end Iec61850.LastWrite
