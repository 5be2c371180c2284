import Iec61850.GoText
import Mathlib.Data.List.Nodup

/-!
# Maps with text keys

A Go map as the list of its entries in the order of insertion.
-/

namespace Iec61850.Go

abbrev GoMap (V : Type) := List (Str × V)

namespace GoMap

variable {V : Type}

def keys (m : GoMap V) : List Str := m.map Prod.fst

/-- `m[key] = f(m[key])`, after `m[key] = empty` for a new key. -/
def modify (key : Str) (empty : V) (f : V → V) : GoMap V → GoMap V
  | [] => [(key, f empty)]
  | (k, v) :: rest =>
      if k = key then (k, f v) :: rest else (k, v) :: modify key empty f rest

theorem keys_modify (key : Str) (empty : V) (f : V → V) (m : GoMap V) :
    (modify key empty f m).keys = if key ∈ m.keys then m.keys else m.keys ++ [key] := by
  induction m with
  | nil => rfl
  | cons entry rest ih =>
      obtain ⟨k, v⟩ := entry
      by_cases hkey : k = key
      · simp [modify, keys, hkey]
      · have hne : key ≠ k := Ne.symm hkey
        unfold keys at ih
        simp only [modify, keys, if_neg hkey, List.map_cons, List.mem_cons, hne, false_or, ih]
        split
        next => rfl
        next => rfl

theorem nodup_keys_modify {key : Str} {empty : V} {f : V → V} {m : GoMap V}
    (h : m.keys.Nodup) : (modify key empty f m).keys.Nodup := by
  rw [keys_modify]
  split
  next => exact h
  next hkey => exact List.nodup_append.mpr ⟨h, List.nodup_singleton key, by
    rintro k hk _ hsingle rfl
    rw [List.mem_singleton.mp hsingle] at hk
    exact hkey hk⟩

/-- What holds of every value is kept by a modification that keeps it. -/
theorem forall_modify {P : V → Prop} {key : Str} {empty : V} {f : V → V} {m : GoMap V}
    (hm : ∀ entry ∈ m, P entry.2) (hempty : P empty) (hf : ∀ v, P v → P (f v)) :
    ∀ entry ∈ modify key empty f m, P entry.2 := by
  induction m with
  | nil => simpa [modify] using hf empty hempty
  | cons entry rest ih =>
      obtain ⟨k, v⟩ := entry
      have hv := hm (k, v) (List.mem_cons_self ..)
      have hrest : ∀ entry ∈ rest, P entry.2 := fun e he => hm e (List.mem_cons_of_mem _ he)
      unfold modify
      split
      next => exact List.forall_mem_cons.mpr ⟨hf v hv, hrest⟩
      next => exact List.forall_mem_cons.mpr ⟨hv, ih hrest⟩

theorem lookup_cons (k : Str) (v : V) (rest : GoMap V) (key : Str) :
    List.lookup key ((k, v) :: rest) = if key = k then some v else rest.lookup key := by
  by_cases hk : key = k
  · simp [hk]
  · have hbeq : (key == k) = false := beq_eq_false_iff_ne.mpr hk
    rw [List.lookup_cons, hbeq, if_neg hk]

theorem lookup_modify (key : Str) (empty : V) (f : V → V) (m : GoMap V) (k : Str) :
    (modify key empty f m).lookup k =
      if k = key then some (f ((m.lookup key).getD empty)) else m.lookup k := by
  induction m with
  | nil => by_cases hk : k = key <;> simp [modify, lookup_cons, hk]
  | cons entry rest ih =>
      obtain ⟨k', v⟩ := entry
      by_cases hkey : k' = key
      · subst hkey
        by_cases hk : k = k' <;> simp [modify, lookup_cons, hk]
      · have hne : key ≠ k' := Ne.symm hkey
        rw [modify, if_neg hkey]
        by_cases hk : k = k'
        · subst hk
          simp [hkey]
        · simp [lookup_cons, hk, hne, ih]

/-- `m[key] = v`. -/
def store (key : Str) (v : V) (m : GoMap V) : GoMap V := modify key v (fun _ => v) m

@[simp] theorem lookup_store (key : Str) (v : V) (m : GoMap V) (k : Str) :
    (store key v m).lookup k = if k = key then some v else m.lookup k :=
  lookup_modify key v (fun _ => v) m k

theorem mem_iff_lookup {m : GoMap V} (h : m.keys.Nodup) (k : Str) (v : V) :
    (k, v) ∈ m ↔ m.lookup k = some v := by
  induction m with
  | nil => simp
  | cons entry rest ih =>
      obtain ⟨k', v'⟩ := entry
      obtain ⟨hnew, hrest⟩ := List.nodup_cons.mp h
      by_cases hk : k = k'
      · subst hk
        have hout (w : V) : (k, w) ∉ rest :=
          fun hmem => hnew (List.mem_map.mpr ⟨(k, w), hmem, rfl⟩)
        simp [hout, eq_comm]
      · simp [lookup_cons, hk, ih hrest]

/-! ## Grouping -/

section

variable {A : Type} (key : A → Str) (empty : V) (g : A → V → V)

/-- Each item changes the value under its key, which is first `empty`. -/
def group (items : List A) : GoMap V :=
  items.foldl (fun m a => modify (key a) empty (g a) m) []

theorem lookup_foldl_modify (items : List A) (m : GoMap V) (k : Str) :
    (items.foldl (fun m a => modify (key a) empty (g a) m) m).lookup k =
      if ∃ a ∈ items, key a = k then
        some ((items.filter fun a => key a = k).foldl (fun v a => g a v)
          ((m.lookup k).getD empty))
      else m.lookup k := by
  induction items generalizing m with
  | nil => simp
  | cons a items ih =>
      rw [List.foldl_cons, ih, lookup_modify]
      by_cases hk : key a = k
      · subst hk
        by_cases hlater : ∃ b ∈ items, key b = key a
        · simp [hlater]
        · have hnone : items.filter (fun b => key b = key a) = [] := by
            simpa using hlater
          simp [hlater, hnone]
      · have hne : k ≠ key a := Ne.symm hk
        simp [hk, hne]

/-- The value under a key is made by the items of this key, in their order. -/
theorem lookup_group (items : List A) (k : Str) :
    (group key empty g items).lookup k =
      if ∃ a ∈ items, key a = k then
        some ((items.filter fun a => key a = k).foldl (fun v a => g a v) empty)
      else none :=
  lookup_foldl_modify key empty g items [] k

theorem nodup_keys_group (items : List A) : (group key empty g items).keys.Nodup := by
  have hstep (m : GoMap V) (hm : m.keys.Nodup) :
      (items.foldl (fun m a => modify (key a) empty (g a) m) m).keys.Nodup := by
    induction items generalizing m with
    | nil => exact hm
    | cons a items ih => exact ih _ (nodup_keys_modify hm)
  exact hstep [] List.nodup_nil

end

end GoMap

end Iec61850.Go
