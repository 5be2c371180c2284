import Mathlib.Data.List.Nodup
import Mathlib.Data.List.Perm.Basic

/-!
# Chains of records

A chain is stored as a list of records, each with a key of its own and the key
of its successor.  A generator that knows all keys beforehand lets the `n`-th
record point to the key after the `n`-th.  Following the pointers from the
first key meets every record if and only if the keys are distinct and there is
a record for each of them.
-/

namespace Iec61850.Linked

variable {K ρ : Type}

/-! ## Records that point along their keys -/

section Definitions

variable (key : ρ → K) (next : ρ → Option K)

/-- The `n`-th record points to the key after the `n`-th. -/
def PointsAlong (keys : List K) (records : List ρ) : Prop :=
  ∀ n record, records[n]? = some record → next record = keys[n + 1]?

/-- The records have these keys, in this order, and each points to the next. -/
structure Chain (keys : List K) (records : List ρ) (head : Option K) : Prop where
  keys_eq : records.map key = keys
  pointsAlong : PointsAlong next keys records
  head_eq : head = keys.head?

/-- The records `after` continue the records `before` under the keys `added`. -/
structure Grows (keys added : List K) (before after : List ρ) : Prop where
  keys_eq : after.map key = before.map key ++ added
  pointsAlong : PointsAlong next keys before → PointsAlong next keys after

end Definitions

variable {key : ρ → K} {next : ρ → Option K} {keys : List K} {records : List ρ}

theorem pointsAlong_nil : PointsAlong next keys ([] : List ρ) := by
  intro n record hrecord
  cases hrecord

theorem PointsAlong.append_singleton {record : ρ} (h : PointsAlong next keys records)
    (hnext : next record = keys[records.length + 1]?) :
    PointsAlong next keys (records ++ [record]) := by
  intro n other hother
  rcases Nat.lt_or_ge n records.length with hlt | hge
  · rw [List.getElem?_append_left hlt] at hother
    exact h n other hother
  · rw [List.getElem?_append_right hge] at hother
    have hlt : n - records.length < 1 := (List.getElem?_eq_some_iff.mp hother).1
    have hn : n = records.length := by omega
    subst hn
    rw [Nat.sub_self] at hother
    obtain rfl : record = other := by simpa using hother
    exact hnext

theorem Grows.refl (keys : List K) (records : List ρ) :
    Grows key next keys [] records records :=
  ⟨by rw [List.append_nil], id⟩

theorem Grows.trans {added more : List K} {before between after : List ρ}
    (h : Grows key next keys added before between)
    (h' : Grows key next keys more between after) :
    Grows key next keys (added ++ more) before after where
  keys_eq := by rw [h'.keys_eq, h.keys_eq, List.append_assoc]
  pointsAlong := fun hbefore => h'.pointsAlong (h.pointsAlong hbefore)

theorem Grows.append_singleton {k : K} {record : ρ} {before after : List ρ}
    (hafter : after = before ++ [record]) (hkey : key record = k)
    (hnext : next record = keys[before.length + 1]?) :
    Grows key next keys [k] before after where
  keys_eq := by rw [hafter, List.map_append, List.map_cons, List.map_nil, hkey]
  pointsAlong := fun hbefore => hafter ▸ hbefore.append_singleton hnext

theorem Grows.chain {head : Option K} (h : Grows key next keys keys [] records)
    (hhead : head = keys.head?) : Chain key next keys records head where
  keys_eq := h.keys_eq
  pointsAlong := h.pointsAlong pointsAlong_nil
  head_eq := hhead

theorem chain_nil : Chain key next [] ([] : List ρ) none :=
  ⟨rfl, pointsAlong_nil, rfl⟩

theorem Chain.cons {k : K} {record : ρ} {head : Option K}
    (h : Chain key next keys records head) (hkey : key record = k)
    (hnext : next record = head) : Chain key next (k :: keys) (record :: records) (some k) where
  keys_eq := by rw [List.map_cons, hkey, h.keys_eq]
  pointsAlong := by
    intro n other hother
    cases n with
    | zero =>
        obtain rfl : record = other := by simpa using hother
        rw [hnext, h.head_eq, List.head?_eq_getElem?, List.getElem?_cons_succ]
    | succ n =>
        rw [List.getElem?_cons_succ] at hother ⊢
        exact h.pointsAlong n other hother
  head_eq := rfl

/-! ## Walks -/

variable [DecidableEq K]

section Definitions

variable (key : ρ → K) (next : ρ → Option K)

/-- Following the pointers from `pointer` meets the records `visited` and then
ends.  A pointer means the first record with its key. -/
inductive Visits (records : List ρ) : Option K → List ρ → Prop
  | nil : Visits records none []
  | cons {k : K} {record : ρ} {rest : List ρ}
      (hfind : records.find? (fun r => key r = k) = some record)
      (hrest : Visits records (next record) rest) :
      Visits records (some k) (record :: rest)

/-- Every record is met exactly once, in some order. -/
def VisitsEach (records : List ρ) (pointer : Option K) : Prop :=
  ∃ visited, Visits key next records pointer visited ∧ visited.Perm records

end Definitions

theorem find?_key {record : ρ} (hnodup : (records.map key).Nodup) (hmem : record ∈ records) :
    records.find? (fun r => key r = key record) = some record := by
  induction records with
  | nil => cases hmem
  | cons first rest ih =>
      obtain ⟨hfirst, hrest⟩ := List.nodup_cons.mp hnodup
      rcases List.mem_cons.mp hmem with rfl | hmem
      · simp
      · have hne : key first ≠ key record := by
          intro heq
          apply hfirst
          rw [heq]
          exact List.mem_map_of_mem hmem
        rw [List.find?_cons_of_neg (by simpa using hne)]
        exact ih hrest hmem

theorem Visits.unique {pointer : Option K} {visited visited' : List ρ}
    (h : Visits key next records pointer visited)
    (h' : Visits key next records pointer visited') : visited = visited' := by
  induction h generalizing visited' with
  | nil =>
      cases h'
      rfl
  | cons hfind _ ih =>
      cases h' with
      | cons hfind' hrest' =>
          rw [hfind] at hfind'
          obtain rfl := Option.some.inj hfind'
          rw [ih hrest']

/-- What is met from a record on is no longer than the whole walk. -/
theorem Visits.visits_of_mem {pointer : Option K} {visited : List ρ}
    (h : Visits key next records pointer visited) {record : ρ} (hrecord : record ∈ visited) :
    ∃ onwards, Visits key next records (some (key record)) onwards ∧
      onwards.length ≤ visited.length := by
  induction h with
  | nil => cases hrecord
  | @cons k first rest hfind hrest ih =>
      rcases List.mem_cons.mp hrecord with rfl | hrecord
      · have hkey : key record = k := by simpa using List.find?_some hfind
        exact ⟨record :: rest, hkey ▸ Visits.cons hfind hrest, Nat.le_refl _⟩
      · obtain ⟨onwards, honwards, hlength⟩ := ih hrecord
        exact ⟨onwards, honwards, Nat.le_succ_of_le hlength⟩

/-- A walk that ends meets no key twice. -/
theorem Visits.nodup_keys {pointer : Option K} {visited : List ρ}
    (h : Visits key next records pointer visited) : (visited.map key).Nodup := by
  induction h with
  | nil => exact List.nodup_nil
  | @cons k first rest hfind hrest ih =>
      rw [List.map_cons, List.nodup_cons]
      refine ⟨?_, ih⟩
      intro hmem
      obtain ⟨record, hrecord, hkey⟩ := List.mem_map.mp hmem
      obtain ⟨onwards, honwards, hlength⟩ := hrest.visits_of_mem hrecord
      have hfirst : key first = k := by simpa using List.find?_some hfind
      rw [hkey, hfirst] at honwards
      have hsame : onwards = first :: rest := honwards.unique (Visits.cons hfind hrest)
      rw [hsame, List.length_cons] at hlength
      omega

/-- A walk that ends meets a record without a successor. -/
theorem Visits.exists_last {k : K} {visited : List ρ}
    (h : Visits key next records (some k) visited) :
    ∃ record ∈ records, next record = none := by
  obtain ⟨pointer, hpointer⟩ : ∃ pointer, pointer = some k := ⟨_, rfl⟩
  rw [← hpointer] at h
  induction h generalizing k with
  | nil => cases hpointer
  | @cons k' first rest hfind hrest ih =>
      cases hnext : next first with
      | none => exact ⟨first, List.mem_of_find?_eq_some hfind, hnext⟩
      | some k'' => exact ih hnext

/-! ## Complete chains -/

/-- A chain among other records is walked to its end. -/
theorem Chain.visits_of_subset {head : Option K} {all : List ρ}
    (h : Chain key next keys records head) (hsubset : records ⊆ all)
    (hnodup : (all.map key).Nodup) : Visits key next all head records := by
  have hdrop : ∀ rest before, records = before ++ rest →
      Visits key next all keys[before.length]? rest := by
    intro rest
    induction rest with
    | nil =>
        intro before hrecords
        have hlength : keys.length = before.length := by
          rw [← h.keys_eq, List.length_map, hrecords, List.append_nil]
        rw [List.getElem?_eq_none (Nat.le_of_eq hlength)]
        exact .nil
    | cons record rest ih =>
        intro before hrecords
        have hrecord : records[before.length]? = some record := by simp [hrecords]
        have hkey : keys[before.length]? = some (key record) := by
          rw [← h.keys_eq, List.getElem?_map, hrecord, Option.map_some]
        have hmem : record ∈ all := hsubset (by simp [hrecords])
        have hrest := ih (before ++ [record]) (by simp [hrecords])
        rw [List.length_append, List.length_singleton,
          ← h.pointsAlong before.length record hrecord] at hrest
        rw [hkey]
        exact Visits.cons (find?_key hnodup hmem) hrest
  have hall := hdrop records [] rfl
  rwa [List.length_nil, ← List.head?_eq_getElem?, ← h.head_eq] at hall

/-- A chain is walked from end to end exactly when its keys are distinct. -/
theorem Chain.visits_iff {head : Option K} (h : Chain key next keys records head) :
    Visits key next records head records ↔ keys.Nodup := by
  constructor
  · intro hvisits
    rw [← h.keys_eq]
    exact hvisits.nodup_keys
  · intro hnodup
    rw [← h.keys_eq] at hnodup
    exact h.visits_of_subset (List.Subset.refl records) hnodup

theorem Chain.visitsEach_iff {head : Option K} (h : Chain key next keys records head) :
    VisitsEach key next records head ↔ keys.Nodup := by
  constructor
  · rintro ⟨visited, hvisits, hperm⟩
    rw [← h.keys_eq]
    exact (hperm.map key).nodup_iff.mp hvisits.nodup_keys
  · intro hnodup
    exact ⟨records, h.visits_iff.mpr hnodup, List.Perm.refl records⟩

/-- With fewer records than keys every record has a successor, and no walk
ends. -/
theorem PointsAlong.not_visits {head : Option K} {visited : List ρ}
    (h : PointsAlong next keys records) (hhead : head = keys.head?)
    (hlength : records.length < keys.length) : ¬ Visits key next records head visited := by
  intro hvisits
  cases hkeys : keys with
  | nil =>
      rw [hkeys, List.length_nil] at hlength
      omega
  | cons k rest =>
      rw [hkeys, List.head?_cons] at hhead
      rw [hhead] at hvisits
      obtain ⟨record, hrecord, hnext⟩ := hvisits.exists_last
      obtain ⟨n, hn, hget⟩ := List.mem_iff_getElem.mp hrecord
      have hsuccessor := h n record (by rw [List.getElem?_eq_getElem hn, hget])
      rw [hnext] at hsuccessor
      have hbound := List.getElem?_eq_none_iff.mp hsuccessor.symm
      omega

/-- Records that are printed for some of the listed keys: the chain is complete
exactly when they are printed for all keys, and the keys are distinct. -/
theorem Grows.visits_iff {added : List K} {head : Option K}
    (h : Grows key next keys added [] records) (hhead : head = keys.head?)
    (hle : added.length ≤ keys.length) (heq : added.length = keys.length → added = keys) :
    Visits key next records head records ↔ added = keys ∧ keys.Nodup := by
  have hlength : records.length = added.length := by
    rw [← List.length_map (f := key), h.keys_eq, List.map_nil, List.nil_append]
  constructor
  · intro hvisits
    have hadded : added = keys := by
      apply heq
      by_contra hne
      exact (h.pointsAlong pointsAlong_nil).not_visits hhead (by omega) hvisits
    rw [hadded] at h
    exact ⟨hadded, (h.chain hhead).visits_iff.mp hvisits⟩
  · rintro ⟨hadded, hnodup⟩
    rw [hadded] at h
    exact (h.chain hhead).visits_iff.mpr hnodup

theorem Grows.visitsEach_iff {added : List K} {head : Option K}
    (h : Grows key next keys added [] records) (hhead : head = keys.head?)
    (hle : added.length ≤ keys.length) (heq : added.length = keys.length → added = keys) :
    VisitsEach key next records head ↔ added = keys ∧ keys.Nodup := by
  have hlength : records.length = added.length := by
    rw [← List.length_map (f := key), h.keys_eq, List.map_nil, List.nil_append]
  constructor
  · rintro ⟨visited, hvisits, hperm⟩
    have hadded : added = keys := by
      apply heq
      by_contra hne
      exact (h.pointsAlong pointsAlong_nil).not_visits hhead (by omega) hvisits
    rw [hadded] at h
    exact ⟨hadded, (h.chain hhead).visitsEach_iff.mp ⟨visited, hvisits, hperm⟩⟩
  · rintro ⟨hadded, hnodup⟩
    exact ⟨records, (h.visits_iff hhead hle heq).mpr ⟨hadded, hnodup⟩, List.Perm.refl records⟩

end Iec61850.Linked
