import Iec61850.BoundedGather
import Iec61850.MmsVariables

/-!
# Values of all variables

`GetVariableValues` reads the values of every logical node and functional
constraint with two workers at a time.
-/

namespace Iec61850.Mms

open Go Gather

/-- The value is the one that was read, or the error of the read. -/
structure VariableTypeValue (Value : Type) where
  type : ℤ
  name : Str
  ref : Str
  value : Except IedError Value

/-- What the requests to the server come to. -/
structure VariableServer (Value : Type) where
  getDeviceModelFromServer : Option IedError
  getLogicalDeviceList : Except IedError (List Str)
  getLogicalDeviceVariables : Str → Except IedError (List Str)
  getVariableTypeValues : Str → ℤ → Except IedError (List (VariableTypeValue Value))
  functionalConstraintFromString : Str → ℤ

/-- One read: a logical node and a functional constraint of it. -/
structure NodeRead where
  ldName : Str
  ln : Str
  fc : Str
  deriving DecidableEq

variable {Value : Type}

namespace VariableServer

variable (server : VariableServer Value)

def getLogicalDeviceVariablesHierarchical (ldName : Str) : Except IedError (List FCVar) := do
  return groupVariables (← server.getLogicalDeviceVariables ldName)

/-- The loop over the logical devices, which ends at the first error. -/
def queryVariables : List Str → Except IedError (List (Str × List FCVar))
  | [] => .ok []
  | ldName :: ldNames => do
      let listed ← server.getLogicalDeviceVariablesHierarchical ldName
      let q ← queryVariables ldNames
      return (ldName, listed) :: q

/-- The reads of one logical device. -/
def readsOf (ldName : Str) (vars : List FCVar) : List NodeRead :=
  vars.flatMap fun v => v.fcVars.map fun (fc, _) => ⟨ldName, v.ln, fc⟩

/-- The directory requests, and the reads that are started for them. -/
def nodeReads : Except IedError (List NodeRead) := do
  match server.getDeviceModelFromServer with
  | some err => throw err
  | none =>
      let ldNames ← server.getLogicalDeviceList
      let q ← server.queryVariables ldNames
      return q.flatMap fun (ldName, vars) => readsOf ldName vars

/-- What a worker sends: the values, or one entry for the error. -/
def contribution (read : NodeRead) : List (VariableTypeValue Value) :=
  let dataRef := read.ldName ++ lit "/" ++ read.ln
  match server.getVariableTypeValues dataRef (server.functionalConstraintFromString read.fc) with
  | .error err => [{ type := 0, name := read.ln, ref := dataRef, value := .error err }]
  | .ok values => values

/-- The states of `GetVariableValues` once the directory is read; a map is ranged
over in any order. -/
def Running (reads : List NodeRead) (s : State NodeRead (VariableTypeValue Value)) : Prop :=
  ∃ tasks, tasks.Perm reads ∧ Reachable server.contribution 2 tasks s

end VariableServer

theorem nodup_readsOf (ldName : Str) (names : List Str) :
    (VariableServer.readsOf ldName (groupVariables names)).Nodup := by
  have hpairs := nodup_groupVariables names
  have hmap : VariableServer.readsOf ldName (groupVariables names) =
      ((groupVariables names).flatMap fun v => v.fcVars.map fun (fc, _) => (v.ln, fc)).map
        fun pair => ⟨ldName, pair.1, pair.2⟩ := by
    simp [VariableServer.readsOf, List.map_flatMap, Function.comp_def]
  rw [hmap]
  refine hpairs.map fun pair pair' heq => ?_
  obtain ⟨-, hln, hfc⟩ := NodeRead.mk.inj heq
  exact Prod.ext hln hfc

theorem ldName_of_mem_readsOf {ldName : Str} {vars : List FCVar} {read : NodeRead}
    (hmem : read ∈ VariableServer.readsOf ldName vars) : read.ldName = ldName := by
  obtain ⟨v, -, hv⟩ := List.mem_flatMap.mp hmem
  obtain ⟨entry, -, rfl⟩ := List.mem_map.mp hv
  rfl

/-- Every read is of a device that is listed, and of different devices they differ. -/
theorem queryVariables_reads {server : VariableServer Value} {ldNames : List Str}
    {q : List (Str × List FCVar)} (hq : server.queryVariables ldNames = .ok q) :
    (∀ read ∈ q.flatMap fun (ldName, vars) => VariableServer.readsOf ldName vars,
      read.ldName ∈ ldNames) ∧
    (ldNames.Nodup →
      (q.flatMap fun (ldName, vars) => VariableServer.readsOf ldName vars).Nodup) := by
  induction ldNames generalizing q with
  | nil =>
      obtain rfl := Except.ok.inj hq
      simp
  | cons ldName ldNames ih =>
      unfold VariableServer.queryVariables
        VariableServer.getLogicalDeviceVariablesHierarchical at hq
      cases hnames : server.getLogicalDeviceVariables ldName with
      | error err =>
          rw [hnames] at hq
          cases hq
      | ok names =>
          cases hrest : server.queryVariables ldNames with
          | error err =>
              rw [hnames, hrest] at hq
              cases hq
          | ok rest =>
              rw [hnames, hrest] at hq
              obtain rfl := Except.ok.inj hq
              obtain ⟨hmem, hnodup⟩ := ih hrest
              rw [List.flatMap_cons]
              constructor
              · intro read hread
                cases List.mem_append.mp hread with
                | inl hfirst =>
                    rw [ldName_of_mem_readsOf hfirst]
                    exact List.mem_cons_self ..
                | inr hlater => exact List.mem_cons_of_mem _ (hmem read hlater)
              · intro hdistinct
                obtain ⟨hnew, hdistinct⟩ := List.nodup_cons.mp hdistinct
                refine List.nodup_append.mpr ⟨nodup_readsOf ldName names, hnodup hdistinct, ?_⟩
                rintro read hfirst _ hlater rfl
                rw [← ldName_of_mem_readsOf hfirst] at hnew
                exact hnew (hmem read hlater)

/-- With distinct devices no read is started twice. -/
theorem nodup_nodeReads {server : VariableServer Value} {reads : List NodeRead}
    {ldNames : List Str} (hreads : server.nodeReads = .ok reads)
    (hldNames : server.getLogicalDeviceList = .ok ldNames) (hdistinct : ldNames.Nodup) :
    reads.Nodup := by
  unfold VariableServer.nodeReads at hreads
  cases hmodel : server.getDeviceModelFromServer with
  | some err =>
      rw [hmodel] at hreads
      cases hreads
  | none =>
      cases hq : server.queryVariables ldNames with
      | error err =>
          simp only [hmodel, hldNames, bind, Except.bind, hq] at hreads
          cases hreads
      | ok q =>
          simp only [hmodel, hldNames, bind, Except.bind, hq] at hreads
          obtain rfl := Except.ok.inj hreads
          exact (queryVariables_reads hq).2 hdistinct

/-- Whatever the order of steps: no more than two workers read at a time and none
sends on a closed channel; what is returned are the contributions of all reads,
each once; and the function does return. -/
theorem getVariableValues_complete (server : VariableServer Value) {reads : List NodeRead}
    (hreads : server.nodeReads = .ok reads) :
    (∀ ldNames, server.getLogicalDeviceList = .ok ldNames → ldNames.Nodup → reads.Nodup) ∧
    (∀ s, server.Running reads s → s.slots ≤ 2 ∧ s.panicked = false) ∧
    (∀ s result, server.Running reads s → s.main = .returned result →
      result.Perm (reads.flatMap server.contribution)) ∧
    (∀ s, server.Running reads s → (∀ result, s.main ≠ .returned result) →
      ∃ s', Step server.contribution 2 s s') ∧
    ∀ states : ℕ → State NodeRead (VariableTypeValue Value),
      ¬ ∀ n, Step server.contribution 2 (states n) (states (n + 1)) := by
  refine ⟨?_, ?_, ?_, ?_, ?_⟩
  · exact fun ldNames hldNames => nodup_nodeReads hreads hldNames
  · rintro s ⟨tasks, -, hreachable⟩
    exact ⟨hreachable.synchronised.slots, hreachable.synchronised.notPanicked⟩
  · rintro s result ⟨tasks, horder, hreachable⟩ hreturned
    exact (hreachable.returned_perm hreturned).trans (horder.flatMap_right _)
  · rintro s ⟨tasks, -, hreachable⟩ hnot
    exact exists_step (by decide) hreachable.synchronised hnot
  · exact fun states hsteps => no_infinite_run states hsteps

/-- Two nodes, and a server that refuses the measured values. -/
def sampleVariableServer : VariableServer ℤ where
  getDeviceModelFromServer := none
  getLogicalDeviceList := .ok [lit "LD0"]
  getLogicalDeviceVariables _ :=
    .ok [lit "LLN0", lit "LLN0$ST$Mod", lit "LLN0$CF$Mod", lit "MMXU1", lit "MMXU1$MX$TotW"]
  getVariableTypeValues dataRef fc :=
    if fc = 1 then .error .accessDenied
    else .ok [{ type := 3, name := lit "Mod", ref := dataRef ++ lit ".Mod", value := .ok fc }]
  functionalConstraintFromString fc :=
    if fc = lit "ST" then 0 else if fc = lit "MX" then 1 else 4

def sampleStatus : NodeRead := ⟨lit "LD0", lit "LLN0", lit "ST"⟩

def sampleConfiguration : NodeRead := ⟨lit "LD0", lit "LLN0", lit "CF"⟩

def sampleMeasured : NodeRead := ⟨lit "LD0", lit "MMXU1", lit "MX"⟩

def sampleValue (fc : ℤ) : VariableTypeValue ℤ :=
  { type := 3, name := lit "Mod", ref := lit "LD0/LLN0.Mod", value := .ok fc }

def sampleRefusal : VariableTypeValue ℤ :=
  { type := 0, name := lit "MMXU1", ref := lit "LD0/MMXU1", value := .error .accessDenied }

/-- Two workers are at work at once, and the later of them sends first. -/
theorem sampleVariableServer_running :
    sampleVariableServer.Running [sampleStatus, sampleConfiguration, sampleMeasured]
      { main := .returned [sampleRefusal, sampleValue 0, sampleValue 4], workers := [],
        collector := .finished, closed := true, panicked := false,
        collected := [sampleRefusal, sampleValue 0, sampleValue 4] } := by
  refine ⟨[sampleStatus, sampleMeasured, sampleConfiguration], by decide, ?_⟩
  have hstarted := ((Relation.ReflTransGen.refl (r := Step sampleVariableServer.contribution 2)
    (a := start [sampleStatus, sampleMeasured, sampleConfiguration])).tail
      (.spawn _ sampleStatus _ rfl (by decide))).tail (.spawn _ sampleMeasured _ rfl (by decide))
  have hrefused := ((hstarted.tail (.work _ [.working sampleStatus] [] sampleMeasured rfl)).tail
    (.work _ [] [.sending [sampleRefusal]] sampleStatus rfl)).tail
      (.send _ [.sending [sampleValue 0]] [] [sampleRefusal] rfl rfl rfl)
  have hthird := (hrefused.tail (.release _ [.sending [sampleValue 0]] [] rfl)).tail
    (.spawn _ sampleConfiguration [] rfl (by decide))
  have hstatus := ((hthird.tail (.collect _ [sampleRefusal] rfl)).tail
    (.send _ [] [.leaving, .working sampleConfiguration] [sampleValue 0] rfl rfl rfl)).tail
      (.leave _ [.returned] [.working sampleConfiguration] rfl)
  have hread := ((hstatus.tail (.work _ [.returned] [] sampleConfiguration rfl)).tail
    (.collect _ [sampleValue 0] rfl)).tail
      (.send _ [.returned] [] [sampleValue 4] rfl rfl rfl)
  have hleft := (((hread.tail (.release _ [] [.returned] rfl)).tail
    (.release _ [.leaving] [] rfl)).tail (.leave _ [] [.leaving] rfl)).tail (.leave _ [] [] rfl)
  have hclosed := ((hleft.tail (.collect _ [sampleValue 4] rfl)).tail (.wait _ rfl rfl)).tail
    (.close _ rfl)
  exact (hclosed.tail (.finish _ rfl rfl)).tail (.join _ rfl rfl)

theorem getVariableValues_complete_sample :
    [sampleRefusal, sampleValue 0, sampleValue 4].Perm
      ([sampleStatus, sampleConfiguration, sampleMeasured].flatMap
        sampleVariableServer.contribution) := by
  have hreads : sampleVariableServer.nodeReads =
      .ok [sampleStatus, sampleConfiguration, sampleMeasured] := by decide +kernel
  exact (getVariableValues_complete sampleVariableServer hreads).2.2.1 _ _
    sampleVariableServer_running rfl

end Iec61850.Mms
