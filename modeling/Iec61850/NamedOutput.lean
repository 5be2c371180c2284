import Iec61850.ControlBlockChains

/-!
# The names in the output

The output as a function of its names: every record with the place of each
variable.  Two outputs carry the prefixes `p` and `q` if they are one output
with `p` and with `q` in front of all its names.
-/

namespace Iec61850.Scl

open Go

/-! ## Records -/

section MapNames

variable (f : Str → Str)

def ExternDeclaration.mapNames (d : ExternDeclaration) : ExternDeclaration :=
  { d with name := f d.name }

def NodeDefinition.mapNames (d : NodeDefinition) : NodeDefinition :=
  { d with
    variableName := f d.variableName
    parent := f d.parent
    sibling := d.sibling.map f
    firstChild := d.firstChild.map f }

def InitialValue.mapNames : InitialValue → InitialValue
  | .octetString valueName bytes => .octetString (f valueName) bytes
  | value => value

def InitStatement.mapNames (statement : InitStatement) : InitStatement :=
  { statement with target := f statement.target, value := statement.value.mapNames f }

def DataSetEntryDefinition.mapNames (d : DataSetEntryDefinition) : DataSetEntryDefinition :=
  { d with entryName := f d.entryName, sibling := d.sibling.map f }

def DataSetDefinition.mapNames (d : DataSetDefinition) : DataSetDefinition :=
  { d with dataSetName := f d.dataSetName, fcdas := f d.fcdas, sibling := d.sibling.map f }

def PhyComAddressDefinition.mapNames (d : PhyComAddressDefinition) : PhyComAddressDefinition :=
  { d with addressName := f d.addressName }

def ReportControlBlockDefinition.mapNames (d : ReportControlBlockDefinition) :
    ReportControlBlockDefinition :=
  { d with blockName := f d.blockName, parent := f d.parent, sibling := d.sibling.map f }

def SVControlBlockDefinition.mapNames (d : SVControlBlockDefinition) :
    SVControlBlockDefinition :=
  { d with
    blockName := f d.blockName
    parent := f d.parent
    dstAddress := d.dstAddress.map (PhyComAddressDefinition.mapNames f)
    sibling := d.sibling.map f }

def GSEControlBlockDefinition.mapNames (d : GSEControlBlockDefinition) :
    GSEControlBlockDefinition :=
  { d with
    blockName := f d.blockName
    parent := f d.parent
    address := d.address.map (PhyComAddressDefinition.mapNames f)
    sibling := d.sibling.map f }

def SettingGroupControlBlockDefinition.mapNames (d : SettingGroupControlBlockDefinition) :
    SettingGroupControlBlockDefinition :=
  { d with blockName := f d.blockName, parent := f d.parent, sibling := d.sibling.map f }

def LogControlBlockDefinition.mapNames (d : LogControlBlockDefinition) :
    LogControlBlockDefinition :=
  { d with blockName := f d.blockName, parent := f d.parent, sibling := d.sibling.map f }

def LogDefinition.mapNames (d : LogDefinition) : LogDefinition :=
  { d with logName := f d.logName, parent := f d.parent, sibling := d.sibling.map f }

def IedModelDefinition.mapNames (d : IedModelDefinition) : IedModelDefinition :=
  { d with
    modelName := f d.modelName
    firstChild := f d.firstChild
    dataSets := d.dataSets.map f
    rcbs := d.rcbs.map f
    gseCBs := d.gseCBs.map f
    svCBs := d.svCBs.map f
    sgcbs := d.sgcbs.map f
    lcbs := d.lcbs.map f
    logs := d.logs.map f }

def CItem.mapNames : CItem → CItem
  | .initializerPrototype => .initializerPrototype
  | .externDeclaration d => .externDeclaration (d.mapNames f)
  | .dataSetEntry d => .dataSetEntry (d.mapNames f)
  | .dataSet d => .dataSet (d.mapNames f)
  | .node d => .node (d.mapNames f)
  | .phyComAddress d => .phyComAddress (d.mapNames f)
  | .reportControlBlock d => .reportControlBlock (d.mapNames f)
  | .svControlBlock d => .svControlBlock (d.mapNames f)
  | .gseControlBlock d => .gseControlBlock (d.mapNames f)
  | .settingGroupControlBlock d => .settingGroupControlBlock (d.mapNames f)
  | .logControlBlock d => .logControlBlock (d.mapNames f)
  | .log d => .log (d.mapNames f)
  | .iedModel d => .iedModel (d.mapNames f)
  | .initializer statements => .initializer (statements.map (InitStatement.mapNames f))

/-! ## Intermediate results -/

def Definitions.mapNames (d : Definitions) : Definitions where
  cOut := d.cOut.map (NodeDefinition.mapNames f)
  variablesList := d.variablesList.map f
  initializerBuffer := d.initializerBuffer.map (InitStatement.mapNames f)

def VariableNames.mapNames (names : VariableNames) : VariableNames where
  rcb := names.rcb.map f
  lcb := names.lcb.map f
  log := names.log.map f
  gse := names.gse.map f
  smv := names.smv.map f
  sgcb := names.sgcb.map f

def ControlBlockBuffers.mapNames (out : ControlBlockBuffers) : ControlBlockBuffers where
  reportControlBlocks := out.reportControlBlocks.map (ReportControlBlockDefinition.mapNames f)
  logControlBlocks := out.logControlBlocks.map (LogControlBlockDefinition.mapNames f)
  logs := out.logs.map (LogDefinition.mapNames f)
  gseControlBlocks := out.gseControlBlocks.map (GSEControlBlockDefinition.mapNames f)
  smvControlBlocks := out.smvControlBlocks.map (SVControlBlockDefinition.mapNames f)
  settingGroupControlBlocks :=
    out.settingGroupControlBlocks.map (SettingGroupControlBlockDefinition.mapNames f)

def DeviceModel.mapNames (model : DeviceModel) : DeviceModel where
  definitions := model.definitions.mapNames f
  buffers := model.buffers.mapNames f

@[simp] theorem Definitions.mapNames_append (a b : Definitions) :
    (a ++ b).mapNames f = a.mapNames f ++ b.mapNames f := by
  apply Definitions.ext <;> simp [Definitions.mapNames]

@[simp] theorem Definitions.mapNames_empty :
    Definitions.mapNames f {} = {} := rfl

@[simp] theorem Definitions.mapNames_ofNode (d : NodeDefinition) :
    (Definitions.ofNode d).mapNames f = .ofNode (d.mapNames f) := rfl

@[simp] theorem Definitions.mapNames_ofStatements (statements : List InitStatement) :
    (Definitions.ofStatements statements).mapNames f =
      .ofStatements (statements.map (InitStatement.mapNames f)) := rfl

@[simp] theorem Definitions.mapNames_concat (parts : List Definitions) :
    (Definitions.concat parts).mapNames f =
      Definitions.concat (parts.map (Definitions.mapNames f)) := by
  induction parts with
  | nil => rfl
  | cons part rest ih => simp [ih]

@[simp] theorem VariableNames.mapNames_append (a b : VariableNames) :
    (a ++ b).mapNames f = a.mapNames f ++ b.mapNames f := by
  simp [VariableNames.append_eq, VariableNames.mapNames]

end MapNames

/-- A macro name carries the prefix in upper case. -/
def PointerDefine.mapNames (upper f : Str → Str) (d : PointerDefine) : PointerDefine where
  macroName := upper d.macroName
  variableName := f d.variableName

def GeneratedFiles.mapNames (upper f : Str → Str) (files : GeneratedFiles) :
    GeneratedFiles where
  c := files.c.map (CItem.mapNames f)
  h := {
    hDefineName := files.h.hDefineName
    externs := files.h.externs.map (ExternDeclaration.mapNames f)
    defines := files.h.defines.map (PointerDefine.mapNames upper f) }

/-! ## Carrying a prefix -/

/-- One value with `p` and with `q` in front of its names. -/
def Carried {α : Type} (mapNames : (Str → Str) → α → α) (p q : Str) (x y : α) : Prop :=
  ∃ rests, x = mapNames (p ++ ·) rests ∧ y = mapNames (q ++ ·) rests

/-- Names with one rest. -/
abbrev CarriedName (p q : Str) (name name' : Str) : Prop :=
  Carried (fun f => f) p q name name'

variable {p q : Str} {α β : Type} {m : (Str → Str) → α → α} {n : (Str → Str) → β → β}

@[simp] theorem joinName_append (p u name : Str) :
    joinName (p ++ u) name = p ++ joinName u name := by
  simp [joinName]

theorem joinName_eq_append (p name : Str) : joinName p name = p ++ joinName [] name := by
  simp [joinName]

/-- Two calls whose results carry the prefixes if both succeed. -/
def BothCarry (m : (Str → Str) → α → α) (p q : Str) (x y : Outcome α) : Prop :=
  ∀ a b, x = .ok a → y = .ok b → Carried m p q a b

/-- One call after the other. -/
theorem BothCarry.bind {x y : Outcome α} {f g : α → Outcome β} (hxy : BothCarry m p q x y)
    (hfg : ∀ rests, x = .ok (m (p ++ ·) rests) → y = .ok (m (q ++ ·) rests) →
      BothCarry n p q (f (m (p ++ ·) rests)) (g (m (q ++ ·) rests))) :
    BothCarry n p q (x >>= f) (y >>= g) := by
  intro b b' hb hb'
  obtain ⟨a, ha, hb⟩ := bind_eq_ok.mp hb
  obtain ⟨a', ha', hb'⟩ := bind_eq_ok.mp hb'
  obtain ⟨rests, rfl, rfl⟩ := hxy a a' ha ha'
  exact hfg rests ha ha' b b' hb hb'

/-- A call that reads no names. -/
theorem BothCarry.bind_same {γ : Type} {x : Outcome γ} {f g : γ → Outcome β}
    (hfg : ∀ c, x = .ok c → BothCarry n p q (f c) (g c)) :
    BothCarry n p q (x >>= f) (x >>= g) := by
  intro b b' hb hb'
  obtain ⟨c, hc, hb⟩ := bind_eq_ok.mp hb
  obtain ⟨c', hc', hb'⟩ := bind_eq_ok.mp hb'
  obtain rfl := Except.ok.inj (hc.symm.trans hc')
  exact hfg c hc b b' hb hb'

theorem BothCarry.pure {x y : α} (h : Carried m p q x y) :
    BothCarry m p q (Pure.pure x) (Pure.pure y) := by
  intro a b ha hb
  obtain rfl := Except.ok.inj ha
  obtain rfl := Except.ok.inj hb
  exact h

theorem BothCarry.foldlM {γ : Type} {f g : β → γ → Outcome β} {xs : List γ}
    (h : ∀ x ∈ xs, ∀ rests,
      BothCarry n p q (f (n (p ++ ·) rests) x) (g (n (q ++ ·) rests) x)) (rests : β) :
    BothCarry n p q (xs.foldlM f (n (p ++ ·) rests))
      (xs.foldlM g (n (q ++ ·) rests)) := by
  induction xs generalizing rests with
  | nil => exact .pure ⟨rests, rfl, rfl⟩
  | cons x others ih =>
      rw [List.foldlM_cons, List.foldlM_cons]
      refine (h x (List.mem_cons_self ..) rests).bind fun between _ _ => ?_
      exact ih (fun y hy => h y (List.mem_cons_of_mem _ hy)) between

theorem Carried.list_nil : Carried (fun f => List.map (m f)) p q [] [] :=
  ⟨[], rfl, rfl⟩

theorem Carried.list_cons {x y : α} {xs ys : List α} (h : Carried m p q x y)
    (hrest : Carried (fun f => List.map (m f)) p q xs ys) :
    Carried (fun f => List.map (m f)) p q (x :: xs) (y :: ys) := by
  obtain ⟨rest, rfl, rfl⟩ := h
  obtain ⟨rests, rfl, rfl⟩ := hrest
  exact ⟨rest :: rests, rfl, rfl⟩

/-- The same calls, one after the other. -/
theorem BothCarry.mapM {γ δ : Type} {f : γ → Outcome α} {g : δ → Outcome α} {xs : List γ}
    {ys : List δ} (h : List.Forall₂ (fun x y => BothCarry m p q (f x) (g y)) xs ys) :
    BothCarry (fun k => List.map (m k)) p q (xs.mapM f) (ys.mapM g) := by
  induction h with
  | nil =>
      intro a b ha hb
      obtain rfl := Except.ok.inj ha
      obtain rfl := Except.ok.inj hb
      exact .list_nil
  | cons hfirst _ ih =>
      intro a b ha hb
      rw [List.mapM_cons] at ha hb
      obtain ⟨x, hx, ha⟩ := bind_eq_ok.mp ha
      obtain ⟨xs, hxs, ha⟩ := bind_eq_ok.mp ha
      obtain ⟨y, hy, hb⟩ := bind_eq_ok.mp hb
      obtain ⟨ys, hys, hb⟩ := bind_eq_ok.mp hb
      obtain rfl := Except.ok.inj ha
      obtain rfl := Except.ok.inj hb
      exact (hfirst x y hx hy).list_cons (ih xs ys hxs hys)

theorem BothCarry.mapM_same {γ : Type} {f g : γ → Outcome α} {xs : List γ}
    (h : ∀ x ∈ xs, BothCarry m p q (f x) (g x)) :
    BothCarry (fun k => List.map (m k)) p q (xs.mapM f) (xs.mapM g) :=
  BothCarry.mapM (List.forall₂_same.mpr h)

end Iec61850.Scl
