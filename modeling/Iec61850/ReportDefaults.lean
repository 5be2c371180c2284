import Iec61850.InstancePaths
import Iec61850.ReportInstances
import Iec61850.SclXml

/-!
# Defaults of report control blocks

The attributes of a `ReportControl` element pass the XML decoder, which fills
the fields of a struct, the parser, which sets defaults, and the generator.
The blocks of the file are compared with the element itself.
-/

namespace Iec61850.Scl

open Go
open SclXml (XmlElement attr)

/-! ## Decoding -/

/-- The texts an attribute field of a struct is set to, in turn. -/
def attributeTexts (tag : String) (elements : List XmlElement) : List Str :=
  ((elements.flatMap XmlElement.attributes).filter fun a => a.1 = lit tag).map Prod.snd

/-- A field of type `bool`. -/
def boolText (text : Str) : Option Bool :=
  if text = [] then some false else parseBool (trimSpace text)

/-- A field of type `int`. -/
def intText (text : Str) : Option ℤ :=
  if text = [] then some 0 else parseInt (trimSpace text) 10 64

def boolField (tag : String) (elements : List XmlElement) : Option Bool :=
  (attributeTexts tag elements).foldlM (fun _ text => boolText text) false

def intField (tag : String) (elements : List XmlElement) : Option ℤ :=
  (attributeTexts tag elements).foldlM (fun _ text => intText text) 0

/-- A field that points to a struct stays `nil` without an element. -/
def pointerField {α : Type} (decode : List XmlElement → Option α) :
    List XmlElement → Option (Option α)
  | [] => some none
  | elements => (decode elements).map some

def decodeTriggerOptions (elements : List XmlElement) : Option TriggerOptions := do
  let dchg ← boolField "dchg" elements
  let qchg ← boolField "qchg" elements
  let dupd ← boolField "dupd" elements
  let period ← boolField "period" elements
  let gi ← boolField "gi" elements
  return { dchg, qchg, dupd, period, gi }

def decodeOptionFields (elements : List XmlElement) : Option OptionFields := do
  let seqNum ← boolField "seqNum" elements
  let timeStamp ← boolField "timeStamp" elements
  let dataSet ← boolField "dataSet" elements
  let reasonCode ← boolField "reasonCode" elements
  let dataRef ← boolField "dataRef" elements
  let entryID ← boolField "entryID" elements
  let configRef ← boolField "configRef" elements
  let bufOvfl ← boolField "bufOvfl" elements
  return { seqNum, timeStamp, dataSet, reasonCode, dataRef, entryID, configRef, bufOvfl }

def decodeClientLN (e : XmlElement) : ClientLN where
  iedName := attr "iedName" [e]
  apRef := attr "apRef" [e]

def decodeRptEnabled (elements : List XmlElement) : Option RptEnabled :=
  some {
    maxStr := attr "max" elements
    clientLNs := (elements.flatMap fun e => e.childrenNamed "ClientLN").map decodeClientLN }

def decodeReportControl (e : XmlElement) : Option ReportControl := do
  let buffered ← boolField "buffered" [e]
  let bufTime ← intField "bufTime" [e]
  let triggerOptions ← pointerField decodeTriggerOptions (e.childrenNamed "TrgOps")
  let optionFields ← pointerField decodeOptionFields (e.childrenNamed "OptFields")
  let rptEnabled ← pointerField decodeRptEnabled (e.childrenNamed "RptEnabled")
  return {
    name := attr "name" [e]
    datSet := attr "datSet" [e]
    rptID := attr "rptID" [e]
    confRev := attr "confRev" [e]
    buffered
    bufTime
    intgPd := attr "intgPd" [e]
    indexedStr := attr "indexed" [e]
    triggerOptions
    optionFields
    rptEnabled }

/-! ## What an element stands for -/

def Given (tag : String) (elements : List XmlElement) : Prop :=
  attributeTexts tag elements ≠ []

/-- The flag an attribute sets, or the one of an omitted attribute. -/
def flagOf (tag : String) (elements : List XmlElement) (omitted : Bool) : Bool :=
  match (attributeTexts tag elements).getLast? with
  | none => omitted
  | some text => (boolText text).getD omitted

def numberOf (tag : String) (elements : List XmlElement) : ℤ :=
  match (attributeTexts tag elements).getLast? with
  | none => 0
  | some text => (intText text).getD 0

/-- One bit per flag, and `gi` without a `TrgOps` element. -/
def expectedTrgOps (hasOwner : Bool) (e : XmlElement) : ℤ :=
  (match e.childrenNamed "TrgOps" with
    | [] => 16
    | elements =>
        bit (flagOf "dchg" elements false) 1 + bit (flagOf "qchg" elements false) 2 +
          bit (flagOf "dupd" elements false) 4 + bit (flagOf "period" elements false) 8 +
          bit (flagOf "gi" elements true) 16) + bit hasOwner 64

/-- One bit per flag, and `bufOvfl` without an `OptFields` element. -/
def expectedOptFlds (e : XmlElement) : ℤ :=
  match e.childrenNamed "OptFields" with
  | [] => 32
  | elements =>
      bit (flagOf "seqNum" elements false) 1 + bit (flagOf "timeStamp" elements false) 2 +
        bit (flagOf "reasonCode" elements false) 4 + bit (flagOf "dataSet" elements false) 8 +
        bit (flagOf "dataRef" elements false) 16 + bit (flagOf "bufOvfl" elements true) 32 +
        bit (flagOf "entryID" elements false) 64 + bit (flagOf "configRef" elements false) 128

def expectedIndexed (rt : Runtime) (e : XmlElement) : Bool :=
  if attr "indexed" [e] = [] then true else rt.castToBool (attr "indexed" [e])

def expectedMax (rt : Runtime) (e : XmlElement) : ℕ :=
  match e.childrenNamed "RptEnabled" with
  | [] => 1
  | elements =>
      if attr "max" elements = [] then 1
      else
        match rt.castToIntE (attr "max" elements) with
        | .ok max => max.toNat
        | .error _ => 0

def expectedContent (hasOwner : Bool) (e : XmlElement) (index : Str) : ReportContent where
  name := attr "name" [e] ++ index
  rptId := quoted (attr "rptID" [e])
  buffered := flagOf "buffered" [e] false
  dataSet := quoted (attr "datSet" [e])
  confRef := if attr "confRev" [e] = [] then lit "0" else attr "confRev" [e]
  trgOps := expectedTrgOps hasOwner e
  options := expectedOptFlds e
  bufferTime := numberOf "bufTime" [e]
  intPeriod := if attr "intgPd" [e] = [] then lit "0" else attr "intgPd" [e]

def expectedIndices (rt : Runtime) (e : XmlElement) : List Str :=
  if expectedIndexed rt e then indexTexts (expectedMax rt e) else [[]]

/-- The blocks that are declared by the element. -/
def expectedReports (rt : Runtime) (hasOwner : Bool) (e : XmlElement) : List ReportContent :=
  (expectedIndices rt e).map (expectedContent hasOwner e)

/-- The two flags that are set without their elements are not left out. -/
structure GivesDefaultFlags (e : XmlElement) : Prop where
  gi : e.childrenNamed "TrgOps" ≠ [] → Given "gi" (e.childrenNamed "TrgOps")
  bufOvfl : e.childrenNamed "OptFields" ≠ [] → Given "bufOvfl" (e.childrenNamed "OptFields")

/-! ## The decoded fields -/

section Fields

variable {tag : String} {elements : List XmlElement}

/-- The last text decides. -/
theorem foldlM_overwrite {α : Type} {decode : Str → Option α} {texts : List Str} {zero a : α}
    (h : texts.foldlM (fun _ text => decode text) zero = some a) :
    (texts = [] ∧ a = zero) ∨ ∃ text, texts.getLast? = some text ∧ decode text = some a := by
  induction texts using List.reverseRecOn with
  | nil => exact .inl ⟨rfl, (Option.some.inj h).symm⟩
  | append_singleton before text _ =>
      rw [List.foldlM_append] at h
      obtain ⟨_, -, h⟩ := Option.bind_eq_some_iff.mp h
      rw [List.foldlM_cons] at h
      obtain ⟨_, htext, h⟩ := Option.bind_eq_some_iff.mp h
      obtain rfl := Option.some.inj h
      exact .inr ⟨text, List.getLast?_concat, htext⟩

theorem flagOf_false_eq {flag : Bool} (h : boolField tag elements = some flag) :
    flagOf tag elements false = flag := by
  rcases foldlM_overwrite h with ⟨hnone, rfl⟩ | ⟨text, hlast, htext⟩
  · simp [flagOf, hnone]
  · simp [flagOf, hlast, htext]

theorem numberOf_eq {number : ℤ} (h : intField tag elements = some number) :
    numberOf tag elements = number := by
  rcases foldlM_overwrite h with ⟨hnone, rfl⟩ | ⟨text, hlast, htext⟩
  · simp [numberOf, hnone]
  · simp [numberOf, hlast, htext]

/-- The flag of an attribute that counts as set when it is omitted. -/
theorem bit_flagOf_true_eq_iff {flag : Bool} {weight : ℤ} (hweight : weight ≠ 0)
    (h : boolField tag elements = some flag) :
    bit flag weight = bit (flagOf tag elements true) weight ↔ Given tag elements := by
  rcases foldlM_overwrite h with ⟨hnone, rfl⟩ | ⟨text, hlast, htext⟩
  · simp [flagOf, Given, hnone, bit, hweight.symm]
  · have hgiven : attributeTexts tag elements ≠ [] := by
      intro hnil
      rw [hnil] at hlast
      cases hlast
    simp [flagOf, Given, hlast, htext, hgiven]

end Fields

theorem pointerField_eq_some {α : Type} {decode : List XmlElement → Option α}
    {elements : List XmlElement} {pointer : Option α}
    (h : pointerField decode elements = some pointer) :
    (elements = [] ∧ pointer = none) ∨
      elements ≠ [] ∧ ∃ a, decode elements = some a ∧ pointer = some a := by
  cases elements with
  | nil => exact .inl ⟨rfl, (Option.some.inj h).symm⟩
  | cons e rest =>
      obtain ⟨a, ha, rfl⟩ := Option.map_eq_some_iff.mp h
      exact .inr ⟨List.cons_ne_nil e rest, a, ha, rfl⟩

theorem triggerOptions_eq_iff {elements : List XmlElement} {options : TriggerOptions}
    (h : decodeTriggerOptions elements = some options) :
    options.getIntValue =
        bit (flagOf "dchg" elements false) 1 + bit (flagOf "qchg" elements false) 2 +
          bit (flagOf "dupd" elements false) 4 + bit (flagOf "period" elements false) 8 +
          bit (flagOf "gi" elements true) 16 ↔
      Given "gi" elements := by
  obtain ⟨dchg, hdchg, h⟩ := Option.bind_eq_some_iff.mp h
  obtain ⟨qchg, hqchg, h⟩ := Option.bind_eq_some_iff.mp h
  obtain ⟨dupd, hdupd, h⟩ := Option.bind_eq_some_iff.mp h
  obtain ⟨period, hperiod, h⟩ := Option.bind_eq_some_iff.mp h
  obtain ⟨gi, hgi, h⟩ := Option.bind_eq_some_iff.mp h
  obtain rfl := Option.some.inj h
  rw [flagOf_false_eq hdchg, flagOf_false_eq hqchg, flagOf_false_eq hdupd,
    flagOf_false_eq hperiod, ← bit_flagOf_true_eq_iff (by decide : (16 : ℤ) ≠ 0) hgi]
  simp only [TriggerOptions.getIntValue, add_right_inj]

theorem optionFields_eq_iff {elements : List XmlElement} {fields : OptionFields}
    (h : decodeOptionFields elements = some fields) :
    bit fields.seqNum 1 + bit fields.timeStamp 2 + bit fields.reasonCode 4 +
          bit fields.dataSet 8 + bit fields.dataRef 16 + bit fields.bufOvfl 32 +
          bit fields.entryID 64 + bit fields.configRef 128 =
        bit (flagOf "seqNum" elements false) 1 + bit (flagOf "timeStamp" elements false) 2 +
          bit (flagOf "reasonCode" elements false) 4 + bit (flagOf "dataSet" elements false) 8 +
          bit (flagOf "dataRef" elements false) 16 + bit (flagOf "bufOvfl" elements true) 32 +
          bit (flagOf "entryID" elements false) 64 +
          bit (flagOf "configRef" elements false) 128 ↔
      Given "bufOvfl" elements := by
  obtain ⟨seqNum, hseqNum, h⟩ := Option.bind_eq_some_iff.mp h
  obtain ⟨timeStamp, htimeStamp, h⟩ := Option.bind_eq_some_iff.mp h
  obtain ⟨dataSet, hdataSet, h⟩ := Option.bind_eq_some_iff.mp h
  obtain ⟨reasonCode, hreasonCode, h⟩ := Option.bind_eq_some_iff.mp h
  obtain ⟨dataRef, hdataRef, h⟩ := Option.bind_eq_some_iff.mp h
  obtain ⟨entryID, hentryID, h⟩ := Option.bind_eq_some_iff.mp h
  obtain ⟨configRef, hconfigRef, h⟩ := Option.bind_eq_some_iff.mp h
  obtain ⟨bufOvfl, hbufOvfl, h⟩ := Option.bind_eq_some_iff.mp h
  obtain rfl := Option.some.inj h
  rw [flagOf_false_eq hseqNum, flagOf_false_eq htimeStamp, flagOf_false_eq hreasonCode,
    flagOf_false_eq hdataSet, flagOf_false_eq hdataRef, flagOf_false_eq hentryID,
    flagOf_false_eq hconfigRef, ← bit_flagOf_true_eq_iff (by decide : (32 : ℤ) ≠ 0) hbufOvfl]
  simp only [add_left_inj, add_right_inj]

/-! ## From the element to the blocks -/

variable {rt : Runtime} {scl : SCL} {args : GeneratorArguments}

/-- What the decoder reads into the fields of a report control block. -/
structure DecodedReport (e : XmlElement) (rcb : ReportControl) : Prop where
  name : rcb.name = attr "name" [e]
  datSet : rcb.datSet = attr "datSet" [e]
  rptID : rcb.rptID = attr "rptID" [e]
  confRev : rcb.confRev = attr "confRev" [e]
  intgPd : rcb.intgPd = attr "intgPd" [e]
  indexedStr : rcb.indexedStr = attr "indexed" [e]
  buffered : boolField "buffered" [e] = some rcb.buffered
  bufTime : intField "bufTime" [e] = some rcb.bufTime
  triggerOptions : pointerField decodeTriggerOptions (e.childrenNamed "TrgOps") =
    some rcb.triggerOptions
  optionFields : pointerField decodeOptionFields (e.childrenNamed "OptFields") =
    some rcb.optionFields
  rptEnabled : pointerField decodeRptEnabled (e.childrenNamed "RptEnabled") =
    some rcb.rptEnabled

theorem decodedReport {e : XmlElement} {rcb : ReportControl}
    (h : decodeReportControl e = some rcb) : DecodedReport e rcb := by
  obtain ⟨buffered, hbuffered, h⟩ := Option.bind_eq_some_iff.mp h
  obtain ⟨bufTime, hbufTime, h⟩ := Option.bind_eq_some_iff.mp h
  obtain ⟨triggerOptions, htriggerOptions, h⟩ := Option.bind_eq_some_iff.mp h
  obtain ⟨optionFields, hoptionFields, h⟩ := Option.bind_eq_some_iff.mp h
  obtain ⟨rptEnabled, hrptEnabled, h⟩ := Option.bind_eq_some_iff.mp h
  obtain rfl := Option.some.inj h
  exact ⟨rfl, rfl, rfl, rfl, rfl, rfl, hbuffered, hbufTime, htriggerOptions, hoptionFields,
    hrptEnabled⟩

/-- The parser sets three fields and leaves the others as they are. -/
theorem parseReportControl_ok {rcb parsed : ReportControl}
    (h : parseReportControl rt rcb = .ok parsed) :
    parsed = { rcb with
      triggerOptions := some (rcb.triggerOptions.getD defaultTriggerOptions)
      indexed := if rcb.indexedStr = [] then true else rt.castToBool rcb.indexedStr
      rptEnabled := parsed.rptEnabled } ∧
    (rcb.rptEnabled = none → parsed.rptEnabled = none) ∧
    ∀ rptEnabled, rcb.rptEnabled = some rptEnabled → ∃ max,
      (if rptEnabled.maxStr = [] then pure 1
        else passError (rt.castToIntE rptEnabled.maxStr)) = .ok max ∧
      parsed.rptEnabled = some { rptEnabled with max := max } := by
  unfold parseReportControl at h
  generalize (if rcb.indexedStr = [] then true else rt.castToBool rcb.indexedStr) = indexed at h ⊢
  cases hrptEnabled : rcb.rptEnabled with
  | none =>
      simp only [hrptEnabled] at h
      obtain rfl := Except.ok.inj h
      simp
  | some rptEnabled =>
      simp only [hrptEnabled] at h
      obtain ⟨max, hmax, h⟩ := bind_eq_ok.mp h
      split at h
      next => cases h
      next =>
        obtain rfl := Except.ok.inj h
        simp only [reduceCtorEq, false_implies, Option.some.injEq, forall_eq', true_and]
        exact ⟨max, hmax, rfl⟩

theorem maxInstances_parseReportControl {e : XmlElement} {rcb parsed : ReportControl}
    (hdecoded : DecodedReport e rcb) (h : parseReportControl rt rcb = .ok parsed) :
    parsed.maxInstances = expectedMax rt e := by
  obtain ⟨-, hnone, hsome⟩ := parseReportControl_ok h
  cases hchildren : e.childrenNamed "RptEnabled" with
  | nil =>
      have hrptEnabled := hdecoded.rptEnabled
      rw [hchildren] at hrptEnabled
      have hparsed := hnone (Option.some.inj hrptEnabled).symm
      simp only [ReportControl.maxInstances, expectedMax, hchildren, hparsed]
  | cons first rest =>
      have hrptEnabled := hdecoded.rptEnabled
      rw [hchildren] at hrptEnabled
      obtain ⟨max, hmax, hparsed⟩ := hsome _ (Option.some.inj hrptEnabled).symm
      simp only [ReportControl.maxInstances, expectedMax, hchildren, hparsed]
      split at hmax
      next hempty =>
        obtain rfl := Except.ok.inj hmax
        rw [if_pos hempty]
        rfl
      next hempty =>
        rw [if_neg hempty]
        cases hcast : rt.castToIntE (attr "max" (first :: rest)) with
        | ok n =>
            rw [hcast] at hmax
            obtain rfl := Except.ok.inj hmax
            rfl
        | error message =>
            rw [hcast] at hmax
            cases hmax

theorem instanceIndices_parseReportControl {e : XmlElement} {rcb parsed : ReportControl}
    (hdecoded : DecodedReport e rcb) (h : parseReportControl rt rcb = .ok parsed) :
    parsed.instanceIndices = expectedIndices rt e := by
  have hindexed : parsed.indexed = expectedIndexed rt e := by
    rw [(parseReportControl_ok h).1, expectedIndexed, ← hdecoded.indexedStr]
  rw [ReportControl.instanceIndices, expectedIndices, hindexed,
    maxInstances_parseReportControl hdecoded h]

theorem trgOps_eq_iff (hasOwner : Bool) {e : XmlElement} {rcb parsed : ReportControl}
    (hdecoded : DecodedReport e rcb) (h : parseReportControl rt rcb = .ok parsed) :
    reportTriggerOptions hasOwner parsed = expectedTrgOps hasOwner e ↔
      (e.childrenNamed "TrgOps" ≠ [] → Given "gi" (e.childrenNamed "TrgOps")) := by
  rw [(parseReportControl_ok h).1, reportTriggerOptions, expectedTrgOps, add_left_inj]
  rcases pointerField_eq_some hdecoded.triggerOptions with
    ⟨helements, hnone⟩ | ⟨helements, options, hdecode, hsome⟩
  · rw [helements, hnone]
    simp [defaultTriggerOptions, TriggerOptions.getIntValue, bit]
  · rw [hsome]
    cases hchildren : e.childrenNamed "TrgOps" with
    | nil => exact absurd hchildren helements
    | cons first rest =>
        rw [hchildren] at hdecode
        simp only [Option.getD_some, ne_eq, reduceCtorEq, not_false_eq_true, forall_const]
        exact triggerOptions_eq_iff hdecode

theorem optFlds_eq_iff {e : XmlElement} {rcb parsed : ReportControl}
    (hdecoded : DecodedReport e rcb) (h : parseReportControl rt rcb = .ok parsed) :
    reportOptionFields parsed = expectedOptFlds e ↔
      (e.childrenNamed "OptFields" ≠ [] → Given "bufOvfl" (e.childrenNamed "OptFields")) := by
  rw [(parseReportControl_ok h).1, reportOptionFields, expectedOptFlds]
  rcases pointerField_eq_some hdecoded.optionFields with
    ⟨helements, hnone⟩ | ⟨helements, fields, hdecode, hsome⟩
  · simp [helements, hnone]
  · rw [hsome]
    cases hchildren : e.childrenNamed "OptFields" with
    | nil => exact absurd hchildren helements
    | cons first rest =>
        rw [hchildren] at hdecode
        simp only [ne_eq, reduceCtorEq, not_false_eq_true, forall_const]
        exact optionFields_eq_iff hdecode

theorem content_eq_iff {hasOwner : Bool} {e : XmlElement} {rcb parsed : ReportControl}
    (hdecoded : DecodedReport e rcb) (h : parseReportControl rt rcb = .ok parsed)
    (index : Str) :
    parsed.content hasOwner index = expectedContent hasOwner e index ↔ GivesDefaultFlags e := by
  have hfields := (parseReportControl_ok h).1
  have hname : parsed.name = attr "name" [e] := by rw [hfields, ← hdecoded.name]
  have hrptID : parsed.rptID = attr "rptID" [e] := by rw [hfields, ← hdecoded.rptID]
  have hbuffered : parsed.buffered = flagOf "buffered" [e] false := by
    rw [hfields, flagOf_false_eq hdecoded.buffered]
  have hdatSet : parsed.datSet = attr "datSet" [e] := by rw [hfields, ← hdecoded.datSet]
  have hconfRev : parsed.confRev = attr "confRev" [e] := by rw [hfields, ← hdecoded.confRev]
  have hbufTime : parsed.bufTime = numberOf "bufTime" [e] := by
    rw [hfields, numberOf_eq hdecoded.bufTime]
  have hintgPd : parsed.intgPd = attr "intgPd" [e] := by rw [hfields, ← hdecoded.intgPd]
  have htrgOps := trgOps_eq_iff hasOwner hdecoded h
  have hoptFlds := optFlds_eq_iff hdecoded h
  constructor
  · intro hcontent
    exact ⟨htrgOps.mp (congrArg ReportContent.trgOps hcontent),
      hoptFlds.mp (congrArg ReportContent.options hcontent)⟩
  · rintro ⟨hgi, hbufOvfl⟩
    rw [ReportControl.content, expectedContent, hname, hrptID, hbuffered, hdatSet, hconfRev,
      hbufTime, hintgPd, htrgOps.mpr hgi, hoptFlds.mpr hbufOvfl]

/-! ## All elements of a node -/

/-- The `ReportControl` elements of the node of the document that the node of the
model is parsed from. -/
def ReportElements (P : ParsedModel rt) (elements : List XmlElement) (ln : LogicalNode) :
    Prop :=
  ∃ templates, ∃ source ∈ P.document.declaredNodes, ParsedFrom rt templates P.fuel source ln ∧
    List.Forall₂ (fun e rcb => decodeReportControl e = some rcb) elements
      source.reportControlBlocks

theorem ParsedFrom.reportControlBlocks {templates : DataTypeTemplates} {fuel : ℕ}
    {source ln : LogicalNode} (h : ParsedFrom rt templates fuel source ln) :
    List.Forall₂ (fun rcb parsed => parseReportControl rt rcb = .ok parsed)
      source.reportControlBlocks ln.reportControlBlocks := by
  obtain ⟨resolved, hresolved, hparsed⟩ := h
  have hreports := parseLogicalNode_reportControlBlocks hparsed
  obtain ⟨t, -, rfl⟩ := resolveLogicalNode_eq_ok hresolved
  exact mapM_eq_ok.mp hreports

/-- Every node that the generator prints has been parsed from one of the document. -/
theorem Selection.parsedFrom {P : ParsedModel rt} (S : Selection P.model args) :
    ∀ p ∈ placedNodes S.logicalDevices, ∃ templates, ∃ source ∈ P.document.declaredNodes,
      ParsedFrom rt templates P.fuel source p.node := by
  intro p hp
  obtain ⟨hdevice, hnode⟩ := mem_placedNodes.mp hp
  have hmem : p.node ∈ P.model.modelNodes := by
    rw [SCL.modelNodes, SCL.devices, List.mem_flatMap]
    refine ⟨p.device, List.mem_flatMap.mpr ⟨S.ied, S.ied_mem, ?_⟩, hnode⟩
    rw [List.mem_flatMap]
    exact ⟨S.accessPoint, S.accessPoint_mem, by simpa [AccessPoint.devices, S.server_eq]⟩
  obtain ⟨templates, hnodes⟩ := P.parsedNodes
  obtain ⟨source, hsource, hparsed⟩ := exists_mem_of_forall₂ hnodes.flip hmem
  exact ⟨templates, source, hsource, hparsed⟩

/-- Concatenated groups of the expected lengths are the expected ones group by group. -/
theorem flatMap_eq_flatMap_iff {α β γ : Type} {f : α → List γ} {g : β → List γ}
    {Q : α → Prop} {xs : List α} {ys : List β}
    (h : List.Forall₂ (fun x y => (g y).length = (f x).length ∧ (g y = f x ↔ Q x)) xs ys) :
    ys.flatMap g = xs.flatMap f ↔ ∀ x ∈ xs, Q x := by
  induction h with
  | nil => simp
  | cons hfirst _ ih =>
      obtain ⟨hlength, hiff⟩ := hfirst
      rw [List.flatMap_cons, List.flatMap_cons, List.forall_mem_cons, ← hiff, ← ih]
      constructor
      · intro heq
        exact List.append_inj heq hlength
      · rintro ⟨hown, hothers⟩
        rw [hown, hothers]

theorem reports_eq_iff {hasOwner : Bool} {e : XmlElement} {rcb parsed : ReportControl}
    (hdecode : decodeReportControl e = some rcb) (h : parseReportControl rt rcb = .ok parsed) :
    parsed.instanceIndices.map (parsed.content hasOwner) = expectedReports rt hasOwner e ↔
      (expectedIndices rt e ≠ [] → GivesDefaultFlags e) := by
  have hdecoded := decodedReport hdecode
  rw [expectedReports, instanceIndices_parseReportControl hdecoded h, List.map_inj_left]
  constructor
  · intro hall hne
    obtain ⟨index, hindex⟩ := List.exists_mem_of_ne_nil _ hne
    exact (content_eq_iff hdecoded h index).mp (hall index hindex)
  · intro hflags index hindex
    exact (content_eq_iff hdecoded h index).mpr (hflags (List.ne_nil_of_mem hindex))

def xmlElement (name : String) (attributes : List (String × String))
    (children : List XmlElement) : XmlElement :=
  .mk (lit name) (attributes.map fun a => (lit a.1, lit a.2)) children []

/-- The report control block of `simpleIO_control_tests.cid`. -/
def controlEventsElement : XmlElement :=
  xmlElement "ReportControl" [("name", "ControlEventsRCB"), ("confRev", "1"),
      ("datSet", "ControlEvents"), ("rptID", "ControlEvents"), ("buffered", "false"),
      ("intgPd", "1000"), ("bufTime", "0"), ("indexed", "true")] [
    xmlElement "TrgOps" [("dchg", "true")] [],
    xmlElement "OptFields" [("seqNum", "true"), ("timeStamp", "true"), ("dataSet", "true"),
      ("reasonCode", "true"), ("entryID", "true"), ("configRef", "true")] [],
    xmlElement "RptEnabled" [("max", "2")] []]

def controlEventsReport : ReportControl where
  name := lit "ControlEventsRCB"
  datSet := lit "ControlEvents"
  rptID := lit "ControlEvents"
  confRev := lit "1"
  intgPd := lit "1000"
  indexedStr := lit "true"
  triggerOptions := some { dchg := true }
  optionFields := some {
    seqNum := true
    timeStamp := true
    dataSet := true
    reasonCode := true
    entryID := true
    configRef := true }
  rptEnabled := some { maxStr := lit "2" }

theorem decodeReportControl_controlEvents :
    decodeReportControl controlEventsElement = some controlEventsReport := by
  decide +kernel

def controlEventsDevice : LogicalDevice where
  inst := lit "GenericIO"
  ln0 := some {
    lnClass := lit "LLN0"
    lnType := lit "LN0T"
    reportControlBlocks := [controlEventsReport] }

def controlEventsModel : ParsedModel plainRuntime :=
  ParsedModel.ofDocument plainRuntime 4 (documentOf measurementTemplates [controlEventsDevice])
    (by decide +kernel)

theorem generate_controlEventsModel :
    (generate plainRuntime controlEventsModel.model {}).isOk = true := by
  decide +kernel

theorem selectedDevices_controlEventsModel :
    (selectedDevices controlEventsModel.model {}).isOk = true := by
  decide +kernel

end Iec61850.Scl
