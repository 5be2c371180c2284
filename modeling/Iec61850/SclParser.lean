import Iec61850.ModelInstantiation

/-!
# The SCL parser

`Parser.Parse` on a decoded document: the types of attribute definitions, the
instantiation of every logical node, the defaults of the control blocks, the
instance values of the `DOI` elements, and the communication section.  The
first error ends the parse; the model is returned only as a whole.
-/

namespace Iec61850.Scl

open Go

/-! ## Type declarations -/

/-- One iteration of `parseDataAttributeDefinition`. -/
def parseDefinition (rt : Runtime) (d : DataAttributeDefinition) :
    Outcome DataAttributeDefinition := do
  let attributeType ← createAttributeTypeFromScl d.bType
  let type :=
    if d.bType = lit "Tcmd" ∨ d.bType = lit "Dbpos" ∨ d.bType = lit "Check" then d.bType
    else d.type
  let definition := { d with
    type := type
    attributeType := attributeType
    triggerOptions := some {
      dchg := d.dchgTrigger
      qchg := d.qchgTrigger
      dupd := d.dupdTrigger } }
  match d.val with
  | none => pure definition
  | some text =>
      if attributeType = .enumerated then
        -- the enumeration may be declared later, so the ordinal is left open
        pure { definition with
          value := some { value := none, unknownEnumValue := text, enumType := type } }
      else do
        let dataModelValue ← newDataModelValue rt attributeType none text
        pure { definition with value := some dataModelValue }

def parseDataAttributeDefinition (rt : Runtime) (daDefinitions : List DataAttributeDefinition) :
    Outcome (List DataAttributeDefinition) :=
  daDefinitions.mapM (parseDefinition rt)

def parseTypeDeclarations (rt : Runtime) (templates : DataTypeTemplates) :
    Outcome DataTypeTemplates := do
  let dataAttributeTypes ← templates.dataAttributeTypes.mapM fun typeDeclare => do
    let definitions ← parseDataAttributeDefinition rt typeDeclare.subDataAttributes
    pure { typeDeclare with subDataAttributes := definitions }
  let dataObjectTypes ← templates.dataObjectTypes.mapM fun typeDeclare => do
    let definitions ← parseDataAttributeDefinition rt typeDeclare.dataAttributes
    pure { typeDeclare with dataAttributes := definitions }
  pure { templates with
    dataAttributeTypes := dataAttributeTypes
    dataObjectTypes := dataObjectTypes
    typeDeclarations :=
      dataAttributeTypes.map .dataAttributeType ++
      dataObjectTypes.map .dataObjectType ++
      templates.enumTypes.map .enumerationType ++
      templates.logicalNodeTypes.map .logicalNodeType }

/-! ## Control blocks -/

/-- The trigger options of a control block without a `TrgOps` element. -/
def defaultTriggerOptions : TriggerOptions := { gi := true }

def parseReportControl (rt : Runtime) (rcb : ReportControl) : Outcome ReportControl := do
  let rcb := { rcb with
    triggerOptions := some (rcb.triggerOptions.getD defaultTriggerOptions)
    indexed := if rcb.indexedStr = [] then true else rt.castToBool rcb.indexedStr }
  match rcb.rptEnabled with
  | none => pure rcb
  | some rptEnabled => do
      let max ← (if rptEnabled.maxStr = [] then pure 1
        else passError (rt.castToIntE rptEnabled.maxStr))
      if rcb.indexed = false ∧ max ≠ 1 then
        .error (.error (lit "rptEnabled.max != 1 is not allowed when indexed=\"false\""))
      else
        pure { rcb with rptEnabled := some { rptEnabled with max := max } }

def parseGSEControl (scb : GSEControl) : Outcome GSEControl :=
  if scb.type ≠ [] ∧ scb.type ≠ lit "GOOSE" then
    .error (.error (lit "GSEControl of type " ++ scb.type ++ lit " not supported!"))
  else pure scb

def parseSampledValueControl (scb : SampledValueControl) : Outcome SampledValueControl :=
  if scb.smpModStr = lit "SmpPerPeriod" then pure { scb with smpMod := .smpPerPeriod }
  else if scb.smpModStr = lit "SmpPerSec" then pure { scb with smpMod := .smpPerSecond }
  else if scb.smpModStr = lit "SecPerSmp" then pure { scb with smpMod := .secPerSmp }
  else .error (.error (lit "invalid smpMod value " ++ scb.smpModStr))

def parseLogControl (lcb : LogControl) : LogControl :=
  { lcb with triggerOptions := some (lcb.triggerOptions.getD defaultTriggerOptions) }

def parseLog (log : Log) : Log :=
  if log.name = [] then { log with name := lit "GeneralLog" } else log

/-- The defaults and checks of all control blocks of a logical node. -/
def parseControlBlocks (rt : Runtime) (ln : LogicalNode) : Outcome LogicalNode := do
  let reportControlBlocks ← ln.reportControlBlocks.mapM (parseReportControl rt)
  let gseControlBlocks ← ln.gseControlBlocks.mapM parseGSEControl
  let smvControlBlocks ← ln.smvControlBlocks.mapM parseSampledValueControl
  if ln.lnClass ≠ lit "LLN0" ∧ ln.settingGroupControlBlocks ≠ [] then
    .error (.error (lit "LN other than LN0 is not allowed to contain SettingControl"))
  else
    pure { ln with
      reportControlBlocks := reportControlBlocks
      gseControlBlocks := gseControlBlocks
      smvControlBlocks := smvControlBlocks
      logControlBlocks := ln.logControlBlocks.map parseLogControl
      logs := ln.logs.map parseLog }

/-! ## Instance values -/

/-- Assigning through the pointer to the first element that satisfies `p`. -/
def assignFirst {α : Type} (p : α → Bool) (new : α) : List α → List α
  | [] => []
  | a :: rest => if p a then new :: rest else a :: assignFirst p new rest

def setInstanceValue (rt : Runtime) (daiNode : DOINode) (dataAttribute : DataAttribute) :
    Outcome DataAttribute :=
  match daiNode.val with
  | none => .ok dataAttribute
  | some text => do
      let dataModelValue ←
        newDataModelValue rt dataAttribute.attributeType dataAttribute.sclType text
      pure { dataAttribute with
        value := some dataModelValue
        shortAddress :=
          if daiNode.sAddr = [] then dataAttribute.shortAddress else daiNode.sAddr }

/-- One iteration of `parseDataAttributeNodes`, on a data object. -/
def parseDataAttributeNode (rt : Runtime) (node : DataObject) (daiNode : DOINode) :
    Outcome DataObject :=
  match (DataModelNode.dataObject node).getChildByName daiNode.name with
  | none =>
      .error (.error (lit "missing data attribute with name \"" ++ daiNode.name ++ lit "\""))
  | some (.dataObject _) => .error (.panic .typeAssertion)
  | some (.dataAttribute dataAttribute) => do
      let assigned ← setInstanceValue rt daiNode dataAttribute
      pure { node with
        dataAttributes :=
          assignFirst (fun da => da.name = daiNode.name) assigned node.dataAttributes }

def parseDataAttributeNodes (rt : Runtime) (doiNode : DOINode) (node : DataObject) :
    Outcome DataObject :=
  doiNode.daiNodes.foldlM (parseDataAttributeNode rt) node

/-- One iteration of the loop over the `DOI` elements of a logical node. -/
def parseDOINode (rt : Runtime) (dataObjects : List DataObject) (doiNode : DOINode) :
    Outcome (List DataObject) :=
  match dataObjects.find? fun node => node.name = doiNode.name with
  | none =>
      .error (.error (lit "missing data object with name \"" ++ doiNode.name ++ lit "\""))
  | some node => do
      let assigned ← parseDataAttributeNodes rt doiNode node
      pure (assignFirst (fun node => node.name = doiNode.name) assigned dataObjects)

/-! ## Logical nodes and devices -/

def resolveLogicalNode (templates : DataTypeTemplates) (ln : LogicalNode) :
    Outcome LogicalNode :=
  match templates.lookupType ln.lnType with
  | none => .error (missingTypeDeclaration ln.getName ln.lnType)
  | some sclType => .ok { ln with sclType := some sclType }

/-- The part of the loop body after the data objects have been created. -/
def completeLogicalNode (rt : Runtime) (ln : LogicalNode) (created : List DataObject) :
    Outcome LogicalNode := do
  let checked ← parseControlBlocks rt ln
  let dataObjects ← ln.doiNodes.foldlM (parseDOINode rt) created
  pure { checked with dataObjects := dataObjects }

def parseLogicalNode (rt : Runtime) (templates : DataTypeTemplates) (fuel : ℕ)
    (ln : LogicalNode) : Outcome LogicalNode :=
  match ln.sclType with
  | some (.logicalNodeType t) => do
      let created ← t.dataObjectDefinitions.mapM (newDataObject templates fuel)
      completeLogicalNode rt ln created
  | _ => .error (.error (lit "wrong type " ++ ln.lnType ++ lit " for logical node"))

/-- The merged list `logicalNodes` holds the nodes as parsed; `ln0` and
`lNodes` are not read after that. -/
def parseLogicalDevice (rt : Runtime) (templates : DataTypeTemplates) (fuel : ℕ)
    (lDevice : LogicalDevice) : Outcome LogicalDevice := do
  let resolved ← (lDevice.ln0.toList ++ lDevice.lNodes).mapM (resolveLogicalNode templates)
  let logicalNodes ← resolved.mapM (parseLogicalNode rt templates fuel)
  pure { lDevice with logicalNodes := logicalNodes }

def parseAccessPoint (rt : Runtime) (templates : DataTypeTemplates) (fuel : ℕ)
    (ap : AccessPoint) : Outcome AccessPoint := do
  let server ← deref ap.server
  let logicalDevices ← server.logicalDevices.mapM (parseLogicalDevice rt templates fuel)
  pure { ap with server := some { logicalDevices := logicalDevices } }

def parseIed (rt : Runtime) (templates : DataTypeTemplates) (fuel : ℕ) (ied : IED) :
    Outcome IED := do
  let accessPoints ← ied.accessPoints.mapM (parseAccessPoint rt templates fuel)
  pure { ied with accessPoints := accessPoints }

/-! ## Communication -/

def parseMacAddress (value : Str) : Outcome (List ℤ) :=
  let addressElements := split '-' value
  if addressElements.length ≠ 6 then .error (.error (lit "malformed address: " ++ value))
  else addressElements.mapM fun element =>
    match parseUint element 16 8 with
    | some parsed => .ok (parsed : ℤ)
    | none => .error (.error (lit "invalid MAC address element: " ++ element))

/-- A hexadecimal parameter with an upper bound only. -/
def parseBoundedHex (name value : Str) (bound : ℤ) : Outcome ℤ :=
  match parseInt value 16 32 with
  | some n =>
      if bound < n then .error (.error (name ++ lit " value out of range: " ++ value))
      else .ok n
  | none => .error (.error (name ++ lit " value out of range: " ++ value))

def parseAddressParameter (address : PhyComAddress) (p : AddressParameter) :
    Outcome PhyComAddress :=
  if p.type = lit "VLAN-ID" then do
    let vlanId ← parseBoundedHex (lit "VLAN-ID") p.value 0xfff
    pure { address with vlanId := vlanId }
  else if p.type = lit "VLAN-PRIORITY" then
    match atoi p.value with
    | some vlanPriority => pure { address with vlanPriority := vlanPriority }
    | none => .error (.error (lit "invalid VLAN-PRIORITY: " ++ p.value))
  else if p.type = lit "APPID" then do
    let appId ← parseBoundedHex (lit "APPID") p.value 0xffff
    pure { address with appId := appId }
  else if p.type = lit "MAC-Address" then do
    let macAddress ← parseMacAddress p.value
    pure { address with macAddress := macAddress }
  else pure address

def defaultMacAddress : List ℤ := [0x01, 0x0C, 0xCD, 0x01, 0x00, 0x00]

/-- The value −1 stands for a parameter that has not been given. -/
def parsePhyComAddress (address : PhyComAddress) : Outcome PhyComAddress :=
  if address.addressParameters = [] then pure address
  else do
    let unset := { address with vlanId := -1, vlanPriority := -1, appId := -1 }
    let parsed ← address.addressParameters.foldlM parseAddressParameter unset
    pure { parsed with
      vlanId := if parsed.vlanId = -1 then 0 else parsed.vlanId
      vlanPriority := if parsed.vlanPriority = -1 then 4 else parsed.vlanPriority
      appId := if parsed.appId = -1 then 0 else parsed.appId
      macAddress := if parsed.macAddress = [] then defaultMacAddress else parsed.macAddress }

def parseAddress : Option PhyComAddress → Outcome (Option PhyComAddress)
  | none => pure none
  | some address => do
      let parsed ← parsePhyComAddress address
      pure (some parsed)

def parseTime (rt : Runtime) : Option Str → Outcome ℤ
  | none => pure (-1)
  | some value => passError (rt.castToIntE value)

def parseGSE (rt : Runtime) (node : GSE) : Outcome GSE := do
  let maxTime ← parseTime rt node.maxTimeVal
  let minTime ← parseTime rt node.minTimeVal
  let address ← parseAddress node.address
  pure { node with maxTime := maxTime, minTime := minTime, address := address }

def parseSMV (node : SMV) : Outcome SMV := do
  let address ← parseAddress node.address
  pure { node with address := address }

def parseConnectedAP (rt : Runtime) (connectedAP : ConnectedAP) : Outcome ConnectedAP := do
  let gesNodes ← connectedAP.gesNodes.mapM (parseGSE rt)
  let smvNodes ← connectedAP.smvNodes.mapM parseSMV
  pure { connectedAP with gesNodes := gesNodes, smvNodes := smvNodes }

def parseSubNetwork (rt : Runtime) (subNetwork : SubNetwork) : Outcome SubNetwork := do
  let connectedAP ← subNetwork.connectedAP.mapM (parseConnectedAP rt)
  pure { subNetwork with connectedAP := connectedAP }

def parseCommunication (rt : Runtime) : Option Communication → Outcome (Option Communication)
  | none => pure none
  | some communication => do
      let subNetworks ← communication.subNetworks.mapM (parseSubNetwork rt)
      pure (some { communication with subNetworks := subNetworks })

/-! ## Documents -/

/-- The fields that carry the tag `validate:"nonzero"`. -/
def SCL.validate (scl : SCL) : Bool :=
  !scl.ieds.isEmpty && scl.dataTypeTemplates.isSome &&
    (match scl.communication with
      | some communication => !communication.subNetworks.isEmpty
      | none => true) &&
    scl.ieds.all fun ied => ied.accessPoints.all fun ap =>
      match ap.server with
      | some server =>
          !server.logicalDevices.isEmpty && server.logicalDevices.all fun lDevice =>
            lDevice.ln0.isSome
      | none => true

/-- `Parser.Parse` after the file has been read and decoded. -/
def parse (rt : Runtime) (fuel : ℕ) (scl : SCL) : Outcome SCL :=
  if scl.validate = false then .error (.error rt.validateMessage)
  else do
    let declared ← deref scl.dataTypeTemplates
    let templates ← parseTypeDeclarations rt declared
    let ieds ← scl.ieds.mapM (parseIed rt templates fuel)
    let communication ← parseCommunication rt scl.communication
    pure { scl with
      dataTypeTemplates := some templates
      ieds := ieds
      communication := communication }

end Iec61850.Scl
