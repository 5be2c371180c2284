import Iec61850.GeneratorDataModel
import Iec61850.GeneratorControlBlocks

/-!
# The static model generator

`Generate` on a parsed model: the data sets, the devices and their logical
nodes, and the two files as a whole.
-/

namespace Iec61850.Scl

open Go

/-- The arguments of the generator; the output directory only says where the
files are written. -/
structure GeneratorArguments where
  iedName : Str := []
  apName : Str := []
  outFileName : Str := lit "static_model"
  modelPrefix : Str := lit "iedModel"
  initializeOnce : Bool := false

/-- The generator after `Generate` has selected the IED, the access point and
the connected access point. -/
structure StaticModelGenerator where
  rt : Runtime
  scl : SCL
  modelPrefix : Str
  initializeOnce : Bool
  ied : IED
  accessPoint : AccessPoint
  connectedAP : Option ConnectedAP

def StaticModelGenerator.hasOwner (s : StaticModelGenerator) : Bool :=
  match s.ied.services.bind (·.reportSettings) with
  | some settings => settings.owner
  | none => false

def StaticModelGenerator.printContext (s : StaticModelGenerator) : PrintContext where
  rt := s.rt
  templates := s.scl.dataTypeTemplates
  initializeOnce := s.initializeOnce
  insertSE := insertSE s.modelPrefix

def StaticModelGenerator.controlBlockContext (s : StaticModelGenerator)
    (names : VariableNames) : ControlBlockContext where
  rt := s.rt
  communication := s.scl.communication
  connectedAP := s.connectedAP
  hasOwner := s.hasOwner
  names := names

/-! ## Forward declarations -/

def printLogicalNodeForwardDeclarations (ctx : PrintContext) (ldName : Str)
    (logicalNode : LogicalNode) : Outcome (List ExternDeclaration) := do
  let lnName := joinName ldName logicalNode.getName
  let (objects, _) ←
    printDataObjectForwardDeclarationsByDO ctx lnName logicalNode.dataObjects []
  pure (⟨.logicalNode, lnName⟩ :: objects)

def printLogicalDeviceForwardDeclarations (ctx : PrintContext) (modelPrefix : Str)
    (lDevice : LogicalDevice) : Outcome (List ExternDeclaration) := do
  let ldName := joinName modelPrefix lDevice.inst
  let nodes ←
    lDevice.logicalNodes.mapM (printLogicalNodeForwardDeclarations ctx ldName)
  pure (⟨.logicalDevice, ldName⟩ :: nodes.flatten)

/-- `printForwardDeclarations`: the `extern` lines of the `.h` file. -/
def printForwardDeclarations (ctx : PrintContext) (modelPrefix : Str)
    (logicalDevices : List LogicalDevice) : Outcome (List ExternDeclaration) := do
  let devices ←
    logicalDevices.mapM (printLogicalDeviceForwardDeclarations ctx modelPrefix)
  pure (⟨.iedModel, modelPrefix⟩ :: devices.flatten)

/-! ## Data sets -/

/-- A data set with the device and the node it belongs to. -/
structure PlacedDataSet where
  device : LogicalDevice
  node : LogicalNode
  dataSet : DataSet

def placedDataSets (logicalDevices : List LogicalDevice) : List PlacedDataSet :=
  logicalDevices.flatMap fun device =>
    device.logicalNodes.flatMap fun node =>
      node.dataSets.map fun dataSet =>
        { device := device, node := node, dataSet := dataSet }

/-- `fmt.Sprintf("%sds_%s_%s_%s", modelPrefix, inst, name, dataSet)` -/
def PlacedDataSet.variableName (modelPrefix : Str) (p : PlacedDataSet) : Str :=
  joinName (joinName (joinName (modelPrefix ++ lit "ds") p.device.inst) p.node.getName)
    p.dataSet.name

def toMmsString (iecString : Str) : Str := replaceAll iecString '.' '$'

def fcdaVariableName (fcda : FCDA) : Str :=
  fcda.nodePrefix ++ fcda.lnClass ++ fcda.ldInst ++ lit "$" ++ fcda.fc ++ lit "$" ++
    toMmsString fcda.doName ++
    (if fcda.daName = [] then [] else lit "$" ++ toMmsString fcda.daName)

/-- `s[low:high]`; a negative bound stands for a text not found. -/
def slice (s : Str) (low : ℕ) (high : Option ℕ) : Outcome Str :=
  match high with
  | some high =>
      if low ≤ high then .ok ((s.take high).drop low)
      else .error (.panic .indexOutOfRange)
  | none => .error (.panic .indexOutOfRange)

/-- The array index and the component after it; −1 without an index. -/
def fcdaArrayIndex (rt : Runtime) (mmsVariableName : Str) : Outcome (ℤ × Option Str) :=
  match index mmsVariableName '(' with
  | none => pure (-1, none)
  | some arrayStart => do
      let arrayEnd := index mmsVariableName ')'
      let arrayIndexStr ← slice mmsVariableName (arrayStart + 1) arrayEnd
      let arrayIndex ← passError (rt.castToIntE arrayIndexStr)
      let componentName :=
        match mmsVariableName.drop ((arrayEnd.getD 0) + 1) with
        | '$' :: component => quoted component
        | _ => none
      pure (arrayIndex, componentName)

def entryName (dataSetVariableName : Str) (i : ℕ) : Str :=
  dataSetVariableName ++ lit "_fcda" ++ itoa i

def printDataSetEntry (rt : Runtime) (dataSetVariableName : Str) (numberOfFcdas : ℕ)
    (numbered : FCDA × ℕ) : Outcome DataSetEntryDefinition := do
  let (fcda, i) := numbered
  let mmsVariableName := fcdaVariableName fcda
  let (arrayIndex, componentName) ← fcdaArrayIndex rt mmsVariableName
  pure {
    entryName := entryName dataSetVariableName i
    logicalDeviceName := fcda.ldInst
    mmsVariableName := mmsVariableName
    arrayIndex := arrayIndex
    componentName := componentName
    sibling :=
      if i + 1 < numberOfFcdas then some (entryName dataSetVariableName (i + 1)) else none }

/-- The declarations of one data set: its entries, declared and defined, and
the data set itself with the pointer to the next one. -/
def printDataSet (rt : Runtime) (dataSetVariableName : Str) (next : Option Str)
    (p : PlacedDataSet) : Outcome (List CItem) := do
  let fcdas := p.dataSet.fcda
  let entries ← fcdas.zipIdx.mapM
    (printDataSetEntry rt dataSetVariableName fcdas.length)
  let dataSet : DataSetDefinition := {
    dataSetName := dataSetVariableName
    logicalDeviceName := p.device.inst
    name := p.node.getName ++ lit "$" ++ p.dataSet.name
    elementCount := fcdas.length
    fcdas := entryName dataSetVariableName 0
    sibling := next }
  pure ((List.range fcdas.length).map (fun i =>
      CItem.externDeclaration ⟨.dataSetEntry, entryName dataSetVariableName i⟩) ++
    entries.map .dataSetEntry ++ [.dataSet dataSet])

/-- The loop over the data sets; `dataSetNames` holds the names from
`dataSetNameListIndex` on. -/
def printPlacedDataSets (rt : Runtime) : List Str → List PlacedDataSet →
    Outcome (List CItem)
  | _, [] => pure []
  | dataSetNames, p :: rest => do
      let dataSetVariableName ← first dataSetNames
      let items ← printDataSet rt dataSetVariableName dataSetNames.tail.head? p
      let others ← printPlacedDataSets rt dataSetNames.tail rest
      pure (items ++ others)

def dataSetNames (modelPrefix : Str) (logicalDevices : List LogicalDevice) : List Str :=
  (placedDataSets logicalDevices).map (PlacedDataSet.variableName modelPrefix)

def printDataSets (rt : Runtime) (modelPrefix : Str)
    (logicalDevices : List LogicalDevice) : Outcome (List CItem) := do
  let names := dataSetNames modelPrefix logicalDevices
  let items ← printPlacedDataSets rt names (placedDataSets logicalDevices)
  pure (names.map (fun name => .externDeclaration ⟨.dataSet, name⟩) ++ items)

/-! ## Devices and logical nodes -/

/-- `createLNSubVariableList` -/
def createLNSubVariableList (modelPrefix : Str) (logicalDevices : List LogicalDevice) :
    VariableNames :=
  let perNode := logicalDevices.flatMap fun ld =>
    ld.logicalNodes.map fun ln =>
      createLNVariableNames (joinName (joinName modelPrefix ld.inst) ln.getName) ln
  perNode.foldr (· ++ ·) {}

/-- The definitions and the buffers of the control blocks. -/
structure DeviceModel where
  definitions : Definitions := {}
  buffers : ControlBlockBuffers := {}

def logicalNodeLabel (ln : LogicalNode) : NodeLabel where
  kind := .logicalNode
  name := some ln.getName

def logicalDeviceLabel (device : LogicalDevice) : NodeLabel where
  kind := .logicalDevice
  name := some device.inst

def logicalNodeNode (ldName : Str) (next : Option LogicalNode) (firstChild : DataObject)
    (ln : LogicalNode) : NodeDefinition where
  variableName := joinName ldName ln.getName
  label := logicalNodeLabel ln
  parent := ldName
  sibling := next.map fun ln => joinName ldName ln.getName
  firstChild := some (joinName (joinName ldName ln.getName) firstChild.name)

def logicalDeviceNode (modelPrefix : Str) (next : Option LogicalDevice)
    (firstChild : LogicalNode) (device : LogicalDevice) : NodeDefinition where
  variableName := joinName modelPrefix device.inst
  label := logicalDeviceLabel device
  parent := modelPrefix
  sibling := next.map fun ld => joinName modelPrefix ld.inst
  firstChild := some (joinName (joinName modelPrefix device.inst) firstChild.getName)

def printLogicalNodeDefinition (ctx : PrintContext) (blocks : ControlBlockContext)
    (deviceInst ldName : Str) (next : Option LogicalNode) (logicalNode : LogicalNode)
    (out : DeviceModel) : Outcome DeviceModel := do
  let lnName := joinName ldName logicalNode.getName
  let firstChild ← first logicalNode.dataObjects
  let node := logicalNodeNode ldName next firstChild logicalNode
  let objects ← printDataObjectDefinitions ctx lnName [] false logicalNode.dataObjects
  let buffers ← printControlBlocks blocks deviceInst ldName lnName logicalNode out.buffers
  pure {
    definitions := out.definitions ++ (Definitions.ofNode node ++ objects)
    buffers := buffers }

def printLogicalNodeDefinitions (ctx : PrintContext) (blocks : ControlBlockContext)
    (deviceInst ldName : Str) : List LogicalNode → DeviceModel → Outcome DeviceModel
  | [], out => pure out
  | logicalNode :: rest, out => do
      let out ←
        printLogicalNodeDefinition ctx blocks deviceInst ldName rest.head? logicalNode out
      printLogicalNodeDefinitions ctx blocks deviceInst ldName rest out

def printLogicalDeviceDefinition (ctx : PrintContext) (blocks : ControlBlockContext)
    (modelPrefix : Str) (next : Option LogicalDevice) (logicalDevice : LogicalDevice)
    (out : DeviceModel) : Outcome DeviceModel := do
  let ldName := joinName modelPrefix logicalDevice.inst
  let firstChild ← first logicalDevice.logicalNodes
  let node := logicalDeviceNode modelPrefix next firstChild logicalDevice
  printLogicalNodeDefinitions ctx blocks logicalDevice.inst ldName
    logicalDevice.logicalNodes
    { out with definitions := out.definitions ++ Definitions.ofNode node }

def printLogicalDeviceDefinitions (ctx : PrintContext) (blocks : ControlBlockContext)
    (modelPrefix : Str) : List LogicalDevice → DeviceModel → Outcome DeviceModel
  | [], out => pure out
  | logicalDevice :: rest, out => do
      let out ←
        printLogicalDeviceDefinition ctx blocks modelPrefix rest.head? logicalDevice out
      printLogicalDeviceDefinitions ctx blocks modelPrefix rest out

/-! ## Files -/

def externDeclarations (type : DeclaredType) (names : List Str) : List CItem :=
  names.map fun name => .externDeclaration ⟨type, name⟩

def svItems (d : SVControlBlockDefinition) : List CItem :=
  (d.dstAddress.map CItem.phyComAddress).toList ++ [.svControlBlock d]

def gseItems (d : GSEControlBlockDefinition) : List CItem :=
  (d.address.map CItem.phyComAddress).toList ++ [.gseControlBlock d]

/-- The buffers of the control blocks, each after the declarations of its
variable names. -/
def printBuffers (names : VariableNames) (buffers : ControlBlockBuffers) : List CItem :=
  externDeclarations .reportControlBlock names.rcb ++
    buffers.reportControlBlocks.map .reportControlBlock ++
  externDeclarations .svControlBlock names.smv ++
    buffers.smvControlBlocks.flatMap svItems ++
  externDeclarations .gseControlBlock names.gse ++
    buffers.gseControlBlocks.flatMap gseItems ++
  externDeclarations .settingGroupControlBlock names.sgcb ++
    buffers.settingGroupControlBlocks.map .settingGroupControlBlock ++
  externDeclarations .logControlBlock names.lcb ++
    buffers.logControlBlocks.map .logControlBlock ++
  externDeclarations .log names.log ++ buffers.logs.map .log

/-- The definition of the model. -/
def printIedModel (s : StaticModelGenerator) (firstDevice : LogicalDevice)
    (dataSets : List Str) (names : VariableNames) : IedModelDefinition where
  modelName := s.modelPrefix
  iedName := s.ied.name
  firstChild := joinName s.modelPrefix firstDevice.inst
  dataSets := dataSets.head?
  rcbs := names.rcb.head?
  gseCBs := names.gse.head?
  svCBs := names.smv.head?
  sgcbs := names.sgcb.head?
  lcbs := names.lcb.head?
  logs := names.log.head?

/-- `strings.LastIndex(s, "/")` decides which part is kept. -/
def afterLastSlash (s : Str) : Str := (split '/' s).getLastD []

def hDefineName (rt : Runtime) (outFileName : Str) : Str :=
  afterLastSlash
    (replaceAll (replaceAll (rt.toUpper outFileName) '.' '_') '-' '_' ++ lit "_H_")

/-- `printVariablePointerDefines`, for one variable. -/
def printVariablePointerDefine (rt : Runtime) (modelPrefix variableName : Str) :
    Outcome PointerDefine :=
  if variableName.length < modelPrefix.length then .error (.panic .indexOutOfRange)
  else pure {
    macroName := rt.toUpper modelPrefix ++ variableName.drop modelPrefix.length
    variableName := variableName }

/-- `printDeviceModelDefinitions`, with the variables and the initializers it
has collected. -/
def printDeviceModelDefinitions (s : StaticModelGenerator)
    (logicalDevices : List LogicalDevice) : Outcome (List CItem × Definitions) := do
  let dataSets ← printDataSets s.rt s.modelPrefix logicalDevices
  let names := createLNSubVariableList s.modelPrefix logicalDevices
  let devices ← printLogicalDeviceDefinitions s.printContext (s.controlBlockContext names)
    s.modelPrefix logicalDevices {}
  let firstDevice ← first logicalDevices
  let iedModel :=
    printIedModel s firstDevice (dataSetNames s.modelPrefix logicalDevices) names
  pure (dataSets ++ devices.definitions.cOut.map .node ++
    printBuffers names devices.buffers ++ [.iedModel iedModel], devices.definitions)

/-- The print functions called by `Generate`. -/
def StaticModelGenerator.print (s : StaticModelGenerator) (outFileName : Str) :
    Outcome GeneratedFiles := do
  let server ← deref s.accessPoint.server
  let externs ←
    printForwardDeclarations s.printContext s.modelPrefix server.logicalDevices
  let (items, definitions) ← printDeviceModelDefinitions s server.logicalDevices
  let defines ←
    definitions.variablesList.mapM (printVariablePointerDefine s.rt s.modelPrefix)
  pure {
    c := .initializerPrototype :: items ++ [.initializer definitions.initializerBuffer]
    h := {
      hDefineName := hDefineName s.rt outFileName
      externs := externs
      defines := defines } }

/-- The first element, or the one of this name; `nil` if there is none. -/
def selectAccessPoint (ied : IED) (apName : Str) : Outcome (Option AccessPoint) :=
  if apName = [] then do
    let ap ← first ied.accessPoints
    pure (some ap)
  else pure (ied.getAccessPointByName apName)

def selectIed (scl : SCL) (iedName : Str) : Outcome (Option IED) :=
  if iedName = [] then do
    let ied ← first scl.ieds
    pure (some ied)
  else pure (scl.getIedByName iedName)

/-- `Generate`; writing the two files comes after everything that is printed. -/
def generate (rt : Runtime) (scl : SCL) (args : GeneratorArguments) :
    Outcome GeneratedFiles := do
  match ← selectIed scl args.iedName with
  | none => .error (.error (lit "IED model not found in SCL file"))
  | some ied => do
      let selected ← selectAccessPoint ied args.apName
      let accessPoint ← deref selected
      let connectedAP := scl.communication.bind fun communication =>
        communication.getConnectedAP accessPoint.name
      let s : StaticModelGenerator := {
        rt := rt
        scl := scl
        modelPrefix := args.modelPrefix
        initializeOnce := args.initializeOnce
        ied := ied
        accessPoint := accessPoint
        connectedAP := connectedAP }
      s.print args.outFileName

end Iec61850.Scl
