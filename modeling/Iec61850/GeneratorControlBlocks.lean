import Iec61850.GeneratorOutput
import Iec61850.ModelValues

/-!
# The control blocks of a logical node

The print functions for the report, log, GOOSE, SV and setting group control
blocks and the logs.  Each kind has a list of all its variable names, made
before anything is printed, and a buffer; the counter of a kind is the number
of blocks in its buffer, and a new block points to the name after its own
position.
-/

namespace Iec61850.Scl

open Go

/-- `fmt.Sprintf("%s_<kind>%d", lnPrefix, number)` -/
def numberedName (lnPrefix : Str) (kind : String) (number : ℕ) : Str :=
  lnPrefix ++ '_' :: (lit kind ++ itoa number)

/-! ## Variable names -/

/-- The lists filled by `createLNSubVariableList`. -/
structure VariableNames where
  rcb : List Str := []
  lcb : List Str := []
  log : List Str := []
  gse : List Str := []
  smv : List Str := []
  sgcb : List Str := []
  deriving DecidableEq, Repr

instance : Append VariableNames where
  append a b :=
    ⟨a.rcb ++ b.rcb, a.lcb ++ b.lcb, a.log ++ b.log, a.gse ++ b.gse, a.smv ++ b.smv,
      a.sgcb ++ b.sgcb⟩

def ReportControl.maxInstances (rcb : ReportControl) : ℕ :=
  match rcb.rptEnabled with
  | some rptEnabled => rptEnabled.max.toNat
  | none => 1

def numberedNames (lnPrefix : Str) (kind : String) (count : ℕ) : List Str :=
  (List.range count).map (numberedName lnPrefix kind)

def createLNVariableNames (lnPrefix : Str) (ln : LogicalNode) : VariableNames where
  rcb := numberedNames lnPrefix "report"
    (ln.reportControlBlocks.map ReportControl.maxInstances).sum
  lcb := numberedNames lnPrefix "lcb" ln.logControlBlocks.length
  log := numberedNames lnPrefix "log" ln.logs.length
  gse := numberedNames lnPrefix "gse" ln.gseControlBlocks.length
  smv := numberedNames lnPrefix "smv" ln.smvControlBlocks.length
  sgcb := ln.settingGroupControlBlocks.map fun _ => lnPrefix ++ lit "_sgcb"

/-! ## Buffers -/

structure ControlBlockBuffers where
  reportControlBlocks : List ReportControlBlockDefinition := []
  logControlBlocks : List LogControlBlockDefinition := []
  logs : List LogDefinition := []
  gseControlBlocks : List GSEControlBlockDefinition := []
  smvControlBlocks : List SVControlBlockDefinition := []
  settingGroupControlBlocks : List SettingGroupControlBlockDefinition := []
  deriving DecidableEq, Repr

/-- What the print functions of the control blocks read from the generator. -/
structure ControlBlockContext where
  rt : Runtime
  communication : Option Communication
  connectedAP : Option ConnectedAP
  hasOwner : Bool
  names : VariableNames

/-- An attribute that is printed as `NULL` when it is empty. -/
def quoted (s : Str) : Option Str :=
  if s = [] then none else some s

/-! ## Reports -/

/-- `IP.To4` -/
def ipTo4 (ip : List UInt8) : Option (List UInt8) :=
  if ip.length = 4 then some ip
  else if ip.length = 16 ∧ ip.take 12 = List.replicate 10 0 ++ [0xff, 0xff] then
    some (ip.drop 12)
  else none

/-- `IP.To16`; `nil` is empty. -/
def ipTo16 (ip : List UInt8) : List UInt8 :=
  if ip.length = 4 then List.replicate 10 0 ++ [0xff, 0xff] ++ ip
  else if ip.length = 16 then ip
  else []

/-- Seventeen bytes: the kind of the address and the address itself. -/
def clientAddress (kind : UInt8) (address : List UInt8) : List UInt8 :=
  kind :: (address ++ List.replicate (16 - address.length) 0).take 16

def noClientAddress : List UInt8 := clientAddress 0 []

/-- The reservation for the `i`-th instance of a report control block. -/
def reservedClient (ctx : ControlBlockContext) (clientLNs : List ClientLN) (i : ℕ) :
    Outcome (List UInt8) :=
  match clientLNs[i]? with
  | none => pure noClientAddress
  | some clientLN =>
      if clientLN.iedName = [] then pure noClientAddress
      else do
        let communication ← deref ctx.communication
        let ipAddress := communication.getIpAddressByIedName clientLN.iedName clientLN.apRef
        match ctx.rt.resolveIPAddr ipAddress with
        | none => pure noClientAddress
        | some ip =>
            match ipTo4 ip with
            | some ip4 => pure (clientAddress 4 ip4)
            | none => pure (clientAddress 6 (ipTo16 ip))

/-- An instance of a report control block, before it is numbered. -/
structure ReportInstance where
  rcb : ReportControl
  index : Str
  client : List UInt8

def reportInstances (ctx : ControlBlockContext) (rcb : ReportControl) :
    Outcome (List ReportInstance) :=
  if rcb.indexed then
    let clientLNs :=
      match rcb.rptEnabled with
      | some rptEnabled => rptEnabled.clientLNs
      | none => []
    (List.range rcb.maxInstances).mapM fun i => do
      let client ← reservedClient ctx clientLNs i
      pure { rcb := rcb, index := twoDigits (i + 1), client := client }
  else pure [{ rcb := rcb, index := [], client := noClientAddress }]

def reportTriggerOptions (hasOwner : Bool) (rcb : ReportControl) : ℤ :=
  (match rcb.triggerOptions with
    | some options => options.getIntValue
    | none => 16) + bit hasOwner 64

def reportOptionFields (rcb : ReportControl) : ℤ :=
  match rcb.optionFields with
  | some fields =>
      bit fields.seqNum 1 + bit fields.timeStamp 2 + bit fields.reasonCode 4 +
        bit fields.dataSet 8 + bit fields.dataRef 16 + bit fields.bufOvfl 32 +
        bit fields.entryID 64 + bit fields.configRef 128
  | none => 32

def printReportControlBlockInstance (ctx : ControlBlockContext) (lnPrefix : Str)
    (reportNumber : ℕ) (inst : ReportInstance) (out : ControlBlockBuffers) :
    ControlBlockBuffers :=
  let block : ReportControlBlockDefinition := {
    blockName := numberedName lnPrefix "report" reportNumber
    parent := lnPrefix
    name := inst.rcb.name ++ inst.index
    rptId := quoted inst.rcb.rptID
    buffered := inst.rcb.buffered
    dataSet := quoted inst.rcb.datSet
    confRef := if inst.rcb.confRev = [] then lit "0" else inst.rcb.confRev
    trgOps := reportTriggerOptions ctx.hasOwner inst.rcb
    options := reportOptionFields inst.rcb
    bufferTime := inst.rcb.bufTime
    intPeriod := if inst.rcb.intgPd = [] then lit "0" else inst.rcb.intgPd
    clientReservation := inst.client
    sibling := ctx.names.rcb[out.reportControlBlocks.length + 1]? }
  { out with reportControlBlocks := out.reportControlBlocks ++ [block] }

def printReportControlBlocks (ctx : ControlBlockContext) (lnPrefix : Str)
    (ln : LogicalNode) (out : ControlBlockBuffers) : Outcome ControlBlockBuffers := do
  let instances ← ln.reportControlBlocks.mapM (reportInstances ctx)
  pure (instances.flatten.zipIdx.foldl
    (fun out (inst, reportNumber) =>
      printReportControlBlockInstance ctx lnPrefix reportNumber inst out) out)

/-! ## Logs -/

def logReference (deviceInst : Str) (lcb : LogControl) : Str :=
  (if lcb.ldInst = [] then deviceInst else lcb.ldInst) ++ lit "/" ++ lcb.lnClass ++
    lit "$" ++ lcb.logName

def logTriggerOptions (lcb : LogControl) : ℤ :=
  let triggerOps :=
    match lcb.triggerOptions with
    | some options => options.getIntValue
    | none => 0
  if 16 ≤ triggerOps then triggerOps - 16 else triggerOps

def printLogControlBlock (ctx : ControlBlockContext) (deviceInst lnPrefix : Str)
    (out : ControlBlockBuffers) (numbered : LogControl × ℕ) : ControlBlockBuffers :=
  let (lcb, lcbNumber) := numbered
  let block : LogControlBlockDefinition := {
    blockName := numberedName lnPrefix "lcb" lcbNumber
    parent := lnPrefix
    name := lcb.name
    dataSet := quoted lcb.datSet
    logRef := if lcb.logName = [] then none else some (logReference deviceInst lcb)
    trgOps := logTriggerOptions lcb
    intPeriod := lcb.intgPd
    logEna := lcb.logEna
    reasonCode := lcb.reasonCode
    sibling := ctx.names.lcb[out.logControlBlocks.length + 1]? }
  { out with logControlBlocks := out.logControlBlocks ++ [block] }

def printLogControlBlocks (ctx : ControlBlockContext) (deviceInst lnPrefix : Str)
    (ln : LogicalNode) (out : ControlBlockBuffers) : ControlBlockBuffers :=
  ln.logControlBlocks.zipIdx.foldl (printLogControlBlock ctx deviceInst lnPrefix) out

def printLog (ctx : ControlBlockContext) (lnPrefix : Str) (out : ControlBlockBuffers)
    (numbered : Log × ℕ) : ControlBlockBuffers :=
  let (log, logNumber) := numbered
  let block : LogDefinition := {
    logName := numberedName lnPrefix "log" logNumber
    parent := lnPrefix
    name := log.name
    sibling := ctx.names.log[out.logs.length + 1]? }
  { out with logs := out.logs ++ [block] }

def printLogs (ctx : ControlBlockContext) (lnPrefix : Str) (ln : LogicalNode)
    (out : ControlBlockBuffers) : ControlBlockBuffers :=
  ln.logs.zipIdx.foldl (printLog ctx lnPrefix) out

/-! ## GOOSE and sampled values -/

def addressDefinition (blockName : Str) (address : PhyComAddress) :
    PhyComAddressDefinition where
  addressName := blockName ++ lit "_address"
  vlanPriority := address.vlanPriority
  vlanId := address.vlanId
  appId := address.appId
  macAddress := address.macAddress

/-- The second component of the device variable. -/
def deviceComponent (ldName : Str) : Outcome Str :=
  match (split '_' ldName)[1]? with
  | some component => .ok component
  | none => .error (.panic .indexOutOfRange)

/-- A GOOSE control block without a `GSE` element is left out, and the next
one takes its number. -/
def printGSEControlBlock (ctx : ControlBlockContext) (logicalDeviceName lnPrefix : Str)
    (state : ℕ × ControlBlockBuffers) (gseControlBlock : GSEControl) :
    Outcome (ℕ × ControlBlockBuffers) := do
  let (gseControlNumber, out) := state
  let connectedAP ← deref ctx.connectedAP
  match connectedAP.lookupGSE logicalDeviceName gseControlBlock.name with
  | none => pure (gseControlNumber, out)
  | some gse =>
      let gseVariableName := numberedName lnPrefix "gse" gseControlNumber
      let block : GSEControlBlockDefinition := {
        blockName := gseVariableName
        parent := lnPrefix
        name := gseControlBlock.name
        appId := quoted gseControlBlock.appID
        dataSet := quoted gseControlBlock.datSet
        confRev := gseControlBlock.confRev
        fixedOffs := gseControlBlock.fixedOffs
        address := gse.address.map (addressDefinition gseVariableName)
        minTime := gse.minTime
        maxTime := gse.maxTime
        sibling := ctx.names.gse[out.gseControlBlocks.length + 1]? }
      pure (gseControlNumber + 1,
        { out with gseControlBlocks := out.gseControlBlocks ++ [block] })

def printGSEControlBlocks (ctx : ControlBlockContext) (ldName lnPrefix : Str)
    (ln : LogicalNode) (out : ControlBlockBuffers) : Outcome ControlBlockBuffers := do
  let logicalDeviceName ← deviceComponent ldName
  let (_, out) ←
    ln.gseControlBlocks.foldlM (printGSEControlBlock ctx logicalDeviceName lnPrefix) (0, out)
  pure out

def printSVControlBlock (ctx : ControlBlockContext) (logicalDeviceName lnPrefix : Str)
    (out : ControlBlockBuffers) (numbered : SampledValueControl × ℕ) :
    Outcome ControlBlockBuffers := do
  let (svCB, smvControlNumber) := numbered
  let connectedAP ← deref ctx.connectedAP
  let svAddress := (connectedAP.lookupSMV logicalDeviceName svCB.name).bind (·.address)
  let smvVariableName := numberedName lnPrefix "smv" smvControlNumber
  let smvOpts ← deref svCB.smvOpts
  let block : SVControlBlockDefinition := {
    blockName := smvVariableName
    parent := lnPrefix
    name := svCB.name
    svId := quoted svCB.smvID
    dataSet := quoted svCB.datSet
    optFlds := smvOpts.getIntValue
    smpMod := svCB.smpMod
    smpRate := svCB.smpRate
    confRev := svCB.confRev
    dstAddress := svAddress.map (addressDefinition smvVariableName)
    unicast := !svCB.multicast
    noASDU := svCB.nofASDU
    sibling := ctx.names.smv[out.smvControlBlocks.length + 1]? }
  pure { out with smvControlBlocks := out.smvControlBlocks ++ [block] }

def printSVControlBlocks (ctx : ControlBlockContext) (ldName lnPrefix : Str)
    (ln : LogicalNode) (out : ControlBlockBuffers) : Outcome ControlBlockBuffers := do
  let logicalDeviceName ← deviceComponent ldName
  ln.smvControlBlocks.zipIdx.foldlM (printSVControlBlock ctx logicalDeviceName lnPrefix) out

/-! ## Setting groups -/

/-- Only the first `SettingControl` element is printed. -/
def printSettingControlBlock (ctx : ControlBlockContext) (lnPrefix : Str)
    (ln : LogicalNode) (out : ControlBlockBuffers) : ControlBlockBuffers :=
  match ln.settingGroupControlBlocks with
  | [] => out
  | sgcb :: _ =>
      let block : SettingGroupControlBlockDefinition := {
        blockName := lnPrefix ++ lit "_sgcb"
        parent := lnPrefix
        actSG := sgcb.actSG
        numOfSGs := sgcb.numOfSGs
        sibling := ctx.names.sgcb[out.settingGroupControlBlocks.length + 1]? }
      { out with
        settingGroupControlBlocks := out.settingGroupControlBlocks ++ [block] }

/-- The control blocks of one logical node, kind by kind. -/
def printControlBlocks (ctx : ControlBlockContext) (deviceInst ldName lnPrefix : Str)
    (ln : LogicalNode) (out : ControlBlockBuffers) : Outcome ControlBlockBuffers := do
  let out ← printReportControlBlocks ctx lnPrefix ln out
  let out := printLogs ctx lnPrefix ln (printLogControlBlocks ctx deviceInst lnPrefix ln out)
  let out ← printGSEControlBlocks ctx ldName lnPrefix ln out
  let out ← printSVControlBlocks ctx ldName lnPrefix ln out
  pure (printSettingControlBlock ctx lnPrefix ln out)

end Iec61850.Scl
