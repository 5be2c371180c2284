import Iec61850.ClientErrors
import Iec61850.CText
import Mathlib.Logic.Function.Basic

/-!
# Report control blocks

`GetRCBValues` reads a report control block, the setters write the attributes
that their element mask selects.
-/

namespace Iec61850.Mms

open Go

/-! ## Trigger options and optional fields -/

structure TrgOps where
  dataChange : Bool := false
  qualityChange : Bool := false
  dataUpdate : Bool := false
  triggeredPeriodically : Bool := false
  gi : Bool := false
  transient : Bool := false
  deriving DecidableEq

structure OptFlds where
  sequenceNumber : Bool := false
  timeOfEntry : Bool := false
  reasonForInclusion : Bool := false
  dataSetName : Bool := false
  dataReference : Bool := false
  bufferOverflow : Bool := false
  entryID : Bool := false
  configRevision : Bool := false
  deriving DecidableEq

def TRG_OPT_DATA_CHANGED : BitVec 32 := 1
def TRG_OPT_QUALITY_CHANGED : BitVec 32 := 2
def TRG_OPT_DATA_UPDATE : BitVec 32 := 4
def TRG_OPT_INTEGRITY : BitVec 32 := 8
def TRG_OPT_GI : BitVec 32 := 16
def TRG_OPT_TRANSIENT : BitVec 32 := 128

def RPT_OPT_SEQ_NUM : BitVec 32 := 1
def RPT_OPT_TIME_STAMP : BitVec 32 := 2
def RPT_OPT_REASON_FOR_INCLUSION : BitVec 32 := 4
def RPT_OPT_DATA_SET : BitVec 32 := 8
def RPT_OPT_DATA_REFERENCE : BitVec 32 := 16
def RPT_OPT_BUFFER_OVERFLOW : BitVec 32 := 32
def RPT_OPT_ENTRY_ID : BitVec 32 := 64
def RPT_OPT_CONF_REV : BitVec 32 := 128

/-- `if flag { bits = bits | mask }` -/
def setFlag (bits : BitVec 32) (flag : Bool) (mask : BitVec 32) : BitVec 32 :=
  if flag then bits ||| mask else bits

/-- The part that `SetRCBValues` and `SetTrgOps` share. -/
def trgOpsBits (ops : TrgOps) : BitVec 32 :=
  let trgOps := setFlag 0 ops.dataChange TRG_OPT_DATA_CHANGED
  let trgOps := setFlag trgOps ops.qualityChange TRG_OPT_QUALITY_CHANGED
  let trgOps := setFlag trgOps ops.dataUpdate TRG_OPT_DATA_UPDATE
  let trgOps := setFlag trgOps ops.triggeredPeriodically TRG_OPT_INTEGRITY
  let trgOps := setFlag trgOps ops.gi TRG_OPT_GI
  setFlag trgOps ops.transient TRG_OPT_TRANSIENT

def optFldsBits (fields : OptFlds) : BitVec 32 :=
  let optFlds := setFlag 0 fields.sequenceNumber RPT_OPT_SEQ_NUM
  let optFlds := setFlag optFlds fields.timeOfEntry RPT_OPT_TIME_STAMP
  let optFlds := setFlag optFlds fields.reasonForInclusion RPT_OPT_REASON_FOR_INCLUSION
  let optFlds := setFlag optFlds fields.dataSetName RPT_OPT_DATA_SET
  let optFlds := setFlag optFlds fields.dataReference RPT_OPT_DATA_REFERENCE
  let optFlds := setFlag optFlds fields.bufferOverflow RPT_OPT_BUFFER_OVERFLOW
  let optFlds := setFlag optFlds fields.entryID RPT_OPT_ENTRY_ID
  setFlag optFlds fields.configRevision RPT_OPT_CONF_REV

def isBitSet (val : BitVec 64) (pos : ℕ) : Bool := val &&& (1#64 <<< pos) != 0

/-- `int(optFlds)` of a C int is its sign extension. -/
def getOptFlds (optFlds : BitVec 32) : OptFlds :=
  let g := optFlds.signExtend 64
  { sequenceNumber := isBitSet g 0
    timeOfEntry := isBitSet g 1
    reasonForInclusion := isBitSet g 2
    dataSetName := isBitSet g 3
    dataReference := isBitSet g 4
    bufferOverflow := isBitSet g 5
    entryID := isBitSet g 6
    configRevision := isBitSet g 7 }

def getTrgOps (trgOps : BitVec 32) : TrgOps :=
  let g := trgOps.signExtend 64
  { dataChange := isBitSet g 0
    qualityChange := isBitSet g 1
    dataUpdate := isBitSet g 2
    triggeredPeriodically := isBitSet g 3
    gi := isBitSet g 4
    transient := isBitSet g 5 }

@[simp] theorem isBitSet_setFlag (bits mask : BitVec 32) (flag : Bool) (pos : ℕ) :
    isBitSet ((setFlag bits flag mask).signExtend 64) pos =
      (isBitSet (bits.signExtend 64) pos || (flag && isBitSet (mask.signExtend 64) pos)) := by
  cases flag with
  | false => simp [setFlag]
  | true =>
      have hdistrib : (bits ||| mask).signExtend 64 &&& (1#64 <<< pos) =
          (bits.signExtend 64 &&& (1#64 <<< pos)) ||| (mask.signExtend 64 &&& (1#64 <<< pos)) := by
        rw [BitVec.signExtend_or, BitVec.and_or_distrib_right]
      simp only [setFlag, isBitSet, if_true, Bool.true_and, hdistrib]
      rw [Bool.eq_iff_iff]
      simp [BitVec.or_eq_zero_iff]
      tauto

/-- Bit 7 is set for the transient flag and bit 5 is read. -/
theorem getTrgOps_trgOpsBits (ops : TrgOps) :
    getTrgOps (trgOpsBits ops) = { ops with transient := false } := by
  simp only [getTrgOps, trgOpsBits, isBitSet_setFlag]
  simp [isBitSet, TRG_OPT_DATA_CHANGED, TRG_OPT_QUALITY_CHANGED, TRG_OPT_DATA_UPDATE,
    TRG_OPT_INTEGRITY, TRG_OPT_GI, TRG_OPT_TRANSIENT]

theorem getOptFlds_optFldsBits (fields : OptFlds) : getOptFlds (optFldsBits fields) = fields := by
  simp only [getOptFlds, optFldsBits, isBitSet_setFlag]
  simp [isBitSet, RPT_OPT_SEQ_NUM, RPT_OPT_TIME_STAMP, RPT_OPT_REASON_FOR_INCLUSION,
    RPT_OPT_DATA_SET, RPT_OPT_DATA_REFERENCE, RPT_OPT_BUFFER_OVERFLOW, RPT_OPT_ENTRY_ID,
    RPT_OPT_CONF_REV]

/-! ## The server -/

/-- `ClientReportControlBlock` of the library, and what the server holds. -/
structure RcbAttributes where
  rptId : Str := []
  rptEna : Bool := false
  resv : Bool := false
  datSet : Str := []
  optFlds : BitVec 32 := 0
  trgOps : BitVec 32 := 0
  intgPd : BitVec 32 := 0
  bufTm : BitVec 32 := 0
  gi : Bool := false
  owner : Option (List UInt8) := none
  deriving DecidableEq

def RCB_ELEMENT_RPT_ENA : BitVec 32 := 2
def RCB_ELEMENT_RESV : BitVec 32 := 4
def RCB_ELEMENT_DATSET : BitVec 32 := 8
def RCB_ELEMENT_OPT_FLDS : BitVec 32 := 32
def RCB_ELEMENT_BUF_TM : BitVec 32 := 64
def RCB_ELEMENT_TRG_OPS : BitVec 32 := 256
def RCB_ELEMENT_INTG_PD : BitVec 32 := 512
def RCB_ELEMENT_GI : BitVec 32 := 1024

/-- The attributes that the mask selects, taken over from `written`. -/
def RcbAttributes.store (held : RcbAttributes) (mask : BitVec 32) (written : RcbAttributes) :
    RcbAttributes :=
  let selects (element : BitVec 32) : Bool := mask &&& element != 0
  { held with
    rptEna := if selects RCB_ELEMENT_RPT_ENA then written.rptEna else held.rptEna
    resv := if selects RCB_ELEMENT_RESV then written.resv else held.resv
    datSet := if selects RCB_ELEMENT_DATSET then written.datSet else held.datSet
    optFlds := if selects RCB_ELEMENT_OPT_FLDS then written.optFlds else held.optFlds
    bufTm := if selects RCB_ELEMENT_BUF_TM then written.bufTm else held.bufTm
    trgOps := if selects RCB_ELEMENT_TRG_OPS then written.trgOps else held.trgOps
    intgPd := if selects RCB_ELEMENT_INTG_PD then written.intgPd else held.intgPd
    gi := if selects RCB_ELEMENT_GI then written.gi else held.gi }

def IED_ERROR_OK : ℤ := 0

/-- The report control blocks by the reference that arrives in C. -/
abbrev RcbServer := Str → RcbAttributes

/-- `IedConnection_setRCBValues`, which reports `reply`: a write that fails changes
nothing. -/
def RcbServer.setRCBValues (server : RcbServer) (reply : ℤ) (objectReference : Str)
    (rcb : RcbAttributes) (mask : BitVec 32) : RcbServer :=
  if reply = IED_ERROR_OK then
    Function.update server objectReference ((server objectReference).store mask rcb)
  else server

/-! ## The client -/

/-- `ClientReportControlBlock` of the Go package. -/
structure ClientReportControlBlock where
  ena : Bool := false
  intgPd : ℤ := 0
  resv : Bool := false
  trgOps : TrgOps := {}
  optFlds : OptFlds := {}
  rptId : Str := []
  datSet : Str := []
  owner : Str := []
  deriving DecidableEq

/-- What the text of an error names besides the reference. -/
inductive RcbRequest
  | getRCBValues
  | setRCBValues
  | setRptEna (enable : Bool)
  | setTrgOps
  | setBufTm (bufTm : BitVec 32)
  | setIntgPd (intgPd : BitVec 32)
  | setGI (gi : Bool)
  | setDataSetReference (dataSetRef : Str)
  deriving DecidableEq

/-- Without a cause: an unexpected nil control block. -/
structure RcbError where
  request : RcbRequest
  objectReference : Str
  cause : Option IedError
  deriving DecidableEq

/-- The answer to a read: the code, and whether there is a control block. -/
structure ReadReply where
  clientError : ℤ
  delivered : Bool
  deriving DecidableEq

/-- `hex.EncodeToString` -/
def hexEncodeToString (bytes : List UInt8) : Str :=
  bytes.flatMap fun b => [Nat.digitChar (b.toNat / 16), Nat.digitChar (b.toNat % 16)]

def getRCBValues (reply : ReadReply) (objectReference : Str) (server : RcbServer) :
    Except RcbError ClientReportControlBlock :=
  if reply.delivered then
    let rcb := server (cString objectReference)
    .ok {
      ena := rcb.rptEna
      intgPd := rcb.intgPd.toNat
      resv := rcb.resv
      trgOps := getTrgOps rcb.trgOps
      optFlds := getOptFlds rcb.optFlds
      rptId := cString rcb.rptId
      datSet := cString rcb.datSet
      owner := hexEncodeToString (rcb.owner.getD []) }
  else
    .error {
      request := .getRCBValues
      objectReference
      cause := getIedClientError reply.clientError }

/-- What the setters share: one write, and the error made of its reply. -/
def writeRCB (reply : ℤ) (request : RcbRequest) (objectReference : Str) (rcb : RcbAttributes)
    (mask : BitVec 32) (server : RcbServer) : Option RcbError × RcbServer :=
  ((getIedClientError reply).map fun err => ⟨request, objectReference, some err⟩,
    server.setRCBValues reply (cString objectReference) rcb mask)

/-- The mask leaves the optional fields out. -/
def setRCBValues (isBuffered : Str → Bool) (reply : ℤ) (objectReference : Str)
    (settings : ClientReportControlBlock) (server : RcbServer) : Option RcbError × RcbServer :=
  let rcb : RcbAttributes := {
    trgOps := trgOpsBits settings.trgOps
    rptEna := settings.ena
    resv := settings.resv
    intgPd := cUint32 settings.intgPd
    optFlds := optFldsBits settings.optFlds }
  writeRCB reply .setRCBValues objectReference rcb
    (if isBuffered (cString objectReference) then
      RCB_ELEMENT_RPT_ENA ||| RCB_ELEMENT_TRG_OPS ||| RCB_ELEMENT_INTG_PD
    else
      RCB_ELEMENT_RESV ||| RCB_ELEMENT_RPT_ENA ||| RCB_ELEMENT_TRG_OPS ||| RCB_ELEMENT_INTG_PD)
    server

def setRptEna (reply : ℤ) (objectReference : Str) (enable : Bool) (server : RcbServer) :
    Option RcbError × RcbServer :=
  writeRCB reply (.setRptEna enable) objectReference { rptEna := enable } RCB_ELEMENT_RPT_ENA
    server

def setTrgOps (reply : ℤ) (objectReference : Str) (ops : TrgOps) (server : RcbServer) :
    Option RcbError × RcbServer :=
  writeRCB reply .setTrgOps objectReference { trgOps := trgOpsBits ops } RCB_ELEMENT_TRG_OPS
    server

def setBufTm (reply : ℤ) (objectReference : Str) (bufTm : BitVec 32) (server : RcbServer) :
    Option RcbError × RcbServer :=
  writeRCB reply (.setBufTm bufTm) objectReference { bufTm } RCB_ELEMENT_BUF_TM server

def setIntgPd (reply : ℤ) (objectReference : Str) (intgPd : BitVec 32) (server : RcbServer) :
    Option RcbError × RcbServer :=
  writeRCB reply (.setIntgPd intgPd) objectReference { intgPd } RCB_ELEMENT_INTG_PD server

def setGI (reply : ℤ) (objectReference : Str) (gi : Bool) (server : RcbServer) :
    Option RcbError × RcbServer :=
  writeRCB reply (.setGI gi) objectReference { gi } RCB_ELEMENT_GI server

def setDataSetReference (reply : ℤ) (objectReference : Str) (dataSetRef : Str)
    (server : RcbServer) : Option RcbError × RcbServer :=
  writeRCB reply (.setDataSetReference dataSetRef) objectReference
    { datSet := cString dataSetRef } RCB_ELEMENT_DATSET server

section Write

variable (reply : ℤ) (request : RcbRequest) (objectReference : Str) (rcb : RcbAttributes)
  (mask : BitVec 32) (server : RcbServer)

theorem writeRCB_fst_eq_none_iff :
    (writeRCB reply request objectReference rcb mask server).1 = none ↔
      reply = IED_ERROR_OK := by
  unfold writeRCB
  rw [Option.map_eq_none_iff, getIedClientError_eq_none_iff]
  rfl

theorem writeRCB_snd_self :
    (writeRCB reply request objectReference rcb mask server).2 (cString objectReference) =
      if reply = IED_ERROR_OK then (server (cString objectReference)).store mask rcb
      else server (cString objectReference) := by
  unfold writeRCB RcbServer.setRCBValues
  split
  next => exact Function.update_self ..
  next => rfl

theorem writeRCB_snd_of_failed (hfailed : reply ≠ IED_ERROR_OK) :
    (writeRCB reply request objectReference rcb mask server).2 = server := if_neg hfailed

/-- A write leaves the other control blocks alone. -/
theorem writeRCB_snd_of_ne {other : Str} (hother : other ≠ cString objectReference) :
    (writeRCB reply request objectReference rcb mask server).2 other = server other := by
  unfold writeRCB RcbServer.setRCBValues
  split
  next => exact Function.update_of_ne hother ..
  next => rfl

/-- A write whose mask leaves the enable flag out. -/
theorem writeRCB_snd_rptEna_of_mask (hmask : mask &&& RCB_ELEMENT_RPT_ENA = 0) :
    ((writeRCB reply request objectReference rcb mask server).2
      (cString objectReference)).rptEna = (server (cString objectReference)).rptEna := by
  rw [writeRCB_snd_self]
  split
  next => simp [RcbAttributes.store, hmask]
  next => rfl

theorem setRptEna_fst_isNone (enable : Bool) :
    (setRptEna reply objectReference enable server).1.isNone = (reply == IED_ERROR_OK) := by
  rw [Bool.eq_iff_iff, Option.isNone_iff_eq_none, beq_iff_eq]
  exact writeRCB_fst_eq_none_iff ..

theorem setRptEna_snd_rptEna (enable : Bool) :
    ((setRptEna reply objectReference enable server).2 (cString objectReference)).rptEna =
      if reply = IED_ERROR_OK then enable else (server (cString objectReference)).rptEna := by
  unfold setRptEna
  rw [writeRCB_snd_self]
  split
  next => rfl
  next => rfl

end Write

end Iec61850.Mms
