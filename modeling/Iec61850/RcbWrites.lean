import Iec61850.LastWrite
import Iec61850.ReportControlBlocks

/-!
# Writing and reading report control blocks

Which arguments of the setters a later read of the same control block returns.
-/

namespace Iec61850.Mms

open Go LastWrite

/-! ## Sequences of setter calls -/

inductive RcbSetter
  | rcbValues (settings : ClientReportControlBlock)
  | rptEna (enable : Bool)
  | trgOps (ops : TrgOps)
  | bufTm (bufTm : BitVec 32)
  | intgPd (intgPd : BitVec 32)
  | gi (gi : Bool)
  | dataSetReference (dataSetRef : Str)
  deriving DecidableEq

/-- A call, and what the library reports of its write. -/
structure SetterCall where
  setter : RcbSetter
  reply : ℤ
  deriving DecidableEq

def SetterCall.perform (isBuffered : Str → Bool) (objectReference : Str) (server : RcbServer)
    (call : SetterCall) : Option RcbError × RcbServer :=
  match call.setter with
  | .rcbValues settings => setRCBValues isBuffered call.reply objectReference settings server
  | .rptEna enable => setRptEna call.reply objectReference enable server
  | .trgOps ops => setTrgOps call.reply objectReference ops server
  | .bufTm bufTm => setBufTm call.reply objectReference bufTm server
  | .intgPd intgPd => setIntgPd call.reply objectReference intgPd server
  | .gi gi => setGI call.reply objectReference gi server
  | .dataSetReference dataSetRef =>
      setDataSetReference call.reply objectReference dataSetRef server

/-- The server after the calls. -/
def performAll (isBuffered : Str → Bool) (objectReference : Str) (server : RcbServer)
    (calls : List SetterCall) : RcbServer :=
  calls.foldl (fun server call => (call.perform isBuffered objectReference server).2) server

/-- What a successful call makes of the control block. -/
def RcbSetter.written (buffered : Bool) (held : RcbAttributes) : RcbSetter → RcbAttributes
  | .rcbValues settings => { held with
      rptEna := settings.ena
      resv := if buffered then held.resv else settings.resv
      trgOps := trgOpsBits settings.trgOps
      intgPd := cUint32 settings.intgPd }
  | .rptEna enable => { held with rptEna := enable }
  | .trgOps ops => { held with trgOps := trgOpsBits ops }
  | .bufTm time => { held with bufTm := time }
  | .intgPd period => { held with intgPd := period }
  | .gi flag => { held with gi := flag }
  | .dataSetReference dataSetRef => { held with datSet := cString dataSetRef }

section Perform

variable (isBuffered : Str → Bool) (objectReference : Str) (server : RcbServer)
  (call : SetterCall)

/-- The control block that a call is for. -/
theorem perform_snd_self :
    (call.perform isBuffered objectReference server).2 (cString objectReference) =
      if call.reply = IED_ERROR_OK then
        call.setter.written (isBuffered (cString objectReference))
          (server (cString objectReference))
      else server (cString objectReference) := by
  unfold SetterCall.perform
  cases call.setter with
  | rcbValues settings =>
      cases hbuffered : isBuffered (cString objectReference) with
      | _ =>
          simp [setRCBValues, writeRCB_snd_self, hbuffered, RcbAttributes.store,
            RcbSetter.written, RCB_ELEMENT_RPT_ENA, RCB_ELEMENT_RESV, RCB_ELEMENT_DATSET,
            RCB_ELEMENT_OPT_FLDS, RCB_ELEMENT_BUF_TM, RCB_ELEMENT_TRG_OPS,
            RCB_ELEMENT_INTG_PD, RCB_ELEMENT_GI]
  | _ =>
      simp [setRptEna, setTrgOps, setBufTm, setIntgPd, setGI, setDataSetReference,
        writeRCB_snd_self, RcbAttributes.store, RcbSetter.written, RCB_ELEMENT_RPT_ENA,
        RCB_ELEMENT_RESV, RCB_ELEMENT_DATSET, RCB_ELEMENT_OPT_FLDS, RCB_ELEMENT_BUF_TM,
        RCB_ELEMENT_TRG_OPS, RCB_ELEMENT_INTG_PD, RCB_ELEMENT_GI]

end Perform

/-! ## What reads back -/

def RcbSetter.enaArgument : RcbSetter → Option Bool
  | .rcbValues settings => some settings.ena
  | .rptEna enable => some enable
  | _ => none

def RcbSetter.intgPdArgument : RcbSetter → Option ℤ
  | .rcbValues settings => some settings.intgPd
  | .intgPd period => some period.toNat
  | _ => none

def RcbSetter.trgOpsArgument : RcbSetter → Option TrgOps
  | .rcbValues settings => some settings.trgOps
  | .trgOps ops => some ops
  | _ => none

def RcbSetter.optFldsArgument : RcbSetter → Option OptFlds
  | .rcbValues settings => some settings.optFlds
  | _ => none

def RcbSetter.datSetArgument : RcbSetter → Option Str
  | .dataSetReference dataSetRef => some dataSetRef
  | _ => none

def RcbSetter.resvArgument : RcbSetter → Option Bool
  | .rcbValues settings => some settings.resv
  | _ => none

/-- The argument that a successful call takes. -/
def SetterCall.takes {Value : Type} (argument : RcbSetter → Option Value) (call : SetterCall) :
    Option Value :=
  if call.reply = IED_ERROR_OK then argument call.setter else none

def lastSuccessful {Value : Type} (argument : RcbSetter → Option Value) :
    List SetterCall → Option Value :=
  lastArgument (SetterCall.takes argument)

/-- Each attribute is read as the last successful call that takes it has written
it. -/
structure ReadsBack (buffered : Bool) (calls : List SetterCall)
    (rcb : ClientReportControlBlock) : Prop where
  ena : ∀ v, lastSuccessful RcbSetter.enaArgument calls = some v → rcb.ena = v
  intgPd : ∀ v, lastSuccessful RcbSetter.intgPdArgument calls = some v → rcb.intgPd = v
  trgOps : ∀ v, lastSuccessful RcbSetter.trgOpsArgument calls = some v → rcb.trgOps = v
  optFlds : ∀ v, lastSuccessful RcbSetter.optFldsArgument calls = some v → rcb.optFlds = v
  datSet : ∀ v, lastSuccessful RcbSetter.datSetArgument calls = some v → rcb.datSet = v
  resv : buffered = false →
    ∀ v, lastSuccessful RcbSetter.resvArgument calls = some v → rcb.resv = v

/-- The last arguments that come back as they were. -/
structure Readable (initial : RcbAttributes) (calls : List SetterCall) : Prop where
  intgPd : ∀ v, lastSuccessful RcbSetter.intgPdArgument calls = some v → 0 ≤ v ∧ v < 2 ^ 32
  trgOps : ∀ v, lastSuccessful RcbSetter.trgOpsArgument calls = some v → v.transient = false
  optFlds : ∀ v, lastSuccessful RcbSetter.optFldsArgument calls = some v →
    v = getOptFlds initial.optFlds
  datSet : ∀ v, lastSuccessful RcbSetter.datSetArgument calls = some v → Char.ofNat 0 ∉ v

section Field

variable {Value Stored : Type} {argument : RcbSetter → Option Value}
  (isBuffered : Str → Bool) (objectReference : Str) (server : RcbServer)
  (calls : List SetterCall)

/-- A field that a setter overwrites with its argument or leaves alone. -/
theorem field_perform (field : RcbAttributes → Stored) (encode : Value → Stored)
    (hwritten : ∀ held (setter : RcbSetter),
      field (setter.written (isBuffered (cString objectReference)) held) =
        ((argument setter).map encode).getD (field held))
    (server : RcbServer) (call : SetterCall) :
    field ((call.perform isBuffered objectReference server).2 (cString objectReference)) =
      ((call.takes argument).map encode).getD (field (server (cString objectReference))) := by
  rw [perform_snd_self]
  unfold SetterCall.takes
  split
  next => exact hwritten ..
  next => rfl

/-- Such a field reads back if and only if the last argument survives its encoding. -/
theorem field_reads_back_iff (field : RcbAttributes → Stored) (encode : Value → Stored)
    (decode : Stored → Value)
    (hwritten : ∀ held (setter : RcbSetter),
      field (setter.written (isBuffered (cString objectReference)) held) =
        ((argument setter).map encode).getD (field held)) :
    (∀ v, lastSuccessful argument calls = some v →
        decode (field (performAll isBuffered objectReference server calls
          (cString objectReference))) = v) ↔
      ∀ v, lastSuccessful argument calls = some v → decode (encode v) = v :=
  reads_back_iff (fun server : RcbServer => field (server (cString objectReference))) encode
    (field_perform isBuffered objectReference field encode hwritten) decode server calls

/-- No setter writes the optional fields. -/
theorem optFlds_performAll :
    (performAll isBuffered objectReference server calls (cString objectReference)).optFlds =
      (server (cString objectReference)).optFlds := by
  refine get_foldl_of_kept (fun server : RcbServer => (server (cString objectReference)).optFlds)
    (fun server call => ?_) server calls
  rw [perform_snd_self]
  split
  next => cases call.setter with | _ => rfl
  next => rfl

theorem ena_reads_back (v : Bool) (hlast : lastSuccessful RcbSetter.enaArgument calls = some v) :
    (performAll isBuffered objectReference server calls (cString objectReference)).rptEna = v :=
  (field_reads_back_iff isBuffered objectReference server calls RcbAttributes.rptEna id id
    fun held setter => by cases setter with | _ => rfl).mpr (fun _ _ => rfl) v hlast

theorem resv_reads_back (hunbuffered : isBuffered (cString objectReference) = false) (v : Bool)
    (hlast : lastSuccessful RcbSetter.resvArgument calls = some v) :
    (performAll isBuffered objectReference server calls (cString objectReference)).resv = v := by
  refine (field_reads_back_iff isBuffered objectReference server calls RcbAttributes.resv id id
    fun held setter => ?_).mpr (fun _ _ => rfl) v hlast
  rw [hunbuffered]
  cases setter with
  | _ => rfl

/-- The conversion to 32 bits undoes itself on what fits. -/
theorem intgPd_reads_back_iff :
    (∀ v : ℤ, lastSuccessful RcbSetter.intgPdArgument calls = some v →
        ((performAll isBuffered objectReference server calls
          (cString objectReference)).intgPd.toNat : ℤ) = v) ↔
      ∀ v : ℤ, lastSuccessful RcbSetter.intgPdArgument calls = some v → 0 ≤ v ∧ v < 2 ^ 32 := by
  rw [field_reads_back_iff isBuffered objectReference server calls RcbAttributes.intgPd cUint32
    (fun stored => (stored.toNat : ℤ))]
  · exact forall_congr' fun v => imp_congr_right fun _ => toNat_cUint32_eq_iff v
  · intro held setter
    cases setter with
    | intgPd period => simp [RcbSetter.intgPdArgument, RcbSetter.written, cUint32]
    | _ => rfl

theorem trgOps_reads_back_iff :
    (∀ v, lastSuccessful RcbSetter.trgOpsArgument calls = some v →
        getTrgOps (performAll isBuffered objectReference server calls
          (cString objectReference)).trgOps = v) ↔
      ∀ v, lastSuccessful RcbSetter.trgOpsArgument calls = some v → v.transient = false := by
  rw [field_reads_back_iff isBuffered objectReference server calls RcbAttributes.trgOps trgOpsBits
    getTrgOps]
  · refine forall_congr' fun v => imp_congr_right fun _ => ?_
    rw [getTrgOps_trgOpsBits]
    constructor
    · intro h
      rw [← h]
    · intro h
      rw [← h]
  · intro held setter
    cases setter with
    | _ => rfl

theorem datSet_reads_back_iff :
    (∀ v, lastSuccessful RcbSetter.datSetArgument calls = some v →
        cString (performAll isBuffered objectReference server calls
          (cString objectReference)).datSet = v) ↔
      ∀ v, lastSuccessful RcbSetter.datSetArgument calls = some v → Char.ofNat 0 ∉ v := by
  rw [field_reads_back_iff isBuffered objectReference server calls RcbAttributes.datSet cString
    cString]
  · refine forall_congr' fun v => imp_congr_right fun _ => ?_
    rw [cString_cString, cString_eq_self_iff]
  · intro held setter
    cases setter with
    | _ => rfl

theorem optFlds_reads_back_iff :
    (∀ v, lastSuccessful RcbSetter.optFldsArgument calls = some v →
        getOptFlds (performAll isBuffered objectReference server calls
          (cString objectReference)).optFlds = v) ↔
      ∀ v, lastSuccessful RcbSetter.optFldsArgument calls = some v →
        v = getOptFlds (server (cString objectReference)).optFlds := by
  rw [optFlds_performAll]
  exact forall_congr' fun v => imp_congr_right fun _ => eq_comm

end Field

/-- After any calls on a control block a read returns what the last successful
calls have written, if and only if their arguments are readable: no transient
trigger, no optional fields but those the server has from the start, and a period
and a reference that C takes over as they are. -/
theorem setters_read_back_iff (isBuffered : Str → Bool) (objectReference : Str)
    (server : RcbServer) (calls : List SetterCall) (clientError : ℤ) :
    ∃ rcb, getRCBValues ⟨clientError, true⟩ objectReference
        (performAll isBuffered objectReference server calls) = .ok rcb ∧
      (ReadsBack (isBuffered (cString objectReference)) calls rcb ↔
        Readable (server (cString objectReference)) calls) := by
  have hintgPd := intgPd_reads_back_iff isBuffered objectReference server calls
  have htrgOps := trgOps_reads_back_iff isBuffered objectReference server calls
  have hoptFlds := optFlds_reads_back_iff isBuffered objectReference server calls
  have hdatSet := datSet_reads_back_iff isBuffered objectReference server calls
  refine ⟨_, rfl, ?_⟩
  constructor
  · intro h
    exact {
      intgPd := hintgPd.mp h.intgPd
      trgOps := htrgOps.mp h.trgOps
      optFlds := hoptFlds.mp h.optFlds
      datSet := hdatSet.mp h.datSet }
  · intro h
    exact {
      ena := ena_reads_back isBuffered objectReference server calls
      intgPd := hintgPd.mpr h.intgPd
      trgOps := htrgOps.mpr h.trgOps
      optFlds := hoptFlds.mpr h.optFlds
      datSet := hdatSet.mpr h.datSet
      resv := resv_reads_back isBuffered objectReference server calls }

/-- The optional fields of a single call to `SetRCBValues` do not arrive. -/
theorem optFlds_not_written :
    ∃ rcb, getRCBValues ⟨IED_ERROR_OK, true⟩ (lit "LD0/LLN0.RP.EventsRCB01")
        (performAll (fun _ => false) (lit "LD0/LLN0.RP.EventsRCB01") (fun _ => {})
          [⟨.rcbValues { optFlds := { sequenceNumber := true } }, IED_ERROR_OK⟩]) = .ok rcb ∧
      ¬ ReadsBack false [⟨.rcbValues { optFlds := { sequenceNumber := true } }, IED_ERROR_OK⟩]
        rcb := by
  refine ⟨_, rfl, fun h => ?_⟩
  have hlost := congrArg OptFlds.sequenceNumber (h.optFlds { sequenceNumber := true } rfl)
  revert hlost
  decide

end Iec61850.Mms
