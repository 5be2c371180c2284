import Iec61850.ClientErrors
import Iec61850.CText
import Iec61850.GoOutcome

/-!
# File downloads

The library hands the blocks of a file to `downloadHandler`, which writes them one after
the other and stops at the first write that fails.
-/

namespace Iec61850.Mms

open Go

abbrev Bytes := List UInt8

variable {S E : Type}

/-! ## The writer -/

structure WriteReply (E : Type) where
  n : ℤ
  err : Option E
  deriving DecidableEq

/-- An `io.Writer` in a state `S`, with errors `E` of its own. -/
abbrev Writer (S E : Type) := S → Bytes → WriteReply E × S

/-- The errors that `GetFile` returns. -/
inductive GetFileError (E : Type)
  | writer (err : E)
  | shortWrite
  | client (err : IedError)
  deriving DecidableEq

/-- A call of the writer, and what it returned. -/
structure WriteCall (E : Type) where
  data : Bytes
  reply : WriteReply E
  deriving DecidableEq

/-- The bytes that the writer says it has written. -/
def WriteCall.accepted (call : WriteCall E) : Bytes := call.data.take call.reply.n.toNat

/-- The error of the writer, or that of a write of another length. -/
def WriteCall.failure (call : WriteCall E) : Option (GetFileError E) :=
  match call.reply.err with
  | some err => some (.writer err)
  | none => if call.reply.n ≠ call.data.length then some .shortWrite else none

/-- The writer and the registered error, with the calls that were made. -/
structure DownloadWriter (S E : Type) where
  writer : S
  err : Option (GetFileError E) := none
  calls : List (WriteCall E) := []

def DownloadWriter.write (write : Writer S E) (w : DownloadWriter S E) (p : Bytes) :
    WriteReply E × DownloadWriter S E :=
  let (reply, writer) := write w.writer p
  (reply, { w with writer := writer, calls := w.calls ++ [⟨p, reply⟩] })

/-! ## The download -/

/-- `C.GoBytes`, which panics on a negative length. -/
def goBytes (buffer : Bytes) (length : ℤ) : Outcome Bytes :=
  if length < 0 then .error (.panic .indexOutOfRange) else .ok (buffer.take length.toNat)

/-- Whether to go on, and the writer after the block. -/
def downloadHandler (write : Writer S E) (writer : DownloadWriter S E) (buffer : Bytes) :
    Outcome (Bool × DownloadWriter S E) :=
  let bytesRead := buffer.length
  if bytesRead = 0 then .ok (true, writer)
  else do
    let data ← goBytes buffer (cInt bytesRead)
    let (reply, writer) := writer.write write data
    match reply.err with
    | some err => return (false, { writer with err := some (.writer err) })
    | none =>
        if reply.n ≠ bytesRead then return (false, { writer with err := some .shortWrite })
        else return (true, writer)

/-- `IedConnection_getFile`: the blocks until the handler returns false. -/
def handBlocks (write : Writer S E) : List Bytes → DownloadWriter S E →
    Outcome (DownloadWriter S E)
  | [], dw => .ok dw
  | block :: blocks, dw => do
      let (continues, dw) ← downloadHandler write dw block
      if continues then handBlocks write blocks dw else return dw

/-- The error that is returned, and the writer at the end; the library reports
`clientError`. -/
def getFile (write : Writer S E) (w : S) (blocks : List Bytes) (clientError : ℤ) :
    Outcome (Option (GetFileError E) × DownloadWriter S E) := do
  let dw ← handBlocks write blocks { writer := w }
  match dw.err with
  | some err => return (some err, dw)
  | none => return ((getIedClientError clientError).map .client, dw)

/-- A block of the library.  It is part of one MMS message, whose size is an `int32_t`
(`MmsConnection_setLocalDetail`). -/
structure DataBlock where
  bytes : Bytes
  fits : bytes.length < 2 ^ 31

/-! ## What a download does -/

/-- The calls of the writer for these blocks, and the failure that ends them. -/
inductive Downloads : List Bytes → List (WriteCall E) → Option (GetFileError E) → Prop
  | done : Downloads [] [] none
  | skipped {blocks : List Bytes} {calls : List (WriteCall E)} {err : Option (GetFileError E)}
      (hrest : Downloads blocks calls err) : Downloads ([] :: blocks) calls err
  | written {blocks : List Bytes} {call : WriteCall E} {calls : List (WriteCall E)}
      {err : Option (GetFileError E)} (hdata : call.data ≠ []) (hok : call.failure = none)
      (hrest : Downloads blocks calls err) :
      Downloads (call.data :: blocks) (call :: calls) err
  | stopped (blocks : List Bytes) {call : WriteCall E} {failure : GetFileError E}
      (hdata : call.data ≠ []) (hfailed : call.failure = some failure) :
      Downloads (call.data :: blocks) [call] (some failure)

theorem WriteCall.accepted_of_ok {call : WriteCall E} (hok : call.failure = none) :
    call.accepted = call.data := by
  unfold failure at hok
  cases herr : call.reply.err with
  | some err =>
      rw [herr] at hok
      cases hok
  | none =>
      rw [herr] at hok
      have hn : call.reply.n = call.data.length := by
        by_contra hne
        simp [hne] at hok
      unfold accepted
      rw [hn, Int.toNat_natCast, List.take_length]

section

variable {blocks : List Bytes} {calls : List (WriteCall E)} {err : Option (GetFileError E)}

/-- Without a failure the whole file is accepted. -/
theorem Downloads.flatMap_accepted (h : Downloads blocks calls err) (herr : err = none) :
    calls.flatMap WriteCall.accepted = blocks.flatten := by
  induction h with
  | done => rfl
  | skipped _ ih => exact ih herr
  | written _ hok _ ih =>
      rw [List.flatMap_cons, List.flatten_cons, WriteCall.accepted_of_ok hok, ih herr]
  | stopped => cases herr

/-- A call that fails is the last one, and its failure is reported. -/
theorem Downloads.last_of_failed (h : Downloads blocks calls err)
    {before after : List (WriteCall E)} {call : WriteCall E} {failure : GetFileError E}
    (hcalls : calls = before ++ call :: after) (hfailed : call.failure = some failure) :
    after = [] ∧ err = some failure := by
  induction h generalizing before with
  | done => simp at hcalls
  | skipped _ ih => exact ih hcalls
  | written _ hok _ ih =>
      cases before with
      | nil =>
          obtain ⟨rfl, -⟩ := List.cons.inj hcalls
          cases hok.symm.trans hfailed
      | cons first before => exact ih (List.cons.inj hcalls).2
  | stopped _ _ hfailure =>
      cases before with
      | nil =>
          obtain ⟨rfl, rfl⟩ := List.cons.inj hcalls
          exact ⟨rfl, hfailure.symm.trans hfailed⟩
      | cons first before => simp at hcalls

theorem Downloads.err_of_ok (h : Downloads blocks calls err)
    (hok : ∀ call ∈ calls, call.failure = none) : err = none := by
  induction h with
  | done => rfl
  | skipped _ ih => exact ih hok
  | written _ _ _ ih => exact ih fun call hcall => hok call (List.mem_cons_of_mem _ hcall)
  | stopped _ _ hfailed => cases (hok _ List.mem_cons_self).symm.trans hfailed

/-- The blocks are handed on in their order. -/
theorem Downloads.data_prefix (h : Downloads blocks calls err) :
    calls.map WriteCall.data <+: blocks.filter (· ≠ []) := by
  induction h with
  | done => exact List.prefix_rfl
  | skipped _ ih => simpa using ih
  | written hdata _ _ ih => simpa [hdata] using ih
  | stopped blocks hdata => simp [hdata]

end

/-! ## The handler does so -/

theorem goBytes_of_fits {buffer : Bytes} (hfits : buffer.length < 2 ^ 31) :
    goBytes buffer (cInt buffer.length) = .ok buffer := by
  have hcInt : cInt buffer.length = buffer.length := by
    unfold cInt
    rw [Int.bmod_def]
    omega
  unfold goBytes
  rw [hcInt, if_neg (by omega), Int.toNat_natCast, List.take_length]

/-- The handler calls the writer once, and goes on if that call does not fail. -/
theorem downloadHandler_eq (write : Writer S E) (dw : DownloadWriter S E) {block : Bytes}
    (hfits : block.length < 2 ^ 31) (hblock : block ≠ []) :
    downloadHandler write dw block =
      let call : WriteCall E := ⟨block, (write dw.writer block).1⟩
      .ok (call.failure.isNone, {
        writer := (write dw.writer block).2
        err := call.failure.or dw.err
        calls := dw.calls ++ [call] }) := by
  have hlength : block.length ≠ 0 := by simpa using hblock
  have hgo := goBytes_of_fits hfits
  unfold downloadHandler WriteCall.failure DownloadWriter.write
  dsimp only
  rw [if_neg hlength, hgo]
  simp only [bind, Except.bind]
  obtain ⟨⟨n, err⟩, writer⟩ := write dw.writer block
  cases err with
  | some err => rfl
  | none =>
      dsimp only
      by_cases hn : n = block.length
      · simp [hn, pure, Except.pure]
      · simp [hn, pure, Except.pure]

theorem handBlocks_downloads (write : Writer S E) (blocks : List DataBlock)
    (dw : DownloadWriter S E) (herr : dw.err = none) :
    ∃ dw' calls, handBlocks write (blocks.map DataBlock.bytes) dw = .ok dw' ∧
      dw'.calls = dw.calls ++ calls ∧ Downloads (blocks.map DataBlock.bytes) calls dw'.err := by
  induction blocks generalizing dw with
  | nil => exact ⟨dw, [], rfl, (List.append_nil _).symm, herr ▸ .done⟩
  | cons block blocks ih =>
      rw [List.map_cons, handBlocks]
      by_cases hempty : block.bytes = []
      · obtain ⟨dw', calls, hrun, hcalls, hdownloads⟩ := ih dw herr
        refine ⟨dw', calls, ?_, hcalls, ?_⟩
        · rw [hempty]
          exact hrun
        · rw [hempty]
          exact .skipped hdownloads
      · obtain ⟨call, writer, hdata, hhandler⟩ : ∃ (call : WriteCall E) (writer : S),
            call.data = block.bytes ∧ downloadHandler write dw block.bytes =
              .ok (call.failure.isNone,
                { writer := writer, err := call.failure, calls := dw.calls ++ [call] }) := by
          have hhandler := downloadHandler_eq write dw block.fits hempty
          rw [herr] at hhandler
          simp only [Option.or_none] at hhandler
          exact ⟨_, _, rfl, hhandler⟩
        rw [← hdata] at hempty hhandler ⊢
        rw [hhandler]
        cases hfailure : call.failure with
        | none =>
            obtain ⟨dw', calls, hrun, hcalls, hdownloads⟩ :=
              ih { writer := writer, err := none, calls := dw.calls ++ [call] } rfl
            refine ⟨dw', call :: calls, hrun, ?_, .written hempty hfailure hdownloads⟩
            rw [hcalls, List.append_assoc, List.singleton_append]
        | some failure => exact ⟨_, [call], rfl, rfl, .stopped _ hempty hfailure⟩

/-- A file that is downloaded without an error has been accepted whole; the first write
that fails is the last, and its error is returned before that of the library. -/
theorem getFile_delivers (write : Writer S E) (w : S) (blocks : List DataBlock)
    (clientError : ℤ) :
    ∃ err dw, getFile write w (blocks.map DataBlock.bytes) clientError = .ok (err, dw) ∧
      (err = none →
        dw.calls.flatMap WriteCall.accepted = (blocks.map DataBlock.bytes).flatten) ∧
      (∀ before call after failure, dw.calls = before ++ call :: after →
        call.failure = some failure → after = [] ∧ err = some failure) ∧
      ((∀ call ∈ dw.calls, call.failure = none) →
        err = (getIedClientError clientError).map .client) ∧
      dw.calls.map WriteCall.data <+: (blocks.map DataBlock.bytes).filter (· ≠ []) := by
  obtain ⟨dw, calls, hrun, hcalls, hdownloads⟩ :=
    handBlocks_downloads write blocks { writer := w } rfl
  obtain rfl : dw.calls = calls := hcalls
  have hget : getFile write w (blocks.map DataBlock.bytes) clientError =
      .ok (dw.err.or ((getIedClientError clientError).map .client), dw) := by
    unfold getFile
    rw [hrun]
    cases herr : dw.err with
    | none => simp [bind, Except.bind, herr, pure, Except.pure]
    | some err => simp [bind, Except.bind, herr, pure, Except.pure]
  refine ⟨_, dw, hget, ?_, ?_, ?_, hdownloads.data_prefix⟩
  · intro hnone
    exact hdownloads.flatMap_accepted (Option.or_eq_none_iff.mp hnone).1
  · intro before call after failure hcalls hfailed
    obtain ⟨hafter, herr⟩ := hdownloads.last_of_failed hcalls hfailed
    exact ⟨hafter, by rw [herr, Option.some_or]⟩
  · intro hok
    rw [hdownloads.err_of_ok hok, Option.none_or]

/-- A writer with room for so many bytes, which tells by the count alone that it is full. -/
def limitedWriter : Writer ℕ IedError := fun room p =>
  (⟨min room p.length, none⟩, room - p.length)

def sampleBlocks : List DataBlock :=
  [⟨[1, 2, 3], by decide⟩, ⟨[], by decide⟩, ⟨[4, 5, 6, 7], by decide⟩, ⟨[8], by decide⟩]

def sampleCalls : List (WriteCall IedError) :=
  [⟨[1, 2, 3], ⟨3, none⟩⟩, ⟨[4, 5, 6, 7], ⟨2, none⟩⟩]

/-- The empty block is not written, and the short write is the last. -/
theorem getFile_delivers_limitedWriter :
    getFile limitedWriter 5 (sampleBlocks.map DataBlock.bytes) 0 =
        .ok (some .shortWrite, ⟨0, some .shortWrite, sampleCalls⟩) ∧
      sampleCalls.map WriteCall.data <+:
        (sampleBlocks.map DataBlock.bytes).filter (· ≠ []) := by
  have hrun : getFile limitedWriter 5 (sampleBlocks.map DataBlock.bytes) 0 =
      .ok (some .shortWrite, ⟨0, some .shortWrite, sampleCalls⟩) := rfl
  obtain ⟨err, dw, hget, -, hlast, -, hprefix⟩ :=
    getFile_delivers limitedWriter 5 sampleBlocks 0
  obtain ⟨-, rfl⟩ := Prod.mk.inj (Except.ok.inj (hget.symm.trans hrun))
  obtain ⟨-, hshort⟩ := hlast [⟨[1, 2, 3], ⟨3, none⟩⟩] ⟨[4, 5, 6, 7], ⟨2, none⟩⟩ [] _ rfl rfl
  rw [hshort] at hget
  exact ⟨hget, hprefix⟩

end Iec61850.Mms
