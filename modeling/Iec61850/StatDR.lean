import Iec61850.ReportControlBlocks

/-!
# Picking a report control block

`PickAndEnableStatDRBRCB` tries the buffered report control blocks of a logical
node one after the other and enables the first that it can have.
-/

namespace Iec61850.Mms

open Go

/-! ## The candidate loop -/

/-- Data set references are compared with both separators taken as one. -/
def sameDataSet (a b : Str) : Bool :=
  let norm (s : Str) : Str := replaceAll s '$' '.'
  norm a == norm b

/-- What the reads and writes for one candidate come to. -/
structure CandidateReplies where
  read : ReadReply
  disable : ℤ
  reread : ReadReply
  trgOps : ℤ
  bufTm : ℤ
  gi : ℤ
  enable : ℤ
  deriving DecidableEq

/-- Only the last of the four writes has to succeed. -/
def configureAndEnable (replies : CandidateReplies) (rcbRef : Str) (server : RcbServer) :
    Bool × RcbServer :=
  let ops : TrgOps := { dataChange := true, triggeredPeriodically := false, gi := true }
  let server := (setTrgOps replies.trgOps rcbRef ops server).2
  let server := (setBufTm replies.bufTm rcbRef 50 server).2
  let server := (setGI replies.gi rcbRef true server).2
  let (err, server) := setRptEna replies.enable rcbRef true server
  (err.isNone, server)

/-- The body of the loop: whether the candidate is enabled, and the server after it. -/
def tryCandidate (replies : CandidateReplies) (datasetRef rcbRef : Str) (server : RcbServer) :
    Bool × RcbServer :=
  match getRCBValues replies.read rcbRef server with
  | .error _ => (false, server)
  | .ok rcb =>
      if sameDataSet rcb.datSet datasetRef then
        if rcb.ena then
          match setRptEna replies.disable rcbRef false server with
          | (some _, server) => (false, server)
          | (none, server) =>
              match getRCBValues replies.reread rcbRef server with
              | .error _ => (false, server)
              | .ok rcb =>
                  if rcb.ena then (false, server) else configureAndEnable replies rcbRef server
        else configureAndEnable replies rcbRef server
      else (false, server)

def rcbReference (lnRef name : Str) : Str := lnRef ++ lit ".BR." ++ name

/-- The loop, with the replies by the position of the candidate. -/
def tryCandidates (lnRef datasetRef : Str) :
    (ℕ → CandidateReplies) → List Str → RcbServer → Option Str × RcbServer
  | _, [], server => (none, server)
  | replies, name :: names, server =>
      let later := tryCandidates lnRef datasetRef (fun i => replies (i + 1)) names
      if hasPrefix name (lit "rcbStatDR") then
        let rcbRef := rcbReference lnRef name
        match tryCandidate (replies 0) datasetRef rcbRef server with
        | (true, server) => (some rcbRef, server)
        | (false, server) => later server
      else later server

inductive PickError
  | listBRCBs (lnRef : Str) (cause : IedError)
  | noneFree (lnRef : Str)
  deriving DecidableEq

/-- The reference of the control block that is enabled; `directory` is what
`GetLogicalNodeDirectory` returns for the buffered control blocks. -/
def pickAndEnableStatDRBRCB (directory : Except IedError (List Str))
    (replies : ℕ → CandidateReplies) (ld ln datasetRef : Str) (server : RcbServer) :
    Except PickError Str × RcbServer :=
  let lnRef := ld ++ lit "/" ++ ln
  match directory with
  | .error err => (.error (.listBRCBs lnRef err), server)
  | .ok names =>
      match tryCandidates lnRef datasetRef replies names server with
      | (some rcbRef, server) => (.ok rcbRef, server)
      | (none, server) => (.error (.noneFree lnRef), server)

/-- The function that is returned with a reference. -/
def cleanup (reply : ℤ) (rcbRef : Str) (server : RcbServer) : Option RcbError × RcbServer :=
  setRptEna reply rcbRef false server

/-! ## What a try does to its control block -/

/-- A try of the loop, with the control block as it is found. -/
structure Attempt where
  rcbRef : Str
  replies : CandidateReplies
  held : RcbAttributes
  deriving DecidableEq

def Attempt.considered (datasetRef : Str) (attempt : Attempt) : Bool :=
  attempt.replies.read.delivered && sameDataSet (cString attempt.held.datSet) datasetRef

/-- Whether the control block is free, or made free and found so. -/
def Attempt.takesOver (attempt : Attempt) : Bool :=
  !attempt.held.rptEna ||
    (attempt.replies.disable == IED_ERROR_OK && attempt.replies.reread.delivered)

def Attempt.picks (datasetRef : Str) (attempt : Attempt) : Bool :=
  attempt.considered datasetRef && attempt.takesOver && attempt.replies.enable == IED_ERROR_OK

/-- The control block is disabled, and then the re-read or the enabling fails. -/
def Attempt.leavesDisabled (datasetRef : Str) (attempt : Attempt) : Bool :=
  attempt.considered datasetRef && attempt.held.rptEna &&
    attempt.replies.disable == IED_ERROR_OK && !attempt.picks datasetRef

def attemptAt (lnRef : Str) (replies : CandidateReplies) (name : Str) (server : RcbServer) :
    Attempt :=
  ⟨rcbReference lnRef name, replies, server (cString (rcbReference lnRef name))⟩

/-- The tries that are made, up to the first that picks its control block. -/
def attempts (lnRef datasetRef : Str) :
    (ℕ → CandidateReplies) → List Str → RcbServer → List Attempt
  | _, [], _ => []
  | replies, name :: names, server =>
      let later := attempts lnRef datasetRef (fun i => replies (i + 1)) names
      if hasPrefix name (lit "rcbStatDR") then
        let attempt := attemptAt lnRef (replies 0) name server
        if attempt.picks datasetRef then [attempt]
        else attempt :: later (tryCandidate (replies 0) datasetRef attempt.rcbRef server).2
      else later server

section Try

variable (replies : CandidateReplies) (datasetRef rcbRef : Str) (server : RcbServer)

theorem configureAndEnable_fst :
    (configureAndEnable replies rcbRef server).1 = (replies.enable == IED_ERROR_OK) := by
  unfold configureAndEnable
  exact setRptEna_fst_isNone ..

theorem configureAndEnable_snd_rptEna :
    ((configureAndEnable replies rcbRef server).2 (cString rcbRef)).rptEna =
      (replies.enable == IED_ERROR_OK || (server (cString rcbRef)).rptEna) := by
  unfold configureAndEnable
  simp only [setRptEna_snd_rptEna]
  split
  next henable => simp [henable]
  next henable =>
    simp only [beq_eq_false_iff_ne.mpr henable, Bool.false_or, setGI, setBufTm, setTrgOps]
    rw [writeRCB_snd_rptEna_of_mask, writeRCB_snd_rptEna_of_mask, writeRCB_snd_rptEna_of_mask]
    all_goals rfl

theorem configureAndEnable_snd_of_ne {other : Str} (hother : other ≠ cString rcbRef) :
    (configureAndEnable replies rcbRef server).2 other = server other := by
  simp only [configureAndEnable, setRptEna, setGI, setBufTm, setTrgOps,
    writeRCB_snd_of_ne _ _ _ _ _ _ hother]

theorem tryCandidate_of_not_considered
    (hconsidered : Attempt.considered datasetRef ⟨rcbRef, replies, server (cString rcbRef)⟩ =
      false) :
    tryCandidate replies datasetRef rcbRef server = (false, server) := by
  unfold tryCandidate getRCBValues
  unfold Attempt.considered at hconsidered
  cases hread : replies.read.delivered with
  | false => simp
  | true =>
      simp only [hread, Bool.true_and] at hconsidered
      simp [hconsidered]

/-- A free control block is configured and enabled. -/
theorem tryCandidate_of_free
    (hconsidered : Attempt.considered datasetRef ⟨rcbRef, replies, server (cString rcbRef)⟩)
    (hfree : (server (cString rcbRef)).rptEna = false) :
    tryCandidate replies datasetRef rcbRef server =
      configureAndEnable replies rcbRef server := by
  unfold tryCandidate getRCBValues
  obtain ⟨hread, hsame⟩ := Bool.and_eq_true_iff.mp hconsidered
  simp only at hread hsame
  simp [hread, hsame, hfree]

/-- An enabled one is disabled first, and given up if that fails or is not seen. -/
theorem tryCandidate_of_enabled
    (hconsidered : Attempt.considered datasetRef ⟨rcbRef, replies, server (cString rcbRef)⟩)
    (henabled : (server (cString rcbRef)).rptEna = true) :
    tryCandidate replies datasetRef rcbRef server =
      if replies.disable = IED_ERROR_OK then
        let server := (setRptEna replies.disable rcbRef false server).2
        if replies.reread.delivered then configureAndEnable replies rcbRef server
        else (false, server)
      else (false, server) := by
  obtain ⟨hread, hsame⟩ := Bool.and_eq_true_iff.mp hconsidered
  simp only at hread hsame
  unfold tryCandidate getRCBValues
  simp only [hread, hsame, henabled, if_true]
  have herror := setRptEna_fst_isNone replies.disable rcbRef server false
  have hdisabled := setRptEna_snd_rptEna replies.disable rcbRef server false
  have hkept (hfailed : replies.disable ≠ IED_ERROR_OK) :
      (setRptEna replies.disable rcbRef false server).2 = server :=
    writeRCB_snd_of_failed _ _ _ _ _ _ hfailed
  generalize setRptEna replies.disable rcbRef false server = written at herror hdisabled hkept ⊢
  obtain ⟨err, server'⟩ := written
  cases err with
  | some err =>
      have hfailed : replies.disable ≠ IED_ERROR_OK := by simpa using herror
      obtain rfl : server' = server := hkept hfailed
      simp [hfailed]
  | none =>
      have hdone : replies.disable = IED_ERROR_OK := by simpa using herror
      simp only [hdone, if_true] at hdisabled
      cases hreread : replies.reread.delivered with
      | false => simp [hdone]
      | true => simp [hdone, hdisabled]

/-- Other control blocks are left alone. -/
theorem tryCandidate_snd_of_ne {other : Str} (hother : other ≠ cString rcbRef) :
    (tryCandidate replies datasetRef rcbRef server).2 other = server other := by
  cases hconsidered : Attempt.considered datasetRef ⟨rcbRef, replies, server (cString rcbRef)⟩ with
  | false => rw [tryCandidate_of_not_considered replies datasetRef rcbRef server hconsidered]
  | true =>
      cases henabled : (server (cString rcbRef)).rptEna with
      | false =>
          rw [tryCandidate_of_free replies datasetRef rcbRef server hconsidered henabled,
            configureAndEnable_snd_of_ne replies rcbRef server hother]
      | true =>
          rw [tryCandidate_of_enabled replies datasetRef rcbRef server hconsidered henabled]
          have hdisable : (setRptEna replies.disable rcbRef false server).2 other = server other :=
            writeRCB_snd_of_ne _ _ _ _ _ _ hother
          repeat' split
          next => rw [configureAndEnable_snd_of_ne _ _ _ hother, hdisable]
          next => exact hdisable
          next => rfl

theorem tryCandidate_fst :
    (tryCandidate replies datasetRef rcbRef server).1 =
      Attempt.picks datasetRef ⟨rcbRef, replies, server (cString rcbRef)⟩ := by
  unfold Attempt.picks Attempt.takesOver
  cases hconsidered : Attempt.considered datasetRef ⟨rcbRef, replies, server (cString rcbRef)⟩ with
  | false =>
      rw [tryCandidate_of_not_considered replies datasetRef rcbRef server hconsidered]
      rfl
  | true =>
      cases henabled : (server (cString rcbRef)).rptEna with
      | false =>
          rw [tryCandidate_of_free replies datasetRef rcbRef server hconsidered henabled,
            configureAndEnable_fst]
          rfl
      | true =>
          rw [tryCandidate_of_enabled replies datasetRef rcbRef server hconsidered henabled]
          simp only
          repeat' split
          next hdisable hreread => simp [configureAndEnable_fst, hdisable, hreread]
          next hdisable hreread => simp [hreread]
          next hdisable => simp [hdisable]

/-- A try that does not pick its control block disables it or changes nothing. -/
theorem tryCandidate_snd_rptEna
    (hpicks : Attempt.picks datasetRef ⟨rcbRef, replies, server (cString rcbRef)⟩ = false) :
    ((tryCandidate replies datasetRef rcbRef server).2 (cString rcbRef)).rptEna =
      ((server (cString rcbRef)).rptEna &&
        !Attempt.leavesDisabled datasetRef ⟨rcbRef, replies, server (cString rcbRef)⟩) := by
  unfold Attempt.leavesDisabled
  rw [hpicks]
  unfold Attempt.picks Attempt.takesOver at hpicks
  cases hconsidered : Attempt.considered datasetRef ⟨rcbRef, replies, server (cString rcbRef)⟩ with
  | false =>
      rw [tryCandidate_of_not_considered replies datasetRef rcbRef server hconsidered]
      simp
  | true =>
      rw [hconsidered] at hpicks
      cases henabled : (server (cString rcbRef)).rptEna with
      | false =>
          have henable : (replies.enable == IED_ERROR_OK) = false := by
            simpa [henabled] using hpicks
          rw [tryCandidate_of_free replies datasetRef rcbRef server hconsidered henabled,
            configureAndEnable_snd_rptEna, henable, henabled]
          rfl
      | true =>
          rw [tryCandidate_of_enabled replies datasetRef rcbRef server hconsidered henabled]
          simp only
          repeat' split
          next hdisable hreread =>
            have henable : (replies.enable == IED_ERROR_OK) = false := by
              simpa [henabled, hdisable, hreread] using hpicks
            rw [configureAndEnable_snd_rptEna, setRptEna_snd_rptEna, henable]
            simp [hdisable]
          next hdisable hreread =>
            rw [setRptEna_snd_rptEna]
            simp [hdisable]
          next hdisable => simp [henabled, hdisable]

end Try

/-! ## What the loop leaves behind -/

section Loop

variable (lnRef datasetRef : Str)

section Cons

variable (replies : ℕ → CandidateReplies) (name : Str) (names : List Str) (server : RcbServer)

theorem loop_cons_of_skipped (hskipped : hasPrefix name (lit "rcbStatDR") = false) :
    tryCandidates lnRef datasetRef replies (name :: names) server =
        tryCandidates lnRef datasetRef (fun i => replies (i + 1)) names server ∧
      attempts lnRef datasetRef replies (name :: names) server =
        attempts lnRef datasetRef (fun i => replies (i + 1)) names server := by
  simp [tryCandidates, attempts, hskipped]

theorem tryCandidates_cons_of_tried (htried : hasPrefix name (lit "rcbStatDR") = true) :
    tryCandidates lnRef datasetRef replies (name :: names) server =
      match tryCandidate (replies 0) datasetRef (rcbReference lnRef name) server with
      | (true, server) => (some (rcbReference lnRef name), server)
      | (false, server) =>
          tryCandidates lnRef datasetRef (fun i => replies (i + 1)) names server := by
  rw [tryCandidates, if_pos htried]

theorem loop_cons_of_picks (htried : hasPrefix name (lit "rcbStatDR") = true)
    (hpicks : (attemptAt lnRef (replies 0) name server).picks datasetRef = true) :
    tryCandidates lnRef datasetRef replies (name :: names) server =
        (some (rcbReference lnRef name),
          (tryCandidate (replies 0) datasetRef (rcbReference lnRef name) server).2) ∧
      attempts lnRef datasetRef replies (name :: names) server =
        [attemptAt lnRef (replies 0) name server] := by
  have hfst : (tryCandidate (replies 0) datasetRef (rcbReference lnRef name) server).1 = true :=
    (tryCandidate_fst ..).trans hpicks
  have hunfold := tryCandidates_cons_of_tried lnRef datasetRef replies name names server htried
  constructor
  · generalize tryCandidate (replies 0) datasetRef (rcbReference lnRef name) server = result
      at hfst hunfold ⊢
    obtain ⟨_, server'⟩ := result
    obtain rfl : _ = true := hfst
    exact hunfold
  · rw [attempts, if_pos htried]
    simp only [hpicks]
    rfl

theorem loop_cons_of_given_up (htried : hasPrefix name (lit "rcbStatDR") = true)
    (hpicks : (attemptAt lnRef (replies 0) name server).picks datasetRef = false) :
    tryCandidates lnRef datasetRef replies (name :: names) server =
        tryCandidates lnRef datasetRef (fun i => replies (i + 1)) names
          (tryCandidate (replies 0) datasetRef (rcbReference lnRef name) server).2 ∧
      attempts lnRef datasetRef replies (name :: names) server =
        attemptAt lnRef (replies 0) name server ::
          attempts lnRef datasetRef (fun i => replies (i + 1)) names
            (tryCandidate (replies 0) datasetRef (rcbReference lnRef name) server).2 := by
  have hfst : (tryCandidate (replies 0) datasetRef (rcbReference lnRef name) server).1 = false :=
    (tryCandidate_fst ..).trans hpicks
  have hunfold := tryCandidates_cons_of_tried lnRef datasetRef replies name names server htried
  constructor
  · generalize tryCandidate (replies 0) datasetRef (rcbReference lnRef name) server = result
      at hfst hunfold ⊢
    obtain ⟨_, server'⟩ := result
    obtain rfl : _ = false := hfst
    exact hunfold
  · rw [attempts, if_pos htried]
    simp only [hpicks]
    rfl

end Cons

/-- What is returned is the reference of the try that picks. -/
theorem tryCandidates_fst_iff (replies : ℕ → CandidateReplies) (names : List Str)
    (server : RcbServer) (rcbRef : Str) :
    (tryCandidates lnRef datasetRef replies names server).1 = some rcbRef ↔
      ∃ attempt ∈ attempts lnRef datasetRef replies names server,
        attempt.picks datasetRef = true ∧ attempt.rcbRef = rcbRef := by
  induction names generalizing replies server with
  | nil => simp [tryCandidates, attempts]
  | cons name names ih =>
      cases htried : hasPrefix name (lit "rcbStatDR") with
      | false =>
          obtain ⟨hloop, hattempts⟩ :=
            loop_cons_of_skipped lnRef datasetRef replies name names server htried
          rw [hloop, hattempts]
          exact ih ..
      | true =>
          cases hpicks : (attemptAt lnRef (replies 0) name server).picks datasetRef with
          | true =>
              obtain ⟨hloop, hattempts⟩ :=
                loop_cons_of_picks lnRef datasetRef replies name names server htried hpicks
              rw [hloop, hattempts]
              simp only [Option.some.injEq, List.mem_singleton, exists_eq_left, hpicks, true_and]
              rfl
          | false =>
              obtain ⟨hloop, hattempts⟩ :=
                loop_cons_of_given_up lnRef datasetRef replies name names server htried hpicks
              rw [hloop, hattempts, ih]
              simp [hpicks]

/-- A control block that no try picks is disabled by the tries that leave it so,
and by nothing else. -/
theorem tryCandidates_snd_rptEna (replies : ℕ → CandidateReplies) (names : List Str)
    (server : RcbServer) (reference : Str)
    (hpicks : ∀ attempt ∈ attempts lnRef datasetRef replies names server,
      attempt.picks datasetRef = true → cString attempt.rcbRef ≠ reference) :
    ((tryCandidates lnRef datasetRef replies names server).2 reference).rptEna = true ↔
      (server reference).rptEna = true ∧
        ∀ attempt ∈ attempts lnRef datasetRef replies names server,
          attempt.leavesDisabled datasetRef = true → cString attempt.rcbRef ≠ reference := by
  induction names generalizing replies server with
  | nil => simp [tryCandidates, attempts]
  | cons name names ih =>
      cases htried : hasPrefix name (lit "rcbStatDR") with
      | false =>
          obtain ⟨hloop, hattempts⟩ :=
            loop_cons_of_skipped lnRef datasetRef replies name names server htried
          rw [hattempts] at hpicks ⊢
          rw [hloop]
          exact ih _ _ hpicks
      | true =>
          cases hfirst : (attemptAt lnRef (replies 0) name server).picks datasetRef with
          | true =>
              obtain ⟨hloop, hattempts⟩ :=
                loop_cons_of_picks lnRef datasetRef replies name names server htried hfirst
              rw [hattempts] at hpicks ⊢
              have hne : reference ≠ cString (rcbReference lnRef name) :=
                fun h => hpicks _ (List.mem_singleton_self _) hfirst h.symm
              rw [hloop]
              simp only [tryCandidate_snd_of_ne _ _ _ _ hne]
              simp [Attempt.leavesDisabled, hfirst]
          | false =>
              obtain ⟨hloop, hattempts⟩ :=
                loop_cons_of_given_up lnRef datasetRef replies name names server htried hfirst
              rw [hattempts] at hpicks ⊢
              rw [hloop, ih _ _ fun attempt hmem => hpicks attempt (List.mem_cons_of_mem _ hmem),
                List.forall_mem_cons, ← and_assoc]
              refine and_congr_left fun _ => ?_
              by_cases href : reference = cString (rcbReference lnRef name)
              · subst href
                rw [tryCandidate_snd_rptEna _ _ _ _ hfirst]
                simp [attemptAt]
              · rw [tryCandidate_snd_of_ne _ _ _ _ href]
                simp [attemptAt, Ne.symm href]

/-- What a try finds enabled has been so from the start. -/
theorem rptEna_of_held_of_mem_attempts (replies : ℕ → CandidateReplies) (names : List Str)
    (server : RcbServer) {attempt : Attempt}
    (hmem : attempt ∈ attempts lnRef datasetRef replies names server)
    (hheld : attempt.held.rptEna = true) :
    (server (cString attempt.rcbRef)).rptEna = true := by
  induction names generalizing replies server with
  | nil => cases hmem
  | cons name names ih =>
      cases htried : hasPrefix name (lit "rcbStatDR") with
      | false =>
          rw [(loop_cons_of_skipped lnRef datasetRef replies name names server htried).2] at hmem
          exact ih _ _ hmem
      | true =>
          cases hfirst : (attemptAt lnRef (replies 0) name server).picks datasetRef with
          | true =>
              rw [(loop_cons_of_picks lnRef datasetRef replies name names server htried
                hfirst).2] at hmem
              obtain rfl := List.mem_singleton.mp hmem
              exact hheld
          | false =>
              rw [(loop_cons_of_given_up lnRef datasetRef replies name names server htried
                hfirst).2] at hmem
              cases List.mem_cons.mp hmem with
              | inl hself =>
                  subst hself
                  exact hheld
              | inr hlater =>
                  have hafter := ih _ _ hlater
                  by_cases href : cString attempt.rcbRef = cString (rcbReference lnRef name)
                  · rw [href, tryCandidate_snd_rptEna _ _ _ _ hfirst] at hafter
                    rw [href]
                    exact (Bool.and_eq_true_iff.mp hafter).1
                  · rwa [tryCandidate_snd_of_ne _ _ _ _ href] at hafter

theorem loop_keeps_others_iff (replies : ℕ → CandidateReplies) (names : List Str)
    (server : RcbServer) :
    (∀ reference,
        (∀ rcbRef, (tryCandidates lnRef datasetRef replies names server).1 = some rcbRef →
          cString rcbRef ≠ reference) →
        ((tryCandidates lnRef datasetRef replies names server).2 reference).rptEna =
          (server reference).rptEna) ↔
      ∀ attempt ∈ attempts lnRef datasetRef replies names server,
        attempt.leavesDisabled datasetRef = true →
          ∃ later ∈ attempts lnRef datasetRef replies names server,
            later.picks datasetRef = true ∧ cString later.rcbRef = cString attempt.rcbRef := by
  have hpicks {reference : Str} :
      (∀ rcbRef, (tryCandidates lnRef datasetRef replies names server).1 = some rcbRef →
          cString rcbRef ≠ reference) ↔
        ∀ attempt ∈ attempts lnRef datasetRef replies names server,
          attempt.picks datasetRef = true → cString attempt.rcbRef ≠ reference := by
    simp only [tryCandidates_fst_iff]
    constructor
    · intro h attempt hmem hattempt
      exact h _ ⟨attempt, hmem, hattempt, rfl⟩
    · rintro h _ ⟨attempt, hmem, hattempt, rfl⟩
      exact h attempt hmem hattempt
  constructor
  · intro hkeeps attempt hmem hleaves
    by_contra hnone
    have hnot : ∀ later ∈ attempts lnRef datasetRef replies names server,
        later.picks datasetRef = true → cString later.rcbRef ≠ cString attempt.rcbRef :=
      fun later hlater hpick href => hnone ⟨later, hlater, hpick, href⟩
    have hheld : attempt.held.rptEna = true := by
      simp only [Attempt.leavesDisabled, Bool.and_eq_true] at hleaves
      exact hleaves.1.1.2
    have hinitial := rptEna_of_held_of_mem_attempts lnRef datasetRef replies names server hmem hheld
    have hfinal := hkeeps _ (hpicks.mpr hnot)
    rw [hinitial, tryCandidates_snd_rptEna lnRef datasetRef replies names server _ hnot] at hfinal
    exact hfinal.2 attempt hmem hleaves rfl
  · intro hlater reference hother
    have hnot := hpicks.mp hother
    rw [Bool.eq_iff_iff, tryCandidates_snd_rptEna lnRef datasetRef replies names server _ hnot]
    refine and_iff_left fun attempt hmem hleaves href => ?_
    obtain ⟨later, hmemLater, hpick, hsame⟩ := hlater attempt hmem hleaves
    exact hnot later hmemLater hpick (hsame.trans href)

end Loop

/-- The tries of a call; none without a directory. -/
def attemptsOf (directory : Except IedError (List Str)) (replies : ℕ → CandidateReplies)
    (ld ln datasetRef : Str) (server : RcbServer) : List Attempt :=
  match directory with
  | .error _ => []
  | .ok names => attempts (ld ++ lit "/" ++ ln) datasetRef replies names server

/-- Every control block but the returned one is enabled or not as before. -/
def KeepsOthers (result : Except PickError Str) (before after : RcbServer) : Prop :=
  ∀ reference, (∀ rcbRef, result = .ok rcbRef → cString rcbRef ≠ reference) →
    (after reference).rptEna = (before reference).rptEna

/-- The control blocks that are not returned stay as they were if and only if
those that a try leaves disabled are picked by a later one. -/
theorem pick_keeps_others_iff (directory : Except IedError (List Str))
    (replies : ℕ → CandidateReplies) (ld ln datasetRef : Str) (server : RcbServer) :
    KeepsOthers (pickAndEnableStatDRBRCB directory replies ld ln datasetRef server).1 server
        (pickAndEnableStatDRBRCB directory replies ld ln datasetRef server).2 ↔
      ∀ attempt ∈ attemptsOf directory replies ld ln datasetRef server,
        attempt.leavesDisabled datasetRef = true →
          ∃ later ∈ attemptsOf directory replies ld ln datasetRef server,
            later.picks datasetRef = true ∧ cString later.rcbRef = cString attempt.rcbRef := by
  unfold KeepsOthers pickAndEnableStatDRBRCB attemptsOf
  cases directory with
  | error err => simp
  | ok names =>
      rw [← loop_keeps_others_iff]
      dsimp only
      generalize tryCandidates (ld ++ lit "/" ++ ln) datasetRef replies names server = result
      obtain ⟨picked, final⟩ := result
      cases picked with
      | none => simp
      | some rcbRef => simp

/-- Two enabled control blocks; the first is disabled and cannot be read again,
the second is taken over. -/
def interruptedReplies (i : ℕ) : CandidateReplies where
  read := ⟨IED_ERROR_OK, true⟩
  disable := IED_ERROR_OK
  reread := if i = 0 then ⟨20, false⟩ else ⟨IED_ERROR_OK, true⟩
  trgOps := IED_ERROR_OK
  bufTm := IED_ERROR_OK
  gi := IED_ERROR_OK
  enable := IED_ERROR_OK

def enabledServer : RcbServer :=
  fun _ => { rptEna := true, datSet := lit "IED1LD0/LLN0$FileEvts" }

def interruptedPick : Except PickError Str × RcbServer :=
  pickAndEnableStatDRBRCB (.ok [lit "rcbStatDR01", lit "rcbStatDR02"]) interruptedReplies
    (lit "IED1LD0") (lit "LLN0") (lit "IED1LD0/LLN0.FileEvts") enabledServer

theorem first_candidate_left_disabled :
    ¬ KeepsOthers interruptedPick.1 enabledServer interruptedPick.2 := by
  intro h
  have hresult : interruptedPick.1 = .ok (lit "IED1LD0/LLN0.BR.rcbStatDR02") := rfl
  have hkept := h (lit "IED1LD0/LLN0.BR.rcbStatDR01") fun rcbRef hok => by
    obtain rfl := Except.ok.inj (hresult.symm.trans hok)
    decide +kernel
  revert hkept
  decide +kernel

end Iec61850.Mms
