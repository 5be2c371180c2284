import Iec61850.StatDR
import Iec61850.StepRuns

/-!
# The one control block that is enabled

Of all writes that `PickAndEnableStatDRBRCB` makes, only the one to the control block
whose reference is returned enables a report control block.
-/

namespace Iec61850.Mms

open Go Transition

/-! ## The servers after each write -/

def configureStates (replies : CandidateReplies) (rcbRef : Str) (server : RcbServer) :
    List RcbServer :=
  let ops : TrgOps := { dataChange := true, triggeredPeriodically := false, gi := true }
  let withTrgOps := (setTrgOps replies.trgOps rcbRef ops server).2
  let withBufTm := (setBufTm replies.bufTm rcbRef 50 withTrgOps).2
  let withGI := (setGI replies.gi rcbRef true withBufTm).2
  [withTrgOps, withBufTm, withGI, (setRptEna replies.enable rcbRef true withGI).2]

/-- The servers that a try passes through. -/
def tryStates (replies : CandidateReplies) (datasetRef rcbRef : Str) (server : RcbServer) :
    List RcbServer :=
  match getRCBValues replies.read rcbRef server with
  | .error _ => []
  | .ok rcb =>
      if sameDataSet rcb.datSet datasetRef then
        if rcb.ena then
          match setRptEna replies.disable rcbRef false server with
          | (some _, server) => [server]
          | (none, server) =>
              match getRCBValues replies.reread rcbRef server with
              | .error _ => [server]
              | .ok rcb =>
                  if rcb.ena then [server]
                  else server :: configureStates replies rcbRef server
        else configureStates replies rcbRef server
      else []

/-- The servers that the loop passes through. -/
def loopStates (lnRef datasetRef : Str) :
    (ℕ → CandidateReplies) → List Str → RcbServer → List RcbServer
  | _, [], _ => []
  | replies, name :: names, server =>
      let later := loopStates lnRef datasetRef (fun i => replies (i + 1)) names
      if hasPrefix name (lit "rcbStatDR") then
        let rcbRef := rcbReference lnRef name
        let states := tryStates (replies 0) datasetRef rcbRef server
        match tryCandidate (replies 0) datasetRef rcbRef server with
        | (true, _) => states
        | (false, server) => states ++ later server
      else later server

/-- The servers that a call passes through. -/
def pickStates (directory : Except IedError (List Str)) (replies : ℕ → CandidateReplies)
    (ld ln datasetRef : Str) (server : RcbServer) : List RcbServer :=
  match directory with
  | .error _ => []
  | .ok names => loopStates (ld ++ lit "/" ++ ln) datasetRef replies names server

/-! ## What a write may enable -/

/-- Only the control block of this reference is enabled. -/
def EnablesOnly (rcbRef : Option Str) (before after : RcbServer) : Prop :=
  ∀ reference, (after reference).rptEna = true →
    (before reference).rptEna = true ∨ rcbRef.map cString = some reference

/-- What is returned for a control block that is picked or not. -/
def returnedIf (rcbRef : Str) (picked : Bool) : Option Str :=
  bif picked then some rcbRef else none

theorem EnablesOnly.refl (rcbRef : Option Str) (server : RcbServer) :
    EnablesOnly rcbRef server server := fun _ h => Or.inl h

theorem EnablesOnly.trans {rcbRef : Option Str} {s s' s'' : RcbServer}
    (h : EnablesOnly rcbRef s s') (h' : EnablesOnly rcbRef s' s'') : EnablesOnly rcbRef s s'' := by
  intro reference hafter
  rcases h' reference hafter with hbetween | hsame
  · exact h reference hbetween
  · exact Or.inr hsame

theorem EnablesOnly.of_none {s s' : RcbServer} (h : EnablesOnly none s s')
    (rcbRef : Option Str) : EnablesOnly rcbRef s s' := by
  intro reference hafter
  rcases h reference hafter with hbefore | hnone
  · exact Or.inl hbefore
  · cases hnone

section

variable (reply : ℤ) (request : RcbRequest) (rcbRef : Str) (rcb : RcbAttributes)
  (mask : BitVec 32) (server : RcbServer)

/-- A write that leaves the flag out, or clears it, enables nothing. -/
theorem writeRCB_enablesOnly_none
    (hwritten : mask &&& RCB_ELEMENT_RPT_ENA = 0 ∨ rcb.rptEna = false) :
    EnablesOnly none server (writeRCB reply request rcbRef rcb mask server).2 := by
  intro reference hafter
  by_cases href : reference = cString rcbRef
  · subst href
    left
    rw [writeRCB_snd_self] at hafter
    by_cases hreply : reply = IED_ERROR_OK
    · rw [if_pos hreply] at hafter
      rcases hwritten with hmask | hcleared
      · simpa [RcbAttributes.store, hmask] using hafter
      · simp only [RcbAttributes.store, hcleared] at hafter
        split at hafter
        next => cases hafter
        next => exact hafter
    · rw [if_neg hreply] at hafter
      exact hafter
  · rw [writeRCB_snd_of_ne _ _ _ _ _ _ href] at hafter
    exact Or.inl hafter

theorem setRptEna_enablesOnly :
    EnablesOnly (returnedIf rcbRef (reply == IED_ERROR_OK)) server
      (setRptEna reply rcbRef true server).2 := by
  by_cases hreply : reply = IED_ERROR_OK
  · intro reference hafter
    by_cases href : reference = cString rcbRef
    · simp [returnedIf, hreply, href]
    · unfold setRptEna at hafter
      rw [writeRCB_snd_of_ne _ _ _ _ _ _ href] at hafter
      exact Or.inl hafter
  · have hkept : (setRptEna reply rcbRef true server).2 = server :=
      writeRCB_snd_of_failed _ _ _ _ _ _ hreply
    rw [hkept]
    exact .refl _ _

end

section

variable (replies : CandidateReplies) (datasetRef rcbRef : Str) (server : RcbServer)

theorem configureStates_passes :
    Passes (EnablesOnly (returnedIf rcbRef (configureAndEnable replies rcbRef server).1)) server
      (configureStates replies rcbRef server) (configureAndEnable replies rcbRef server).2 := by
  have hwrite {mask : BitVec 32} (hmask : mask &&& RCB_ELEMENT_RPT_ENA = 0) (returned : Option Str)
      (reply : ℤ) (request : RcbRequest) (rcb : RcbAttributes) (server : RcbServer) :
      EnablesOnly returned server (writeRCB reply request rcbRef rcb mask server).2 :=
    (writeRCB_enablesOnly_none _ _ _ _ _ _ (Or.inl hmask)).of_none _
  rw [configureAndEnable_fst]
  apply Passes.step (hwrite rfl _ _ _ _ _)
  apply Passes.step (hwrite rfl _ _ _ _ _)
  apply Passes.step (hwrite rfl _ _ _ _ _)
  apply Passes.step _ (.done _)
  exact setRptEna_enablesOnly replies.enable rcbRef _

/-- A try enables its control block if it picks it, and no other. -/
theorem tryStates_passes :
    Passes (EnablesOnly (returnedIf rcbRef (tryCandidate replies datasetRef rcbRef server).1))
      server (tryStates replies datasetRef rcbRef server)
      (tryCandidate replies datasetRef rcbRef server).2 := by
  have hconfigure := configureStates_passes replies rcbRef
  have hdisable (returned : Option Str) :
      EnablesOnly returned server (setRptEna replies.disable rcbRef false server).2 :=
    (writeRCB_enablesOnly_none _ _ _ _ _ _ (Or.inr rfl)).of_none _
  unfold tryCandidate tryStates
  cases hread : getRCBValues replies.read rcbRef server with
  | error err => exact .done _
  | ok rcb =>
      dsimp only
      by_cases hsame : sameDataSet rcb.datSet datasetRef = true
      · rw [if_pos hsame, if_pos hsame]
        by_cases hena : rcb.ena = true
        · rw [if_pos hena, if_pos hena]
          generalize setRptEna replies.disable rcbRef false server = written at hdisable ⊢
          obtain ⟨err, disabled⟩ := written
          cases err with
          | some err => exact .step (hdisable _) (.done _)
          | none =>
              dsimp only
              cases getRCBValues replies.reread rcbRef disabled with
              | error err => exact .step (hdisable _) (.done _)
              | ok rcb =>
                  dsimp only
                  by_cases hstill : rcb.ena = true
                  · rw [if_pos hstill, if_pos hstill]
                    exact .step (hdisable _) (.done _)
                  · rw [if_neg hstill, if_neg hstill]
                    exact .step (hdisable _) (hconfigure disabled)
        · rw [if_neg hena, if_neg hena]
          exact hconfigure server
      · rw [if_neg hsame, if_neg hsame]
        exact .done _

/-- The control block of a try that picks it is enabled. -/
theorem tryCandidate_snd_rptEna_of_picks
    (hpicks : Attempt.picks datasetRef ⟨rcbRef, replies, server (cString rcbRef)⟩ = true) :
    ((tryCandidate replies datasetRef rcbRef server).2 (cString rcbRef)).rptEna = true := by
  simp only [Attempt.picks, Attempt.takesOver, Bool.and_eq_true, Bool.or_eq_true,
    Bool.not_eq_true', beq_iff_eq] at hpicks
  obtain ⟨⟨hconsidered, htakes⟩, henable⟩ := hpicks
  rcases htakes with hfree | ⟨hdisable, hreread⟩
  · rw [tryCandidate_of_free replies datasetRef rcbRef server hconsidered hfree,
      configureAndEnable_snd_rptEna, henable]
    rfl
  · by_cases hfree : (server (cString rcbRef)).rptEna = true
    · rw [tryCandidate_of_enabled replies datasetRef rcbRef server hconsidered hfree,
        if_pos hdisable]
      simp only [hreread, if_true]
      rw [configureAndEnable_snd_rptEna, henable]
      rfl
    · rw [tryCandidate_of_free replies datasetRef rcbRef server hconsidered
        (Bool.not_eq_true _ ▸ hfree), configureAndEnable_snd_rptEna, henable]
      rfl

end

/-! ## The loop -/

section

variable (lnRef datasetRef : Str)

theorem loopStates_passes (replies : ℕ → CandidateReplies) (names : List Str)
    (server : RcbServer) :
    Passes (EnablesOnly (tryCandidates lnRef datasetRef replies names server).1) server
      (loopStates lnRef datasetRef replies names server)
      (tryCandidates lnRef datasetRef replies names server).2 := by
  induction names generalizing replies server with
  | nil => exact .done _
  | cons name names ih =>
      unfold tryCandidates loopStates
      by_cases htried : hasPrefix name (lit "rcbStatDR") = true
      · rw [if_pos htried, if_pos htried]
        have htry := tryStates_passes (replies 0) datasetRef (rcbReference lnRef name) server
        dsimp only
        generalize tryCandidate (replies 0) datasetRef (rcbReference lnRef name) server = result
          at htry ⊢
        obtain ⟨picked, after⟩ := result
        cases picked with
        | true => exact htry
        | false => exact (htry.mono fun s s' h => h.of_none _).append (ih _ after)
      · rw [if_neg htried, if_neg htried]
        exact ih _ server

/-- A control block that is picked has been read with this data set. -/
theorem getRCBValues_of_picked {replies : CandidateReplies} {rcbRef : Str} {server : RcbServer}
    (hpicked : (tryCandidate replies datasetRef rcbRef server).1 = true) :
    ∃ rcb, getRCBValues replies.read rcbRef server = .ok rcb ∧
      sameDataSet rcb.datSet datasetRef = true := by
  unfold tryCandidate at hpicked
  cases hread : getRCBValues replies.read rcbRef server with
  | error err =>
      rw [hread] at hpicked
      cases hpicked
  | ok rcb =>
      rw [hread] at hpicked
      by_cases hsame : sameDataSet rcb.datSet datasetRef = true
      · exact ⟨rcb, rfl, hsame⟩
      · simp [hsame] at hpicked

/-- The reference is that of a listed name, whose data set was read on the way. -/
theorem listed_of_returned (replies : ℕ → CandidateReplies) (names : List Str)
    (server : RcbServer) {rcbRef : Str}
    (hreturned : (tryCandidates lnRef datasetRef replies names server).1 = some rcbRef) :
    ∃ i name, names[i]? = some name ∧ hasPrefix name (lit "rcbStatDR") = true ∧
      rcbRef = rcbReference lnRef name ∧
      ∃ s ∈ server :: loopStates lnRef datasetRef replies names server, ∃ rcb,
        getRCBValues (replies i).read rcbRef s = .ok rcb ∧
          sameDataSet rcb.datSet datasetRef = true := by
  induction names generalizing replies server with
  | nil => cases hreturned
  | cons name names ih =>
      unfold tryCandidates at hreturned
      unfold loopStates
      by_cases htried : hasPrefix name (lit "rcbStatDR") = true
      · have hlast :=
          (tryStates_passes (replies 0) datasetRef (rcbReference lnRef name) server).last_mem
        have hread :=
          @getRCBValues_of_picked datasetRef (replies 0) (rcbReference lnRef name) server
        rw [if_pos htried] at hreturned ⊢
        dsimp only at hreturned ⊢
        generalize tryCandidate (replies 0) datasetRef (rcbReference lnRef name) server = result
          at hreturned hlast hread ⊢
        obtain ⟨picked, after⟩ := result
        cases picked with
        | true =>
            obtain rfl := Option.some.inj hreturned
            exact ⟨0, name, rfl, htried, rfl, server, List.mem_cons_self, hread rfl⟩
        | false =>
            obtain ⟨i, other, hother, hprefix, href, s, hs, hrcb⟩ := ih _ after hreturned
            refine ⟨i + 1, other, hother, hprefix, href, s, ?_, hrcb⟩
            dsimp only
            rw [← List.cons_append]
            rcases List.mem_cons.mp hs with rfl | hs
            · exact List.mem_append_left _ hlast
            · exact List.mem_append_right _ hs
      · rw [if_neg htried] at hreturned ⊢
        obtain ⟨i, hlisted⟩ := ih _ server hreturned
        exact ⟨i + 1, hlisted⟩

/-- The control block whose reference is returned is enabled. -/
theorem tryCandidates_snd_rptEna_of_returned (replies : ℕ → CandidateReplies) (names : List Str)
    (server : RcbServer) {rcbRef : Str}
    (hreturned : (tryCandidates lnRef datasetRef replies names server).1 = some rcbRef) :
    ((tryCandidates lnRef datasetRef replies names server).2 (cString rcbRef)).rptEna = true := by
  induction names generalizing replies server with
  | nil => cases hreturned
  | cons name names ih =>
      cases htried : hasPrefix name (lit "rcbStatDR") with
      | false =>
          have hloop := (loop_cons_of_skipped lnRef datasetRef replies name names server htried).1
          rw [hloop] at hreturned ⊢
          exact ih _ _ hreturned
      | true =>
          cases hpicks : (attemptAt lnRef (replies 0) name server).picks datasetRef with
          | true =>
              have hloop :=
                (loop_cons_of_picks lnRef datasetRef replies name names server htried hpicks).1
              rw [hloop] at hreturned ⊢
              obtain rfl := Option.some.inj hreturned
              exact tryCandidate_snd_rptEna_of_picks _ _ _ _ hpicks
          | false =>
              have hloop :=
                (loop_cons_of_given_up lnRef datasetRef replies name names server htried hpicks).1
              rw [hloop] at hreturned ⊢
              exact ih _ _ hreturned

end

/-! ## The call -/

/-- What is asked of a call that returns a reference. -/
structure EnablesReturned (directory : Except IedError (List Str))
    (replies : ℕ → CandidateReplies) (ld ln datasetRef : Str) (server : RcbServer)
    (rcbRef : Str) : Prop where
  listed : ∃ names i name, directory = .ok names ∧ names[i]? = some name ∧
    hasPrefix name (lit "rcbStatDR") = true ∧ rcbRef = rcbReference (ld ++ lit "/" ++ ln) name ∧
    ∃ s ∈ server :: pickStates directory replies ld ln datasetRef server, ∃ rcb,
      getRCBValues (replies i).read rcbRef s = .ok rcb ∧ sameDataSet rcb.datSet datasetRef = true
  enabled : ((pickAndEnableStatDRBRCB directory replies ld ln datasetRef server).2
    (cString rcbRef)).rptEna = true
  cleanedUp : ∀ reply later, (cleanup reply rcbRef later).1 = none →
    ((cleanup reply rcbRef later).2 (cString rcbRef)).rptEna = false

theorem cleanup_snd_rptEna {reply : ℤ} {rcbRef : Str} {server : RcbServer}
    (h : (cleanup reply rcbRef server).1 = none) :
    ((cleanup reply rcbRef server).2 (cString rcbRef)).rptEna = false := by
  have hreply : reply = IED_ERROR_OK := (writeRCB_fst_eq_none_iff ..).mp h
  unfold cleanup
  rw [setRptEna_snd_rptEna, if_pos hreply]

/-- A call enables the control block that it returns and, at no moment, another one. -/
theorem pickAndEnableStatDRBRCB_enables_returned (directory : Except IedError (List Str))
    (replies : ℕ → CandidateReplies) (ld ln datasetRef : Str) (server : RcbServer) :
    let result := pickAndEnableStatDRBRCB directory replies ld ln datasetRef server
    (∀ rcbRef, result.1 = .ok rcbRef →
      EnablesReturned directory replies ld ln datasetRef server rcbRef) ∧
    EnablesOnly result.1.toOption server result.2 ∧
    Passes (EnablesOnly result.1.toOption) server
      (pickStates directory replies ld ln datasetRef server) result.2 := by
  intro result
  have hpasses : Passes (EnablesOnly result.1.toOption) server
      (pickStates directory replies ld ln datasetRef server) result.2 := by
    unfold result pickAndEnableStatDRBRCB pickStates
    cases directory with
    | error err => exact .done _
    | ok names =>
        have hloop := loopStates_passes (ld ++ lit "/" ++ ln) datasetRef replies names server
        dsimp only
        generalize tryCandidates (ld ++ lit "/" ++ ln) datasetRef replies names server = loop
          at hloop ⊢
        obtain ⟨returned, after⟩ := loop
        cases returned <;> exact hloop
  refine ⟨?_, hpasses.rel (.refl _) fun _ _ _ => .trans, hpasses⟩
  intro rcbRef hresult
  cases directory with
  | error err => cases hresult
  | ok names =>
      have hloop : tryCandidates (ld ++ lit "/" ++ ln) datasetRef replies names server =
          (some rcbRef, result.2) := by
        unfold result pickAndEnableStatDRBRCB at hresult ⊢
        dsimp only at hresult ⊢
        generalize tryCandidates (ld ++ lit "/" ++ ln) datasetRef replies names server = loop
          at hresult ⊢
        obtain ⟨returned, after⟩ := loop
        cases returned with
        | none => cases hresult
        | some returned =>
            obtain rfl := Except.ok.inj hresult
            rfl
      have hreturned := congrArg Prod.fst hloop
      obtain ⟨i, name, hlisted⟩ := listed_of_returned _ datasetRef replies names server hreturned
      have henabled :=
        tryCandidates_snd_rptEna_of_returned _ datasetRef replies names server hreturned
      rw [hloop] at henabled
      exact ⟨⟨names, i, name, rfl, hlisted⟩, henabled, fun _ _ => cleanup_snd_rptEna⟩

theorem pickAndEnableStatDRBRCB_enables_returned_interrupted :
    interruptedPick.1 = .ok (lit "IED1LD0/LLN0.BR.rcbStatDR02") ∧
    EnablesReturned (.ok [lit "rcbStatDR01", lit "rcbStatDR02"]) interruptedReplies
      (lit "IED1LD0") (lit "LLN0") (lit "IED1LD0/LLN0.FileEvts") enabledServer
      (lit "IED1LD0/LLN0.BR.rcbStatDR02") :=
  ⟨rfl, (pickAndEnableStatDRBRCB_enables_returned _ interruptedReplies _ _ _ _).1 _ rfl⟩

end Iec61850.Mms
