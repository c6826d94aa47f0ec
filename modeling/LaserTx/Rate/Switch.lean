import LaserTx.Rtl.RateSwitch

/-!
# What one edge of the rate switch can do

The states fall into resting ones (`idle`, `done`, `error`) and engaged ones;
a switch proper lasts from the edge that leaves `validate` to the edge that
enters `done` or `error`.  The lemmas here say once how an edge treats the
target registers, the current rate, `rate_busy` and the state itself.
-/

namespace LaserTx.Rate

open Rtl.RateSwitch

/-- The states of a switch that has passed `validate`. -/
def switching : RateState → Bool
  | .quiesceTx | .assertReset | .programGtDrp | .programMmcmDrp | .releaseReset
  | .waitMmcmResetRelease | .waitLock | .verifyRate => true
  | _ => false

/-- The states in which a request is being worked on. -/
def engaged : RateState → Bool
  | .idle | .done | .error => false
  | _ => true

/-- A GT DRP access that times out at this edge. -/
def gtDrpExpired (p : Params) (s : State) (i : Inputs) : Bool :=
  !i.gtDrpRdy && decide (p.drpTimeoutCycles ≤ s.timeoutCount)

/-- The edge is the last one of the switch, or of its validation. -/
def endsSwitch (p : Params) (s : State) (i : Inputs) : Bool :=
  match s.rateState with
  | .validate => !targetSupported s || targetIsCurrent s
  | .quiesceTx => !laserIdle i && decide (p.txQuiesceTimeout ≤ s.timeoutCount)
  | .programGtDrp =>
      match s.gtStep with
      | .readOutdivWait | .writeOutdivWait => gtDrpExpired p s i
      | .readbackWait =>
          gtDrpExpired p s i ||
            (i.gtDrpRdy && decide (outdivBits i.gtDrpDo ≠ s.target.targetTxoutDivEnc))
      | .done => true
      | _ => false
  | .programMmcmDrp =>
      decide (s.mmcmIndex < mmcmTableLen) && decide (s.timeoutCount ≠ 0#32) && !i.mmcmDrpRdy &&
        decide (p.drpTimeoutCycles ≤ s.timeoutCount)
  | .waitLock =>
      !(i.txMmcmLockedSync && i.cplllockSync && i.txresetdoneSync && i.gtReadyCtrl) &&
        decide (p.lockTimeoutCycles ≤ s.timeoutCount)
  | .verifyRate => decide (¬ s.verifyCount < p.verifySettleCycles)
  | _ => false

variable {p : Params} {s : State} {i : Inputs}

theorem step_running (running : i.rst = false) :
    step p s i = stepBranch p s i (latch p s i) := by
  unfold step
  rw [running]
  rfl

/-- Reset leaves the machine in `RATE_IDLE`. -/
theorem running_of_active (active : (step p s i).rateState ≠ .idle) : i.rst = false := by
  cases resets : i.rst with
  | true =>
      refine absurd ?_ active
      unfold step
      rw [resets]
      rfl
  | false => rfl

/-- States apart from the three resting ones are engaged. -/
theorem engaged_of_inside {states : RateState → Bool} (idle : states .idle = false)
    (done : states .done = false) (error : states .error = false) {state : RateState}
    (inside : states state = true) : engaged state = true := by
  cases state with
  | idle => exact absurd (idle.symm.trans inside) Bool.false_ne_true
  | done => exact absurd (done.symm.trans inside) Bool.false_ne_true
  | error => exact absurd (error.symm.trans inside) Bool.false_ne_true
  | _ => rfl

theorem engaged_of_switching {state : RateState} (inside : switching state = true) :
    engaged state = true := engaged_of_inside rfl rfl rfl inside

/-- An index inside the table does not wrap. -/
theorem toNat_index_succ {index : BitVec 5} (inTable : index < mmcmTableLen) :
    (index + 1#5).toNat = index.toNat + 1 := by
  have bound : index.toNat < 15 := BitVec.lt_def.mp inTable
  rw [BitVec.toNat_add]
  exact Nat.mod_eq_of_lt (by change index.toNat + 1 < 32; omega)

/-! ## Registers the branches leave alone -/

/-- No state writes the target registers or the request edge detector; only the
request latch does. -/
theorem stepBranch_latched (next : State) :
    (stepBranch p s i next).target = next.target ∧
      (stepBranch p s i next).rateReqToggleD = next.rateReqToggleD := by
  unfold stepBranch
  cases s.rateState
  all_goals
    dsimp only [stepIdle, stepDone, stepError, stepValidate, stepQuiesceTx, stepAssertReset,
      stepProgramGtDrp, stepProgramMmcmDrp, stepReleaseReset, stepWaitMmcmResetRelease,
      stepWaitLock, stepVerifyRate, gtDrpWaiting, lockMissing]
    repeat' split
  all_goals exact ⟨rfl, rfl⟩

/-- Only the commit of `RATE_VERIFY_RATE` writes the current rate. -/
theorem stepBranch_current (next : State) (other : s.rateState ≠ .verifyRate) :
    (stepBranch p s i next).currentRateId = next.currentRateId ∧
      (stepBranch p s i next).currentRateMbps = next.currentRateMbps := by
  unfold stepBranch
  cases state : s.rateState
  case verifyRate => exact absurd state other
  all_goals
    dsimp only [stepIdle, stepDone, stepError, stepValidate, stepQuiesceTx, stepAssertReset,
      stepProgramGtDrp, stepProgramMmcmDrp, stepReleaseReset, stepWaitMmcmResetRelease,
      stepWaitLock, gtDrpWaiting, lockMissing]
    repeat' split
  all_goals exact ⟨rfl, rfl⟩

/-- An engaged state leaves `request_pending` to the request latch. -/
theorem stepBranch_pending (next : State) (busy : engaged s.rateState = true) :
    (stepBranch p s i next).requestPending = next.requestPending := by
  unfold stepBranch
  cases state : s.rateState
  case idle | done | error =>
    rw [state] at busy
    exact absurd busy Bool.false_ne_true
  all_goals
    dsimp only [stepValidate, stepQuiesceTx, stepAssertReset, stepProgramGtDrp,
      stepProgramMmcmDrp, stepReleaseReset, stepWaitMmcmResetRelease, stepWaitLock,
      stepVerifyRate, gtDrpWaiting, lockMissing]
    repeat' split
  all_goals rfl

/-! ## The next state -/

/-- A resting state serves a pending request at once. -/
theorem stepBranch_accept (next : State) (rest : engaged s.rateState = false)
    (pending : s.requestPending = true) :
    (stepBranch p s i next).rateState = .request ∧ (stepBranch p s i next).rateBusy = true ∧
      (stepBranch p s i next).requestPending = false := by
  unfold stepBranch
  cases state : s.rateState
  case idle =>
    dsimp only [stepIdle]
    rw [pending]
    exact ⟨rfl, rfl, rfl⟩
  case done =>
    dsimp only [stepDone]
    rw [pending]
    exact ⟨rfl, rfl, rfl⟩
  case error =>
    dsimp only [stepError]
    rw [pending]
    exact ⟨rfl, rfl, rfl⟩
  all_goals
    rw [state] at rest
    exact absurd rest.symm Bool.false_ne_true

/-- A resting state without request stays as it is. -/
theorem stepBranch_rest (next : State) (rest : engaged s.rateState = false)
    (none : s.requestPending = false) :
    (stepBranch p s i next).rateState = next.rateState ∧
      (stepBranch p s i next).requestPending = next.requestPending := by
  unfold stepBranch
  cases state : s.rateState
  case idle =>
    dsimp only [stepIdle]
    rw [none]
    exact ⟨rfl, rfl⟩
  case done =>
    dsimp only [stepDone]
    rw [none]
    exact ⟨rfl, rfl⟩
  case error =>
    dsimp only [stepError]
    rw [none]
    exact ⟨rfl, rfl⟩
  all_goals
    rw [state] at rest
    exact absurd rest.symm Bool.false_ne_true

/-- `RATE_VALIDATE` ends in `RATE_DONE`, `RATE_ERROR` or the first state of a switch. -/
theorem stepBranch_validate (next : State) (state : s.rateState = .validate) :
    (stepBranch p s i next).rateState =
      if targetSupported s then if targetIsCurrent s then .done else .quiesceTx else .error := by
  unfold stepBranch
  rw [state]
  dsimp only [stepValidate]
  cases targetSupported s with
  | false => rfl
  | true =>
      cases targetIsCurrent s with
      | false => rfl
      | true => rfl

/-- A switch goes on until `endsSwitch`. -/
theorem stepBranch_goesOn (next : State) (same : next.rateState = s.rateState)
    (inside : switching s.rateState = true) (goesOn : endsSwitch p s i = false) :
    switching (stepBranch p s i next).rateState = true := by
  unfold stepBranch
  cases state : s.rateState
  all_goals
    dsimp only [stepQuiesceTx, stepAssertReset, stepProgramGtDrp, stepProgramMmcmDrp,
      stepReleaseReset, stepWaitMmcmResetRelease, stepWaitLock, stepVerifyRate, gtDrpWaiting,
      lockMissing]
    repeat' split
  all_goals simp_all [switching, endsSwitch, gtDrpExpired, assertResets, releaseResets]

/-- The last edge of a switch enters `RATE_ERROR` or, from `RATE_VERIFY_RATE`, `RATE_DONE`. -/
theorem stepBranch_ends (next : State) (inside : switching s.rateState = true)
    (ends : endsSwitch p s i = true) :
    (stepBranch p s i next).rateState = .error ∨
      s.rateState = .verifyRate ∧ (stepBranch p s i next).rateState = .done := by
  unfold stepBranch
  cases state : s.rateState
  all_goals
    dsimp only [stepQuiesceTx, stepAssertReset, stepProgramGtDrp, stepProgramMmcmDrp,
      stepReleaseReset, stepWaitMmcmResetRelease, stepWaitLock, stepVerifyRate, gtDrpWaiting,
      lockMissing]
    repeat' split
  all_goals simp_all [switching, endsSwitch, gtDrpExpired, setError, assertResets]

/-- `rate_busy` is up in every engaged state. -/
theorem stepBranch_busy (next : State) (same : next.rateState = s.rateState)
    (busy : engaged s.rateState = true → next.rateBusy = true)
    (inside : engaged (stepBranch p s i next).rateState = true) :
    (stepBranch p s i next).rateBusy = true := by
  cases rest : engaged s.rateState with
  | false =>
      cases pending : s.requestPending with
      | true => exact (stepBranch_accept next rest pending).2.1
      | false =>
          rw [(stepBranch_rest next rest pending).1, same, rest] at inside
          exact absurd inside Bool.false_ne_true
  | true =>
      have up := busy rest
      revert inside
      unfold stepBranch
      cases state : s.rateState
      case idle | done | error =>
        rw [state] at rest
        exact absurd rest Bool.false_ne_true
      all_goals
        dsimp only [stepValidate, stepQuiesceTx, stepAssertReset, stepProgramGtDrp,
          stepProgramMmcmDrp, stepReleaseReset, stepWaitMmcmResetRelease, stepWaitLock,
          stepVerifyRate, gtDrpWaiting, lockMissing]
        repeat' split
      all_goals first | exact fun _ => up | exact fun ended => absurd ended Bool.false_ne_true

/-- `rate_busy` is down in every resting state. -/
theorem stepBranch_free (next : State) (same : next.rateState = s.rateState)
    (rest : engaged (stepBranch p s i next).rateState = false) :
    (stepBranch p s i next).rateBusy = false := by
  revert rest
  unfold stepBranch
  cases state : s.rateState
  all_goals
    have staying := congrArg engaged (same.trans state)
    dsimp only [stepIdle, stepDone, stepError, stepValidate, stepQuiesceTx, stepAssertReset,
      stepProgramGtDrp, stepProgramMmcmDrp, stepReleaseReset, stepWaitMmcmResetRelease,
      stepWaitLock, stepVerifyRate, gtDrpWaiting, lockMissing]
    repeat' split
  all_goals
    first
      | exact fun _ => rfl
      | exact fun rest => absurd rest.symm Bool.false_ne_true
      | exact fun rest => absurd (rest.symm.trans staying) Bool.false_ne_true

/-- `rate_error` is up in `RATE_ERROR` and nowhere else. -/
theorem stepBranch_error (next : State) (same : next.rateState = s.rateState)
    (holds : next.rateError = decide (next.rateState = .error)) :
    (stepBranch p s i next).rateError = decide ((stepBranch p s i next).rateState = .error) := by
  unfold stepBranch
  cases state : s.rateState
  case error =>
    dsimp only [stepError]
    split
    · rfl
    · exact holds
  all_goals
    have off : next.rateError = false := by
      rw [holds, same, state]
      rfl
    dsimp only [stepIdle, stepDone, stepValidate, stepQuiesceTx, stepAssertReset,
      stepProgramGtDrp, stepProgramMmcmDrp, stepReleaseReset, stepWaitMmcmResetRelease,
      stepWaitLock, stepVerifyRate, gtDrpWaiting, lockMissing]
    repeat' split
  all_goals first | rfl | exact holds | exact off

/-! ## Edges outside reset -/

section Edge

variable (running : i.rst = false)
include running

theorem step_target :
    (step p s i).target =
      if requestEvent s i then targetFor p (requestedRateId i) else s.target := by
  rw [step_running running, (stepBranch_latched _).1]
  rfl

theorem step_current (other : s.rateState ≠ .verifyRate) :
    (step p s i).currentRateId = s.currentRateId ∧
      (step p s i).currentRateMbps = s.currentRateMbps := by
  rw [step_running running]
  exact stepBranch_current _ other

/-- The commit. -/
theorem step_verified (state : s.rateState = .verifyRate)
    (ended : (step p s i).rateState = .done) :
    (step p s i).currentRateId = s.target.targetRateId ∧
      (step p s i).currentRateMbps = s.target.targetRateMbps ∧
      i.txusrclk2AliveAxi = true ∧ freqInWindow s.target i = true := by
  rw [step_running running] at ended ⊢
  unfold stepBranch at ended ⊢
  rw [state] at ended ⊢
  dsimp only [stepVerifyRate] at ended ⊢
  split at ended
  · exact nomatch state.symm.trans ended
  · rename_i settled
    rw [if_neg settled]
    split at ended
    · exact nomatch ended
    · rename_i alive
      rw [if_neg alive]
      split at ended
      · exact nomatch ended
      · rename_i inWindow
        rw [if_neg inWindow]
        simp only [Bool.not_eq_true', Bool.not_eq_false] at alive inWindow
        exact ⟨rfl, rfl, alive, inWindow⟩

/-- Any other edge of `RATE_VERIFY_RATE` keeps the current rate. -/
theorem step_unverified (state : s.rateState = .verifyRate)
    (goesOn : (step p s i).rateState ≠ .done) :
    (step p s i).currentRateId = s.currentRateId ∧
      (step p s i).currentRateMbps = s.currentRateMbps := by
  rw [step_running running] at goesOn ⊢
  unfold stepBranch at goesOn ⊢
  rw [state] at goesOn ⊢
  dsimp only [stepVerifyRate] at goesOn ⊢
  split
  · exact ⟨rfl, rfl⟩
  · split
    · exact ⟨rfl, rfl⟩
    · split
      · exact ⟨rfl, rfl⟩
      · rename_i settled alive inWindow
        rw [if_neg settled, if_neg alive, if_neg inWindow] at goesOn
        exact absurd rfl goesOn

/-- How a switch can be under way after an edge. -/
theorem switching_step (inside : switching (step p s i).rateState = true) :
    (s.rateState = .validate ∧ targetSupported s = true ∧ targetIsCurrent s = false) ∨
      (switching s.rateState = true ∧ endsSwitch p s i = false) := by
  rw [step_running running] at inside
  cases rest : engaged s.rateState with
  | false =>
      cases pending : s.requestPending with
      | true =>
          rw [(stepBranch_accept _ rest pending).1] at inside
          exact absurd inside Bool.false_ne_true
      | false =>
          rw [(stepBranch_rest _ rest pending).1] at inside
          change switching s.rateState = true at inside
          rw [engaged_of_switching inside] at rest
          exact absurd rest.symm Bool.false_ne_true
  | true =>
      cases already : switching s.rateState with
      | true =>
          refine Or.inr ⟨rfl, ?_⟩
          cases ends : endsSwitch p s i with
          | false => rfl
          | true =>
              rcases stepBranch_ends (latch p s i) already ends with failed | ⟨_, ended⟩
              · rw [failed] at inside
                exact absurd inside Bool.false_ne_true
              · rw [ended] at inside
                exact absurd inside Bool.false_ne_true
      | false =>
          left
          cases state : s.rateState
          case validate =>
            rw [stepBranch_validate _ state] at inside
            refine ⟨rfl, ?_⟩
            split at inside
            · rename_i supported
              split at inside
              · exact absurd inside Bool.false_ne_true
              · exact ⟨supported, (Bool.not_eq_true _).mp (by assumption)⟩
            · exact absurd inside Bool.false_ne_true
          case request =>
            unfold stepBranch at inside
            rw [state] at inside
            exact absurd inside Bool.false_ne_true
          all_goals
            rw [state] at rest already
            first
              | exact absurd rest Bool.false_ne_true
              | exact absurd already.symm Bool.false_ne_true

theorem step_toggle : (step p s i).rateReqToggleD = i.gpioCtrl.getLsbD 15 := by
  rw [step_running running, (stepBranch_latched _).2]
  rfl

theorem step_holding (state : s.rateState = .assertReset)
    (early : s.resetHoldCount < p.resetHoldCycles) :
    step p s i =
      { assertResets (latch p s i) with resetHoldCount := s.resetHoldCount + 1#32 } := by
  rw [step_running running]
  unfold stepBranch
  rw [state]
  exact if_neg (BitVec.not_le.mpr early)

theorem step_resetReleasing (state : s.rateState = .waitMmcmResetRelease)
    (early : s.timeoutCount < p.resetHoldCycles) :
    step p s i =
      { releaseResets (latch p s i) with timeoutCount := s.timeoutCount + 1#32 } := by
  rw [step_running running]
  unfold stepBranch
  rw [state]
  exact if_neg (BitVec.not_le.mpr early)

theorem step_settling (state : s.rateState = .verifyRate)
    (early : s.verifyCount < p.verifySettleCycles) :
    step p s i =
      { latch p s i with
        applyEnableBlocked := true
        rateGtTxReset := false
        rateTxuserrdyBlock := false
        rateMmcmReset := false
        verifyCount := s.verifyCount + 1#32 } := by
  rw [step_running running]
  unfold stepBranch
  rw [state]
  exact if_pos early

theorem step_quiesceWaiting (state : s.rateState = .quiesceTx) (busy : laserIdle i = false)
    (early : s.timeoutCount < p.txQuiesceTimeout) :
    step p s i = { latch p s i with timeoutCount := s.timeoutCount + 1#32 } := by
  rw [step_running running]
  unfold stepBranch
  rw [state]
  dsimp only [stepQuiesceTx]
  rw [busy, if_neg Bool.false_ne_true, if_neg (BitVec.not_le.mpr early)]

theorem step_quiesceExpired (state : s.rateState = .quiesceTx) (busy : laserIdle i = false)
    (late : p.txQuiesceTimeout ≤ s.timeoutCount) :
    step p s i = setError rateErrTxQuiesceTimeout (latch p s i) := by
  rw [step_running running]
  unfold stepBranch
  rw [state]
  dsimp only [stepQuiesceTx]
  rw [busy, if_neg Bool.false_ne_true, if_pos late]

/-- The three steps that wait for the GT ready. -/
def gtWaits : GtStep → Bool
  | .readOutdivWait | .writeOutdivWait | .readbackWait => true
  | _ => false

theorem step_gtWaiting (state : s.rateState = .programGtDrp) (waits : gtWaits s.gtStep = true)
    (unready : i.gtDrpRdy = false) (early : s.timeoutCount < p.drpTimeoutCycles) :
    step p s i =
      { assertResets (latch p s i) with
        gtDrpBusy := true
        timeoutCount := s.timeoutCount + 1#32 } := by
  rw [step_running running]
  unfold stepBranch
  rw [state]
  dsimp only [stepProgramGtDrp, gtDrpWaiting]
  cases at_ : s.gtStep
  case readOutdivWait | writeOutdivWait | readbackWait =>
    dsimp only
    rw [unready, if_neg Bool.false_ne_true, if_neg (BitVec.not_le.mpr early)]
  all_goals
    rw [at_] at waits
    exact absurd waits Bool.false_ne_true

/-! ### Uses of the target -/

theorem step_writeOutdiv (state : s.rateState = .programGtDrp) (at_ : s.gtStep = .writeOutdiv) :
    step p s i =
      { assertResets (latch p s i) with
        gtDrpBusy := true
        gtDrpAddr := gtxDrpAddrOutDiv
        gtDrpDi := outdivWord s.gtOutdivReadback s.target.targetTxoutDivEnc
        gtDrpEn := true
        gtDrpWe := true
        gtDrpWriteAttempted := true
        gtStep := .writeOutdivWait
        timeoutCount := 0#32 } := by
  rw [step_running running]
  unfold stepBranch
  rw [state]
  dsimp only [stepProgramGtDrp]
  rw [at_]

theorem step_readback (state : s.rateState = .programGtDrp) (at_ : s.gtStep = .readbackWait)
    (ready : i.gtDrpRdy = true) :
    (step p s i).rateState = .programMmcmDrp ↔
      outdivBits i.gtDrpDo = s.target.targetTxoutDivEnc := by
  rw [step_running running]
  unfold stepBranch
  rw [state]
  dsimp only [stepProgramGtDrp]
  rw [at_, ready]
  dsimp only
  rw [if_pos rfl]
  split
  · rename_i same
    exact ⟨fun _ => same, fun _ => rfl⟩
  · rename_i other
    exact ⟨fun ended => (nomatch ended), fun same => absurd same other⟩

theorem step_mmcmWrite (state : s.rateState = .programMmcmDrp)
    (inTable : s.mmcmIndex < mmcmTableLen) (fresh : s.timeoutCount = 0#32) :
    step p s i =
      { assertResets (latch p s i) with
        mmcmDrpBusy := true
        mmcmDrpAddr := mmcmAddrForIndex s.mmcmIndex
        mmcmDrpDi := mmcmDataForTarget s.target.targetRateId s.mmcmIndex
        mmcmDrpEn := true
        mmcmDrpWe := true
        mmcmDrpWriteAttempted := true
        timeoutCount := 1#32 } := by
  rw [step_running running]
  unfold stepBranch
  rw [state]
  dsimp only [stepProgramMmcmDrp]
  rw [if_pos inTable, if_pos fresh]

end Edge

/-! ## The invariant of undisturbed switches -/

theorem targetFor_rateId (p : Params) (rateId : BitVec 2) :
    (targetFor p rateId).targetRateId = rateId := by
  unfold targetFor
  split
  · rfl
  · split
    · rfl
    · rfl

/-- The controller knows a supported current rate, and during a switch its
target is the other one. -/
structure Consistent (p : Params) (s : State) : Prop where
  target : s.target = targetFor p s.target.targetRateId
  current : supported s.currentRateId = true
  mbps : s.currentRateMbps = (targetFor p s.currentRateId).targetRateMbps
  busy : engaged s.rateState = true → s.rateBusy = true
  validated : switching s.rateState = true →
    supported s.target.targetRateId = true ∧ s.target.targetRateId ≠ s.currentRateId

/-- A request that meets a validation or a switch carries the id already
latched, or arrives at the last edge. -/
def Steady (p : Params) (s : State) (i : Inputs) : Prop :=
  s.rateState = .validate ∨ switching s.rateState = true → endsSwitch p s i = false →
    requestEvent s i = true → requestedRateId i = s.target.targetRateId

theorem consistent_reset (p : Params) : Consistent p (reset p) :=
  { target := congrArg (targetFor p) (targetFor_rateId p rateIdNone).symm
    current := rfl
    mbps := rfl
    busy := fun engaged => absurd engaged Bool.false_ne_true
    validated := fun inside => absurd inside Bool.false_ne_true }

/-- A steady edge leaves the target alone while the switch goes on. -/
theorem Consistent.target_kept (holds : Consistent p s) (running : i.rst = false)
    (steady : Steady p s i) (inside : s.rateState = .validate ∨ switching s.rateState = true)
    (goesOn : endsSwitch p s i = false) : (step p s i).target = s.target := by
  rw [step_target running]
  split
  · rename_i event
    rw [steady inside goesOn event]
    exact holds.target.symm
  · rfl

theorem Consistent.step (holds : Consistent p s) (running : i.rst = false)
    (steady : Steady p s i) : Consistent p (step p s i) := by
  have commits : (Rtl.RateSwitch.step p s i).currentRateId = s.currentRateId ∧
        (Rtl.RateSwitch.step p s i).currentRateMbps = s.currentRateMbps ∨
      s.rateState = .verifyRate ∧ (Rtl.RateSwitch.step p s i).rateState = .done ∧
        (Rtl.RateSwitch.step p s i).currentRateId = s.target.targetRateId ∧
        (Rtl.RateSwitch.step p s i).currentRateMbps = s.target.targetRateMbps := by
    by_cases state : s.rateState = .verifyRate
    · by_cases ended : (Rtl.RateSwitch.step p s i).rateState = .done
      · have verified := step_verified running state ended
        exact Or.inr ⟨state, ended, verified.1, verified.2.1⟩
      · exact Or.inl (step_unverified running state ended)
    · exact Or.inl (step_current running state)
  refine
    { target := ?_, current := ?_, mbps := ?_, busy := ?_, validated := ?_ }
  · rw [step_target running]
    split
    · exact congrArg (targetFor p) (targetFor_rateId p _).symm
    · exact holds.target
  · rcases commits with ⟨same, _⟩ | ⟨state, _, committed, _⟩
    · rw [same]
      exact holds.current
    · rw [committed]
      exact (holds.validated (congrArg switching state)).1
  · rcases commits with ⟨same, sameMbps⟩ | ⟨state, _, committed, committedMbps⟩
    · rw [same, sameMbps]
      exact holds.mbps
    · rw [committed, committedMbps, ← holds.target]
  · intro inside
    rw [step_running running] at inside ⊢
    exact stepBranch_busy _ rfl holds.busy inside
  · intro inside
    have unchanged : (Rtl.RateSwitch.step p s i).currentRateId = s.currentRateId := by
      rcases commits with ⟨same, _⟩ | ⟨_, ended, _⟩
      · exact same
      · rw [ended] at inside
        exact absurd inside Bool.false_ne_true
    rw [unchanged]
    rcases switching_step running inside with ⟨state, known, other⟩ | ⟨already, goesOn⟩
    · have goesOn : endsSwitch p s i = false := by
        unfold endsSwitch
        rw [state]
        dsimp only
        rw [known, other]
        rfl
      rw [holds.target_kept running steady (Or.inl state) goesOn]
      refine ⟨known, fun same => ?_⟩
      unfold targetIsCurrent at other
      rw [known, decide_eq_true same] at other
      exact absurd other.symm Bool.false_ne_true
    · rw [holds.target_kept running steady (Or.inr already) goesOn]
      exact holds.validated already

end LaserTx.Rate
