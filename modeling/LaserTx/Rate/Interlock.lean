import LaserTx.Clocked.Trace
import LaserTx.Rate.Switch

/-!
# Resets, locks and DRP accesses in order

The reset outputs are registered one edge after the state that drives them, and
a failed switch leaves them where they are.  Every edge nevertheless sets them
for the state it enters, so the order holds after any edge from any registers.
-/

namespace LaserTx.Rate

open Clocked Rtl.RateSwitch

/-- The states from `RATE_ASSERT_RESET` through `RATE_WAIT_MMCM_RESET_RELEASE`. -/
def userrdyBlocked : RateState → Bool
  | .assertReset | .programGtDrp | .programMmcmDrp | .releaseReset
  | .waitMmcmResetRelease => true
  | _ => false

/-- The states in which the hardware is left to lock. -/
def locking : RateState → Bool
  | .waitMmcmResetRelease | .waitLock => true
  | _ => false

/-- The reset outputs as the state needs them. -/
structure ResetOrder (s : State) : Prop where
  accesses : s.gtDrpEn = true ∨ s.mmcmDrpEn = true →
    s.rateGtTxReset = true ∧ s.rateTxuserrdyBlock = true ∧ s.rateMmcmReset = true
  single : ¬ (s.gtDrpEn = true ∧ s.mmcmDrpEn = true)
  released : locking s.rateState = true → s.rateGtTxReset = false ∧ s.rateMmcmReset = false
  blocked : userrdyBlocked s.rateState = true → s.rateTxuserrdyBlock = true

/-- The two lock conditions under which `RATE_WAIT_LOCK` unblocks TXUSERRDY. -/
def locked (i : Inputs) : Bool := i.txMmcmLockedSync && i.cplllockSync

/-- All four conditions `RATE_WAIT_LOCK` waits for. -/
def ready (i : Inputs) : Bool :=
  i.txMmcmLockedSync && i.cplllockSync && i.txresetdoneSync && i.gtReadyCtrl

section Edge

variable {p : Params} {s : State} {i : Inputs}

theorem resetOrder_reset (p : Params) : ResetOrder (reset p) where
  accesses up := by
    rcases up with up | up
    all_goals exact absurd up Bool.false_ne_true
  single both := absurd both.1 Bool.false_ne_true
  released inside := absurd inside Bool.false_ne_true
  blocked inside := absurd inside Bool.false_ne_true

/-- A state outside both groups is in order once no DRP access is issued. -/
theorem resetOrder_free (gt : s.gtDrpEn = false) (mmcm : s.mmcmDrpEn = false)
    (notLocking : locking s.rateState = false)
    (notBlocked : userrdyBlocked s.rateState = false) : ResetOrder s where
  accesses up := by
    rcases up with up | up
    · exact absurd (gt.symm.trans up) Bool.false_ne_true
    · exact absurd (mmcm.symm.trans up) Bool.false_ne_true
  single both := absurd (gt.symm.trans both.1) Bool.false_ne_true
  released inside := absurd (notLocking.symm.trans inside) Bool.false_ne_true
  blocked inside := absurd (notBlocked.symm.trans inside) Bool.false_ne_true

/-- All resets asserted, with at most one access, is in order outside the locking states. -/
theorem resetOrder_asserted (gtTx : s.rateGtTxReset = true) (block : s.rateTxuserrdyBlock = true)
    (mmcm : s.rateMmcmReset = true) (notLocking : locking s.rateState = false)
    (single : ¬ (s.gtDrpEn = true ∧ s.mmcmDrpEn = true)) : ResetOrder s where
  accesses _ := ⟨gtTx, block, mmcm⟩
  single := single
  released inside := absurd (notLocking.symm.trans inside) Bool.false_ne_true
  blocked _ := block

/-- A locking state with both resets released and no access issued. -/
theorem resetOrder_released (gt : s.gtDrpEn = false) (mmcm : s.mmcmDrpEn = false)
    (gtTx : s.rateGtTxReset = false) (mmcmReset : s.rateMmcmReset = false)
    (blocked : userrdyBlocked s.rateState = true → s.rateTxuserrdyBlock = true) :
    ResetOrder s where
  accesses up := by
    rcases up with up | up
    · exact absurd (gt.symm.trans up) Bool.false_ne_true
    · exact absurd (mmcm.symm.trans up) Bool.false_ne_true
  single both := absurd (gt.symm.trans both.1) Bool.false_ne_true
  released _ := ⟨gtTx, mmcmReset⟩
  blocked := blocked

/-- Whatever the registers were, an edge leaves the reset outputs in order. -/
theorem resetOrder_branch (next : State) (same : next.rateState = s.rateState)
    (gt : next.gtDrpEn = false) (mmcm : next.mmcmDrpEn = false) :
    ResetOrder (stepBranch p s i next) := by
  have gtOnly : ¬ (true = true ∧ next.mmcmDrpEn = true) :=
    fun both => absurd (mmcm.symm.trans both.2) Bool.false_ne_true
  have mmcmOnly : ¬ (next.gtDrpEn = true ∧ true = true) :=
    fun both => absurd (gt.symm.trans both.1) Bool.false_ne_true
  have none : ¬ (next.gtDrpEn = true ∧ next.mmcmDrpEn = true) :=
    fun both => absurd (gt.symm.trans both.1) Bool.false_ne_true
  unfold stepBranch
  cases state : s.rateState
  case assertReset =>
    have holding : next.rateState = .assertReset := same.trans state
    dsimp only [stepAssertReset]
    split
    · exact resetOrder_asserted rfl rfl rfl rfl none
    · exact resetOrder_asserted rfl rfl rfl (congrArg locking holding) none
  case programGtDrp =>
    have programming : next.rateState = .programGtDrp := same.trans state
    dsimp only [stepProgramGtDrp, gtDrpWaiting]
    repeat' split
    all_goals
      first
        | exact resetOrder_asserted rfl rfl rfl (congrArg locking programming) gtOnly
        | exact resetOrder_asserted rfl rfl rfl (congrArg locking programming) none
        | exact resetOrder_asserted rfl rfl rfl rfl none
  case programMmcmDrp =>
    have programming : next.rateState = .programMmcmDrp := same.trans state
    dsimp only [stepProgramMmcmDrp]
    repeat' split
    all_goals
      first
        | exact resetOrder_asserted rfl rfl rfl (congrArg locking programming) mmcmOnly
        | exact resetOrder_asserted rfl rfl rfl (congrArg locking programming) none
        | exact resetOrder_asserted rfl rfl rfl rfl none
  case releaseReset => exact resetOrder_released gt mmcm rfl rfl fun _ => rfl
  case waitMmcmResetRelease =>
    dsimp only [stepWaitMmcmResetRelease]
    split
    · exact resetOrder_released gt mmcm rfl rfl fun _ => rfl
    · exact resetOrder_released gt mmcm rfl rfl fun _ => rfl
  case waitLock =>
    have waiting : next.rateState = .waitLock := same.trans state
    have unblocked : userrdyBlocked next.rateState = false := congrArg userrdyBlocked waiting
    dsimp only [stepWaitLock, lockMissing]
    repeat' split
    all_goals
      first
        | exact resetOrder_free gt mmcm rfl rfl
        | exact resetOrder_released gt mmcm rfl rfl fun inside =>
            absurd (unblocked.symm.trans inside) Bool.false_ne_true
  case quiesceTx =>
    have waiting : next.rateState = .quiesceTx := same.trans state
    dsimp only [stepQuiesceTx]
    split
    · exact resetOrder_asserted rfl rfl rfl rfl none
    · split
      · exact resetOrder_free gt mmcm rfl rfl
      · exact resetOrder_free gt mmcm (congrArg locking waiting) (congrArg userrdyBlocked waiting)
  all_goals
    have staying := same.trans state
    dsimp only [stepIdle, stepDone, stepError, stepValidate, stepVerifyRate]
    repeat' split
  all_goals
    first
      | exact resetOrder_free gt mmcm rfl rfl
      | exact resetOrder_free gt mmcm (congrArg locking staying) (congrArg userrdyBlocked staying)

theorem resetOrder_step : ResetOrder (step p s i) := by
  cases reset : i.rst with
  | true =>
      unfold step
      rw [reset]
      exact resetOrder_reset p
  | false =>
      rw [step_running reset]
      exact resetOrder_branch (latch p s i) rfl rfl rfl

theorem lockMissing_cases (block : Bool) (code : BitVec 8) (next : State) :
    (lockMissing p s block code next).rateState = .error ∨
      ((lockMissing p s block code next).rateState = next.rateState ∧
        (lockMissing p s block code next).rateTxuserrdyBlock = block) := by
  unfold lockMissing
  split
  · exact Or.inl rfl
  · exact Or.inr ⟨rfl, rfl⟩

/-- An edge of `RATE_WAIT_LOCK` gives up, waits on, or has seen all four conditions;
it unblocks TXUSERRDY only if it has seen both locks. -/
theorem waitLock_cases (next : State) (same : next.rateState = .waitLock) :
    (stepWaitLock p s i next).rateState = .error ∨
      ((stepWaitLock p s i next).rateState = .waitLock ∧
        ((stepWaitLock p s i next).rateTxuserrdyBlock = false → locked i = true)) ∨
      ((stepWaitLock p s i next).rateState = .verifyRate ∧ ready i = true) := by
  let held := { next with applyEnableBlocked := true, rateMmcmReset := false }
  have waits (block : Bool) (code : BitVec 8) (unblocks : block = false → locked i = true) :
      (lockMissing p s block code held).rateState = .error ∨
        ((lockMissing p s block code held).rateState = .waitLock ∧
          ((lockMissing p s block code held).rateTxuserrdyBlock = false → locked i = true)) ∨
        ((lockMissing p s block code held).rateState = .verifyRate ∧ ready i = true) := by
    rcases lockMissing_cases (p := p) (s := s) block code held with failed | ⟨stays, set⟩
    · exact Or.inl failed
    · exact Or.inr (Or.inl ⟨stays.trans same, fun open_ => unblocks (set.symm.trans open_)⟩)
  have blocked (wrong : true = false) : locked i = true := absurd wrong.symm Bool.false_ne_true
  unfold stepWaitLock
  by_cases noMmcm : (!i.txMmcmLockedSync) = true
  · rw [if_pos noMmcm]
    exact waits true _ blocked
  · rw [if_neg noMmcm]
    by_cases noCpll : (!i.cplllockSync) = true
    · rw [if_pos noCpll]
      exact waits true _ blocked
    · rw [if_neg noCpll]
      have both : locked i = true := by
        simp only [Bool.not_eq_true', Bool.not_eq_false] at noMmcm noCpll
        unfold locked
        rw [noMmcm, noCpll]
        rfl
      by_cases noReset : (!i.txresetdoneSync) = true
      · rw [if_pos noReset]
        exact waits false _ fun _ => both
      · rw [if_neg noReset]
        by_cases noReady : (!i.gtReadyCtrl) = true
        · rw [if_pos noReady]
          exact waits false _ fun _ => both
        · rw [if_neg noReady]
          simp only [Bool.not_eq_true', Bool.not_eq_false] at noReset noReady
          refine Or.inr (Or.inr ⟨rfl, ?_⟩)
          unfold locked at both
          unfold ready
          rw [both, noReset, noReady]
          rfl

/-- Only `RATE_WAIT_LOCK` leads to `RATE_VERIFY_RATE`, and only
`RATE_WAIT_MMCM_RESET_RELEASE` leads to `RATE_WAIT_LOCK`, with TXUSERRDY blocked. -/
theorem lock_entered (next : State) (same : next.rateState = s.rateState)
    (other : s.rateState ≠ .waitLock) :
    ((stepBranch p s i next).rateState = .verifyRate → s.rateState = .verifyRate) ∧
      ((stepBranch p s i next).rateState = .waitLock →
        (stepBranch p s i next).rateTxuserrdyBlock = true) := by
  have passive (state : RateState) (noLock : decide (state = .waitLock) = false)
      (noVerify : decide (state = .verifyRate) = false) {verify blocked : Prop} :
      (state = .verifyRate → verify) ∧ (state = .waitLock → blocked) :=
    ⟨fun entered => absurd entered (of_decide_eq_false noVerify),
      fun entered => absurd entered (of_decide_eq_false noLock)⟩
  unfold stepBranch
  cases state : s.rateState
  case waitLock => exact absurd state other
  case waitMmcmResetRelease =>
    have staying := same.trans state
    dsimp only [stepWaitMmcmResetRelease]
    split
    · exact ⟨fun entered => (nomatch entered), fun _ => rfl⟩
    · exact ⟨fun entered => (nomatch staying.symm.trans entered), fun _ => rfl⟩
  case verifyRate =>
    have staying := same.trans state
    refine ⟨fun _ => rfl, fun entered => ?_⟩
    revert entered
    dsimp only [stepVerifyRate]
    repeat' split
    all_goals
      first
        | exact (@passive _ rfl rfl True _).2
        | exact fun entered => nomatch staying.symm.trans entered
  all_goals
    have staying := same.trans state
    dsimp only [stepIdle, stepDone, stepError, stepValidate, stepQuiesceTx, stepAssertReset,
      stepProgramGtDrp, stepProgramMmcmDrp, stepReleaseReset, gtDrpWaiting]
    repeat' split
  all_goals
    first
      | exact passive _ rfl rfl
      | exact ⟨fun entered => (nomatch staying.symm.trans entered),
          fun entered => (nomatch staying.symm.trans entered)⟩

theorem locked_of_unblocked (entered : (step p s i).rateState = .waitLock)
    (open_ : (step p s i).rateTxuserrdyBlock = false) : locked i = true := by
  have running : i.rst = false := running_of_active fun idle => nomatch entered.symm.trans idle
  rw [step_running running] at entered open_
  by_cases state : s.rateState = .waitLock
  · unfold stepBranch at entered open_
    rw [state] at entered open_
    rcases waitLock_cases (p := p) (s := s) (i := i) (latch p s i) state with
      failed | ⟨_, unblocks⟩ | ⟨verifying, _⟩
    · exact nomatch failed.symm.trans entered
    · exact unblocks open_
    · exact nomatch verifying.symm.trans entered
  · have blocked := (lock_entered (p := p) (s := s) (i := i) (latch p s i) rfl state).2 entered
    exact absurd (open_.symm.trans blocked) Bool.false_ne_true

theorem ready_of_verifying (before : s.rateState ≠ .verifyRate)
    (entered : (step p s i).rateState = .verifyRate) : ready i = true := by
  have running : i.rst = false := running_of_active fun idle => nomatch entered.symm.trans idle
  rw [step_running running] at entered
  by_cases state : s.rateState = .waitLock
  · unfold stepBranch at entered
    rw [state] at entered
    rcases waitLock_cases (p := p) (s := s) (i := i) (latch p s i) state with
      failed | ⟨waiting, _⟩ | ⟨_, all⟩
    · exact nomatch failed.symm.trans entered
    · exact nomatch waiting.symm.trans entered
    · exact all
  · exact absurd ((lock_entered (p := p) (s := s) (i := i) (latch p s i) rfl state).1 entered) before

end Edge

/-! ## Whole runs -/

/-- The reset and lock order of a switch, over a run of the controller. -/
structure ResetLockOrder (ctrl : Nat → State) (input : Nat → Inputs) : Prop where
  /-- DRP accesses happen one at a time, under all three resets. -/
  accesses : ∀ n, (ctrl n).gtDrpEn = true ∨ (ctrl n).mmcmDrpEn = true →
    (ctrl n).rateGtTxReset = true ∧ (ctrl n).rateTxuserrdyBlock = true ∧
      (ctrl n).rateMmcmReset = true
  single : ∀ n, ¬ ((ctrl n).gtDrpEn = true ∧ (ctrl n).mmcmDrpEn = true)
  /-- The hardware locks with both resets released. -/
  released : ∀ n, (ctrl n).rateState = .waitMmcmResetRelease ∨ (ctrl n).rateState = .waitLock →
    (ctrl n).rateGtTxReset = false ∧ (ctrl n).rateMmcmReset = false
  blocked : ∀ n, userrdyBlocked (ctrl n).rateState = true → (ctrl n).rateTxuserrdyBlock = true
  /-- `RATE_WAIT_LOCK` unblocks TXUSERRDY after an edge that saw both locks. -/
  unblocked : ∀ n, (ctrl (n + 1)).rateState = .waitLock →
    (ctrl (n + 1)).rateTxuserrdyBlock = false →
    (input n).txMmcmLockedSync = true ∧ (input n).cplllockSync = true
  /-- The edge that enters `RATE_VERIFY_RATE` sees all four conditions. -/
  verified : ∀ n, (ctrl n).rateState ≠ .verifyRate → (ctrl (n + 1)).rateState = .verifyRate →
    (input n).txMmcmLockedSync = true ∧ (input n).cplllockSync = true ∧
      (input n).txresetdoneSync = true ∧ (input n).gtReadyCtrl = true

section Runs

variable (p : Params) (input : Nat → Inputs)

theorem resetOrder_run (n : Nat) : ResetOrder (trace (step p) (reset p) input n) := by
  cases n with
  | zero => exact resetOrder_reset p
  | succ n => exact resetOrder_step

/-- Reset and lock order, from reset and under any inputs. -/
theorem reset_lock_order : ResetLockOrder (trace (step p) (reset p) input) input where
  accesses n := (resetOrder_run p input n).accesses
  single n := (resetOrder_run p input n).single
  released n inside := by
    apply (resetOrder_run p input n).released
    rcases inside with state | state
    all_goals
      rw [state]
      rfl
  blocked n := (resetOrder_run p input n).blocked
  unblocked n entered open_ := by
    have both := locked_of_unblocked entered open_
    exact Bool.and_eq_true_iff.mp both
  verified n before entered := by
    have all := ready_of_verifying before entered
    unfold ready at all
    simp only [Bool.and_eq_true] at all
    exact ⟨all.1.1.1, all.1.1.2, all.1.2, all.2⟩

end Runs

end LaserTx.Rate
