import LaserTx.Rate.DrpSequence
import LaserTx.Startup.Interlock
import LaserTx.Startup.Milestones

/-!
# What a rate switch does to the start-up machine

The DRP ports are written while the start-up machine is held in its first state, and the
new rate is verified only behind a whole start-up that began after the resets had been
released.  Both hold in every run, whatever the hardware does.
-/

namespace LaserTx.Startup

open Clocked Rate Rtl Rtl.GtWizard Rtl.RateSwitch

/-! ## The graph of the rate switch -/

/-- The states an edge can lead to. -/
def successors : RateState → List RateState
  | .idle => [.idle, .request]
  | .done => [.done, .request]
  | .error => [.error, .request]
  | .request => [.validate]
  | .validate => [.error, .done, .quiesceTx]
  | .quiesceTx => [.quiesceTx, .assertReset, .error]
  | .assertReset => [.assertReset, .programGtDrp]
  | .programGtDrp => [.programGtDrp, .programMmcmDrp, .error]
  | .programMmcmDrp => [.programMmcmDrp, .releaseReset, .error]
  | .releaseReset => [.waitMmcmResetRelease]
  | .waitMmcmResetRelease => [.waitMmcmResetRelease, .waitLock]
  | .waitLock => [.waitLock, .verifyRate, .error]
  | .verifyRate => [.verifyRate, .done, .error]

def leadsTo (before after : RateState) : Bool := (successors before).contains after

/-- The states in which `rate_gt_tx_reset` is high. -/
def resetting : RateState → Bool
  | .assertReset | .programGtDrp | .programMmcmDrp | .releaseReset => true
  | _ => false

/-- The states in which the start-up machine has been reset for an edge at least. -/
def programmed : RateState → Bool
  | .programGtDrp | .programMmcmDrp | .releaseReset => true
  | _ => false

section Edge

variable {p : Params} {s : RateSwitch.State} {i : RateSwitch.Inputs}

theorem step_leadsTo (running : i.rst = false) :
    leadsTo s.rateState (RateSwitch.step p s i).rateState = true := by
  rw [step_running running]
  have same : (latch p s i).rateState = s.rateState := rfl
  unfold stepBranch
  cases state : s.rateState
  all_goals
    rw [state] at same
    dsimp only [stepIdle, stepDone, stepError, stepValidate, stepQuiesceTx, stepAssertReset,
      stepProgramGtDrp, stepProgramMmcmDrp, stepReleaseReset, stepWaitMmcmResetRelease,
      stepWaitLock, stepVerifyRate, gtDrpWaiting, lockMissing]
    repeat' split
  all_goals
    first
      | rfl
      | exact (congrArg (leadsTo _) same).trans rfl

theorem resetting_step (inside : resetting (RateSwitch.step p s i).rateState = true) :
    (RateSwitch.step p s i).rateGtTxReset = true := by
  have running : i.rst = false := running_of_active fun idle => by
    rw [idle] at inside
    exact Bool.false_ne_true inside
  rw [step_running running] at inside ⊢
  have same : (latch p s i).rateState = s.rateState := rfl
  revert inside
  unfold stepBranch
  cases state : s.rateState
  all_goals
    rw [state] at same
    dsimp only [stepIdle, stepDone, stepError, stepValidate, stepQuiesceTx, stepAssertReset,
      stepProgramGtDrp, stepProgramMmcmDrp, stepReleaseReset, stepWaitMmcmResetRelease,
      stepWaitLock, stepVerifyRate, gtDrpWaiting, lockMissing]
    repeat' split
  all_goals
    intro inside
    first
      | rfl
      | exact absurd inside Bool.noConfusion
      | exact absurd ((congrArg resetting same).symm.trans inside) Bool.noConfusion

/-- An enable is shown in a state that programs a port. -/
theorem programmed_of_access (up : (RateSwitch.step p s i).gtDrpEn = true ∨
    (RateSwitch.step p s i).mmcmDrpEn = true) :
    programmed (RateSwitch.step p s i).rateState = true := by
  have running : i.rst = false := by
    cases reset : i.rst with
    | false => rfl
    | true =>
        have cleared : RateSwitch.step p s i = RateSwitch.reset p := if_pos reset
        rw [cleared] at up
        rcases up with up | up
        · exact absurd up Bool.false_ne_true
        · exact absurd up Bool.false_ne_true
  by_contra outside
  have silent := @step_accesses p s i running
    (fun gt => outside (by rw [gt]; rfl)) (fun mmcm => outside (by rw [mmcm]; rfl))
  obtain ⟨gt, mmcm⟩ := accesses_eq_nil silent
  rcases up with up | up
  · exact absurd (gt.symm.trans up) Bool.false_ne_true
  · exact absurd (mmcm.symm.trans up) Bool.false_ne_true

/-- Behind every edge into or within the programming the resets were asserted before. -/
theorem resetting_before {states : RateState → Bool}
    (inside : states (RateSwitch.step p s i).rateState = true)
    (programs : ∀ before after, states after = true → leadsTo before after = true →
      resetting before = true)
    (idle : states .idle = false) : resetting s.rateState = true := by
  have running : i.rst = false := running_of_active fun at_ => by
    rw [at_, idle] at inside
    exact Bool.false_ne_true inside
  exact programs _ _ inside (step_leadsTo running)

end Edge

theorem resetting_programmed (before after : RateState) (inside : programmed after = true)
    (leads : leadsTo before after = true) : resetting before = true := by
  revert inside leads
  cases before <;> cases after <;> decide

theorem profile_cleared {s : GtTxProfile0.State} {pins : GtTxProfile0.Pins}
    (resets : pins.ctrlRst = true) :
    (GtTxProfile0.stepCtrl s pins).txresetdoneMeta = false ∧
      (GtTxProfile0.stepCtrl s pins).txresetdoneSync = false := by
  unfold GtTxProfile0.stepCtrl
  rw [if_pos resets]
  exact ⟨rfl, rfl⟩

namespace WizardRun

variable {run : WizardRun} {n : Nat}

/-- A run from the registers behind `ctrl_rst`. -/
def fromReset (waitTimeCnt : BitVec 16) (edge : Nat → GtWizard.Edge) : WizardRun :=
  { profile := GtTxProfile0.reset
    waitTimeCnt := waitTimeCnt
    edge := edge }

/-- What the rate switch does to the start-up machine. -/
structure Held (s : GtWizard.State) : Prop where
  asserted : resetting s.profile.rate.rateState = true → s.profile.rate.rateGtTxReset = true
  reset : programmed s.profile.rate.rateState = true →
    s.startup.sequencer = TxStartupFsm.Sequencer.softReset
  access : s.profile.rate.gtDrpEn = true ∨ s.profile.rate.mmcmDrpEn = true →
    programmed s.profile.rate.rateState = true
  order : ResetOrder s.profile.rate

theorem held_run (waitTimeCnt : BitVec 16) (edge : Nat → GtWizard.Edge) (n : Nat) :
    Held ((fromReset waitTimeCnt edge).stateAt n) := by
  generalize made : fromReset waitTimeCnt edge = run
  induction n with
  | zero =>
      rw [← made]
      refine ⟨fun inside => absurd inside Bool.false_ne_true,
        fun inside => absurd inside Bool.false_ne_true, fun up => ?_,
        resetOrder_reset defaults⟩
      rcases up with up | up
      · exact absurd up Bool.false_ne_true
      · exact absurd up Bool.false_ne_true
  | succ n ih =>
      cases now : run.tick n with
      | false =>
          have rate : (run.stateAt (n + 1)).profile.rate = (run.stateAt n).profile.rate :=
            rateAt_other now
          have shown : (run.stateAt (n + 1)).startup.sequencer = (run.stateAt n).startup.sequencer :=
            shownAt_other now
          refine ⟨?_, ?_, ?_, ?_⟩
          · rw [rate]
            exact ih.asserted
          · rw [rate, shown]
            exact ih.reset
          · rw [rate]
            exact ih.access
          · rw [rate]
            exact ih.order
      | true =>
          have step : (run.stateAt (n + 1)).profile.rate =
              RateSwitch.step defaults (run.rateAt n) (run.inputsAt n) := rateAt_ctrl now
          refine ⟨?_, ?_, ?_, ?_⟩
          · rw [step]
            exact resetting_step
          · rw [step]
            intro inside
            have before := resetting_before inside resetting_programmed rfl
            exact reset_of_asserted now (ih.asserted before)
          · rw [step]
            exact programmed_of_access
          · rw [step]
            exact resetOrder_step

/-- DRP accesses find the start-up machine reset. -/
structure DrpAtRest (s : GtWizard.State) : Prop where
  access : s.profile.rate.gtDrpEn = true ∨ s.profile.rate.mmcmDrpEn = true →
    s.startup.sequencer = TxStartupFsm.Sequencer.softReset ∧ txMmcmReset s = true ∧
      gt0GttxresetEffective s false = true

/-- In every run a DRP access finds the start-up machine in its first state, with TXUSERRDY,
CPLL_RESET and also GTTXRESET low, and the MMCM in reset; the wrapper's own GTTXRESET is high,
but nothing reads it. -/
theorem drp_at_rest (waitTimeCnt : BitVec 16) (edge : Nat → GtWizard.Edge) (n : Nat) :
    DrpAtRest ((fromReset waitTimeCnt edge).stateAt n) where
  access up := by
    have held := held_run waitTimeCnt edge n
    obtain ⟨gtTx, _, mmcm⟩ := held.order.accesses up
    refine ⟨held.reset (held.access up), ?_, ?_⟩
    · unfold txMmcmReset
      rw [mmcm, Bool.or_true]
    · unfold gt0GttxresetEffective softResetTx
      rw [gtTx]
      rfl

/-! ## The way back from the verification -/

/-- The switch has released its resets at an edge and waits for the locks since. -/
structure Released (run : WizardRun) (r n : Nat) : Prop where
  now : run.tick r = true
  before : r < n
  state : (run.rateAt r).rateState = .releaseReset
  reset : (run.rateAt r).rateGtTxReset = true
  since : ∀ event, r < event → event ≤ n → locking (run.rateAt event).rateState = true
  wait : ((run.rateAt n).rateState = .waitMmcmResetRelease ∧
      time run.tick n = time run.tick r + 1 + (run.rateAt n).timeoutCount.toNat) ∨
    ((run.rateAt n).rateState = .waitLock ∧ time run.tick r + 1026 ≤ time run.tick n)

theorem Released.idle {r : Nat} (released : run.Released r n) (idle : run.tick n = false) :
    run.Released r (n + 1) := by
  have same := rateAt_other idle
  refine ⟨released.now, Nat.lt_succ_of_lt released.before, released.state, released.reset, ?_, ?_⟩
  · intro event after below
    rcases Nat.lt_or_eq_of_le below with earlier | now
    · exact released.since event after (Nat.le_of_lt_succ earlier)
    · rw [now, same]
      exact released.since n released.before (Nat.le_refl n)
  · rw [same, time_idle idle]
    exact released.wait

/-- An edge that goes on waiting. -/
theorem Released.tick {r : Nat} (released : run.Released r n) (now : run.tick n = true)
    (running : (run.pins n).ctrlRst = false)
    (inside : locking (run.rateAt (n + 1)).rateState = true) : run.Released r (n + 1) := by
  have step := rateAt_ctrl now
  have counted := time_tick now
  refine ⟨released.now, Nat.lt_succ_of_lt released.before, released.state, released.reset, ?_, ?_⟩
  · intro event after below
    rcases Nat.lt_or_eq_of_le below with earlier | same
    · exact released.since event after (Nat.le_of_lt_succ earlier)
    · rw [same]
      exact inside
  · rcases released.wait with ⟨state, at_⟩ | ⟨state, late⟩
    · by_cases early : (run.rateAt n).timeoutCount < defaults.resetHoldCycles
      · have next := @step_resetReleasing defaults (run.rateAt n) (run.inputsAt n) running state early
        rw [← step] at next
        have count : (run.rateAt (n + 1)).timeoutCount = (run.rateAt n).timeoutCount + 1#32 := by
          rw [next]
        refine Or.inl ⟨?_, ?_⟩
        · rw [next]
          exact state
        · rw [count, toNat_succ early]
          omega
      · have next := @step_released defaults (run.rateAt n) (run.inputsAt n) running state early
        rw [← step] at next
        have full : ¬ (run.rateAt n).timeoutCount.toNat < 1024 := fun below =>
          early (BitVec.lt_def.mpr below)
        exact Or.inr ⟨next.1, by omega⟩
    · right
      refine ⟨?_, by omega⟩
      have leads := @step_leadsTo defaults (run.rateAt n) (run.inputsAt n) running
      rw [← step, state] at leads
      revert leads inside
      cases (run.rateAt (n + 1)).rateState <;> decide

theorem released_run (waitTimeCnt : BitVec 16) (edge : Nat → GtWizard.Edge) (n : Nat)
    (inside : locking ((fromReset waitTimeCnt edge).rateAt n).rateState = true) :
    ∃ r, (fromReset waitTimeCnt edge).Released r n := by
  have held := held_run waitTimeCnt edge
  generalize made : fromReset waitTimeCnt edge = run at inside held ⊢
  induction n with
  | zero =>
      rw [← made] at inside
      exact absurd inside Bool.false_ne_true
  | succ n ih =>
      cases now : run.tick n with
      | false =>
          rw [rateAt_other now] at inside
          obtain ⟨r, released⟩ := ih inside
          exact ⟨r, released.idle now⟩
      | true =>
          have step := rateAt_ctrl now
          have running : (run.pins n).ctrlRst = false := by
            apply @running_of_active defaults (run.rateAt n) (run.inputsAt n)
            intro idle
            rw [step, idle] at inside
            exact Bool.false_ne_true inside
          by_cases waits : locking (run.rateAt n).rateState = true
          · obtain ⟨r, released⟩ := ih waits
            exact ⟨r, released.tick now running inside⟩
          · have leads := @step_leadsTo defaults (run.rateAt n) (run.inputsAt n) running
            rw [← step] at leads
            have state : (run.rateAt n).rateState = .releaseReset := by
              revert leads inside waits
              cases (run.rateAt n).rateState <;> cases (run.rateAt (n + 1)).rateState <;> decide
            have next := @step_releasing defaults (run.rateAt n) (run.inputsAt n) running state
            rw [← step] at next
            refine ⟨n, now, Nat.lt_succ_self n, state, (held n).asserted ?_, ?_, Or.inl ?_⟩
            · change resetting (run.rateAt n).rateState = true
              rw [state]
              rfl
            · intro event after below
              rw [Nat.le_antisymm below after]
              exact inside
            · rw [next.1, next.2, time_tick now]
              exact ⟨rfl, rfl⟩

/-- `txresetdone_sync` tells of a completed start-up at most two edges ago. -/
structure DoneSampled (run : WizardRun) (n : Nat) : Prop where
  first : (run.stateAt n).profile.txresetdoneMeta = true →
    ∃ m, m < n ∧ txFsmResetDone (run.stateAt m) = true ∧ time run.tick n ≤ time run.tick m + 1
  second : (run.stateAt n).profile.txresetdoneSync = true →
    ∃ m, m < n ∧ txFsmResetDone (run.stateAt m) = true ∧ time run.tick n ≤ time run.tick m + 2

theorem doneSampled_run (waitTimeCnt : BitVec 16) (edge : Nat → GtWizard.Edge) (n : Nat) :
    DoneSampled (fromReset waitTimeCnt edge) n := by
  generalize made : fromReset waitTimeCnt edge = run
  induction n with
  | zero =>
      rw [← made]
      exact ⟨fun high => absurd high Bool.false_ne_true, fun high => absurd high Bool.false_ne_true⟩
  | succ n ih =>
      have later {delay : Nat} {high : Prop}
          (found : high → ∃ m, m < n ∧ txFsmResetDone (run.stateAt m) = true ∧
            time run.tick n ≤ time run.tick m + delay) (now : run.tick n = false) (up : high) :
          ∃ m, m < n + 1 ∧ txFsmResetDone (run.stateAt m) = true ∧
            time run.tick (n + 1) ≤ time run.tick m + delay := by
        obtain ⟨m, before, done, recent⟩ := found up
        rw [time_idle now]
        exact ⟨m, Nat.lt_succ_of_lt before, done, recent⟩
      cases now : run.tick n with
      | false =>
          rcases stateAt_other now with same | ⟨ctrlRst, same⟩
          · refine ⟨?_, ?_⟩
            · rw [same]
              exact later ih.first now
            · rw [same]
              exact later ih.second now
          · refine ⟨?_, ?_⟩
            · rw [same]
              cases ctrlRst with
              | true => exact later ih.first now
              | false => exact later ih.first now
            · rw [same]
              cases ctrlRst with
              | true => exact later ih.second now
              | false => exact later ih.second now
      | true =>
          have step := stateAt_ctrl now
          have counted := time_tick now
          cases resets : (run.pins n).ctrlRst with
          | true =>
              have cleared := @profile_cleared (run.stateAt n).profile
                (profilePins (run.stateAt n) (run.pins n)) resets
              rw [← step] at cleared
              exact ⟨fun high => absurd (cleared.1.symm.trans high) Bool.false_ne_true,
                fun high => absurd (cleared.2.symm.trans high) Bool.false_ne_true⟩
          | false =>
              obtain ⟨⟨_, _, sampled⟩, _, _, shifted⟩ :=
                @stepCtrl_samples (run.stateAt n).profile
                  (profilePins (run.stateAt n) (run.pins n)) resets
              rw [← step] at sampled shifted
              refine ⟨fun high => ?_, fun high => ?_⟩
              · rw [sampled] at high
                have done := (Bool.and_eq_true_iff.mp high).2
                exact ⟨n, Nat.lt_succ_self n, done, by omega⟩
              · rw [shifted] at high
                obtain ⟨m, before, done, recent⟩ := ih.first high
                exact ⟨m, Nat.lt_succ_of_lt before, done, by omega⟩

/-- The verification begins behind a whole start-up that began after the resets of the switch had
been released. -/
structure FreshlyStarted (run : WizardRun) (n r done pulse unlocked locked reclocked ready : Nat) :
    Prop where
  released : run.tick r = true ∧ (run.rateAt r).rateState = .releaseReset
  waiting : ∀ event, r < event → event ≤ n → locking (run.rateAt event).rateState = true
  order : r < pulse ∧ done < n
  started : (run.startup n).StartedUp done pulse unlocked locked reclocked ready

def VerifiesStarted (run : WizardRun) : Prop :=
  ∀ n, run.tick n = true → (run.rateAt n).rateState ≠ .verifyRate →
    (run.rateAt (n + 1)).rateState = .verifyRate →
    ∃ r done pulse unlocked locked reclocked ready,
      run.FreshlyStarted n r done pulse unlocked locked reclocked ready

/-- In every run the rate is verified only after a whole new start-up: the CPLL has been reset
and has locked again, the MMCM has locked and `TXRESETDONE` has come since the switch released
its resets. -/
theorem verifies_started (waitTimeCnt : BitVec 16) (edge : Nat → GtWizard.Edge) :
    VerifiesStarted (fromReset waitTimeCnt edge) := by
  intro n now before verifying
  have released := released_run waitTimeCnt edge n
  have sampled := doneSampled_run waitTimeCnt edge n
  generalize fromReset waitTimeCnt edge = run at now before verifying released sampled ⊢
  have step := rateAt_ctrl now
  rw [step] at verifying
  have running : (run.pins n).ctrlRst = false := by
    apply @running_of_active defaults (run.rateAt n) (run.inputsAt n)
    exact fun idle => nomatch verifying.symm.trans idle
  have all := ready_of_verifying before verifying
  have waiting := (verify_entered running before verifying).1
  obtain ⟨r, released⟩ := released (by rw [waiting]; rfl)
  have late : time run.tick r + 1026 ≤ time run.tick n := by
    rcases released.wait with ⟨state, _⟩ | ⟨_, late⟩
    · rw [waiting] at state
      exact nomatch state
    · exact late
  have high : (run.stateAt n).profile.txresetdoneSync = true := by
    unfold ready at all
    simp only [Bool.and_eq_true] at all
    exact all.1.2
  obtain ⟨done, earlier, complete, recent⟩ := sampled.second high
  have shown : ((run.startup n).shownAt done).txFsmResetDoneInt = true := by
    rw [← shownAt_eq run (Nat.le_of_lt earlier)]
    exact complete
  obtain ⟨pulse, unlocked, locked, reclocked, ready, started⟩ :=
    Run.startedUp_of_done (Run.done_state shown)
  refine ⟨r, done, pulse, unlocked, locked, reclocked, ready, ⟨released.now, released.state⟩,
    released.since, ⟨?_, earlier⟩, started⟩
  -- the machine has not seen a reset since the pulse, and at the release it sees one
  by_contra reset
  have order : r < done := @lt_of_time run.tick _ _ (by omega)
  have inside : r < n := released.before
  have quiet : ((run.startup n).pins r).softReset = false :=
    started.undisturbed r (Nat.le_of_not_lt reset) order
      ((startup_tick run inside).trans released.now)
  rw [startup_pins run inside released.now] at quiet
  have soft : ((run.pins r).ctrlRst || (run.rateAt r).rateGtTxReset) = false := quiet
  rw [released.reset, Bool.or_true] at soft
  exact Bool.noConfusion soft

end WizardRun

end LaserTx.Startup
