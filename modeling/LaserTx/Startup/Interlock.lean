import LaserTx.Rate.Recovery
import LaserTx.Startup.BringUp

/-!
# A rate switch and the start-up machine do not lock each other

Behind the DRP programming the rate switch waits for locks that the start-up machine must
bring about, while the start-up machine waits for the rate switch to release
`SOFT_RESET` and for the MMCM.  On hardware that answers in time the switch gets through to
the verification of the new rate: no wait for a lock expires.
-/

namespace LaserTx.Startup

open Clocked Rate Rtl Rtl.GtWizard Rtl.RateSwitch

/-! ## Edges of the rate switch -/

section Edge

variable {p : Params} {s : RateSwitch.State} {i : RateSwitch.Inputs}

theorem step_programmed (state : s.rateState = .programMmcmDrp)
    (left : (RateSwitch.step p s i).rateState = .releaseReset) :
    (RateSwitch.step p s i).rateGtTxReset = true := by
  have running : i.rst = false := running_of_active fun idle => nomatch left.symm.trans idle
  rw [step_running running] at left ⊢
  unfold stepBranch at left ⊢
  rw [state] at left ⊢
  have staying : (latch p s i).rateState = .programMmcmDrp := state
  dsimp only [stepProgramMmcmDrp] at left ⊢
  split at left
  · split at left
    · exact nomatch staying.symm.trans left
    · split at left
      · exact nomatch staying.symm.trans left
      · split at left
        · exact nomatch left
        · exact nomatch staying.symm.trans left
  · rename_i outside
    rw [if_neg outside]
    rfl

variable (running : i.rst = false)

include running

theorem step_releasing (state : s.rateState = .releaseReset) :
    (RateSwitch.step p s i).rateState = .waitMmcmResetRelease ∧
      (RateSwitch.step p s i).timeoutCount = 0#32 := by
  rw [step_running running, stepBranch, state]
  exact ⟨rfl, rfl⟩

theorem step_released (state : s.rateState = .waitMmcmResetRelease)
    (late : ¬ s.timeoutCount < p.resetHoldCycles) :
    (RateSwitch.step p s i).rateState = .waitLock ∧
      (RateSwitch.step p s i).timeoutCount = 0#32 := by
  rw [step_running running, stepBranch, state]
  dsimp only [stepWaitMmcmResetRelease]
  rw [if_pos (BitVec.not_lt.mp late)]
  exact ⟨rfl, rfl⟩

/-- With all four signals high `RATE_WAIT_LOCK` is left. -/
theorem step_locked (state : s.rateState = .waitLock) (all : ready i = true) :
    (RateSwitch.step p s i).rateState = .verifyRate ∧
      (RateSwitch.step p s i).verifyCount = 0#32 := by
  unfold ready at all
  simp only [Bool.and_eq_true] at all
  obtain ⟨⟨⟨mmcm, cpll⟩, done⟩, up⟩ := all
  rw [step_running running, stepBranch, state]
  dsimp only [stepWaitLock]
  rw [mmcm, cpll, done, up]
  exact ⟨rfl, rfl⟩

/-- Without one of them it counts on until its time is over. -/
theorem step_unlocked (state : s.rateState = .waitLock) (missing : ready i = false)
    (early : s.timeoutCount < p.lockTimeoutCycles) :
    (RateSwitch.step p s i).rateState = .waitLock ∧
      (RateSwitch.step p s i).timeoutCount = s.timeoutCount + 1#32 := by
  have waits (block : Bool) (code : BitVec 8) (next : RateSwitch.State)
      (same : next.rateState = .waitLock) :
      (lockMissing p s block code next).rateState = .waitLock ∧
        (lockMissing p s block code next).timeoutCount = s.timeoutCount + 1#32 := by
    unfold lockMissing
    rw [if_neg (BitVec.not_le.mpr early)]
    exact ⟨same, rfl⟩
  rw [step_running running, stepBranch, state]
  dsimp only [stepWaitLock]
  unfold ready at missing
  split
  · exact waits _ _ _ state
  · split
    · exact waits _ _ _ state
    · split
      · exact waits _ _ _ state
      · split
        · exact waits _ _ _ state
        · rename_i mmcm cpll done up
          simp only [Bool.not_eq_true', Bool.not_eq_false] at mmcm cpll done up
          rw [mmcm, cpll, done, up] at missing
          exact absurd missing Bool.noConfusion

/-- The last edge of `RATE_VERIFY_RATE`: the rate is taken over, or the clock was wrong. -/
theorem step_verdict (state : s.rateState = .verifyRate)
    (late : ¬ s.verifyCount < p.verifySettleCycles) :
    ((RateSwitch.step p s i).rateState = .done ∧
        (RateSwitch.step p s i).currentRateId = s.target.targetRateId) ∨
      ((RateSwitch.step p s i).rateState = .error ∧
        ((RateSwitch.step p s i).rateErrorCode = rateErrTxusrclk2NotAlive ∨
          (RateSwitch.step p s i).rateErrorCode = rateErrTxusrclk2FreqOutOfWindow)) := by
  rw [step_running running, stepBranch, state]
  dsimp only [stepVerifyRate]
  rw [if_neg late]
  split
  · exact Or.inr ⟨rfl, Or.inl rfl⟩
  · split
    · exact Or.inr ⟨rfl, Or.inr rfl⟩
    · exact Or.inl ⟨rfl, rfl⟩

end Edge

namespace WizardRun

variable {run : WizardRun} {l : Latency} {r n first last : Nat}

/-- The inputs of the rate switch at an edge of `ctrl_clk`. -/
def inputsAt (run : WizardRun) (n : Nat) : RateSwitch.Inputs :=
  GtTxProfile0.rateInputs (run.stateAt n).profile (profilePins (run.stateAt n) (run.pins n))

theorem rateAt_ctrl (now : run.tick n = true) :
    run.rateAt (n + 1) = RateSwitch.step defaults (run.rateAt n) (run.inputsAt n) := by
  unfold rateAt
  rw [stateAt_ctrl now]
  cases resets : (run.pins n).ctrlRst with
  | true =>
      rw [(stepCtrl_cleared (show (profilePins _ _).ctrlRst = true from resets)).2.2.2]
      exact (if_pos resets).symm
  | false => exact stepCtrl_rate (show (profilePins _ _).ctrlRst = false from resets)

theorem rateAt_other (idle : run.tick n = false) : run.rateAt (n + 1) = run.rateAt n := by
  unfold rateAt
  rcases stateAt_other idle with same | ⟨ctrlRst, same⟩
  · rw [same]
  · rw [same, stepTx_rate]

theorem shownAt_other (idle : run.tick n = false) : run.shownAt (n + 1) = run.shownAt n := by
  have idleInside := (startup_tick run (Nat.lt_succ_self n)).trans idle
  obtain ⟨initWait, bypass, same⟩ := Run.stateAt_idle idleInside
  rw [shownAt_eq run (Nat.le_refl (n + 1)), shownAt_eq run (Nat.le_succ n)]
  unfold Run.shownAt
  rw [same]

/-- An edge at which the rate switch resets the GT resets the start-up machine. -/
theorem reset_of_asserted (now : run.tick n = true)
    (reset : (run.rateAt n).rateGtTxReset = true) :
    run.shownAt (n + 1) = TxStartupFsm.Sequencer.softReset := by
  have nowInside := (startup_tick run (Nat.lt_succ_self n)).trans now
  obtain ⟨i, stable⟩ := Run.tick_iff.mp nowInside
  have same := startup_pins run (Nat.lt_succ_self n) now
  rw [Run.pins_stable stable] at same
  have soft : i.softReset = true := by
    rw [same]
    change ((run.pins n).ctrlRst || (run.rateAt n).rateGtTxReset) = true
    rw [reset, Bool.or_true]
  rw [shownAt_eq run (Nat.le_refl (n + 1))]
  unfold Run.shownAt
  rw [Run.stateAt_stable stable]
  exact stepStable_reset soft

/-! ## A switch behind its DRP programming -/

/-- How long the locks may take from the release of the resets on. -/
def lockTime (l : Latency) : Nat := max (l.total + 68) 1025

/-- `RATE_RELEASE_RESET` has not had its edge yet. -/
structure Releasing (run : WizardRun) (r n : Nat) : Prop where
  state : (run.rateAt n).rateState = .releaseReset
  reset : (run.rateAt n).rateGtTxReset = true
  now : time run.tick n = time run.tick r + 1

/-- The switch waits for the locks, with the resets released at some event. -/
structure Locking (run : WizardRun) (l : Latency) (r first n : Nat) : Prop where
  after : r < first ∧ first ≤ n
  began : time run.tick first = time run.tick r + 2
  begins : (run.shownAt first).txState = .init
  since : ∀ event, first ≤ event → event ≤ n →
    (run.rateAt event).rateGtTxReset = false ∧ (run.rateAt event).rateMmcmReset = false
  wait : ((run.rateAt n).rateState = .waitMmcmResetRelease ∧
      (run.rateAt n).timeoutCount.toNat ≤ 1024 ∧
      time run.tick n = time run.tick first + (run.rateAt n).timeoutCount.toNat) ∨
    ((run.rateAt n).rateState = .waitLock ∧
      time run.tick n = time run.tick first + 1025 + (run.rateAt n).timeoutCount.toNat ∧
      time run.tick n ≤ time run.tick first + lockTime l)

/-- The switch verifies the new rate. -/
structure Settled (run : WizardRun) (l : Latency) (r n : Nat) : Prop where
  state : (run.rateAt n).rateState = .verifyRate
  counted : (run.rateAt n).verifyCount.toNat ≤ 100000
  now : time run.tick n ≤
    time run.tick r + 3 + lockTime l + (run.rateAt n).verifyCount.toNat

/-- The edge that ends the verification: the target rate is current, or the clock was wrong. -/
structure Verdict (run : WizardRun) (k : Nat) : Prop where
  now : run.tick k = true
  state : (run.rateAt k).rateState = .verifyRate
  verdict : ((run.rateAt (k + 1)).rateState = .done ∧
      (run.rateAt (k + 1)).currentRateId = (run.rateAt k).target.targetRateId) ∨
    ((run.rateAt (k + 1)).rateState = .error ∧
      ((run.rateAt (k + 1)).rateErrorCode = rateErrTxusrclk2NotAlive ∨
        (run.rateAt (k + 1)).rateErrorCode = rateErrTxusrclk2FreqOutOfWindow))

/-- Where a switch can be that has programmed its rate. -/
def OnTrack (run : WizardRun) (l : Latency) (r n : Nat) : Prop :=
  run.Releasing r n ∨ (∃ first, run.Locking l r first n) ∨ run.Settled l r n ∨
    ∃ k, r < k ∧ k < n ∧ run.Verdict k

theorem OnTrack.idle (onTrack : run.OnTrack l r n) (idle : run.tick n = false) :
    run.OnTrack l r (n + 1) := by
  have same := rateAt_other idle
  have still := time_idle idle
  rcases onTrack with releasing | ⟨first, held⟩ | settled | ⟨k, after, before, verdict⟩
  · left
    refine ⟨?_, ?_, ?_⟩
    · rw [same]
      exact releasing.state
    · rw [same]
      exact releasing.reset
    · rw [still]
      exact releasing.now
  · refine Or.inr (Or.inl ⟨first, ⟨held.after.1, Nat.le_succ_of_le held.after.2⟩, held.began,
      held.begins, ?_, ?_⟩)
    · intro event since below
      rcases Nat.lt_or_eq_of_le below with earlier | now
      · exact held.since event since (Nat.le_of_lt_succ earlier)
      · rw [now, same]
        exact held.since n held.after.2 (Nat.le_refl n)
    · rw [same, still]
      exact held.wait
  · refine Or.inr (Or.inr (Or.inl ⟨?_, ?_, ?_⟩))
    · rw [same]
      exact settled.state
    · rw [same]
      exact settled.counted
    · rw [same, still]
      exact settled.now
  · exact Or.inr (Or.inr (Or.inr ⟨k, after, Nat.lt_succ_of_lt before, verdict⟩))

section Tick

variable (now : run.tick n = true) (running : (run.pins n).ctrlRst = false)

include now

/-- In the states that wait for the locks the rate switch resets nothing. -/
theorem rateAt_released (inside : locking (run.rateAt (n + 1)).rateState = true) :
    (run.rateAt (n + 1)).rateGtTxReset = false ∧ (run.rateAt (n + 1)).rateMmcmReset = false := by
  rw [rateAt_ctrl now] at inside ⊢
  exact resetOrder_step.released inside

include running

theorem Releasing.next (releasing : run.Releasing r n) (after : r < n) :
    run.Locking l r (n + 1) (n + 1) := by
  have step := rateAt_ctrl now
  obtain ⟨state, count⟩ :=
    @step_releasing defaults (run.rateAt n) (run.inputsAt n) running releasing.state
  rw [← step] at state count
  refine ⟨⟨Nat.lt_succ_of_lt after, Nat.le_refl _⟩, ?_, ?_, ?_, ?_⟩
  · rw [time_tick now, releasing.now]
  · rw [reset_of_asserted now releasing.reset]
    rfl
  · intro event since before
    rw [Nat.le_antisymm before since]
    exact rateAt_released now (by rw [state]; rfl)
  · left
    rw [state, count]
    exact ⟨rfl, by decide, rfl⟩

theorem Locking.next (held : run.Locking l r first n) (small : l.total ≤ 5000000)
    (late : (run.rateAt n).rateState = .waitLock →
      time run.tick first + l.total + 68 ≤ time run.tick n → ready (run.inputsAt n) = true) :
    run.Locking l r first (n + 1) ∨ run.Settled l r (n + 1) := by
  have step := rateAt_ctrl now
  have counted := time_tick now
  have began := held.began
  have bound : 1025 ≤ lockTime l := Nat.le_max_right _ _
  have enough : l.total + 68 ≤ lockTime l := Nat.le_max_left _ _
  have stays : locking (run.rateAt (n + 1)).rateState = true →
      ((run.rateAt (n + 1)).rateState = .waitMmcmResetRelease ∧
          (run.rateAt (n + 1)).timeoutCount.toNat ≤ 1024 ∧
          time run.tick (n + 1) = time run.tick first + (run.rateAt (n + 1)).timeoutCount.toNat) ∨
        ((run.rateAt (n + 1)).rateState = .waitLock ∧
          time run.tick (n + 1) =
            time run.tick first + 1025 + (run.rateAt (n + 1)).timeoutCount.toNat ∧
          time run.tick (n + 1) ≤ time run.tick first + lockTime l) →
      run.Locking l r first (n + 1) := by
    intro inside wait
    refine ⟨⟨held.after.1, Nat.le_succ_of_le held.after.2⟩, began, held.begins, ?_, wait⟩
    intro event since before
    rcases Nat.lt_or_eq_of_le before with earlier | same
    · exact held.since event since (Nat.le_of_lt_succ earlier)
    · rw [same]
      exact rateAt_released now inside
  rcases held.wait with ⟨state, few, at_⟩ | ⟨state, at_, inTime⟩
  · by_cases early : (run.rateAt n).timeoutCount < defaults.resetHoldCycles
    · have next := @step_resetReleasing defaults (run.rateAt n) (run.inputsAt n) running state early
      have place := toNat_succ early
      have below : (run.rateAt n).timeoutCount.toNat < 1024 := BitVec.lt_def.mp early
      rw [← step] at next
      have stateNext : (run.rateAt (n + 1)).rateState = .waitMmcmResetRelease := by
        rw [next]
        exact state
      have countNext : (run.rateAt (n + 1)).timeoutCount =
          (run.rateAt n).timeoutCount + 1#32 := by rw [next]
      refine Or.inl (stays (by rw [stateNext]; rfl) (Or.inl ⟨stateNext, ?_, ?_⟩))
      · rw [countNext, place]
        omega
      · rw [countNext, place]
        omega
    · obtain ⟨stateNext, countNext⟩ :=
        @step_released defaults (run.rateAt n) (run.inputsAt n) running state early
      rw [← step] at stateNext countNext
      have full : ¬ (run.rateAt n).timeoutCount.toNat < 1024 := fun below =>
        early (BitVec.lt_def.mpr below)
      refine Or.inl (stays (by rw [stateNext]; rfl) (Or.inr ⟨stateNext, ?_, ?_⟩))
      · rw [countNext, BitVec.toNat_zero]
        omega
      · omega
  · cases all : ready (run.inputsAt n) with
    | true =>
        obtain ⟨stateNext, countNext⟩ :=
          @step_locked defaults (run.rateAt n) (run.inputsAt n) running state all
        rw [← step] at stateNext countNext
        right
        refine ⟨stateNext, ?_, ?_⟩
        · rw [countNext]
          decide
        · rw [countNext, BitVec.toNat_zero]
          omega
    | false =>
        have waiting : time run.tick n < time run.tick first + l.total + 68 := by
          by_contra tooLate
          rw [late state (Nat.le_of_not_lt tooLate)] at all
          exact Bool.noConfusion all
        have early : (run.rateAt n).timeoutCount < defaults.lockTimeoutCycles := by
          apply BitVec.lt_def.mpr
          change (run.rateAt n).timeoutCount.toNat < 5000000
          omega
        obtain ⟨stateNext, countNext⟩ :=
          @step_unlocked defaults (run.rateAt n) (run.inputsAt n) running state all early
        rw [← step] at stateNext countNext
        have place := toNat_succ early
        refine Or.inl (stays (by rw [stateNext]; rfl) (Or.inr ⟨stateNext, ?_, ?_⟩))
        · rw [countNext, place]
          omega
        · omega

theorem Settled.next (settled : run.Settled l r n) :
    run.Settled l r (n + 1) ∨ run.Verdict n := by
  have step := rateAt_ctrl now
  have counted := time_tick now
  have soFar := settled.now
  by_cases early : (run.rateAt n).verifyCount < defaults.verifySettleCycles
  · have next := @step_settling defaults (run.rateAt n) (run.inputsAt n) running settled.state early
    have place := toNat_succ early
    have below : (run.rateAt n).verifyCount.toNat < 100000 := BitVec.lt_def.mp early
    rw [← step] at next
    have countNext : (run.rateAt (n + 1)).verifyCount = (run.rateAt n).verifyCount + 1#32 := by
      rw [next]
    refine Or.inl ⟨?_, ?_, ?_⟩
    · rw [next]
      exact settled.state
    · rw [countNext, place]
      exact below
    · rw [countNext, place]
      omega
  · have verdict := @step_verdict defaults (run.rateAt n) (run.inputsAt n) running settled.state early
    rw [← step] at verdict
    exact Or.inr ⟨now, settled.state, verdict⟩

end Tick

section Whole

variable (hardware : run.Hardware r l) (fits : l.Fits) (small : l.total ≤ 5000000)
  (programmed : (run.rateAt r).rateState = .programMmcmDrp)
  (release : (run.rateAt (r + 1)).rateState = .releaseReset)
  (calm : ∀ event, r < event → event < last →
    run.edge event ≠ .ctrlRst ∧ (run.tick event = true → (run.pins event).ctrlRst = false))

include hardware fits small programmed release calm

/-- On responsive hardware a switch that has programmed its rate stays on its track. -/
theorem onTrack_run (after : r < n) (inside : n ≤ last) : run.OnTrack l r n := by
  induction n with
  | zero => exact absurd after (Nat.not_lt_zero r)
  | succ n ih =>
      rcases Nat.lt_or_eq_of_le (Nat.le_of_lt_succ after) with earlier | same
      · have onTrack := ih earlier (Nat.le_of_succ_le inside)
        cases now : run.tick n with
        | false => exact onTrack.idle now
        | true =>
            have running := (calm n earlier inside).2 now
            rcases onTrack with releasing | ⟨first, held⟩ | settled | ⟨k, later, before, verdict⟩
            · exact Or.inr (Or.inl ⟨n + 1, releasing.next now running earlier⟩)
            · have locked := held.next now running small ?_
              · rcases locked with held | settled
                · exact Or.inr (Or.inl ⟨first, held⟩)
                · exact Or.inr (Or.inr (Or.inl settled))
              · intro _ tooLate
                have since := Nat.le_of_lt held.after.1
                have unreset : run.Unreset first n :=
                  ⟨fun event begun below => calm event (Nat.lt_of_lt_of_le held.after.1 begun)
                      (Nat.lt_of_lt_of_le below (Nat.le_of_succ_le inside)),
                    fun event begun below => held.since event begun (Nat.le_of_lt below)⟩
                obtain ⟨up, mmcm, cpll, done⟩ := ready_late (hardware.since since) unreset fits
                  held.begins (Nat.le_refl n) tooLate
                change ((run.stateAt n).profile.txMmcmLockedSync &&
                  (run.stateAt n).profile.cplllockSync &&
                  (run.stateAt n).profile.txresetdoneSync &&
                  (run.stateAt n).profile.gtReadyCtrl) = true
                rw [up, mmcm, cpll, done]
                rfl
            · rcases settled.next now running with settled | verdict
              · exact Or.inr (Or.inr (Or.inl settled))
              · exact Or.inr (Or.inr (Or.inr ⟨n, earlier, Nat.lt_succ_self n, verdict⟩))
            · exact Or.inr (Or.inr (Or.inr ⟨k, later, Nat.lt_succ_of_lt before, verdict⟩))
      · subst same
        have now : run.tick r = true := by
          cases idle : run.tick r with
          | true => rfl
          | false =>
              rw [rateAt_other idle, programmed] at release
              exact nomatch release
        have step := rateAt_ctrl now
        rw [step] at release
        have reset := step_programmed programmed release
        rw [← step] at release reset
        exact Or.inl ⟨release, reset, time_tick now⟩

/-- No interlock: a switch that has programmed its rate on responsive hardware is under way to
the verification of the rate for a bounded time, and then it has ended there. -/
theorem switch_not_interlocked (after : r < n) (inside : n ≤ last) :
    (((run.rateAt n).rateState = .releaseReset ∨
        locking (run.rateAt n).rateState = true ∨
        (run.rateAt n).rateState = .verifyRate) ∧
      time run.tick n ≤ time run.tick r + lockTime l + 100003) ∨
      ∃ k, r < k ∧ k < n ∧ run.Verdict k := by
  have onTrack := onTrack_run hardware fits small programmed release calm after inside
  have bound : 1025 ≤ lockTime l := Nat.le_max_right _ _
  rcases onTrack with releasing | ⟨first, held⟩ | settled | ended
  · have now := releasing.now
    exact Or.inl ⟨Or.inl releasing.state, by omega⟩
  · have began := held.began
    left
    rcases held.wait with ⟨state, few, at_⟩ | ⟨state, _, inTime⟩
    · refine ⟨Or.inr (Or.inl ?_), by omega⟩
      rw [state]
      rfl
    · refine ⟨Or.inr (Or.inl ?_), by omega⟩
      rw [state]
      rfl
  · have counted := settled.counted
    have now := settled.now
    exact Or.inl ⟨Or.inr (Or.inr settled.state), by omega⟩
  · exact Or.inr ended

end Whole

/-! ### Hardware that answers at once -/

/-- A request for 1000M whose DRP accesses are answered at once; the other inputs show a GT
without locks. -/
def promptInputs : RateSwitch.Inputs :=
  { rst := false
    gpioCtrl := 0xc000#32
    gpioStatus := 0#32
    cplllockSync := false
    txresetdoneSync := false
    txMmcmLockedSync := false
    gtReadyCtrl := false
    txusrclk2AliveAxi := false
    txusrclk2FreqCounterAxi := 0#32
    gtDrpDo := 0x0020#16
    gtDrpRdy := true
    mmcmDrpRdy := true }

/-- Up to `RATE_WAIT_LOCK` the switch is blind for the GT. -/
theorem step_blind {s : RateSwitch.State} (blind : s.rateState ≠ .waitLock)
    (early : s.rateState ≠ .verifyRate) (cplllock txresetdone txMmcmLocked ready alive : Bool)
    (count : BitVec 32) :
    RateSwitch.step defaults s
        { promptInputs with
          cplllockSync := cplllock, txresetdoneSync := txresetdone
          txMmcmLockedSync := txMmcmLocked, gtReadyCtrl := ready
          txusrclk2AliveAxi := alive, txusrclk2FreqCounterAxi := count } =
      RateSwitch.step defaults s promptInputs := by
  unfold RateSwitch.step stepBranch
  cases state : s.rateState with
  | waitLock => exact absurd state blind
  | verifyRate => exact absurd state early
  | _ => rfl

/-- The inputs of the switch on prompt hardware. -/
theorem promptWizard_inputs (n : Nat) :
    ∃ cplllock txresetdone txMmcmLocked ready alive count,
      (promptWizard 0xc000#32).inputsAt n =
        { promptInputs with
          cplllockSync := cplllock, txresetdoneSync := txresetdone
          txMmcmLockedSync := txMmcmLocked, gtReadyCtrl := ready
          txusrclk2AliveAxi := alive, txusrclk2FreqCounterAxi := count } := by
  unfold inputsAt
  rw [promptWizard_pins]
  exact ⟨_, _, _, _, _, _, rfl⟩

/-- The switch while it holds the resets. -/
theorem promptWizard_held {count : Nat} (bound : count ≤ 1024) :
    (promptWizard 0xc000#32).rateAt (5 + count) =
      { (promptWizard 0xc000#32).rateAt 5 with resetHoldCount := BitVec.ofNat 32 count } := by
  induction count with
  | zero => rfl
  | succ count ih =>
      have below : BitVec.ofNat 32 count < defaults.resetHoldCycles := by
        rw [BitVec.lt_def, BitVec.toNat_ofNat, Nat.mod_eq_of_lt (by omega)]
        exact bound
      obtain ⟨_, _, _, _, _, _, inputs⟩ := promptWizard_inputs (5 + count)
      change (promptWizard 0xc000#32).rateAt (5 + count + 1) = _
      rw [rateAt_ctrl rfl, ih (Nat.le_of_succ_le bound), inputs, step_holding rfl rfl below,
        show BitVec.ofNat 32 (count + 1) = BitVec.ofNat 32 count + 1#32 from
          BitVec.ofNat_add count 1]
      rfl

/-- The switch from the end of that hold on. -/
def promptSwitch (n : Nat) : RateSwitch.State :=
  trace (fun s _ => RateSwitch.step defaults s promptInputs)
    { (promptWizard 0xc000#32).rateAt 5 with resetHoldCount := 1024#32 } (fun _ => ()) n

theorem promptSwitch_blind : ∀ n, n < 38 →
    (promptSwitch n).rateState ≠ .waitLock ∧ (promptSwitch n).rateState ≠ .verifyRate := by
  decide +kernel

theorem promptWizard_switch {n : Nat} (early : n ≤ 38) :
    (promptWizard 0xc000#32).rateAt (1029 + n) = promptSwitch n := by
  induction n with
  | zero => exact @promptWizard_held 1024 (Nat.le_refl 1024)
  | succ n ih =>
      obtain ⟨blind, verifies⟩ := promptSwitch_blind n early
      obtain ⟨_, _, _, _, _, _, inputs⟩ := promptWizard_inputs (1029 + n)
      change (promptWizard 0xc000#32).rateAt (1029 + n + 1) = _
      rw [rateAt_ctrl rfl, ih (Nat.le_of_succ_le early), inputs]
      exact step_blind blind verifies _ _ _ _ _ _

theorem promptWizard_programmed :
    ((promptWizard 0xc000#32).rateAt 1066).rateState = .programMmcmDrp ∧
      ((promptWizard 0xc000#32).rateAt 1067).rateState = .releaseReset := by
  rw [show 1066 = 1029 + 37 from rfl, show 1067 = 1029 + 38 from rfl,
    promptWizard_switch (by decide), promptWizard_switch (by decide)]
  decide +kernel

/-- A request for 1000M from reset is programmed by edge 1066. -/
theorem switch_not_interlocked_promptWizard :
    ∃ k, 1066 < k ∧ k < 200000 ∧ (promptWizard 0xc000#32).Verdict k := by
  rcases switch_not_interlocked ((promptWizard_hardware 0xc000#32).since (Nat.zero_le 1066))
      ⟨by decide, by decide, by decide⟩ (by decide)
      promptWizard_programmed.1 promptWizard_programmed.2
      (fun event _ _ => promptWizard_calm 0xc000#32 event)
      (show 1066 < 200000 by decide) (Nat.le_refl 200000) with
    ⟨_, early⟩ | ended
  · rw [promptWizard_time, promptWizard_time] at early
    exact absurd early (by decide)
  · exact ended

end WizardRun

end LaserTx.Startup
