import LaserTx.Rate.FreshMeasurement
import LaserTx.Startup.Wizard

/-!
# The GT becomes ready

`gt_ready_ctrl` follows the locks and the completed start-up 67 edges behind.  On hardware
that answers in time it is high when the start-up has had its time, and it stays high for
as long as nothing resets the GT.
-/

namespace LaserTx.Startup

open Clocked Rate Rtl Rtl.GtWizard

/-- The three signals in front of the ready counter. -/
def Locked (pins : GtTxProfile0.Pins) : Bool :=
  !pins.ctrlRst && pins.cplllock && pins.txMmcmLocked && pins.txresetdone

/-- The registers of the wrapper so many edges into a lock. -/
structure Settling (s : GtTxProfile0.State) (held : Nat) : Prop where
  sampled : 1 ≤ held →
    s.cplllockMeta = true ∧ s.txMmcmLockedMeta = true ∧ s.txresetdoneMeta = true
  locks : 2 ≤ held → LocksHigh s
  counted : 2 ≤ held → held ≤ s.readyCount.toNat + 2 ∨ 64 ≤ s.readyCount.toNat
  ready : 67 ≤ held → s.gtReadyCtrl = true

theorem settling_none (s : GtTxProfile0.State) : Settling s 0 := by
  refine ⟨?_, ?_, ?_, ?_⟩
  all_goals
    intro held
    exact absurd held (by decide)

section Step

variable {s : GtTxProfile0.State} {pins : GtTxProfile0.Pins} {held : Nat}

theorem Settling.next (settling : Settling s held) (locked : Locked pins = true) :
    Settling (GtTxProfile0.stepCtrl s pins) (held + 1) := by
  unfold Locked at locked
  simp only [Bool.and_eq_true, Bool.not_eq_true'] at locked
  obtain ⟨⟨⟨running, cpll⟩, mmcm⟩, done⟩ := locked
  obtain ⟨⟨cpllMeta, mmcmMeta, doneMeta⟩, cpllSync, mmcmSync, doneSync⟩ :=
    @stepCtrl_samples s pins running
  refine ⟨fun _ => ?_, fun late => ?_, fun late => ?_, fun late => ?_⟩
  · rw [cpllMeta, mmcmMeta, doneMeta]
    exact ⟨cpll, mmcm, done⟩
  · obtain ⟨cpllHigh, mmcmHigh, doneHigh⟩ := settling.sampled (Nat.le_of_succ_le_succ late)
    unfold LocksHigh
    rw [cpllSync, mmcmSync, doneSync]
    exact ⟨mmcmHigh, cpllHigh, doneHigh⟩
  · rcases Nat.lt_or_ge held 2 with first | further
    · exact Or.inl (by omega)
    · have high := settling.locks further
      have counted := settling.counted further
      rcases stepCtrl_counts running high with ⟨early, count⟩ | ⟨full, count, _⟩
      · omega
      · rw [count]
        omega
  · have further : 2 ≤ held := by omega
    have counted := settling.counted further
    rcases stepCtrl_counts running (settling.locks further) with
      ⟨early, _⟩ | ⟨_, _, up⟩
    · omega
    · exact up

end Step

/-! ## Runs -/

namespace WizardRun

variable {run : WizardRun} {l : Latency} {n first last : Nat}

/-- What the wrapper samples at an edge. -/
def lockedAt (run : WizardRun) (n : Nat) : Bool :=
  Locked (profilePins (run.stateAt n) (run.pins n))

theorem stateAt_ctrl (now : run.tick n = true) :
    (run.stateAt (n + 1)).profile =
      GtTxProfile0.stepCtrl (run.stateAt n).profile (profilePins (run.stateAt n) (run.pins n)) := by
  rw [stateAt_succ, tick_iff.mp now]
  change (stepCtrl _ _).profile = _
  unfold stepCtrl riseBehind
  split
  · rfl
  · rfl

/-- Other events leave the wrapper as it is, but for the registers of `txusrclk2`. -/
theorem stateAt_other (idle : run.tick n = false) :
    (run.stateAt (n + 1)).profile = (run.stateAt n).profile ∨
      ∃ ctrlRst, (run.stateAt (n + 1)).profile =
        GtTxProfile0.stepTx (run.stateAt n).profile ctrlRst := by
  rw [stateAt_succ]
  cases edge : run.edge n with
  | ctrl pins =>
      unfold tick at idle
      rw [edge] at idle
      exact absurd idle Bool.noConfusion
  | tx ctrlRst => exact Or.inr ⟨ctrlRst, rfl⟩
  | user => exact Or.inl rfl
  | ctrlRst =>
      left
      change (stepCtrlRst _).profile = _
      unfold stepCtrlRst
      split
      · rfl
      · rfl

/-- In every run the wrapper is as settled as the lock is old. -/
theorem settling (run : WizardRun) (n : Nat) :
    Settling (run.stateAt n).profile (streak run.tick run.lockedAt n) := by
  induction n with
  | zero => exact settling_none _
  | succ n ih =>
      cases now : run.tick n with
      | true =>
          rw [stateAt_ctrl now]
          cases locked : run.lockedAt n with
          | true =>
              rw [streak_met now locked]
              exact ih.next locked
          | false =>
              rw [streak_broken now locked]
              exact settling_none _
      | false =>
          rw [streak_idle now]
          rcases stateAt_other now with same | ⟨ctrlRst, same⟩
          · rw [same]
            exact ih
          · rw [same]
            cases ctrlRst with
            | true => exact ⟨ih.sampled, ih.locks, ih.counted, ih.ready⟩
            | false => exact ⟨ih.sampled, ih.locks, ih.counted, ih.ready⟩

section Ready

variable (hardware : run.Hardware first l) (unreset : run.Unreset first last) (fits : l.Fits)
  (begins : (run.shownAt first).txState = .init)

include hardware unreset fits begins

/-- What the wrapper samples once the start-up has had its time. -/
theorem locked_late (inside : n < last) (now : run.tick n = true)
    (since : first ≤ n) (late : time run.tick first + l.total < time run.tick n) :
    run.lockedAt n = true := by
  have before : first ≤ last := Nat.le_trans since (Nat.le_of_lt inside)
  have responsive := hardware.responsive unreset
  have undisturbed := unreset.undisturbed
  have starts : (run.startup last).phaseAt first = .init := by
    rw [shownAt_eq run before] at begins
    exact begins
  have lateInside :
      time (run.startup last).tick first + l.total < time (run.startup last).tick n := by
    rw [startup_time run before, startup_time run (Nat.le_of_lt inside)]
    exact late
  have nowInside := (startup_tick run inside).trans now
  obtain ⟨cpll, mmcm, done⟩ :=
    Run.locks_kept responsive undisturbed fits starts inside nowInside lateInside
  have complete := (Run.complete_of_late responsive undisturbed fits starts since
    (Nat.le_of_lt inside) lateInside).2
  rw [← shownAt_eq run (Nat.le_of_lt inside)] at complete
  rw [startup_pins run inside now] at cpll mmcm done
  have finished : txFsmResetDone (run.stateAt n) = true := done_of_levels complete
  have released := (unreset.ctrlRst n since inside).2 now
  change (!(run.pins n).ctrlRst && (run.pins n).cplllock && (run.pins n).txMmcmLocked &&
    ((run.pins n).txresetdoneNative && txFsmResetDone (run.stateAt n))) = true
  change (run.pins n).cplllock = true at cpll
  change (run.pins n).txMmcmLocked = true at mmcm
  change (run.pins n).txresetdoneNative = true at done
  rw [released, cpll, mmcm, done, finished]
  rfl

/-- `gt_ready_ctrl` is high 68 edges behind the start-up, and stays high. -/
theorem ready_late (inside : n ≤ last)
    (late : time run.tick first + l.total + 68 ≤ time run.tick n) :
    (run.stateAt n).profile.gtReadyCtrl = true ∧ LocksHigh (run.stateAt n).profile := by
  obtain ⟨m, before, nowM, at_⟩ :=
    @tick_at run.tick n (time run.tick first + l.total + 1) (by omega)
  have held := @streak_of_met run.tick n m run.lockedAt (Nat.le_of_lt before)
  suffices locked : ∀ event, m ≤ event → event < n → run.tick event = true →
      run.lockedAt event = true by
    have enough := held locked
    exact ⟨(run.settling n).ready (by omega), (run.settling n).locks (by omega)⟩
  intro event after below now
  have mono := @time_mono run.tick _ _ after
  have sinceM : first ≤ m := Nat.le_of_lt (@lt_of_time run.tick _ _ (by omega))
  exact locked_late hardware unreset fits begins (Nat.lt_of_lt_of_le below inside) now
    (Nat.le_trans sinceM after) (by omega)

/-- On hardware that answers in time the GT comes up: `total` edges behind the last reset the
start-up is complete without a retry, 68 edges later `gt_ready_ctrl` is high, and both stay. -/
theorem bring_up (inside : n ≤ last) (since : first ≤ n) :
    (run.shownAt n).retryCounterInt = (run.shownAt first).retryCounterInt ∧
      (time run.tick first + l.total < time run.tick n →
        levels (run.shownAt n) = ⟨false, false, true, true, false, false, true⟩) ∧
      (time run.tick first + l.total + 68 ≤ time run.tick n →
        (run.stateAt n).profile.gtReadyCtrl = true) := by
  have before : first ≤ last := Nat.le_trans since inside
  have responsive := hardware.responsive unreset
  have undisturbed := unreset.undisturbed
  have starts : (run.startup last).phaseAt first = .init := by
    rw [shownAt_eq run before] at begins
    exact begins
  refine ⟨?_, fun late => ?_, fun late => ?_⟩
  · rw [shownAt_eq run before, shownAt_eq run inside]
    exact Run.retries_kept responsive undisturbed fits starts since inside
  · rw [shownAt_eq run inside]
    refine (Run.complete_of_late responsive undisturbed fits starts since inside ?_).2
    rw [startup_time run before, startup_time run inside]
    exact late
  · exact (ready_late hardware unreset fits begins inside late).1

end Ready

/-! ### Hardware that answers at once -/

/-- The pins that follow the outputs at once, answer every DRP access and show one control
word. -/
def promptPins (gpioCtrl : BitVec 32) (s : GtWizard.State) : Pins :=
  { ctrlRst := false
    gpioCtrlAxi := gpioCtrl
    gpioStatusAxi := 0#32
    cplllock := !s.startup.sequencer.cpllReset
    cpllrefclklost := false
    txMmcmLocked := !s.startup.sequencer.gttxresetI && !txMmcmReset s
    txresetdoneNative := !s.startup.sequencer.gttxresetI && s.startup.sequencer.txuserrdy
    gtDrpdo := 0x0020#16
    gtDrprdy := true
    mmcmDrprdy := true }

section Prompt

variable (gpioCtrl : BitVec 32)

def promptWizardState (n : Nat) : GtWizard.State :=
  trace (fun s _ => stepCtrl s (promptPins gpioCtrl s)) (powerUp GtTxProfile0.reset 0#16)
    (fun _ => ()) n

/-- A run on prompt hardware from reset. -/
def promptWizard : WizardRun :=
  { profile := GtTxProfile0.reset
    waitTimeCnt := 0#16
    edge := fun n => .ctrl (promptPins gpioCtrl (promptWizardState gpioCtrl n)) }

theorem promptWizard_stateAt (n : Nat) :
    (promptWizard gpioCtrl).stateAt n = promptWizardState gpioCtrl n := by
  induction n with
  | zero => rfl
  | succ n ih =>
      rw [stateAt_succ, ih]
      rfl

theorem promptWizard_pins (n : Nat) :
    (promptWizard gpioCtrl).pins n = promptPins gpioCtrl ((promptWizard gpioCtrl).stateAt n) := by
  rw [promptWizard_stateAt]
  rfl

theorem promptWizard_calm (n : Nat) :
    (promptWizard gpioCtrl).edge n ≠ .ctrlRst ∧
      ((promptWizard gpioCtrl).tick n = true →
        ((promptWizard gpioCtrl).pins n).ctrlRst = false) := by
  refine ⟨GtWizard.Edge.noConfusion, fun _ => ?_⟩
  rw [promptWizard_pins]
  rfl

theorem promptWizard_time (n : Nat) : time (promptWizard gpioCtrl).tick n = n := by
  induction n with
  | zero => rfl
  | succ n ih => rw [time_tick rfl, ih]

theorem promptWizard_hardware : (promptWizard gpioCtrl).Hardware 0 ⟨0, 0, 0, 0⟩ where
  refclk n _ _ := by
    rw [promptWizard_pins]
    rfl
  unlocks m n _ given _ := by
    refine ⟨m, Nat.le_refl m, Nat.le_refl _, rfl, ?_⟩
    rw [promptWizard_pins]
    change (!((promptWizard gpioCtrl).shownAt m).cpllReset) = false
    rw [given]
    rfl
  pllLocks m n _ after quiet _ now := by
    have low := quiet n after (Nat.lt_succ_self n) now
    rw [promptWizard_pins]
    change (!((promptWizard gpioCtrl).shownAt n).cpllReset) = true
    rw [low]
    rfl
  mmcmLocks m n _ after quiet _ now := by
    obtain ⟨gt, mmcm⟩ := quiet n after (Nat.lt_succ_self n) now
    rw [promptWizard_pins]
    change (!((promptWizard gpioCtrl).shownAt n).gttxresetI &&
      !txMmcmReset ((promptWizard gpioCtrl).stateAt n)) = true
    rw [gt, mmcm]
    rfl
  resetDone m n _ after ready _ now := by
    obtain ⟨gt, userrdy⟩ := ready n after (Nat.lt_succ_self n) now
    rw [promptWizard_pins]
    change (!((promptWizard gpioCtrl).shownAt n).gttxresetI &&
      ((promptWizard gpioCtrl).shownAt n).txuserrdy) = true
    rw [gt, userrdy]
    rfl

end Prompt

/-- Without a request the rate switch rests. -/
theorem step_resting {p : RateSwitch.Params} {i : RateSwitch.Inputs} (running : i.rst = false)
    (quiet : i.gpioCtrl = 0#32) :
    RateSwitch.step p (RateSwitch.reset p) i = RateSwitch.reset p := by
  have none : RateSwitch.requestEvent (RateSwitch.reset p) i = false := by
    unfold RateSwitch.requestEvent
    rw [quiet]
    rfl
  have kept : RateSwitch.latch p (RateSwitch.reset p) i = RateSwitch.reset p := by
    unfold RateSwitch.latch
    rw [none, quiet]
    rfl
  rw [step_running running, kept]
  rfl

theorem promptWizard_rate (n : Nat) :
    (promptWizard 0#32).rateAt n = RateSwitch.reset RateSwitch.defaults := by
  induction n with
  | zero => rfl
  | succ n ih =>
      have running : (profilePins ((promptWizard 0#32).stateAt n)
          ((promptWizard 0#32).pins n)).ctrlRst = false := by
        rw [promptWizard_pins]
        rfl
      unfold rateAt at ih ⊢
      rw [stateAt_ctrl rfl, stepCtrl_rate running, ih]
      apply step_resting running
      rw [promptWizard_pins]
      rfl

theorem bring_up_promptWizard :
    ((promptWizard 0#32).stateAt 2278).profile.gtReadyCtrl = true := by
  have unreset : (promptWizard 0#32).Unreset 0 2278 := by
    refine ⟨fun n _ _ => promptWizard_calm 0#32 n, fun n _ _ => ?_⟩
    rw [promptWizard_rate]
    exact ⟨rfl, rfl⟩
  apply (bring_up (promptWizard_hardware 0#32) unreset
    ⟨by decide, by decide, by decide⟩ rfl (Nat.le_refl 2278) (Nat.zero_le 2278)).2.2
  rw [promptWizard_time, promptWizard_time]
  decide

end WizardRun

end LaserTx.Startup
