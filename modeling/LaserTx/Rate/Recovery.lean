import LaserTx.Clocked.Trace
import LaserTx.Firmware.RateCommand
import LaserTx.Rate.Switch
import LaserTx.Rtl.GtTxProfile0

/-!
# Recovery from a failed switch

The rate switch accepts a request in `RATE_ERROR`, but `rate_error` holds the
READY bit of the status word low, and `RATE SET` issues a request only when that
bit is up.
-/

namespace LaserTx.Rate

open Clocked Firmware Rtl.GtTxProfile0
open Interaction.Program (Avoids avoids_bind avoids_run)

/-! ## Commands and the status word -/

/-- A `RATE` command that reaches `laser_gpio_rate_request`. -/
def Requests (respond : List Firmware.Event → Source → BitVec 32) (gpio : LaserGpio)
    (command : String) : Prop :=
  ∃ word, .did (.writeControl word) ∈
    ((handleRateCommand gpio command.toList).run respond []).1

/-- The action that changes the control channel. -/
def WritesControl (action : Action) : Prop := ∃ word, action = .writeControl word

/-- Every answer of the GT status GPIO has READY low. -/
def NotReady (source : Source) (answer : BitVec 32) : Prop :=
  source = .gtStatus → laserGtIsReady answer = false

theorem usleep_harmless (microseconds : Nat) : ¬ WritesControl (.usleep microseconds) := by
  rintro ⟨word, wrong⟩
  exact nomatch wrong

/-- A status without READY stops `RATE SET` before the request. -/
theorem switchRate_avoids (gpio : LaserGpio) (targetMbps rateId : BitVec 32) :
    (switchRate gpio targetMbps rateId).Avoids WritesControl NotReady := by
  intro status notReady
  change Avoids _ _ (if laserGtStatusCurrentRateId status = rateId then _ else _)
  split
  · trivial
  · refine avoids_bind (waitTxIdle_avoids (usleep_harmless 100) _) fun quiesced => ?_
    rw [notReady rfl]
    split
    · trivial
    · split
      · trivial
      · trivial

theorem handleRateCommand_avoids (gpio : LaserGpio) (cursor : Text) :
    (handleRateCommand gpio cursor).Avoids WritesControl NotReady := by
  unfold handleRateCommand handleRateStatus handleRatePlan handleRateSet
  repeat' split
  all_goals first | exact switchRate_avoids _ _ _ | exact fun _ _ => trivial | trivial

theorem not_requests {respond : List Firmware.Event → Source → BitVec 32}
    (notReady : ∀ history, laserGtIsReady (respond history .gtStatus) = false)
    (gpio : LaserGpio) (command : String) : ¬ Requests respond gpio command := by
  rintro ⟨word, issued⟩
  refine avoids_run (handleRateCommand_avoids gpio command.toList) ?_ List.not_mem_nil
    ⟨word, rfl⟩ issued
  rintro history source rfl
  exact notReady history

/-! ## READY in the error state -/

/-- The wrapper before edge `n`, from reset. -/
def profileAt (edges : Nat → Edge) (n : Nat) : State :=
  trace step reset edges n

def IsTx (edge : Edge) : Prop := ∃ ctrlRst, edge = .tx ctrlRst

/-- `rate_error` is up, and has been at two edges of `txusrclk2` or more. -/
def FailedSettled (edges : Nat → Edge) (n : Nat) : Prop :=
  ∃ first second, first < second ∧ second < n ∧ IsTx (edges first) ∧ IsTx (edges second) ∧
    ∀ m, first ≤ m → m ≤ n → (profileAt edges m).rate.rateError = true

section Ready

variable {s : State}

theorem stepCtrl_rate {pins : Pins} (running : pins.ctrlRst = false) :
    (stepCtrl s pins).rate =
      Rtl.RateSwitch.step Rtl.RateSwitch.defaults s.rate (rateInputs s pins) := by
  unfold stepCtrl stepReady
  rw [running]
  repeat' split
  all_goals first | rfl | exact absurd (by assumption) Bool.false_ne_true

theorem stepCtrl_cleared {pins : Pins} (resets : pins.ctrlRst = true) :
    (stepCtrl s pins).measurement = Measurement.reset ∧ (stepCtrl s pins).readyCount = 0#7 ∧
      (stepCtrl s pins).gtReadyCtrl = false ∧
      (stepCtrl s pins).rate = Rtl.RateSwitch.reset Rtl.RateSwitch.defaults := by
  unfold stepCtrl
  rw [resets, if_pos rfl]
  exact ⟨rfl, rfl, rfl, rfl⟩

theorem stepTx_rate (ctrlRst : Bool) : (stepTx s ctrlRst).rate = s.rate := by
  cases ctrlRst with
  | true => rfl
  | false => rfl

theorem stepTx_failed (failed : s.rate.rateError = true) (ctrlRst : Bool) :
    (stepTx s ctrlRst).gtReadyMetaTx = false ∧
      (s.gtReadyMetaTx = false → (stepTx s ctrlRst).gtReadyTx = false) := by
  unfold stepTx gtReadyEffectiveCtrl
  rw [failed]
  cases ctrlRst with
  | true => exact ⟨rfl, fun _ => rfl⟩
  | false => exact ⟨Bool.and_false _, id⟩

theorem stepCtrl_tx (pins : Pins) :
    (stepCtrl s pins).gtReadyMetaTx = s.gtReadyMetaTx ∧
      (stepCtrl s pins).gtReadyTx = s.gtReadyTx := by
  unfold stepCtrl stepReady
  repeat' split
  all_goals exact ⟨rfl, rfl⟩

/-- While `rate_error` is up the ready synchroniser only falls. -/
theorem step_failed (failed : s.rate.rateError = true) (edge : Edge)
    (meta_ : s.gtReadyMetaTx = false) :
    (step s edge).gtReadyMetaTx = false ∧
      (s.gtReadyTx = false → (step s edge).gtReadyTx = false) := by
  cases edge with
  | ctrl pins =>
      obtain ⟨sameMeta, sameReady⟩ := @stepCtrl_tx s pins
      exact ⟨sameMeta.trans meta_, sameReady.trans⟩
  | tx ctrlRst =>
      obtain ⟨low, ready⟩ := stepTx_failed failed ctrlRst
      exact ⟨low, fun _ => ready meta_⟩

end Ready

theorem profile_ctrlEdge {edges : Nat → Edge} {n : Nat} {pins : Pins}
    (edge : edges n = .ctrl pins) :
    profileAt edges (n + 1) = stepCtrl (profileAt edges n) pins := by
  change step (profileAt edges n) (edges n) = _
  rw [edge]
  rfl

theorem profile_txEdge {edges : Nat → Edge} {n : Nat} {ctrlRst : Bool}
    (edge : edges n = .tx ctrlRst) :
    profileAt edges (n + 1) = stepTx (profileAt edges n) ctrlRst := by
  change step (profileAt edges n) (edges n) = _
  rw [edge]
  rfl

/-- Two edges of `txusrclk2` take READY down. -/
theorem ready_low {edges : Nat → Edge} {n : Nat} (settled : FailedSettled edges n) :
    (profileAt edges n).gtReadyTx = false := by
  obtain ⟨first, second, order, beforeEnd, ⟨firstRst, firstTx⟩, ⟨secondRst, secondTx⟩, failed⟩ :=
    settled
  have metaLow : ∀ m, first < m → m ≤ n → (profileAt edges m).gtReadyMetaTx = false := by
    intro m after within
    have beforeFirst : first ≤ n := Nat.le_trans (Nat.le_of_lt after) within
    refine @trace_since _ _ _ _ _ (fun s : State => s.gtReadyMetaTx = false) first m ?_ ?_ after
    · rw [trace_succ, firstTx]
      exact (stepTx_failed (failed first (Nat.le_refl first) beforeFirst) firstRst).1
    · intro edge later below low
      have up := failed edge (Nat.le_of_lt later) (Nat.le_trans (Nat.le_of_lt below) within)
      exact (step_failed up (edges edge) low).1
  refine @trace_since _ _ _ _ _ (fun s : State => s.gtReadyTx = false) second n ?_ ?_ beforeEnd
  · rw [trace_succ, secondTx]
    have up := failed second (Nat.le_of_lt order) (Nat.le_of_lt beforeEnd)
    exact (stepTx_failed up secondRst).2 (metaLow second order (Nat.le_of_lt beforeEnd))
  · intro edge later below low
    have sinceFirst := Nat.lt_trans order later
    have up := failed edge (Nat.le_of_lt sinceFirst) (Nat.le_of_lt below)
    exact (step_failed up (edges edge) (metaLow edge sinceFirst (Nat.le_of_lt below))).2 low

theorem status_notReady {s : State} (low : s.gtReadyTx = false) (ctrlRst : Bool) :
    laserGtIsReady (gtStatusOut s ctrlRst) = false := by
  have single : ∀ i, i < 32 → laserGtStatusReady.getLsbD i = decide (i = 2) := by decide
  unfold laserGtIsReady
  rw [anySet_single single (by decide), gtStatusOut_ready, low]

/-! ### A quiesce timeout -/

/-- A locked GT, a busy transmitter and a standing request for 1000M. -/
def busyPins : Pins :=
  { ctrlRst := false, gpioCtrlAxi := 0xc000#32, gpioStatusAxi := 0x8#32, cplllock := true
    txMmcmLocked := true, txresetdone := true, gtDrpdo := 0x0030#16, gtDrprdy := true
    mmcmDrprdy := true }

theorem busyPins_busy (s : State) :
    Rtl.RateSwitch.laserIdle (rateInputs s busyPins) = false := by
  change (!(0x8#32).getLsbD 3 || (0x8#32).getLsbD 4) = false
  decide

/-- The request latch reads no register of the wrapper. -/
theorem busyPins_latch (s : State) (rate : Rtl.RateSwitch.State) :
    Rtl.RateSwitch.latch Rtl.RateSwitch.defaults rate (rateInputs s busyPins) =
      Rtl.RateSwitch.latch Rtl.RateSwitch.defaults rate (rateInputs reset busyPins) := rfl

/-- The transmitter stays busy until the switch has failed; then `txusrclk2` runs. -/
def quiesceTimeoutRun (n : Nat) : Edge :=
  if n < 1000005 then .ctrl busyPins else .tx false

/-- The rate switch while it waits for the transmitter. -/
def quiescing (timeoutCount : BitVec 32) : Rtl.RateSwitch.State :=
  { Rtl.RateSwitch.reset Rtl.RateSwitch.defaults with
    rateReqToggleD := true
    target := Rtl.RateSwitch.targetFor Rtl.RateSwitch.defaults Rtl.RateSwitch.rateId1000M
    timeoutCount := timeoutCount
    rateState := .quiesceTx
    rateBusy := true
    applyEnableBlocked := true
    txQuiesceReq := true }

theorem profileAt_ctrl {n : Nat} (busy : quiesceTimeoutRun n = .ctrl busyPins) :
    (profileAt quiesceTimeoutRun (n + 1)).rate =
      Rtl.RateSwitch.step Rtl.RateSwitch.defaults (profileAt quiesceTimeoutRun n).rate
        (rateInputs (profileAt quiesceTimeoutRun n) busyPins) := by
  rw [profile_ctrlEdge busy]
  exact stepCtrl_rate rfl

theorem quiesceTimeoutRun_waiting {count : Nat} (bound : count ≤ 1000000) :
    (profileAt quiesceTimeoutRun (4 + count)).rate = quiescing (BitVec.ofNat 32 count) := by
  induction count with
  | zero => rfl
  | succ count ih =>
      have busy : quiesceTimeoutRun (4 + count) = .ctrl busyPins := if_pos (by omega)
      have small : (BitVec.ofNat 32 count).toNat = count := by
        rw [BitVec.toNat_ofNat]
        exact Nat.mod_eq_of_lt (by omega)
      have early : BitVec.ofNat 32 count < Rtl.RateSwitch.defaults.txQuiesceTimeout := by
        rw [BitVec.lt_def, small]
        exact bound
      have next : BitVec.ofNat 32 (count + 1) = BitVec.ofNat 32 count + 1#32 :=
        BitVec.ofNat_add count 1
      refine (profileAt_ctrl busy).trans ?_
      rw [ih (Nat.le_of_succ_le bound), step_quiesceWaiting rfl rfl (busyPins_busy _) early, next,
        busyPins_latch]
      rfl

/-- The timeout, and everything after it. -/
theorem quiesceTimeoutRun_failed (later : Nat) :
    (profileAt quiesceTimeoutRun (1000005 + later)).rate.rateError = true := by
  induction later with
  | zero =>
      have busy : quiesceTimeoutRun 1000004 = .ctrl busyPins := if_pos (by decide)
      have waited : (profileAt quiesceTimeoutRun 1000004).rate = quiescing 1000000#32 :=
        @quiesceTimeoutRun_waiting 1000000 (Nat.le_refl 1000000)
      have expired := profileAt_ctrl busy
      have late := step_quiesceExpired (p := Rtl.RateSwitch.defaults) (s := quiescing 1000000#32)
        (i := rateInputs (profileAt quiesceTimeoutRun 1000004) busyPins) rfl rfl
        (busyPins_busy _) (by decide)
      rw [← waited] at late
      rw [show 1000005 + 0 = 1000004 + 1 from rfl, expired, late]
      rfl
  | succ later ih =>
      have running : quiesceTimeoutRun (1000005 + later) = .tx false := if_neg (by omega)
      change (step (profileAt quiesceTimeoutRun (1000005 + later))
        (quiesceTimeoutRun (1000005 + later))).rate.rateError = _
      rw [running]
      change (stepTx (profileAt quiesceTimeoutRun (1000005 + later)) false).rate.rateError = _
      rw [stepTx_rate, ih]

theorem quiesceTimeoutRun_settled : FailedSettled quiesceTimeoutRun 1000007 := by
  have tx : ∀ n, ¬ n < 1000005 → IsTx (quiesceTimeoutRun n) := fun n late => ⟨false, if_neg late⟩
  refine ⟨1000005, 1000006, by decide, by decide, tx _ (by decide), tx _ (by decide), ?_⟩
  intro m after _
  obtain ⟨later, rfl⟩ := Nat.exists_eq_add_of_le after
  exact quiesceTimeoutRun_failed later

/-! ## The dead end -/

/-- At every failed and settled state one of the two commands goes through, whatever
the control shadow is and whatever else the firmware reads. -/
def RecoverableOverUdp (edges : Nat → Edge) : Prop :=
  ∀ n, FailedSettled edges n → ∀ ctrlRst respond gpio,
    (∀ history, respond history .gtStatus = gtStatusOut (profileAt edges n) ctrlRst) →
    (∀ history, txIdle (respond history .gpioStatus) = true) →
    Requests respond gpio "SET 500" ∨ Requests respond gpio "SET 1000"

/-- After a failed switch neither rate can be requested over UDP. -/
theorem failed_switch_unrecoverable (edges : Nat → Edge) (n : Nat)
    (settled : FailedSettled edges n) (ctrlRst : Bool)
    (respond : List Firmware.Event → Source → BitVec 32)
    (answers : ∀ history, respond history .gtStatus = gtStatusOut (profileAt edges n) ctrlRst)
    (gpio : LaserGpio) :
    ¬ (Requests respond gpio "SET 500" ∨ Requests respond gpio "SET 1000") := by
  have notReady : ∀ history, laserGtIsReady (respond history .gtStatus) = false := by
    intro history
    rw [answers]
    exact status_notReady (ready_low settled) ctrlRst
  rintro (slow | fast)
  · exact not_requests notReady gpio _ slow
  · exact not_requests notReady gpio _ fast

/-- A board that answers every read by the status word of a failed run, or zero. -/
def failedBoard (_ : List Firmware.Event) (source : Source) : BitVec 32 :=
  if source = .gtStatus then gtStatusOut (profileAt quiesceTimeoutRun 1000007) false else 0#32

theorem failed_switch_unrecoverable_quiesceTimeout :
    ¬ (Requests failedBoard { controlShadow := 0xc000#32 } "SET 500" ∨
      Requests failedBoard { controlShadow := 0xc000#32 } "SET 1000") :=
  failed_switch_unrecoverable quiesceTimeoutRun 1000007 quiesceTimeoutRun_settled false
    failedBoard (fun _ => if_pos rfl) { controlShadow := 0xc000#32 }

/-- After the quiesce timeout both commands are refused. -/
theorem quiesceTimeout_deadEnd : ¬ RecoverableOverUdp quiesceTimeoutRun := by
  intro recoverable
  have low := ready_low quiesceTimeoutRun_settled
  have notReady (history : List Firmware.Event) :
      laserGtIsReady (failedBoard history .gtStatus) = false := by
    unfold failedBoard
    rw [if_pos rfl]
    exact status_notReady low false
  have answers (history : List Firmware.Event) : failedBoard history .gtStatus =
    gtStatusOut (profileAt quiesceTimeoutRun 1000007) false := if_pos rfl
  have idle (history : List Firmware.Event) : txIdle (failedBoard history .gpioStatus) = true := by
    unfold failedBoard
    rw [if_neg Source.noConfusion]
    decide
  rcases recoverable 1000007 quiesceTimeoutRun_settled false failedBoard
    { controlShadow := 0xc000#32 } answers idle with slow | fast
  · exact not_requests notReady _ _ slow
  · exact not_requests notReady _ _ fast

end LaserTx.Rate
